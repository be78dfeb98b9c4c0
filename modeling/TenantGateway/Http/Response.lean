import TenantGateway.Json

/-!
# Responses

A response has a status, a body and possibly a content type. Failures answer with the reason phrase of their status and
nothing else; answers with content are JSON documents.
-/

namespace TenantGateway.Http

/-- The reason phrase of a registered status. -/
def reason? : Nat → Option String
  | 100 => "Continue"
  | 101 => "Switching Protocols"
  | 102 => "Processing"
  | 103 => "Early Hints"
  | 200 => "OK"
  | 201 => "Created"
  | 202 => "Accepted"
  | 203 => "Non Authoritative Information"
  | 204 => "No Content"
  | 205 => "Reset Content"
  | 206 => "Partial Content"
  | 207 => "Multi-Status"
  | 208 => "Already Reported"
  | 226 => "IM Used"
  | 300 => "Multiple Choices"
  | 301 => "Moved Permanently"
  | 302 => "Found"
  | 303 => "See Other"
  | 304 => "Not Modified"
  | 305 => "Use Proxy"
  | 307 => "Temporary Redirect"
  | 308 => "Permanent Redirect"
  | 400 => "Bad Request"
  | 401 => "Unauthorized"
  | 402 => "Payment Required"
  | 403 => "Forbidden"
  | 404 => "Not Found"
  | 405 => "Method Not Allowed"
  | 406 => "Not Acceptable"
  | 407 => "Proxy Authentication Required"
  | 408 => "Request Timeout"
  | 409 => "Conflict"
  | 410 => "Gone"
  | 411 => "Length Required"
  | 412 => "Precondition Failed"
  | 413 => "Payload Too Large"
  | 414 => "URI Too Long"
  | 415 => "Unsupported Media Type"
  | 416 => "Range Not Satisfiable"
  | 417 => "Expectation Failed"
  | 418 => "I'm a teapot"
  | 421 => "Misdirected Request"
  | 422 => "Unprocessable Entity"
  | 423 => "Locked"
  | 424 => "Failed Dependency"
  | 425 => "Too Early"
  | 426 => "Upgrade Required"
  | 428 => "Precondition Required"
  | 429 => "Too Many Requests"
  | 431 => "Request Header Fields Too Large"
  | 451 => "Unavailable For Legal Reasons"
  | 500 => "Internal Server Error"
  | 501 => "Not Implemented"
  | 502 => "Bad Gateway"
  | 503 => "Service Unavailable"
  | 504 => "Gateway Timeout"
  | 505 => "HTTP Version Not Supported"
  | 506 => "Variant Also Negotiates"
  | 507 => "Insufficient Storage"
  | 508 => "Loop Detected"
  | 510 => "Not Extended"
  | 511 => "Network Authentication Required"
  | _ => none

/-- A status code: a number of three digits. -/
structure Status where
  /-- The number. -/
  code : Nat
  /-- It has three digits. -/
  three_digits : 100 ≤ code ∧ code ≤ 999
  deriving DecidableEq

namespace Status

/-- The status with the given number. -/
def ofNat? (n : Nat) : Option Status :=
  if h : 100 ≤ n ∧ n ≤ 999 then some ⟨n, h⟩ else none

def ok : Status := ⟨200, by decide⟩
def badRequest : Status := ⟨400, by decide⟩
def notFound : Status := ⟨404, by decide⟩
def targetTooLong : Status := ⟨414, by decide⟩
def fieldsTooLarge : Status := ⟨431, by decide⟩
def serviceUnavailable : Status := ⟨503, by decide⟩

end Status

/-- A response. -/
structure Response where
  status : Status
  contentType : Option String
  body : String
  deriving DecidableEq

namespace Response

/-- The response that tells its status only. -/
def ofStatus (status : Status) : Response :=
  ⟨status, none, (reason? status.code).getD "error" ++ "\n"⟩

/-- The response that sends a document. -/
def ofJson (status : Status) (document : Json) : Response :=
  ⟨status, some "application/json", document.print⟩

/-- The response that a probe expects. -/
def healthy : Response := ⟨.ok, none, "ok\n"⟩

/-- The response without a body. -/
def bare (status : Status) : Response := ⟨status, none, ""⟩

end Response

end TenantGateway.Http
