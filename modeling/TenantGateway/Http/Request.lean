import TenantGateway.Http.Response
import TenantGateway.Http.Target

/-!
# Requests

A request names a method and a target. The method decides whether the answer carries its body: it does not when only the
head is asked for, nor when a tunnel was opened.
-/

namespace TenantGateway.Http

/-- A request, without its fields and its body. -/
structure Request where
  method : String
  target : Target
  deriving DecidableEq

/-- Whether a status tells success. -/
def Status.isSuccess (s : Status) : Bool := 200 ≤ s.code && s.code < 300

/-- Whether the answer to a request carries its body. -/
def Request.answersBody (r : Request) (status : Status) : Bool :=
  r.method != "HEAD" && !(r.method == "CONNECT" && status.isSuccess)

/-- The response as it is sent in answer to a request. -/
def Response.sentTo (response : Response) (r : Request) : Response :=
  if r.answersBody response.status then response else { response with body := "" }

end TenantGateway.Http
