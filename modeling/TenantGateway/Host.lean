import TenantGateway.Text.Blank

/-!
# Host names

The same host is written in many ways: with a port, in upper case, with a dot at the end, in brackets when it is a numeric
address. Normalisation maps all spellings of a host to one text, under which claims on it are filed and looked up.
-/

namespace TenantGateway.Host

/-- A host text without its port. A bracketed address ends at its closing bracket. Otherwise a colon and the digits after it
are dropped when the colon is the only one, so that a bare numeric address with several colons stays whole. -/
def withoutPort (cs : List Char) : List Char :=
  match cs with
  | '[' :: rest => rest.takeWhile (· != ']')
  | _ =>
    match cs.dropWhile (· != ':') with
    | ':' :: port => if port.all Char.isDigit then cs.takeWhile (· != ':') else cs
    | _ => cs

/-- The characters of a normalised host: trimmed, without port, without dots at the end, in lower case. -/
def normalizeChars (cs : List Char) : List Char :=
  (Text.dropEnding (· == '.') (withoutPort (Text.trim cs))).map Char.toLower

/-- The normalised form of a host, or nothing when no name is left. Only the letters A to Z change their case. -/
def normalize (host : String) : Option String :=
  match normalizeChars host.toList with
  | [] => none
  | c :: cs => some (String.ofList (c :: cs))

end TenantGateway.Host
