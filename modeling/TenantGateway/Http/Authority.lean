/-!
# Authorities

An authority names a host. A port may follow it behind a colon, and credentials may stand in front of it, up to an `@`. A
host with colons of its own stands in brackets. Only credentials and such a host may hold escapes.
-/

namespace TenantGateway.Http.Authority

/-- Whether an authority ends in front of a character. -/
def isEnd (c : Char) : Bool := c == '/' || c == '?' || c == '#'

/-- The characters of an authority that stand for themselves. -/
def isPlainChar (c : Char) : Bool :=
  c.isAlphanum || "!$&'()*+,-.:;=@[]_~".toList.contains c

/-- How far the brackets are that an authority may have. -/
inductive Brackets
  | absent
  | opened
  | closed
  deriving DecidableEq

/-- What the characters of an authority told so far. An `@` and a closing bracket end a part that may hold colons and
escapes, so the colons and the escapes in front of them do not count. -/
structure Progress where
  colons : Nat := 0
  escaped : Bool := false
  brackets : Brackets := .absent

/-- The greatest number of colons in a part: a host in brackets has seven, and a port takes one more. -/
def maxColons : Nat := 8

namespace Progress

/-- Takes a character into account. -/
def next? (p : Progress) (c : Char) : Option Progress :=
  match c with
  | ':' => if p.colons < maxColons then some { p with colons := p.colons + 1 } else none
  | '[' => if p.escaped || p.brackets != .absent then none else some { p with brackets := .opened }
  | ']' => if p.brackets == .opened then some { brackets := .closed } else none
  | '@' => some { brackets := p.brackets }
  | '%' => some { p with escaped := true }
  | _ => if isPlainChar c then some p else none

/-- Whether an authority may end here. -/
def mayEnd (p : Progress) : Bool :=
  p.brackets != .opened && p.colons ≤ 1 && !p.escaped

end Progress

/-- Whether characters are an authority: there has to be a host behind the credentials. -/
def isValid (cs : List Char) : Bool :=
  !cs.isEmpty && cs.getLast? != some '@' && (cs.foldlM Progress.next? {}).any Progress.mayEnd

end TenantGateway.Http.Authority
