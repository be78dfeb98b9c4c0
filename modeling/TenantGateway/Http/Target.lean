import TenantGateway.Http.Authority
import TenantGateway.Text.Utf8

/-!
# Request targets

A request names its target by an absolute path and an optional query behind the first `?`. A `#` ends the target; what
follows it is not part of a request. A scheme and an authority may stand in front of the path; they do not matter. An
authority may also stand alone, and a star stands for the server as a whole.
-/

namespace TenantGateway.Http

/-- The target of a request. -/
structure Target where
  /-- The path, with its leading slash; a star for the server as a whole, and nothing for an authority alone. -/
  path : String
  /-- The text behind the first `?`. -/
  query : Option String
  deriving DecidableEq

namespace Target

/-- The greatest number of bytes in a target. -/
def maxLength : Nat := 65534

/-- The characters that a path may hold. -/
def isPathChar (c : Char) : Bool :=
  let n := c.toNat
  n == 0x21 || n == 0x22 || (0x24 ≤ n && n ≤ 0x3B) || n == 0x3D || (0x40 ≤ n && n ≤ 0x5F) ||
    (0x61 ≤ n && n != 0x7F)

/-- The characters that a query may hold. -/
def isQueryChar (c : Char) : Bool :=
  let n := c.toNat
  n == 0x21 || (0x24 ≤ n && n ≤ 0x3B) || n == 0x3D || (0x3F ≤ n && n != 0x7F)

/-- The path and the query that a text spells, or nothing when it holds a character that has no place there. No path counts
as the root. -/
def ofPath? (cs : List Char) : Option Target :=
  let cs := cs.takeWhile (· != '#')
  let path := cs.takeWhile (· != '?')
  let query := cs.dropWhile (· != '?')
  if path.all isPathChar && (query.drop 1).all isQueryChar then
    some ⟨if path.isEmpty then "/" else String.ofList path,
      if query.isEmpty then none else some (String.ofList (query.drop 1))⟩
  else none

/-- The characters of a scheme. -/
def isSchemeChar (c : Char) : Bool := c.isAlphanum || c == '+' || c == '-' || c == '.'

/-- The greatest length of a scheme. -/
def maxSchemeLength : Nat := 64

/-- What is left behind the scheme that a text starts with. -/
def behindScheme? (cs : List Char) : Option (List Char) :=
  let scheme := cs.takeWhile isSchemeChar
  if scheme.length ≤ maxSchemeLength then "://".toList.isPrefixOf? (cs.drop scheme.length) else none

/-- The target that a text spells in one of the four forms: a path, a star, a scheme with an authority and possibly a path,
or an authority alone. -/
def parse? (s : String) : Option Target :=
  if maxLength < s.utf8ByteSize then none
  else
    match s.toList with
    | ['*'] => some ⟨"*", none⟩
    | '/' :: cs => ofPath? ('/' :: cs)
    | cs =>
      match behindScheme? cs with
      | some rest =>
        let authority := rest.takeWhile (!Authority.isEnd ·)
        if Authority.isValid authority then ofPath? (rest.drop authority.length) else none
      | none => if Authority.isValid cs then some ⟨"", none⟩ else none

/-- Whether a text spells a target by its path. -/
def isPath (s : String) : Bool :=
  s.toList.head? == some '/' && (parse? s).isSome

end Target

end TenantGateway.Http
