import TenantGateway.Http.Request
import TenantGateway.Text.Blank

/-!
# Heads of requests

A request is sent as a line with its method, its target and the version, and a line for each of its fields, up to an empty
line. There are at most a hundred fields. Those that tell how long the body is have to agree: a length is a number, the same
one each time, and an encoding of the body ends with the one that cuts it into chunks, which version 1.0 does not know.
-/

namespace TenantGateway.Http

/-- Why a text is no request. -/
inductive HeadError
  | malformed
  | targetTooLong
  /-- There are too many fields, the name of one is too long, or the body is. -/
  | tooLarge
  /-- The text opens a connection of version 2. -/
  | otherVersion
  deriving DecidableEq

/-- The answer to a text that is no request; a connection of version 2 is not answered by a response of this version. -/
def HeadError.response? : HeadError → Option Response
  | .malformed => some (.bare .badRequest)
  | .targetTooLong => some (.bare .targetTooLong)
  | .tooLarge => some (.bare .fieldsTooLarge)
  | .otherVersion => none

/-- A field of a request. -/
structure Field where
  /-- The name, in lower case. -/
  name : String
  /-- The value, without blanks around it. -/
  value : String
  deriving DecidableEq

/-- The greatest number of bytes in the name of a field. -/
def Field.maxNameLength : Nat := 65535

/-! ## Lines -/

/-- The characters of the name of a method or a field. -/
def isTokenChar (c : Char) : Bool :=
  c.isAlphanum || "!#$%&'*+-.^_|~".toList.contains c || c.toNat == 0x60

/-- The characters that a target may hold in a request line. -/
def isLineChar (c : Char) : Bool :=
  0x21 ≤ c.toNat && c.toNat != 0x7F

/-- A space or a tab. -/
def isFieldBlank (c : Char) : Bool := c == ' ' || c == '\t'

/-- What is left behind the end of a line: a line feed, with or without a carriage return in front of it. -/
def behindLine? : List Char → Option (List Char)
  | '\r' :: '\n' :: rest => some rest
  | '\n' :: rest => some rest
  | _ => none

/-- What is left behind the empty lines at the start. -/
def skipEmptyLines : List Char → List Char
  | '\r' :: '\n' :: rest => skipEmptyLines rest
  | '\n' :: rest => skipEmptyLines rest
  | cs => cs

/-- Reads the line of a field. -/
def readField? (cs : List Char) : Option (Field × List Char) := do
  let name := cs.takeWhile isTokenChar
  let cs ← [':'].isPrefixOf? (cs.drop name.length)
  let value := cs.takeWhile fun c => isFieldBlank c || isLineChar c
  let rest ← behindLine? (cs.drop value.length)
  if name.isEmpty then none
  else
    let trimmed := Text.dropEnding isFieldBlank (value.dropWhile isFieldBlank)
    return (⟨String.ofList (name.map Char.toLower), String.ofList trimmed⟩, rest)

/-- Reads at most so many fields, and the empty line behind them. -/
def readFields : Nat → List Char → Except HeadError (List Field)
  | n, cs =>
    if (behindLine? cs).isSome then .ok []
    else
      match readField? cs, n with
      | none, _ => .error .malformed
      | some _, 0 => .error .tooLarge
      | some (field, rest), n + 1 => (readFields n rest).map (field :: ·)

/-! ## The length of the body -/

/-- What the fields tell about the length of the body. -/
structure Framing where
  /-- Whether the body comes in chunks, if an encoding of the body is told. -/
  chunked : Option Bool := none
  length : Option Nat := none

namespace Framing

/-- The greatest length of a body. -/
def maxLength : Nat := Nat.pow 2 64 - 3

/-- Whether the last of the encodings that a value lists is the one that cuts into chunks. -/
def endsChunked (value : String) : Bool :=
  let last := (value.toList.splitOn ',').getLast?.getD []
  value.toList.all (fun c => c.toNat < 0x7F) && (Text.trim last).map Char.toLower == "chunked".toList

/-- The length that a value spells: a number of 64 bits. -/
def length? (value : String) : Option Nat :=
  if value.isEmpty || !value.toList.all Char.isDigit then none
  else value.toNat?.filter (· < Nat.pow 2 64)

/-- Takes a field into account. Where an encoding was told before, a length does not count. -/
def add (version : Nat) (f : Framing) (field : Field) : Except HeadError Framing :=
  if field.name == "transfer-encoding" then
    if version = 0 then .error .malformed else .ok { f with chunked := some (endsChunked field.value) }
  else if field.name == "content-length" && f.chunked.isNone then
    match length? field.value, f.length with
    | none, _ => .error .malformed
    | some n, some m => if n = m then .ok f else .error .malformed
    | some n, none => if n ≤ maxLength then .ok { f with length := some n } else .error .tooLarge
  else .ok f

/-- What all fields of a request tell; the last encoding has to be the one that cuts into chunks. -/
def ofFields (version : Nat) (fields : List Field) : Except HeadError Framing := do
  let f ← fields.foldlM (add version) {}
  if f.chunked == some false then .error .malformed else return f

end Framing

/-! ## Requests -/

namespace Request

/-- The greatest number of fields in a request. -/
def maxFields : Nat := 100

/-- The head of a request whose method and target are written so, with the fields that every client sends. -/
def head (method target : String) : String :=
  method ++ " " ++ target ++ " HTTP/1.1\r\nhost: localhost\r\nconnection: close\r\n\r\n"

/-- Reads a request line: the method, the target as it is written, and the number behind the point of the version. -/
def readLine? (cs : List Char) : Option (String × String × Nat × List Char) := do
  let method := cs.takeWhile isTokenChar
  let cs ← [' '].isPrefixOf? (cs.drop method.length)
  let target := cs.takeWhile isLineChar
  let cs ← " HTTP/1.".toList.isPrefixOf? (cs.drop target.length)
  let version ← match cs.head? with
    | some '0' => some 0
    | some '1' => some 1
    | _ => none
  let rest ← behindLine? (cs.drop 1)
  if method.isEmpty || target.isEmpty then none
  else return (String.ofList method, String.ofList target, version, rest)

/-- What a connection of version 2 begins with. -/
def otherVersionPreface : String := "PRI * HTTP/2.0\r\n\r\nSM\r\n\r\n"

/-- The request that a text begins with. -/
def parse (text : String) : Except HeadError Request := do
  if otherVersionPreface.toList.isPrefixOf text.toList then .error .otherVersion
  else
    match readLine? (skipEmptyLines text.toList) with
    | none => .error .malformed
    | some (method, written, version, rest) =>
      let fields ← readFields maxFields rest
      if Target.maxLength < written.utf8ByteSize then .error .targetTooLong
      else if fields.any fun f => Field.maxNameLength < f.name.utf8ByteSize then .error .tooLarge
      else
        match Target.parse? written with
        | none => .error .malformed
        | some target =>
          let _ ← Framing.ofFields version fields
          return { method, target }

end Request

end TenantGateway.Http
