/-!
# JSON documents

The bodies that the admin endpoint sends. A document is printed without blanks, with the names of an object in ascending
order; of the characters, only quotes, backslashes and those below U+0020 are escaped.
-/

namespace TenantGateway

/-- A JSON document with whole numbers. -/
inductive Json
  | null
  | bool (b : Bool)
  | number (n : Int)
  | text (s : String)
  | array (items : List Json)
  | object (fields : List (String × Json))
  deriving Inhabited

namespace Json

/-- A hexadecimal digit in lower case. -/
def hexDigit (n : Nat) : Char :=
  if n < 10 then Char.ofNat (48 + n) else Char.ofNat (87 + n)

/-- The printed form of a character inside a string. -/
def escapeChar (c : Char) : List Char :=
  if c = '"' then ['\\', '"']
  else if c = '\\' then ['\\', '\\']
  else if c = '\x08' then ['\\', 'b']
  else if c = '\x0c' then ['\\', 'f']
  else if c = '\n' then ['\\', 'n']
  else if c = '\r' then ['\\', 'r']
  else if c = '\t' then ['\\', 't']
  else if c.toNat < 0x20 then ['\\', 'u', '0', '0', hexDigit (c.toNat / 16), hexDigit (c.toNat % 16)]
  else [c]

/-- The printed form of a string. -/
def quote (s : String) : String :=
  String.ofList ('"' :: s.toList.flatMap escapeChar ++ ['"'])

/-- The printed form of an object whose values are printed already. -/
def printFields (fields : List (String × String)) : String :=
  let sorted := fields.mergeSort (fun a b => a.1 ≤ b.1)
  "\x7b" ++ ",".intercalate (sorted.map fun field => quote field.1 ++ ":" ++ field.2) ++ "\x7d"

mutual

/-- The printed form of a document. -/
def print : Json → String
  | .null => "null"
  | .bool true => "true"
  | .bool false => "false"
  | .number n => toString n
  | .text s => quote s
  | .array items => "[" ++ ",".intercalate (printItems items) ++ "]"
  | .object fields => printFields (printValues fields)

/-- The printed forms of the items of an array. -/
def printItems : List Json → List String
  | [] => []
  | item :: rest => print item :: printItems rest

/-- The names of an object with the printed forms of their values. -/
def printValues : List (String × Json) → List (String × String)
  | [] => []
  | (name, value) :: rest => (name, print value) :: printValues rest

end

end Json

end TenantGateway
