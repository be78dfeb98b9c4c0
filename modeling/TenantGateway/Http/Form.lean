import TenantGateway.Text.Utf8

/-!
# Form encoding

A list of name and value pairs is written as a query: pairs are joined by `&`, a name and its value by `=`, a space is
written `+`, and every byte that is no letter, digit, `*`, `-`, `.` or `_` is written as `%` and two hexadecimal digits.
Reading is lenient: a `%` that two digits do not follow stands for itself, and a pair without `=` has the empty value.
-/

namespace TenantGateway.Http.Form

/-- The value of a hexadecimal digit. -/
def hexValue? (b : UInt8) : Option UInt8 :=
  if 48 ≤ b && b ≤ 57 then some (b - 48)
  else if 65 ≤ b && b ≤ 70 then some (b - 55)
  else if 97 ≤ b && b ≤ 102 then some (b - 87)
  else none

/-- The digit in upper case with the given value, which is below 16. -/
def hexDigit (n : UInt8) : UInt8 :=
  if n < 10 then n + 48 else n + 55

/-- The bytes that a written name or value stands for. -/
def decodeBytes : List UInt8 → List UInt8
  | [] => []
  | 37 :: a :: b :: rest =>
    match hexValue? a, hexValue? b with
    | some x, some y => (x * 16 + y) :: decodeBytes rest
    | _, _ => 37 :: decodeBytes (a :: b :: rest)
  | b :: rest => (if b = 43 then 32 else b) :: decodeBytes rest

/-- The text that a written name or value stands for. -/
def decodeComponent (bytes : List UInt8) : String :=
  String.ofList (Text.decodeUtf8 (decodeBytes bytes))

/-- A written pair as a name and a value: cut at the first `=`, if there is one. -/
def decodePair (bytes : List UInt8) : String × String :=
  (decodeComponent (bytes.takeWhile (· != 61)), decodeComponent ((bytes.dropWhile (· != 61)).drop 1))

/-- The pairs of a query in order. Nothing between two `&` is no pair. -/
def decode (query : String) : List (String × String) :=
  (((Text.utf8 query).splitOn 38).filter (fun pair => !pair.isEmpty)).map decodePair

/-- The bytes that are written as they are. -/
def isPlain (b : UInt8) : Bool :=
  (48 ≤ b && b ≤ 57) || (65 ≤ b && b ≤ 90) || (97 ≤ b && b ≤ 122) || b == 42 || b == 45 || b == 46 || b == 95

/-- The written form of a byte. -/
def encodeByte (b : UInt8) : List UInt8 :=
  if isPlain b then [b] else if b = 32 then [43] else [37, hexDigit (b / 16), hexDigit (b % 16)]

/-- The written form of a name or a value. -/
def encodeComponent (s : String) : List UInt8 :=
  (Text.utf8 s).flatMap encodeByte

/-- The written form of a pair. -/
def encodePair (pair : String × String) : List UInt8 :=
  encodeComponent pair.1 ++ 61 :: encodeComponent pair.2

/-- The written form of a list of pairs. -/
def encode (pairs : List (String × String)) : List UInt8 :=
  [38].intercalate (pairs.map encodePair)

end TenantGateway.Http.Form
