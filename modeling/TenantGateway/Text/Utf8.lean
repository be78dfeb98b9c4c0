/-!
# Characters of a byte string

A byte string is read as UTF-8. Where it is not well formed, the longest run of bytes that could still begin a character,
or a single byte that cannot, is read as one replacement character, and reading goes on behind it.
-/

namespace TenantGateway.Text

/-- The character that stands for bytes that are no UTF-8. -/
def replacement : Char := '\uFFFD'

/-- A byte that continues a character. -/
def isContinuation (b : UInt8) : Bool := 0x80 ≤ b && b ≤ 0xBF

/-- The second bytes that a character of three bytes may have after the given first one. -/
def secondOfThree (a b : UInt8) : Bool :=
  if a == 0xE0 then 0xA0 ≤ b && b ≤ 0xBF
  else if a == 0xED then 0x80 ≤ b && b ≤ 0x9F
  else isContinuation b

/-- The second bytes that a character of four bytes may have after the given first one. -/
def secondOfFour (a b : UInt8) : Bool :=
  if a == 0xF0 then 0x90 ≤ b && b ≤ 0xBF
  else if a == 0xF4 then 0x80 ≤ b && b ≤ 0x8F
  else isContinuation b

/-- The six low bits of a continuation byte. -/
def low (b : UInt8) : Nat := b.toNat % 64

/-- The characters of a byte string. -/
def decodeUtf8 : List UInt8 → List Char
  | [] => []
  | a :: rest =>
    if a < 0x80 then Char.ofNat a.toNat :: decodeUtf8 rest
    else if 0xC2 ≤ a && a ≤ 0xDF then
      match rest with
      | b :: rest' =>
        if isContinuation b then Char.ofNat (a.toNat % 32 * 64 + low b) :: decodeUtf8 rest'
        else replacement :: decodeUtf8 (b :: rest')
      | [] => [replacement]
    else if 0xE0 ≤ a && a ≤ 0xEF then
      match rest with
      | b :: rest' =>
        if secondOfThree a b then
          match rest' with
          | c :: rest'' =>
            if isContinuation c then Char.ofNat (a.toNat % 16 * 4096 + low b * 64 + low c) :: decodeUtf8 rest''
            else replacement :: decodeUtf8 (c :: rest'')
          | [] => [replacement]
        else replacement :: decodeUtf8 (b :: rest')
      | [] => [replacement]
    else if 0xF0 ≤ a && a ≤ 0xF4 then
      match rest with
      | b :: rest' =>
        if secondOfFour a b then
          match rest' with
          | c :: rest'' =>
            if isContinuation c then
              match rest'' with
              | d :: rest''' =>
                if isContinuation d then
                  Char.ofNat (a.toNat % 8 * 262144 + low b * 4096 + low c * 64 + low d) :: decodeUtf8 rest'''
                else replacement :: decodeUtf8 (d :: rest''')
              | [] => [replacement]
            else replacement :: decodeUtf8 (c :: rest'')
          | [] => [replacement]
        else replacement :: decodeUtf8 (b :: rest')
      | [] => [replacement]
    else replacement :: decodeUtf8 rest

/-- The UTF-8 bytes of a string. -/
def utf8 (s : String) : List UInt8 :=
  s.toUTF8.data.toList

end TenantGateway.Text
