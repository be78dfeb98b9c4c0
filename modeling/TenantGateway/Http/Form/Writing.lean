import TenantGateway.Http.Form

/-!
# Ways to write a query

The same pairs can be written in many ways: a byte may be escaped even where it need not be, in digits of either case, a pair
whose value is empty may do without its `=`, and `&` may stand repeated or at the ends (`Encodes` says which queries list which
pairs). One of the ways escapes every byte that is not plain (`encodeText`).
-/

namespace TenantGateway.Http.Form

/-- Whether two hexadecimal digits come first, so that a `%` in front of them would begin an escape. -/
def startsWithDigits : List UInt8 → Bool
  | a :: b :: _ => (hexValue? a).isSome && (hexValue? b).isSome
  | _ => false

/-- Whether bytes write the given ones: a space as `+`, a byte as `%` and two digits, and a byte that has no meaning of its own as
it is. Where it begins no escape, a `%` may also stand for itself. -/
inductive Writes : List UInt8 → List UInt8 → Prop
  | nil : Writes [] []
  | plain {b : UInt8} {written bytes : List UInt8} (hb : b ≠ 37 ∧ b ≠ 38 ∧ b ≠ 43) (rest : Writes written bytes) :
    Writes (b :: written) (b :: bytes)
  | space {written bytes : List UInt8} (rest : Writes written bytes) : Writes (43 :: written) (32 :: bytes)
  | escape {a b x y : UInt8} {written bytes : List UInt8} (ha : hexValue? a = some x) (hb : hexValue? b = some y)
      (rest : Writes written bytes) :
    Writes (37 :: a :: b :: written) ((x * 16 + y) :: bytes)
  | percent {written bytes : List UInt8} (hdigits : startsWithDigits written = false) (rest : Writes written bytes) :
    Writes (37 :: written) (37 :: bytes)

/-- Whether pieces between `&` write the pairs given: the pairs stand in them in their order, cut at the first `=`, or without one
where the value is empty. A piece that is empty is no pair. -/
inductive WritesPairs : List (List UInt8) → List (String × String) → Prop
  | nil : WritesPairs [] []
  | empty {pieces : List (List UInt8)} {pairs : List (String × String)} (rest : WritesPairs pieces pairs) :
    WritesPairs ([] :: pieces) pairs
  | pair {name value : String} {writtenName writtenValue : List UInt8} {pieces : List (List UInt8)}
      {pairs : List (String × String)} (hname : Writes writtenName (Text.utf8 name)) (hcut : 61 ∉ writtenName)
      (hvalue : Writes writtenValue (Text.utf8 value)) (rest : WritesPairs pieces pairs) :
    WritesPairs ((writtenName ++ 61 :: writtenValue) :: pieces) ((name, value) :: pairs)
  | valueless {name : String} {writtenName : List UInt8} {pieces : List (List UInt8)} {pairs : List (String × String)}
      (hname : Writes writtenName (Text.utf8 name)) (hcut : 61 ∉ writtenName) (hne : writtenName ≠ [])
      (rest : WritesPairs pieces pairs) :
    WritesPairs (writtenName :: pieces) ((name, "") :: pairs)

/-- Whether a query lists the given pairs. -/
def Encodes (query : String) (pairs : List (String × String)) : Prop :=
  ∃ pieces, WritesPairs pieces pairs ∧ Text.utf8 query = [38].intercalate pieces

/-- The query that lists the given pairs and escapes what is not plain. -/
def encodeText (pairs : List (String × String)) : String :=
  String.ofList ((encode pairs).map fun b => Char.ofNat b.toNat)

end TenantGateway.Http.Form
