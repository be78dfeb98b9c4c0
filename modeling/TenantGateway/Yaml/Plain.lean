import TenantGateway.Yaml.Scalar

/-!
# Types of plain scalars

A plain scalar may be written like null, a truth value or a number. Whole numbers are decimal, or hexadecimal, octal or
binary behind the mark of their base; decimal ones begin with no zero that could be left out.
-/

namespace TenantGateway.Yaml

/-- The ways to write that there is nothing. -/
def isNull (s : String) : Bool := ["null", "Null", "NULL", "~"].contains s

/-- The truth value that a plain scalar is written like. -/
def bool? (s : String) : Option Bool :=
  if ["true", "True", "TRUE"].contains s then some true
  else if ["false", "False", "FALSE"].contains s then some false
  else none

/-- Whether digits begin with a zero that could be left out. -/
def isPadded (cs : List Char) : Bool :=
  match cs with
  | '0' :: rest => !rest.isEmpty && rest.all Char.isDigit
  | _ => false

/-- The number that digits with an optional mark of their base spell. -/
def based? (cs : List Char) : Option Nat :=
  match cs with
  | '0' :: 'x' :: digits => number? 16 digits
  | '0' :: 'o' :: digits => number? 8 digits
  | '0' :: 'b' :: digits => number? 2 digits
  | _ => none

/-- The number that a plain scalar without sign is written like. -/
def unsigned? (cs : List Char) : Option Nat :=
  (based? cs).or (if isPadded cs then none else number? 10 cs)

/-- The natural number that a plain scalar is written like; a plus sign may come first. -/
def nat? (s : String) : Option Nat :=
  match s.toList with
  | '+' :: cs => unsigned? cs
  | cs => unsigned? cs

/-- The whole number that a plain scalar is written like. -/
def int? (s : String) : Option Int :=
  match s.toList with
  | '-' :: cs => (unsigned? cs).map fun n => -(n : Int)
  | _ => (nat? s).map fun n => (n : Int)

/-- Whether a decimal number with the given digits and exponent is below the greatest finite double, after rounding. -/
def isFiniteDouble (digits : Nat) (exponent : Int) : Bool :=
  let length := (Nat.toDigits 10 digits).length
  let bound := Nat.pow 2 1024 - Nat.pow 2 970
  if digits = 0 then true
  else if (length : Int) + exponent ≤ 308 then true
  else if 310 < (length : Int) + exponent then false
  else if 0 ≤ exponent then digits * Nat.pow 10 exponent.toNat < bound
  else digits < bound * Nat.pow 10 (-exponent).toNat

/-- The exponent behind the digits of a number; there may be none. -/
def exponent? (cs : List Char) : Option Int :=
  match cs with
  | [] => some 0
  | e :: rest =>
    if e == 'e' || e == 'E' then
      match rest with
      | '-' :: digits => (number? 10 digits).map fun n => -(n : Int)
      | '+' :: digits => (number? 10 digits).map fun n => (n : Int)
      | digits => (number? 10 digits).map fun n => (n : Int)
    else none

/-- Whether text without sign is written like a finite decimal number. -/
def isDecimal (cs : List Char) : Bool :=
  let whole := cs.takeWhile Char.isDigit
  let rest := cs.dropWhile Char.isDigit
  let behind := match rest with
    | '.' :: more => more
    | _ => []
  let places := behind.takeWhile Char.isDigit
  let ending := if rest.head? == some '.' then behind.dropWhile Char.isDigit else rest
  match number? 10 (whole ++ places), exponent? ending with
  | some digits, some exponent => isFiniteDouble digits (exponent - places.length)
  | _, _ => false

/-- What stands behind the sign of a number, if it has one. -/
def behindSign : List Char → List Char
  | '+' :: cs => cs
  | '-' :: cs => cs
  | cs => cs

/-- Whether a scalar is written like a decimal number, an infinity or no number at all. -/
def isFloat (s : String) : Bool :=
  [".inf", ".Inf", ".INF", "+.inf", "+.Inf", "+.INF", "-.inf", "-.Inf", "-.INF", ".nan", ".NaN", ".NAN"].contains s ||
    isDecimal (behindSign s.toList)

end TenantGateway.Yaml
