import TenantGateway.Yaml.Reading

/-!
# Data without a known form

Where it is not known what is wanted, a scalar tells its type by itself: a plain one by the way in which it is written, any
other by its tag, and else it is a text. Tags of a document's own have no place in data.
-/

namespace TenantGateway.Yaml

/-- Data without a known form. -/
inductive Data
  | null
  | bool (value : Bool)
  | number
  | text (value : String)
  | sequence (items : List Data)
  | mapping (entries : List (Data × Data))
  deriving Inhabited

namespace Data

/-- Whether a whole number fits into 64 bits, signed or unsigned. -/
def isShort (n : Int) : Bool := -(Int.pow 2 63) ≤ n && n < Int.pow 2 64

/-- Whether a whole number fits into 128 bits, signed or unsigned, and not into 64. -/
def isWide (n : Int) : Bool := -(Int.pow 2 127) ≤ n && n < Int.pow 2 128 && !isShort n

/-- What a plain scalar is. A whole number of more than 64 bits is refused if it has at most 128, and is a fraction if it has
more. Digits that begin with a zero that could be left out are a text. -/
def ofPlain? (s : String) : Option Data :=
  if s.isEmpty || isNull s then some .null
  else
    match bool? s with
    | some b => some (.bool b)
    | none =>
      if (int? s).any isShort then some .number
      else if (int? s).any isWide then none
      else if isFloat s && !isPadded (behindSign s.toList) then some .number
      else some (.text s)

/-- What a scalar of a type is. -/
def ofCore? (type : CoreType) (s : String) : Option Data :=
  match type with
  | .null => if isNull s then some .null else none
  | .bool => (bool? s).map .bool
  | .int => if (int? s).any isShort then some .number else none
  | .float => if isFloat s then some .number else none

/-- What a scalar is. -/
def ofScalar? (s : String) (style : ScalarStyle) (tag : Option Tag) : Option Data :=
  let untagged := if style == .plain then ofPlain? s else some (.text s)
  match tag with
  | none => untagged
  | some .garbled => untagged
  | some (.core type) => ofCore? type s
  | some (.own _) => none
  | some .other => some (.text s)

/-- Whether a sequence or a mapping may have a tag. -/
def isFree : Option Tag → Bool
  | some (.own _) => false
  | _ => true

/-- The data that a node holds, nested no deeper than the given number of levels. -/
def read : Nat → Node → Reading Data
  | 0, node => do
    match ← node.follow with
    | .scalar s style tag => return ← ofScalar? s style tag
    | _ => failure
  | depth + 1, node => do
    match ← node.follow with
    | .scalar s style tag => return ← ofScalar? s style tag
    | .sequence items tag =>
      if isFree tag then return .sequence (← items.mapM fun item => read depth item) else failure
    | .mapping entries tag =>
      if isFree tag then
        return .mapping (← entries.mapM fun e => do return (← read depth e.1, ← read depth e.2))
      else failure
    | .alias _ => failure

/-- The text that data are. -/
def text? : Data → Option String
  | .text s => some s
  | _ => none

/-- The texts of a mapping under their names. -/
def texts? : Data → Option (List (String × String))
  | .mapping entries => entries.mapM fun e => do return (← e.1.text?, ← e.2.text?)
  | _ => none

end Data

end TenantGateway.Yaml
