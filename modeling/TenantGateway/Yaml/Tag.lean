import TenantGateway.Text.Utf8
import TenantGateway.Yaml.Scalar

/-!
# YAML tags

A tag tells the type of a node. It is a byte string: any byte of it may be written as a percent sign and two hexadecimal
digits, as long as all bytes of a character are written so. A tag that begins with an exclamation mark is a document's own;
of the others, four name the types that plain scalars have by themselves.
-/

namespace TenantGateway.Yaml

/-- The types that plain scalars have by themselves, when they are no texts. -/
inductive CoreType
  | null
  | bool
  | int
  | float
  deriving DecidableEq, Inhabited

namespace CoreType

def all : List CoreType := [.null, .bool, .int, .float]

/-- What the names of the types begin with in a tag. -/
def lead : List UInt8 := Text.utf8 "tag:yaml.org,2002:"

/-- The name of a type. -/
def name : CoreType → String
  | .null => "null"
  | .bool => "bool"
  | .int => "int"
  | .float => "float"

end CoreType

/-- The tag of a node. -/
inductive Tag
  /-- An exclamation mark, and a name that may be empty. -/
  | own (name : String)
  /-- An exclamation mark, and bytes that are no text. -/
  | garbled
  | core (type : CoreType)
  /-- Any other tag. -/
  | other
  deriving DecidableEq, Inhabited

namespace Tag

/-- The exclamation mark. -/
def mark : UInt8 := 33

/-- The tag that bytes spell. -/
def ofBytes (bytes : List UInt8) : Tag :=
  if bytes.head? == some mark then
    match String.fromUTF8? ⟨(bytes.drop 1).toArray⟩ with
    | some name => .own name
    | none => .garbled
  else
    match CoreType.all.find? fun t => CoreType.lead ++ Text.utf8 t.name == bytes with
    | some t => .core t
    | none => .other

/-- The number of bytes behind the first one of a character, as its high bits tell. -/
def bytesBehind? (first : UInt8) : Option Nat :=
  if first < 0x80 then some 0
  else if 0xC0 ≤ first && first < 0xE0 then some 1
  else if 0xE0 ≤ first && first < 0xF0 then some 2
  else if 0xF0 ≤ first && first < 0xF8 then some 3
  else none

/-- The bytes that the written form of a tag stands for, where so many bytes of a character are still to come. -/
def decodeFrom? : Nat → List Char → Option (List UInt8)
  | due, '%' :: a :: b :: rest => do
    let byte := UInt8.ofNat ((← hexValue? a) * 16 + (← hexValue? b))
    let due ← if due = 0 then bytesBehind? byte else if Text.isContinuation byte then some (due - 1) else none
    return byte :: (← decodeFrom? due rest)
  | 0, c :: rest => if c == '%' then none else (decodeFrom? 0 rest).map (UInt8.ofNat c.toNat :: ·)
  | 0, [] => some []
  | _ + 1, _ => none

/-- The bytes that the written form of a tag stands for. -/
def decode? (text : List Char) : Option (List UInt8) := decodeFrom? 0 text

/-- The bytes in front of the first zero, which ends a tag. -/
def cut (bytes : List UInt8) : List UInt8 := bytes.takeWhile (· != 0)

end Tag

end TenantGateway.Yaml
