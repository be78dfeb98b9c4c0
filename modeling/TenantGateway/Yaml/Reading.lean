import TenantGateway.Yaml.Node
import TenantGateway.Yaml.Plain

/-!
# Values of YAML nodes

What is read from a node depends on what is wanted. A text is any scalar as it is written. Numbers and truth values have to
be plain, or literal blocks under the tag of their type. A record is a mapping whose keys are texts, each known key once.
Aliases are followed where something is wanted, at most a hundred times as often as the document has parts.
-/

namespace TenantGateway.Yaml

/-- What is read from a document, while it is counted how often aliases are followed. -/
abbrev Reading := ReaderT Document (StateT Nat Option)

/-- How often aliases of a document are followed at most. -/
def Document.maxFollowed (d : Document) : Nat := 100 * d.size

/-- What is read from the root of a document. -/
def Document.read {α : Type} (d : Document) (read : Node → Reading α) : Option α :=
  ((read d.root).run d).run' 0

namespace Node

/-- The node that an alias stands for, else the node itself. -/
def follow : Node → Reading Node
  | .alias number => fun d followed =>
    if followed < d.maxFollowed then (Entries.get? d.targets number).map fun node => (node, followed + 1) else none
  | node => pure node

/-- The text of a scalar, as it is written. -/
def text (node : Node) : Reading String := do
  match ← node.follow with
  | .scalar s _ _ => return s
  | _ => failure

/-- Whether a scalar in a style and with a tag can be of the given type. -/
def allows (type : CoreType) : ScalarStyle → Option Tag → Bool
  | .plain, _ => true
  | .literal, tag => tag == some (.core type)
  | _, _ => false

/-- The natural number below the given bound that a scalar is. -/
def nat (bound : Nat) (node : Node) : Reading Nat := do
  match ← node.follow with
  | .scalar s style tag => if allows .int style tag then return ← (nat? s).filter (· < bound) else failure
  | _ => failure

/-- The truth value that a scalar is. -/
def bool (node : Node) : Reading Bool := do
  match ← node.follow with
  | .scalar s style tag => if allows .bool style tag then return ← bool? s else failure
  | _ => failure

/-- Whether a node stands for the absence of a value: a plain scalar without tag that is empty or null, or a plain null with
the tag of null. Another plain scalar cannot have that tag. -/
def isAbsent? : Node → Option Bool
  | .scalar s .plain none => some (s.isEmpty || isNull s)
  | .scalar s .plain (some (.core .null)) => if isNull s then some true else none
  | _ => some false

/-- The value of a node that may be absent. -/
def optional {α : Type} (read : Node → Reading α) (node : Node) : Reading (Option α) := do
  let node ← node.follow
  if ← node.isAbsent? then return none else return some (← read node)

/-- Whether a node is left out. -/
def isOmitted : Node → Bool
  | .scalar s .plain _ => s.isEmpty
  | _ => false

/-- The items of a sequence; a node that is left out is an empty one. -/
def items (node : Node) : Reading (List Node) := do
  match ← node.follow with
  | .sequence items _ => return items
  | node => if node.isOmitted then return [] else failure

/-- The entries of a mapping; a node that is left out is an empty one. -/
def entries (node : Node) : Reading (List (Node × Node)) := do
  match ← node.follow with
  | .mapping entries _ => return entries
  | node => if node.isOmitted then return [] else failure

/-- The name that a scalar chooses among others: the name of its own tag, if it has one and no text, else its text. -/
def choice (node : Node) : Reading String := do
  match ← node.follow with
  | .scalar s style (some (.own name)) =>
    if style == .plain && (s.isEmpty || isNull s) then return name else failure
  | .scalar s _ _ => return s
  | _ => failure

/-- The fields of a record: the entries of a mapping under their names. A known name occurs once. -/
def fields (known : List String) (node : Node) : Reading (List (String × Node)) := do
  let fields ← (← node.entries).mapM fun e => return (← e.1.text, e.2)
  if known.all fun name => (fields.filter fun f => f.1 == name).length ≤ 1 then return fields else failure

/-- The value of a field that has to be there. -/
def required {α : Type} (fields : List (String × Node)) (name : String) (read : Node → Reading α) : Reading α :=
  match Entries.get? fields name with
  | some node => read node
  | none => failure

/-- The value of a field, or the given value where the field is not there. -/
def withDefault {α : Type} (fields : List (String × Node)) (name : String) (default : α) (read : Node → Reading α) :
    Reading α :=
  match Entries.get? fields name with
  | some node => read node
  | none => pure default

/-- The texts of a mapping under their names; the last one counts where a name is repeated. -/
def texts (node : Node) : Reading (List (String × String)) := do
  (← node.entries).mapM fun e => return (← e.1.text, ← e.2.text)

/-- The texts of a sequence. -/
def textItems (node : Node) : Reading (List String) := do
  (← node.items).mapM text

end Node

end TenantGateway.Yaml
