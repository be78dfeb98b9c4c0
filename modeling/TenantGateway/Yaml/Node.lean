import TenantGateway.Entries
import TenantGateway.Yaml.Token

/-!
# YAML documents

A document is a tree of scalars, sequences, mappings and aliases, read from the tokens of its text. A part that is left out
is an empty plain scalar. An anchor gets as its number how many different names of anchors came before it, so that a name
used again may share a number with the next new one. An alias keeps the number that its name has where it stands; it stands
for the node that began last of those with that number, so it may stand for a node around it. A text holds one document at
most.
-/

namespace TenantGateway.Yaml

/-- A node of a document. -/
inductive Node
  | scalar (text : String) (style : ScalarStyle) (tag : Option Tag)
  | sequence (items : List Node) (tag : Option Tag)
  | mapping (entries : List (Node × Node)) (tag : Option Tag)
  /-- What stands for the node with the number. -/
  | alias (number : Nat)
  deriving Inhabited

/-- What stands for a part that is left out. -/
def Node.omitted : Node := .scalar "" .plain none

/-- A document. -/
structure Document where
  root : Node
  /-- The nodes that aliases stand for, under their numbers. -/
  targets : List (Nat × Node)
  /-- The number of its scalars, aliases, and starts and ends of collections. -/
  size : Nat

/-- What is known in the middle of the tokens of a document. -/
structure Reader where
  /-- The tokens that are left. -/
  tokens : List Token
  /-- What the handles of tags stand for. -/
  handles : List (String × List UInt8)
  /-- The number of scalars, aliases, and starts and ends of collections read. -/
  size : Nat := 0
  /-- The numbers of the anchors under their names. -/
  numbers : List (String × Nat) := []
  /-- The nodes that aliases stand for under their numbers, each with the size at its start. -/
  marked : List (Nat × Nat × Node) := []

namespace Reader

/-- The reader behind the next token. -/
def skip (r : Reader) : Reader := { r with tokens := r.tokens.drop 1 }

/-- So much more was read. -/
def grow (r : Reader) (n : Nat) : Reader := { r with size := r.size + n }

/-- Whether the next token is one of those listed. -/
def sees (r : Reader) (ts : List Token) : Bool := r.tokens.head?.any ts.contains

/-- A part that is left out. -/
def leaveOut (r : Reader) : Node × Reader := (.omitted, r.grow 1)

/-- Reads the tag written with a handle; without one, the tag is written out. -/
def resolveTag (r : Reader) (handle : String) (ending : List UInt8) : Option Tag :=
  if handle == "" then some (.ofBytes ending)
  else (Entries.get? r.handles handle).map fun lead => .ofBytes (lead ++ ending)

/-- Reads the anchor and the tag in front of a node, in either order. -/
def readProperties (r : Reader) : Option (Option String × Option Tag × Reader) :=
  match r.tokens with
  | .anchor a :: .tag h e :: _ => (r.resolveTag h e).map fun t => (some a, some t, r.skip.skip)
  | .tag h e :: .anchor a :: _ => (r.resolveTag h e).map fun t => (some a, some t, r.skip.skip)
  | .anchor a :: _ => some (some a, none, r.skip)
  | .tag h e :: _ => (r.resolveTag h e).map fun t => (none, some t, r.skip)
  | _ => some (none, none, r)

/-- Gives an anchor its number. -/
def name (r : Reader) (anchor : String) : Reader :=
  { r with numbers := Entries.put r.numbers anchor r.numbers.length }

/-- Marks the node that began at the given size by a number, unless one marked by it began later. -/
def mark (r : Reader) (number start : Nat) (node : Node) : Reader :=
  if (Entries.get? r.marked number).any fun m => start < m.1 then r
  else { r with marked := Entries.put r.marked number (start, node) }

mutual

/-- Reads a node. A sequence may lack its opening where a key or a value is expected in a block. -/
def readNode : Nat → Bool → Bool → Reader → Option (Node × Reader)
  | 0, _, _, _ => none
  | n + 1, block, loose, r =>
    match r.tokens with
    | .alias name :: _ => (Entries.get? r.numbers name).map fun number => (.alias number, r.skip.grow 1)
    | _ => do
      let (anchor, tag, r) ← r.readProperties
      match anchor with
      | none => readContent n block loose tag tag.isSome r
      | some name =>
        let (node, r') ← readContent n block loose tag true (r.name name)
        return (node, r'.mark r.numbers.length r.size node)

/-- Reads a node behind its anchor and its tag. It may be left out if it has one of them. -/
def readContent : Nat → Bool → Bool → Option Tag → Bool → Reader → Option (Node × Reader)
  | 0, _, _, _, _, _ => none
  | n + 1, block, loose, tag, optional, r =>
    match r.tokens with
    | .scalar text style :: _ => some (.scalar text style tag, r.skip.grow 1)
    | .flowSequenceStart :: _ => (readFlowItems n true (r.skip.grow 2)).map fun (items, r) => (.sequence items tag, r)
    | .flowMappingStart :: _ => (readFlowEntries n true (r.skip.grow 2)).map fun (entries, r) => (.mapping entries tag, r)
    | _ =>
      if loose && r.sees [.blockEntry] then (readLooseItems n (r.grow 2)).map fun (items, r) => (.sequence items tag, r)
      else if block && r.sees [.blockSequenceStart] then
        (readBlockItems n (r.skip.grow 2)).map fun (items, r) => (.sequence items tag, r)
      else if block && r.sees [.blockMappingStart] then
        (readBlockEntries n (r.skip.grow 2)).map fun (entries, r) => (.mapping entries tag, r)
      else if optional then some (.scalar "" .plain tag, r.grow 1)
      else none

/-- Reads a node, or nothing where one of the tokens listed comes next. -/
def readPart : Nat → List Token → Bool → Bool → Reader → Option (Node × Reader)
  | 0, _, _, _, _ => none
  | n + 1, stops, block, loose, r => if r.sees stops then some r.leaveOut else readNode n block loose r

/-- Reads the value of a mapping behind its mark, or nothing where there is no mark. -/
def readValue : Nat → List Token → Bool → Reader → Option (Node × Reader)
  | 0, _, _, _ => none
  | n + 1, stops, block, r => if r.sees [.value] then readPart n stops block block r.skip else some r.leaveOut

/-- Reads the items of a block sequence and its end. -/
def readBlockItems : Nat → Reader → Option (List Node × Reader)
  | 0, _ => none
  | n + 1, r =>
    if r.sees [.blockEnd] then some ([], r.skip)
    else if r.sees [.blockEntry] then do
      let (item, r) ← readPart n [.blockEntry, .blockEnd] true false r.skip
      let (items, r) ← readBlockItems n r
      return (item :: items, r)
    else none

/-- Reads the items of a sequence without opening and end. -/
def readLooseItems : Nat → Reader → Option (List Node × Reader)
  | 0, _ => none
  | n + 1, r =>
    if r.sees [.blockEntry] then do
      let (item, r) ← readPart n [.blockEntry, .key, .value, .blockEnd] true false r.skip
      let (items, r) ← readLooseItems n r
      return (item :: items, r)
    else some ([], r)

/-- Reads the entries of a block mapping and its end. -/
def readBlockEntries : Nat → Reader → Option (List (Node × Node) × Reader)
  | 0, _ => none
  | n + 1, r =>
    if r.sees [.blockEnd] then some ([], r.skip)
    else if r.sees [.key] then do
      let (k, r) ← readPart n [.key, .value, .blockEnd] true true r.skip
      let (v, r) ← readValue n [.key, .value, .blockEnd] true r
      let (entries, r) ← readBlockEntries n r
      return ((k, v) :: entries, r)
    else none

/-- Reads the items of a flow sequence and its end; a key among them makes a mapping of one entry. -/
def readFlowItems : Nat → Bool → Reader → Option (List Node × Reader)
  | 0, _, _ => none
  | n + 1, first, r =>
    if r.sees [.flowSequenceEnd] then some ([], r.skip)
    else if !first && !r.sees [.flowEntry] then none
    else
      let r := if first then r else r.skip
      if r.sees [.flowSequenceEnd] then some ([], r.skip)
      else if r.sees [.key] then do
        let stops := [.value, .flowEntry, .flowSequenceEnd]
        let r := r.skip.grow 2
        let (k, r) ← if r.sees stops then some r.skip.leaveOut else readPart n [] false false r
        let (v, r) ← readValue n [.flowEntry, .flowSequenceEnd] false r
        let (items, r) ← readFlowItems n false r
        return (.mapping [(k, v)] none :: items, r)
      else do
        let (item, r) ← readPart n [] false false r
        let (items, r) ← readFlowItems n false r
        return (item :: items, r)

/-- Reads the entries of a flow mapping and its end; a node without mark is a key without value. -/
def readFlowEntries : Nat → Bool → Reader → Option (List (Node × Node) × Reader)
  | 0, _, _ => none
  | n + 1, first, r =>
    if r.sees [.flowMappingEnd] then some ([], r.skip)
    else if !first && !r.sees [.flowEntry] then none
    else
      let r := if first then r else r.skip
      if r.sees [.flowMappingEnd] then some ([], r.skip)
      else if r.sees [.key] then do
        let (k, r) ← readPart n [.value, .flowEntry, .flowMappingEnd] false false r.skip
        let (v, r) ← readValue n [.flowEntry, .flowMappingEnd] false r
        let (entries, r) ← readFlowEntries n false r
        return ((k, v) :: entries, r)
      else do
        let (k, r) ← readPart n [] false false r
        let (v, r) := r.leaveOut
        let (entries, r) ← readFlowEntries n false r
        return ((k, v) :: entries, r)

end

/-- Reads the directives in front of a document: at most one version, which is 1.1 or 1.2, and shorthands of tags. -/
def readDirectives :
    List Token → Bool → List (String × List UInt8) → Option (List (String × List UInt8) × List Token)
  | .version major minor :: rest, seen, handles =>
    if seen || major != 1 || (minor != 1 && minor != 2) then none else readDirectives rest true handles
  | .tagShorthand handle lead :: rest, seen, handles =>
    if (Entries.get? handles handle).isSome then none else readDirectives rest seen (handles ++ [(handle, lead)])
  | tokens, _, handles => some (handles, tokens)

/-- The handles that need no directive. -/
def standardHandles : List (String × List UInt8) := [("!", [Tag.mark]), ("!!", CoreType.lead)]

/-- Reads the content of a document. -/
def readRoot (r : Reader) : Option (Node × Reader) := readNode (5 * r.tokens.length + 5) true false r

/-- Reads the content of a document that begins with its marker. -/
def readMarked (r : Reader) : Option (Node × Reader) :=
  match r.tokens with
  | [] => some r.leaveOut
  | .version _ _ :: _ => some r.leaveOut
  | .tagShorthand _ _ :: _ => some r.leaveOut
  | .documentStart :: _ => some r.leaveOut
  | .documentEnd :: _ => some r.leaveOut
  | _ => r.readRoot

/-- Reads the only document of a text; a text without tokens holds an empty one. -/
def readDocument (tokens : List Token) : Option (Node × Reader) :=
  match tokens with
  | [] => some (leaveOut { tokens, handles := [] })
  | .version _ _ :: _ => marked
  | .tagShorthand _ _ :: _ => marked
  | .documentStart :: _ => marked
  | _ => readRoot { tokens, handles := standardHandles }
where
  marked : Option (Node × Reader) :=
    match readDirectives tokens false [] with
    | some (handles, .documentStart :: rest) => readMarked { tokens := rest, handles := handles ++ standardHandles }
    | _ => none

end Reader

/-- The document that a text holds, or nothing when the text is not well formed or holds more than one. -/
def Document.ofText? (text : String) : Option Document := do
  let tokens ← Token.ofText? text
  let (root, r) ← Reader.readDocument tokens
  if r.tokens.all (· == .documentEnd) then
    return { root, targets := r.marked.map fun m => (m.1, m.2.2), size := r.size }
  else none

end TenantGateway.Yaml
