import TenantGateway.Yaml.Cursor

/-!
# YAML scalars

The text of a scalar is written plain, in single or double quotes, or as a block of indented lines. In the first three
forms a line break inside the scalar counts as a space, and further breaks next to it count as they are.
-/

namespace TenantGateway.Yaml

/-- How a scalar is written. -/
inductive ScalarStyle
  | plain
  | quoted
  /-- A block whose line breaks stay. -/
  | literal
  /-- A block whose lines are joined. -/
  | folded
  deriving DecidableEq, Inhabited

/-! ## Gaps inside a scalar -/

/-- Blanks and breaks between the words of a scalar. -/
structure Gap where
  /-- Whether a break was met; blanks behind it are indentation. -/
  broken : Bool
  /-- The blanks before any break. -/
  blanks : List Char
  /-- The first break. -/
  first : List Char
  /-- The breaks behind the first one. -/
  more : List Char

namespace Gap

/-- Nothing between two words. -/
def none : Gap := ⟨false, [], [], []⟩

/-- A break that does not count, because it is escaped. -/
def escaped : Gap := ⟨true, [], [], []⟩

/-- What a gap counts as. -/
def folded (g : Gap) : List Char :=
  if g.broken then
    if g.first == ['\n'] then (if g.more.isEmpty then [' '] else g.more) else g.first ++ g.more
  else g.blanks

/-- Reads blanks and breaks. Behind a break, a tab in a column before the given one is refused. -/
def readUpTo : Nat → Int → Gap → Cursor → Option (Gap × Cursor)
  | 0, _, g, c => some (g, c)
  | n + 1, indent, g, c =>
    match c.rest with
    | [] => some (g, c)
    | ch :: _ =>
      if isBlank ch then
        if g.broken then
          if ch == '\t' && c.column < indent then Option.none else readUpTo n indent g (c.advance 1)
        else readUpTo n indent { g with blanks := g.blanks ++ [ch] } (c.advance 1)
      else if isBreak ch then
        let (text, c') := c.takeBreak
        if g.broken then readUpTo n indent { g with more := g.more ++ text } c'
        else readUpTo n indent ⟨true, [], text, []⟩ c'
      else some (g, c)

/-- Reads the gap at a place, as a continuation of what was read of it before. -/
def read (indent : Int) (g : Gap) (c : Cursor) : Option (Gap × Cursor) :=
  readUpTo c.rest.length indent g c

end Gap

/-! ## Quoted scalars -/

/-- What follows a backslash: a character, or the number of hexadecimal digits of its code. -/
def escape? : Char → Option (Char ⊕ Nat)
  | '0' => some (.inl '\x00')
  | 'a' => some (.inl '\x07')
  | 'b' => some (.inl '\x08')
  | 't' => some (.inl '\t')
  | '\t' => some (.inl '\t')
  | 'n' => some (.inl '\n')
  | 'v' => some (.inl '\x0b')
  | 'f' => some (.inl '\x0c')
  | 'r' => some (.inl '\r')
  | 'e' => some (.inl '\x1b')
  | ' ' => some (.inl ' ')
  | '"' => some (.inl '"')
  | '/' => some (.inl '/')
  | '\\' => some (.inl '\\')
  | 'N' => some (.inl '\x85')
  | '_' => some (.inl '\xa0')
  | 'L' => some (.inl '\u2028')
  | 'P' => some (.inl '\u2029')
  | 'x' => some (.inr 2)
  | 'u' => some (.inr 4)
  | 'U' => some (.inr 8)
  | _ => none

/-- The value of a hexadecimal digit. -/
def hexValue? (c : Char) : Option Nat :=
  if c.isDigit then some (c.toNat - 48)
  else if 'a' ≤ c && c ≤ 'f' then some (c.toNat - 87)
  else if 'A' ≤ c && c ≤ 'F' then some (c.toNat - 55)
  else none

/-- The number that digits of the given base spell; there has to be at least one. -/
def number? (base : Nat) (digits : List Char) : Option Nat :=
  if digits.isEmpty then none
  else digits.foldlM (fun n c => do
    let d ← hexValue? c
    if d < base then some (n * base + d) else none) 0

/-- The character whose code the digits spell. -/
def charOfHex? (digits : List Char) (count : Nat) : Option Char := do
  if digits.length = count then
    let n ← number? 16 digits
    if n.isValidChar then some (Char.ofNat n) else none
  else none

/-- Reads a quoted scalar behind its opening quote. Text read before is given in reverse. -/
def readQuotedUpTo : Nat → Bool → List Char → Cursor → Option (List Char × Cursor)
  | 0, _, _, _ => none
  | n + 1, double, text, c =>
    match c.rest with
    | [] => none
    | ch :: rest =>
      if isGap ch then do
        let (g, c') ← Gap.read 0 .none c
        if c'.atDocumentMarker then none
        else readQuotedUpTo n double (g.folded.reverse ++ text) c'
      else if !double && ch == '\'' then
        if rest.head? == some '\'' then readQuotedUpTo n double ('\'' :: text) (c.advance 2)
        else some (text.reverse, c.advance 1)
      else if double && ch == '"' then some (text.reverse, c.advance 1)
      else if double && ch == '\\' then
        match rest with
        | [] => none
        | e :: digits =>
          if isBreak e then do
            let (g, c') ← Gap.read 0 .escaped (c.advance 1).takeBreak.2
            if c'.atDocumentMarker then none
            else readQuotedUpTo n double (g.folded.reverse ++ text) c'
          else do
            match ← escape? e with
            | .inl value => readQuotedUpTo n double (value :: text) (c.advance 2)
            | .inr count =>
              let value ← charOfHex? (digits.take count) count
              readQuotedUpTo n double (value :: text) (c.advance (2 + count))
      else readQuotedUpTo n double (ch :: text) (c.advance 1)

/-- Reads a quoted scalar from its opening quote on. -/
def readQuoted (double : Bool) (c : Cursor) : Option (List Char × Cursor) :=
  readQuotedUpTo (c.rest.length + 1) double [] (c.advance 1)

/-! ## Plain scalars -/

/-- A plain scalar that was read. -/
structure PlainText where
  text : List Char
  /-- Whether a line break was read behind the last word. -/
  broken : Bool
  /-- Where reading stopped. -/
  after : Cursor

/-- Characters that end a plain scalar inside a flow collection. -/
def isFlowMark (c : Char) : Bool := c == ',' || c == '[' || c == ']' || c == '{' || c == '}'

/-- Reads a plain scalar whose lines are indented to the given column. Text read before is given in reverse, together with
the gap behind it. -/
def readPlainUpTo : Nat → Bool → Int → List Char → Gap → Cursor → Option PlainText
  | 0, _, _, _, _, _ => none
  | n + 1, flow, indent, text, g, c =>
    let done := some ⟨text.reverse, g.broken, c⟩
    match c.rest with
    | [] => done
    | ch :: rest =>
      if isGap ch then do
        let (g', c') ← Gap.read indent .none c
        if (!flow && c'.column < indent) || c'.atDocumentMarker || c'.rest.head? == some '#' then
          some ⟨text.reverse, g'.broken, c'⟩
        else readPlainUpTo n flow indent text g' c'
      else if flow && ch == ':' && rest.head?.any (fun e => isFlowMark e || e == '?') then none
      else if (ch == ':' && atGap rest) || (flow && isFlowMark ch) then done
      else readPlainUpTo n flow indent (ch :: (g.folded.reverse ++ text)) .none (c.advance 1)

/-- Reads a plain scalar. -/
def readPlain (flow : Bool) (indent : Int) (c : Cursor) : Option PlainText :=
  readPlainUpTo (c.rest.length + 1) flow indent [] .none c

/-! ## Block scalars -/

/-- What is done with the line breaks at the end of a block scalar. -/
inductive Chomping
  | strip
  | clip
  | keep
  deriving DecidableEq

/-- Reads the optional indicators behind the mark of a block scalar: chomping and indentation, in either order. -/
def readBlockHeader (c : Cursor) : Option (Chomping × Nat × Cursor) :=
  let chomping (ch : Char) : Chomping := if ch == '+' then .keep else .strip
  match c.rest with
  | a :: rest =>
    if a == '+' || a == '-' then
      match rest with
      | d :: _ =>
        if d == '0' then none
        else if d.isDigit then some (chomping a, d.toNat - 48, c.advance 2)
        else some (chomping a, 0, c.advance 1)
      | [] => some (chomping a, 0, c.advance 1)
    else if a == '0' then none
    else if a.isDigit then
      match rest with
      | s :: _ =>
        if s == '+' || s == '-' then some (chomping s, a.toNat - 48, c.advance 2)
        else some (.clip, a.toNat - 48, c.advance 1)
      | [] => some (.clip, a.toNat - 48, c.advance 1)
    else some (.clip, 0, c)
  | [] => some (.clip, 0, c)

/-- Reads empty lines up to the given indentation; with indentation 0 it is not known yet. Answers their breaks, the widest
indentation met and the place reached. -/
def readEmptyLines : Nat → Nat → List Char → Nat → Cursor → Option (List Char × Nat × Cursor)
  | 0, _, breaks, widest, c => some (breaks, widest, c)
  | n + 1, indent, breaks, widest, c =>
    let spaces := (c.rest.takeWhile (· == ' ')).length
    let c' := c.advance (if indent = 0 then spaces else min spaces (indent - c.column))
    let widest' := max widest c'.column
    match c'.rest with
    | [] => some (breaks, widest', c')
    | ch :: _ =>
      if ch == '\t' && (indent = 0 || c'.column < indent) then none
      else if isBreak ch then
        let (text, c'') := c'.takeBreak
        readEmptyLines n indent (breaks ++ text) widest' c''
      else some (breaks, widest', c')

/-- What is known in the middle of a block scalar. -/
structure BlockText where
  /-- The text read, in reverse. -/
  text : List Char
  /-- The break behind the last line read. -/
  lineBreak : List Char
  /-- The empty lines behind it. -/
  emptyLines : List Char
  /-- Whether the last line read began with a blank. -/
  indented : Bool

/-- What stands between two lines of a block scalar. -/
def BlockText.joint (b : BlockText) (literal indented : Bool) : List Char :=
  if !literal && b.lineBreak == ['\n'] && !b.indented && !indented then
    (if b.emptyLines.isEmpty then [' '] else []) ++ b.emptyLines
  else b.lineBreak ++ b.emptyLines

/-- Reads the lines of a block scalar with the given indentation. -/
def readBlockLines : Nat → Bool → Nat → BlockText → Cursor → Option (BlockText × Cursor)
  | 0, _, _, b, c => some (b, c)
  | n + 1, literal, indent, b, c =>
    if c.column == indent && !c.rest.isEmpty then do
      let indented := c.rest.head?.any isBlank
      let line := c.rest.takeWhile fun ch => !isBreak ch
      let (lineBreak, c') := c.toLineEnd.takeBreak
      let (emptyLines, _, c'') ← readEmptyLines (c'.rest.length + 1) indent [] 0 c'
      readBlockLines n literal indent
        ⟨line.reverse ++ ((b.joint literal indented).reverse ++ b.text), lineBreak, emptyLines, indented⟩ c''
    else some (b, c)

/-- Reads a block scalar from its mark on, inside a block with the given indentation. -/
def readBlock (literal : Bool) (parentIndent : Int) (c : Cursor) : Option (List Char × Cursor) := do
  let (chomping, increment, c) ← readBlockHeader (c.advance 1)
  let c := c.skipWhile isBlank
  let c := if c.rest.head? == some '#' then c.toLineEnd else c
  if !atBreak c.rest then none
  else
    let c := c.takeBreak.2
    let least := (parentIndent + 1).toNat
    let given := if increment = 0 then 0 else (max parentIndent 0).toNat + increment
    let (emptyLines, widest, c) ← readEmptyLines (c.rest.length + 1) given [] 0 c
    let indent := if given = 0 then max (max widest least) 1 else given
    let (b, c) ← readBlockLines (c.rest.length + 1) literal indent ⟨[], [], emptyLines, false⟩ c
    let ending :=
      match chomping with
      | .strip => []
      | .clip => b.lineBreak
      | .keep => b.lineBreak ++ b.emptyLines
    some (b.text.reverse ++ ending, c)

end TenantGateway.Yaml
