import TenantGateway.Yaml.Tag

/-!
# YAML tokens

A YAML text is cut into tokens before its structure is read. Indentation becomes tokens that open and close blocks. A
mapping key need not be marked: it is recognised when a colon follows it, and then the tokens that mark it are put in
front of it. Such a key has to end in the line in which it began and may be 1024 bytes long.
-/

namespace TenantGateway.Yaml

/-- The tokens of a YAML text. -/
inductive Token
  | version (major minor : Nat)
  | tagShorthand (handle : String) (lead : List UInt8)
  | documentStart
  | documentEnd
  | blockSequenceStart
  | blockMappingStart
  | blockEnd
  | flowSequenceStart
  | flowSequenceEnd
  | flowMappingStart
  | flowMappingEnd
  | blockEntry
  | flowEntry
  | key
  | value
  | alias (name : String)
  | anchor (name : String)
  | tag (handle : String) (ending : List UInt8)
  | scalar (text : String) (style : ScalarStyle)
  deriving DecidableEq, Inhabited

/-- A place where a key may have begun. -/
structure KeyStart where
  /-- There has to be a key, because the text is indented like the keys around it. -/
  required : Bool
  /-- The number of tokens before. -/
  token : Nat
  place : Cursor

/-- What is known in the middle of a text. -/
structure Lexer where
  cursor : Cursor
  /-- The tokens found, the last one first. -/
  tokens : List Token
  /-- The number of tokens found. -/
  count : Nat
  /-- For the block context and every open flow collection, where a key may have begun, the innermost first. -/
  keys : List (Option KeyStart)
  /-- Whether a key may begin here. -/
  keyAllowed : Bool
  /-- The indentation of the innermost block, or -1 outside of all blocks. -/
  indent : Int
  /-- The indentations of the blocks around it. -/
  outer : List Int

namespace Lexer

/-- The start of a text. -/
def start (text : List Char) : Lexer := ⟨.start text, [], 0, [none], true, -1, []⟩

/-- Whether a flow collection is open. -/
def inFlow (x : Lexer) : Bool := 1 < x.keys.length

/-- The text that is left. -/
def rest (x : Lexer) : List Char := x.cursor.rest

/-- One more token. -/
def push (x : Lexer) (t : Token) : Lexer := { x with tokens := t :: x.tokens, count := x.count + 1 }

/-- One more token, after the given number of tokens. -/
def insertAt (x : Lexer) (place : Nat) (t : Token) : Lexer :=
  let later := x.count - place
  { x with tokens := x.tokens.take later ++ t :: x.tokens.drop later, count := x.count + 1 }

/-- The lexer at another place. -/
def moveTo (x : Lexer) (c : Cursor) : Lexer := { x with cursor := c }

/-- The lexer so many characters further. -/
def advance (x : Lexer) (n : Nat) : Lexer := x.moveTo (x.cursor.advance n)

/-- Opens a block at a column that is further right than the innermost one, after the given number of tokens. -/
def openBlock (x : Lexer) (column place : Nat) (t : Token) : Lexer :=
  if !x.inFlow && x.indent < column then
    { x.insertAt place t with indent := column, outer := x.indent :: x.outer }
  else x

/-- Closes the blocks with the given outer indentations, innermost first, that are further right than the column. -/
def closeBlocksOf (column : Int) : List Int → Lexer → Lexer
  | [], x => x
  | outer :: more, x =>
    if column < x.indent then closeBlocksOf column more { x.push .blockEnd with indent := outer, outer := more } else x

/-- Closes the blocks that are further right than the column. -/
def closeBlocks (x : Lexer) (column : Int) : Lexer :=
  if x.inFlow then x else closeBlocksOf column x.outer x

/-- No key begins in the innermost context any more; refused when there has to be one. -/
def dropKey (x : Lexer) : Option Lexer :=
  match x.keys with
  | some k :: more => if k.required then none else some { x with keys := none :: more }
  | _ => some x

/-- A key may begin here, if keys are allowed. -/
def saveKey (x : Lexer) : Option Lexer :=
  if x.keyAllowed then do
    let x' ← x.dropKey
    let k : KeyStart := ⟨!x.inFlow && x.indent == x.cursor.column, x.count, x.cursor⟩
    return { x' with keys := some k :: x'.keys.drop 1 }
  else some x

/-- Whether a key that began at the place may still be going on at the other. -/
def isFresh (k : KeyStart) (c : Cursor) : Bool :=
  k.place.line == c.line && c.index ≤ k.place.index + 1024

/-- Forgets the keys that may not reach this place; refused when there has to be one of them. -/
def dropStaleKeys (x : Lexer) : Option Lexer := do
  let keys ← x.keys.mapM fun k =>
    match k with
    | none => some none
    | some k => if isFresh k x.cursor then some (some k) else if k.required then none else some none
  return { x with keys }

/-- Whether a key may begin behind the next token. -/
def allowKey (x : Lexer) (allowed : Bool) : Lexer := { x with keyAllowed := allowed }

/-! ## Between tokens -/

/-- Skips blanks, comments and breaks. A line may begin with a byte order mark, which counts as a character of it. A tab is
no blank where a key may begin in a block. -/
def skipGapUpTo : Nat → Lexer → Lexer
  | 0, x => x
  | n + 1, x =>
    let c := if x.cursor.column == 0 && x.rest.head? == some '\uFEFF' then x.cursor.advance 1 else x.cursor
    let c := c.skipWhile fun ch => ch == ' ' || (ch == '\t' && (x.inFlow || !x.keyAllowed))
    let c := if c.rest.head? == some '#' then c.toLineEnd else c
    if c.rest.head?.any isBreak then
      skipGapUpTo n { x with cursor := c.takeBreak.2, keyAllowed := x.keyAllowed || !x.inFlow }
    else x.moveTo c

/-! ## Directives, anchors and tags -/

/-- Skips the rest of a line, which may hold blanks and a comment. -/
def endLine (c : Cursor) : Option Cursor :=
  let c := c.skipWhile isBlank
  let c := if c.rest.head? == some '#' then c.toLineEnd else c
  if atBreak c.rest then some c.takeBreak.2 else none

/-- Reads a version, two numbers with a point between them. -/
def readVersion (c : Cursor) : Option (Token × Cursor) := do
  let c := c.skipWhile isBlank
  let major := c.rest.takeWhile Char.isDigit
  let c := c.skipWhile Char.isDigit
  if c.rest.head? != some '.' then none
  else
    let c := c.advance 1
    let minor := c.rest.takeWhile Char.isDigit
    if 9 < major.length || 9 < minor.length then none
    else return (.version (← number? 10 major) (← number? 10 minor), c.skipWhile Char.isDigit)

/-- The characters of a tag besides those of words. -/
def isTagChar (verbatim : Bool) (c : Char) : Bool :=
  isWord c || ";/?:@&=+$.%!~*'()".toList.contains c || (verbatim && (c == ',' || c == '[' || c == ']'))

/-- Reads the handle of a tag: an exclamation mark, and a word between two of them if the second is there. -/
def readHandle (c : Cursor) : Option (List Char × Cursor) :=
  if c.rest.head? != some '!' then none
  else
    let word := (c.rest.drop 1).takeWhile isWord
    let c' := c.advance (1 + word.length)
    if c'.rest.head? == some '!' then some ('!' :: word ++ ['!'], c'.advance 1) else some ('!' :: word, c')

/-- Reads a run of characters of a tag. -/
def readTagText (verbatim : Bool) (c : Cursor) : Option (List UInt8 × Cursor) :=
  let text := c.rest.takeWhile (isTagChar verbatim)
  (Tag.decode? text).map fun bytes => (bytes, c.advance text.length)

/-- Reads a tag shorthand: a handle and what it stands for. -/
def readShorthand (c : Cursor) : Option (Token × Cursor) := do
  let c := c.skipWhile isBlank
  let (handle, c) ← readHandle c
  if handle.getLast? != some '!' || !c.rest.head?.any isBlank then none
  else
    let (lead, c) ← readTagText true (c.skipWhile isBlank)
    if lead.isEmpty || !atGap c.rest then none
    else return (.tagShorthand (String.ofList handle) (Tag.cut lead), c)

/-- Reads a directive. -/
def readDirective (c : Cursor) : Option (Token × Cursor) := do
  let c := c.advance 1
  let name := c.rest.takeWhile isWord
  let c := c.skipWhile isWord
  if !atGap c.rest then none
  else
    let (t, c) ←
      if name == "YAML".toList then readVersion c
      else if name == "TAG".toList then readShorthand c
      else none
    return (t, ← endLine c)

/-- The characters other than gaps that may follow the name of an anchor. -/
def isNameEnd (c : Char) : Bool := "?:,]\x7d%@`".toList.contains c

/-- Reads the name of an anchor behind its mark. -/
def readName (c : Cursor) : Option (String × Cursor) :=
  let name := (c.rest.drop 1).takeWhile isWord
  let c := c.advance (1 + name.length)
  if name.isEmpty || !(atGap c.rest || c.rest.head?.any isNameEnd) then none
  else some (String.ofList name, c)

/-- Reads a tag that is written out between angle brackets. -/
def readVerbatimTag (c : Cursor) : Option (Token × Cursor) := do
  let (text, c) ← readTagText true (c.advance 2)
  if text.isEmpty || c.rest.head? != some '>' then none
  else return (.tag "" (Tag.cut text), c.advance 1)

/-- Reads a tag that is written behind a handle. The mark alone is a whole tag. -/
def readShortTag (c : Cursor) : Option (Token × Cursor) := do
  let (handle, c) ← readHandle c
  let (text, c) ← readTagText false c
  if 1 < handle.length && handle.getLast? == some '!' then
    if text.isEmpty then none else return (.tag (String.ofList handle) (Tag.cut text), c)
  else
    let text := Tag.cut (Text.utf8 (String.ofList (handle.drop 1)) ++ text)
    return (if text.isEmpty then .tag "" [Tag.mark] else .tag "!" text, c)

/-- Reads a tag. -/
def readTag (inFlow : Bool) (c : Cursor) : Option (Token × Cursor) := do
  let (t, c) ← if (c.rest.drop 1).head? == some '<' then readVerbatimTag c else readShortTag c
  if atGap c.rest || (inFlow && c.rest.head? == some ',') then return (t, c) else none

/-! ## Tokens -/

/-- Leaves all blocks, before a directive or the marker of a document. -/
def leaveBlocks (x : Lexer) : Option Lexer := do
  let x ← (x.closeBlocks (-1)).dropKey
  return x.allowKey false

/-- The opening of a flow collection. -/
def openFlow (x : Lexer) (t : Token) : Option Lexer := do
  let x ← x.saveKey
  return (({ x with keys := none :: x.keys } : Lexer).allowKey true |>.push t).advance 1

/-- The end of a flow collection. -/
def closeFlow (x : Lexer) (t : Token) : Option Lexer := do
  let x ← x.dropKey
  let x := if x.inFlow then { x with keys := x.keys.drop 1 } else x
  return ((x.allowKey false).push t).advance 1

/-- The mark of an item of a flow collection. -/
def flowItem (x : Lexer) : Option Lexer := do
  let x ← x.dropKey
  return ((x.allowKey true).push .flowEntry).advance 1

/-- The mark of an item of a block sequence. -/
def blockItem (x : Lexer) : Option Lexer := do
  if !x.inFlow && !x.keyAllowed then none
  else
    let x ← (x.openBlock x.cursor.column x.count .blockSequenceStart).dropKey
    return ((x.allowKey true).push .blockEntry).advance 1

/-- The mark of a key. -/
def keyMark (x : Lexer) : Option Lexer := do
  if !x.inFlow && !x.keyAllowed then none
  else
    let x ← (x.openBlock x.cursor.column x.count .blockMappingStart).dropKey
    return ((x.allowKey (!x.inFlow)).push .key).advance 1

/-- The mark of a value. The key in front of it gets its mark, if it has none. -/
def valueMark (x : Lexer) : Option Lexer :=
  match x.keys with
  | some k :: more =>
    let x := (x.insertAt k.token .key).openBlock k.place.column k.token .blockMappingStart
    some ((({ x with keys := none :: more } : Lexer).allowKey false |>.push .value).advance 1)
  | _ =>
    if !x.inFlow && !x.keyAllowed then none
    else
      let x := x.openBlock x.cursor.column x.count .blockMappingStart
      some (((x.allowKey (!x.inFlow)).push .value).advance 1)

/-- A token that may begin a key, and where it ends. -/
def content (x : Lexer) (read : Cursor → Option (Token × Cursor)) : Option Lexer := do
  let x ← x.saveKey
  let (t, c) ← read x.cursor
  return ((x.allowKey false).push t).moveTo c

/-- A plain scalar. -/
def plainScalar (x : Lexer) : Option Lexer := do
  let x ← x.saveKey
  let s ← readPlain x.inFlow (x.indent + 1) x.cursor
  return ((x.allowKey s.broken).push (.scalar (String.ofList s.text) .plain)).moveTo s.after

/-- A block scalar. -/
def blockScalar (x : Lexer) (literal : Bool) : Option Lexer := do
  let x ← x.dropKey
  let (text, c) ← readBlock literal x.indent x.cursor
  return ((x.allowKey true).push (.scalar (String.ofList text) (if literal then .literal else .folded))).moveTo c

/-- A quoted scalar. -/
def quotedScalar (x : Lexer) (double : Bool) : Option Lexer :=
  x.content fun c => (readQuoted double c).map fun r => (.scalar (String.ofList r.1) .quoted, r.2)

/-- The characters that cannot begin a plain scalar. -/
def isIndicator (c : Char) : Bool := "-?:,[]\x7b\x7d#&*!|>'\"%@`".toList.contains c

/-- The token at this place, which is no gap. -/
def token (x : Lexer) (ch : Char) (rest : List Char) : Option Lexer := do
  if x.cursor.column == 0 && ch == '%' then
    let x ← x.leaveBlocks
    let (t, c) ← readDirective x.cursor
    return (x.push t).moveTo c
  else if x.cursor.atMarker '-' then return ((← x.leaveBlocks).push .documentStart).advance 3
  else if x.cursor.atMarker '.' then return ((← x.leaveBlocks).push .documentEnd).advance 3
  else if ch == '[' then x.openFlow .flowSequenceStart
  else if ch == '{' then x.openFlow .flowMappingStart
  else if ch == ']' then x.closeFlow .flowSequenceEnd
  else if ch == '}' then x.closeFlow .flowMappingEnd
  else if ch == ',' then x.flowItem
  else if ch == '-' && atGap rest then x.blockItem
  else if ch == '?' && (x.inFlow || atGap rest) then x.keyMark
  else if ch == ':' && (x.inFlow || atGap rest) then x.valueMark
  else if ch == '*' then x.content fun c => (readName c).map fun r => (.alias r.1, r.2)
  else if ch == '&' then x.content fun c => (readName c).map fun r => (.anchor r.1, r.2)
  else if ch == '!' then x.content (readTag x.inFlow)
  else if ch == '|' && !x.inFlow then x.blockScalar true
  else if ch == '>' && !x.inFlow then x.blockScalar false
  else if ch == '\'' then x.quotedScalar false
  else if ch == '"' then x.quotedScalar true
  else if !isIndicator ch && !isGap ch || ch == '-' && !rest.head?.any isBlank ||
      !x.inFlow && (ch == '?' || ch == ':') then x.plainScalar
  else none

/-- Reads tokens to the end of the text, which closes all blocks. -/
def runUpTo : Nat → Lexer → Option (List Token)
  | 0, _ => none
  | n + 1, x => do
    let x := skipGapUpTo (x.rest.length + 1) x
    let x ← x.dropStaleKeys
    match x.rest with
    | [] =>
      let x ← (x.closeBlocks (-1)).dropKey
      return x.tokens.reverse
    | ch :: rest => runUpTo n (← (x.closeBlocks x.cursor.column).token ch rest)

end Lexer

/-- The tokens of a text, or nothing when it is not well formed. -/
def Token.ofText? (text : String) : Option (List Token) :=
  let cs := text.toList
  if cs.all isAllowed then Lexer.runUpTo (cs.length + 1) (.start cs) else none

end TenantGateway.Yaml
