/-!
# Places in a YAML text

The characters that separate, break and indent the lines of a YAML text, and a place in such a text: what is left to read
and how far it is from the start of the text, in bytes, and of the line, in characters.
-/

namespace TenantGateway.Yaml

/-- A line ends at a carriage return, a line feed, a next line, a line separator or a paragraph separator. -/
def isBreak (c : Char) : Bool :=
  c == '\n' || c == '\r' || c == '\x85' || c == '\u2028' || c == '\u2029'

/-- A space or a tab. -/
def isBlank (c : Char) : Bool := c == ' ' || c == '\t'

/-- A character that ends a word: a blank or a break. -/
def isGap (c : Char) : Bool := isBlank c || isBreak c

/-- A character of the name of an anchor, a directive or a tag handle. -/
def isWord (c : Char) : Bool := c.isAlphanum || c == '-' || c == '_'

/-- The characters that a YAML text may hold. -/
def isAllowed (c : Char) : Bool :=
  let n := c.toNat
  n == 0x09 || n == 0x0A || n == 0x0D || (0x20 ≤ n && n ≤ 0x7E) || n == 0x85 || (0xA0 ≤ n && n ≤ 0xD7FF) ||
    (0xE000 ≤ n && n ≤ 0xFFFD) || 0x10000 ≤ n

/-- Whether nothing or a blank or a break comes first. -/
def atGap (cs : List Char) : Bool :=
  match cs with
  | [] => true
  | c :: _ => isGap c

/-- Whether nothing or a break comes first. -/
def atBreak (cs : List Char) : Bool :=
  match cs with
  | [] => true
  | c :: _ => isBreak c

/-- A place in a text. -/
structure Cursor where
  /-- What is left to read. -/
  rest : List Char
  /-- The number of bytes before, in UTF-8. -/
  index : Nat
  /-- The number of lines before. -/
  line : Nat
  /-- The number of characters before in the same line. -/
  column : Nat
  deriving Inhabited

namespace Cursor

/-- The start of a text. -/
def start (text : List Char) : Cursor := ⟨text, 0, 0, 0⟩

/-- The number of bytes of the first characters that are left. -/
def bytesAhead (c : Cursor) (n : Nat) : Nat := (c.rest.take n).foldl (fun bytes char => bytes + char.utf8Size) 0

/-- The place so many characters further in the same line. -/
def advance (c : Cursor) (n : Nat) : Cursor :=
  ⟨c.rest.drop n, c.index + c.bytesAhead n, c.line, c.column + n⟩

/-- The place behind the longest run of characters of a class that holds no break. -/
def skipWhile (c : Cursor) (p : Char → Bool) : Cursor :=
  c.advance (c.rest.takeWhile p).length

/-- The place at the end of the line. -/
def toLineEnd (c : Cursor) : Cursor := c.skipWhile fun ch => !isBreak ch

/-- The break at a place as it counts in a scalar, and the start of the next line. Breaks count as line feeds, except for
the two separators, which stay as they are; where there is no break, nothing is read. -/
def takeBreak (c : Cursor) : List Char × Cursor :=
  match c.rest with
  | '\r' :: '\n' :: rest => (['\n'], ⟨rest, c.index + 2, c.line + 1, 0⟩)
  | ch :: rest =>
    let next : Cursor := ⟨rest, c.index + ch.utf8Size, c.line + 1, 0⟩
    if ch == '\u2028' || ch == '\u2029' then ([ch], next)
    else if isBreak ch then (['\n'], next)
    else ([], c)
  | [] => ([], c)

/-- Whether a line begins here with the marker of a document: three times the same character, then a gap. -/
def atMarker (c : Cursor) (mark : Char) : Bool :=
  c.column == 0 && c.rest.take 3 == [mark, mark, mark] && atGap (c.rest.drop 3)

/-- Whether a line begins here with the marker of the start or the end of a document. -/
def atDocumentMarker (c : Cursor) : Bool := c.atMarker '-' || c.atMarker '.'

end Cursor

end TenantGateway.Yaml
