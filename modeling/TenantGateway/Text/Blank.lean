/-!
# Blank text

The blank characters are those with the Unicode property White_Space. Trimming a text drops them from both ends and keeps
every other character; a text is blank when nothing is left.
-/

namespace TenantGateway.Text

/-- A character is blank when it has the Unicode property White_Space. -/
def isBlankChar (c : Char) : Bool :=
  let n := c.toNat
  (9 ≤ n && n ≤ 13) || n == 0x20 || n == 0x85 || n == 0xA0 || n == 0x1680 || (0x2000 ≤ n && n ≤ 0x200A) ||
    n == 0x2028 || n == 0x2029 || n == 0x202F || n == 0x205F || n == 0x3000

/-- A text without its longest ending of characters in the given class. This is `List.rdropWhile`, written out because the definitions
that run build on the core library alone. -/
def dropEnding (p : Char → Bool) (cs : List Char) : List Char :=
  (cs.reverse.dropWhile p).reverse

/-- A text without the blank characters at either end. -/
def trim (cs : List Char) : List Char :=
  dropEnding isBlankChar (cs.dropWhile isBlankChar)

/-- A text is blank when it holds blank characters only, the empty text included. -/
def isBlank (s : String) : Bool :=
  s.toList.all isBlankChar

/-- A string without the blank characters at either end. -/
def trimmed (s : String) : String :=
  String.ofList (trim s.toList)

/-- A blank text trims to nothing. -/
theorem trim_of_all_blank {cs : List Char} (h : cs.all isBlankChar = true) : trim cs = [] := by
  have h' : cs.dropWhile isBlankChar = [] := by
    induction cs with
    | nil => rfl
    | cons c cs ih =>
      simp only [List.all_cons, Bool.and_eq_true] at h
      simp [h.1, ih h.2]
  simp [trim, dropEnding, h']

end TenantGateway.Text
