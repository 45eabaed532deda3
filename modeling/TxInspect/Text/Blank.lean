import TxInspect.Text.CodePoints

/-!
# White space

The characters of the Unicode property `White_Space` (`blanks`), and the removal of them from the
two ends of a text. A text is blank when nothing is left (`isBlankText`).
-/

namespace TxInspect.Text

/-- The code points of the property `White_Space`, in order. -/
def blanks : List (Nat × Nat) := [
  (0x9, 0xD), (0x20, 0x20), (0x85, 0x85), (0xA0, 0xA0), (0x1680, 0x1680), (0x2000, 0x200A),
  (0x2028, 0x2029), (0x202F, 0x202F), (0x205F, 0x205F), (0x3000, 0x3000)]

/-- The character is white space. -/
def isBlank (c : Char) : Bool :=
  inRanges blanks c.toNat

/-- The text without the white space it starts with. -/
def trimStart (cs : List Char) : List Char :=
  cs.dropWhile isBlank

/-- The text without the white space it ends with. -/
def trimEnd (cs : List Char) : List Char :=
  (cs.reverse.dropWhile isBlank).reverse

/-- The text without the white space at its two ends. -/
def trim (cs : List Char) : List Char :=
  trimEnd (trimStart cs)

/-- The text holds nothing but white space. -/
def isBlankText (cs : List Char) : Bool :=
  cs.all isBlank

theorem trimStart_eq_nil_iff {cs : List Char} : trimStart cs = [] ↔ isBlankText cs = true := by
  induction cs with
  | nil => simp [trimStart, isBlankText]
  | cons c cs ih =>
    simp only [trimStart, isBlankText] at ih
    by_cases h : isBlank c = true <;> simp [trimStart, isBlankText, h, ih]

end TxInspect.Text
