import NfaWorkbench.Text.Pieces
import NfaWorkbench.Text.Ranges
set_option autoImplicit false

/-!
# Text: blanks and words

A blank is a character with the Unicode property White_Space.  Command lines are split into words
at blanks, and trimmed of the blanks around them.
-/

namespace NfaWorkbench.Text

/-- The code points with the property White_Space. -/
def blankRanges : Ranges :=
  [(0x9, 0xD), (0x20, 0x20), (0x85, 0x85), (0xA0, 0xA0), (0x1680, 0x1680), (0x2000, 0x200A),
   (0x2028, 0x2029), (0x202F, 0x202F), (0x205F, 0x205F), (0x3000, 0x3000)]

/-- Whether a character is a blank. -/
def isBlank (c : Char) : Bool := blankRanges.contains c.toNat

/-- The words of a text: its longest stretches without a blank, none of them empty. -/
def words (text : String) : List String :=
  ((pieces isBlank text.toList).filter (!·.isEmpty)).map String.ofList

/-- A text without the blanks at its two ends. -/
def trim (text : String) : String :=
  String.ofList (((text.toList.dropWhile isBlank).reverse.dropWhile isBlank).reverse)

example : words "  step \u00a0 x\n" = ["step", "x"] := by decide +kernel
example : words " \t " = [] ∧ trim " a b\n" = "a b" := by decide +kernel

end NfaWorkbench.Text
