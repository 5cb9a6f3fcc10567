set_option autoImplicit false

/-!
# Text: colours

Words of the output may be coloured for a terminal.  A colour starts with an escape sequence and
ends with the reset sequence.  If the coloured text holds a reset sequence itself, the colour is
started again after it.  Without colours the text stays as it is.

A text may be padded to a width; the blanks then belong to the coloured text.
-/

namespace NfaWorkbench.Text

/-- The colours of the output. -/
inductive Ink
  | dimmed
  | cyan
  | green
  | red
  /-- Bold cyan, for titles. -/
  | title
  deriving DecidableEq, Repr

/-- The escape sequence that starts a colour. -/
def Ink.start : Ink → String
  | dimmed => "\x1b[2m"
  | cyan => "\x1b[36m"
  | green => "\x1b[32m"
  | red => "\x1b[31m"
  | title => "\x1b[1;36m"

/-- The escape sequence that ends a colour. -/
def resetSequence : String := "\x1b[0m"

/-- A text in which a colour goes on after every reset sequence. -/
def restartAfterResets (start : List Char) : List Char → List Char
  | [] => []
  | '\x1b' :: '[' :: '0' :: 'm' :: rest =>
    resetSequence.toList ++ start ++ restartAfterResets start rest
  | c :: rest => c :: restartAfterResets start rest

/-- A text with blanks in front of it, up to a number of characters. -/
def padLeft (width : Nat) (text : String) : String :=
  "".pushn ' ' (width - text.length) ++ text

/-- Whether the output is coloured. -/
structure Palette where
  colored : Bool
  deriving DecidableEq, Repr

namespace Palette

/-- A text in a colour, padded to a width. -/
def paintPadded (p : Palette) (ink : Ink) (width : Nat) (text : String) : String :=
  if p.colored then
    ink.start ++ padLeft width (String.ofList (restartAfterResets ink.start.toList text.toList))
      ++ resetSequence
  else padLeft width text

/-- A text in a colour. -/
def paint (p : Palette) (ink : Ink) (text : String) : String := p.paintPadded ink 0 text

end Palette

example : Palette.paintPadded ⟨true⟩ .cyan 3 "é" = "\x1b[36m  é\x1b[0m" := by decide +kernel
example : Palette.paint ⟨true⟩ .red "a\x1b[0mb" = "\x1b[31ma\x1b[0m\x1b[31mb\x1b[0m" := by
  decide +kernel

end NfaWorkbench.Text
