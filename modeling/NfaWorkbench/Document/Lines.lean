import NfaWorkbench.Text.Pieces
set_option autoImplicit false

/-!
# Documents: lines of bytes

A document is a sequence of bytes.  A line ends at a line feed, and one carriage return directly
before the line feed belongs to the line end.  What follows the last line feed is a line too unless
it is empty; it keeps a carriage return at its end.
-/

namespace NfaWorkbench.Document

/-- The byte that ends a line. -/
def lineFeed : UInt8 := 10

/-- The byte that may stand before the line feed. -/
def carriageReturn : UInt8 := 13

/-- A line without one carriage return at its end. -/
def dropCarriageReturn (line : List UInt8) : List UInt8 :=
  if line.getLast? = some carriageReturn then line.dropLast else line

/-- The lines that are ended by a line feed, and the bytes after the last line feed. -/
def splitLines (bytes : List UInt8) : List (List UInt8) × List UInt8 :=
  let pieces := Text.pieces (· == lineFeed) bytes
  (pieces.dropLast.map dropCarriageReturn, pieces.getLastD [])

/-- All lines of a document. -/
def lines (bytes : List UInt8) : List (List UInt8) :=
  let (ended, rest) := splitLines bytes
  if rest = [] then ended else ended ++ [rest]

/-- The text of a line, if its bytes are text. -/
def decodeLine (line : List UInt8) : Option String := String.fromUTF8? ⟨line.toArray⟩

/-- The bytes of a text. -/
def encode (text : String) : List UInt8 := text.toUTF8.toList

example : lines (encode "a\r\nb\n\nc\r") = [encode "a", encode "b", [], encode "c\r"] := by
  decide +kernel
example : lines [] = [] ∧ lines (encode "\n") = [[]] := by decide +kernel

end NfaWorkbench.Document
