import NfaWorkbench.Json.Basic
import NfaWorkbench.Text.Hexadecimal
set_option autoImplicit false

/-!
# JSON: strings

Between its quotes a string is a sequence of characters and escapes.  An escape with four
hexadecimal digits gives a UTF-16 unit; two such units in a row may be the halves of one character.
So a string is read in two stages: into the numbers of its characters and units, and from these
into text.  A half that stands alone makes the string one without text.

Writing escapes the quote, the backslash and the control characters, and nothing else.
-/

namespace NfaWorkbench.Json

/-! ## Reading -/

/-- The character that a backslash and this character stand for. -/
def escaped? (c : Char) : Option Char :=
  if c = '\x22' ∨ c = '\x5c' ∨ c = '/' then some c
  else if c = 'b' then some '\x08'
  else if c = 'f' then some '\x0c'
  else if c = 'n' then some '\n'
  else if c = 'r' then some '\r'
  else if c = 't' then some '\t'
  else none

/-- Puts one more number in front of what was read. -/
def consUnit (unit : Nat) : Option (List Nat × List Char) → Option (List Nat × List Char)
  | some (units, rest) => some (unit :: units, rest)
  | none => none

/-- Reads a string up to its closing quote: the numbers of its characters and units, and what
follows the quote. -/
def readUnits : List Char → Option (List Nat × List Char)
  | [] => none
  | '\x22' :: rest => some ([], rest)
  | '\x5c' :: 'u' :: a :: b :: c :: d :: rest =>
    match Text.hexNumber? [a, b, c, d] with
    | some unit => consUnit unit (readUnits rest)
    | none => none
  | '\x5c' :: c :: rest =>
    match escaped? c with
    | some c => consUnit c.toNat (readUnits rest)
    | none => none
  | c :: rest => if c < ' ' ∨ c = '\x5c' then none else consUnit c.toNat (readUnits rest)

/-- Whether a unit is the first half of a surrogate pair. -/
def isFirstHalf (unit : Nat) : Bool := 0xD800 ≤ unit && unit < 0xDC00

/-- Whether a unit is the second half of a surrogate pair. -/
def isSecondHalf (unit : Nat) : Bool := 0xDC00 ≤ unit && unit < 0xE000

/-- The character of a surrogate pair. -/
def pairCharacter (first second : Nat) : Char :=
  Char.ofNat (0x10000 + (first - 0xD800) * 0x400 + (second - 0xDC00))

/-- The characters of a string, if no half of a surrogate pair stands alone. -/
def charactersOf? : List Nat → Option (List Char)
  | [] => some []
  | unit :: rest =>
    if isFirstHalf unit then
      match rest with
      | [] => none
      | second :: rest =>
        if isSecondHalf second then (charactersOf? rest).map (pairCharacter unit second :: ·)
        else none
    else if isSecondHalf unit then none
    else (charactersOf? rest).map (Char.ofNat unit :: ·)

/-- Reads the string whose opening quote has just been read. -/
def readText (input : List Char) : Option (Option String × List Char) :=
  match readUnits input with
  | some (units, rest) => some ((charactersOf? units).map String.ofList, rest)
  | none => none

/-! ## Writing -/

/-- How a character is written in a string. -/
def escape (c : Char) : List Char :=
  if c = '\x22' ∨ c = '\x5c' then ['\x5c', c]
  else if c = '\x08' then ['\x5c', 'b']
  else if c = '\x0c' then ['\x5c', 'f']
  else if c = '\n' then ['\x5c', 'n']
  else if c = '\r' then ['\x5c', 'r']
  else if c = '\t' then ['\x5c', 't']
  else if c < ' ' then
    ['\x5c', 'u', '0', '0', Nat.digitChar (c.toNat / 16), Nat.digitChar (c.toNat % 16)]
  else [c]

/-- How a string is written, without its quotes.  One without text is half a surrogate pair. -/
def escapeText : Option String → List Char
  | some text => text.toList.flatMap escape
  | none => "\\ud800".toList

/-- How a string is written. -/
def writeText (text : Option String) : List Char := '\x22' :: escapeText text ++ ['\x22']

/-! ## Laws -/

/-- The units of characters are read as these characters. -/
theorem charactersOf?_map_toNat (cs : List Char) : charactersOf? (cs.map Char.toNat) = some cs := by
  induction cs with
  | nil => rfl
  | cons c cs ih =>
    have range : ¬ (0xD800 ≤ c.toNat ∧ c.toNat < 0xE000) := by
      have := c.valid
      simp only [UInt32.isValidChar, Nat.isValidChar] at this
      simp only [Char.toNat]
      omega
    have first : isFirstHalf c.toNat = false := by simp [isFirstHalf]; omega
    have second : isSecondHalf c.toNat = false := by simp [isSecondHalf]; omega
    rw [List.map_cons, charactersOf?.eq_def]
    simp [first, second, ih]

example : readText "a\\u0062\\n\x22;".toList = some (some "ab\n", [';']) := by decide +kernel
example : readText "\\ud83d\\ude00\x22".toList = some (some "😀", []) := by decide +kernel
example : readText "\\ud83d\x22".toList = some (none, []) := by decide +kernel
example : readText "\\x\x22".toList = none ∧ readText "\n\x22".toList = none := by decide +kernel
example : readText "\\u12".toList = none := by decide +kernel

end NfaWorkbench.Json
