import NfaWorkbench.Text.Decimal
import NfaWorkbench.Text.Hexadecimal
import NfaWorkbench.Yaml.Node
set_option autoImplicit false

/-!
# YAML: writing texts

A text is written plain if it then reads as the same text and as nothing else.  A text that would
read as a missing value, a truth value or a number stands in single quotes, and so does one with
signs of the format.  A text of several lines is written as a literal scalar.  What cannot be
written in these ways stands in double quotes, with escapes.
-/

namespace NfaWorkbench.Yaml

/-! ## Texts that mean something else -/

/-- The words for numbers that have no digits. -/
def numberWords : List String :=
  [".inf", ".Inf", ".INF", "+.inf", "+.Inf", "+.INF", "-.inf", "-.Inf", "-.INF", ".nan", ".NaN",
   ".NAN"]

/-- A text without a sign at its start, and whether that was a minus sign. -/
def splitSign : List Char → Bool × List Char
  | '+' :: rest => (false, rest)
  | '-' :: rest => (true, rest)
  | text => (false, text)

/-- The least natural number that is too large for an integer with a sign or without. -/
def integerBound (negative : Bool) : Nat := if negative then Nat.pow 2 127 + 1 else Nat.pow 2 128

/-- The base of an integer and its digits, without sign. -/
def splitBase : List Char → Nat × List Char
  | '0' :: 'x' :: digits => (16, digits)
  | '0' :: 'o' :: digits => (8, digits)
  | '0' :: 'b' :: digits => (2, digits)
  | digits => (10, digits)

/-- Whether a text is an integer, of at most 128 bits, in base ten or with the mark of another
base. -/
def isInteger (text : List Char) : Bool :=
  let (negative, number) := splitSign text
  let (base, digits) := splitBase number
  let values := digits.map Text.hexDigit?
  !digits.isEmpty && values.all (·.any (· < base))
    && values.foldl (fun n v => n * base + v.getD 0) 0 < integerBound negative

/-- Whether a text is a number that has zeros in front, which is no number here. -/
def isPadded (text : List Char) : Bool :=
  match (splitSign text).2 with
  | '0' :: digit :: rest => (digit :: rest).all Char.isDigit
  | _ => false

/-- The parts of a decimal number: the digits before and after the point, and the exponent. -/
structure DecimalParts where
  whole : List Char
  fraction : List Char
  exponent : Int

/-- The exponent of a decimal number; zero if it is not written. -/
def exponent? : List Char → Option Int
  | [] => some 0
  | c :: rest => if c = 'e' ∨ c = 'E' then Text.integer? rest else none

/-- The parts of a text that is a decimal number without sign. -/
def decimalParts? (text : List Char) : Option DecimalParts :=
  let whole := text.takeWhile Char.isDigit
  let rest := text.dropWhile Char.isDigit
  let (fraction, rest) := match rest with
    | '.' :: rest => (rest.takeWhile Char.isDigit, rest.dropWhile Char.isDigit)
    | rest => ([], rest)
  if whole.isEmpty && fraction.isEmpty then none
  else (exponent? rest).map (⟨whole, fraction, ·⟩)

/-- The least number that is too large for a double: halfway beyond the largest double. -/
def doubleBound : Nat := Nat.pow 2 1024 - Nat.pow 2 970

/-- Whether a decimal number fits into a double. -/
def DecimalParts.isFinite (d : DecimalParts) : Bool :=
  let digits := (d.whole ++ d.fraction).dropWhile (· = '0')
  -- the number lies between the powers of ten with the exponents `size - 1` and `size`
  let size : Int := digits.length + (d.exponent - d.fraction.length)
  if digits.isEmpty || size ≤ 308 then true
  else if 309 < size then false
  else
    let value := Nat.ofDigitChars 10 digits 0
    let power := d.exponent - d.fraction.length
    if 0 ≤ power then value * Nat.pow 10 power.toNat < doubleBound
    else value < doubleBound * Nat.pow 10 (-power).toNat

/-- Whether a text is a decimal number that fits into a double. -/
def isDecimal (text : List Char) : Bool :=
  (decimalParts? (splitSign text).2).any (·.isFinite)

/-- Whether a plain scalar with this text would mean something else than the text, or might be taken
for a number. -/
def isAmbiguous (text : String) : Bool :=
  text = "" || text ∈ Node.nullWords || (Node.truthOf? text).isSome || text ∈ numberWords
    || isPadded text.toList || isInteger text.toList || isDecimal text.toList

/-! ## Styles -/

/-- How a text is written. -/
inductive Style
  | plain
  | single
  | double
  | literal
  deriving DecidableEq, Repr

/-- Whether a character is written as it is. -/
def isPrintable (c : Char) : Bool :=
  let n := c.toNat
  n = 0xA || (0x20 ≤ n && n ≤ 0x7E) || (0xA0 ≤ n && n ≤ 0xFFFD && n ≠ 0xFEFF) || 0x10000 ≤ n

/-- Whether the first character gives a text another meaning. -/
def hasSignAtStart : List Char → Bool
  | [] => false
  | c :: rest =>
    c ∈ ['#', ',', '[', ']', '\x7b', '\x7d', '&', '*', '!', '|', '>', '\x27', '\x22', '%', '@',
      '\x60'] || ((c = '?' || c = ':' || c = '-') && atGap rest)

/-- Whether a later character gives a text another meaning: a colon at the end of a word, or a
number sign at the start of one. -/
def hasSignWithin : List Char → Bool
  | a :: b :: rest =>
    (b = ':' && atGap rest) || (b = '#' && (isBlank a || isBreak a)) || hasSignWithin (b :: rest)
  | _ => false

/-- Whether two neighbours of a text satisfy a relation. -/
def hasNeighbours (p : Char → Char → Bool) : List Char → Bool
  | a :: b :: rest => p a b || hasNeighbours p (b :: rest)
  | _ => false

/-- Whether a text begins like a marker of a document. -/
def startsLikeMarker : List Char → Bool
  | '-' :: '-' :: '-' :: _ => true
  | '.' :: '.' :: '.' :: _ => true
  | _ => false

/-- Whether the characters of a text can only be written with escapes. -/
def needsEscapes (text : List Char) : Bool :=
  !text.all isPrintable || hasNeighbours (fun a b => a = ' ' && isBreak b) text

/-- Whether a text can be written plain. -/
def allowsPlain (text : List Char) : Bool :=
  !needsEscapes text && !startsLikeMarker text && !hasSignAtStart text && !hasSignWithin text
    && !text.any isBreak && text.head? ≠ some ' ' && text.getLast? ≠ some ' '

/-- Whether a text can be written in single quotes. -/
def allowsSingle (text : List Char) : Bool :=
  !needsEscapes text && !hasNeighbours (fun a b => isBreak a && b = ' ') text

/-- Whether a text can be written as a literal scalar. -/
def allowsLiteral (text : List Char) : Bool :=
  !needsEscapes text && text.getLast? ≠ some ' '

/-- How a text is written. -/
def styleOf (text : String) : Style :=
  let quoted : Style := if allowsSingle text.toList then .single else .double
  if isAmbiguous text then quoted
  else if text.toList.contains '\n' then
    if allowsLiteral text.toList then .literal else .double
  else if allowsPlain text.toList then .plain
  else quoted

/-! ## Writing -/

/-- A number in hexadecimal digits, with zeros in front up to a width. -/
def hexDigits (width n : Nat) : List Char :=
  let digits := (Nat.toDigits 16 n).map Char.toUpper
  List.replicate (width - digits.length) '0' ++ digits

/-- The letter that stands for a character after a backslash. -/
def escapeLetter? (c : Char) : Option Char :=
  match c with
  | '\x00' => some '0'
  | '\x07' => some 'a'
  | '\x08' => some 'b'
  | '\t' => some 't'
  | '\n' => some 'n'
  | '\x0b' => some 'v'
  | '\x0c' => some 'f'
  | '\r' => some 'r'
  | '\x1b' => some 'e'
  | '\x22' => some '\x22'
  | '\x5c' => some '\x5c'
  | '\u0085' => some 'N'
  | '\u00a0' => some '_'
  | '\u2028' => some 'L'
  | '\u2029' => some 'P'
  | _ => none

/-- How a character is written in double quotes. -/
def escape (c : Char) : List Char :=
  if isPrintable c && !isBreak c && c ≠ '\x22' && c ≠ '\x5c' then [c]
  else match escapeLetter? c with
    | some letter => ['\x5c', letter]
    | none =>
      let n := c.toNat
      if n ≤ 0xFF then '\x5c' :: 'x' :: hexDigits 2 n
      else if n ≤ 0xFFFF then '\x5c' :: 'u' :: hexDigits 4 n
      else '\x5c' :: 'U' :: hexDigits 8 n

/-- A number of spaces. -/
def spaces (count : Nat) : List Char := List.replicate count ' '

/-- The characters of a text in single quotes, with a quote written twice.  What comes after line
breaks is indented, and so is the closing quote. -/
def singleQuoted (indentation : Nat) : (atStart : Bool) → List Char → List Char
  | atStart, [] => if atStart then spaces indentation else []
  | atStart, c :: rest =>
    if isBreak c then c :: singleQuoted indentation true rest
    else
      let written := if c = '\x27' then ['\x27', '\x27'] else [c]
      (if atStart then spaces indentation else []) ++ written
        ++ singleQuoted indentation false rest

/-- The signs after the bar of a literal scalar. -/
def literalSigns (text : List Char) : List Char :=
  let indentation := if text.head?.any (fun c => c = ' ' || isBreak c) then ['2'] else []
  let chomping := match text.reverse with
    | [] => ['-']
    | last :: rest =>
      if !isBreak last then ['-'] else if isBreak (rest.headD '\n') then ['+'] else []
  indentation ++ chomping

/-- The lines of a literal scalar, indented; empty lines stay empty. -/
def literalLines (indentation : Nat) : (atStart : Bool) → List Char → List Char
  | _, [] => []
  | atStart, c :: rest =>
    if isBreak c then c :: literalLines indentation true rest
    else (if atStart then spaces indentation else []) ++ c :: literalLines indentation false rest

/-- How a text is written as the value of a key, up to its line break.  The lines of a literal
scalar are indented. -/
def writeText (indentation : Nat) (text : String) : String :=
  let cs := text.toList
  String.ofList (match styleOf text with
    | .plain => cs ++ ['\n']
    | .single => '\x27' :: singleQuoted indentation false cs ++ ['\x27', '\n']
    | .double => '\x22' :: cs.flatMap escape ++ ['\x22', '\n']
    | .literal =>
      '|' :: literalSigns cs ++ '\n' :: literalLines indentation true cs
        ++ (if cs.getLast?.any isBreak then [] else ['\n']))

example : writeText 4 "a b" = "a b\n" ∧ writeText 4 "007" = "'007'\n" := by decide +kernel
example : writeText 4 "it's #" = "'it''s #'\n" ∧ writeText 4 "\t" = "\"\\t\"\n" := by
  decide +kernel

end NfaWorkbench.Yaml
