import NfaWorkbench.Json.Text
set_option autoImplicit false

/-!
# JSON: reading

Reads one JSON value by the grammar of the format, without any liberty: no comments, no commas at
the end of a list, no leading zeros, nothing after the value but blanks.

The readers of values, items and members take fuel.  Between two calls of `readValue` at least one
character is read, and at most one other reader is called; so twice the length of the input is
enough.
-/

namespace NfaWorkbench.Json

/-- The characters that may stand between the parts of a value. -/
def isSpace (c : Char) : Bool := c = ' ' || c = '\t' || c = '\n' || c = '\r'

/-- What follows the blanks at the start. -/
def skipSpace (input : List Char) : List Char := input.dropWhile isSpace

/-! ## Numbers -/

/-- Reads digits: at least one, and no leading zero. -/
def readMagnitude (input : List Char) : Option (Nat × List Char) :=
  match input.takeWhile Char.isDigit with
  | [] => none
  | '0' :: _ :: _ => none
  | digits => some (Nat.ofDigitChars 10 digits 0, input.dropWhile Char.isDigit)

/-- Skips at least one digit. -/
def skipDigits (input : List Char) : Option (List Char) :=
  if input.head?.any Char.isDigit then some (input.dropWhile Char.isDigit) else none

/-- Skips a fraction, if there is one, and tells whether there was. -/
def skipFraction : List Char → Option (Bool × List Char)
  | '.' :: rest => (skipDigits rest).map (true, ·)
  | input => some (false, input)

/-- Skips the sign of an exponent. -/
def skipSign : List Char → List Char
  | '+' :: rest => rest
  | '-' :: rest => rest
  | input => input

/-- Skips an exponent, if there is one, and tells whether there was. -/
def skipExponent : List Char → Option (Bool × List Char)
  | [] => some (false, [])
  | c :: rest =>
    if c = 'e' ∨ c = 'E' then (skipDigits (skipSign rest)).map (true, ·)
    else some (false, c :: rest)

/-- Reads a number whose sign has been read. -/
def readUnsigned (negative : Bool) (input : List Char) : Option (Number × List Char) :=
  match readMagnitude input with
  | none => none
  | some (magnitude, rest) => match skipFraction rest with
    | none => none
    | some (fraction, rest) => match skipExponent rest with
      | none => none
      | some (exponent, rest) =>
        some (if fraction || exponent then .decimal else .integer negative magnitude, rest)

/-- Reads a number. -/
def readNumber : List Char → Option (Number × List Char)
  | '-' :: rest => readUnsigned true rest
  | input => readUnsigned false input

/-! ## Values -/

/-- Reads a key and the colon after it. -/
def readKey (input : List Char) : Option (Option String × List Char) :=
  match skipSpace input with
  | '\x22' :: rest => match readText rest with
    | none => none
    | some (key, rest) => match skipSpace rest with
      | ':' :: rest => some (key, rest)
      | _ => none
  | _ => none

mutual

/-- Reads a value after the blanks in front of it. -/
def readValue : (fuel : Nat) → List Char → Option (Value × List Char)
  | 0, _ => none
  | fuel + 1, input => match skipSpace input with
    | 'n' :: 'u' :: 'l' :: 'l' :: rest => some (.null, rest)
    | 't' :: 'r' :: 'u' :: 'e' :: rest => some (.bool true, rest)
    | 'f' :: 'a' :: 'l' :: 's' :: 'e' :: rest => some (.bool false, rest)
    | '\x22' :: rest => (readText rest).map fun r => (.string r.1, r.2)
    | '[' :: rest => match skipSpace rest with
      | ']' :: rest => some (.array [], rest)
      | rest => (readItems fuel rest).map fun r => (.array r.1, r.2)
    | '\x7b' :: rest => match skipSpace rest with
      | '\x7d' :: rest => some (.object [], rest)
      | rest => (readMembers fuel rest).map fun r => (.object r.1, r.2)
    | rest => (readNumber rest).map fun r => (.number r.1, r.2)

/-- Reads the items of an array, at least one, and its closing bracket. -/
def readItems : (fuel : Nat) → List Char → Option (List Value × List Char)
  | 0, _ => none
  | fuel + 1, input => match readValue fuel input with
    | none => none
    | some (item, rest) => match skipSpace rest with
      | ']' :: rest => some ([item], rest)
      | ',' :: rest => (readItems fuel rest).map fun r => (item :: r.1, r.2)
      | _ => none

/-- Reads the members of an object, at least one, and its closing brace. -/
def readMembers : (fuel : Nat) → List Char → Option (List (Option String × Value) × List Char)
  | 0, _ => none
  | fuel + 1, input => match readKey input with
    | none => none
    | some (key, rest) => match readValue fuel rest with
      | none => none
      | some (value, rest) => match skipSpace rest with
        | '\x7d' :: rest => some ([(key, value)], rest)
        | ',' :: rest => (readMembers fuel rest).map fun r => ((key, value) :: r.1, r.2)
        | _ => none

end

/-- The value that a text writes, if it is JSON. -/
def parse (text : String) : Option Value :=
  let input := text.toList
  match readValue (2 * input.length + 2) input with
  | some (value, rest) => if skipSpace rest = [] then some value else none
  | none => none

end NfaWorkbench.Json
