import NfaWorkbench.Text.Hexadecimal
import NfaWorkbench.Yaml.Cursor
set_option autoImplicit false

/-!
# YAML: scalars within lines

Scalars without quotes and in quotes may go on over several lines.  Blanks around a line break are
dropped; one line feed becomes a space, and of several the first is dropped.  The Unicode separators
are kept.  A backslash at the end of a line in double quotes joins it with the next.

Texts that are being read are kept with the last character first.
-/

namespace NfaWorkbench.Yaml

/-! ## Folding -/

/-- What stands between two characters of a scalar. -/
inductive Gap
  /-- Blanks on one line, last one first. -/
  | blanks (cs : List Char)
  /-- A line break, and those after it, last one first. -/
  | breaks (first : Char) (more : List Char)
  /-- Line breaks after one that joins two lines, last one first. -/
  | joined (more : List Char)
  deriving DecidableEq, Repr

namespace Gap

/-- A text, last character first, with what a gap becomes. -/
def onto (text : List Char) : Gap → List Char
  | blanks cs => cs ++ text
  | breaks '\n' [] => ' ' :: text
  | breaks '\n' more => more ++ text
  | breaks first more => more ++ first :: text
  | joined more => more ++ text

/-- A gap with one more blank. -/
def blank (c : Char) : Gap → Gap
  | blanks cs => .blanks (c :: cs)
  | gap => gap

/-- A gap with one more line break. -/
def newline (c : Char) : Gap → Gap
  | blanks _ => .breaks c []
  | breaks first more => .breaks first (c :: more)
  | joined more => .joined (c :: more)

/-- Whether there is nothing in a gap. -/
def isEmpty : Gap → Bool
  | blanks [] => true
  | _ => false

/-- Whether a gap holds a line break that was not joined. -/
def wraps : Gap → Bool
  | breaks _ _ => true
  | _ => false

end Gap

/-- A scalar that is being read: its text so far, last character first, and the gap after it. -/
structure Folding where
  text : List Char
  gap : Gap
  deriving DecidableEq, Repr

namespace Folding

/-- Nothing has been read. -/
def empty : Folding := ⟨[], .blanks []⟩

/-- One more character that is neither blank nor line break. -/
def char (f : Folding) (c : Char) : Folding := ⟨c :: f.gap.onto f.text, .blanks []⟩

/-- One more blank. -/
def blank (f : Folding) (c : Char) : Folding := { f with gap := f.gap.blank c }

/-- One more line break. -/
def newline (f : Folding) (c : Char) : Folding := { f with gap := f.gap.newline c }

/-- One more line break that joins two lines. -/
def join (f : Folding) : Folding := ⟨f.gap.onto f.text, .joined []⟩

/-- The text without the gap at its end. -/
def content (f : Folding) : String := String.ofList f.text.reverse

/-- The text with the gap at its end. -/
def whole (f : Folding) : String := String.ofList (f.gap.onto f.text).reverse

end Folding

/-! ## Scalars without quotes -/

/-- Whether a character has a meaning between brackets. -/
def isFlowSign (c : Char) : Bool := c ∈ [',', '[', ']', '\x7b', '\x7d']

/-- Whether a character means something at the start of a token. -/
def isSign (c : Char) : Bool :=
  isFlowSign c
    || c ∈ ['-', '?', ':', '#', '&', '*', '!', '|', '>', '\x27', '\x22', '%', '@', '\x60']

/-- Whether a scalar without quotes may begin here. -/
def startsPlain (flow : Bool) : List Char → Bool
  | [] => false
  | c :: rest =>
    !(isBlank c || isBreak c || isSign c) || (c = '-' && !rest.head?.any isBlank)
      || (!flow && (c = '?' || c = ':') && !atGap rest)

/-- Whether a scalar without quotes ends before a character, after which comes `rest`. -/
def endsPlain (flow : Bool) (c : Char) (rest : List Char) : Bool :=
  (c = ':' && atGap rest) || (flow && isFlowSign c)

/-- Whether a scalar without quotes ends before what comes after a gap. -/
def endsPlainAfterGap (flow : Bool) (min : Nat) (gap : Gap) (column : Nat) (text : List Char) :
    Bool :=
  (gap.wraps && !flow && column < min) || (column = 0 && atMarker text) || text.head? = some '#'

/-- Whether a colon cannot stand between brackets before what follows. -/
def isStrayColon (flow : Bool) (c : Char) (rest : List Char) : Bool :=
  flow && c = ':' && rest.head?.any fun x => isFlowSign x || x = '?'

/-- Reads a scalar without quotes whose lines after the first one begin at least at column `min`.
The place after it is that after the gap at its end. -/
def scanPlain (flow : Bool) (min : Nat) (f : Folding) (spot : Spot) :
    List Char → Option (Folding × Cursor)
  | [] => some (f, ⟨spot, []⟩)
  | c :: rest =>
    if isBlank c then
      if f.gap.wraps && spot.column < min && c = '\t' then none
      else scanPlain flow min (f.blank c) (spot.next c) rest
    else if isBreak c then scanPlain flow min (f.newline c) spot.nextLine rest
    else if !f.gap.isEmpty && endsPlainAfterGap flow min f.gap spot.column (c :: rest) then
      some (f, ⟨spot, c :: rest⟩)
    else if isStrayColon flow c rest then none
    else if endsPlain flow c rest then some (f, ⟨spot, c :: rest⟩)
    else scanPlain flow min (f.char c) (spot.next c) rest

/-! ## Scalars in quotes -/

/-- Reads a scalar in single quotes, up to the closing quote; two quotes mean one. -/
def scanSingle (f : Folding) (spot : Spot) : List Char → Option (Folding × Cursor)
  | [] => none
  | c :: rest =>
    if spot.column = 0 && atMarker (c :: rest) then none
    else if c = '\x27' then
      match rest with
      | '\x27' :: rest => scanSingle (f.char '\x27') ((spot.next c).next '\x27') rest
      | rest => some (f, ⟨spot.next c, rest⟩)
    else if isBlank c then scanSingle (f.blank c) (spot.next c) rest
    else if isBreak c then scanSingle (f.newline c) spot.nextLine rest
    else scanSingle (f.char c) (spot.next c) rest

/-- The character that a backslash and this character stand for. -/
def escaped? (c : Char) : Option Char :=
  match c with
  | '0' => some '\x00'
  | 'a' => some '\x07'
  | 'b' => some '\x08'
  | 't' => some '\t'
  | '\t' => some '\t'
  | 'n' => some '\n'
  | 'v' => some '\x0b'
  | 'f' => some '\x0c'
  | 'r' => some '\r'
  | 'e' => some '\x1b'
  | ' ' => some ' '
  | '\x22' => some '\x22'
  | '/' => some '/'
  | '\x5c' => some '\x5c'
  | 'N' => some '\u0085'
  | '_' => some '\u00a0'
  | 'L' => some '\u2028'
  | 'P' => some '\u2029'
  | _ => none

/-- The number of hexadecimal digits after a backslash and this character. -/
def codeWidth? (c : Char) : Option Nat :=
  match c with
  | 'x' => some 2
  | 'u' => some 4
  | 'U' => some 8
  | _ => none

/-- The character with a code, if there is one. -/
def character? (code : Nat) : Option Char :=
  if code.isValidChar then some (Char.ofNat code) else none

/-- What the next character of a scalar in double quotes belongs to. -/
inductive Reading
  /-- The text itself. -/
  | text
  /-- A backslash in front of it. -/
  | escape
  /-- A code, of which this many digits are missing, with the value so far. -/
  | code (missing value : Nat)
  deriving DecidableEq, Repr

/-- Reads a scalar in double quotes, up to the closing quote. -/
def scanDouble (r : Reading) (f : Folding) (spot : Spot) :
    List Char → Option (Folding × Cursor)
  | [] => none
  | c :: rest =>
    match r with
    | .code missing value => match Text.hexDigit? c with
      | none => none
      | some digit =>
        let value := value * 16 + digit
        if 1 < missing then scanDouble (.code (missing - 1) value) f (spot.next c) rest
        else match character? value with
          | none => none
          | some x => scanDouble .text (f.char x) (spot.next c) rest
    | .escape =>
      if isBreak c then scanDouble .text f.join spot.nextLine rest
      else match codeWidth? c, escaped? c with
        | some width, _ => scanDouble (.code width 0) f (spot.next c) rest
        | none, some x => scanDouble .text (f.char x) (spot.next c) rest
        | none, none => none
    | .text =>
      if spot.column = 0 && atMarker (c :: rest) then none
      else if c = '\x22' then some (f, ⟨spot.next c, rest⟩)
      else if c = '\x5c' then scanDouble .escape f (spot.next c) rest
      else if isBlank c then scanDouble .text (f.blank c) (spot.next c) rest
      else if isBreak c then scanDouble .text (f.newline c) spot.nextLine rest
      else scanDouble .text (f.char c) (spot.next c) rest

example : (scanSingle .empty .start "a''b' c".toList).map (·.1.whole) = some "a'b" := by
  decide +kernel
example : (scanDouble .text .empty .start "a \\\n\n  \\x41\"".toList).map (·.1.whole) =
    some "a \nA" := by decide +kernel
example : (scanPlain false 1 .empty .start "a b \n  c # d".toList).map (·.1.content) =
    some "a b c" := by decide +kernel

end NfaWorkbench.Yaml
