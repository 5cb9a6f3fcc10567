set_option autoImplicit false

/-!
# YAML: characters and places

The characters that have a meaning everywhere in a document, and places in a document.  All line
breaks but the Unicode separators are line feeds here: `unifyBreaks` makes them so.
-/

namespace NfaWorkbench.Yaml

/-! ## Characters -/

/-- Whether a character separates words. -/
def isBlank (c : Char) : Bool := c = ' ' || c = '\t'

/-- Whether a character ends a line. -/
def isBreak (c : Char) : Bool := c ∈ ['\n', '\r', '\u0085', '\u2028', '\u2029']

/-- Whether what follows is a blank, a line break or the end. -/
def atGap : List Char → Bool
  | [] => true
  | c :: _ => isBlank c || isBreak c

/-- Whether what follows is the marker that begins a document. -/
def atDocumentStart : List Char → Bool
  | '-' :: '-' :: '-' :: rest => atGap rest
  | _ => false

/-- Whether what follows is the marker that ends a document. -/
def atDocumentEnd : List Char → Bool
  | '.' :: '.' :: '.' :: rest => atGap rest
  | _ => false

/-- Whether what follows is a marker. -/
def atMarker (text : List Char) : Bool := atDocumentStart text || atDocumentEnd text

/-- Whether a character may stand in the name of an anchor. -/
def isNameCharacter (c : Char) : Bool := c.isAlphanum || c = '_' || c = '-'

/-- Whether a document may hold a character. -/
def isAllowed (c : Char) : Bool :=
  let n := c.toNat
  c = '\t' || c = '\n' || c = '\r' || c = '\u0085' || (0x20 ≤ n && n ≤ 0x7E)
    || (0xA0 ≤ n && n ≤ 0xFFFD) || 0x10000 ≤ n

/-- A text with line feeds for all line breaks but the Unicode separators. -/
def unifyBreaks : List Char → List Char
  | [] => []
  | '\r' :: '\n' :: rest => '\n' :: unifyBreaks rest
  | c :: rest => (if c = '\r' || c = '\u0085' then '\n' else c) :: unifyBreaks rest

/-! ## Places -/

/-- Where a place is: its line and its column, counted from zero, and the number of bytes in front of
it in its line. -/
structure Spot where
  line : Nat
  column : Nat
  bytes : Nat
  deriving DecidableEq, Repr, Inhabited

namespace Spot

/-- The start of a document. -/
def start : Spot := ⟨0, 0, 0⟩

/-- The spot after a character that does not end the line. -/
def next (s : Spot) (c : Char) : Spot := ⟨s.line, s.column + 1, s.bytes + c.utf8Size⟩

/-- The start of the next line. -/
def nextLine (s : Spot) : Spot := ⟨s.line + 1, 0, 0⟩

end Spot

/-- A place in a document: where it is, and what follows. -/
structure Cursor extends Spot where
  rest : List Char
  deriving DecidableEq, Repr, Inhabited

namespace Cursor

/-- The place some characters further on in the same line. -/
def skip (c : Cursor) (count : Nat) : Cursor :=
  ⟨(c.rest.take count).foldl Spot.next c.toSpot, c.rest.drop count⟩

/-- The place after the characters of a class; none of them is a line break. -/
def skipWhile (c : Cursor) (p : Char → Bool) : Cursor := c.skip (c.rest.takeWhile p).length

/-- The place after a line break. -/
def skipBreak (c : Cursor) : Cursor := ⟨c.toSpot.nextLine, c.rest.drop 1⟩

/-- Whether what follows is a blank, a line break or the end. -/
def atGap (c : Cursor) : Bool := Yaml.atGap c.rest

/-- Whether a character follows. -/
def isAt (c : Cursor) (x : Char) : Bool := c.rest.head? = some x

/-- The start of the next line, if there is nothing but blanks and a comment in between. -/
def nextLine? (c : Cursor) : Option Cursor :=
  let c := c.skipWhile isBlank
  let c := if c.isAt '#' then c.skipWhile (!isBreak ·) else c
  match c.rest with
  | [] => some c
  | b :: _ => if isBreak b then some c.skipBreak else none

end Cursor

end NfaWorkbench.Yaml
