import NfaWorkbench.Yaml.Token
set_option autoImplicit false

/-!
# YAML: from text to tokens

Outside brackets the indentation of a document tells where mappings and sequences begin and end;
here it is turned into tokens.  That a scalar is the key of a mapping is known only at the colon
after it; so wherever a key may begin its place is kept, and the tokens for it are put there when
the colon comes.  Such a key must lie within one line and have at most 1024 bytes.

Each step reads one token, and so at least one character; the number of characters bounds the number
of steps.
-/

namespace NfaWorkbench.Yaml

/-- A place where a key may have begun. -/
structure PossibleKey where
  /-- The number of tokens before it. -/
  position : Nat
  /-- Whether nothing else may stand there. -/
  required : Bool
  place : Spot
  deriving DecidableEq, Repr

/-- The number of bytes that a key may have. -/
def maxKeySize : Nat := 1024

/-- Whether a colon at a place is too far away to end a key. -/
def PossibleKey.isTooFar (k : PossibleKey) (spot : Spot) : Bool :=
  k.place.line < spot.line || maxKeySize < spot.bytes - k.place.bytes

/-- A document that is being cut into tokens. -/
structure Scan where
  cursor : Cursor
  /-- The tokens so far, last one first. -/
  tokens : List Token
  /-- The number of these tokens. -/
  count : Nat
  /-- The columns of the mappings and sequences around the place, innermost first. -/
  indents : List Nat
  /-- Whether a key may begin here. -/
  keyAllowed : Bool
  /-- The place where a key may have begun within the innermost brackets. -/
  possibleKey : Option PossibleKey
  /-- The same for the brackets around, innermost first, and for outside all brackets. -/
  outerKeys : List (Option PossibleKey)
  deriving Repr

namespace Scan

/-- Nothing has been read. -/
def start (text : List Char) : Scan where
  cursor := ⟨.start, text⟩
  tokens := []
  count := 0
  indents := []
  keyAllowed := true
  possibleKey := none
  outerKeys := []

/-- Whether the place lies between brackets. -/
def inFlow (s : Scan) : Bool := !s.outerKeys.isEmpty

/-- The least column of what belongs to the innermost mapping or sequence. -/
def minColumn (s : Scan) : Nat :=
  match s.indents with
  | [] => 0
  | column :: _ => column + 1

/-- One more token. -/
def emit (s : Scan) (token : Token) : Scan :=
  { s with tokens := token :: s.tokens, count := s.count + 1 }

/-- One more token that is read in some characters of the line. -/
def emitSign (s : Scan) (token : Token) (width : Nat) : Scan :=
  { s.emit token with cursor := s.cursor.skip width }

/-- One more token at a place among those that have been read. -/
def insertAt (s : Scan) (position : Nat) (token : Token) : Scan :=
  let later := s.tokens.take (s.count - position)
  let earlier := s.tokens.drop (s.count - position)
  { s with tokens := later ++ token :: earlier, count := s.count + 1 }

/-! ## Indentation -/

/-- Ends the mappings and sequences that are deeper than a column. -/
def unroll (s : Scan) (column : Nat) : Scan :=
  if s.inFlow then s
  else
    let open_ := s.indents.dropWhile (column < ·)
    let ended := s.indents.length - open_.length
    { s with
      tokens := List.replicate ended .blockEnd ++ s.tokens
      count := s.count + ended
      indents := open_ }

/-- Ends all mappings and sequences. -/
def unrollAll (s : Scan) : Scan :=
  if s.inFlow then s
  else
    { s with
      tokens := List.replicate s.indents.length .blockEnd ++ s.tokens
      count := s.count + s.indents.length
      indents := [] }

/-- Begins a mapping or sequence at a column, if none has begun there, with a token at a place among
those that have been read. -/
def roll (s : Scan) (column position : Nat) (token : Token) : Scan :=
  if s.inFlow || column < s.minColumn then s
  else { s.insertAt position token with indents := column :: s.indents }

/-! ## Possible keys -/

/-- Forgets the possible key, unless it must be one. -/
def dropKey? (s : Scan) : Option Scan :=
  if s.possibleKey.any (·.required) then none else some { s with possibleKey := none }

/-- Notes that a key may begin here. -/
def noteKey? (s : Scan) : Option Scan :=
  if s.keyAllowed then
    s.dropKey?.map fun s =>
      { s with possibleKey := some {
          position := s.count
          required := !s.inFlow && s.indents.head? = some s.cursor.column
          place := s.cursor.toSpot } }
  else some s

/-- A possible key, or none if the place is too far away; `none` if it must be a key. -/
def keepNear (spot : Spot) (key : Option PossibleKey) : Option (Option PossibleKey) :=
  match key with
  | none => some none
  | some k => if k.isTooFar spot then if k.required then none else some none else some (some k)

/-- Forgets the possible keys that are too far away, unless one must be a key. -/
def dropFarKeys? (s : Scan) : Option Scan := do
  let possibleKey ← keepNear s.cursor.toSpot s.possibleKey
  let outerKeys ← s.outerKeys.mapM (keepNear s.cursor.toSpot)
  return { s with possibleKey, outerKeys }

/-! ## Between tokens -/

/-- Skips blanks, comments and line breaks.  Outside brackets a tab is skipped only where no key may
begin, which it may after a line break.  A byte order mark may begin a line. -/
def skipGap (flow comment keyAllowed : Bool) (spot : Spot) : List Char → Bool × Cursor
  | [] => (keyAllowed, ⟨spot, []⟩)
  | c :: rest =>
    if isBreak c then skipGap flow false (keyAllowed || !flow) spot.nextLine rest
    else if comment || c = ' ' || (c = '\t' && (flow || !keyAllowed))
        || (c = '\ufeff' && spot.column = 0) then
      skipGap flow comment keyAllowed (spot.next c) rest
    else if c = '#' then skipGap flow true keyAllowed (spot.next c) rest
    else (keyAllowed, ⟨spot, c :: rest⟩)

/-- The next token, or the end. -/
def toToken (s : Scan) : Scan :=
  let r := skipGap s.inFlow false s.keyAllowed s.cursor.toSpot s.cursor.rest
  { s with keyAllowed := r.1, cursor := r.2 }

/-! ## One token -/

/-- What a reader of a token from a place yields: one more token, and the place after it. -/
def read? (s : Scan) (result : Option (Token × Cursor)) : Option Scan :=
  result.map fun r => { s.emit r.1 with cursor := r.2 }

/-- A directive or marker: it ends everything. -/
def bare? (s : Scan) : Option Scan :=
  s.unrollAll.dropKey?.map fun s => { s with keyAllowed := false }

/-- An opening bracket. -/
def openFlow? (s : Scan) (token : Token) : Option Scan :=
  s.noteKey?.map fun s =>
    { s.emitSign token 1 with
      keyAllowed := true
      possibleKey := none
      outerKeys := s.possibleKey :: s.outerKeys }

/-- A closing bracket. -/
def closeFlow? (s : Scan) (token : Token) : Option Scan :=
  s.dropKey?.map fun s =>
    let s := { s.emitSign token 1 with keyAllowed := false }
    match s.outerKeys with
    | [] => s
    | key :: rest => { s with possibleKey := key, outerKeys := rest }

/-- A comma between brackets. -/
def comma? (s : Scan) : Option Scan :=
  s.dropKey?.map fun s => { s.emitSign .comma 1 with keyAllowed := true }

/-- The dash of an item. -/
def item? (s : Scan) : Option Scan :=
  if !s.inFlow && !s.keyAllowed then none
  else
    (s.roll s.cursor.column s.count .blockSequenceStart).dropKey?.map fun s =>
      { s.emitSign .item 1 with keyAllowed := true }

/-- A question mark in front of a key. -/
def key? (s : Scan) : Option Scan :=
  if !s.inFlow && !s.keyAllowed then none
  else
    (s.roll s.cursor.column s.count .blockMappingStart).dropKey?.map fun s =>
      { s.emitSign .key 1 with keyAllowed := !s.inFlow }

/-- A colon in front of a value. -/
def value? (s : Scan) : Option Scan :=
  match s.possibleKey with
  | some k =>
    let s := (s.insertAt k.position .key).roll k.place.column k.position .blockMappingStart
    some { s.emitSign .value 1 with possibleKey := none, keyAllowed := false }
  | none =>
    if !s.inFlow && !s.keyAllowed then none
    else
      let s := s.roll s.cursor.column s.count .blockMappingStart
      some { s.emitSign .value 1 with keyAllowed := !s.inFlow }

/-- A token that may begin a key, and after which none may begin. -/
def within? (s : Scan) (read : Cursor → Option (Token × Cursor)) : Option Scan :=
  s.noteKey?.bind fun s => { s with keyAllowed := false }.read? (read s.cursor)

/-- A block scalar. -/
def blockScalar? (s : Scan) (folded : Bool) : Option Scan :=
  s.dropKey?.bind fun s =>
    { s with keyAllowed := true }.read?
      ((readBlockScalar folded s.minColumn (s.cursor.skip 1)).map fun (text, finish) =>
        (.scalar (if folded then .folded else .literal) text, finish))

/-- A scalar in quotes. -/
def quoted? (s : Scan) (scan : Spot → List Char → Option (Folding × Cursor)) : Option Scan :=
  s.within? fun c => (scan (c.skip 1).toSpot (c.skip 1).rest).map fun (f, finish) =>
    (.scalar .quoted f.whole, finish)

/-- A scalar without quotes.  After one that a line break follows a key may begin. -/
def plain? (s : Scan) : Option Scan :=
  s.noteKey?.bind fun s =>
    (scanPlain s.inFlow s.minColumn .empty s.cursor.toSpot s.cursor.rest).map
      fun (f, finish) =>
        { s.emit (.scalar .plain f.content) with keyAllowed := f.gap.wraps, cursor := finish }

/-- The end of the document. -/
def finish? (s : Scan) : Option Scan :=
  s.unrollAll.dropKey?.map fun s => { s.emit .streamEnd with keyAllowed := false }

/-- The token that begins with a character, after which comes `rest`. -/
def token? (s : Scan) (c : Char) (rest : List Char) : Option Scan :=
  let signs := s.inFlow || atGap rest
  if s.cursor.column = 0 ∧ c = '%' then
    s.bare?.bind fun s => s.read? (Token.readDirective (s.cursor.skip 1))
  else if s.cursor.column = 0 ∧ atDocumentStart (c :: rest) then
    s.bare?.map (·.emitSign .documentStart 3)
  else if s.cursor.column = 0 ∧ atDocumentEnd (c :: rest) then
    s.bare?.map (·.emitSign .documentEnd 3)
  else if c = '[' then s.openFlow? .flowSequenceStart
  else if c = '\x7b' then s.openFlow? .flowMappingStart
  else if c = ']' then s.closeFlow? .flowSequenceEnd
  else if c = '\x7d' then s.closeFlow? .flowMappingEnd
  else if c = ',' then s.comma?
  else if c = '-' ∧ atGap rest then s.item?
  else if c = '?' ∧ signs then s.key?
  else if c = ':' ∧ signs then s.value?
  else if c = '*' then
    s.within? fun c => (Token.readName (c.skip 1)).map fun r => (.alias r.1, r.2)
  else if c = '&' then
    s.within? fun c => (Token.readName (c.skip 1)).map fun r => (.anchor r.1, r.2)
  else if c = '!' then s.within? (Token.readTag s.inFlow)
  else if c = '|' ∧ !s.inFlow then s.blockScalar? false
  else if c = '>' ∧ !s.inFlow then s.blockScalar? true
  else if c = '\x27' then s.quoted? (scanSingle .empty)
  else if c = '\x22' then s.quoted? (scanDouble .text .empty)
  else if startsPlain s.inFlow (c :: rest) then s.plain?
  else none

/-- The next token; the end of the document has one, too. -/
def next? (s : Scan) : Option Scan :=
  s.toToken.dropFarKeys?.bind fun s =>
    match s.cursor.rest with
    | [] => s.finish?
    | c :: rest => (s.unroll s.cursor.column).token? c rest

/-- The tokens up to the end of the document, in at most `fuel` steps. -/
def run (fuel : Nat) (s : Scan) : Option (List Token) :=
  match fuel, s.tokens with
  | _, .streamEnd :: _ => some s.tokens.reverse
  | 0, _ => none
  | fuel + 1, _ => s.next?.bind (run fuel)

end Scan

/-- The tokens of a text, if it has only tokens and characters that a document may hold. -/
def tokens? (text : String) : Option (List Token) :=
  if text.toList.all isAllowed then
    (Scan.start (unifyBreaks text.toList)).run (text.length + 1)
  else none

example : tokens? "a: [b]" = some
    [.blockMappingStart, .key, .scalar .plain "a", .value, .flowSequenceStart, .scalar .plain "b",
     .flowSequenceEnd, .blockEnd, .streamEnd] := by cbv

end NfaWorkbench.Yaml
