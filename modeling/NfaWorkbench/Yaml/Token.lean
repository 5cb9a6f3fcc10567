import NfaWorkbench.Yaml.Block
import NfaWorkbench.Yaml.Scalar
set_option autoImplicit false

/-!
# YAML: tokens

The tokens of a document, and how those are read that do not depend on the tokens before them:
directives, anchors, aliases and tags.
-/

namespace NfaWorkbench.Yaml

/-- How a scalar was written. -/
inductive ScalarStyle
  | plain
  | quoted
  | literal
  | folded
  deriving DecidableEq, Repr

/-- A token. -/
inductive Token
  /-- The version of the format that a document asks for. -/
  | version (major minor : Nat)
  /-- A short handle for the beginning of tags. -/
  | tagHandle (handle beginning : String)
  | documentStart
  | documentEnd
  | streamEnd
  | blockSequenceStart
  | blockMappingStart
  | blockEnd
  | flowSequenceStart
  | flowSequenceEnd
  | flowMappingStart
  | flowMappingEnd
  /-- The dash of an item. -/
  | item
  /-- The comma between brackets. -/
  | comma
  /-- A key follows. -/
  | key
  /-- A value follows. -/
  | value
  | anchor (name : String)
  | alias (name : String)
  | tag (handle suffix : String)
  | scalar (style : ScalarStyle) (text : String)
  deriving DecidableEq, Repr

namespace Token

/-! ## Anchors and aliases -/

/-- Reads the name of an anchor or alias. -/
def readName (c : Cursor) : Option (String × Cursor) :=
  let name := c.rest.takeWhile isNameCharacter
  let finish := c.skip name.length
  let ends := finish.atGap
    || finish.rest.head?.any (· ∈ ['?', ':', ',', ']', '\x7d', '%', '@', '\x60'])
  if name = [] ∨ !ends then none else some (String.ofList name, finish)

/-! ## Tags -/

/-- Whether a character may stand in a tag as it is; some only if the tag is written in full. -/
def isTagCharacter (full : Bool) (c : Char) : Bool :=
  isNameCharacter c
    || c ∈ [';', '/', '?', ':', '@', '&', '=', '+', '$', '.', '!', '~', '*', '\x27', '(', ')']
    || (full && c ∈ [',', '[', ']'])

/-- The number of bytes of a character in UTF-8 whose first byte is this one. -/
def sizeOfFirstByte? (byte : Nat) : Option Nat :=
  if byte < 0x80 then some 1
  else if byte < 0xC0 then none
  else if byte < 0xE0 then some 2
  else if byte < 0xF0 then some 3
  else if byte < 0xF8 then some 4
  else none

/-- The number of bytes that are missing of a character after one more byte. -/
def missingAfter? (missing byte : Nat) : Option Nat :=
  if missing = 0 then (sizeOfFirstByte? byte).map (· - 1)
  else if 0x80 ≤ byte ∧ byte < 0xC0 then some (missing - 1)
  else none

/-- Reads the rest of a tag, to which `text` belongs, last character first.  A percent sign and two
hexadecimal digits stand for a byte; `missing` bytes must follow in this form. -/
def scanTag (full : Bool) (missing : Nat) (text : List Char) (spot : Spot) :
    List Char → Option (List Char × Cursor)
  | [] => if missing = 0 then some (text, ⟨spot, []⟩) else none
  | c :: rest =>
    if c = '%' then
      match rest with
      | high :: low :: rest => match Text.hexNumber? [high, low] with
        | none => none
        | some byte => match missingAfter? missing byte with
          | none => none
          | some missing =>
            let spot := ((spot.next c).next high).next low
            scanTag full missing (Char.ofNat byte :: text) spot rest
      | _ => none
    else if missing ≠ 0 then none
    else if isTagCharacter full c then scanTag full 0 (c :: text) (spot.next c) rest
    else some (text, ⟨spot, c :: rest⟩)

/-- Reads the rest of a tag that begins with the given text. -/
def readTagText (full : Bool) (beginning : List Char) (c : Cursor) : Option (String × Cursor) :=
  (scanTag full 0 beginning.reverse c.toSpot c.rest).map fun r =>
    (String.ofList r.1.reverse, r.2)

/-- A tag up to its first zero character; what follows it does not count. -/
def upToZero (text : String) : String := String.ofList (text.toList.takeWhile (· ≠ '\x00'))

/-- Reads a handle with its exclamation marks; `closed` tells whether the second one is there. -/
def readHandle (c : Cursor) : Option (List Char × Bool × Cursor) :=
  if c.isAt '!' then
    let name := (c.rest.drop 1).takeWhile isNameCharacter
    let c := c.skip (1 + name.length)
    if c.isAt '!' then some (name, true, c.skip 1) else some (name, false, c)
  else none

/-- A handle with exclamation marks around it. -/
def handleText (name : List Char) : String := String.ofList ('!' :: name ++ ['!'])

/-- Reads a tag up to its end. -/
def readTagParts (c : Cursor) : Option (Token × Cursor) :=
  match c.rest with
  | '!' :: '<' :: _ => match readTagText true [] (c.skip 2) with
    | none => none
    | some (text, c) =>
      if text ≠ "" ∧ c.isAt '>' then some (.tag "" (upToZero text), c.skip 1) else none
  | _ => match readHandle c with
    | none => none
    | some (name, true, c) => match readTagText false [] c with
      | none => none
      | some (text, c) =>
        if text = "" then none else some (.tag (handleText name) (upToZero text), c)
    | some (name, false, c) => match readTagText false name c with
      | none => none
      | some (text, c) =>
        let suffix := upToZero text
        some (if suffix = "" then .tag "" "!" else .tag "!" suffix, c)

/-- Reads a tag. -/
def readTag (flow : Bool) (c : Cursor) : Option (Token × Cursor) :=
  match readTagParts c with
  | none => none
  | some (token, finish) =>
    if finish.atGap || (flow && finish.isAt ',') then some (token, finish) else none

/-! ## Directives -/

/-- Reads a number of at most nine digits. -/
def readVersionNumber (c : Cursor) : Option (Nat × Cursor) :=
  let digits := c.rest.takeWhile Char.isDigit
  if digits = [] ∨ 9 < digits.length then none
  else some (Nat.ofDigitChars 10 digits 0, c.skip digits.length)

/-- Reads the rest of a directive that asks for a version. -/
def readVersion (c : Cursor) : Option (Token × Cursor) :=
  match readVersionNumber (c.skipWhile isBlank) with
  | none => none
  | some (major, c) =>
    if c.isAt '.' then
      (readVersionNumber (c.skip 1)).map fun r => (.version major r.1, r.2)
    else none

/-- Reads the rest of a directive that introduces a handle. -/
def readTagHandle (c : Cursor) : Option (Token × Cursor) :=
  match readHandle (c.skipWhile isBlank) with
  | none => none
  | some (name, closed, c) =>
    if (!closed && name ≠ []) || !c.rest.head?.any isBlank then none
    else match readTagText true [] (c.skipWhile isBlank) with
      | none => none
      | some (text, c) =>
        if text = "" ∨ !c.atGap then none
        else some (.tagHandle (if closed then handleText name else "!") (upToZero text), c)

/-- Reads a directive whose percent sign has been read, up to the end of its line. -/
def readDirective (c : Cursor) : Option (Token × Cursor) :=
  let name := c.rest.takeWhile isNameCharacter
  let c := c.skip name.length
  let directive :=
    if !c.atGap then none
    else if name = "YAML".toList then readVersion c
    else if name = "TAG".toList then readTagHandle c
    else none
  match directive with
  | none => none
  | some (token, c) => c.nextLine?.map (token, ·)

end Token

end NfaWorkbench.Yaml
