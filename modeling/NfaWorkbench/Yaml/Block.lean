import NfaWorkbench.Yaml.Cursor
set_option autoImplicit false

/-!
# YAML: block scalars

A block scalar stands below a sign, deeper than the node around it.  Below a vertical bar it keeps
its line breaks; below a greater-than sign lines are joined by spaces, except beside lines that
begin with a blank.  A plus sign after it keeps all line breaks at its end, a minus sign drops them,
and otherwise one is kept.  A digit gives the indentation; without one the deepest of the lines up
to the first one that is not empty gives it.

Texts that are being read are kept with the last character first.
-/

namespace NfaWorkbench.Yaml

/-- What becomes of the line breaks at the end of a block scalar. -/
inductive Chomping
  | drop
  | one
  | keep
  deriving DecidableEq, Repr

/-- What stands after the sign of a block scalar. -/
structure BlockHeader where
  indentation : Option Nat
  chomping : Chomping
  deriving DecidableEq, Repr

/-- Reads the sign of a chomping. -/
def readChomping (c : Cursor) : Option (Chomping × Cursor) :=
  if c.isAt '+' then some (.keep, c.skip 1)
  else if c.isAt '-' then some (.drop, c.skip 1)
  else none

/-- Reads the digit of an indentation, if there is one; it must not be zero. -/
def readIndentation (c : Cursor) : Option (Option Nat × Cursor) :=
  match c.rest with
  | d :: _ =>
    if d = '0' then none
    else if d.isDigit then some (some (d.toNat - '0'.toNat), c.skip 1)
    else some (none, c)
  | [] => some (none, c)

/-- Reads what stands after the sign, in either order, up to the end of the line. -/
def readHeader (c : Cursor) : Option (BlockHeader × Cursor) :=
  match readChomping c with
  | some (chomping, c) => match readIndentation c with
    | none => none
    | some (indentation, c) => c.nextLine?.map (⟨indentation, chomping⟩, ·)
  | none => match readIndentation c with
    | none => none
    | some (none, c) => c.nextLine?.map (⟨none, .one⟩, ·)
    | some (indentation, c) =>
      let (chomping, c) := (readChomping c).getD (.one, c)
      c.nextLine?.map (⟨indentation, chomping⟩, ·)

/-- The empty lines at the start of a block scalar of unknown indentation: their line breaks, last
one first, the column of the deepest line, and the place after them. -/
structure Margin where
  breaks : List Char
  depth : Nat
  finish : Cursor
  deriving DecidableEq, Repr

/-- Reads the empty lines at the start of a block scalar, and the spaces of the first line that is
not empty. -/
def scanMargin (breaks : List Char) (depth : Nat) (spot : Spot) : List Char → Option Margin
  | [] => some ⟨breaks, depth, ⟨spot, []⟩⟩
  | c :: rest =>
    if c = ' ' then scanMargin breaks (max depth (spot.column + 1)) (spot.next c) rest
    else if c = '\t' then none
    else if isBreak c then scanMargin (c :: breaks) depth spot.nextLine rest
    else some ⟨breaks, depth, ⟨spot, c :: rest⟩⟩

/-- A block scalar that is being read. -/
structure BlockText where
  /-- The text up to the end of the last line, last character first. -/
  text : List Char
  /-- The line break after that line. -/
  lineBreak : List Char
  /-- The line breaks of the empty lines after it, last one first. -/
  emptyLines : List Char
  /-- Whether that line begins with a blank. -/
  blankLine : Bool
  deriving DecidableEq, Repr

namespace BlockText

/-- Nothing has been read but some empty lines. -/
def start (emptyLines : List Char) : BlockText := ⟨[], [], emptyLines, false⟩

/-- A line that begins with a character is joined to the text. -/
def beginLine (b : BlockText) (folded : Bool) (c : Char) : BlockText :=
  let folds := folded && b.lineBreak = ['\n'] && !b.blankLine && !isBlank c
  let gap := if folds then if b.emptyLines = [] then [' '] else [] else b.lineBreak
  ⟨c :: (b.emptyLines ++ (gap ++ b.text)), [], [], isBlank c⟩

/-- The text of a block scalar at its end. -/
def finish (b : BlockText) (chomping : Chomping) : String :=
  String.ofList (match chomping with
    | .drop => b.text
    | .one => b.lineBreak ++ b.text
    | .keep => b.emptyLines ++ (b.lineBreak ++ b.text)).reverse

end BlockText

/-- Reads the lines of a block scalar of known indentation; `inLine` tells whether the place is
within one of them. -/
def scanLines (folded : Bool) (indentation : Nat) (inLine : Bool) (b : BlockText)
    (spot : Spot) : List Char → Option (BlockText × Cursor)
  | [] => some (b, ⟨spot, []⟩)
  | c :: rest =>
    if inLine then
      if isBreak c then
        scanLines folded indentation false { b with lineBreak := [c] } spot.nextLine rest
      else
        scanLines folded indentation true { b with text := c :: b.text } (spot.next c) rest
    else if spot.column < indentation && c = ' ' then
      scanLines folded indentation false b (spot.next c) rest
    else if spot.column < indentation && c = '\t' then none
    else if isBreak c then
      scanLines folded indentation false { b with emptyLines := c :: b.emptyLines } spot.nextLine
        rest
    else if spot.column = indentation then
      scanLines folded indentation true (b.beginLine folded c) (spot.next c) rest
    else some (b, ⟨spot, c :: rest⟩)

/-- The margin of a block scalar after its header; `min` is the least column that it may have. -/
def readMargin (header : BlockHeader) (min : Nat) (c : Cursor) : Option Margin :=
  match header.indentation with
  | some n => some ⟨[], (min - 1) + n, c⟩
  | none => (scanMargin [] 0 c.toSpot c.rest).map fun m =>
      { m with depth := max m.depth (max min 1) }

/-- Reads a block scalar whose sign has been read; `min` is the least column that it may have. -/
def readBlockScalar (folded : Bool) (min : Nat) (c : Cursor) : Option (String × Cursor) :=
  match readHeader c with
  | none => none
  | some (header, c) => match readMargin header min c with
    | none => none
    | some m =>
      (scanLines folded m.depth false (.start m.breaks) m.finish.toSpot m.finish.rest).map fun r => (r.1.finish header.chomping, r.2)

example : (readBlockScalar false 1 ⟨.start, "+\n  a\n\n b".toList⟩).map (·.1) = some "a\n\n" := by
  decide +kernel
example : (readBlockScalar true 0 ⟨.start, "\n\n a\n b\n\n c".toList⟩).map (·.1) =
    some "\na b\nc" := by decide +kernel

end NfaWorkbench.Yaml
