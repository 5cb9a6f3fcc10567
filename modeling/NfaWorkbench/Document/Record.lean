import NfaWorkbench.Graph.Error
import NfaWorkbench.Text.Pieces
set_option autoImplicit false

/-!
# Documents: records

A document describes an automaton line by line.  Every line is empty, a comment, or one record:

    state NAME X Y
    transition SOURCE LABEL TARGET
    initial NAME
    final NAME

Tokens are separated by single spaces; spaces at the end of a line are dropped.  A question mark in
place of a label makes an epsilon transition.  Reading a record checks its form only; names and
labels are checked by the graph.
-/

namespace NfaWorkbench

/-- The four kinds of records. -/
inductive RecordKind
  | state
  | transition
  | initial
  | final
  deriving DecidableEq, Repr

namespace RecordKind

/-- The first token of a record. -/
def keyword : RecordKind → String
  | state => "state"
  | transition => "transition"
  | initial => "initial"
  | final => "final"

/-- The number of tokens of a record. -/
def width : RecordKind → Nat
  | state => 4
  | transition => 4
  | initial => 2
  | final => 2

/-- The kind of record that a first token announces. -/
def ofKeyword? (word : String) : Option RecordKind :=
  if word = "state" then some .state
  else if word = "transition" then some .transition
  else if word = "initial" then some .initial
  else if word = "final" then some .final
  else none

@[simp]
theorem ofKeyword?_keyword (kind : RecordKind) : ofKeyword? kind.keyword = some kind := by
  cases kind <;> decide +kernel

theorem ofKeyword?_eq_some_iff {word : String} {kind : RecordKind} :
    ofKeyword? word = some kind ↔ word = kind.keyword := by
  constructor
  · intro h
    unfold ofKeyword? at h
    split at h
    · simp_all [← Option.some.inj h, keyword]
    · split at h
      · simp_all [← Option.some.inj h, keyword]
      · split at h
        · simp_all [← Option.some.inj h, keyword]
        · split at h
          · simp_all [← Option.some.inj h, keyword]
          · simp at h
  · rintro rfl
    exact ofKeyword?_keyword kind

end RecordKind

/-- One record of a document. -/
inductive Record
  | state (name : String) (position : Position)
  | transition (source : String) (label : Option String) (target : String)
  | initial (name : String)
  | final (name : String)
  deriving DecidableEq, Repr

/-- What can be wrong with a line of a document. -/
inductive LineFault
  /-- The first token announces no record. -/
  | unknownRecord (keyword : String)
  /-- The record has too few or too many tokens. -/
  | tokenCount (kind : RecordKind) (found : Nat)
  /-- The token is not an integer of the allowed range. -/
  | invalidCoordinate (token : String)
  /-- The record refers to a state that no earlier line declares. -/
  | undeclaredState (name : String)
  /-- The line is not text. -/
  | invalidEncoding
  /-- The graph refused the record. -/
  | rejected (error : GraphError)
  deriving DecidableEq, Repr

namespace LineFault

/-- The wording of a fault, without the line number. -/
def message : LineFault → String
  | unknownRecord keyword => "unknown record '" ++ keyword ++ "'"
  | tokenCount kind found =>
    kind.keyword ++ " record expects " ++ Nat.repr kind.width ++ " tokens, found "
      ++ Nat.repr found
  | invalidCoordinate token => "invalid coordinate '" ++ token ++ "'"
  | undeclaredState name => "state '" ++ name ++ "' has not been declared"
  | invalidEncoding => "not valid UTF-8"
  | rejected error => error.message

/-- The stable code of a fault, for scripts. -/
def code : LineFault → String
  | unknownRecord .. => "UNKNOWN_RECORD"
  | tokenCount .. => "TOKEN_COUNT"
  | invalidCoordinate .. => "INVALID_COORDINATE"
  | undeclaredState .. => "UNKNOWN_STATE"
  | invalidEncoding => "INVALID_ENCODING"
  | rejected error => error.code

end LineFault

namespace Record

/-! ## Reading -/

/-- The tokens of a line: what stands between its spaces, without empty tokens at the end. -/
def tokens (line : List Char) : List (List Char) :=
  ((Text.pieces (· == ' ') line).reverse.dropWhile List.isEmpty).reverse

/-- The state record with these tokens after its keyword. -/
def readState (name x y : String) : Except LineFault Record :=
  match Coordinate.parse? x with
  | none => .error (.invalidCoordinate x)
  | some cx => match Coordinate.parse? y with
    | none => .error (.invalidCoordinate y)
    | some cy => .ok (.state name ⟨cx, cy⟩)

/-- The record of a kind with the given tokens after its keyword. -/
def ofArguments (kind : RecordKind) (arguments : List String) : Except LineFault Record :=
  match kind, arguments with
  | .state, [name, x, y] => readState name x y
  | .transition, [source, label, target] => .ok (.transition source (labelOfWord label) target)
  | .initial, [name] => .ok (.initial name)
  | .final, [name] => .ok (.final name)
  | _, _ => .error (.tokenCount kind (arguments.length + 1))

/-- The record with the given tokens. -/
def ofTokens (keyword : String) (arguments : List String) : Except LineFault Record :=
  match RecordKind.ofKeyword? keyword with
  | none => .error (.unknownRecord keyword)
  | some kind => ofArguments kind arguments

/-- Reads a line: `none` for an empty line, one of spaces and a comment, else its record. -/
def read (line : String) : Except LineFault (Option Record) :=
  match line.toList with
  | '#' :: _ => .ok none
  | characters =>
    match (tokens characters).map String.ofList with
    | [] => .ok none
    | keyword :: arguments => (ofTokens keyword arguments).map some

/-! ## Writing -/

/-- The tokens of a record. -/
def toTokens : Record → List String
  | state name position => ["state", name, position.x.render, position.y.render]
  | transition source label target => ["transition", source, renderLabel label, target]
  | initial name => ["initial", name]
  | final name => ["final", name]

/-- The line of a record: its tokens with single spaces between them. -/
def render (r : Record) : String := " ".intercalate r.toTokens

example : read "state a  0 0" = .error (.tokenCount .state 5) := by cbv
example : read "   " = .ok none ∧ read " # x" = .error (.unknownRecord "") := by cbv
example : read "final b  " = .ok (some (.final "b")) := by cbv

end Record

end NfaWorkbench
