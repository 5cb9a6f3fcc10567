import NfaWorkbench.Json.Printer
import NfaWorkbench.Json.Reader
import NfaWorkbench.Snapshot.Basic
set_option autoImplicit false

/-!
# Snapshots as JSON

A snapshot is written as a JSON object with its fields in a fixed order; the label of an epsilon
transition is left out.

Reading allows more.  Every object may be written as an array of its fields in that order, from
which fields at the end may be missing.  In an object the fields may stand in any order, but each
only once, and members with other keys are skipped.  A flag that is missing is false, a label that
is missing or null is none, and a missing list of transitions is empty.
-/

namespace NfaWorkbench

/-! ## Writing -/

/-- A flag as JSON. -/
def Json.ofFlag (value : Bool) : Json.Value := .bool value

/-- A text as JSON. -/
def Json.ofText (text : String) : Json.Value := .string (some text)

/-- A coordinate as JSON. -/
def Json.ofCoordinate (c : Coordinate) : Json.Value := .number (.ofInt c.val)

/-- A state as JSON. -/
def StateSnapshot.toJson (s : StateSnapshot) : Json.Value :=
  .object [(some "name", Json.ofText s.name), (some "x", Json.ofCoordinate s.x),
    (some "y", Json.ofCoordinate s.y), (some "initial", Json.ofFlag s.initial),
    (some "final", Json.ofFlag s.final), (some "current", Json.ofFlag s.current)]

/-- A transition as JSON. -/
def TransitionSnapshot.toJson (t : TransitionSnapshot) : Json.Value :=
  .object ((some "from", Json.ofText t.source) ::
    ((t.label.map fun label => (some "event", Json.ofText label)).toList
      ++ [(some "to", Json.ofText t.target)]))

namespace Snapshot

/-- A snapshot as a JSON value. -/
def toJson (s : Snapshot) : Json.Value :=
  .object [(some "active", Json.ofFlag s.active),
    (some "states", .array (s.states.map StateSnapshot.toJson)),
    (some "transitions", .array (s.transitions.map TransitionSnapshot.toJson))]

/-- The JSON text of a snapshot. -/
def render (s : Snapshot) : String := Json.pretty s.toJson

end Snapshot

/-! ## Reading fields -/

namespace Json

/-- The text of a string. -/
def text? : Value → Option String
  | .string text => text
  | _ => none

/-- The coordinate of a number. -/
def coordinate? : Value → Option Coordinate
  | .number n => n.toInt?.bind Coordinate.ofInt?
  | _ => none

/-- The value of a flag; one that is missing is false. -/
def flag? : Option Value → Option Bool
  | none => some false
  | some (.bool value) => some value
  | some _ => none

/-- The label of a transition; one that is missing or null is none. -/
def label? : Option Value → Option (Option String)
  | none => some none
  | some .null => some none
  | some value => (text? value).map some

/-- The items of an array, each read by `read`. -/
def items? {α : Type} (read : Value → Option α) : Value → Option (List α)
  | .array items => items.mapM read
  | _ => none

/-- Whether all keys have a text. -/
def allKeysText (members : List (Option String × Value)) : Bool := members.all (·.1.isSome)

/-- The value of the member with a key, if there is one; two are an error. -/
def member? (members : List (Option String × Value)) (key : String) : Option (Option Value) :=
  match members.filter (·.1 = some key) with
  | [] => some none
  | [(_, value)] => some (some value)
  | _ => none

/-- The values of the fields with the given keys, `none` for those that are missing. -/
def fields? (keys : List String) : Value → Option (List (Option Value))
  | .object members => if allKeysText members then keys.mapM (member? members) else none
  | .array items =>
    if items.length ≤ keys.length then
      some (items.map some ++ List.replicate (keys.length - items.length) none)
    else none
  | _ => none

end Json

/-! ## Reading -/

/-- The state that a JSON value describes. -/
def StateSnapshot.ofJson? (j : Json.Value) : Option StateSnapshot :=
  match Json.fields? ["name", "x", "y", "initial", "final", "current"] j with
  | some [some name, some x, some y, initial, final, current] => do
    let name ← Json.text? name
    let x ← Json.coordinate? x
    let y ← Json.coordinate? y
    let initial ← Json.flag? initial
    let final ← Json.flag? final
    let current ← Json.flag? current
    return { name, x, y, initial, final, current }
  | _ => none

/-- The transition that a JSON value describes. -/
def TransitionSnapshot.ofJson? (j : Json.Value) : Option TransitionSnapshot :=
  match Json.fields? ["from", "event", "to"] j with
  | some [some source, label, some target] => do
    let source ← Json.text? source
    let label ← Json.label? label
    let target ← Json.text? target
    return { source, label, target }
  | _ => none

namespace Snapshot

/-- The transitions of a snapshot; a list that is missing is empty. -/
def transitionsOf? : Option Json.Value → Option (List TransitionSnapshot)
  | none => some []
  | some value => Json.items? TransitionSnapshot.ofJson? value

/-- The snapshot that a JSON value describes. -/
def ofJson? (j : Json.Value) : Option Snapshot :=
  match Json.fields? ["active", "states", "transitions"] j with
  | some [active, some states, transitions] => do
    let active ← Json.flag? active
    let states ← Json.items? StateSnapshot.ofJson? states
    let transitions ← transitionsOf? transitions
    return { active, states, transitions }
  | _ => none

/-- The snapshot that a JSON text describes. -/
def parse (text : String) : Option Snapshot := (Json.parse text).bind ofJson?

end Snapshot

end NfaWorkbench
