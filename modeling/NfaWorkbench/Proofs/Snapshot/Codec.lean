import NfaWorkbench.Proofs.Json.RoundTrip
import NfaWorkbench.Snapshot.Codec
set_option autoImplicit false

/-!
# Snapshots: what is written is read back

Every snapshot is read back from its JSON text, whether or not it keeps the rules of a graph: the
fields of each object are found under their keys, and the one field that may be left out, the label
of a transition, is none where it is missing.
-/

namespace NfaWorkbench

theorem StateSnapshot.ofJson?_toJson (v : StateSnapshot) : ofJson? v.toJson = some v := by
  simp [ofJson?, toJson, Json.fields?, Json.allKeysText, Json.member?, Json.ofText,
    Json.ofCoordinate, Json.ofFlag, Json.text?, Json.coordinate?, Json.flag?]

theorem TransitionSnapshot.ofJson?_toJson (t : TransitionSnapshot) : ofJson? t.toJson = some t := by
  obtain ⟨source, label, target⟩ := t
  cases label <;>
    simp [ofJson?, toJson, Json.fields?, Json.allKeysText, Json.member?, Json.ofText, Json.text?,
      Json.label?]

/-- A list is read back if each of its items is. -/
theorem Json.items?_map {α : Type} {read : Value → Option α} {write : α → Value}
    (h : ∀ a, read (write a) = some a) (l : List α) :
    items? read (.array (l.map write)) = some l := by
  rw [items?]
  induction l with
  | nil => rfl
  | cons a rest ih => simp [h, ih]

namespace Snapshot

theorem ofJson?_toJson (s : Snapshot) : ofJson? s.toJson = some s := by
  have hstates := Json.items?_map StateSnapshot.ofJson?_toJson s.states
  have htransitions := Json.items?_map TransitionSnapshot.ofJson?_toJson s.transitions
  simp [ofJson?, toJson, Json.fields?, Json.allKeysText, Json.member?, Json.ofFlag, Json.flag?,
    hstates, htransitions, transitionsOf?]

/-- Every snapshot is read back from its JSON text, whatever its texts, numbers and flags are. -/
theorem parse_render (s : Snapshot) : parse s.render = some s := by
  rw [parse, render, Json.parse_pretty, Option.bind_some, ofJson?_toJson]

end Snapshot

end NfaWorkbench
