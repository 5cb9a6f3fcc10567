import NfaWorkbench.Notification
set_option autoImplicit false

/-!
# Graph: changes

A change is what an operation does: the graph afterwards and the notifications on the way, in the
order in which they are sent.  Changes follow one another with `andThen` and `each`; the
notifications of the later one come after those of the earlier one.
-/

namespace NfaWorkbench

/-- A graph after an operation, and the notifications that the operation sent. -/
structure Change where
  graph : Graph
  notes : List Notification

namespace Change

/-- Nothing happens. -/
def none (g : Graph) : Change := ⟨g, []⟩

/-- One change after another. -/
def andThen (c : Change) (f : Graph → Change) : Change :=
  let later := f c.graph
  ⟨later.graph, c.notes ++ later.notes⟩

/-- A change for each element of a list, one after another. -/
def each {α : Type} (f : Graph → α → Change) : List α → Graph → Change
  | [], g => none g
  | a :: rest, g => (f g a).andThen (each f rest)

/-- The change with one more notification at its end. -/
def notify (c : Change) (note : Notification) : Change := ⟨c.graph, c.notes ++ [note]⟩

end Change

end NfaWorkbench
