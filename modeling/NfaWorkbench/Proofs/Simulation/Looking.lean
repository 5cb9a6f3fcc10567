import NfaWorkbench.Proofs.Simulation.Language
set_option autoImplicit false

/-!
# Simulation: looking at a run

Asking for the verdict and stepping without an event close the current states, and so change them.
But a step closes them anyway before it moves, and so does the verdict: graphs that are equal once
they are closed are the same graph after the next step.  Closing twice is closing once, so any number
of looks in between makes no difference.
-/

namespace NfaWorkbench.Graph

variable {g k : Graph}

/-! ## Graphs are determined by their frame and their flags -/

/-- The states with the flags of some states set, and all others cleared. -/
def flagging (r : Registry StateId State) (flagged : List StateId) : Registry StateId State :=
  r.map fun e => (e.1, { e.2 with current := decide (e.1 ∈ flagged) })

theorem flagging_mapValues_unmarked (r : Registry StateId State) (flagged : List StateId) :
    flagging (r.mapValues State.unmarked) flagged = flagging r flagged := by
  simp [flagging, Registry.mapValues, State.unmarked]

theorem Named.flagging_states (hg : g.Named) : flagging g.states g.flaggedStates = g.states := by
  refine (List.map_congr_left ?_).trans (List.map_id _)
  rintro ⟨s, state⟩ hs
  have hflag : decide (s ∈ g.flaggedStates) = state.current :=
    Bool.eq_iff_iff.2 (decide_eq_true_iff.trans (hg.flagged_iff hs))
  rw [hflag]
  rfl

theorem Named.eq_of_unmarked_eq (hg : g.Named) (hframe : k.unmarked = g.unmarked)
    (hmarked : k.marked = g.marked) : k = g := by
  have hflagged : ∀ s, s ∈ k.flaggedStates ↔ s ∈ g.flaggedStates := Set.ext_iff.1 hmarked
  have hstates : k.states = g.states := by
    calc k.states = flagging k.states k.flaggedStates :=
          (hg.of_unmarked_eq hframe).flagging_states.symm
      _ = flagging (k.states.mapValues State.unmarked) k.flaggedStates :=
          (flagging_mapValues_unmarked _ _).symm
      _ = flagging (g.states.mapValues State.unmarked) k.flaggedStates :=
          congrArg (flagging · _) (congrArg Graph.states hframe :)
      _ = flagging g.states k.flaggedStates := flagging_mapValues_unmarked _ _
      _ = flagging g.states g.flaggedStates := by simp only [flagging, hflagged]
      _ = g.states := hg.flagging_states
  cases k
  cases g
  simp_all [unmarked]

/-! ## Closing -/

/-- What is closed stays as it is. -/
theorem Consistent.close_close (hg : g.Consistent) (hactive : g.active = true) :
    g.close.graph.close.graph = g.close.graph := by
  have hframe := unmarked_close g
  have hclosed := hg.of_unmarked_eq hframe hactive
  have hstill : g.close.graph.active = true := (active_eq_of_unmarked_eq hframe).trans hactive
  refine hclosed.eq_of_unmarked_eq (unmarked_close _) ?_
  rw [hclosed.marked_close hstill, machine_eq_of_unmarked_eq hframe, hg.marked_close hactive,
    εClosure_εClosure]

/-- Graphs that are equal once they are closed run both, or none. -/
theorem active_eq_of_close_eq (h : k.close.graph = g.close.graph) : k.active = g.active := by
  rw [← active_eq_of_unmarked_eq (unmarked_close k), h, active_eq_of_unmarked_eq (unmarked_close g)]

/-- A step makes graphs equal that are equal once they are closed. -/
theorem step_graph_eq_of_close_eq (h : k.close.graph = g.close.graph) (hactive : g.active = true)
    (event : Option String) : (k.step event).graph = (g.step event).graph := by
  have hrunning : k.active = true := (active_eq_of_close_eq h).trans hactive
  rw [step.eq_def, step.eq_def, if_pos hactive, if_pos hrunning]
  cases event with
  | none => exact h
  | some label => exact congrArg (fun closed => (closed.advance label).graph) h

/-- The verdict is the same for graphs that are equal once they are closed. -/
theorem recognise_fst_eq_of_close_eq (h : k.close.graph = g.close.graph) :
    k.recognise.1 = g.recognise.1 := by
  rw [recognise, recognise, active_eq_of_close_eq h]
  split
  · simp only [h]
  · rfl

end NfaWorkbench.Graph
