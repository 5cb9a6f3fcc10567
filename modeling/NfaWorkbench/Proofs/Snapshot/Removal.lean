import NfaWorkbench.Proofs.Graph.Removal
import NfaWorkbench.Proofs.Snapshot.Valid
set_option autoImplicit false

/-!
# Snapshots: what a removal shows

Removing a transition takes the one entry away that is like it; removing a state takes the entry
with its name away, and all transitions in which that name occurs.
-/

namespace NfaWorkbench

namespace Snapshot

/-- The snapshot without a transition. -/
def withoutTransition (s : Snapshot) (t : TransitionSnapshot) : Snapshot :=
  { s with transitions := s.transitions.filter (· ≠ t) }

/-- The snapshot without the state of a name and without the transitions that touch it. -/
def withoutState (s : Snapshot) (name : String) : Snapshot :=
  { s with
    states := s.states.filter fun v => v.name ≠ name
    transitions := s.transitions.filter fun t => t.source ≠ name ∧ t.target ≠ name }

end Snapshot

namespace Graph

variable {g : Graph}

/-! ## Transitions -/

/-- Keeping some transitions keeps their entries, if the entries tell which are kept. -/
theorem snapshot_keepTransitions {keep : TransitionId → Bool} {q : TransitionSnapshot → Bool}
    (h : ∀ t transition, (t, transition) ∈ g.transitions →
      q (g.transitionSnapshot transition) = keep t) :
    (g.keepTransitions keep).snapshot =
      { g.snapshot with transitions := g.snapshot.transitions.filter q } := by
  have hnames : (g.keepTransitions keep).states.mapValues (·.name) =
      g.states.mapValues (·.name) := by
    simp only [keepTransitions, Registry.mapValues, List.map_map]
    rfl
  refine Snapshot.ext rfl ?_ ?_
  · simp only [snapshot, keepTransitions, Registry.mapValues, List.map_map]
    rfl
  · simp only [snapshot, transitionSnapshot, stateName_eq_of_mapValues_eq hnames, List.filter_map]
    simp only [keepTransitions]
    congr 1
    apply List.filter_congr
    rintro ⟨t, transition⟩ ht
    exact (h t transition ht).symm

theorem Consistent.snapshot_removeTransition (hg : g.Consistent) {t : TransitionId}
    {transition : Transition} (ht : (t, transition) ∈ g.transitions) :
    (g.removeTransition t).graph.snapshot =
      g.snapshot.withoutTransition (g.transitionSnapshot transition) := by
  rw [hg.removeTransition_graph]
  refine snapshot_keepTransitions ?_
  intro u other hu
  have hsame : g.transitionSnapshot other = g.transitionSnapshot transition ↔ u = t := by
    constructor
    · intro heq
      obtain rfl := hg.transitionSnapshot_inj hu ht heq
      exact hg.edge_unique u t other hu ht
    · rintro rfl
      rw [Registry.mem_unique hg.transitionIds_nodup hu ht]
  simp [hsame]

/-! ## States -/

theorem stateName_dropState {s u : StateId} (hne : u ≠ s) (name : String) :
    (g.dropState s name).graph.stateName u = g.stateName u := by
  simp [stateName, state?, dropState, Registry.get?_erase, hne]

/-- A state that no transition touches is one entry. -/
theorem Consistent.snapshot_dropState (hg : g.Consistent) {s : StateId} {state : State}
    (hs : (s, state) ∈ g.states) (hfree : ∀ t transition, (t, transition) ∈ g.transitions →
      transition.source ≠ s ∧ transition.target ≠ s) :
    (g.dropState s state.name).graph.snapshot =
      { g.snapshot with states := g.snapshot.states.filter fun v => v.name ≠ state.name } := by
  refine Snapshot.ext rfl ?_ ?_
  · simp only [snapshot, dropState, Registry.erase, List.filter_map]
    congr 1
    apply List.filter_congr
    rintro ⟨u, other⟩ hu
    simp [stateSnapshot, hg.name_eq_iff hu hs]
  · apply List.map_congr_left
    rintro ⟨t, transition⟩ ht
    obtain ⟨hsource, htarget⟩ := hfree t transition ht
    simp only [transitionSnapshot, stateName_dropState hsource, stateName_dropState htarget]

theorem Consistent.snapshot_removeState (hg : g.Consistent) {s : StateId} {state : State}
    (hs : (s, state) ∈ g.states) :
    (g.removeState s).graph.snapshot = g.snapshot.withoutState state.name := by
  have hkept : (s, state.keepLinks (· ∉ g.touching state)) ∈
      (g.keepTransitions (· ∉ g.touching state)).states :=
    Registry.mem_mapValues_iff.2 ⟨state, hs, rfl⟩
  rw [hg.removeState_graph hs, Graph.withoutState]
  refine ((hg.keepTransitions _).snapshot_dropState hkept ?_).trans ?_
  · intro t transition ht
    obtain ⟨hmem, hkeep⟩ := mem_keepTransitions_iff.1 ht
    rw [decide_eq_true_eq, hg.mem_touching_iff_of_mem hs hmem, not_or] at hkeep
    exact hkeep
  · rw [snapshot_keepTransitions (q := fun t => t.source ≠ state.name ∧ t.target ≠ state.name)]
    · rfl
    · intro t transition ht
      obtain ⟨hsource, htarget⟩ := hg.endpoints t transition ht
      simp [hg.mem_touching_iff_of_mem hs ht, transitionSnapshot, hg.stateName_eq_iff hs hsource,
        hg.stateName_eq_iff hs htarget]

end Graph

end NfaWorkbench
