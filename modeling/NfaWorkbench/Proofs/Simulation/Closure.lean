import Mathlib.Computability.EpsilonNFA
import NfaWorkbench.Proofs.Simulation.Marking
set_option autoImplicit false

/-!
# Simulation: the epsilon closure

A graph is an automaton in the sense of the theory: its states are the identifiers, and it steps
along the member transitions.  Following epsilon transitions turns the current states into their
epsilon closure.  The loop keeps one invariant: only the states of the frontier may have an epsilon
transition to a state that is not current.  Every pass that is not the last takes a state from the
idle ones, so the passes suffice.
-/

namespace NfaWorkbench

/-! ## Closures in any automaton -/

section Machines

variable {α σ : Type} {M : εNFA α σ} {S T : Set σ}

theorem εClosure_subset_of_closed (hST : S ⊆ T)
    (hclosed : ∀ s ∈ T, ∀ t ∈ M.step s none, t ∈ T) : M.εClosure S ⊆ T := by
  intro s hs
  induction hs with
  | base s hs => exact hST hs
  | step s t ht _ ih => exact hclosed s ih t ht

theorem εClosure_eq_self (hclosed : ∀ s ∈ S, ∀ t ∈ M.step s none, t ∈ S) : M.εClosure S = S :=
  Set.Subset.antisymm (εClosure_subset_of_closed Set.Subset.rfl hclosed) (M.subset_εClosure S)

/-- Adding states that the closure has already does not change it. -/
theorem εClosure_eq_of_subset (hST : S ⊆ T) (hT : T ⊆ M.εClosure S) :
    M.εClosure T = M.εClosure S := by
  have hstep : ∀ s ∈ M.εClosure S, ∀ t ∈ M.step s none, t ∈ M.εClosure S :=
    fun s hs t ht => εNFA.εClosure.step s t ht hs
  refine Set.Subset.antisymm (εClosure_subset_of_closed hT hstep) ?_
  exact εClosure_subset_of_closed (hST.trans (M.subset_εClosure T))
    fun s hs t ht => εNFA.εClosure.step s t ht hs

theorem εClosure_εClosure : M.εClosure (M.εClosure S) = M.εClosure S :=
  εClosure_eq_of_subset (M.subset_εClosure S) Set.Subset.rfl

end Machines

namespace Graph

variable {g k : Graph}

/-- The automaton that a graph describes. -/
def machine (g : Graph) : εNFA String StateId where
  step s label := {u | ∃ t, (t, ⟨s, u, label⟩) ∈ g.transitions}
  start := {s | s ∈ g.initialStates}
  accept := {s | s ∈ g.finalStates}

theorem mem_machine_step_iff {s u : StateId} {label : Option String} :
    u ∈ g.machine.step s label ↔ ∃ t, (t, ⟨s, u, label⟩) ∈ g.transitions := Iff.rfl

theorem idsWhere_eq_of_unmarked_eq (h : k.unmarked = g.unmarked) {p : State → Bool}
    (hp : ∀ v, p v.unmarked = p v) : k.states.idsWhere p = g.states.idsWhere p := by
  have hview : ∀ r : Registry StateId State, r.idsWhere p = (r.mapValues p).idsWhere id := by
    intro r
    simp [Registry.idsWhere, Registry.mapValues, List.filter_map, Function.comp_def]
  rw [hview, hview, mapValues_eq_of_unmarked_eq h hp]

/-- The flags are no part of the automaton. -/
theorem machine_eq_of_unmarked_eq (h : k.unmarked = g.unmarked) : k.machine = g.machine := by
  have hinitial : k.initialStates = g.initialStates := idsWhere_eq_of_unmarked_eq h fun _ => rfl
  have hfinal : k.finalStates = g.finalStates := idsWhere_eq_of_unmarked_eq h fun _ => rfl
  simp only [machine, transitions_eq_of_unmarked_eq h, hinitial, hfinal]

/-- The flagged states, as a set. -/
def marked (g : Graph) : Set StateId := {s | s ∈ g.flaggedStates}

@[simp]
theorem mem_marked_iff {s : StateId} : s ∈ g.marked ↔ s ∈ g.flaggedStates := Iff.rfl

theorem Wired.step_subset (hg : g.Wired) {s u : StateId} {label : Option String}
    (hu : u ∈ g.machine.step s label) : s ∈ g.states.ids ∧ u ∈ g.states.ids := by
  obtain ⟨t, ht⟩ := hu
  exact hg.endpoints t _ ht

/-- What states keep of their transitions suffices to find all targets. -/
theorem Consistent.mem_targets_iff (hg : g.Consistent) {sources : List StateId}
    {label : Option String} {u : StateId} :
    u ∈ g.targets sources label ↔ ∃ s ∈ sources, u ∈ g.machine.step s label := by
  rw [targets, List.mem_flatMap]
  refine exists_congr fun s => and_congr_right fun _ => ?_
  cases hstate : g.state? s with
  | none =>
    simp only [List.not_mem_nil, false_iff]
    intro hu
    exact Registry.get?_eq_none_iff.1 hstate (hg.step_subset hu).1
  | some state =>
    have hs := hg.state?_eq_some_iff.1 hstate
    simp only [List.mem_filterMap, hg.outgoing_eq s state hs, mem_machine_step_iff]
    constructor
    · intro hgiven
      obtain ⟨t, ht, hu⟩ := hgiven
      obtain ⟨transition, hmem, hsource⟩ := Registry.mem_idsWhere_iff.1 ht
      rw [hg.transition?_eq_some_iff.2 hmem] at hu
      simp only [Option.ite_none_right_eq_some, Option.some.injEq, decide_eq_true_eq] at hu hsource
      obtain ⟨rfl, rfl⟩ := hu
      exact ⟨t, hsource ▸ hmem⟩
    · intro hgiven
      obtain ⟨t, ht⟩ := hgiven
      refine ⟨t, Registry.mem_idsWhere_iff.2 ⟨_, ht, by simp⟩, ?_⟩
      simp [hg.transition?_eq_some_iff.2 ht]

/-! ## The loop -/

/-- Only states of the frontier have epsilon transitions to states that are not marked. -/
structure IsFrontier (g : Graph) (frontier : List StateId) : Prop where
  marked : ∀ s ∈ frontier, s ∈ g.marked
  covers : ∀ s ∈ g.marked, s ∉ frontier → ∀ u ∈ g.machine.step s none, u ∈ g.marked

/-- One pass marks the epsilon targets of the frontier. -/
theorem Consistent.mem_marked_pass_iff (hg : g.Consistent) (frontier : List StateId)
    {u : StateId} : u ∈ (markIdle (g.targets frontier none) g).graph.marked ↔
      u ∈ g.marked ∨ ∃ s ∈ frontier, u ∈ g.machine.step s none := by
  rw [mem_marked_iff, hg.mem_flaggedStates_markIdle, hg.mem_targets_iff, mem_marked_iff]
  refine or_congr_right (and_iff_left_of_imp ?_)
  intro hgiven
  obtain ⟨s, _, hu⟩ := hgiven
  exact (hg.step_subset hu).2

/-- What a pass has marked is the frontier of the next pass. -/
theorem Consistent.isFrontier_pass (hg : g.Consistent) {frontier : List StateId}
    (hfrontier : g.IsFrontier frontier) :
    (markIdle (g.targets frontier none) g).graph.IsFrontier
      (markIdle (g.targets frontier none) g).marked := by
  have hmarked := fun t => hg.mem_marked_markIdle (g.targets frontier none) (t := t)
  constructor
  · intro s hs
    obtain ⟨htarget, _, _⟩ := (hmarked s).1 hs
    exact (hg.mem_marked_pass_iff frontier).2 (.inr (hg.mem_targets_iff.1 htarget))
  · intro s hs hnot u hu
    rw [machine_eq_of_unmarked_eq (unmarked_markIdle _ g)] at hu
    -- A state that is no news was marked before the pass.
    have hold : s ∈ g.marked := by
      rcases (hg.mem_marked_pass_iff frontier).1 hs with hold | hnew
      · exact hold
      · by_contra hidle
        refine hnot ((hmarked s).2 ⟨hg.mem_targets_iff.2 hnew, ?_, hidle⟩)
        exact (hg.step_subset hu).1
    refine (hg.mem_marked_pass_iff frontier).2 ?_
    by_cases hfront : s ∈ frontier
    · exact .inr ⟨s, hfront, hu⟩
    · exact .inl (hfrontier.covers s hold hfront u hu)

/-- A pass stays within the closure. -/
theorem Consistent.εClosure_pass (hg : g.Consistent) {frontier : List StateId}
    (hfrontier : g.IsFrontier frontier) :
    g.machine.εClosure (markIdle (g.targets frontier none) g).graph.marked =
      g.machine.εClosure g.marked := by
  refine εClosure_eq_of_subset ?_ ?_
  · intro s hs
    exact (hg.mem_marked_pass_iff frontier).2 (.inl hs)
  · intro u hu
    rcases (hg.mem_marked_pass_iff frontier).1 hu with hold | ⟨s, hs, hstep⟩
    · exact g.machine.subset_εClosure _ hold
    · exact εNFA.εClosure.step s u hstep (g.machine.subset_εClosure _ (hfrontier.marked s hs))

theorem Consistent.marked_markFrom (hg : g.Consistent) (hactive : g.active = true) {fuel : Nat}
    {frontier : List StateId} (hfrontier : g.IsFrontier frontier)
    (hfuel : frontier ≠ [] → g.idleCount < fuel) :
    (markFrom fuel frontier g).graph.marked = g.machine.εClosure g.marked := by
  induction fuel generalizing frontier g with
  | zero =>
    have hnil : frontier = [] := by
      by_contra hne
      exact Nat.not_lt_zero _ (hfuel hne)
    subst hnil
    exact (εClosure_eq_self fun s hs => hfrontier.covers s hs (by simp)).symm
  | succ fuel ih =>
    match frontier with
    | [] => exact (εClosure_eq_self fun s hs => hfrontier.covers s hs (by simp)).symm
    | s :: rest =>
      have hframe := unmarked_markIdle (g.targets (s :: rest) none) g
      have hcount := hg.idleCount_markIdle (g.targets (s :: rest) none)
      have hbound : g.idleCount < fuel + 1 := hfuel (by simp)
      have hlater := ih (hg.of_unmarked_eq hframe hactive)
        ((active_eq_of_unmarked_eq hframe).trans hactive) (hg.isFrontier_pass hfrontier) (by
          intro hne
          have hpos := List.length_pos_iff.2 hne
          omega)
      rw [machine_eq_of_unmarked_eq hframe, hg.εClosure_pass hfrontier] at hlater
      exact hlater

/-- Following epsilon transitions makes the closure of the current states current. -/
theorem Consistent.marked_close (hg : g.Consistent) (hactive : g.active = true) :
    g.close.graph.marked = g.machine.εClosure g.marked := by
  refine hg.marked_markFrom hactive ⟨fun s hs => hs, ?_⟩ fun _ => Nat.lt_succ_self _
  intro s hs hnot
  exact absurd hs hnot

end Graph

end NfaWorkbench
