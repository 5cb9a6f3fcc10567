import NfaWorkbench.Proofs.Simulation.Language
import NfaWorkbench.Proofs.Snapshot.Status
set_option autoImplicit false

/-!
# Snapshots: what the simulation shows

A snapshot is an automaton over names, and the graph walks in step with it: the names of the states
that the graph reaches are those that the snapshot reaches.  So what the simulation does to a
snapshot is a function of the snapshot, the verdict included.
-/

namespace NfaWorkbench

/-! ## Automata in step -/

section Machines

variable {α σ τ : Type}

/-- On its members, `M` takes the same steps as `N` under other names. -/
structure InStep (M : εNFA α σ) (N : εNFA α τ) (f : σ → τ) (members : Set σ) : Prop where
  closed : ∀ s ∈ members, ∀ label, M.step s label ⊆ members
  image_step : ∀ s ∈ members, ∀ label, f '' M.step s label = N.step (f s) label

namespace InStep

variable {M : εNFA α σ} {N : εNFA α τ} {f : σ → τ} {members S : Set σ}

theorem εClosure_subset (h : InStep M N f members) (hS : S ⊆ members) :
    M.εClosure S ⊆ members :=
  εClosure_subset_of_closed hS fun s hs _ ht => h.closed s hs none ht

/-- The closure of the images is the image of the closure. -/
theorem image_εClosure (h : InStep M N f members) (hS : S ⊆ members) :
    f '' M.εClosure S = N.εClosure (f '' S) := by
  apply Set.Subset.antisymm
  · rintro _ ⟨s, hs, rfl⟩
    induction hs with
    | base s hs => exact N.subset_εClosure _ ⟨s, hs, rfl⟩
    | step s t ht hs ih =>
      refine εNFA.εClosure.step (f s) (f t) ?_ ih
      rw [← h.image_step s (h.εClosure_subset hS hs)]
      exact ⟨t, ht, rfl⟩
  · refine εClosure_subset_of_closed (Set.image_mono (M.subset_εClosure S)) ?_
    rintro _ ⟨s, hs, rfl⟩ u hu
    rw [← h.image_step s (h.εClosure_subset hS hs)] at hu
    obtain ⟨t, ht, rfl⟩ := hu
    exact ⟨t, εNFA.εClosure.step s t ht hs, rfl⟩

theorem image_moveSet (h : InStep M N f members) (hS : S ⊆ members) (a : α) :
    f '' moveSet M S a = moveSet N (f '' S) a := by
  ext u
  constructor
  · rintro ⟨t, ⟨s, hs, ht⟩, rfl⟩
    refine ⟨f s, ⟨s, hs, rfl⟩, ?_⟩
    rw [← h.image_step s (hS hs)]
    exact ⟨t, ht, rfl⟩
  · rintro ⟨_, ⟨s, hs, rfl⟩, hu⟩
    rw [← h.image_step s (hS hs)] at hu
    obtain ⟨t, ht, rfl⟩ := hu
    exact ⟨t, ⟨s, hs, ht⟩, rfl⟩

end InStep

end Machines

/-! ## The simulation of a snapshot -/

namespace Snapshot

/-- The names of the states with a property. -/
def namesWhere (s : Snapshot) (p : StateSnapshot → Bool) : List String :=
  (s.states.filter p).map (·.name)

/-- The automaton that a snapshot describes. -/
def machine (s : Snapshot) : εNFA String String where
  step name label := {target | ⟨name, label, target⟩ ∈ s.transitions}
  start := {name | name ∈ s.namesWhere (·.initial)}
  accept := {name | name ∈ s.namesWhere (·.final)}

/-- The names of the states that are shown as current. -/
def marked (s : Snapshot) : Set String := {name | name ∈ s.namesWhere (·.current)}

open Classical in
/-- The snapshot with a running simulation, in which the states with these names are current. -/
noncomputable def runningAt (s : Snapshot) (names : Set String) : Snapshot :=
  s.running fun name => decide (name ∈ names)

/-- A restart. -/
noncomputable def reset (s : Snapshot) : Snapshot := s.runningAt s.machine.start

/-- One step of the running simulation. -/
noncomputable def step (s : Snapshot) (event : Option String) : Snapshot :=
  if s.active then
    s.runningAt (match event with
      | none => s.machine.εClosure s.marked
      | some label => moveSet s.machine (s.machine.εClosure s.marked) label)
  else s

open Classical in
/-- Whether the input so far is recognised, and the snapshot after that was asked. -/
noncomputable def recognise (s : Snapshot) : Bool × Snapshot :=
  if s.active then
    (decide (∃ name ∈ s.machine.εClosure s.marked, name ∈ s.machine.accept),
      s.runningAt (s.machine.εClosure s.marked))
  else (false, s)

end Snapshot

namespace Graph

variable {g k : Graph}

/-- The states with a property are listed under their names. -/
theorem Named.map_stateName_idsWhere (hg : g.Named) {p : State → Bool} {q : StateSnapshot → Bool}
    (hq : ∀ state, q (g.stateSnapshot state) = p state) :
    (g.states.idsWhere p).map g.stateName = g.snapshot.namesWhere q := by
  simp only [Snapshot.namesWhere, snapshot, Registry.idsWhere, List.map_map, List.filter_map,
    Function.comp_def, hq]
  apply List.map_congr_left
  rintro ⟨s, state⟩ hs
  rw [hg.stateName_of_mem (List.mem_filter.1 hs).1]
  rfl

theorem Named.image_idsWhere (hg : g.Named) {p : State → Bool} {q : StateSnapshot → Bool}
    (hq : ∀ state, q (g.stateSnapshot state) = p state) :
    g.stateName '' {s | s ∈ g.states.idsWhere p} = {name | name ∈ g.snapshot.namesWhere q} := by
  ext name
  rw [← hg.map_stateName_idsWhere hq]
  simp

/-- A graph walks in step with its snapshot. -/
theorem Consistent.inStep (hg : g.Consistent) :
    InStep g.machine g.snapshot.machine g.stateName {s | s ∈ g.states.ids} where
  closed _ _ _ _ ht := (hg.step_subset ht).2
  image_step := by
    intro s hs label
    ext name
    simp only [Set.mem_image, mem_machine_step_iff, Snapshot.machine, snapshot, Set.mem_ofPred_eq,
      List.mem_map, Prod.exists, transitionSnapshot, TransitionSnapshot.mk.injEq]
    constructor
    · intro hgiven
      obtain ⟨u, ⟨t, ht⟩, rfl⟩ := hgiven
      exact ⟨t, _, ht, rfl, rfl, rfl⟩
    · intro hgiven
      obtain ⟨t, transition, ht, hsource, rfl, rfl⟩ := hgiven
      obtain rfl := hg.stateName_inj (hg.endpoints t transition ht).1 hs hsource
      exact ⟨_, ⟨t, ht⟩, rfl⟩

theorem Named.image_marked (hg : g.Named) (hactive : g.active = true) :
    g.stateName '' g.marked = g.snapshot.marked :=
  hg.image_idsWhere fun state => by simp [stateSnapshot, hactive]

theorem marked_subset (g : Graph) : g.marked ⊆ {s | s ∈ g.states.ids} :=
  fun _ hs => flaggedStates_subset hs

/-- After an operation of the simulation the snapshot is known by the names of the current
states. -/
theorem Consistent.snapshot_eq_runningAt (hg : g.Consistent)
    (h : k.unmarked = { g.unmarked with active := true }) :
    k.snapshot = g.snapshot.runningAt (g.stateName '' k.marked) := by
  have hids : k.states.ids = g.states.ids :=
    ids_eq_of_unmarked_eq (g := { g with active := true }) h
  classical
  refine hg.snapshot_eq_running h ?_
  intro s state hs
  have hs' := Registry.mem_ids_of_mem hs
  rw [decide_eq_true_eq, ← hg.stateName_of_mem hs]
  constructor
  · intro hflagged
    exact ⟨s, hflagged, rfl⟩
  · intro hgiven
    obtain ⟨t, ht, hname⟩ := hgiven
    rwa [← hg.stateName_inj (hids ▸ marked_subset k ht) hs' hname]

theorem Consistent.snapshot_reset (hg : g.Consistent) :
    g.reset.graph.snapshot = g.snapshot.reset := by
  have hstart : g.stateName '' g.machine.start = g.snapshot.machine.start :=
    hg.image_idsWhere fun _ => rfl
  rw [hg.snapshot_eq_runningAt (unmarked_reset g), hg.marked_reset, hstart, Snapshot.reset]

/-- While a simulation runs, the switch of the frame is on. -/
theorem unmarked_eq_of_active (hactive : g.active = true) :
    { g.unmarked with active := true } = g.unmarked := by
  rw [← hactive]
  rfl

theorem Consistent.image_εClosure_marked (hg : g.Consistent) (hactive : g.active = true) :
    g.stateName '' g.machine.εClosure g.marked =
      g.snapshot.machine.εClosure g.snapshot.marked := by
  rw [hg.inStep.image_εClosure (marked_subset g), hg.image_marked hactive]

theorem Consistent.snapshot_step (hg : g.Consistent) (event : Option String) :
    (g.step event).graph.snapshot = g.snapshot.step event := by
  cases hactive : g.active with
  | false =>
    have hshown : g.snapshot.active = false := hactive
    simp [Graph.step, Snapshot.step, hactive, hshown, Change.none]
  | true =>
    have hshown : g.snapshot.active = true := hactive
    have hframe := (unmarked_step g event).trans (unmarked_eq_of_active hactive).symm
    rw [hg.snapshot_eq_runningAt hframe, hg.marked_step hactive]
    cases event with
    | none => simp only [Snapshot.step, if_pos hshown, hg.image_εClosure_marked hactive]
    | some label =>
      have hmove := hg.inStep.image_moveSet (hg.inStep.εClosure_subset (marked_subset g)) label
      simp only [Snapshot.step, if_pos hshown, hmove, hg.image_εClosure_marked hactive]

/-- Whether one of some states is final can be told by their names. -/
theorem Consistent.exists_final_iff (hg : g.Consistent) {S : Set StateId}
    (hS : S ⊆ {s | s ∈ g.states.ids}) : (∃ s ∈ S, s ∈ g.machine.accept) ↔
      ∃ name ∈ g.stateName '' S, name ∈ g.snapshot.machine.accept := by
  have haccept : g.stateName '' g.machine.accept = g.snapshot.machine.accept :=
    hg.image_idsWhere fun _ => rfl
  rw [← haccept]
  constructor
  · intro hgiven
    obtain ⟨s, hs, hfinal⟩ := hgiven
    exact ⟨g.stateName s, ⟨s, hs, rfl⟩, s, hfinal, rfl⟩
  · intro hgiven
    obtain ⟨_, ⟨s, hs, rfl⟩, t, ht, hname⟩ := hgiven
    obtain ⟨state, hmem, _⟩ := Registry.mem_idsWhere_iff.1 ht
    obtain rfl := hg.stateName_inj (Registry.mem_ids_of_mem hmem) (hS hs) hname
    exact ⟨t, hs, ht⟩

/-- The states that epsilon transitions reach are told by their names whether one is final. -/
theorem Consistent.exists_accept_iff (hg : g.Consistent) (hactive : g.active = true) :
    (∃ s ∈ g.machine.εClosure g.marked, s ∈ g.machine.accept) ↔
      ∃ name ∈ g.snapshot.machine.εClosure g.snapshot.marked,
        name ∈ g.snapshot.machine.accept := by
  rw [hg.exists_final_iff (hg.inStep.εClosure_subset (marked_subset g)),
    hg.image_εClosure_marked hactive]

/-- The verdict and the snapshot afterwards are those of the snapshot. -/
theorem Consistent.recognise_eq (hg : g.Consistent) :
    (g.recognise.1, g.recognise.2.graph.snapshot) = g.snapshot.recognise := by
  classical
  cases hactive : g.active with
  | false =>
    have hshown : g.snapshot.active = false := hactive
    simp [Graph.recognise, Snapshot.recognise, hactive, hshown, Change.none]
  | true =>
    have hshown : g.snapshot.active = true := hactive
    have hframe := (unmarked_close g).trans (unmarked_eq_of_active hactive).symm
    have hclosed := hg.of_unmarked_eq (unmarked_close g) hactive
    have hverdict := hclosed.hasCurrentFinal_iff
    rw [hg.marked_close hactive, machine_eq_of_unmarked_eq (unmarked_close g),
      hg.exists_accept_iff hactive] at hverdict
    rw [Graph.recognise, if_pos hactive, Snapshot.recognise, if_pos hshown]
    refine Prod.ext ?_ ?_
    · exact Bool.eq_iff_iff.2 (hverdict.trans decide_eq_true_iff.symm)
    · exact (hg.snapshot_eq_runningAt hframe).trans
        (by rw [hg.marked_close hactive, hg.image_εClosure_marked hactive])

end Graph

end NfaWorkbench
