import NfaWorkbench.Proofs.Outcome
import NfaWorkbench.Proofs.Snapshot.Restore
set_option autoImplicit false

/-!
# What a graph may become

A graph keeps its number for good, and its indices only grow.  A state or transition that was issued
and is no longer there does not come back, and those that stay keep their name, their ends and their
label (`Becomes`).  This holds of every operation, and of reading a document and of restoring a
snapshot, which start from the empty graph with the number that the new graph is to have.
-/

namespace NfaWorkbench

namespace Graph

open Automaton (Does Operation Answer)

variable {g h k : Graph}

/-- The graph `g` may become `k` in the course of time. -/
structure Becomes (g k : Graph) : Prop where
  owner_eq : k.owner = g.owner
  nextState_le : g.nextState ≤ k.nextState
  nextTransition_le : g.nextTransition ≤ k.nextTransition
  /-- A state of `k` whose index was taken is an old one, and has its old name. -/
  states : ∀ s w, (s, w) ∈ k.states → s.index < g.nextState →
    ∃ v, (s, v) ∈ g.states ∧ w.name = v.name
  /-- A transition of `k` whose index was taken is an old one, and is what it was. -/
  transitions : ∀ t e, (t, e) ∈ k.transitions → t.index < g.nextTransition → (t, e) ∈ g.transitions

theorem Becomes.refl (g : Graph) : g.Becomes g where
  owner_eq := rfl
  nextState_le := Nat.le_refl _
  nextTransition_le := Nat.le_refl _
  states _ w hs _ := ⟨w, hs, rfl⟩
  transitions _ _ ht _ := ht

theorem Becomes.trans (hgh : g.Becomes h) (hhk : h.Becomes k) : g.Becomes k where
  owner_eq := hhk.owner_eq.trans hgh.owner_eq
  nextState_le := Nat.le_trans hgh.nextState_le hhk.nextState_le
  nextTransition_le := Nat.le_trans hgh.nextTransition_le hhk.nextTransition_le
  states s w hs hindex := by
    obtain ⟨v, hv, hname⟩ := hhk.states s w hs (Nat.lt_of_lt_of_le hindex hgh.nextState_le)
    obtain ⟨u, hu, hold⟩ := hgh.states s v hv hindex
    exact ⟨u, hu, hname.trans hold⟩
  transitions t e ht hindex := by
    have hmid := hhk.transitions t e ht (Nat.lt_of_lt_of_le hindex hgh.nextTransition_le)
    exact hgh.transitions t e hmid hindex

/-- Names and transitions stay where no state or transition is new. -/
theorem becomes_of_subset (howner : k.owner = g.owner) (hstate : k.nextState = g.nextState)
    (htransition : k.nextTransition = g.nextTransition)
    (hstates : ∀ s w, (s, w) ∈ k.states → ∃ v, (s, v) ∈ g.states ∧ w.name = v.name)
    (htransitions : k.transitions ⊆ g.transitions) : g.Becomes k where
  owner_eq := howner
  nextState_le := Nat.le_of_eq hstate.symm
  nextTransition_le := Nat.le_of_eq htransition.symm
  states s w hs _ := hstates s w hs
  transitions _ _ ht _ := htransitions ht

theorem becomes_of_unmarked_eq (hunmarked : k.unmarked = g.unmarked) : g.Becomes k := by
  refine becomes_of_subset (congrArg Graph.owner hunmarked :) (congrArg Graph.nextState hunmarked :)
    (congrArg Graph.nextTransition hunmarked :) (fun s w hs => ?_) ?_
  · have hnames := mapValues_eq_of_unmarked_eq hunmarked (f := (·.name)) fun _ => rfl
    obtain ⟨v, hv, hname⟩ := Registry.exists_mem_of_mapValues_eq hnames hs
    exact ⟨v, hv, hname.symm⟩
  · rw [transitions_eq_of_unmarked_eq hunmarked]
    exact List.Subset.refl _

theorem becomes_activated (g : Graph) : g.Becomes { g with active := true } :=
  becomes_of_subset rfl rfl rfl (fun _ w hs => ⟨w, hs, rfl⟩) (List.Subset.refl _)

theorem becomes_addState (g : Graph) (name : String) (position : Position) :
    g.Becomes (g.addState name position) where
  owner_eq := rfl
  nextState_le := Nat.le_succ _
  nextTransition_le := Nat.le_refl _
  states s w hs hindex := by
    obtain hold | hnew := Registry.mem_add_iff.1 hs
    · exact ⟨w, hold, rfl⟩
    · obtain rfl := (Prod.mk.inj hnew).1
      exact absurd hindex (Nat.lt_irrefl _)
  transitions _ _ ht _ := ht

theorem becomes_addTransition (g : Graph) (source target : StateId) (label : Option String) :
    g.Becomes (g.addTransition source target label) where
  owner_eq := rfl
  nextState_le := Nat.le_refl _
  nextTransition_le := Nat.le_succ _
  states s w hs _ := by
    obtain ⟨v, hv, rfl⟩ := mem_addTransition_states hs
    exact ⟨v, hv, rfl⟩
  transitions t e ht hindex := by
    obtain hold | hnew := Registry.mem_add_iff.1 ht
    · exact hold
    · obtain rfl := (Prod.mk.inj hnew).1
      exact absurd hindex (Nat.lt_irrefl _)

theorem becomes_modifyState (g : Graph) (s : StateId) {f : State → State}
    (hf : ∀ v, (f v).name = v.name) : g.Becomes (g.modifyState s f) := by
  refine becomes_of_subset rfl rfl rfl (fun t w ht => ?_) (List.Subset.refl _)
  obtain ⟨v, hv, rfl⟩ := mem_modifyState_iff.1 ht
  refine ⟨v, hv, ?_⟩
  split
  · exact hf v
  · rfl

theorem becomes_keepTransitions (g : Graph) (keep : TransitionId → Bool) :
    g.Becomes (g.keepTransitions keep) := by
  refine becomes_of_subset rfl rfl rfl (fun s w hs => ?_) (List.filter_sublist.subset)
  obtain ⟨v, hv, rfl⟩ := Registry.mem_mapValues_iff.1 hs
  exact ⟨v, hv, rfl⟩

theorem becomes_dropState (g : Graph) (s : StateId) (name : String) :
    g.Becomes (g.dropState s name).graph :=
  becomes_of_subset rfl rfl rfl (fun _ w ht => ⟨w, (Registry.mem_erase_iff.1 ht).1, rfl⟩)
    (List.Subset.refl _)

theorem Consistent.becomes_removeState (hg : g.Consistent) (s : StateId) :
    g.Becomes (g.removeState s).graph := by
  by_cases hs : s ∈ g.states.ids
  · obtain ⟨state, hstate⟩ := Registry.mem_ids_iff.1 hs
    rw [hg.removeState_graph hstate]
    exact (becomes_keepTransitions g _).trans (becomes_dropState _ s state.name)
  · rw [removeState_of_not_mem hs]
    exact .refl g

/-- Every operation makes of a graph what it may become. -/
theorem Consistent.becomes_of_does (hg : g.Consistent) {operation : Operation} {answer : Answer}
    {c : Change} (hdoes : Does g operation answer c) : g.Becomes c.graph := by
  cases hdoes with
  | createState hname hfree => exact becomes_addState g _ _
  | removeState s => exact hg.becomes_removeState s
  | changeState hchange hs =>
    exact becomes_modifyState g _ (Operation.showsIn_attribute hchange).name
  | createTransition hsource htarget hlabel hedge => exact becomes_addTransition g _ _ _
  | removeTransition t =>
    rw [hg.removeTransition_graph t]
    exact becomes_keepTransitions g _
  | reset => exact (becomes_activated g).trans (becomes_of_unmarked_eq (unmarked_reset g))
  | step event => exact becomes_of_unmarked_eq (unmarked_step g event)
  | recognise => exact becomes_of_unmarked_eq (unmarked_recognise g)

/-! ## Documents -/

theorem becomes_of_changeState {s : StateId} {aspect : StateAspect} {f : State → State} {c : Change}
    (hf : IsAttributeChange f) (hc : g.changeState s aspect f = .ok c) : g.Becomes c.graph := by
  obtain ⟨_, rfl⟩ := changeState_eq_ok_iff.1 hc
  exact becomes_modifyState g s hf.name

theorem becomes_of_createTransition {source target : StateId} {label : Option String}
    {r : TransitionId × Change} (hr : g.createTransition source target label = .ok r) :
    g.Becomes r.2.graph := by
  obtain ⟨_, _, _, _, rfl⟩ := createTransition_eq_ok_iff.1 hr
  exact becomes_addTransition g source target label

theorem becomes_of_applyRecord {r : Record} (hk : g.applyRecord r = .ok k) : g.Becomes k := by
  cases r with
  | state name position =>
    obtain ⟨created, hcreate, rfl⟩ := accepted_map_eq_ok_iff.1 hk
    obtain ⟨_, _, rfl⟩ := createState_eq_ok_iff.1 hcreate
    exact becomes_addState g name position
  | transition source label target =>
    obtain ⟨_, _, _, _, _, hcreate, rfl⟩ := applyTransition_eq_ok_iff.1 hk
    exact becomes_of_createTransition hcreate
  | initial name =>
    obtain ⟨_, _, _, hc, rfl⟩ := applyChange_eq_ok_iff.1 hk
    exact becomes_of_changeState (isAttributeChange_initial true) hc
  | final name =>
    obtain ⟨_, _, _, hc, rfl⟩ := applyChange_eq_ok_iff.1 hk
    exact becomes_of_changeState (isAttributeChange_final true) hc

theorem becomes_of_readLines {number : Nat} {lines : List (List UInt8)}
    (hk : g.readLines number lines = .ok k) : g.Becomes k := by
  induction lines generalizing g number with
  | nil =>
    obtain rfl := Except.ok.inj hk
    exact .refl g
  | cons line rest ih =>
    obtain ⟨next, hline, hrest⟩ := readLines_cons_eq_ok_iff.1 hk
    obtain ⟨text, _, ⟨_, rfl⟩ | ⟨r, _, hr⟩⟩ := readLine_eq_ok_iff.1 hline
    · exact ih hrest
    · exact (becomes_of_applyRecord hr).trans (ih hrest)

theorem becomes_of_read {owner : Nat} {s : Source} (hk : read owner s = .ok k) :
    (empty owner).Becomes k :=
  becomes_of_readLines (read_eq_ok_iff.1 hk).2

/-! ## Snapshots -/

theorem becomes_of_restoreState {v : StateSnapshot} (hk : g.restoreState v = .ok k) :
    g.Becomes k := by
  rw [restoreState_eq] at hk
  split at hk
  · simp at hk
  · obtain rfl := Except.ok.inj hk
    have hinitial := becomes_modifyState (g.addState v.name ⟨v.x, v.y⟩) g.nextStateId
      (f := fun state => { state with initial := v.initial }) fun _ => rfl
    exact ((becomes_addState g _ _).trans hinitial).trans (becomes_modifyState _ _ fun _ => rfl)

theorem becomes_of_restoreTransition {t : TransitionSnapshot} (hk : g.restoreTransition t = .ok k) :
    g.Becomes k := by
  obtain ⟨_, _, _, _, _, hcreate, rfl⟩ := restoreTransition_eq_ok_iff.1 hk
  exact becomes_of_createTransition hcreate

theorem becomes_of_foldlM {ε α : Type} {f : Graph → α → Except ε Graph}
    (hf : ∀ {g a k}, f g a = .ok k → g.Becomes k) {l : List α} (hk : l.foldlM f g = .ok k) :
    g.Becomes k := by
  induction l using List.reverseRecOn generalizing k with
  | nil =>
    obtain rfl := Except.ok.inj hk
    exact .refl g
  | append_singleton l a ih =>
    obtain ⟨m, hm, hlast⟩ := foldlM_concat_eq_ok_iff.1 hk
    exact (ih hm).trans (hf hlast)

theorem becomes_restoreStatus (g : Graph) (s : Snapshot) : g.Becomes (g.restoreStatus s) := by
  rw [restoreStatus_eq]
  split
  · exact (becomes_activated g).trans
      (becomes_of_unmarked_eq (Change.each_eq (P := unmarked) unmarked_flagName _ _))
  · exact .refl g

theorem becomes_of_ofSnapshot {owner : Nat} {s : Snapshot} (hk : ofSnapshot owner s = .ok k) :
    (empty owner).Becomes k := by
  obtain ⟨m, n, hm, hn, rfl⟩ := ofSnapshot_eq_ok_iff.1 hk
  rw [restoreStates_eq_foldlM] at hm
  rw [restoreTransitions_eq_foldlM] at hn
  exact ((becomes_of_foldlM becomes_of_restoreState hm).trans
    (becomes_of_foldlM becomes_of_restoreTransition hn)).trans (becomes_restoreStatus n s)

end Graph

theorem Automaton.Reachable.becomes_perform {a : Automaton} (ha : a.Reachable)
    (operation : Automaton.Operation) :
    a.graph.Becomes (a.perform operation).automaton.graph := by
  have hperforms := Automaton.performs a operation
  generalize a.perform operation = o at hperforms
  cases hperforms with
  | changed hdoes => exact ha.consistent.becomes_of_does hdoes
  | _ => exact .refl a.graph

end NfaWorkbench
