import NfaWorkbench.Proofs.Graph.Creation
import NfaWorkbench.Snapshot.Basic
set_option autoImplicit false

/-!
# Snapshots: what an edit shows

What creating and changing does to the snapshot of a consistent graph, and which of the questions
that an edit asks its snapshot answers.  A snapshot shows neither identifiers nor what states keep
of their transitions, so here an edit appends an entry to one of two lists, or changes the one entry
with a name.
-/

namespace NfaWorkbench

namespace Snapshot

/-- The names of the states. -/
def names (s : Snapshot) : List String := s.states.map (·.name)

/-- The snapshot with one more state, which carries no flag. -/
def addState (s : Snapshot) (name : String) (position : Position) : Snapshot :=
  { s with states := s.states ++ [⟨name, position.x, position.y, false, false, false⟩] }

/-- The snapshot with the state of a name changed. -/
def modifyState (s : Snapshot) (name : String) (f : StateSnapshot → StateSnapshot) : Snapshot :=
  { s with states := s.states.map fun v => if v.name = name then f v else v }

/-- The snapshot with one more transition. -/
def addTransition (s : Snapshot) (t : TransitionSnapshot) : Snapshot :=
  { s with transitions := s.transitions ++ [t] }

end Snapshot

namespace Graph

variable {g k : Graph}

/-! ## What the snapshot answers -/

theorem mem_snapshot_names_iff {name : String} :
    name ∈ g.snapshot.names ↔ ∃ s state, (s, state) ∈ g.states ∧ state.name = name := by
  simp [Snapshot.names, snapshot, stateSnapshot]

theorem Named.names_contains_eq_false_iff (hg : g.Named) {name : String} :
    g.names.contains name = false ↔ name ∉ g.snapshot.names := by
  rw [← Bool.not_eq_true, hg.names_contains_iff, mem_snapshot_names_iff]

/-- The names of two states and a label tell whether there is the transition. -/
theorem Consistent.exists_edge_iff (hg : g.Consistent) {s t : StateId} {a b : State}
    (hs : (s, a) ∈ g.states) (ht : (t, b) ∈ g.states) {label : Option String} :
    (∃ u, (u, ⟨s, t, label⟩) ∈ g.transitions) ↔
      ⟨a.name, label, b.name⟩ ∈ g.snapshot.transitions := by
  simp only [snapshot, transitionSnapshot, List.mem_map, Prod.exists, TransitionSnapshot.mk.injEq]
  constructor
  · intro hgiven
    obtain ⟨u, hu⟩ := hgiven
    exact ⟨u, _, hu, hg.stateName_of_mem hs, rfl, hg.stateName_of_mem ht⟩
  · intro hgiven
    obtain ⟨u, transition, hu, hsource, hlabel, htarget⟩ := hgiven
    obtain ⟨hsourceMem, htargetMem⟩ := hg.endpoints u transition hu
    obtain rfl := (hg.stateName_eq_iff hs hsourceMem).1 hsource
    obtain rfl := (hg.stateName_eq_iff ht htargetMem).1 htarget
    exact ⟨u, hlabel ▸ hu⟩

theorem Consistent.hasEdge_eq_false_iff (hg : g.Consistent) {s t : StateId} {a b : State}
    (hs : (s, a) ∈ g.states) (ht : (t, b) ∈ g.states) {label : Option String} :
    g.hasEdge s t label = false ↔ ⟨a.name, label, b.name⟩ ∉ g.snapshot.transitions := by
  rw [← Bool.not_eq_true, hasEdge_iff, hg.exists_edge_iff hs ht]

/-! ## What an edit does to the snapshot -/

/-- The names of the states depend on the names alone. -/
theorem stateName_eq_of_mapValues_eq
    (h : k.states.mapValues (·.name) = g.states.mapValues (·.name)) (s : StateId) :
    k.stateName s = g.stateName s := by
  have hview : ∀ g : Graph,
      g.stateName s = ((g.states.mapValues (·.name)).get? s).getD "?" := by
    intro g
    rw [Registry.get?_mapValues, stateName, state?]
    cases g.states.get? s <;> rfl
  rw [hview, hview, h]

theorem Named.stateName_addState (hg : g.Named) {s : StateId} (hs : s ∈ g.states.ids)
    (name : String) (position : Position) :
    (g.addState name position).stateName s = g.stateName s := by
  obtain ⟨state, hstate⟩ := Registry.mem_ids_iff.1 hs
  have hfound := hg.state?_eq_some_iff.2 hstate
  rw [state?] at hfound
  simp only [stateName, state?, Graph.addState, Registry.get?_add, hfound]

theorem Consistent.snapshot_addState (hg : g.Consistent) (name : String) (position : Position) :
    (g.addState name position).snapshot = g.snapshot.addState name position := by
  refine Snapshot.ext rfl ?_ ?_
  · simp [snapshot, Graph.addState, Registry.add, stateSnapshot, Snapshot.addState]
  · apply List.map_congr_left
    rintro ⟨t, transition⟩ ht
    obtain ⟨hsource, htarget⟩ := hg.endpoints t transition ht
    simp only [transitionSnapshot, hg.stateName_addState hsource, hg.stateName_addState htarget]

/-- A change of one state is a change of the one entry with its name. -/
theorem Consistent.snapshot_modifyState (hg : g.Consistent) {s : StateId} {state : State}
    (hs : (s, state) ∈ g.states) {f : State → State} {f' : StateSnapshot → StateSnapshot}
    (hf : IsAttributeChange f)
    (hf' : ∀ v, g.stateSnapshot (f v) = f' (g.stateSnapshot v)) :
    (g.modifyState s f).snapshot = g.snapshot.modifyState state.name f' := by
  have hnames : (g.modifyState s f).states.mapValues (·.name) = g.states.mapValues (·.name) :=
    Registry.mapValues_modify _ _ hf.name
  refine Snapshot.ext rfl ?_ ?_
  · simp only [snapshot, Graph.modifyState, Registry.modify, Snapshot.modifyState, List.map_map]
    apply List.map_congr_left
    rintro ⟨t, other⟩ ht
    simp only [Function.comp_apply, stateSnapshot, ← hg.name_eq_iff ht hs]
    split
    · exact hf' other
    · rfl
  · apply List.map_congr_left
    rintro ⟨t, transition⟩ ht
    simp only [transitionSnapshot, stateName_eq_of_mapValues_eq hnames]

theorem snapshot_addTransition (source target : StateId) (label : Option String) :
    (g.addTransition source target label).snapshot =
      g.snapshot.addTransition ⟨g.stateName source, label, g.stateName target⟩ := by
  have hview : ∀ {β : Type} (f : State → β), (∀ v l, f { v with outgoing := l } = f v) →
      (∀ v l, f { v with incoming := l } = f v) →
      (g.addTransition source target label).states.mapValues f = g.states.mapValues f :=
    fun f hout hin => mapValues_addTransition_states source target label hout hin
  have hnames := stateName_eq_of_mapValues_eq (hview (·.name) (fun _ _ => rfl) fun _ _ => rfl)
  refine Snapshot.ext rfl ?_ ?_
  · have hsnapshots := hview g.stateSnapshot (fun _ _ => rfl) fun _ _ => rfl
    have hvalues := congrArg (List.map Prod.snd) hsnapshots
    simp only [Registry.mapValues, List.map_map] at hvalues
    exact hvalues
  · simp only [snapshot, transitionSnapshot, hnames, Snapshot.addTransition]
    simp [addTransition, Registry.add]

end Graph

end NfaWorkbench
