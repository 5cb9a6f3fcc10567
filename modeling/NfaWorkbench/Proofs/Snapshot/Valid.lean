import Mathlib.Data.List.Nodup
import NfaWorkbench.Document.Writer
import NfaWorkbench.Proofs.Snapshot.Edit
set_option autoImplicit false

/-!
# Snapshots: rules and records

The rules that the snapshot of a consistent graph keeps, without any mention of identifiers, and the
canonical document as a function of the snapshot alone.
-/

namespace NfaWorkbench

namespace Snapshot

/-- The rules of a snapshot: valid names, each once, and transitions between listed states under
valid labels, each once. -/
structure Valid (s : Snapshot) : Prop where
  name_valid : ∀ v ∈ s.states, IsName v.name
  names_nodup : s.names.Nodup
  endpoints : ∀ t ∈ s.transitions, t.source ∈ s.names ∧ t.target ∈ s.names
  label_valid : ∀ t ∈ s.transitions, ∀ word, t.label = some word → IsLabel word
  transitions_nodup : s.transitions.Nodup

/-- The snapshot without the status of the simulation. -/
def atRest (s : Snapshot) : Snapshot :=
  { s with
    active := false
    states := s.states.map fun v => { v with current := false } }

/-- The record of a state. -/
def stateRecord (v : StateSnapshot) : Record := .state v.name ⟨v.x, v.y⟩

/-- The record of a transition. -/
def transitionRecord (t : TransitionSnapshot) : Record := .transition t.source t.label t.target

/-- The records of the canonical document. -/
def records (s : Snapshot) : List Record :=
  s.states.map stateRecord ++ s.transitions.map transitionRecord
    ++ (s.states.filter (·.initial)).map (fun v => .initial v.name)
    ++ (s.states.filter (·.final)).map (fun v => .final v.name)

/-- The canonical document does not show the status of the simulation. -/
@[simp]
theorem records_atRest (s : Snapshot) : s.atRest.records = s.records := by
  simp [records, atRest, stateRecord, List.filter_map, Function.comp_def]

/-- A name belongs to one state. -/
theorem Valid.state_unique {s : Snapshot} (h : s.Valid) {v w : StateSnapshot} (hv : v ∈ s.states)
    (hw : w ∈ s.states) (hname : v.name = w.name) : v = w :=
  List.inj_on_of_nodup_map h.names_nodup hv hw hname

end Snapshot

namespace Graph

variable {g : Graph}

/-! ## The snapshot of a consistent graph -/

/-- Transitions are told apart by the names of their states and their label. -/
theorem Consistent.transitionSnapshot_inj (hg : g.Consistent) {t u : TransitionId}
    {a b : Transition} (ha : (t, a) ∈ g.transitions) (hb : (u, b) ∈ g.transitions)
    (heq : g.transitionSnapshot a = g.transitionSnapshot b) : a = b := by
  obtain ⟨hsource, hlabel, htarget⟩ := TransitionSnapshot.mk.inj heq
  have hsources := hg.stateName_inj (hg.endpoints t a ha).1 (hg.endpoints u b hb).1 hsource
  have htargets := hg.stateName_inj (hg.endpoints t a ha).2 (hg.endpoints u b hb).2 htarget
  cases a
  cases b
  simp_all

theorem Consistent.snapshot_valid (hg : g.Consistent) : g.snapshot.Valid where
  name_valid := by
    simp only [snapshot, List.mem_map, forall_exists_index, and_imp, forall_apply_eq_imp_iff₂]
    exact fun e he => hg.name_valid e.1 e.2 he
  names_nodup := by
    simpa [Snapshot.names, snapshot, stateSnapshot, Function.comp_def] using hg.names_nodup
  endpoints := by
    have hname : ∀ {s}, s ∈ g.states.ids → g.stateName s ∈ g.snapshot.names := by
      intro s hs
      obtain ⟨state, hstate⟩ := Registry.mem_ids_iff.1 hs
      exact mem_snapshot_names_iff.2 ⟨s, state, hstate, (hg.stateName_of_mem hstate).symm⟩
    intro t ht
    obtain ⟨e, he, rfl⟩ := List.mem_map.1 ht
    obtain ⟨hsource, htarget⟩ := hg.endpoints e.1 e.2 he
    exact ⟨hname hsource, hname htarget⟩
  label_valid := by
    intro t ht word hword
    obtain ⟨e, he, rfl⟩ := List.mem_map.1 ht
    exact hg.label_valid e.1 e.2 word he hword
  transitions_nodup := by
    have hids : g.transitions.Pairwise fun d e => d.1 ≠ e.1 :=
      List.pairwise_map.1 hg.transitionIds_nodup
    refine List.pairwise_map.2 (hids.imp_of_mem ?_)
    intro d e hd he hne heq
    have hsame := hg.transitionSnapshot_inj hd he heq
    exact hne (hg.edge_unique d.1 e.1 d.2 hd (hsame ▸ he))

/-! ## The canonical document -/

/-- The document of a graph depends on its snapshot alone. -/
theorem Consistent.records_eq (hg : g.Consistent) : g.records = g.snapshot.records := by
  have hflags : ∀ (p : State → Bool) (q : StateSnapshot → Bool) (f : String → Record),
      (∀ v, q (g.stateSnapshot v) = p v) →
        (g.states.idsWhere p).map (fun s => f (g.stateName s)) =
          (g.snapshot.states.filter q).map fun v => f v.name := by
    intro p q f hpq
    simp only [snapshot, Registry.idsWhere, List.map_map, List.filter_map, Function.comp_def, hpq]
    apply List.map_congr_left
    rintro ⟨s, state⟩ hs
    have hmem : (s, state) ∈ g.states := (List.mem_filter.1 hs).1
    rw [hg.stateName_of_mem hmem]
    rfl
  have hinitial := hflags (·.initial) (·.initial) .initial fun _ => rfl
  have hfinal := hflags (·.final) (·.final) .final fun _ => rfl
  rw [records, Snapshot.records, initialRecords, finalRecords, initialStates, finalStates, hinitial,
    hfinal]
  simp [stateRecords, transitionRecords, snapshot, Snapshot.stateRecord, Snapshot.transitionRecord,
    stateSnapshot, transitionSnapshot, Function.comp_def]

theorem Consistent.serialize_eq (hg : g.Consistent) : g.serialize =
    String.join (g.snapshot.records.map fun r => r.render ++ "\n") := by
  rw [serialize, recordLines, hg.records_eq]

end Graph

end NfaWorkbench
