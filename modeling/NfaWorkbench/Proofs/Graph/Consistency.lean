import NfaWorkbench.Graph.Edit
import NfaWorkbench.Proofs.Registry
set_option autoImplicit false

/-!
# Graph: consistency

What is true of every graph that the operations can make.  The invariant has four parts:

* `Named`: states have identifiers of the graph and distinct valid names, and the name index finds
  exactly them;
* `Wired`: transitions have identifiers of the graph, run between states of the graph, carry valid
  labels, and no two of them are equal;
* `Linked`: the transitions kept at a state are those that the registry lists for it, in its order;
* without a running simulation no state is flagged.

Each part speaks of a part of the graph only, and the `congr` lemmas say which: an operation that
leaves that part alone keeps the invariant about it.
-/

namespace NfaWorkbench.Graph

/-- The states and the name index belong together. -/
structure Named (g : Graph) : Prop where
  /-- States are listed in the order of their creation. -/
  states_ascending : g.states.ids.Pairwise fun s t => s.index < t.index
  state_issued : ∀ s ∈ g.states.ids, s.owner = g.owner ∧ s.index < g.nextState
  name_valid : ∀ s state, (s, state) ∈ g.states → IsName state.name
  findState_eq_some_iff : ∀ name s,
    g.findState name = some s ↔ ∃ state, (s, state) ∈ g.states ∧ state.name = name

/-- The transitions run between states, under valid labels, and each is there once. -/
structure Wired (g : Graph) : Prop where
  /-- Transitions are listed in the order of their creation. -/
  transitions_ascending : g.transitions.ids.Pairwise fun t u => t.index < u.index
  transition_issued : ∀ t ∈ g.transitions.ids, t.owner = g.owner ∧ t.index < g.nextTransition
  endpoints : ∀ t transition, (t, transition) ∈ g.transitions →
    transition.source ∈ g.states.ids ∧ transition.target ∈ g.states.ids
  label_valid : ∀ t transition label, (t, transition) ∈ g.transitions →
    transition.label = some label → IsLabel label
  edge_unique : ∀ t u transition, (t, transition) ∈ g.transitions →
    (u, transition) ∈ g.transitions → t = u

/-- Every state keeps exactly the transitions that leave it and those that enter it. -/
structure Linked (g : Graph) : Prop where
  outgoing_eq : ∀ s state, (s, state) ∈ g.states →
    state.outgoing = g.transitions.idsWhere (·.source = s)
  incoming_eq : ∀ s state, (s, state) ∈ g.states →
    state.incoming = g.transitions.idsWhere (·.target = s)

/-- The invariant of all graphs that the operations make. -/
structure Consistent (g : Graph) : Prop extends Named g, Wired g, Linked g where
  /-- No state is flagged while no simulation is running. -/
  idle : g.active = false → ∀ s state, (s, state) ∈ g.states → state.current = false

/-! ## What the parts of the invariant depend on -/

variable {g h : Graph}

theorem Named.congr (hg : g.Named) (howner : h.owner = g.owner) (hnext : h.nextState = g.nextState)
    (hnames : h.names = g.names)
    (hstates : h.states.mapValues (·.name) = g.states.mapValues (·.name)) : h.Named := by
  have hids := Registry.ids_eq_of_mapValues_eq hstates
  constructor
  · rw [hids]
    exact hg.states_ascending
  · rw [hids, howner, hnext]
    exact hg.state_issued
  · intro s state hs
    obtain ⟨old, hold, hname⟩ := Registry.exists_mem_of_mapValues_eq hstates hs
    exact hname ▸ hg.name_valid s old hold
  · intro name s
    rw [findState, hnames, ← findState, hg.findState_eq_some_iff, ← Registry.mem_mapValues_iff,
      ← hstates, Registry.mem_mapValues_iff]

theorem Wired.congr (hg : g.Wired) (howner : h.owner = g.owner)
    (hnext : h.nextTransition = g.nextTransition) (htransitions : h.transitions = g.transitions)
    (hids : h.states.ids = g.states.ids) : h.Wired := by
  constructor
  · rw [htransitions]
    exact hg.transitions_ascending
  · rw [htransitions, howner, hnext]
    exact hg.transition_issued
  · rw [htransitions, hids]
    exact hg.endpoints
  · rw [htransitions]
    exact hg.label_valid
  · rw [htransitions]
    exact hg.edge_unique

theorem Linked.congr (hg : g.Linked) (htransitions : h.transitions = g.transitions)
    (hstates : h.states.mapValues (fun v => (v.outgoing, v.incoming)) =
      g.states.mapValues fun v => (v.outgoing, v.incoming)) : h.Linked := by
  constructor
  · intro s state hs
    obtain ⟨old, hold, heq⟩ := Registry.exists_mem_of_mapValues_eq hstates hs
    rw [htransitions, ← hg.outgoing_eq s old hold, (Prod.mk.inj heq).1]
  · intro s state hs
    obtain ⟨old, hold, heq⟩ := Registry.exists_mem_of_mapValues_eq hstates hs
    rw [htransitions, ← hg.incoming_eq s old hold, (Prod.mk.inj heq).2]

/-! ## Looking things up in a consistent graph -/

theorem hasState_iff (s : StateId) : g.hasState s = true ↔ s ∈ g.states.ids :=
  Registry.contains_iff_mem_ids g.states s

theorem mem_modifyState_iff {s t : StateId} {f : State → State} {state : State} :
    (t, state) ∈ (g.modifyState s f).states ↔
      ∃ old, (t, old) ∈ g.states ∧ state = if t = s then f old else old :=
  Registry.mem_modify_iff

theorem Named.stateIds_nodup (hg : g.Named) : g.states.ids.Nodup :=
  hg.states_ascending.imp fun hlt heq => by simp [heq] at hlt

theorem Named.state?_eq_some_iff (hg : g.Named) {s : StateId} {state : State} :
    g.state? s = some state ↔ (s, state) ∈ g.states :=
  Registry.get?_eq_some_iff hg.stateIds_nodup

theorem Wired.transitionIds_nodup (hg : g.Wired) : g.transitions.ids.Nodup :=
  hg.transitions_ascending.imp fun hlt heq => by simp [heq] at hlt

theorem Wired.transition?_eq_some_iff (hg : g.Wired) {t : TransitionId} {transition : Transition} :
    g.transition? t = some transition ↔ (t, transition) ∈ g.transitions :=
  Registry.get?_eq_some_iff hg.transitionIds_nodup

namespace Named

theorem state_unique (hg : g.Named) {s : StateId} {a b : State} (ha : (s, a) ∈ g.states)
    (hb : (s, b) ∈ g.states) : a = b :=
  Registry.mem_unique hg.stateIds_nodup ha hb

theorem findState_of_mem (hg : g.Named) {s : StateId} {state : State} (hs : (s, state) ∈ g.states) :
    g.findState state.name = some s :=
  (hg.findState_eq_some_iff _ _).2 ⟨state, hs, rfl⟩

/-- A name belongs to one state only. -/
theorem id_unique (hg : g.Named) {s t : StateId} {a b : State} (ha : (s, a) ∈ g.states)
    (hb : (t, b) ∈ g.states) (hname : a.name = b.name) : s = t := by
  have hs := hg.findState_of_mem ha
  rw [hname, hg.findState_of_mem hb] at hs
  exact (Option.some.inj hs).symm

/-- Two states are the same exactly if their names are. -/
theorem name_eq_iff (hg : g.Named) {s t : StateId} {a b : State} (ha : (s, a) ∈ g.states)
    (hb : (t, b) ∈ g.states) : a.name = b.name ↔ s = t := by
  constructor
  · exact hg.id_unique ha hb
  · rintro rfl
    rw [hg.state_unique ha hb]

theorem stateName_of_mem (hg : g.Named) {s : StateId} {state : State} (hs : (s, state) ∈ g.states) :
    g.stateName s = state.name := by
  rw [stateName, hg.state?_eq_some_iff.2 hs]

theorem stateName_eq_iff (hg : g.Named) {s t : StateId} {state : State}
    (hs : (s, state) ∈ g.states) (ht : t ∈ g.states.ids) :
    g.stateName t = state.name ↔ t = s := by
  obtain ⟨other, hother⟩ := Registry.mem_ids_iff.1 ht
  rw [hg.stateName_of_mem hother, hg.name_eq_iff hother hs]

theorem stateName_inj (hg : g.Named) {s t : StateId} (hs : s ∈ g.states.ids) (ht : t ∈ g.states.ids)
    (hname : g.stateName s = g.stateName t) : s = t := by
  obtain ⟨state, hstate⟩ := Registry.mem_ids_iff.1 ht
  rw [hg.stateName_of_mem hstate] at hname
  exact (hg.stateName_eq_iff hstate hs).1 hname

/-- The name index knows a name exactly if some state has it. -/
theorem names_contains_iff (hg : g.Named) (name : String) :
    g.names.contains name = true ↔ ∃ s state, (s, state) ∈ g.states ∧ state.name = name := by
  rw [Std.ExtTreeMap.contains_eq_isSome_getElem?, ← findState, Option.isSome_iff_exists]
  exact exists_congr fun s => hg.findState_eq_some_iff name s

end Named

namespace Consistent

/-- No two states have the same name. -/
theorem names_nodup (hg : g.Consistent) : (g.states.map (·.2.name)).Nodup := by
  have hids : g.states.Pairwise fun d e => d.1 ≠ e.1 := List.pairwise_map.1 hg.stateIds_nodup
  refine List.pairwise_map.2 (hids.imp_of_mem ?_)
  intro d e hd he hne hname
  exact hne (hg.id_unique hd he hname)

/-- The transitions found between two states are all those that run from the one to the other,
oldest first. -/
theorem findTransitions_eq (hg : g.Consistent) {s t : StateId} (hs : s ∈ g.states.ids)
    (ht : t ∈ g.states.ids) : g.findTransitions s t =
      .ok (g.transitions.idsWhere fun e => e.source = s ∧ e.target = t) := by
  obtain ⟨state, hstate⟩ := Registry.mem_ids_iff.1 hs
  rw [findTransitions, hg.state?_eq_some_iff.2 hstate]
  simp only [(hasState_iff t).2 ht, if_true, Except.ok.injEq]
  rw [hg.outgoing_eq s state hstate, Registry.idsWhere, Registry.idsWhere, List.filter_map,
    List.filter_filter]
  congr 1
  apply List.filter_congr
  rintro ⟨u, transition⟩ hu
  simp [hg.transition?_eq_some_iff.2 hu, Bool.and_comm]

end Consistent

end NfaWorkbench.Graph
