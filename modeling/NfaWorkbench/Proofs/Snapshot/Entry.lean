import NfaWorkbench.Proofs.Graph.Refusal
import NfaWorkbench.Proofs.Reachable
import NfaWorkbench.Proofs.Snapshot.Valid
set_option autoImplicit false

/-!
# Snapshots: entries

What the rules say about one more entry of a snapshot, and what restoring it does to a consistent
graph: the graph takes it exactly if its own snapshot with that entry keeps the rules, shows it at
the end of its list, and otherwise gives the error of the rule that is broken.
-/

namespace NfaWorkbench

/-! ## The first violation -/

namespace Snapshot

/-- What is wrong with a state after states with the given names. -/
inductive StateFault (names : List String) (v : StateSnapshot) : SnapshotError → Prop
  | invalidName {fault : NameFault} (hfault : FaultyName v.name fault) :
      StateFault names v (.graph (.invalidName v.name fault))
  | duplicateName (hname : IsName v.name) (htaken : v.name ∈ names) :
      StateFault names v (.graph (.duplicateName v.name))

/-- What is wrong with a transition between states with the given names, after other transitions. -/
inductive TransitionFault (names : List String) (earlier : List TransitionSnapshot)
    (t : TransitionSnapshot) : SnapshotError → Prop
  | unknownSource (hsource : t.source ∉ names) :
      TransitionFault names earlier t (.unknownState t.source)
  | unknownTarget (hsource : t.source ∈ names) (htarget : t.target ∉ names) :
      TransitionFault names earlier t (.unknownState t.target)
  | invalidLabel {word : String} {fault : LabelFault} (hsource : t.source ∈ names)
      (htarget : t.target ∈ names) (hlabel : t.label = some word)
      (hfault : FaultyLabel word fault) :
      TransitionFault names earlier t (.graph (.invalidLabel word fault))
  | duplicate (hsource : t.source ∈ names) (htarget : t.target ∈ names)
      (hlabel : ∀ word, t.label = some word → IsLabel word) (hthere : t ∈ earlier) :
      TransitionFault names earlier t
        (.graph (.duplicateTransition t.source t.label t.target))

/-- A snapshot breaks a rule, and this is the first time: everything before keeps the rules. -/
inductive FirstFault (s : Snapshot) : SnapshotError → Prop
  | state {before after : List StateSnapshot} {v : StateSnapshot} {error : SnapshotError}
      (hstates : s.states = before ++ v :: after) (hbefore : Valid ⟨s.active, before, []⟩)
      (hfault : StateFault (before.map (·.name)) v error) : FirstFault s error
  | transition {before after : List TransitionSnapshot} {t : TransitionSnapshot}
      {error : SnapshotError} (htransitions : s.transitions = before ++ t :: after)
      (hbefore : Valid ⟨s.active, s.states, before⟩)
      (hfault : TransitionFault s.names before t error) : FirstFault s error

/-- The snapshot with those flags of current states only that count, the flags of a running
simulation. -/
def effective (s : Snapshot) : Snapshot :=
  { s with states := s.states.map fun v => { v with current := v.current && s.active } }

variable {active : Bool} {states : List StateSnapshot} {transitions : List TransitionSnapshot}

/-- The states alone keep the rules of the states. -/
theorem Valid.withoutTransitions {s : Snapshot} (h : s.Valid) : Valid ⟨s.active, s.states, []⟩ :=
  ⟨h.name_valid, h.names_nodup, by simp, by simp, .nil⟩

theorem valid_concat_state_iff {v : StateSnapshot} : Valid ⟨active, states ++ [v], []⟩ ↔
    Valid ⟨active, states, []⟩ ∧ IsName v.name ∧ v.name ∉ states.map (·.name) := by
  constructor
  · intro h
    have hnodup := h.names_nodup
    rw [names, List.map_append, List.nodup_append] at hnodup
    refine ⟨⟨fun w hw => h.name_valid w (List.mem_append_left _ hw), hnodup.1, by simp, by simp,
      .nil⟩, h.name_valid v (by simp), ?_⟩
    exact fun hmem => hnodup.2.2 _ hmem v.name (by simp) rfl
  · intro hgiven
    obtain ⟨h, hname, hfree⟩ := hgiven
    refine ⟨?_, ?_, by simp, by simp, .nil⟩
    · intro w hw
      rcases List.mem_append.1 hw with hw | hw
      · exact h.name_valid w hw
      · exact List.mem_singleton.1 hw ▸ hname
    · rw [names, List.map_append, List.nodup_append]
      refine ⟨h.names_nodup, by simp, ?_⟩
      rintro name hold other hnew rfl
      simp only [List.map_cons, List.map_nil, List.mem_singleton] at hnew
      exact hfree (hnew ▸ hold)

theorem valid_concat_transition_iff {t : TransitionSnapshot} :
    Valid ⟨active, states, transitions ++ [t]⟩ ↔ Valid ⟨active, states, transitions⟩ ∧
      t.source ∈ states.map (·.name) ∧ t.target ∈ states.map (·.name) ∧
      (∀ word, t.label = some word → IsLabel word) ∧ t ∉ transitions := by
  constructor
  · intro h
    have hnodup := h.transitions_nodup
    rw [List.nodup_append] at hnodup
    have hlast : t ∈ transitions ++ [t] := by simp
    refine ⟨⟨h.name_valid, h.names_nodup, fun u hu => h.endpoints u (List.mem_append_left _ hu),
      fun u hu => h.label_valid u (List.mem_append_left _ hu), hnodup.1⟩,
      (h.endpoints t hlast).1, (h.endpoints t hlast).2, h.label_valid t hlast, ?_⟩
    exact fun hmem => hnodup.2.2 _ hmem t (by simp) rfl
  · intro hgiven
    obtain ⟨h, hsource, htarget, hlabel, hfree⟩ := hgiven
    refine ⟨h.name_valid, h.names_nodup, ?_, ?_, ?_⟩
    · intro u hu
      rcases List.mem_append.1 hu with hu | hu
      · exact h.endpoints u hu
      · obtain rfl := List.mem_singleton.1 hu
        exact ⟨hsource, htarget⟩
    · intro u hu
      rcases List.mem_append.1 hu with hu | hu
      · exact h.label_valid u hu
      · exact List.mem_singleton.1 hu ▸ hlabel
    · refine List.nodup_append.2 ⟨h.transitions_nodup, by simp, ?_⟩
      rintro u hold other hnew rfl
      exact hfree (List.mem_singleton.1 hnew ▸ hold)

/-- A change of the last state, if no other has its name. -/
theorem modifyState_concat {s : Snapshot} {v : StateSnapshot} (hfree : v.name ∉ s.names)
    (f : StateSnapshot → StateSnapshot) :
    modifyState { s with states := s.states ++ [v] } v.name f =
      { s with states := s.states ++ [f v] } := by
  have hold : s.states.map (fun w => if w.name = v.name then f w else w) = s.states := by
    refine (List.map_congr_left ?_).trans (List.map_id _)
    intro w hw
    have hne : w.name ≠ v.name := fun hsame => hfree (hsame ▸ List.mem_map_of_mem hw)
    rw [if_neg hne, id]
  simp [modifyState, hold]

end Snapshot

namespace Graph

open Snapshot (StateFault TransitionFault)

variable {g k : Graph} {error : SnapshotError}

/-! ## Flags -/

theorem Consistent.snapshot_setInitial (hg : g.Consistent) {s : StateId} {state : State}
    (hs : (s, state) ∈ g.states) (value : Bool) :
    (g.modifyState s fun state => { state with initial := value }).snapshot =
      g.snapshot.modifyState state.name fun v => { v with initial := value } :=
  hg.snapshot_modifyState hs (isAttributeChange_initial value) fun _ => rfl

theorem Consistent.snapshot_setFinal (hg : g.Consistent) {s : StateId} {state : State}
    (hs : (s, state) ∈ g.states) (value : Bool) :
    (g.modifyState s fun state => { state with final := value }).snapshot =
      g.snapshot.modifyState state.name fun v => { v with final := value } :=
  hg.snapshot_modifyState hs (isAttributeChange_final value) fun _ => rfl

/-! ## One state -/

/-- The graph with a state of a snapshot. -/
def withState (g : Graph) (v : StateSnapshot) : Graph :=
  ((g.addState v.name ⟨v.x, v.y⟩).modifyState g.nextStateId
      fun state => { state with initial := v.initial }).modifyState g.nextStateId
    fun state => { state with final := v.final }

/-- The flags of a state that has just been created can always be set. -/
theorem restoreState_eq (g : Graph) (v : StateSnapshot) : g.restoreState v =
    match g.createState v.name ⟨v.x, v.y⟩ with
    | .error error => .error (.graph error)
    | .ok _ => .ok (g.withState v) := by
  unfold restoreState
  cases hcreate : g.createState v.name ⟨v.x, v.y⟩ with
  | error error => rfl
  | ok r =>
    obtain ⟨_, _, rfl⟩ := createState_eq_ok_iff.1 hcreate
    have hnew : g.nextStateId ∈ (g.addState v.name ⟨v.x, v.y⟩).states.ids := by
      simp [addState]
    have hinitial : (g.addState v.name ⟨v.x, v.y⟩).setInitial g.nextStateId v.initial = .ok
        ⟨(g.addState v.name ⟨v.x, v.y⟩).modifyState g.nextStateId
          fun state => { state with initial := v.initial }, [.state g.nextStateId .initial]⟩ :=
      changeState_eq_ok_iff.2 ⟨hnew, rfl⟩
    have hfinal : ((g.addState v.name ⟨v.x, v.y⟩).modifyState g.nextStateId
          fun state => { state with initial := v.initial }).setFinal g.nextStateId v.final = .ok
        ⟨g.withState v, [.state g.nextStateId .final]⟩ :=
      changeState_eq_ok_iff.2 ⟨by simpa [modifyState] using hnew, rfl⟩
    simp only [hinitial, hfinal]

theorem Consistent.restoreState_eq_ok_iff (hg : g.Consistent) {v : StateSnapshot} :
    g.restoreState v = .ok k ↔
      IsName v.name ∧ v.name ∉ g.snapshot.names ∧ k = g.withState v := by
  rw [restoreState_eq, ← hg.names_contains_eq_false_iff]
  cases hcreate : g.createState v.name ⟨v.x, v.y⟩ with
  | error error =>
    simp only [reduceCtorEq, false_iff]
    rintro ⟨hname, hfree, -⟩
    simp [createState_eq_ok_iff.2 ⟨hname, hfree, rfl⟩] at hcreate
  | ok r =>
    obtain ⟨hname, hfree, -⟩ := createState_eq_ok_iff.1 hcreate
    simp [hname, hfree, eq_comm (a := k)]

theorem Consistent.restoreState_eq_error_iff (hg : g.Consistent) {v : StateSnapshot} :
    g.restoreState v = .error error ↔ StateFault g.snapshot.names v error := by
  have herror : g.restoreState v = .error error ↔
      ∃ e, g.createState v.name ⟨v.x, v.y⟩ = .error e ∧ error = .graph e := by
    rw [restoreState_eq]
    cases g.createState v.name ⟨v.x, v.y⟩ <;> simp [eq_comm (a := error)]
  rw [herror]
  simp only [hg.createState_eq_error_iff, ← mem_snapshot_names_iff]
  constructor
  · intro hgiven
    obtain ⟨e, ⟨fault, hfault, rfl⟩ | ⟨hname, htaken, rfl⟩, rfl⟩ := hgiven
    · exact .invalidName hfault
    · exact .duplicateName hname htaken
  · intro hfault
    cases hfault with
    | invalidName hfault => exact ⟨_, .inl ⟨_, hfault, rfl⟩, rfl⟩
    | duplicateName hname htaken => exact ⟨_, .inr ⟨hname, htaken, rfl⟩, rfl⟩

/-- A state is restored at the end of the list. -/
theorem Consistent.snapshot_withState (hg : g.Consistent) {v : StateSnapshot}
    (hname : IsName v.name) (hfree : v.name ∉ g.snapshot.names) :
    (g.withState v).snapshot =
      { g.snapshot with states := g.snapshot.states ++ [{ v with current := false }] } := by
  have hadded := hg.addState hname (hg.names_contains_eq_false_iff.2 hfree) ⟨v.x, v.y⟩
  have hnew : (g.nextStateId, (⟨v.name, ⟨v.x, v.y⟩, false, false, false, [], []⟩ : State)) ∈
      (g.addState v.name ⟨v.x, v.y⟩).states := Registry.mem_add_iff.2 (.inr rfl)
  have hchanged := hadded.modifyState g.nextStateId (isAttributeChange_initial v.initial)
  have hthere : (g.nextStateId,
      (⟨v.name, ⟨v.x, v.y⟩, v.initial, false, false, [], []⟩ : State)) ∈
      ((g.addState v.name ⟨v.x, v.y⟩).modifyState g.nextStateId
        fun state => { state with initial := v.initial }).states :=
    mem_modifyState_iff.2 ⟨_, hnew, by simp⟩
  rw [withState, hchanged.snapshot_setFinal hthere, hadded.snapshot_setInitial hnew,
    hg.snapshot_addState, Snapshot.addState]
  simp only
  rw [Snapshot.modifyState_concat (v := ⟨v.name, v.x, v.y, false, false, false⟩) hfree,
    Snapshot.modifyState_concat (v := ⟨v.name, v.x, v.y, v.initial, false, false⟩) hfree]

/-! ## One transition -/

theorem Named.findState_eq_none_iff (hg : g.Named) {name : String} :
    g.findState name = none ↔ name ∉ g.snapshot.names := by
  rw [← hg.names_contains_eq_false_iff, Std.ExtTreeMap.contains_eq_isSome_getElem?, ← findState,
    Option.isSome_eq_false_iff, Option.isNone_iff_eq_none]

theorem mem_snapshot_names_of_mem {s : StateId} {state : State} (hs : (s, state) ∈ g.states) :
    state.name ∈ g.snapshot.names :=
  mem_snapshot_names_iff.2 ⟨s, state, hs, rfl⟩

/-- A transition goes to the states that the name index finds. -/
theorem restoreTransition_eq_ok_iff {t : TransitionSnapshot} :
    g.restoreTransition t = .ok k ↔ ∃ source target r, g.findState t.source = some source ∧
      g.findState t.target = some target ∧ g.createTransition source target t.label = .ok r ∧
      r.2.graph = k := by
  unfold Graph.restoreTransition
  cases g.findState t.source with
  | none => simp
  | some source => cases g.findState t.target with
    | none => simp
    | some target =>
      cases hcreate : g.createTransition source target t.label <;> simp [hcreate, Prod.ext_iff]

/-- A transition is restored at the end of the list. -/
theorem Consistent.snapshot_restoreTransition (hg : g.Consistent) {t : TransitionSnapshot}
    (h : g.restoreTransition t = .ok k) : k.snapshot = g.snapshot.addTransition t := by
  obtain ⟨source, target, r, hsource, htarget, hcreate, rfl⟩ := restoreTransition_eq_ok_iff.1 h
  obtain ⟨_, _, _, _, rfl⟩ := createTransition_eq_ok_iff.1 hcreate
  obtain ⟨a, ha, hsourceName⟩ := (hg.findState_eq_some_iff _ _).1 hsource
  obtain ⟨b, hb, htargetName⟩ := (hg.findState_eq_some_iff _ _).1 htarget
  simp only [snapshot_addTransition, hg.stateName_of_mem ha, hg.stateName_of_mem hb, hsourceName,
    htargetName]

theorem Consistent.exists_restoreTransition_iff (hg : g.Consistent) {t : TransitionSnapshot} :
    (∃ k, g.restoreTransition t = .ok k) ↔ t.source ∈ g.snapshot.names ∧
      t.target ∈ g.snapshot.names ∧ (∀ word, t.label = some word → IsLabel word) ∧
      t ∉ g.snapshot.transitions := by
  simp only [restoreTransition_eq_ok_iff]
  constructor
  · intro hgiven
    obtain ⟨k, source, target, r, hsource, htarget, hcreate, -⟩ := hgiven
    obtain ⟨_, _, hlabel, hedge, -⟩ := createTransition_eq_ok_iff.1 hcreate
    obtain ⟨a, ha, hsourceName⟩ := (hg.findState_eq_some_iff _ _).1 hsource
    obtain ⟨b, hb, htargetName⟩ := (hg.findState_eq_some_iff _ _).1 htarget
    rw [hg.hasEdge_eq_false_iff ha hb, hsourceName, htargetName] at hedge
    exact ⟨hsourceName ▸ mem_snapshot_names_of_mem ha, htargetName ▸ mem_snapshot_names_of_mem hb,
      hlabel, hedge⟩
  · intro hgiven
    obtain ⟨hsource, htarget, hlabel, hfree⟩ := hgiven
    obtain ⟨source, a, ha, hsourceName⟩ := mem_snapshot_names_iff.1 hsource
    obtain ⟨target, b, hb, htargetName⟩ := mem_snapshot_names_iff.1 htarget
    have hedge : g.hasEdge source target t.label = false := by
      rwa [hg.hasEdge_eq_false_iff ha hb, hsourceName, htargetName]
    refine ⟨_, source, target, _, hsourceName ▸ hg.findState_of_mem ha,
      htargetName ▸ hg.findState_of_mem hb, createTransition_eq_ok_iff.2 ⟨?_, ?_, hlabel, hedge,
        rfl⟩, rfl⟩
    · exact Registry.mem_ids_of_mem ha
    · exact Registry.mem_ids_of_mem hb

theorem restoreTransition_eq_error_iff {t : TransitionSnapshot} :
    g.restoreTransition t = .error error ↔
      (g.findState t.source = none ∧ error = .unknownState t.source) ∨
      (g.findState t.source ≠ none ∧ g.findState t.target = none ∧
        error = .unknownState t.target) ∨
      ∃ source target e, g.findState t.source = some source ∧ g.findState t.target = some target ∧
        g.createTransition source target t.label = .error e ∧ error = .graph e := by
  unfold Graph.restoreTransition
  cases g.findState t.source with
  | none => simp [eq_comm (a := error)]
  | some source => cases g.findState t.target with
    | none => simp [eq_comm (a := error)]
    | some target =>
      cases hcreate : g.createTransition source target t.label <;>
        simp [hcreate, eq_comm (a := error)]

/-- The errors of the graph are those that its snapshot tells. -/
theorem Consistent.transitionFault_iff (hg : g.Consistent) {t : TransitionSnapshot} :
    g.restoreTransition t = .error error ↔
      TransitionFault g.snapshot.names g.snapshot.transitions t error := by
  have hfound : ∀ {name s}, g.findState name = some s →
      ∃ state, (s, state) ∈ g.states ∧ state.name = name ∧ name ∈ g.snapshot.names := by
    intro name s h
    obtain ⟨state, hs, rfl⟩ := (hg.findState_eq_some_iff _ _).1 h
    exact ⟨state, hs, rfl, mem_snapshot_names_of_mem hs⟩
  have hthere : ∀ {a b : State} {source target}, (source, a) ∈ g.states → a.name = t.source →
      (target, b) ∈ g.states → b.name = t.target →
      ((∃ u, (u, ⟨source, target, t.label⟩) ∈ g.transitions) ↔ t ∈ g.snapshot.transitions) := by
    intro a b source target ha hsourceName hb htargetName
    rw [hg.exists_edge_iff ha hb, hsourceName, htargetName]
  simp only [restoreTransition_eq_error_iff, createTransition_eq_error_iff, ne_eq,
    hg.findState_eq_none_iff, not_not]
  constructor
  · intro hgiven
    obtain ⟨hno, rfl⟩ | ⟨hyes, hno, rfl⟩ | ⟨source, target, e, hsource, htarget, he, rfl⟩ := hgiven
    · exact .unknownSource hno
    · exact .unknownTarget hyes hno
    · obtain ⟨a, ha, hsourceName, hsourceMem⟩ := hfound hsource
      obtain ⟨b, hb, htargetName, htargetMem⟩ := hfound htarget
      obtain ⟨hno, rfl⟩ | ⟨-, hno, rfl⟩ | ⟨-, -, word, fault, hlabel, hfault, rfl⟩ |
        ⟨-, -, hlabel, hedge, rfl⟩ := he
      · exact absurd (Registry.mem_ids_of_mem ha) hno
      · exact absurd (Registry.mem_ids_of_mem hb) hno
      · exact .invalidLabel hsourceMem htargetMem hlabel hfault
      · rw [hg.stateName_of_mem ha, hg.stateName_of_mem hb, hsourceName, htargetName]
        exact .duplicate hsourceMem htargetMem hlabel
          ((hthere ha hsourceName hb htargetName).1 hedge)
  · intro hfault
    cases hfault with
    | unknownSource hno => exact .inl ⟨hno, rfl⟩
    | unknownTarget hyes hno => exact .inr (.inl ⟨hyes, hno, rfl⟩)
    | invalidLabel hsource htarget hlabel hfault =>
      obtain ⟨source, a, ha, hsourceName⟩ := mem_snapshot_names_iff.1 hsource
      obtain ⟨target, b, hb, htargetName⟩ := mem_snapshot_names_iff.1 htarget
      exact .inr (.inr ⟨source, target, _, hsourceName ▸ hg.findState_of_mem ha,
        htargetName ▸ hg.findState_of_mem hb, .inr (.inr (.inl ⟨Registry.mem_ids_of_mem ha,
          Registry.mem_ids_of_mem hb, _, _, hlabel, hfault, rfl⟩)), rfl⟩)
    | duplicate hsource htarget hlabel hmem =>
      obtain ⟨source, a, ha, hsourceName⟩ := mem_snapshot_names_iff.1 hsource
      obtain ⟨target, b, hb, htargetName⟩ := mem_snapshot_names_iff.1 htarget
      refine .inr (.inr ⟨source, target, _, hsourceName ▸ hg.findState_of_mem ha,
        htargetName ▸ hg.findState_of_mem hb, .inr (.inr (.inr ⟨Registry.mem_ids_of_mem ha,
          Registry.mem_ids_of_mem hb, hlabel, (hthere ha hsourceName hb htargetName).2 hmem,
          rfl⟩)), ?_⟩)
      rw [hg.stateName_of_mem ha, hg.stateName_of_mem hb, hsourceName, htargetName]

end Graph

end NfaWorkbench
