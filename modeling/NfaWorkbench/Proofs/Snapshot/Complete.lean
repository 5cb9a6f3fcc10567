import NfaWorkbench.Proofs.Snapshot.Requests
import NfaWorkbench.Proofs.Snapshot.Restore
set_option autoImplicit false

/-!
# Snapshots: a complete description

An automaton serves every request by name exactly as its snapshot does.  So two automata with one
snapshot cannot be told apart without identifiers, however they came about, and a restored automaton
goes on where the other one stands.
-/

namespace NfaWorkbench

namespace Graph

variable {g : Graph}

/-! ## Transitions as they are shown -/

theorem Consistent.shownTransitions_singleton (hg : g.Consistent) {t : TransitionId}
    {transition : Transition} (ht : (t, transition) ∈ g.transitions) :
    g.shownTransitions [t] = [g.transitionSnapshot transition] := by
  simp [shownTransitions, hg.transition?_eq_some_iff.2 ht]

theorem Consistent.shownTransitions_idsWhere (hg : g.Consistent) {p : Transition → Bool}
    {q : TransitionSnapshot → Bool}
    (hq : ∀ t transition, (t, transition) ∈ g.transitions →
      q (g.transitionSnapshot transition) = p transition) :
    g.shownTransitions (g.transitions.idsWhere p) = g.snapshot.transitions.filter q := by
  have hfilter : g.transitions.filter (fun e => q (g.transitionSnapshot e.2)) =
      g.transitions.filter fun e => p e.2 :=
    List.filter_congr fun e he => hq e.1 e.2 he
  simp only [shownTransitions, Registry.idsWhere, snapshot, List.filter_map, List.filterMap_map,
    Function.comp_def, hfilter]
  rw [← List.filterMap_eq_map]
  apply List.filterMap_congr
  rintro ⟨t, transition⟩ ht
  simp [hg.transition?_eq_some_iff.2 (List.mem_filter.1 ht).1]

/-- Between two members there is at most one transition with a label, and it is found. -/
theorem Consistent.edge?_eq_some_iff (hg : g.Consistent) {source target : StateId}
    (hsource : source ∈ g.states.ids) (htarget : target ∈ g.states.ids) {label : Option String}
    {t : TransitionId} : g.edge? source target label = some t ↔
      (t, ⟨source, target, label⟩) ∈ g.transitions := by
  have hlabel : ∀ {u transition}, (u, transition) ∈ g.transitions →
      ((g.transition? u).any (·.label = label) = true ↔ transition.label = label) := by
    intro u transition hu
    simp [hg.transition?_eq_some_iff.2 hu]
  have hedge : g.edge? source target label =
      (g.transitions.idsWhere fun e => e.source = source ∧ e.target = target).find? fun u =>
        (g.transition? u).any (·.label = label) := by
    rw [edge?, hg.findTransitions_eq hsource htarget]
  have hsound : ∀ {u}, g.edge? source target label = some u →
      (u, ⟨source, target, label⟩) ∈ g.transitions := by
    intro u hfound
    rw [hedge] at hfound
    obtain ⟨transition, hu, hends⟩ :=
      Registry.mem_idsWhere_iff.1 (List.mem_of_find?_eq_some hfound)
    have hsame := List.find?_some hfound
    rw [hlabel hu] at hsame
    simp only [decide_eq_true_eq] at hends
    obtain ⟨rfl, rfl⟩ := hends
    exact hsame ▸ hu
  refine ⟨hsound, ?_⟩
  intro ht
  cases hfound : g.edge? source target label with
  | none =>
    rw [hedge] at hfound
    refine absurd ((hlabel ht).2 rfl) (List.find?_eq_none.1 hfound t ?_)
    exact Registry.mem_idsWhere_iff.2 ⟨_, ht, by simp⟩
  | some u => rw [hg.edge_unique u t _ (hsound hfound) ht]

/-- A state is shown as current only while a simulation runs. -/
theorem Named.map_currentStates (hg : g.Named) :
    g.currentStates.map g.stateName = g.snapshot.namesWhere (·.current) := by
  unfold currentStates
  cases hactive : g.active with
  | true => exact hg.map_stateName_idsWhere fun state => by simp [stateSnapshot, hactive]
  | false =>
    have hnone : g.snapshot.states.filter (·.current) = [] := by
      refine List.filter_eq_nil_iff.2 ?_
      simp only [snapshot, List.mem_map, forall_exists_index, and_imp, forall_apply_eq_imp_iff₂]
      simp [stateSnapshot, hactive]
    simp [Snapshot.namesWhere, hnone]

end Graph

namespace Automaton

/-! ## Replies -/

variable {a : Automaton}

/-- What a reply and the automaton afterwards show. -/
def shown {α : Type} (r : α × Automaton) : α × Snapshot := (r.1, r.2.graph.snapshot)

/-- The name index finds a state exactly if the snapshot lists its name. -/
theorem shown_atState (ha : a.graph.Consistent) {name : String} {operation : StateId → Operation}
    {served : NamedReply × Snapshot} (h : ∀ s state, (s, state) ∈ a.graph.states →
      state.name = name → shown (a.perform (operation s)).reply = served) :
    shown (a.atState name operation) = a.graph.snapshot.atState name served := by
  unfold atState Snapshot.atState
  cases hfound : a.graph.findState name with
  | none => rw [if_neg (ha.findState_eq_none_iff.1 hfound), shown]
  | some s =>
    obtain ⟨state, hs, hname⟩ := (ha.findState_eq_some_iff _ _).1 hfound
    rw [if_pos (hname ▸ Graph.mem_snapshot_names_of_mem hs)]
    exact h s state hs hname

theorem shown_atStates (ha : a.graph.Consistent) {source target : String}
    {serve : StateId → StateId → NamedReply × Automaton} {served : NamedReply × Snapshot}
    (h : ∀ s v t w, (s, v) ∈ a.graph.states → v.name = source → (t, w) ∈ a.graph.states →
      w.name = target → shown (serve s t) = served) :
    shown (a.atStates source target serve) = a.graph.snapshot.atStates source target served := by
  unfold atStates Snapshot.atStates
  cases hsource : a.graph.findState source with
  | none =>
    have hno := ha.findState_eq_none_iff.1 hsource
    rw [if_neg fun hboth => hno hboth.1, shown]
  | some s =>
    obtain ⟨v, hs, hv⟩ := (ha.findState_eq_some_iff _ _).1 hsource
    cases htarget : a.graph.findState target with
    | none =>
      have hno := ha.findState_eq_none_iff.1 htarget
      rw [if_neg fun hboth => hno hboth.2, shown]
    | some t =>
      obtain ⟨w, ht, hw⟩ := (ha.findState_eq_some_iff _ _).1 htarget
      rw [if_pos ⟨hv ▸ Graph.mem_snapshot_names_of_mem hs, hw ▸ Graph.mem_snapshot_names_of_mem ht⟩]
      exact h s v t w hs hv ht hw

/-! ## Operations -/

theorem shown_createState (ha : a.graph.Consistent) (name : String) (position : Position) :
    shown (a.perform (.createState name position)).reply =
      a.graph.snapshot.createState name position := by
  simp only [perform, Graph.createState, Snapshot.createState]
  cases hname : nameFault? name with
  | some fault => rfl
  | none =>
    by_cases htaken : name ∈ a.graph.snapshot.names
    · have hindex := (ha.names_contains_iff name).2 (Graph.mem_snapshot_names_iff.1 htaken)
      simp only [hindex, htaken, if_true]
      rfl
    · have hindex := ha.names_contains_eq_false_iff.2 htaken
      have hadded := ha.addState (nameFault?_eq_none_iff.1 hname) hindex position
      have hshown := hadded.stateName_of_mem (Registry.mem_add_iff.2 (.inr rfl))
      simp only [hindex, htaken, if_false, Bool.false_eq_true]
      exact Prod.ext (congrArg NamedReply.state hshown) (ha.snapshot_addState name position)

/-- A change of a state is always carried out on a member. -/
theorem shown_changeState {s : StateId} (hs : s ∈ a.graph.states.ids) (aspect : StateAspect)
    (f : State → State) :
    shown (a.settled ((a.graph.changeState s aspect f).map ((.done, ·)))).reply =
      (.done, (a.graph.modifyState s f).snapshot) := by
  rw [Graph.changeState_eq_ok_iff.2 ⟨hs, rfl⟩]
  rfl

theorem shown_createTransition (ha : a.graph.Consistent) {source target : StateId} {v w : State}
    (hv : (source, v) ∈ a.graph.states) (hw : (target, w) ∈ a.graph.states)
    (label : Option String) :
    shown (a.perform (.createTransition source target label)).reply =
      a.graph.snapshot.createTransition ⟨v.name, label, w.name⟩ := by
  have hsource := Registry.mem_ids_of_mem hv
  have htarget := Registry.mem_ids_of_mem hw
  simp only [perform, Graph.createTransition, (Graph.hasState_iff source).2 hsource,
    (Graph.hasState_iff target).2 htarget, Snapshot.createTransition, ha.stateName_of_mem hv,
    ha.stateName_of_mem hw, Bool.true_eq_false, if_false]
  cases hlabel : Graph.labelError? label with
  | some error => rfl
  | none =>
    by_cases hthere : ⟨v.name, label, w.name⟩ ∈ a.graph.snapshot.transitions
    · have hedge := Graph.hasEdge_iff.2 ((ha.exists_edge_iff hv hw).2 hthere)
      simp only [hedge, hthere, if_true]
      rfl
    · have hedge := (ha.hasEdge_eq_false_iff hv hw).2 hthere
      have hadded := ha.addTransition hsource htarget
        (Graph.labelError?_eq_none_iff.1 hlabel) hedge
      have hname := Graph.stateName_eq_of_mapValues_eq (a.graph.mapValues_addTransition_states
        source target label (fun _ _ => rfl) fun _ _ => rfl)
      have hshown := hadded.shownTransitions_singleton (Registry.mem_add_iff.2 (.inr rfl))
      simp only [hedge, hthere, if_false, Bool.false_eq_true]
      refine Prod.ext (congrArg NamedReply.transitions (hshown.trans ?_)) ?_
      · simp only [Graph.transitionSnapshot, hname, ha.stateName_of_mem hv, ha.stateName_of_mem hw]
      · exact (Graph.snapshot_addTransition source target label).trans
          (by rw [ha.stateName_of_mem hv, ha.stateName_of_mem hw])

theorem shown_removeTransition (ha : a.graph.Consistent) {source target : StateId} {v w : State}
    (hv : (source, v) ∈ a.graph.states) (hw : (target, w) ∈ a.graph.states)
    (label : Option String) :
    shown (match a.graph.edge? source target label with
      | some id => (a.perform (.removeTransition id)).reply
      | none => (NamedReply.missing, a)) =
      if ⟨v.name, label, w.name⟩ ∈ a.graph.snapshot.transitions then
        (.done, a.graph.snapshot.withoutTransition ⟨v.name, label, w.name⟩)
      else (.missing, a.graph.snapshot) := by
  have hsource := Registry.mem_ids_of_mem hv
  have htarget := Registry.mem_ids_of_mem hw
  have hthere : (∃ t, (t, ⟨source, target, label⟩) ∈ a.graph.transitions) ↔
      ⟨v.name, label, w.name⟩ ∈ a.graph.snapshot.transitions := ha.exists_edge_iff hv hw
  cases hedge : a.graph.edge? source target label with
  | none =>
    have hno : ¬∃ t, (t, ⟨source, target, label⟩) ∈ a.graph.transitions := by
      simp [← ha.edge?_eq_some_iff hsource htarget, hedge]
    rw [if_neg (hthere.not.1 hno)]
    rfl
  | some t =>
    have ht := (ha.edge?_eq_some_iff hsource htarget).1 hedge
    rw [if_pos (hthere.1 ⟨t, ht⟩)]
    refine Prod.ext rfl ((ha.snapshot_removeTransition ht).trans ?_)
    rw [Graph.transitionSnapshot, ha.stateName_of_mem hv, ha.stateName_of_mem hw]

theorem shown_findTransitions (ha : a.graph.Consistent) {source target : StateId} {v w : State}
    (hv : (source, v) ∈ a.graph.states) (hw : (target, w) ∈ a.graph.states) :
    shown (match a.graph.findTransitions source target with
      | .ok found => (NamedReply.transitions (a.graph.shownTransitions found), a)
      | .error error => (NamedReply.refused error, a)) =
      (NamedReply.transitions (a.graph.snapshot.transitions.filter fun t =>
        t.source = v.name ∧ t.target = w.name), a.graph.snapshot) := by
  rw [ha.findTransitions_eq (Registry.mem_ids_of_mem hv) (Registry.mem_ids_of_mem hw)]
  refine Prod.ext (congrArg NamedReply.transitions (ha.shownTransitions_idsWhere ?_)) rfl
  intro t transition ht
  obtain ⟨hsource, htarget⟩ := ha.endpoints t transition ht
  simp only [Graph.transitionSnapshot, ha.stateName_eq_iff hv hsource,
    ha.stateName_eq_iff hw htarget]

/-! ## Requests -/

/-- An automaton serves a request as its snapshot does. -/
theorem shown_serve (ha : a.graph.Consistent) (request : NamedRequest) :
    shown (a.serve request) = a.graph.snapshot.serve request := by
  cases request with
  | createState name position => exact shown_createState ha name position
  | removeState name =>
    refine shown_atState ha ?_
    rintro s state hs rfl
    exact Prod.ext rfl (ha.snapshot_removeState hs)
  | setInitial name value =>
    refine shown_atState ha ?_
    rintro s state hs rfl
    exact (shown_changeState (Registry.mem_ids_of_mem hs) _ _).trans
      (Prod.ext rfl (ha.snapshot_setInitial hs value))
  | setFinal name value =>
    refine shown_atState ha ?_
    rintro s state hs rfl
    exact (shown_changeState (Registry.mem_ids_of_mem hs) _ _).trans
      (Prod.ext rfl (ha.snapshot_setFinal hs value))
  | moveBy name dx dy =>
    refine shown_atState ha ?_
    rintro s state hs rfl
    refine (shown_changeState (Registry.mem_ids_of_mem hs) _ _).trans (Prod.ext rfl ?_)
    exact ha.snapshot_modifyState hs (Graph.isAttributeChange_moveBy dx dy) fun _ => rfl
  | createTransition t =>
    refine shown_atStates ha ?_
    intro s v u w hs hv hu hw
    obtain ⟨_, label, _⟩ := t
    subst hv hw
    exact shown_createTransition ha hs hu label
  | removeTransition t =>
    refine shown_atStates ha ?_
    intro s v u w hs hv hu hw
    obtain ⟨_, label, _⟩ := t
    subst hv hw
    exact shown_removeTransition ha hs hu label
  | findTransitions source target =>
    refine shown_atStates ha ?_
    rintro s v u w hs rfl hu rfl
    exact shown_findTransitions ha hs hu
  | reset => exact Prod.ext rfl ha.snapshot_reset
  | step event => exact Prod.ext rfl (ha.snapshot_step event)
  | recognise =>
    obtain ⟨hverdict, hafter⟩ := Prod.mk.inj ha.recognise_eq
    exact Prod.ext (congrArg NamedReply.verdict hverdict) hafter
  | currentNames => exact Prod.ext (congrArg NamedReply.names ha.map_currentStates) rfl
  | initialNames =>
    exact Prod.ext (congrArg NamedReply.names (ha.map_stateName_idsWhere fun _ => rfl)) rfl
  | finalNames =>
    exact Prod.ext (congrArg NamedReply.names (ha.map_stateName_idsWhere fun _ => rfl)) rfl
  | counts => simp [shown, serve, Snapshot.serve, Graph.snapshot]
  | serialize => exact Prod.ext (congrArg NamedReply.text ha.serialize_eq) rfl
  | snapshot => rfl

/-! ## Any number of requests -/

theorem Reachable.replied {a : Automaton} (h : a.Reachable) (operation : Operation) :
    (a.perform operation).reply.2.Reachable := by
  unfold Outcome.reply
  split <;> exact h.perform operation

/-- Serving a request carries out one operation at most. -/
theorem Reachable.served {a : Automaton} (h : a.Reachable) (request : NamedRequest) :
    (a.serve request).2.Reachable := by
  have hstate : ∀ name operation, (a.atState name operation).2.Reachable := by
    intro name operation
    unfold atState
    split
    · exact h.replied _
    · exact h
  have hstates : ∀ {source target serve},
      (∀ s t, (serve s t : NamedReply × Automaton).2.Reachable) →
        (a.atStates source target serve).2.Reachable := by
    intro source target serve hserve
    unfold atStates
    split
    · exact h
    · split
      · exact h
      · exact hserve _ _
  cases request with
  | createState | reset | step | recognise => exact h.replied _
  | removeState | setInitial | setFinal | moveBy => exact hstate _ _
  | createTransition t => exact hstates fun _ _ => h.replied _
  | removeTransition t =>
    refine hstates fun _ _ => ?_
    split
    · exact h.replied _
    · exact h
  | findTransitions source target =>
    refine hstates fun _ _ => ?_
    split <;> exact h
  | _ => exact h

/-- An automaton serves requests as its snapshot does. -/
theorem Reachable.shown_serveAll {a : Automaton} (h : a.Reachable) (requests : List NamedRequest) :
    shown (serveAll serve a requests) =
      serveAll Snapshot.serve a.graph.snapshot requests :=
  serveAll_eq (fun a : Automaton => a.graph.snapshot) (fun _ request ha => ha.served request)
    (fun _ request ha => shown_serve ha.consistent request) h requests

/-- Two automata serve requests with the same replies, and show the same afterwards. -/
def Alike (a b : Automaton) (requests : List NamedRequest) : Prop :=
  (serveAll serve a requests).1 = (serveAll serve b requests).1 ∧
    (serveAll serve a requests).2.graph.snapshot = (serveAll serve b requests).2.graph.snapshot

theorem Reachable.alike {a b : Automaton} (ha : a.Reachable) (hb : b.Reachable)
    (h : a.graph.snapshot = b.graph.snapshot) (requests : List NamedRequest) :
    Alike a b requests := by
  have hshown := ha.shown_serveAll requests
  rw [h, ← hb.shown_serveAll requests] at hshown
  exact Prod.mk.inj hshown

/-- Two automata with the same snapshot, whatever their histories, identifiers and subscriptions
are, give the same replies to all requests by name and have the same snapshot after them.  Both are
what the snapshot itself says.  An automaton that is restored from a snapshot goes on like the one
it was taken from, in the middle of a run as well. -/
theorem Reachable.snapshot_complete {a b : Automaton} (ha : a.Reachable) (hb : b.Reachable)
    (h : a.graph.snapshot = b.graph.snapshot) :
    (∀ requests, Alike a b requests) ∧
    (∀ requests, shown (serveAll serve a requests) =
      serveAll Snapshot.serve a.graph.snapshot requests) ∧
    ∀ owner, ∃ g, Graph.ofSnapshot owner a.graph.snapshot = .ok g ∧
      ∀ requests, Alike (ofGraph g) a requests := by
  refine ⟨ha.alike hb h, ha.shown_serveAll, ?_⟩
  intro owner
  obtain ⟨g, hg⟩ := Graph.exists_ofSnapshot_iff.2 ha.consistent.snapshot_valid
  have hsnapshot : g.snapshot = a.graph.snapshot :=
    (Graph.snapshot_ofSnapshot hg).trans (Graph.effective_snapshot a.graph)
  exact ⟨g, hg, fun requests => (Reachable.restored hg).alike ha hsnapshot requests⟩

/-- The sample without its detours: no state was removed, and somebody listens. -/
def twin : Automaton := (empty 1).performAll
  [.createState "a" default, .subscribe .automaton, .createState "b" default,
    .createTransition ⟨1, 0⟩ ⟨1, 0⟩ (some "x"), .createTransition ⟨1, 0⟩ ⟨1, 1⟩ (some "y"),
    .createTransition ⟨1, 1⟩ ⟨1, 0⟩ none, .setFinal ⟨1, 1⟩ true, .setInitial ⟨1, 0⟩ true,
    .reset, .step none]

/-- Both take the edge to the final state, follow the epsilon transition back, and lose the final
state with its transitions. -/
theorem sample_snapshot_complete : sample.Reachable ∧ twin.Reachable ∧
    sample.graph.snapshot = twin.graph.snapshot ∧
    (serveAll serve twin [.step (some "y"), .recognise, .currentNames, .removeState "b", .counts,
        .createTransition ⟨"a", some "x", "a"⟩]).1 =
      [.done, .verdict true, .names ["a", "b"], .done, .counts 1 1,
        .refused (.duplicateTransition "a" (some "x") "a")] := by
  have htwin : twin.Reachable := (Reachable.empty 1).performAll _
  have hsame : sample.graph.snapshot = twin.graph.snapshot := by decide +kernel
  have halike := (reachable_sample.snapshot_complete htwin hsame).1
    [.step (some "y"), .recognise, .currentNames, .removeState "b", .counts,
      .createTransition ⟨"a", some "x", "a"⟩]
  refine ⟨reachable_sample, htwin, hsame, halike.1.symm.trans ?_⟩
  decide +kernel

end Automaton

end NfaWorkbench
