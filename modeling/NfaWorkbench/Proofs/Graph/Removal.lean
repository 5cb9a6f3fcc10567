import NfaWorkbench.Proofs.Graph.Consistency
set_option autoImplicit false

/-!
# Graph: removing

Removing transitions from a consistent graph restricts it to those that are kept: in the registry
and in what every state keeps.  Restrictions compose, so removing several transitions one after
another is one restriction, whatever the order.  Removing a state restricts the graph to the
transitions that do not touch it and then drops the state.
-/

namespace NfaWorkbench

/-- A state without the transitions that are not kept. -/
def State.keepLinks (keep : TransitionId → Bool) (state : State) : State :=
  { state with
    outgoing := state.outgoing.filter keep
    incoming := state.incoming.filter keep }

namespace Graph

variable {g : Graph}

/-- The graph with those of its transitions only that are kept. -/
def keepTransitions (g : Graph) (keep : TransitionId → Bool) : Graph :=
  { g with
    transitions := g.transitions.filter fun e => keep e.1
    states := g.states.mapValues (State.keepLinks keep) }

theorem keepTransitions_keepTransitions (p q : TransitionId → Bool) :
    (g.keepTransitions p).keepTransitions q = g.keepTransitions fun t => p t && q t := by
  simp only [keepTransitions, Registry.mapValues, List.map_map, List.filter_filter]
  congr 1
  · apply List.map_congr_left
    intro e _
    simp only [Function.comp_apply, State.keepLinks, List.filter_filter]
    simp only [Bool.and_comm]
  · simp only [Bool.and_comm]

theorem mem_keepTransitions_iff {keep : TransitionId → Bool} {t : TransitionId}
    {transition : Transition} : (t, transition) ∈ (g.keepTransitions keep).transitions ↔
      (t, transition) ∈ g.transitions ∧ keep t = true := by
  simp [keepTransitions]

theorem ids_keepTransitions_states (keep : TransitionId → Bool) :
    (g.keepTransitions keep).states.ids = g.states.ids :=
  Registry.ids_mapValues g.states

theorem ids_keepTransitions (keep : TransitionId → Bool) :
    (g.keepTransitions keep).transitions.ids = g.transitions.ids.filter keep := by
  simp only [keepTransitions, Registry.ids, List.filter_map]
  rfl

theorem idsWhere_keepTransitions (keep : TransitionId → Bool) (p : Transition → Bool) :
    (g.keepTransitions keep).transitions.idsWhere p = (g.transitions.idsWhere p).filter keep :=
  Registry.idsWhere_filter g.transitions keep p

theorem Wired.keepTransitions (hg : g.Wired) (keep : TransitionId → Bool) :
    (g.keepTransitions keep).Wired := by
  have hsub : (g.keepTransitions keep).transitions.ids.Sublist g.transitions.ids :=
    List.filter_sublist.map _
  constructor
  · exact hg.transitions_ascending.sublist hsub
  · intro t ht
    exact hg.transition_issued t (hsub.subset ht)
  · intro t transition ht
    rw [ids_keepTransitions_states]
    exact hg.endpoints t transition (mem_keepTransitions_iff.1 ht).1
  · intro t transition word ht
    exact hg.label_valid t transition word (mem_keepTransitions_iff.1 ht).1
  · intro t u transition ht hu
    exact hg.edge_unique t u transition (mem_keepTransitions_iff.1 ht).1
      (mem_keepTransitions_iff.1 hu).1

theorem Linked.keepTransitions (hg : g.Linked) (keep : TransitionId → Bool) :
    (g.keepTransitions keep).Linked := by
  constructor
  · intro s state hs
    obtain ⟨old, hold, rfl⟩ := Registry.mem_mapValues_iff.1 hs
    rw [idsWhere_keepTransitions, ← hg.outgoing_eq s old hold, State.keepLinks]
  · intro s state hs
    obtain ⟨old, hold, rfl⟩ := Registry.mem_mapValues_iff.1 hs
    rw [idsWhere_keepTransitions, ← hg.incoming_eq s old hold, State.keepLinks]

theorem Consistent.keepTransitions (hg : g.Consistent) (keep : TransitionId → Bool) :
    (g.keepTransitions keep).Consistent where
  toNamed := by
    refine hg.toNamed.congr rfl rfl rfl ?_
    simp only [Graph.keepTransitions, Registry.mapValues, List.map_map]
    rfl
  toWired := hg.toWired.keepTransitions keep
  toLinked := hg.toLinked.keepTransitions keep
  idle := by
    intro hactive s state hs
    obtain ⟨old, hold, rfl⟩ := Registry.mem_mapValues_iff.1 hs
    exact hg.idle hactive s old hold

/-! ## Removing transitions -/

/-- A state keeps members only. -/
theorem Linked.outgoing_subset (hg : g.Linked) {s : StateId} {state : State}
    (hs : (s, state) ∈ g.states) : ∀ t ∈ state.outgoing,
      ∃ transition, (t, transition) ∈ g.transitions ∧ transition.source = s := by
  intro t ht
  rw [hg.outgoing_eq s state hs, Registry.mem_idsWhere_iff] at ht
  simpa using ht

theorem Linked.incoming_subset (hg : g.Linked) {s : StateId} {state : State}
    (hs : (s, state) ∈ g.states) : ∀ t ∈ state.incoming,
      ∃ transition, (t, transition) ∈ g.transitions ∧ transition.target = s := by
  intro t ht
  rw [hg.incoming_eq s state hs, Registry.mem_idsWhere_iff] at ht
  simpa using ht

/-- Keeping all members keeps everything. -/
theorem Linked.keepTransitions_eq_self (hg : g.Linked) {keep : TransitionId → Bool}
    (hkeep : ∀ t ∈ g.transitions.ids, keep t = true) : g.keepTransitions keep = g := by
  have htransitions : g.transitions.filter (fun e => keep e.1) = g.transitions :=
    List.filter_eq_self.2 fun e he => hkeep _ (Registry.mem_ids_of_mem he)
  have hstates : g.states.mapValues (State.keepLinks keep) = g.states := by
    refine (List.map_congr_left ?_).trans (List.map_id _)
    rintro ⟨s, state⟩ hs
    have hout : state.outgoing.filter keep = state.outgoing := by
      refine List.filter_eq_self.2 fun t ht => ?_
      obtain ⟨transition, hmem, _⟩ := hg.outgoing_subset hs t ht
      exact hkeep t (Registry.mem_ids_of_mem hmem)
    have hin : state.incoming.filter keep = state.incoming := by
      refine List.filter_eq_self.2 fun t ht => ?_
      obtain ⟨transition, hmem, _⟩ := hg.incoming_subset hs t ht
      exact hkeep t (Registry.mem_ids_of_mem hmem)
    simp [State.keepLinks, hout, hin]
  simp only [Graph.keepTransitions, htransitions, hstates]

/-- A state at neither end of a transition does not keep it. -/
theorem Wired.filter_ne_eq_self (hg : g.Wired) {t : TransitionId} {transition : Transition}
    (ht : (t, transition) ∈ g.transitions) {f : Transition → StateId} {s : StateId}
    {links : List TransitionId} (hne : s ≠ f transition)
    (hlinks : ∀ u ∈ links, ∃ other, (u, other) ∈ g.transitions ∧ f other = s) :
    links.filter (· ≠ t) = links := by
  refine List.filter_eq_self.2 fun u hu => ?_
  obtain ⟨other, hother, rfl⟩ := hlinks u hu
  rw [decide_eq_true_eq]
  rintro rfl
  exact hne (by rw [Registry.mem_unique hg.transitionIds_nodup ht hother])

/-- Taking a member out at its two ends is taking it out everywhere. -/
theorem Consistent.eraseTransition_eq (hg : g.Consistent) {t : TransitionId}
    {transition : Transition} (ht : (t, transition) ∈ g.transitions) :
    g.eraseTransition t transition = g.keepTransitions (· ≠ t) := by
  have hstates : (g.eraseTransition t transition).states =
      g.states.mapValues (State.keepLinks (· ≠ t)) := by
    simp only [eraseTransition, Graph.modifyState, Registry.modify, List.map_map,
      Registry.mapValues]
    apply List.map_congr_left
    rintro ⟨s, state⟩ hs
    have hout : s ≠ transition.source → state.outgoing.filter (· ≠ t) = state.outgoing :=
      fun hne => hg.filter_ne_eq_self ht hne (hg.outgoing_subset hs)
    have hin : s ≠ transition.target → state.incoming.filter (· ≠ t) = state.incoming :=
      fun hne => hg.filter_ne_eq_self ht hne (hg.incoming_subset hs)
    by_cases hsource : s = transition.source
    · by_cases htarget : s = transition.target
      · simp only [Function.comp_apply, if_pos hsource, if_pos htarget, State.keepLinks]
      · simp only [Function.comp_apply, if_pos hsource, if_neg htarget, State.keepLinks,
          hin htarget]
    · by_cases htarget : s = transition.target
      · simp only [Function.comp_apply, if_neg hsource, if_pos htarget, State.keepLinks,
          hout hsource]
      · simp only [Function.comp_apply, if_neg hsource, if_neg htarget, State.keepLinks,
          hout hsource, hin htarget]
  rw [Graph.keepTransitions, ← hstates]
  rfl

theorem removeTransition_of_not_mem {t : TransitionId} (ht : t ∉ g.transitions.ids) :
    g.removeTransition t = .none g := by
  have hnone : g.transition? t = none := Registry.get?_eq_none_iff.2 ht
  rw [Graph.removeTransition, hnone]

/-- Removing a transition keeps all the others; an identifier that is no member removes nothing. -/
theorem Consistent.removeTransition_graph (hg : g.Consistent) (t : TransitionId) :
    (g.removeTransition t).graph = g.keepTransitions (· ≠ t) := by
  unfold removeTransition
  split
  · rename_i hnone
    have hout : t ∉ g.transitions.ids := Registry.get?_eq_none_iff.1 hnone
    refine (hg.keepTransitions_eq_self fun u hu => ?_).symm
    simp only [decide_eq_true_eq]
    rintro rfl
    exact hout hu
  · rename_i transition hsome
    exact hg.eraseTransition_eq (hg.transition?_eq_some_iff.1 hsome)

theorem Consistent.each_removeTransition_graph (hg : g.Consistent) (ts : List TransitionId) :
    (Change.each removeTransition ts g).graph = g.keepTransitions (· ∉ ts) := by
  induction ts generalizing g with
  | nil => exact (hg.keepTransitions_eq_self (by simp)).symm
  | cons t ts ih =>
    have hstep := hg.removeTransition_graph t
    simp only [Change.each, Change.andThen, hstep]
    rw [ih (hg.keepTransitions _), keepTransitions_keepTransitions]
    simp [not_or]

/-! ## Removing a state -/

/-- The graph without a state and without the transitions that touch it. -/
def withoutState (g : Graph) (s : StateId) (state : State) : Graph :=
  ((g.keepTransitions (· ∉ g.touching state)).dropState s state.name).graph

theorem Consistent.mem_touching_iff (hg : g.Consistent) {s : StateId} {state : State}
    (hs : (s, state) ∈ g.states) {t : TransitionId} : t ∈ g.touching state ↔
      ∃ transition, (t, transition) ∈ g.transitions ∧
        (transition.source = s ∨ transition.target = s) := by
  simp only [touching, List.mem_filter, Bool.or_eq_true, List.contains_iff_mem]
  constructor
  · intro hgiven
    obtain ⟨_, hout | hin⟩ := hgiven
    · obtain ⟨transition, ht, hsource⟩ := hg.outgoing_subset hs t hout
      exact ⟨transition, ht, .inl hsource⟩
    · obtain ⟨transition, ht, htarget⟩ := hg.incoming_subset hs t hin
      exact ⟨transition, ht, .inr htarget⟩
  · intro hgiven
    obtain ⟨transition, ht, hend⟩ := hgiven
    refine ⟨Registry.mem_ids_of_mem ht, ?_⟩
    rw [hg.outgoing_eq s state hs, hg.incoming_eq s state hs, Registry.mem_idsWhere_iff,
      Registry.mem_idsWhere_iff]
    rcases hend with hsource | htarget
    · exact .inl ⟨transition, ht, by simpa using hsource⟩
    · exact .inr ⟨transition, ht, by simpa using htarget⟩

/-- A transition is one of those that touch a state exactly if one of its ends is that state. -/
theorem Consistent.mem_touching_iff_of_mem (hg : g.Consistent) {s : StateId} {state : State}
    (hs : (s, state) ∈ g.states) {t : TransitionId} {transition : Transition}
    (ht : (t, transition) ∈ g.transitions) :
    t ∈ g.touching state ↔ transition.source = s ∨ transition.target = s := by
  rw [hg.mem_touching_iff hs]
  constructor
  · intro hgiven
    obtain ⟨other, hother, hend⟩ := hgiven
    rwa [Registry.mem_unique hg.transitionIds_nodup ht hother]
  · intro hend
    exact ⟨transition, ht, hend⟩

theorem Consistent.removeState_graph (hg : g.Consistent) {s : StateId} {state : State}
    (hs : (s, state) ∈ g.states) : (g.removeState s).graph = g.withoutState s state := by
  rw [removeState, hg.state?_eq_some_iff.2 hs]
  simp only [Change.andThen, hg.each_removeTransition_graph]
  rfl

theorem removeState_of_not_mem {s : StateId} (hs : s ∉ g.states.ids) :
    g.removeState s = .none g := by
  have hnone : g.state? s = none := Registry.get?_eq_none_iff.2 hs
  rw [removeState, hnone]

theorem Named.dropState (hg : g.Named) {s : StateId} {state : State} {name : String}
    (hs : (s, state) ∈ g.states) (hname : state.name = name) :
    (g.dropState s name).graph.Named := by
  subst hname
  have hsub : (g.states.erase s).ids.Sublist g.states.ids := List.filter_sublist.map _
  constructor
  · exact hg.states_ascending.sublist hsub
  · intro t ht
    exact hg.state_issued t (hsub.subset ht)
  · intro t other ht
    exact hg.name_valid t other (Registry.mem_erase_iff.1 ht).1
  · intro name t
    have hindex : (g.dropState s state.name).graph.findState name =
        if state.name = name then none else g.findState name := by
      simp [findState, Graph.dropState, Std.ExtTreeMap.getElem?_erase]
    rw [hindex]
    simp only [Graph.dropState, Registry.mem_erase_iff]
    split
    · rename_i heq
      simp only [reduceCtorEq, false_iff, not_exists, not_and]
      rintro other ⟨ht, hne⟩ hname
      exact hne (hg.id_unique ht hs (hname.trans heq.symm))
    · rename_i hne
      rw [hg.findState_eq_some_iff]
      constructor
      · intro hgiven
        obtain ⟨other, ht, hname⟩ := hgiven
        refine ⟨other, ⟨ht, ?_⟩, hname⟩
        rintro rfl
        exact hne (by rw [← hname, hg.state_unique ht hs])
      · intro hgiven
        obtain ⟨other, ⟨ht, _⟩, hname⟩ := hgiven
        exact ⟨other, ht, hname⟩

theorem Consistent.withoutState (hg : g.Consistent) {s : StateId} {state : State}
    (hs : (s, state) ∈ g.states) : (g.withoutState s state).Consistent := by
  have hkept := hg.keepTransitions (· ∉ g.touching state)
  have hmem : (s, state.keepLinks (· ∉ g.touching state)) ∈
      (g.keepTransitions (· ∉ g.touching state)).states :=
    Registry.mem_mapValues_iff.2 ⟨state, hs, rfl⟩
  refine ⟨hkept.toNamed.dropState hmem rfl, ?_, ?_, ?_⟩
  · refine ⟨hkept.transitions_ascending, hkept.transition_issued, ?_, hkept.label_valid,
      hkept.edge_unique⟩
    intro t transition ht
    -- Both ends were states before, and neither is the one that is dropped.
    have hends := hkept.endpoints t transition ht
    obtain ⟨hold, hfree⟩ := mem_keepTransitions_iff.1
      (show (t, transition) ∈ (g.keepTransitions (· ∉ g.touching state)).transitions from ht)
    rw [decide_eq_true_eq, hg.mem_touching_iff hs] at hfree
    simp only [Graph.withoutState, dropState, Registry.ids_erase, List.mem_filter,
      decide_eq_true_eq]
    exact ⟨⟨hends.1, fun heq => hfree ⟨transition, hold, .inl heq⟩⟩,
      ⟨hends.2, fun heq => hfree ⟨transition, hold, .inr heq⟩⟩⟩
  · constructor
    · intro t other ht
      exact hkept.outgoing_eq t other (Registry.mem_erase_iff.1 ht).1
    · intro t other ht
      exact hkept.incoming_eq t other (Registry.mem_erase_iff.1 ht).1
  · intro hactive t other ht
    exact hkept.idle hactive t other (Registry.mem_erase_iff.1 ht).1

end Graph

end NfaWorkbench
