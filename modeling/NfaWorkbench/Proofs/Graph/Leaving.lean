import NfaWorkbench.Proofs.Handles
set_option autoImplicit false

/-!
# Graph: what removals leave

What is left of a graph when some members are removed, said without removing them (`Leaves`): the
states that are not listed, and the transitions of which neither they themselves nor an end of theirs
is listed.  There is one such graph at most.  What is left of what is left is what both removals
leave, so a list of removals comes down to its members, in whatever order and however often they are
listed.
-/

namespace NfaWorkbench

/-- The operation that removes a member. -/
def Handle.removal : Handle → Automaton.Operation
  | state s => .removeState s
  | transition t => .removeTransition t

theorem State.keepLinks_keepLinks (p q : TransitionId → Bool) (state : State) :
    (state.keepLinks p).keepLinks q = state.keepLinks fun t => p t && q t := by
  simp only [State.keepLinks, List.filter_filter, Bool.and_comm]

namespace Graph

variable {g k m : Graph} {gone others : List Handle}

/-- A transition stays when some members are removed: neither it nor one of its ends is among
them. -/
def IsSpared (gone : List Handle) (t : TransitionId) (e : Transition) : Prop :=
  .transition t ∉ gone ∧ .state e.source ∉ gone ∧ .state e.target ∉ gone

instance (gone : List Handle) (t : TransitionId) (e : Transition) : Decidable (IsSpared gone t e) :=
  inferInstanceAs (Decidable (_ ∧ _ ∧ _))

/-- If some members are removed from the graph `g`, it is `k` that is left. -/
structure Leaves (g : Graph) (gone : List Handle) (k : Graph) : Prop where
  transitions_eq : k.transitions = g.transitions.filter fun e => IsSpared gone e.1 e.2
  /-- A state that stays is what it was, up to its links to transitions that have gone. -/
  states_eq : k.states = Registry.mapValues (State.keepLinks (· ∈ k.transitions.ids))
    (g.states.filter fun e => .state e.1 ∉ gone)
  names_eq : k.names = g.names.filter fun _ s => .state s ∉ gone
  owner_eq : k.owner = g.owner
  active_eq : k.active = g.active
  nextState_eq : k.nextState = g.nextState
  nextTransition_eq : k.nextTransition = g.nextTransition

theorem Leaves.unique (hk : g.Leaves gone k) (hm : g.Leaves gone m) : k = m := by
  have htransitions : k.transitions = m.transitions :=
    hk.transitions_eq.trans hm.transitions_eq.symm
  have hstates : k.states = m.states := by rw [hk.states_eq, hm.states_eq, htransitions]
  have hnames := hk.names_eq.trans hm.names_eq.symm
  have howner := hk.owner_eq.trans hm.owner_eq.symm
  have hactive := hk.active_eq.trans hm.active_eq.symm
  have hnextState := hk.nextState_eq.trans hm.nextState_eq.symm
  have hnextTransition := hk.nextTransition_eq.trans hm.nextTransition_eq.symm
  cases k
  cases m
  simp_all only

/-- Which members are listed decides what is left, not in which order or how often. -/
theorem Leaves.congr (h : g.Leaves gone k) (hsame : ∀ x, x ∈ others ↔ x ∈ gone) :
    g.Leaves others k := by
  have hspared : ∀ t e, IsSpared others t e ↔ IsSpared gone t e := by
    intro t e
    simp only [IsSpared, hsame]
  constructor
  · simpa only [hspared] using h.transitions_eq
  · simpa only [hsame] using h.states_eq
  · simpa only [hsame] using h.names_eq
  · exact h.owner_eq
  · exact h.active_eq
  · exact h.nextState_eq
  · exact h.nextTransition_eq

/-! ## What is left of what is left -/

theorem isSpared_append_iff {t : TransitionId} {e : Transition} :
    IsSpared (gone ++ others) t e ↔ IsSpared gone t e ∧ IsSpared others t e := by
  simp only [IsSpared, List.mem_append, not_or]
  tauto

theorem Leaves.trans (hk : g.Leaves gone k) (hm : k.Leaves others m) :
    g.Leaves (gone ++ others) m := by
  have hids : m.transitions.ids ⊆ k.transitions.ids := by
    rw [hm.transitions_eq]
    exact (List.filter_sublist.map _).subset
  have hlinks : ∀ t, (decide (t ∈ k.transitions.ids) && decide (t ∈ m.transitions.ids)) =
      decide (t ∈ m.transitions.ids) := by
    intro t
    rw [Bool.and_eq_right_iff_imp, decide_eq_true_eq, decide_eq_true_eq]
    exact fun ht => hids ht
  constructor
  · rw [hm.transitions_eq, hk.transitions_eq, List.filter_filter]
    simp [isSpared_append_iff, Bool.and_comm]
  · rw [hm.states_eq, hk.states_eq,
      ← Registry.mapValues_filter _ fun s => decide (Handle.state s ∉ others),
      Registry.mapValues_mapValues, List.filter_filter]
    simp only [State.keepLinks_keepLinks, hlinks, List.mem_append, not_or, Bool.decide_and,
      Bool.and_comm]
  · rw [hm.names_eq, hk.names_eq]
    refine Std.ExtTreeMap.ext_getElem? fun name => ?_
    simp only [Std.ExtTreeMap.getElem?_filter', Option.filter_filter, List.mem_append, not_or,
      Bool.decide_and]
  · exact hm.owner_eq.trans hk.owner_eq
  · exact hm.active_eq.trans hk.active_eq
  · exact hm.nextState_eq.trans hk.nextState_eq
  · exact hm.nextTransition_eq.trans hk.nextTransition_eq

/-! ## Removing one member -/

/-- Of its links a state keeps those to members, whatever is said of the others. -/
theorem Linked.keepLinks_congr (hg : g.Linked) {s : StateId} {state : State}
    (hs : (s, state) ∈ g.states) {p q : TransitionId → Bool}
    (h : ∀ t ∈ g.transitions.ids, p t = q t) : state.keepLinks p = state.keepLinks q := by
  have hout : state.outgoing.filter p = state.outgoing.filter q := by
    refine List.filter_congr fun t ht => ?_
    obtain ⟨e, he, -⟩ := hg.outgoing_subset hs t ht
    exact h t (Registry.mem_ids_of_mem he)
  have hin : state.incoming.filter p = state.incoming.filter q := by
    refine List.filter_congr fun t ht => ?_
    obtain ⟨e, he, -⟩ := hg.incoming_subset hs t ht
    exact h t (Registry.mem_ids_of_mem he)
  rw [State.keepLinks, State.keepLinks, hout, hin]

/-- What is no member can be removed without a trace. -/
theorem Consistent.leaves_of_not_mem (hg : g.Consistent) (h : ∀ x ∈ gone, x ∉ g.handles) :
    g.Leaves gone g := by
  have hstate : ∀ s ∈ g.states.ids, Handle.state s ∉ gone := fun s hs hgone =>
    h _ hgone (state_mem_handles_iff.2 hs)
  constructor
  · refine (List.filter_eq_self.2 fun e he => ?_).symm
    obtain ⟨hsource, htarget⟩ := hg.endpoints e.1 e.2 he
    rw [decide_eq_true_eq]
    refine ⟨fun hgone => h _ hgone ?_, hstate _ hsource, hstate _ htarget⟩
    exact transition_mem_handles_iff.2 (Registry.mem_ids_of_mem he)
  · have hkept : g.states.filter (fun e => Handle.state e.1 ∉ gone) = g.states :=
      List.filter_eq_self.2 fun e he => decide_eq_true (hstate _ (Registry.mem_ids_of_mem he))
    have hsame : Graph.keepTransitions g (· ∈ g.transitions.ids) = g :=
      hg.keepTransitions_eq_self (by simp)
    rw [hkept]
    exact (congrArg Graph.states hsame).symm
  · refine Std.ExtTreeMap.ext_getElem? fun name => ?_
    rw [Std.ExtTreeMap.getElem?_filter']
    cases hname : g.names[name]? with
    | none => rfl
    | some s =>
      obtain ⟨state, hs, -⟩ := (hg.findState_eq_some_iff name s).1 hname
      have hkept := hstate s (Registry.mem_ids_of_mem hs)
      rw [Option.filter_some, if_pos (by simpa using hkept)]
  · rfl
  · rfl
  · rfl
  · rfl

theorem Consistent.leaves_of_not_issued (hg : g.Consistent) {x : Handle} (h : ¬g.HasIssued x) :
    g.Leaves [x] g := by
  refine hg.leaves_of_not_mem fun y hy hmem => ?_
  obtain rfl := List.mem_singleton.1 hy
  exact h (hg.hasIssued_of_mem hmem)

theorem filter_names_of_forall {keep : StateId → Bool} (h : ∀ s, keep s = true) :
    (g.names.filter fun _ s => keep s) = g.names := by
  refine Std.ExtTreeMap.ext_getElem? fun name => ?_
  rw [Std.ExtTreeMap.getElem?_filter']
  cases g.names[name]? <;> simp [h]

theorem Consistent.leaves_removeTransition (hg : g.Consistent) (t : TransitionId) :
    g.Leaves [.transition t] (g.removeTransition t).graph := by
  rw [hg.removeTransition_graph]
  have hstate : ∀ s, decide (Handle.state s ∉ [Handle.transition t]) = true := by simp
  have hids := ids_keepTransitions (g := g) (· ≠ t)
  constructor
  · simp only [Graph.keepTransitions]
    refine List.filter_congr fun e _ => ?_
    simp [IsSpared]
  · simp only [hstate, List.filter_true, hids]
    refine List.map_congr_left fun e he => ?_
    rw [hg.keepLinks_congr he fun u hu => ?_]
    simp [hu]
  · exact (filter_names_of_forall hstate).symm
  · rfl
  · rfl
  · rfl
  · rfl

/-- The index forgets the name of a state that goes, and no other. -/
theorem Named.names_erase (hg : g.Named) {s : StateId} {state : State}
    (hs : (s, state) ∈ g.states) :
    g.names.erase state.name = g.names.filter fun _ u => Handle.state u ∉ [Handle.state s] := by
  refine Std.ExtTreeMap.ext_getElem? fun name => ?_
  rw [Std.ExtTreeMap.getElem?_erase, Std.ExtTreeMap.getElem?_filter']
  cases hname : g.names[name]? with
  | none => simp
  | some u =>
    obtain ⟨other, hu, rfl⟩ := (hg.findState_eq_some_iff name u).1 hname
    simp [Option.filter_some, hg.name_eq_iff hs hu, eq_comm (a := s)]

theorem Consistent.leaves_removeState (hg : g.Consistent) (s : StateId) :
    g.Leaves [.state s] (g.removeState s).graph := by
  by_cases hs : s ∈ g.states.ids
  · obtain ⟨state, hstate⟩ := Registry.mem_ids_iff.1 hs
    have htransitions : (g.withoutState s state).transitions =
        g.transitions.filter fun e => IsSpared [.state s] e.1 e.2 := by
      refine List.filter_congr fun e he => ?_
      simp [IsSpared, hg.mem_touching_iff_of_mem hstate he]
    have hids : (g.withoutState s state).transitions.ids =
        g.transitions.ids.filter (· ∉ g.touching state) := by
      rw [Graph.withoutState, dropState, ids_keepTransitions]
    have hkept : g.states.filter (fun e => Handle.state e.1 ∉ [Handle.state s]) =
        g.states.filter fun e => e.1 ≠ s := List.filter_congr fun e _ => by simp
    rw [hg.removeState_graph hstate]
    refine ⟨htransitions, ?_, hg.names_erase hstate, rfl, rfl, rfl, rfl⟩
    rw [hids, hkept]
    refine (Registry.mapValues_filter g.states (· ≠ s)).symm.trans ?_
    refine List.map_congr_left fun e he => ?_
    rw [hg.keepLinks_congr (List.mem_of_mem_filter he) fun t ht => ?_]
    simp [ht]
  · rw [removeState_of_not_mem hs]
    refine hg.leaves_of_not_mem fun x hx => ?_
    obtain rfl := List.mem_singleton.1 hx
    rwa [state_mem_handles_iff]

/-! ## What is added and goes again

Whatever is done to members that are to go leaves no trace, and neither do new members that are to
go themselves. -/

theorem Leaves.modifyState (h : g.Leaves gone k) {s : StateId} (hs : .state s ∈ gone)
    (f : State → State) : (g.modifyState s f).Leaves gone k where
  transitions_eq := h.transitions_eq
  states_eq := by
    have hfilter : (g.modifyState s f).states.filter (fun e => Handle.state e.1 ∉ gone) =
        g.states.filter fun e => Handle.state e.1 ∉ gone :=
      Registry.filter_modify_of_not (p := fun u => Handle.state u ∉ gone) (by simpa using hs) _ _
    rw [hfilter]
    exact h.states_eq
  names_eq := h.names_eq
  owner_eq := h.owner_eq
  active_eq := h.active_eq
  nextState_eq := h.nextState_eq
  nextTransition_eq := h.nextTransition_eq

theorem Leaves.addState (h : g.Leaves gone k) (hs : .state g.nextStateId ∈ gone) {name : String}
    (hfree : g.names.contains name = false) (position : Position) :
    (g.addState name position).Leaves gone { k with nextState := k.nextState + 1 } where
  transitions_eq := h.transitions_eq
  states_eq := by
    have hfilter : (g.addState name position).states.filter (fun e => Handle.state e.1 ∉ gone) =
        g.states.filter fun e => Handle.state e.1 ∉ gone := by
      simp [Graph.addState, Registry.add, hs]
    rw [hfilter]
    exact h.states_eq
  names_eq := by
    rw [h.names_eq]
    refine Std.ExtTreeMap.ext_getElem? fun word => ?_
    simp only [Graph.addState, Std.ExtTreeMap.getElem?_filter', Std.ExtTreeMap.getElem?_insert]
    split
    · rename_i hword
      obtain rfl : name = word := by simpa using hword
      have hnone := Std.ExtTreeMap.getElem?_eq_none_of_contains_eq_false hfree
      rw [hnone, Option.filter_some, if_neg (by simpa using hs)]
      rfl
    · rfl
  owner_eq := h.owner_eq
  active_eq := h.active_eq
  nextState_eq := congrArg (· + 1) h.nextState_eq
  nextTransition_eq := h.nextTransition_eq

theorem Leaves.addTransition (hg : g.Wired) (h : g.Leaves gone k) {source target : StateId}
    {label : Option String}
    (hgone : ¬IsSpared gone g.nextTransitionId ⟨source, target, label⟩) :
    (g.addTransition source target label).Leaves gone
      { k with nextTransition := k.nextTransition + 1 } where
  transitions_eq := by
    rw [h.transitions_eq]
    simp [Graph.addTransition, Registry.add, hgone]
  states_eq := by
    have hnew : g.nextTransitionId ∉ k.transitions.ids := by
      rw [h.transitions_eq]
      intro hmem
      have hold := (List.filter_sublist.map _).subset hmem
      exact Nat.lt_irrefl _ (hg.transition_issued _ hold).2
    have hview : (g.addTransition source target label).states.mapValues
        (State.keepLinks (· ∈ k.transitions.ids)) =
        g.states.mapValues (State.keepLinks (· ∈ k.transitions.ids)) := by
      simp only [Graph.addTransition, Graph.modifyState]
      rw [Registry.mapValues_modify, Registry.mapValues_modify]
      · simp [State.keepLinks, hnew]
      · simp [State.keepLinks, hnew]
    rw [Registry.mapValues_filter _ fun s => decide (Handle.state s ∉ gone), hview,
      ← Registry.mapValues_filter _ fun s => decide (Handle.state s ∉ gone)]
    exact h.states_eq
  names_eq := h.names_eq
  owner_eq := h.owner_eq
  active_eq := h.active_eq
  nextState_eq := h.nextState_eq
  nextTransition_eq := congrArg (· + 1) h.nextTransition_eq

/-- A new state goes without a trace. -/
theorem Consistent.leaves_addState (hg : g.Consistent) {name : String}
    (hfree : g.names.contains name = false) (position : Position) :
    (g.addState name position).Leaves [.state g.nextStateId]
      { g with nextState := g.nextState + 1 } := by
  have hnew : ¬g.HasIssued (.state g.nextStateId) := fun hissued => Nat.lt_irrefl _ hissued.2
  exact (hg.leaves_of_not_issued hnew).addState List.mem_cons_self hfree position

/-- A new transition goes without a trace. -/
theorem Consistent.leaves_addTransition (hg : g.Consistent) (source target : StateId)
    (label : Option String) :
    (g.addTransition source target label).Leaves [.transition g.nextTransitionId]
      { g with nextTransition := g.nextTransition + 1 } := by
  have hnew : ¬g.HasIssued (.transition g.nextTransitionId) := fun hissued =>
    Nat.lt_irrefl _ hissued.2
  exact (hg.leaves_of_not_issued hnew).addTransition hg.toWired (by simp [IsSpared])

end Graph

end NfaWorkbench
