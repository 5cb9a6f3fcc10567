import NfaWorkbench.Proofs.Outcome
import NfaWorkbench.Proofs.Refusal
import NfaWorkbench.Proofs.Simulation.Flips
set_option autoImplicit false

/-!
# Announcements

What the notifications of an operation tell someone who hears all of them.  Whatever changes is
announced (`TellsChanges`), and everything that leaves the graph is taken leave of once
(`TellsRemovals`).  The first holds of an edit because it says itself what it edits, and of the
simulation because each flip is announced by the write that flips.
-/

namespace NfaWorkbench

namespace Notification

/-- What is announced right after the removal of one state or transition. -/
def follower? : Notification → Option Notification
  | state _ .removed => some .statesChanged
  | transitionRemoved _ => some .transitionsChanged
  | _ => none

/-- After the removal of one state or transition it is announced at once that the states or the
transitions have changed. -/
def Followed (notes : List Notification) : Prop :=
  ∀ before note after next, notes = before ++ note :: after → note.follower? = some next →
    after.head? = some next

theorem followed_cons_iff {note : Notification} {rest : List Notification} :
    Followed (note :: rest) ↔
      (∀ next, note.follower? = some next → rest.head? = some next) ∧ Followed rest := by
  constructor
  · intro h
    refine ⟨fun next => h [] note rest next rfl, ?_⟩
    rintro before other after next rfl
    exact h (note :: before) other after next rfl
  · rintro ⟨hfirst, hrest⟩ before other after next hnotes
    cases before with
    | nil =>
      obtain ⟨rfl, rfl⟩ := List.cons.inj hnotes
      exact hfirst next
    | cons first before => exact hrest before other after next (List.cons.inj hnotes).2

theorem followed_of_forall {notes : List Notification} (h : ∀ note ∈ notes, note.follower? = none) :
    Followed notes := by
  rintro before note after next rfl hnext
  simp [h note (by simp)] at hnext

/-- What the simulation sends: that a flag flipped, and that it has moved on. -/
def IsStatus (note : Notification) : Prop :=
  note = .simulationChanged ∨ ∃ s, note = .state s .current

theorem IsStatus.follower?_eq_none {note : Notification} (h : note.IsStatus) :
    note.follower? = none := by
  obtain rfl | ⟨s, rfl⟩ := h <;> rfl

end Notification

/-- What a state is apart from its name and its transitions. -/
def State.attributes (v : State) : Position × Bool × Bool × Bool :=
  (v.position, v.initial, v.final, v.current)

namespace Change

variable {c : Change}

/-- A change sends nothing but what the simulation sends. -/
def SendsStatus (c : Change) : Prop := ∀ note ∈ c.notes, note.IsStatus

theorem sendsStatus_none (g : Graph) : (none g).SendsStatus := by
  simp [SendsStatus, none]

theorem SendsFlips.sendsStatus (hc : c.SendsFlips) : c.SendsStatus :=
  fun note hnote => .inr (hc note hnote)

theorem SendsStatus.notify (hc : c.SendsStatus) : (c.notify .simulationChanged).SendsStatus :=
  List.forall_mem_append.2 ⟨hc, by simp [Notification.IsStatus]⟩

end Change

namespace Graph

variable {g k : Graph} {c : Change} {notes : List Notification}

/-! ## What there is to be told -/

/-- Whatever is different in `k` than it was in `g` is announced. -/
structure TellsChanges (g k : Graph) (notes : List Notification) : Prop where
  states : k.states.mapValues (·.name) ≠ g.states.mapValues (·.name) → .statesChanged ∈ notes
  transitions : k.transitions ≠ g.transitions → .transitionsChanged ∈ notes
  active : k.active ≠ g.active → .simulationChanged ∈ notes
  attributes : ∀ s v w, (s, v) ∈ g.states → (s, w) ∈ k.states →
    (w.position ≠ v.position → .state s .position ∈ notes) ∧
    (w.initial ≠ v.initial → .state s .initial ∈ notes) ∧
    (w.final ≠ v.final → .state s .final ∈ notes)
  /-- Each announcement of a current flag tells of a flip. -/
  current : ∀ s v w, (s, v) ∈ g.states → (s, w) ∈ k.states →
    (Odd (notes.count (.state s .current)) ↔ w.current ≠ v.current)

/-- What was in `g` and is not in `k` is taken leave of once, and nothing else is. -/
structure TellsRemovals (g k : Graph) (notes : List Notification) : Prop where
  removedStates : ∀ s, notes.count (.state s .removed) =
    if s ∈ g.states.ids ∧ s ∉ k.states.ids then 1 else 0
  removedTransitions : ∀ t, notes.count (.transitionRemoved t) =
    if t ∈ g.transitions.ids ∧ t ∉ k.transitions.ids then 1 else 0
  followed : Notification.Followed notes

/-- The notifications of a change tell all that there is to be told of it. -/
structure Tells (g : Graph) (c : Change) : Prop
    extends TellsChanges g c.graph c.notes, TellsRemovals g c.graph c.notes

/-- Where everything stays no removal is announced. -/
theorem tellsRemovals_of_subset (hquiet : ∀ note ∈ notes, note.follower? = none)
    (hstates : g.states.ids ⊆ k.states.ids) (htransitions : g.transitions.ids ⊆ k.transitions.ids) :
    TellsRemovals g k notes where
  removedStates s := by
    rw [if_neg fun hgone => hgone.2 (hstates hgone.1), List.count_eq_zero]
    intro hs
    simpa [Notification.follower?] using hquiet _ hs
  removedTransitions t := by
    rw [if_neg fun hgone => hgone.2 (htransitions hgone.1), List.count_eq_zero]
    intro ht
    simpa [Notification.follower?] using hquiet _ ht
  followed := Notification.followed_of_forall hquiet

/-- A change of members says so, and leaves the attributes of those that stay alone. -/
theorem tellsChanges_of_attributes_eq
    (hattributes : ∀ s v w, (s, v) ∈ g.states → (s, w) ∈ k.states → w.attributes = v.attributes)
    (hcurrent : ∀ s, .state s .current ∉ notes) (hactive : k.active = g.active)
    (hstates : k.states.mapValues (·.name) ≠ g.states.mapValues (·.name) → .statesChanged ∈ notes)
    (htransitions : k.transitions ≠ g.transitions → .transitionsChanged ∈ notes) :
    TellsChanges g k notes where
  states := hstates
  transitions := htransitions
  active hne := absurd hactive hne
  attributes s v w hv hw := by
    have hsame := hattributes s v w hv hw
    simp only [State.attributes, Prod.mk.injEq] at hsame
    simp [hsame]
  current s v w hv hw := by
    have hsame := hattributes s v w hv hw
    simp only [State.attributes, Prod.mk.injEq] at hsame
    simp [List.count_eq_zero.2 (hcurrent s), hsame]

theorem tells_none (hg : g.Named) : g.Tells (.none g) where
  toTellsChanges := by
    refine tellsChanges_of_attributes_eq ?_ (by simp [Change.none]) rfl (absurd rfl) (absurd rfl)
    intro s v w hv hw
    rw [hg.state_unique hv hw]
  toTellsRemovals :=
    tellsRemovals_of_subset (by simp [Change.none]) (List.Subset.refl _) (List.Subset.refl _)

/-! ## The simulation -/

theorem sendsStatus_close (g : Graph) : g.close.SendsStatus := (sendsFlips_close g).sendsStatus

theorem sendsStatus_reset (g : Graph) : g.reset.SendsStatus :=
  (sendsFlips_flagInitial g).sendsStatus.notify

theorem sendsStatus_step (g : Graph) (event : Option String) : (g.step event).SendsStatus := by
  unfold step
  split
  · cases event with
    | none => exact (sendsStatus_close g).notify
    | some label =>
      exact ((sendsFlips_close g).andThen (sendsFlips_advance _ label)).sendsStatus.notify
  · exact Change.sendsStatus_none g

theorem sendsStatus_recognise (g : Graph) : g.recognise.2.SendsStatus := by
  unfold recognise
  split
  · exact sendsStatus_close g
  · exact Change.sendsStatus_none g

/-- A change of the status tells what it changes if it announces every flip. -/
theorem Named.tells_of_unmarked_eq (hg : g.Named)
    (hframe : c.graph.unmarked = { g with active := c.graph.active }.unmarked)
    (hstatus : c.SendsStatus)
    (hflips : ∀ s, Odd (c.flips s) ↔ ¬(s ∈ c.graph.flaggedStates ↔ s ∈ g.flaggedStates))
    (hactive : c.graph.active ≠ g.active → .simulationChanged ∈ c.notes) : g.Tells c := by
  have hactivated : { g with active := c.graph.active }.Named := hg.congr rfl rfl rfl rfl
  have hnamed : c.graph.Named := hactivated.of_unmarked_eq hframe
  have hids : c.graph.states.ids = g.states.ids :=
    ids_eq_of_unmarked_eq (g := { g with active := c.graph.active }) hframe
  have htransitions : c.graph.transitions = g.transitions :=
    transitions_eq_of_unmarked_eq (g := { g with active := c.graph.active }) hframe
  have hview : c.graph.states.mapValues State.unmarked = g.states.mapValues State.unmarked :=
    congrArg Graph.states hframe
  have hsame : ∀ s v w, (s, v) ∈ g.states → (s, w) ∈ c.graph.states →
      w.unmarked = v.unmarked := by
    intro s v w hv hw
    obtain ⟨old, hold, heq⟩ := Registry.exists_mem_of_mapValues_eq hview hw
    rw [← heq, hg.state_unique hold hv]
  refine ⟨⟨?_, ?_, hactive, ?_, ?_⟩, ?_⟩
  · exact fun hne => absurd (mapValues_eq_of_unmarked_eq hframe fun _ => rfl) hne
  · exact fun hne => absurd htransitions hne
  · intro s v w hv hw
    have hposition := congrArg State.position (hsame s v w hv hw)
    have hinitial := congrArg State.initial (hsame s v w hv hw)
    have hfinal := congrArg State.final (hsame s v w hv hw)
    exact ⟨absurd hposition, absurd hinitial, absurd hfinal⟩
  · intro s v w hv hw
    rw [← Change.flips, hflips s, hg.flagged_iff hv, hnamed.flagged_iff hw, ← Bool.eq_iff_iff]
  · refine tellsRemovals_of_subset (fun note hnote => (hstatus note hnote).follower?_eq_none) ?_ ?_
    · rw [hids]
      exact List.Subset.refl _
    · rw [htransitions]
      exact List.Subset.refl _

theorem FlipsOnce.odd_iff (h : g.FlipsOnce c) (s : StateId) :
    Odd (c.flips s) ↔ ¬(s ∈ c.graph.flaggedStates ↔ s ∈ g.flaggedStates) := by
  rw [h s]
  split
  · rename_i hsame
    simp [hsame]
  · rename_i hdiffers
    simp [hdiffers]

theorem Consistent.tells_reset (hg : g.Consistent) : g.Tells g.reset := by
  have hactive : g.reset.graph.active = true :=
    active_eq_of_unmarked_eq (g := { g with active := true }) (unmarked_reset g)
  refine hg.tells_of_unmarked_eq ?_ (sendsStatus_reset g) hg.flipsOnce_reset.odd_iff fun _ => ?_
  · rw [hactive]
    exact unmarked_reset g
  · simp [Graph.reset, Change.notify]

theorem Consistent.tells_step (hg : g.Consistent) (event : Option String) :
    g.Tells (g.step event) := by
  cases hactive : g.active with
  | false =>
    rw [Graph.step.eq_def, if_neg (by simp [hactive])]
    exact tells_none hg.toNamed
  | true =>
    have hkept := active_eq_of_unmarked_eq (unmarked_step g event)
    refine hg.tells_of_unmarked_eq ?_ (sendsStatus_step g event) ?_ fun hne => absurd hkept hne
    · rw [hkept]
      exact unmarked_step g event
    · intro s
      rw [hg.flips_step hactive event s]
      split
      · rename_i hsame
        split <;> simp [hsame, Nat.not_odd_iff_even]
      · rename_i hdiffers
        simp [hdiffers]

theorem Consistent.tells_recognise (hg : g.Consistent) : g.Tells g.recognise.2 := by
  cases hactive : g.active with
  | false =>
    rw [Graph.recognise, if_neg (by simp [hactive])]
    exact tells_none hg.toNamed
  | true =>
    have hkept := active_eq_of_unmarked_eq (unmarked_recognise g)
    refine hg.tells_of_unmarked_eq ?_ (sendsStatus_recognise g) ?_ fun hne => absurd hkept hne
    · rw [hkept]
      exact unmarked_recognise g
    · rw [Graph.recognise, if_pos hactive]
      exact hg.flipsOnce_close.odd_iff

/-! ## Creating and changing -/

theorem Named.tells_addState (hg : g.Named) {name : String} (hname : IsName name)
    (hfree : g.names.contains name = false) (position : Position) :
    g.Tells ⟨g.addState name position, [.statesChanged]⟩ where
  toTellsChanges := by
    refine tellsChanges_of_attributes_eq ?_ (by simp) rfl (fun _ => by simp) (absurd rfl)
    intro s v w hv hw
    have hkept : (s, v) ∈ (g.addState name position).states := Registry.mem_add_iff.2 (.inl hv)
    rw [(hg.addState hname hfree position).state_unique hw hkept]
  toTellsRemovals := by
    refine tellsRemovals_of_subset (by simp [Notification.follower?]) ?_ (List.Subset.refl _)
    simp [Graph.addState]

theorem Named.tells_addTransition (hg : g.Named) (source target : StateId) (label : Option String) :
    g.Tells ⟨g.addTransition source target label, [.transitionsChanged]⟩ where
  toTellsChanges := by
    refine tellsChanges_of_attributes_eq ?_ (by simp) rfl ?_ (fun _ => by simp)
    · intro s v w hv hw
      obtain ⟨old, hold, rfl⟩ := mem_addTransition_states hw
      rw [hg.state_unique hv hold]
      rfl
    · refine absurd (mapValues_addTransition_states source target label ?_ ?_)
      · exact fun _ _ => rfl
      · exact fun _ _ => rfl
  toTellsRemovals := by
    refine tellsRemovals_of_subset (by simp [Notification.follower?]) ?_ ?_
    · rw [ids_addTransition_states]
      exact List.Subset.refl _
    · simp [addTransition]

theorem Named.tells_modifyState (hg : g.Named) (s : StateId) {aspect : StateAspect}
    {f : State → State} (hf : ShowsIn aspect f) :
    g.Tells ⟨g.modifyState s f, [.state s aspect]⟩ where
  states := absurd (Registry.mapValues_modify _ _ hf.name)
  transitions := absurd rfl
  active := absurd rfl
  attributes t v w hv hw := by
    obtain ⟨old, hold, rfl⟩ := mem_modifyState_iff.1 hw
    obtain rfl := hg.state_unique hv hold
    by_cases hts : t = s
    · subst hts
      simp only [if_true, List.mem_singleton, Notification.state.injEq, true_and]
      refine ⟨fun hne => ?_, fun hne => ?_, fun hne => ?_⟩
      · by_contra hother
        exact hne (hf.position_eq (Ne.symm hother) v)
      · by_contra hother
        exact hne (hf.initial_eq (Ne.symm hother) v)
      · by_contra hother
        exact hne (hf.final_eq (Ne.symm hother) v)
    · simp [hts]
  current t v w hv hw := by
    obtain ⟨old, hold, rfl⟩ := mem_modifyState_iff.1 hw
    obtain rfl := hg.state_unique hv hold
    have hnone : [Notification.state s aspect].count (.state t .current) = 0 :=
      List.count_eq_zero.2 (by simp [Ne.symm hf.ne_current])
    rw [hnone]
    split <;> simp [hf.current]
  toTellsRemovals := by
    refine tellsRemovals_of_subset ?_ ?_ (List.Subset.refl _)
    · have hquiet := hf.ne_removed
      cases aspect <;> simp [Notification.follower?] at hquiet ⊢
    · simp [modifyState]

/-! ## Removing -/

theorem Named.attributes_keepTransitions (hg : g.Named) {keep : TransitionId → Bool} {s : StateId}
    {v w : State} (hv : (s, v) ∈ g.states) (hw : (s, w) ∈ (g.keepTransitions keep).states) :
    w.attributes = v.attributes := by
  obtain ⟨old, hold, rfl⟩ := Registry.mem_mapValues_iff.1 hw
  rw [hg.state_unique hv hold]
  rfl

theorem mapValues_name_keepTransitions (keep : TransitionId → Bool) :
    (g.keepTransitions keep).states.mapValues (·.name) = g.states.mapValues (·.name) := by
  simp only [keepTransitions, Registry.mapValues, List.map_map]
  rfl

theorem Consistent.tells_removeTransition (hg : g.Consistent) (t : TransitionId) :
    g.Tells (g.removeTransition t) := by
  have hgraph := hg.removeTransition_graph t
  unfold Graph.removeTransition at hgraph ⊢
  split at hgraph
  · exact tells_none hg.toNamed
  · rename_i transition hsome
    have ht := Registry.mem_ids_of_mem (hg.transition?_eq_some_iff.1 hsome)
    rw [show g.eraseTransition t transition = g.keepTransitions (· ≠ t) from hgraph]
    refine ⟨?_, ?_, ?_, ?_⟩
    · refine tellsChanges_of_attributes_eq ?_ (by simp) rfl ?_ (fun _ => by simp)
      · exact fun s v w hv hw => hg.attributes_keepTransitions hv hw
      · exact absurd (mapValues_name_keepTransitions _)
    · intro s
      rw [ids_keepTransitions_states, if_neg (by simp)]
      simp
    · intro u
      simp only [ids_keepTransitions, List.mem_filter, List.count_cons, List.count_nil]
      by_cases hu : u = t
      · simp [hu, ht]
      · simp [hu, Ne.symm hu]
    · refine Notification.followed_cons_iff.2 ⟨by simp [Notification.follower?], ?_⟩
      exact Notification.followed_of_forall (by simp [Notification.follower?])

/-- What is sent when some transitions are removed one after another. -/
def partings (ts : List TransitionId) : List Notification :=
  ts.flatMap fun t => [.transitionRemoved t, .transitionsChanged]

theorem Consistent.notes_each_removeTransition (hg : g.Consistent) {ts : List TransitionId}
    (hnodup : ts.Nodup) (hts : ∀ t ∈ ts, t ∈ g.transitions.ids) :
    (Change.each Graph.removeTransition ts g).notes = partings ts := by
  induction ts generalizing g with
  | nil => rfl
  | cons t ts ih =>
    obtain ⟨hfresh, hrest⟩ := List.nodup_cons.1 hnodup
    obtain ⟨transition, ht⟩ := Registry.mem_ids_iff.1 (hts t List.mem_cons_self)
    have hnotes : (g.removeTransition t).notes = [.transitionRemoved t, .transitionsChanged] := by
      rw [Graph.removeTransition, hg.transition?_eq_some_iff.2 ht]
    have hleft : ∀ u ∈ ts, u ∈ (g.removeTransition t).graph.transitions.ids := by
      intro u hu
      rw [hg.removeTransition_graph, ids_keepTransitions, List.mem_filter, decide_eq_true_eq]
      exact ⟨hts u (List.mem_cons_of_mem t hu), fun heq => hfresh (heq ▸ hu)⟩
    simp only [Change.each, Change.andThen, hnotes, ih (hg.removeTransition t) hrest hleft]
    rfl

/-- The transitions that touch a state are taken leave of in the order of their creation, and after
them the state. -/
theorem Consistent.notes_removeState (hg : g.Consistent) {s : StateId} {state : State}
    (hs : (s, state) ∈ g.states) : (g.removeState s).notes =
      partings (g.touching state) ++ [.state s .removed, .statesChanged] := by
  have hnotes : (Change.each Graph.removeTransition (g.touching state) g).notes =
      partings (g.touching state) :=
    hg.notes_each_removeTransition (hg.transitionIds_nodup.filter _) fun t ht =>
      (List.mem_filter.1 ht).1
  rw [Graph.removeState, hg.state?_eq_some_iff.2 hs]
  simp only [Change.andThen, hnotes]
  rfl

theorem count_partings (ts : List TransitionId) (t : TransitionId) :
    (partings ts).count (.transitionRemoved t) = ts.count t := by
  induction ts with
  | nil => rfl
  | cons u ts ih => simpa [partings, List.count_cons] using ih

theorem count_transitionsChanged_partings (ts : List TransitionId) :
    (partings ts).count .transitionsChanged = ts.length := by
  induction ts with
  | nil => rfl
  | cons t ts ih => simpa [partings, List.count_cons] using ih

theorem removed_not_mem_partings (ts : List TransitionId) (s : StateId) :
    .state s .removed ∉ partings ts := by
  simp [partings]

theorem followed_partings_append {ts : List TransitionId} {notes : List Notification}
    (h : Notification.Followed notes) : Notification.Followed (partings ts ++ notes) := by
  induction ts with
  | nil => exact h
  | cons t ts ih =>
    refine Notification.followed_cons_iff.2 ⟨fun next hnext => ?_, ?_⟩
    · simpa [Notification.follower?] using hnext
    · exact Notification.followed_cons_iff.2 ⟨by simp [Notification.follower?], ih⟩

/-- A state that leaves takes its transitions along. -/
theorem Consistent.tells_removeState_of_mem (hg : g.Consistent) {s : StateId} {state : State}
    (hs : (s, state) ∈ g.states) : g.Tells (g.removeState s) := by
  have hnotes := hg.notes_removeState hs
  have hgraph := hg.removeState_graph hs
  have hstates : (g.removeState s).graph.states.ids = g.states.ids.filter (· ≠ s) := by
    rw [hgraph, Graph.withoutState, dropState, Registry.ids_erase, ids_keepTransitions_states]
  have htransitions : (g.removeState s).graph.transitions.ids =
      g.transitions.ids.filter (· ∉ g.touching state) := by
    rw [hgraph, Graph.withoutState, dropState, ids_keepTransitions]
  have htouching : (g.touching state).Nodup := hg.transitionIds_nodup.filter _
  refine ⟨?_, ?_, ?_, ?_⟩
  · refine tellsChanges_of_attributes_eq ?_ ?_ ?_ ?_ ?_
    · intro u v w hv hw
      rw [hgraph] at hw
      exact hg.attributes_keepTransitions hv (Registry.mem_erase_iff.1 hw).1
    · simp [hnotes, partings]
    · rw [hgraph]
      rfl
    · simp [hnotes]
    · intro hne
      -- Without a touching transition all of them are kept.
      cases hts : g.touching state with
      | nil =>
        refine absurd ?_ hne
        rw [hgraph, Graph.withoutState, hts]
        exact List.filter_eq_self.2 (by simp)
      | cons t ts => simp [hnotes, hts, partings]
  · intro u
    rw [hnotes, List.count_append, List.count_eq_zero.2 (removed_not_mem_partings _ u), hstates]
    by_cases hu : u = s
    · subst hu
      simp [Registry.mem_ids_of_mem hs]
    · simp [hu, Ne.symm hu]
  · intro t
    rw [hnotes, List.count_append, count_partings, htouching.count, htransitions]
    by_cases ht : t ∈ g.touching state
    · have hmember : t ∈ g.transitions.ids := (List.mem_filter.1 ht).1
      simp [ht, hmember]
    · simp [ht]
  · rw [hnotes]
    refine followed_partings_append (Notification.followed_cons_iff.2 ⟨?_, ?_⟩)
    · simp [Notification.follower?]
    · exact Notification.followed_of_forall (by simp [Notification.follower?])

theorem Consistent.tells_removeState (hg : g.Consistent) (s : StateId) :
    g.Tells (g.removeState s) := by
  by_cases hs : s ∈ g.states.ids
  · obtain ⟨state, hstate⟩ := Registry.mem_ids_iff.1 hs
    exact hg.tells_removeState_of_mem hstate
  · rw [removeState_of_not_mem hs]
    exact tells_none hg.toNamed

end Graph

namespace Automaton

/-! ## All operations -/

theorem tells_of_does {g : Graph} (hg : g.Consistent) {operation : Operation} {answer : Answer}
    {c : Change} (h : Does g operation answer c) : g.Tells c := by
  cases h with
  | createState hname hfree => exact hg.tells_addState hname hfree _
  | removeState s => exact hg.tells_removeState s
  | changeState hchange hs => exact hg.tells_modifyState _ (Operation.showsIn_attribute hchange)
  | createTransition hsource htarget hlabel hedge => exact hg.tells_addTransition _ _ _
  | removeTransition t => exact hg.tells_removeTransition t
  | reset => exact hg.tells_reset
  | step event => exact hg.tells_step event
  | recognise => exact hg.tells_recognise

theorem tells_of_performs {a : Automaton} (ha : a.graph.Consistent) {operation : Operation}
    {o : Outcome} (h : Performs a operation o) :
    a.graph.Tells ⟨o.automaton.graph, o.notes⟩ := by
  cases h with
  | refused error => exact Graph.tells_none ha.toNamed
  | changed hdoes => exact tells_of_does ha hdoes
  | subscribed hchannel => exact Graph.tells_none ha.toNamed
  | unsubscribed id => exact Graph.tells_none ha.toNamed

/-- The operations that are not refused and yet do nothing. -/
inductive IsIdle (g : Graph) : Operation → Prop
  | removeState {s : StateId} (hs : s ∉ g.states.ids) : IsIdle g (.removeState s)
  | removeTransition {t : TransitionId} (ht : t ∉ g.transitions.ids) :
      IsIdle g (.removeTransition t)
  | step {event : Option String} (hactive : g.active = false) : IsIdle g (.step event)
  | recognise (hactive : g.active = false) : IsIdle g .recognise

theorem change_eq_none_of_isIdle {g : Graph} {operation : Operation} (h : IsIdle g operation)
    {answer : Answer} {c : Change} (hdoes : Does g operation answer c) : c = .none g := by
  cases hdoes with
  | removeState s =>
    cases h with
    | removeState hs => exact Graph.removeState_of_not_mem hs
  | removeTransition t =>
    cases h with
    | removeTransition ht => exact Graph.removeTransition_of_not_mem ht
  | step event =>
    cases h with
    | step hactive => rw [Graph.step.eq_def, if_neg (by simp [hactive])]
  | recognise =>
    cases h with
    | recognise hactive => rw [Graph.recognise, if_neg (by simp [hactive])]
  | changeState hchange hs => cases h <;> simp [Operation.attribute?] at hchange
  | _ => cases h

theorem notes_eq_nil_of_isIdle {a : Automaton} {operation : Operation} {o : Outcome}
    (h : IsIdle a.graph operation) (hperforms : Performs a operation o) : o.notes = [] := by
  cases hperforms with
  | changed hdoes =>
    rw [change_eq_none_of_isIdle h hdoes]
    rfl
  | _ => rfl

/-- Someone who hears all notifications of an operation knows everything that it has changed: each
change of the members, of the switch, of an attribute and of a current flag is announced, and all
that leaves the graph is taken leave of once, a removal being followed by the news that the members
have changed.  An operation that is refused or has nothing to do sends nothing. -/
theorem Reachable.notes_tell {a : Automaton} (h : a.Reachable) (operation : Operation) :
    a.graph.Tells ⟨(a.perform operation).automaton.graph, (a.perform operation).notes⟩ ∧
    (∀ error, (a.perform operation).answer = .error error →
      (a.perform operation).notes = []) ∧
    (IsIdle a.graph operation → (a.perform operation).notes = []) := by
  refine ⟨tells_of_performs h.consistent (performs a operation), ?_, ?_⟩
  · intro error herror
    rw [perform_eq_refused herror]
    rfl
  · intro hidle
    exact notes_eq_nil_of_isIdle hidle (performs a operation)

/-- The state that goes takes the epsilon transition along; the one that went before is not heard of
again. -/
theorem sample_notes_tell : sample.Reachable ∧
    (sample.perform (.removeState ⟨0, 2⟩)).notes.count (.transitionRemoved ⟨0, 3⟩) = 1 ∧
    (sample.perform (.removeState ⟨0, 1⟩)).notes = [] := by
  have htold := (reachable_sample.notes_tell (.removeState ⟨0, 2⟩)).1.removedTransitions ⟨0, 3⟩
  have hidle := (reachable_sample.notes_tell (.removeState ⟨0, 1⟩)).2.2
  refine ⟨reachable_sample, htold.trans (if_pos ?_), hidle (.removeState ?_)⟩
  · decide +kernel
  · decide +kernel

end Automaton

end NfaWorkbench
