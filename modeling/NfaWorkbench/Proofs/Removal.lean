import NfaWorkbench.Proofs.BusHistory
import NfaWorkbench.Proofs.Graph.Leaving
set_option autoImplicit false

/-!
# Automata: removals

What is left of an automaton when some members are removed (`Leaves`): what is left of its graph, and
those who listen to something that is still there.  Every removal takes leave of what goes, so nobody
listens to what is not there, and which subscriptions are left can be told from the graph.  The
removal of one state is described in full (`RemovesState`).
-/

namespace NfaWorkbench

/-! ## Those who listen to what is there -/

namespace Bus

/-- Where everyone listens to something that is there, those stay who still do. -/
theorem publish_eq_filter {b : Bus} {g k : Graph} {notes : List Notification}
    (htells : g.TellsRemovals k notes)
    (hchannels : ∀ s ∈ b.subscriptions, g.HasChannel s.channel) : (b.publish notes).1 =
      { b with subscriptions := b.subscriptions.filter fun s => k.HasChannel s.channel } := by
  have hsubscriptions : (b.publish notes).1.subscriptions =
      b.subscriptions.filter fun s => k.HasChannel s.channel := by
    rw [subscriptions_publish]
    refine List.filter_congr fun s hs => ?_
    have hfarewell := htells.farewell_mem_iff (hchannels s hs)
    rw [Bool.eq_iff_iff, decide_eq_true_eq, ← not_iff_not, ← hfarewell]
    simp [Event.ends]
  have hnext := b.next_publish notes
  cases hb : (b.publish notes).1
  simp_all only

end Bus

/-- No channel comes back when members are removed. -/
theorem Graph.Leaves.hasChannel {g k : Graph} {gone : List Handle} (h : g.Leaves gone k)
    {channel : Channel} (hchannel : k.HasChannel channel) : g.HasChannel channel := by
  cases channel with
  | automaton => trivial
  | state s =>
    have hs : s ∈ k.states.ids := hchannel
    rw [h.states_eq, Registry.ids_mapValues] at hs
    exact (List.filter_sublist.map _).subset hs
  | transition t =>
    have ht : t ∈ k.transitions.ids := hchannel
    rw [h.transitions_eq] at ht
    exact (List.filter_sublist.map _).subset ht

namespace Automaton

variable {a b c : Automaton} {gone others : List Handle}

theorem tracks_ofGraph (g : Graph) : Tracks [] (ofGraph g) := ⟨rfl, rfl, by simp [Bus.alive]⟩

/-- Every automaton has a history that its bus keeps to. -/
theorem Reachable.exists_tracks (h : a.Reachable) : ∃ past, Tracks past a := by
  induction h with
  | perform operation hbefore ih =>
    obtain ⟨past, htracks⟩ := ih
    exact ⟨_, (htracks.performs hbefore.consistent (performs _ operation)).1⟩
  | _ => exact ⟨[], tracks_ofGraph _⟩

theorem Reachable.hasChannel (h : a.Reachable) :
    ∀ s ∈ a.bus.subscriptions, a.graph.HasChannel s.channel := by
  obtain ⟨past, htracks⟩ := h.exists_tracks
  rw [htracks.subscriptions]
  exact htracks.channels

theorem Reachable.filter_hasChannel (h : a.Reachable) :
    a.bus.subscriptions.filter (fun s => a.graph.HasChannel s.channel) = a.bus.subscriptions :=
  List.filter_eq_self.2 fun s hs => decide_eq_true (h.hasChannel s hs)

/-- An operation that changes the graph leaves those who listen to something that is still there. -/
theorem Reachable.bus_changed (h : a.Reachable) {operation : Operation} {answer : Answer}
    {change : Change} (hdoes : Does a.graph operation answer change) :
    (a.changed answer change).automaton.bus = { a.bus with
      subscriptions := a.bus.subscriptions.filter fun s => change.graph.HasChannel s.channel } :=
  Bus.publish_eq_filter (tells_of_does h.consistent hdoes).toTellsRemovals h.hasChannel

/-- Nobody stops listening unless something is removed. -/
theorem Reachable.bus_changed_of_keeps (h : a.Reachable) {operation : Operation} {answer : Answer}
    {change : Change} (hdoes : Does a.graph operation answer change)
    (hkeeps : operation.isRemoval = false) : (a.changed answer change).automaton.bus = a.bus := by
  have hstays : ∀ handle ∈ a.graph.handles, handle ∈ change.graph.handles := fun handle hmem =>
    (mem_handles_of_does h.consistent hdoes handle).2 (.inr ⟨hmem, not_removes hkeeps handle⟩)
  have hchannels : ∀ s ∈ a.bus.subscriptions, change.graph.HasChannel s.channel := by
    intro s hs
    have hold := h.hasChannel s hs
    cases hchannel : s.channel with
    | automaton => trivial
    | state u =>
      rw [hchannel] at hold
      exact Graph.state_mem_handles_iff.1 (hstays _ (Graph.state_mem_handles_iff.2 hold))
    | transition t =>
      rw [hchannel] at hold
      exact Graph.transition_mem_handles_iff.1 (hstays _ (Graph.transition_mem_handles_iff.2 hold))
  rw [h.bus_changed hdoes, List.filter_eq_self.2 fun s hs => decide_eq_true (hchannels s hs)]

/-! ## Removing any members -/

/-- If some members are removed from the automaton `a`, it is `b` that is left. -/
structure Leaves (a : Automaton) (gone : List Handle) (b : Automaton) : Prop where
  graph : a.graph.Leaves gone b.graph
  /-- Those who listen to something that stays go on listening. -/
  bus_eq : b.bus = { a.bus with
    subscriptions := a.bus.subscriptions.filter fun s => b.graph.HasChannel s.channel }

theorem Leaves.unique (hb : a.Leaves gone b) (hc : a.Leaves gone c) : b = c := by
  have hgraph : b.graph = c.graph := hb.graph.unique hc.graph
  have hbus : b.bus = c.bus := by rw [hb.bus_eq, hc.bus_eq, hgraph]
  cases b
  cases c
  simp_all only

theorem Leaves.congr (h : a.Leaves gone b) (hsame : ∀ x, x ∈ others ↔ x ∈ gone) :
    a.Leaves others b :=
  ⟨h.graph.congr hsame, h.bus_eq⟩

theorem Leaves.trans (hb : a.Leaves gone b) (hc : b.Leaves others c) :
    a.Leaves (gone ++ others) c where
  graph := hb.graph.trans hc.graph
  bus_eq := by
    have hsubscriptions : (a.bus.subscriptions.filter fun s => b.graph.HasChannel s.channel).filter
        (fun s => c.graph.HasChannel s.channel) =
        a.bus.subscriptions.filter fun s => c.graph.HasChannel s.channel := by
      rw [List.filter_filter]
      refine List.filter_congr fun s _ => ?_
      rw [Bool.and_eq_left_iff_imp, decide_eq_true_eq, decide_eq_true_eq]
      exact hc.graph.hasChannel
    rw [hc.bus_eq, hb.bus_eq, hsubscriptions]

theorem Reachable.leaves_nil (h : a.Reachable) : a.Leaves [] a where
  graph := h.consistent.leaves_of_not_mem (by simp)
  bus_eq := by rw [h.filter_hasChannel]

/-- One removal, whether or not there is anything to remove. -/
theorem Reachable.leaves_removal (h : a.Reachable) (x : Handle) :
    a.Leaves [x] (a.perform x.removal).automaton := by
  cases x with
  | state s =>
    exact ⟨h.consistent.leaves_removeState s, h.bus_changed (.removeState s)⟩
  | transition t =>
    exact ⟨h.consistent.leaves_removeTransition t, h.bus_changed (.removeTransition t)⟩

theorem Reachable.leaves_performAll (h : a.Reachable) (gone : List Handle) :
    a.Leaves gone (a.performAll (gone.map Handle.removal)) := by
  induction gone generalizing a with
  | nil => exact h.leaves_nil
  | cons x rest ih => exact (h.leaves_removal x).trans (ih (h.perform x.removal))

/-- Removals come down to what they remove: the states that are listed go, and the transitions that
are listed or have an end that is.  Neither the order of the list counts nor how often a member is
listed, and what is no member does not count at all. -/
theorem Reachable.removals_leave (h : a.Reachable) (gone : List Handle) :
    a.Leaves gone (a.performAll (gone.map Handle.removal)) ∧
    ∀ others : List Handle, (∀ x, x ∈ others ↔ x ∈ gone) →
      a.performAll (others.map Handle.removal) = a.performAll (gone.map Handle.removal) := by
  refine ⟨h.leaves_performAll gone, fun others hsame => ?_⟩
  have hleaves := (h.leaves_performAll others).congr fun x => (hsame x).symm
  exact hleaves.unique (h.leaves_performAll gone)

/-- The first list names a state twice, a transition that goes with it, one that left long ago and
a state of another automaton; the second names them once and in another order. -/
theorem sample_removals_leave : sample.Reachable ∧
    sample.performAll ([.transition ⟨0, 3⟩, .transition ⟨0, 0⟩, .state ⟨0, 2⟩, .state ⟨7, 0⟩,
      .state ⟨0, 2⟩].map Handle.removal) =
      sample.performAll ([.state ⟨7, 0⟩, .state ⟨0, 2⟩, .transition ⟨0, 0⟩,
        .transition ⟨0, 3⟩].map Handle.removal) ∧
    (sample.performAll ([.state ⟨7, 0⟩, .state ⟨0, 2⟩, .transition ⟨0, 0⟩,
      .transition ⟨0, 3⟩].map Handle.removal)).graph.transitions.ids = [⟨0, 1⟩] := by
  obtain ⟨hleaves, hsame⟩ := reachable_sample.removals_leave
    [.state ⟨7, 0⟩, .state ⟨0, 2⟩, .transition ⟨0, 0⟩, .transition ⟨0, 3⟩]
  refine ⟨reachable_sample, hsame _ fun x => ?_, ?_⟩
  · simp only [List.mem_cons, List.not_mem_nil, or_false]
    tauto
  · rw [hleaves.graph.transitions_eq]
    decide +kernel

end Automaton

/-! ## Removing one state -/

namespace Graph

variable {g : Graph}

/-- The transitions that leave or enter a state, oldest first; a loop is one of them. -/
def linksOf (g : Graph) (s : StateId) : List TransitionId :=
  g.transitions.idsWhere fun e => e.source = s ∨ e.target = s

theorem Consistent.touching_eq (hg : g.Consistent) {s : StateId} {state : State}
    (hs : (s, state) ∈ g.states) : g.touching state = g.linksOf s := by
  rw [linksOf, Registry.idsWhere, touching, Registry.ids, List.filter_map]
  congr 1
  refine List.filter_congr fun e he => ?_
  have hmem : e.1 ∈ g.touching state ↔ e.2.source = s ∨ e.2.target = s :=
    hg.mem_touching_iff_of_mem hs he
  rw [touching, List.mem_filter, and_iff_right (Registry.mem_ids_of_mem he)] at hmem
  rw [Bool.eq_iff_iff, decide_eq_true_eq]
  exact hmem

theorem Consistent.linksOf_nodup (hg : g.Consistent) (s : StateId) : (g.linksOf s).Nodup :=
  hg.transitionIds_nodup.sublist (List.filter_sublist.map _)

theorem mem_linksOf_iff {s : StateId} {t : TransitionId} :
    t ∈ g.linksOf s ↔ ∃ e, (t, e) ∈ g.transitions ∧ (e.source = s ∨ e.target = s) := by
  simp [linksOf, Registry.mem_idsWhere_iff]

theorem Consistent.mem_linksOf_iff_of_mem (hg : g.Consistent) {s : StateId} {t : TransitionId}
    {e : Transition} (he : (t, e) ∈ g.transitions) :
    t ∈ g.linksOf s ↔ e.source = s ∨ e.target = s := by
  rw [linksOf, Registry.mem_idsWhere_of_mem hg.transitionIds_nodup he, decide_eq_true_eq]

/-- The removal of the member state `s` makes `k` of the graph `g`. -/
structure LosesState (g : Graph) (s : StateId) (k : Graph) : Prop where
  /-- The other states stay where they are and what they are, up to their links to transitions that
  have gone. -/
  states_eq : k.states = (g.states.erase s).mapValues (State.keepLinks (· ∉ g.linksOf s))
  transitions_eq : k.transitions = g.transitions.filter fun e => e.2.source ≠ s ∧ e.2.target ≠ s
  findState_eq : ∀ name, k.findState name =
    if g.findState name = some s then none else g.findState name
  /-- A new state may have the name. -/
  name_free : ∀ state, (s, state) ∈ g.states → ∀ position,
    ∃ c, k.createState state.name position = .ok (g.nextStateId, c)
  owner_eq : k.owner = g.owner
  active_eq : k.active = g.active
  nextState_eq : k.nextState = g.nextState
  nextTransition_eq : k.nextTransition = g.nextTransition

theorem Consistent.findState_removeState (hg : g.Consistent) (s : StateId) (name : String) :
    (g.removeState s).graph.findState name =
      if g.findState name = some s then none else g.findState name := by
  rw [findState, (hg.leaves_removeState s).names_eq, Std.ExtTreeMap.getElem?_filter', findState]
  cases g.names[name]? with
  | none => rfl
  | some u => by_cases hu : u = s <;> simp [Option.filter_some, hu]

theorem Consistent.losesState (hg : g.Consistent) {s : StateId} (hs : s ∈ g.states.ids) :
    g.LosesState s (g.removeState s).graph := by
  obtain ⟨state, hstate⟩ := Registry.mem_ids_iff.1 hs
  have hgraph := hg.removeState_graph hstate
  have hlinks := hg.touching_eq hstate
  refine ⟨?_, ?_, hg.findState_removeState s, ?_, ?_, ?_, ?_, ?_⟩
  · rw [hgraph, Graph.withoutState, hlinks]
    exact (Registry.mapValues_filter g.states (· ≠ s)).symm
  · rw [hgraph, Graph.withoutState, hlinks]
    refine List.filter_congr fun e he => ?_
    simp [hg.mem_linksOf_iff_of_mem he]
  · intro other hother position
    have hfree : (g.removeState s).graph.names.contains other.name = false := by
      rw [Std.ExtTreeMap.contains_eq_isSome_getElem?, ← findState, hg.findState_removeState,
        if_pos (hg.findState_of_mem hother)]
      rfl
    have hnext : (g.removeState s).graph.nextStateId = g.nextStateId := by
      rw [hgraph]
      rfl
    rw [← hnext]
    exact ⟨_, createState_eq_ok_iff.2 ⟨hg.name_valid s other hother, hfree, rfl⟩⟩
  all_goals
    rw [hgraph]
    rfl

/-- A channel outlives the removal of a state unless it is that of the state or of one of its
transitions. -/
theorem Consistent.hasChannel_removeState_iff (hg : g.Consistent) {s : StateId}
    {channel : Channel} (hchannel : g.HasChannel channel) :
    (g.removeState s).graph.HasChannel channel ↔
      channel ≠ .state s ∧ ∀ t ∈ g.linksOf s, channel ≠ .transition t := by
  cases channel with
  | automaton => simp [HasChannel]
  | state u =>
    have hmem := Automaton.mem_handles_removeState_iff hg s (.state u)
    rw [Automaton.removes_removeState_state_iff, state_mem_handles_iff, state_mem_handles_iff]
      at hmem
    simpa [HasChannel, show u ∈ g.states.ids from hchannel] using hmem
  | transition t =>
    have hmem := Automaton.mem_handles_removeState_iff hg s (.transition t)
    rw [Automaton.removes_removeState_transition_iff, ← mem_linksOf_iff,
      transition_mem_handles_iff, transition_mem_handles_iff] at hmem
    simp only [HasChannel, hmem, show t ∈ g.transitions.ids from hchannel]
    simp [List.forall_mem_ne]

end Graph

namespace Automaton

variable {a : Automaton}

/-- What comes of the removal of a member state. -/
structure RemovesState (a : Automaton) (s : StateId) (o : Outcome) : Prop
    extends a.graph.LosesState s o.automaton.graph where
  answer_eq : o.answer = .ok .done
  /-- No transition is removed twice. -/
  links_nodup : (a.graph.linksOf s).Nodup
  /-- The transitions take their leave one after another, oldest first, and then the state. -/
  notes_eq : o.notes =
    ((a.graph.linksOf s).flatMap fun t => [.transitionRemoved t, .transitionsChanged]) ++
      [.state s .removed, .statesChanged]
  count_transitionsChanged : o.notes.count .transitionsChanged = (a.graph.linksOf s).length
  count_statesChanged : o.notes.count .statesChanged = 1
  /-- Those who listen to anything that has gone do so no more. -/
  bus_eq : o.automaton.bus = { a.bus with
    subscriptions := a.bus.subscriptions.filter fun u =>
      u.channel ≠ .state s ∧ ∀ t ∈ a.graph.linksOf s, u.channel ≠ .transition t }

/-- A state goes together with the transitions that touch it, and with nothing else. -/
theorem Reachable.removesState (h : a.Reachable) {s : StateId} (hs : s ∈ a.graph.states.ids) :
    a.RemovesState s (a.perform (.removeState s)) := by
  have hg := h.consistent
  obtain ⟨state, hstate⟩ := Registry.mem_ids_iff.1 hs
  have hnotes : (a.perform (.removeState s)).notes =
      Graph.partings (a.graph.linksOf s) ++ [.state s .removed, .statesChanged] := by
    rw [← hg.touching_eq hstate]
    exact hg.notes_removeState hstate
  refine ⟨hg.losesState hs, rfl, hg.linksOf_nodup s, hnotes, ?_, ?_, ?_⟩
  · rw [hnotes, List.count_append, Graph.count_transitionsChanged_partings]
    simp
  · have hnone : (Graph.partings (a.graph.linksOf s)).count .statesChanged = 0 :=
      List.count_eq_zero.2 (by simp [Graph.partings])
    rw [hnotes, List.count_append, hnone]
    simp
  · have hkept : a.bus.subscriptions.filter
        (fun u => (a.graph.removeState s).graph.HasChannel u.channel) =
        a.bus.subscriptions.filter fun u =>
          u.channel ≠ .state s ∧ ∀ t ∈ a.graph.linksOf s, u.channel ≠ .transition t := by
      refine List.filter_congr fun u hu => ?_
      rw [Bool.eq_iff_iff, decide_eq_true_eq, decide_eq_true_eq]
      exact hg.hasChannel_removeState_iff (h.hasChannel u hu)
    refine (h.bus_changed (.removeState s)).trans ?_
    rw [hkept]

/-- The first state has a loop, and an edge to and from the other one; each of the three transitions
takes its leave once. -/
theorem sample_removesState : sample.Reachable ∧ ⟨0, 0⟩ ∈ sample.graph.states.ids ∧
    (sample.perform (.removeState ⟨0, 0⟩)).notes =
      [.transitionRemoved ⟨0, 1⟩, .transitionsChanged, .transitionRemoved ⟨0, 2⟩,
        .transitionsChanged, .transitionRemoved ⟨0, 3⟩, .transitionsChanged,
        .state ⟨0, 0⟩ .removed, .statesChanged] ∧
    (sample.perform (.removeState ⟨0, 0⟩)).automaton.graph.transitions = [] := by
  have hs : ⟨0, 0⟩ ∈ sample.graph.states.ids := by decide +kernel
  have hremoves := reachable_sample.removesState hs
  refine ⟨reachable_sample, hs, hremoves.notes_eq.trans ?_, hremoves.transitions_eq.trans ?_⟩
  · decide +kernel
  · decide +kernel

end Automaton

end NfaWorkbench
