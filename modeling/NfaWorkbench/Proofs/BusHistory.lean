import NfaWorkbench.Proofs.Announcement
set_option autoImplicit false

/-!
# The history of a bus

Who is to hear what, told by the history of a bus alone: which subscriptions were made, which were
cancelled, and what was sent.  A subscription is alive until a later event ends it, and every
notification goes to those that are alive when it is sent (`due`).  An automaton keeps to its
history (`Tracks`).
-/

namespace NfaWorkbench

/-! ## Channels -/

/-- Whether there is a channel: its state or transition is a member. -/
def Graph.HasChannel (g : Graph) : Channel → Prop
  | .automaton => True
  | .state s => s ∈ g.states.ids
  | .transition t => t ∈ g.transitions.ids

instance (g : Graph) : (channel : Channel) → Decidable (g.HasChannel channel)
  | .automaton => .isTrue trivial
  | .state s => inferInstanceAs (Decidable (s ∈ g.states.ids))
  | .transition t => inferInstanceAs (Decidable (t ∈ g.transitions.ids))

/-- The last notification of a channel. -/
def Channel.farewell? : Channel → Option Notification
  | automaton => none
  | state s => some (.state s .removed)
  | transition t => some (.transitionRemoved t)

theorem Channel.farewell?_eq_some_iff {note : Notification} {channel : Channel} :
    channel.farewell? = some note ↔ note.closesChannel = true ∧ channel = note.channel := by
  rw [iff_comm]
  cases channel with
  | automaton => cases note <;> simp [farewell?, Notification.closesChannel, Notification.channel]
  | transition t =>
    cases note <;> simp [farewell?, Notification.closesChannel, Notification.channel]
  | state s =>
    cases note with
    | state t aspect =>
      cases aspect <;> simp [farewell?, Notification.closesChannel, Notification.channel]
    | _ => simp [farewell?, Notification.closesChannel, Notification.channel]

/-- A channel gets its last notification exactly if it goes. -/
theorem Graph.TellsRemovals.farewell_mem_iff {g k : Graph} {notes : List Notification}
    (h : g.TellsRemovals k notes) {channel : Channel} (hchannel : g.HasChannel channel) :
    (∃ note ∈ notes, channel.farewell? = some note) ↔ ¬k.HasChannel channel := by
  cases channel with
  | automaton => simp [HasChannel, Channel.farewell?]
  | state s =>
    have hcount := h.removedStates s
    by_cases hs : s ∈ k.states.ids
    · rw [if_neg fun hgone => hgone.2 hs, List.count_eq_zero] at hcount
      simp [HasChannel, Channel.farewell?, hs, hcount]
    · rw [if_pos ⟨hchannel, hs⟩] at hcount
      simp [HasChannel, Channel.farewell?, hs, List.count_pos_iff.1 (hcount ▸ Nat.one_pos)]
  | transition t =>
    have hcount := h.removedTransitions t
    by_cases ht : t ∈ k.transitions.ids
    · rw [if_neg fun hgone => hgone.2 ht, List.count_eq_zero] at hcount
      simp [HasChannel, Channel.farewell?, ht, hcount]
    · rw [if_pos ⟨hchannel, ht⟩] at hcount
      simp [HasChannel, Channel.farewell?, ht, List.count_pos_iff.1 (hcount ▸ Nat.one_pos)]

/-! ## Histories -/

namespace Bus

/-- What happens to a bus. -/
inductive Event
  | subscribed (s : Subscription)
  | unsubscribed (id : Nat)
  | sent (note : Notification)
  deriving DecidableEq, Repr

namespace Event

/-- The subscription that an event makes. -/
def made? : Event → Option Subscription
  | subscribed s => some s
  | _ => none

/-- Whether an event ends a subscription: it is cancelled, or what it listens to is gone. -/
def ends (s : Subscription) : Event → Bool
  | subscribed _ => false
  | unsubscribed id => s.id = id
  | sent note => s.channel.farewell? = some note

/-- What an event delivers to the subscriptions that are alive: a notification goes to those of its
channel. -/
def deliveries (alive : List Subscription) : Event → List Delivery
  | sent note => (alive.filter (·.channel = note.channel)).map fun s => ⟨s.id, note⟩
  | _ => []

end Event

/-- The subscriptions made in a history, oldest first. -/
def made (history : List Event) : List Subscription := history.filterMap (·.made?)

/-- The subscriptions alive after a history, oldest first: those that no later event has ended. -/
def alive : List Event → List Subscription
  | [] => []
  | .subscribed s :: later => if later.any (·.ends s) then alive later else s :: alive later
  | _ :: later => alive later

/-- What is to be delivered in the course of some events that follow a history. -/
def due (past : List Event) : List Event → List Delivery
  | [] => []
  | event :: rest => event.deliveries (alive past) ++ due (past ++ [event]) rest

variable {b : Bus} {past : List Event} {notes : List Notification}

theorem alive_append (past later : List Event) :
    alive (past ++ later) =
      (alive past).filter (fun s => !later.any (·.ends s)) ++ alive later := by
  induction past with
  | nil => rfl
  | cons event rest ih =>
    cases event with
    | subscribed s =>
      rw [List.cons_append, alive, alive, List.any_append]
      by_cases hrest : rest.any (·.ends s)
      · simp [hrest, ih]
      · by_cases hlater : later.any (·.ends s) <;> simp [hrest, hlater, ih]
    | _ => simpa [alive] using ih

/-- Notifications end the subscriptions to the channels that they close. -/
theorem mem_alive_append_sent_iff {s : Subscription} : s ∈ alive (past ++ notes.map .sent) ↔
    s ∈ alive past ∧ ∀ note ∈ notes, s.channel.farewell? ≠ some note := by
  have hnone : alive (notes.map .sent) = [] := by
    induction notes with
    | nil => rfl
    | cons note rest ih => exact ih
  rw [alive_append, hnone, List.append_nil, List.mem_filter]
  simp [Event.ends]

theorem made_append (past later : List Event) : made (past ++ later) = made past ++ made later :=
  List.filterMap_append

theorem made_sent (notes : List Notification) : made (notes.map .sent) = [] := by
  induction notes with
  | nil => rfl
  | cons note rest ih => exact ih

theorem alive_sublist_made (history : List Event) : (alive history).Sublist (made history) := by
  induction history with
  | nil => exact .slnil
  | cons event rest ih =>
    cases event with
    | subscribed s =>
      rw [alive]
      split
      · exact ih.cons s
      · exact ih.cons_cons s
    | _ => exact ih

theorem due_append (past first second : List Event) :
    due past (first ++ second) = due past first ++ due (past ++ first) second := by
  induction first generalizing past with
  | nil => simp [due]
  | cons event rest ih => simp [due, ih]

/-- What is delivered goes to a subscription that is alive at that moment. -/
theorem exists_alive_of_mem_due {events : List Event} {d : Delivery} (h : d ∈ due past events) :
    ∃ before later, events = before ++ later ∧
      ∃ s ∈ alive (past ++ before), s.id = d.subscription := by
  induction events generalizing past with
  | nil => simp [due] at h
  | cons event rest ih =>
    obtain hnow | hlater := List.mem_append.1 h
    · refine ⟨[], event :: rest, rfl, ?_⟩
      cases event with
      | sent note =>
        obtain ⟨s, hs, rfl⟩ := List.mem_map.1 hnow
        exact ⟨s, by simpa using (List.mem_filter.1 hs).1, rfl⟩
      | _ => simp [Event.deliveries] at hnow
    · obtain ⟨before, later, rfl, s, hs, hid⟩ := ih hlater
      exact ⟨event :: before, later, rfl, s, by simpa using hs, hid⟩

theorem id_mem_made_of_mem_due {events : List Event} {d : Delivery} (h : d ∈ due past events) :
    d.subscription ∈ (made (past ++ events)).map (·.id) := by
  obtain ⟨before, later, rfl, s, hs, hid⟩ := exists_alive_of_mem_due h
  rw [← List.append_assoc, made_append, List.map_append]
  exact List.mem_append_left _
    (List.mem_map.2 ⟨s, (alive_sublist_made _).subset hs, hid⟩)

/-- A subscription that has ended hears nothing any more, whatever happens later. -/
theorem not_mem_due {events : List Event} {s : Subscription}
    (hids : ((made (past ++ events)).map (·.id)).Nodup) (hs : s ∈ made past)
    (hended : s ∉ alive past) :
    ∀ d ∈ due past events, d.subscription ≠ s.id := by
  rintro d hd hsame
  obtain ⟨before, later, rfl, t, ht, hid⟩ := exists_alive_of_mem_due hd
  rw [made_append, made_append, List.map_append, List.map_append, ← List.append_assoc] at hids
  have hmade := hids.of_append_left
  rw [alive_append, List.mem_append] at ht
  obtain hold | hnew := ht
  · -- It would be the same subscription, for the numbers are distinct.
    have htold := (List.mem_filter.1 hold).1
    have hts : t = s := List.inj_on_of_nodup_map hmade.of_append_left
      ((alive_sublist_made past).subset htold) hs (hid.trans hsame)
    exact hended (hts ▸ htold)
  · have htnew := (alive_sublist_made before).subset hnew
    exact List.disjoint_of_nodup_append hmade (List.mem_map_of_mem hs)
      (List.mem_map.2 ⟨t, htnew, hid.trans hsame⟩)

/-! ## A bus that keeps to its history -/

theorem subscriptions_after (b : Bus) (note : Notification) :
    (b.after note).subscriptions = b.subscriptions.filter fun s => !(Event.sent note).ends s := by
  unfold after
  split
  · rename_i hcloses
    simp [close, Event.ends, Channel.farewell?_eq_some_iff, hcloses]
  · rename_i hopen
    simp [Event.ends, Channel.farewell?_eq_some_iff, hopen]

theorem subscriptions_publish (b : Bus) (notes : List Notification) :
    (b.publish notes).1.subscriptions =
      b.subscriptions.filter fun s => notes.all fun note => !(Event.sent note).ends s := by
  induction notes generalizing b with
  | nil => exact (List.filter_true _).symm
  | cons note rest ih =>
    rw [publish, ih, subscriptions_after, List.filter_filter]
    simp only [List.all_cons, Bool.and_comm]

theorem next_after (b : Bus) (note : Notification) : (b.after note).next = b.next := by
  unfold after
  split <;> rfl

theorem next_publish (b : Bus) (notes : List Notification) : (b.publish notes).1.next = b.next := by
  induction notes generalizing b with
  | nil => rfl
  | cons note rest ih => exact (ih _).trans (next_after b note)

/-- Whoever is alive when a notification is sent hears it, and those whose channel it closes have
heard their last. -/
theorem publish_eq_due (h : b.subscriptions = alive past) (notes : List Notification) :
    (b.publish notes).1.subscriptions = alive (past ++ notes.map .sent) ∧
      (b.publish notes).2 = due past (notes.map .sent) := by
  induction notes generalizing b past with
  | nil => simpa [publish, due] using h
  | cons note rest ih =>
    have hafter : (b.after note).subscriptions = alive (past ++ [.sent note]) := by
      rw [subscriptions_after, alive_append, h]
      simp [alive]
    obtain ⟨halive, hdue⟩ := ih hafter
    refine ⟨?_, ?_⟩
    · simpa [publish] using halive
    · rw [publish, hdue, deliveries, h]
      rfl

/-- Whoever listens to a channel that goes hears the last notification of the channel, and nothing
after it. -/
theorem exists_due_eq_append {s : Subscription} {note : Notification} (hs : s ∈ alive past)
    (hids : ((made past).map (·.id)).Nodup) (hnote : note ∈ notes)
    (hfarewell : s.channel.farewell? = some note) :
    ∃ before later, due past (notes.map .sent) = before ++ ⟨s.id, note⟩ :: later ∧
      ∀ d ∈ later, d.subscription ≠ s.id := by
  induction notes generalizing past with
  | nil => simp at hnote
  | cons first rest ih =>
    have hmade : made (past ++ [.sent first]) = made past :=
      (made_append _ _).trans (List.append_nil _)
    have hnext : s ∈ alive (past ++ [.sent first]) ↔ note ≠ first := by
      rw [show [Event.sent first] = [first].map .sent from rfl, mem_alive_append_sent_iff]
      simp [hs, hfarewell]
    by_cases hfirst : note = first
    · -- The subscription is one of those that hear it, and is not among the later ones.
      subst hfirst
      have hchannel := (Channel.farewell?_eq_some_iff.1 hfarewell).2
      have hmem : s ∈ (alive past).filter (·.channel = note.channel) :=
        List.mem_filter.2 ⟨hs, decide_eq_true hchannel⟩
      have hsub : ((alive past).filter (·.channel = note.channel)).Sublist (made past) :=
        List.filter_sublist.trans (alive_sublist_made past)
      obtain ⟨before, later, hsplit⟩ := List.append_of_mem hmem
      refine ⟨before.map fun t => ⟨t.id, note⟩,
        (later.map fun t => ⟨t.id, note⟩) ++ due (past ++ [.sent note]) (rest.map .sent), ?_, ?_⟩
      · rw [List.map_cons, due, Event.deliveries, hsplit]
        simp
      · intro d hd
        obtain hnow | hthen := List.mem_append.1 hd
        · obtain ⟨t, ht, rfl⟩ := List.mem_map.1 hnow
          have hnodup := hids.sublist ((hsplit ▸ hsub).map _)
          rw [List.map_append, List.map_cons] at hnodup
          have hother := (List.nodup_cons.1 hnodup.of_append_right).1
          exact fun hsame => hother (List.mem_map.2 ⟨t, ht, hsame⟩)
        · refine not_mem_due ?_ ?_ (fun halive => hnext.1 halive rfl) d hthen
          · rwa [made_append, made_sent, List.append_nil, hmade]
          · rw [hmade]
            exact (alive_sublist_made past).subset hs
    · have hlater := (List.mem_cons.1 hnote).resolve_left hfirst
      have hrest : ((made (past ++ [.sent first])).map (·.id)).Nodup := by rwa [hmade]
      obtain ⟨before, later, hdue, hsilent⟩ := ih (hnext.2 hfirst) hrest hlater
      refine ⟨(Event.sent first).deliveries (alive past) ++ before, later, ?_, hsilent⟩
      rw [List.map_cons, due, List.append_assoc]
      exact congrArg _ hdue

end Bus

namespace Automaton

open Bus (Event alive made due)

/-- The operations that make or cancel a subscription. -/
def Operation.concernsBus : Operation → Bool
  | .subscribe _ => true
  | .unsubscribe _ => true
  | _ => false

/-- What happens to the bus in an operation with the given outcome. -/
def Operation.events (operation : Operation) (o : Outcome) : List Event :=
  match operation, o.answer with
  | .subscribe channel, .ok (.subscription id) => [.subscribed ⟨id, channel⟩]
  | .unsubscribe id, .ok _ => [.unsubscribed id]
  | _, _ => o.notes.map .sent

/-- What happens to the bus in the course of some operations. -/
def history (a : Automaton) : List Operation → List Event
  | [] => []
  | operation :: rest =>
    operation.events (a.perform operation) ++ (a.perform operation).automaton.history rest

/-- The deliveries of some operations. -/
def deliveriesOf (a : Automaton) : List Operation → List Delivery
  | [] => []
  | operation :: rest =>
    (a.perform operation).deliveries ++ (a.perform operation).automaton.deliveriesOf rest

variable {a : Automaton} {past : List Event} {operation : Operation} {o : Outcome}

/-! ## One operation -/

theorem concernsBus_of_does {g : Graph} {answer : Answer} {c : Change}
    (h : Does g operation answer c) : operation.concernsBus = false := by
  cases h with
  | changeState hchange hs =>
    cases operation with
    | subscribe channel => simp [Operation.attribute?] at hchange
    | unsubscribe id => simp [Operation.attribute?] at hchange
    | _ => rfl
  | _ => rfl

theorem Operation.events_eq_sent (h : operation.concernsBus = false) (o : Outcome) :
    operation.events o = o.notes.map .sent := by
  cases operation with
  | subscribe channel => simp [concernsBus] at h
  | unsubscribe id => simp [concernsBus] at h
  | _ => rfl

theorem Operation.events_refused (operation : Operation) (a : Automaton) (error : GraphError) :
    operation.events (a.refused error) = [] := by
  cases operation <;> rfl

theorem graph_perform_of_concernsBus (h : operation.concernsBus = true) :
    (a.perform operation).automaton.graph = a.graph := by
  cases operation with
  | subscribe channel =>
    rw [perform, subscribe]
    cases a.channelError? channel <;> rfl
  | unsubscribe id => rfl
  | _ => simp [Operation.concernsBus] at h

/-- An operation on the graph that is answered has changed the graph. -/
theorem exists_does_of_answer_eq_ok (hgraph : operation.concernsBus = false) {answer : Answer}
    (h : (a.perform operation).answer = .ok answer) :
    ∃ c, Does a.graph operation answer c ∧ a.perform operation = a.changed answer c := by
  have hperforms := performs a operation
  generalize a.perform operation = o at h hperforms
  cases hperforms with
  | refused operation error => simp [refused] at h
  | @changed _ other c hdoes =>
    obtain rfl : other = answer := Except.ok.inj h
    exact ⟨c, hdoes, rfl⟩
  | subscribed hchannel => simp [Operation.concernsBus] at hgraph
  | unsubscribed id => simp [Operation.concernsBus] at hgraph

theorem channelError?_eq_none_iff {channel : Channel} :
    a.channelError? channel = none ↔ a.graph.HasChannel channel := by
  cases channel with
  | automaton => simp [channelError?, Graph.HasChannel]
  | state s =>
    rw [channelError?, Graph.HasChannel, ← Registry.contains_iff_mem_ids, Graph.hasState]
    split <;> simp_all
  | transition t =>
    rw [channelError?, Graph.HasChannel, ← Registry.contains_iff_mem_ids, Graph.hasTransition]
    split <;> simp_all

/-- The bus of an automaton is as its history tells, and nobody listens to what is not there. -/
structure Tracks (past : List Event) (a : Automaton) : Prop where
  subscriptions : a.bus.subscriptions = alive past
  numbered : (made past).map (·.id) = List.range a.bus.next
  channels : ∀ s ∈ alive past, a.graph.HasChannel s.channel

/-- What concerns nothing but the subscriptions delivers nothing. -/
theorem due_silent {event : Event} (h : ∀ note, event ≠ .sent note) : due past [event] = [] := by
  cases event with
  | sent note => exact absurd rfl (h note)
  | _ => rfl

theorem Tracks.subscribed (h : Tracks past a) {channel : Channel}
    (hchannel : a.graph.HasChannel channel) :
    Tracks (past ++ [.subscribed ⟨a.bus.next, channel⟩])
      { a with bus := (a.bus.subscribe channel).2 } where
  subscriptions := by
    rw [Bus.alive_append, ← h.subscriptions]
    simp [Bus.subscribe, alive, Event.ends]
  numbered := by
    rw [Bus.made_append, List.map_append, h.numbered]
    exact List.range_succ.symm
  channels s hs := by
    rw [Bus.alive_append, List.mem_append] at hs
    obtain hold | hnew := hs
    · exact h.channels s (List.mem_filter.1 hold).1
    · obtain rfl := by simpa [alive] using hnew
      exact hchannel

theorem Tracks.unsubscribed (h : Tracks past a) (id : Nat) :
    Tracks (past ++ [.unsubscribed id]) { a with bus := (a.bus.unsubscribe id).2 } where
  subscriptions := by
    rw [Bus.alive_append, ← h.subscriptions]
    simp [Bus.unsubscribe, alive, Event.ends]
  numbered := by
    rw [Bus.made_append, List.map_append, h.numbered]
    exact List.append_nil _
  channels s hs := by
    rw [Bus.alive_append] at hs
    obtain hold | hnew := List.mem_append.1 hs
    · exact h.channels s (List.mem_filter.1 hold).1
    · nomatch hnew

/-- A change of the graph keeps nobody listening to what has gone, because whatever goes is taken
leave of. -/
theorem Tracks.changed (h : Tracks past a) {c : Change} (htells : a.graph.Tells c)
    (answer : Answer) :
    Tracks (past ++ c.notes.map .sent) (a.changed answer c).automaton where
  subscriptions := (Bus.publish_eq_due h.subscriptions c.notes).1
  numbered := by
    rw [Bus.made_append, Bus.made_sent, List.append_nil, h.numbered]
    exact congrArg List.range (Bus.next_publish a.bus c.notes).symm
  channels s hs := by
    obtain ⟨hold, hkept⟩ := Bus.mem_alive_append_sent_iff.1 hs
    by_contra hgone
    obtain ⟨note, hnote, hfarewell⟩ := (htells.farewell_mem_iff (h.channels s hold)).2 hgone
    exact hkept note hnote hfarewell

/-- An operation keeps to the history, and delivers what is due. -/
theorem Tracks.performs (h : Tracks past a) (ha : a.graph.Consistent)
    (hperforms : Performs a operation o) :
    Tracks (past ++ operation.events o) o.automaton ∧
      o.deliveries = due past (operation.events o) := by
  cases hperforms with
  | refused operation error =>
    rw [Operation.events_refused, List.append_nil]
    exact ⟨h, rfl⟩
  | @changed _ answer c hdoes =>
    rw [Operation.events_eq_sent (concernsBus_of_does hdoes)]
    exact ⟨h.changed (tells_of_does ha hdoes) answer,
      (Bus.publish_eq_due h.subscriptions c.notes).2⟩
  | subscribed hchannel =>
    exact ⟨h.subscribed (channelError?_eq_none_iff.1 hchannel), (due_silent (by simp)).symm⟩
  | unsubscribed id => exact ⟨h.unsubscribed id, (due_silent (by simp)).symm⟩

/-- A subscription outlives an operation unless it is cancelled or what it listens to goes. -/
theorem Tracks.ended_iff (h : Tracks past a) (ha : a.graph.Consistent) (operation : Operation)
    {s : Subscription} (hs : s ∈ alive past) :
    s ∉ alive (past ++ operation.events (a.perform operation)) ↔
      operation = .unsubscribe s.id ∨
        ¬(a.perform operation).automaton.graph.HasChannel s.channel := by
  have hchannel := h.channels s hs
  by_cases hcancel : ∃ id, operation = .unsubscribe id
  · obtain ⟨id, rfl⟩ := hcancel
    have hevents : Operation.events (.unsubscribe id) (a.perform (.unsubscribe id)) =
        [.unsubscribed id] := rfl
    have hgraph : (a.perform (.unsubscribe id)).automaton.graph = a.graph := rfl
    have hnone : alive [.unsubscribed id] = [] := rfl
    rw [hevents, hgraph, Bus.alive_append, hnone]
    simp [Event.ends, hs, hchannel, eq_comm (a := id)]
  · have hne : operation ≠ .unsubscribe s.id := fun heq => hcancel ⟨s.id, heq⟩
    have hperforms := Automaton.performs a operation
    generalize a.perform operation = o at hperforms
    cases hperforms with
    | refused operation error =>
      rw [Operation.events_refused, List.append_nil]
      exact iff_of_false (not_not.2 hs) (not_or.2 ⟨hne, not_not.2 hchannel⟩)
    | @changed _ answer c hdoes =>
      have hfarewell := (tells_of_does ha hdoes).farewell_mem_iff hchannel
      have hends : s ∉ alive (past ++ c.notes.map .sent) ↔
          ∃ note ∈ c.notes, s.channel.farewell? = some note := by
        simp [Bus.mem_alive_append_sent_iff, hs]
      rw [Operation.events_eq_sent (concernsBus_of_does hdoes), or_iff_right hne]
      exact hends.trans hfarewell
    | @subscribed channel hfree =>
      have hevents : Operation.events (.subscribe channel) ⟨.ok (.subscription a.bus.next),
          { a with bus := (a.bus.subscribe channel).2 }, [], []⟩ =
          [.subscribed ⟨a.bus.next, channel⟩] := rfl
      rw [hevents, Bus.alive_append]
      simp [Event.ends, hs, hchannel]
    | unsubscribed id => exact absurd ⟨id, rfl⟩ hcancel

/-- Whoever subscribes to a channel that there is gets a number, and is the last of those alive. -/
theorem perform_subscribe {channel : Channel} (hchannel : a.graph.HasChannel channel)
    (past : List Event) :
    ∃ id, (a.perform (.subscribe channel)).answer = .ok (.subscription id) ∧
      alive (past ++ Operation.events (.subscribe channel) (a.perform (.subscribe channel))) =
        alive past ++ [⟨id, channel⟩] := by
  have hperform : a.perform (.subscribe channel) = ⟨.ok (.subscription a.bus.next),
      { a with bus := (a.bus.subscribe channel).2 }, [], []⟩ := by
    rw [perform, subscribe, channelError?_eq_none_iff.2 hchannel]
    rfl
  refine ⟨a.bus.next, by rw [hperform], ?_⟩
  rw [hperform, Bus.alive_append]
  simp [Operation.events, Event.ends, alive]

/-- Cancelling a subscription tells whether it was alive. -/
theorem Tracks.unsubscribe_answer (h : Tracks past a) (id : Nat) :
    (a.perform (.unsubscribe id)).answer =
      .ok (.verdict (decide (id ∈ (alive past).map (·.id)))) := by
  have hanswer : (a.perform (.unsubscribe id)).answer = .ok (.verdict (a.bus.isAlive id)) := rfl
  have halive : a.bus.isAlive id = decide (id ∈ (alive past).map (·.id)) := by
    rw [Bus.isAlive, h.subscriptions, Bool.eq_iff_iff]
    simp
  rw [hanswer, halive]

/-- That its channel goes is the last thing that a subscription hears. -/
theorem Tracks.farewell (h : Tracks past a) (ha : a.graph.Consistent) {s : Subscription}
    (hs : s ∈ alive past) (hgone : ¬(a.perform operation).automaton.graph.HasChannel s.channel) :
    ∃ note before later, s.channel.farewell? = some note ∧
      (a.perform operation).deliveries = before ++ ⟨s.id, note⟩ :: later ∧
      ∀ d ∈ later, d.subscription ≠ s.id := by
  have hchannel := h.channels s hs
  have hgraph : operation.concernsBus = false := by
    by_contra hbus
    rw [graph_perform_of_concernsBus (by simpa using hbus)] at hgone
    exact hgone hchannel
  have htells := tells_of_performs ha (Automaton.performs a operation)
  obtain ⟨note, hnote, hfarewell⟩ := (htells.farewell_mem_iff hchannel).2 hgone
  have hids : ((made past).map (·.id)).Nodup := h.numbered ▸ List.nodup_range
  obtain ⟨before, later, hsplit, hsilent⟩ := Bus.exists_due_eq_append hs hids hnote hfarewell
  have hsent := (h.performs ha (Automaton.performs a operation)).2
  rw [Operation.events_eq_sent hgraph] at hsent
  exact ⟨note, before, later, hfarewell, hsent.trans hsplit, hsilent⟩

theorem Performs.next_eq (h : Performs a operation o)
    (hother : ∀ channel, operation ≠ .subscribe channel) : o.automaton.bus.next = a.bus.next := by
  cases h with
  | @changed _ answer c hdoes => exact Bus.next_publish a.bus c.notes
  | @subscribed channel hchannel => exact absurd rfl (hother channel)
  | _ => rfl

/-- Operations keep to the history, and deliver what is due. -/
theorem Tracks.performAll (h : Tracks past a) (ha : a.Reachable) (operations : List Operation) :
    Tracks (past ++ a.history operations) (a.performAll operations) ∧
      a.deliveriesOf operations = due past (a.history operations) := by
  induction operations generalizing a past with
  | nil =>
    rw [history, List.append_nil]
    exact ⟨h, rfl⟩
  | cons operation rest ih =>
    obtain ⟨hfirst, hdue⟩ := h.performs ha.consistent (Automaton.performs a operation)
    obtain ⟨hrest, hduerest⟩ := ih hfirst (ha.perform operation)
    rw [history, ← List.append_assoc, Bus.due_append, deliveriesOf, hdue, hduerest]
    exact ⟨hrest, rfl⟩

end Automaton

end NfaWorkbench
