import NfaWorkbench.Proofs.BusHistory
import NfaWorkbench.Proofs.Handles
set_option autoImplicit false

/-!
# Hearing everything once

Whoever has one subscription to every channel hears every notification of an operation once, in the
order in which they are sent (`Bus.map_note_publish`).  For the notifications travel on channels that
there are, and none comes after the one that closes its channel (`Graph.Carries`).  After the
operation there is again one subscription to every channel that is left (`Bus.count_publish`).
-/

namespace NfaWorkbench

namespace Graph

variable {g : Graph} {c : Change} {notes : List Notification}

/-- Notifications travel on channels that the graph has, and none comes after the last one of its
channel. -/
structure Carries (g : Graph) (notes : List Notification) : Prop where
  hasChannel : ∀ note ∈ notes, g.HasChannel note.channel
  last : notes.Pairwise fun earlier later => later.channel.farewell? ≠ some earlier

/-- Where no channel is closed, none comes too late. -/
theorem carries_of_open (hchannel : ∀ note ∈ notes, g.HasChannel note.channel)
    (hopen : ∀ note ∈ notes, note.closesChannel = false) : g.Carries notes where
  hasChannel := hchannel
  last := by
    refine List.pairwise_of_forall_mem_list fun earlier hearlier later _ hlast => ?_
    have hcloses := (Channel.farewell?_eq_some_iff.1 hlast).1
    simp [hopen earlier hearlier] at hcloses

/-! ## The simulation -/

/-- The simulation closes no channel, and announces flags of members only. -/
theorem carries_of_sendsStatus (hstatus : c.SendsStatus)
    (hflips : ∀ s, c.flips s ≠ 0 → s ∈ g.states.ids) : g.Carries c.notes := by
  refine carries_of_open (fun note hnote => ?_) (fun note hnote => ?_)
  · obtain rfl | ⟨s, rfl⟩ := hstatus note hnote
    · trivial
    · exact hflips s (Nat.ne_of_gt (List.count_pos_iff.2 hnote))
  · obtain rfl | ⟨s, rfl⟩ := hstatus note hnote <;> rfl

/-- A flag that differs is that of a member. -/
theorem FlipsOnce.mem_ids (h : g.FlipsOnce c) (hids : c.graph.states.ids = g.states.ids)
    {s : StateId} (hflips : c.flips s ≠ 0) : s ∈ g.states.ids := by
  rw [h s] at hflips
  by_cases hs : s ∈ g.flaggedStates
  · exact flaggedStates_subset hs
  · by_cases hafter : s ∈ c.graph.flaggedStates
    · exact hids ▸ flaggedStates_subset hafter
    · simp [hs, hafter] at hflips

theorem Consistent.carries_reset (hg : g.Consistent) : g.Carries g.reset.notes := by
  have hids : g.reset.graph.states.ids = g.states.ids :=
    ids_eq_of_unmarked_eq (g := { g with active := true }) (unmarked_reset g)
  exact carries_of_sendsStatus (sendsStatus_reset g) fun s => hg.flipsOnce_reset.mem_ids hids

theorem Named.carries_close (hg : g.Named) : g.Carries g.close.notes := by
  have hids := ids_eq_of_unmarked_eq (unmarked_close g)
  exact carries_of_sendsStatus (sendsStatus_close g) fun s => hg.flipsOnce_close.mem_ids hids

theorem Consistent.carries_recognise (hg : g.Consistent) : g.Carries g.recognise.2.notes := by
  unfold Graph.recognise
  split
  · exact hg.carries_close
  · exact ⟨by simp [Change.none], .nil⟩

theorem Consistent.carries_step (hg : g.Consistent) (event : Option String) :
    g.Carries (g.step event).notes := by
  refine carries_of_sendsStatus (sendsStatus_step g event) fun s => ?_
  unfold Graph.step
  split
  · -- The event is taken by the closed graph, which has the same members.
    have hids := ids_eq_of_unmarked_eq (unmarked_close g)
    have hclose : g.close.flips s ≠ 0 → s ∈ g.states.ids := hg.flipsOnce_close.mem_ids hids
    rw [Change.flips_notify_simulationChanged]
    cases event with
    | none => exact hclose
    | some label =>
      intro hflips
      rw [Change.flips_andThen] at hflips
      have hnext := hg.toNamed.of_unmarked_eq (unmarked_close g)
      have hadvance := ids_eq_of_unmarked_eq (unmarked_advance g.close.graph label)
      by_cases hzero : g.close.flips s = 0
      · rw [hzero, Nat.zero_add] at hflips
        exact hids ▸ (hnext.flipsOnce_advance label).mem_ids hadvance hflips
      · exact hclose hzero
  · intro hflips
    exact absurd rfl hflips

/-! ## Removing -/

theorem Consistent.carries_removeTransition (hg : g.Consistent) (t : TransitionId) :
    g.Carries (g.removeTransition t).notes := by
  unfold Graph.removeTransition
  split
  · exact ⟨by simp [Change.none], .nil⟩
  · rename_i transition hsome
    have ht := Registry.mem_ids_of_mem (hg.transition?_eq_some_iff.1 hsome)
    refine ⟨?_, by simp [Channel.farewell?, Notification.channel]⟩
    simpa [HasChannel, Notification.channel] using ht

/-- Each of the transitions that go is taken leave of once. -/
theorem pairwise_partings {ts : List TransitionId} (h : ts.Nodup) :
    (partings ts).Pairwise fun earlier later => later.channel.farewell? ≠ some earlier := by
  refine List.pairwise_flatMap.2 ⟨fun t _ => ?_, h.imp fun hne => ?_⟩
  · simp [Channel.farewell?, Notification.channel]
  · simpa [Channel.farewell?, Notification.channel] using Ne.symm hne

theorem Consistent.carries_removeState (hg : g.Consistent) (s : StateId) :
    g.Carries (g.removeState s).notes := by
  by_cases hs : s ∈ g.states.ids
  · obtain ⟨state, hstate⟩ := Registry.mem_ids_iff.1 hs
    rw [hg.notes_removeState hstate]
    have htouching : ∀ t ∈ g.touching state, t ∈ g.transitions.ids := fun t ht =>
      (List.mem_filter.1 ht).1
    refine ⟨?_, List.pairwise_append.2 ⟨pairwise_partings ?_, ?_, ?_⟩⟩
    · simp only [partings, List.mem_append, List.mem_flatMap, List.mem_cons, List.not_mem_nil,
        or_false]
      rintro note (⟨t, ht, rfl | rfl⟩ | rfl | rfl)
      · exact htouching t ht
      · trivial
      · exact hs
      · trivial
    · exact hg.transitionIds_nodup.filter _
    · simp [Channel.farewell?, Notification.channel]
    · simp only [partings, List.mem_flatMap, List.mem_cons, List.not_mem_nil, or_false]
      rintro earlier ⟨t, -, rfl | rfl⟩ later (rfl | rfl) <;>
        simp [Channel.farewell?, Notification.channel]
  · rw [removeState_of_not_mem hs]
    exact ⟨by simp [Change.none], .nil⟩

end Graph

namespace Automaton

variable {g : Graph} {operation : Operation} {answer : Answer} {c : Change}

/-! ## All operations -/

theorem carries_of_does (hg : g.Consistent) (h : Does g operation answer c) :
    g.Carries c.notes := by
  cases h with
  | createState hname hfree =>
    exact Graph.carries_of_open (by simp [Graph.HasChannel, Notification.channel])
      (by simp [Notification.closesChannel])
  | removeState s => exact hg.carries_removeState s
  | @changeState operation s aspect f hchange hs =>
    refine Graph.carries_of_open (by simpa [Graph.HasChannel, Notification.channel] using hs) ?_
    have hquiet := (Operation.showsIn_attribute hchange).ne_removed
    cases aspect <;> simp [Notification.closesChannel] at hquiet ⊢
  | createTransition hsource htarget hlabel hedge =>
    exact Graph.carries_of_open (by simp [Graph.HasChannel, Notification.channel])
      (by simp [Notification.closesChannel])
  | removeTransition t => exact hg.carries_removeTransition t
  | reset => exact hg.carries_reset
  | step event => exact hg.carries_step event
  | recognise => exact hg.carries_recognise

/-- A state of which anything but its removal is told is still there. -/
theorem mem_ids_of_mem_notes (hg : g.Consistent) (h : Does g operation answer c) {s : StateId}
    {aspect : StateAspect} (hnote : .state s aspect ∈ c.notes) (haspect : aspect ≠ .removed) :
    s ∈ c.graph.states.ids := by
  cases hremoval : operation.isRemoval with
  | true =>
    -- A removal tells of no state but the one that goes.
    exfalso
    cases h with
    | removeState t =>
      by_cases ht : t ∈ g.states.ids
      · obtain ⟨state, hstate⟩ := Registry.mem_ids_iff.1 ht
        rw [hg.notes_removeState hstate] at hnote
        simp [Graph.partings, haspect] at hnote
      · rw [Graph.removeState_of_not_mem ht] at hnote
        simp [Change.none] at hnote
    | removeTransition t =>
      unfold Graph.removeTransition at hnote
      split at hnote <;> simp [Change.none] at hnote
    | changeState hchange hs =>
      cases operation <;> simp [Operation.attribute?, Operation.isRemoval] at hchange hremoval
    | _ => simp [Operation.isRemoval] at hremoval
  | false =>
    have hold := (carries_of_does hg h).hasChannel _ hnote
    have hkept := (mem_handles_of_does hg h (.state s)).2
      (.inr ⟨Graph.state_mem_handles_iff.2 hold, not_removes hremoval _⟩)
    exact Graph.state_mem_handles_iff.1 hkept

end Automaton

namespace Bus

variable {b : Bus} {notes : List Notification}

/-! ## One subscription to every channel -/

/-- The channels that are listened to, in the order of the subscriptions. -/
def channels (b : Bus) : List Channel := b.subscriptions.map (·.channel)

theorem channels_subscribe (b : Bus) (channel : Channel) :
    (b.subscribe channel).2.channels = b.channels ++ [channel] := by
  simp [channels, subscribe]

theorem channels_after (b : Bus) (note : Notification) :
    (b.after note).channels = b.channels.filter fun channel => channel.farewell? ≠ some note := by
  rw [channels, subscriptions_after, channels, List.filter_map]
  congr 2
  funext s
  simp [Event.ends]

/-- A channel whose last notification is sent is listened to no more; for the others nothing
changes. -/
theorem count_publish (b : Bus) (notes : List Notification) (channel : Channel) :
    (b.publish notes).1.channels.count channel =
      if ∃ note ∈ notes, channel.farewell? = some note then 0 else b.channels.count channel := by
  have hchannels : (b.publish notes).1.channels =
      b.channels.filter fun other => notes.all fun note => !decide (other.farewell? = some note) := by
    rw [channels, subscriptions_publish, channels, List.filter_map]
    rfl
  rw [hchannels]
  by_cases hlast : ∃ note ∈ notes, channel.farewell? = some note
  · obtain ⟨note, hnote, hfarewell⟩ := hlast
    rw [if_pos ⟨note, hnote, hfarewell⟩, List.count_eq_zero]
    intro hmem
    have hnever := List.all_eq_true.1 (List.mem_filter.1 hmem).2 note hnote
    simp [hfarewell] at hnever
  · rw [if_neg hlast, List.count_filter (by simpa using hlast)]

theorem map_note_deliveries (b : Bus) (note : Notification) :
    (b.deliveries note).map (·.note) = List.replicate (b.channels.count note.channel) note := by
  rw [deliveries, List.map_map, channels, List.count_eq_length_filter, List.filter_map,
    List.length_map, List.eq_replicate_iff]
  refine ⟨?_, fun other hother => ?_⟩
  · rw [List.length_map]
    rfl
  · obtain ⟨s, _, rfl⟩ := List.mem_map.1 hother
    rfl

/-- Where one subscription to every channel is alive, the deliveries are the notifications. -/
theorem map_note_publish (hcount : ∀ note ∈ notes, b.channels.count note.channel = 1)
    (hlast : notes.Pairwise fun earlier later => later.channel.farewell? ≠ some earlier) :
    (b.publish notes).2.map (·.note) = notes := by
  induction notes generalizing b with
  | nil => rfl
  | cons note rest ih =>
    obtain ⟨hfirst, hrest⟩ := List.pairwise_cons.1 hlast
    have hlater : ∀ later ∈ rest, (b.after note).channels.count later.channel = 1 := by
      intro later hmem
      rw [channels_after, List.count_filter (by simpa using hfirst later hmem)]
      exact hcount later (List.mem_cons_of_mem note hmem)
    rw [publish, List.map_append, map_note_deliveries, hcount note List.mem_cons_self,
      ih hlater hrest]
    rfl

end Bus

end NfaWorkbench
