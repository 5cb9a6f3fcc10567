import NfaWorkbench.Editor.Session
import NfaWorkbench.Proofs.Hearing
set_option autoImplicit false

/-!
# Editor: listening

A session listens to every channel of its automaton once and to no other (`Attended`).  It begins so
with every graph, because all channels that it asks for exist.  It stays so when the graph changes:
the subscriptions to what goes end by themselves, and the one channel that may be new is added.
-/

namespace NfaWorkbench

/-- The channel on which a member is heard of. -/
def Handle.channel : Handle → Channel
  | state s => .state s
  | transition t => .transition t

theorem Handle.channel_injective : Function.Injective Handle.channel := by
  intro h k heq
  cases h <;> cases k <;> simp_all [Handle.channel]

theorem Graph.hasChannel_channel_iff {g : Graph} {h : Handle} :
    g.HasChannel h.channel ↔ h ∈ g.handles := by
  cases h <;> simp [Handle.channel, HasChannel]

namespace Editor.Session

open Automaton (Answer Does Operation)

variable {s : Session} {g : Graph} {c : Change} {channel : Channel} {l : List Channel}

/-! ## The channels of a graph -/

theorem channels_eq (g : Graph) : channels g = .automaton :: g.handles.map Handle.channel := by
  simp [channels, Graph.handles, Handle.channel, Function.comp_def]

theorem mem_channels_iff : channel ∈ channels g ↔ g.HasChannel channel := by
  cases channel <;> simp [channels, Graph.HasChannel]

theorem channels_nodup (hg : g.Consistent) : (channels g).Nodup := by
  rw [channels_eq, List.nodup_cons]
  refine ⟨?_, hg.handles_nodup.map Handle.channel_injective⟩
  rw [List.mem_map]
  rintro ⟨h, -, heq⟩
  cases h <;> simp [Handle.channel] at heq

/-! ## Beginning to listen -/

/-- The session with one more subscription. -/
def subscribed (s : Session) (channel : Channel) : Session :=
  { s with automaton := { s.automaton with bus := (s.automaton.bus.subscribe channel).2 } }

/-- A channel that exists can be listened to. -/
theorem listen_eq_ok (h : s.graph.HasChannel channel) :
    s.listen channel = .ok (s.subscribed channel) := by
  rw [listen, Automaton.subscribe, Automaton.channelError?_eq_none_iff.2 h]
  rfl

theorem listenAll_eq_ok (h : ∀ channel ∈ l, s.graph.HasChannel channel) :
    s.listenAll l = (.ok (), l.foldl subscribed s) := by
  induction l generalizing s with
  | nil => rfl
  | cons channel rest ih =>
    obtain ⟨hfirst, hrest⟩ := List.forall_mem_cons.1 h
    rw [listenAll, listen_eq_ok hfirst]
    exact ih hrest

/-- The session that begins with a graph and listens to all its channels. -/
def begun (s : Session) (g : Graph) : Session :=
  (channels g).foldl subscribed { s with automaton := .ofGraph g, path := none, log := [] }

theorem replace_eq_ok (s : Session) (g : Graph) : s.replace g = (.ok (), s.begun g) :=
  listenAll_eq_ok fun _ h => mem_channels_iff.1 h

/-- Subscriptions change nothing but the bus. -/
theorem foldl_subscribed_eq (l : List Channel) (s : Session) :
    l.foldl subscribed s = { s with
      automaton.bus := l.foldl (fun b channel => (b.subscribe channel).2) s.automaton.bus } := by
  induction l generalizing s with
  | nil => rfl
  | cons channel rest ih => exact ih (s.subscribed channel)

@[simp]
theorem graph_begun (s : Session) (g : Graph) : (s.begun g).graph = g := by
  rw [begun, foldl_subscribed_eq]
  rfl

@[simp]
theorem path_begun (s : Session) (g : Graph) : (s.begun g).path = none := by
  rw [begun, foldl_subscribed_eq]

@[simp]
theorem log_begun (s : Session) (g : Graph) : (s.begun g).log = [] := by
  rw [begun, foldl_subscribed_eq]

@[simp]
theorem watch_begun (s : Session) (g : Graph) : (s.begun g).watch = s.watch := by
  rw [begun, foldl_subscribed_eq]

theorem channels_foldl_subscribed (l : List Channel) (s : Session) :
    (l.foldl subscribed s).automaton.bus.channels = s.automaton.bus.channels ++ l := by
  induction l generalizing s with
  | nil => simp
  | cons channel rest ih =>
    rw [List.foldl_cons, ih, subscribed, Bus.channels_subscribe, List.append_assoc]
    rfl

/-- A subscription is an operation of the automaton. -/
theorem automaton_subscribed (h : s.graph.HasChannel channel) :
    (s.subscribed channel).automaton = (s.automaton.perform (.subscribe channel)).automaton := by
  rw [Automaton.perform, Automaton.subscribe, Automaton.channelError?_eq_none_iff.2 h]
  rfl

theorem reachable_foldl_subscribed (hs : s.automaton.Reachable)
    (h : ∀ channel ∈ l, s.graph.HasChannel channel) :
    (l.foldl subscribed s).automaton.Reachable := by
  induction l generalizing s with
  | nil => exact hs
  | cons channel rest ih =>
    obtain ⟨hfirst, hrest⟩ := List.forall_mem_cons.1 h
    refine ih ?_ hrest
    rw [automaton_subscribed hfirst]
    exact hs.perform _

theorem reachable_begun (s : Session) (hg : (Automaton.ofGraph g).Reachable) :
    (s.begun g).automaton.Reachable :=
  reachable_foldl_subscribed hg fun _ h => mem_channels_iff.1 h

/-! ## One subscription to every channel -/

/-- There is one subscription to every channel of the automaton, and no other. -/
def Attended (a : Automaton) : Prop := a.bus.channels.Perm (channels a.graph)

theorem attended_iff {a : Automaton} (ha : a.graph.Consistent) : Attended a ↔
    ∀ channel, a.bus.channels.count channel = if channel ∈ channels a.graph then 1 else 0 := by
  rw [Attended, List.perm_iff_count]
  simp only [(channels_nodup ha).count]

theorem attended_begun (s : Session) (g : Graph) : Attended (s.begun g).automaton := by
  have hchannels : (s.begun g).automaton.bus.channels = channels g :=
    channels_foldl_subscribed _ _
  have hgraph : (s.begun g).automaton.graph = g := graph_begun s g
  rw [Attended, hchannels, hgraph]

/-- After a change there is one subscription to every channel that there was before and still is. -/
theorem count_channels_apply (hg : s.graph.Consistent) (hs : Attended s.automaton)
    {operation : Operation} {answer : Answer} (hdoes : Does s.graph operation answer c)
    (channel : Channel) : (s.apply c).automaton.bus.channels.count channel =
      if channel ∈ channels c.graph ∧ channel ∉ answer.issued.map Handle.channel then 1 else 0 := by
  have hbus : (s.apply c).automaton.bus = (s.automaton.bus.publish c.notes).1 := rfl
  rw [hbus, Bus.count_publish, (attended_iff hg).1 hs]
  change (if _ then 0 else if channel ∈ channels s.graph then 1 else 0) = _
  -- What is issued was no channel before.
  have hnew : channel ∈ answer.issued.map Handle.channel → channel ∉ channels s.graph := by
    rw [List.mem_map]
    rintro ⟨h, hissued, rfl⟩ hold
    rw [mem_channels_iff, Graph.hasChannel_channel_iff] at hold
    exact (Automaton.hasIssued_of_does hdoes hissued).2 (hg.hasIssued_of_mem hold)
  by_cases hold : channel ∈ channels s.graph
  · have hgone := (Automaton.tells_of_does hg hdoes).farewell_mem_iff (mem_channels_iff.1 hold)
    rw [← mem_channels_iff] at hgone
    have hissued : channel ∉ answer.issued.map Handle.channel := fun h => hnew h hold
    by_cases hafter : channel ∈ channels c.graph <;> simp [hgone, hold, hissued, hafter]
  · have hafter : ¬(channel ∈ channels c.graph ∧ channel ∉ answer.issued.map Handle.channel) := by
      rintro ⟨hmem, hissued⟩
      rw [channels_eq, List.mem_cons] at hmem hold
      push Not at hold
      obtain rfl | hmem := hmem
      · exact hold.1 rfl
      · obtain ⟨h, hh, rfl⟩ := List.mem_map.1 hmem
        obtain hh | ⟨hh, -⟩ := (Automaton.mem_handles_of_does hg hdoes h).1 hh
        · exact hissued (List.mem_map_of_mem hh)
        · exact hold.2 (List.mem_map_of_mem hh)
    rw [if_neg hold, if_neg hafter, ite_self]

/-- A change that brings nothing new. -/
theorem attended_apply (hg : s.graph.Consistent) (hs : Attended s.automaton)
    {operation : Operation} {answer : Answer} (hdoes : Does s.graph operation answer c)
    (hissued : answer.issued = []) : Attended (s.apply c).automaton := by
  refine (attended_iff (Automaton.consistent_of_does hg hdoes)).2 fun channel => ?_
  rw [count_channels_apply hg hs hdoes, hissued]
  simp only [List.map_nil, List.not_mem_nil, not_false_eq_true, and_true]
  rfl

/-- What a change has brought is listened to from now on. -/
theorem attended_adopt (hg : s.graph.Consistent) (hs : Attended s.automaton)
    {operation : Operation} {answer : Answer} (hdoes : Does s.graph operation answer c) {h : Handle}
    (hissued : answer.issued = [h]) : Attended ((s.apply c).subscribed h.channel).automaton := by
  refine (attended_iff (Automaton.consistent_of_does hg hdoes)).2 fun channel => ?_
  have hbus : ((s.apply c).subscribed h.channel).automaton.bus.channels =
      (s.apply c).automaton.bus.channels ++ [h.channel] := Bus.channels_subscribe _ _
  have hgraph : ((s.apply c).subscribed h.channel).automaton.graph = c.graph := rfl
  have hmem : h.channel ∈ channels c.graph := by
    rw [mem_channels_iff, Graph.hasChannel_channel_iff]
    exact (Automaton.mem_handles_of_does hg hdoes h).2 (.inl (by simp [hissued]))
  rw [hbus, hgraph, List.count_append, count_channels_apply hg hs hdoes, hissued]
  by_cases heq : channel = h.channel
  · simp [heq, hmem]
  · simp [heq, Ne.symm heq]

/-- Where every channel is listened to once, every notification of an operation is heard once, and
in order. -/
theorem map_note_publish {a : Automaton} (ha : a.graph.Consistent) (hattended : Attended a)
    {operation : Operation} {answer : Answer} (hdoes : Does a.graph operation answer c) :
    (a.bus.publish c.notes).2.map (·.note) = c.notes := by
  obtain ⟨hchannel, hlast⟩ := Automaton.carries_of_does ha hdoes
  refine Bus.map_note_publish (fun note hnote => ?_) hlast
  rw [(attended_iff ha).1 hattended, if_pos (mem_channels_iff.2 (hchannel note hnote))]

theorem log_apply (hg : s.graph.Consistent) (hs : Attended s.automaton)
    {operation : Operation} {answer : Answer} (hdoes : Does s.graph operation answer c) :
    (s.apply c).log = s.log ++ c.notes :=
  congrArg (s.log ++ ·) (map_note_publish hg hs hdoes)

end Editor.Session

end NfaWorkbench
