import Mathlib.Order.Bounds.Basic
import NfaWorkbench.Proofs.Simulation.Flips
set_option autoImplicit false

/-!
# Simulation: single operations

What one operation of the simulation does to an automaton, completely: which states are current
afterwards, what it answers, what it announces, and that nothing else is different (`Simulates`).
The states that epsilon transitions lead to are described without the machine of the theory, as the
least set that is closed under the member transitions without a label.
-/

namespace NfaWorkbench

/-- Only a notification that closes its channel ends subscriptions. -/
theorem Bus.publish_fst_of_open (b : Bus) {notes : List Notification}
    (hopen : ∀ note ∈ notes, note.closesChannel = false) : (b.publish notes).1 = b := by
  induction notes with
  | nil => rfl
  | cons note rest ih =>
    obtain ⟨hfirst, hrest⟩ := List.forall_mem_cons.1 hopen
    have hafter : b.after note = b := by rw [after, hfirst, if_neg Bool.false_ne_true]
    rw [publish, hafter]
    exact ih hrest

namespace Graph

variable {g : Graph}

/-- Whatever an epsilon transition of the graph leads to from a state of the set is in the set. -/
def EpsilonClosed (g : Graph) (S : Set StateId) : Prop :=
  ∀ t source target, (t, ⟨source, target, none⟩) ∈ g.transitions → source ∈ S → target ∈ S

/-- The closure of the theory is the least closed set. -/
theorem isLeast_εClosure (S : Set StateId) :
    IsLeast {T | S ⊆ T ∧ g.EpsilonClosed T} (g.machine.εClosure S) := by
  constructor
  · refine ⟨g.machine.subset_εClosure S, ?_⟩
    intro t source target ht hsource
    exact εNFA.εClosure.step source target ⟨t, ht⟩ hsource
  · rintro T ⟨hsubset, hclosed⟩
    refine εClosure_subset_of_closed hsubset ?_
    rintro source hsource target ⟨t, ht⟩
    exact hclosed t source target ht hsource

theorem mem_moveSet_iff {S : Set StateId} {label : String} {s : StateId} :
    s ∈ moveSet g.machine S label ↔
      ∃ t, ∃ source ∈ S, (t, ⟨source, s, some label⟩) ∈ g.transitions := by
  constructor
  · rintro ⟨source, hsource, t, ht⟩
    exact ⟨t, source, hsource, ht⟩
  · rintro ⟨t, source, hsource, ht⟩
    exact ⟨source, hsource, t, ht⟩

end Graph

namespace Automaton

variable {a : Automaton} {active : Bool} {last : List Notification}

/-- An operation writes current flags, and announces each write and then `last`.  Whether the
simulation runs afterwards is `active`; everything else is as it was. -/
structure Simulates (a : Automaton) (o : Outcome) (active : Bool) (last : List Notification) :
    Prop where
  graph : o.automaton.graph.unmarked = { a.graph.unmarked with active := active }
  bus : o.automaton.bus = a.bus
  notes : ∃ flips, o.notes = flips ++ last ∧ ∀ note ∈ flips, ∃ s, note = .state s .current

theorem simulates_changed {answer : Answer} {c flips : Change}
    (hframe : c.graph.unmarked = { a.graph.unmarked with active := active })
    (hflips : flips.SendsFlips) (hnotes : c.notes = flips.notes ++ last)
    (hlast : ∀ note ∈ last, note.closesChannel = false) :
    a.Simulates (a.changed answer c) active last where
  graph := hframe
  bus := by
    refine a.bus.publish_fst_of_open ?_
    rw [hnotes]
    refine List.forall_mem_append.2 ⟨fun note hnote => ?_, hlast⟩
    obtain ⟨s, rfl⟩ := hflips note hnote
    rfl
  notes := ⟨flips.notes, hnotes, hflips⟩

theorem simulates_reset (a : Automaton) :
    a.Simulates (a.perform .reset) true [.simulationChanged] :=
  simulates_changed (Graph.unmarked_reset a.graph) (Graph.sendsFlips_flagInitial a.graph) rfl
    (by simp [Notification.closesChannel])

theorem simulates_step (hactive : a.graph.active = true) (event : Option String) :
    a.Simulates (a.perform (.step event)) a.graph.active [.simulationChanged] := by
  have hframe : (a.graph.step event).graph.unmarked = a.graph.unmarked :=
    Graph.unmarked_step a.graph event
  have hlast : ∀ note ∈ [Notification.simulationChanged], note.closesChannel = false := by
    simp [Notification.closesChannel]
  cases event with
  | none =>
    refine simulates_changed hframe (Graph.sendsFlips_close a.graph) ?_ hlast
    rw [Graph.step, if_pos hactive]
    rfl
  | some label =>
    refine simulates_changed hframe ((Graph.sendsFlips_close a.graph).andThen
      (f := (·.advance label)) (Graph.sendsFlips_advance _ label)) ?_ hlast
    rw [Graph.step, if_pos hactive]
    rfl

theorem simulates_recognise (hactive : a.graph.active = true) :
    a.Simulates (a.perform .recognise) a.graph.active [] := by
  refine simulates_changed (Graph.unmarked_recognise a.graph) (Graph.sendsFlips_close a.graph) ?_
    (by simp)
  rw [Graph.recognise, if_pos hactive, List.append_nil]

/-- Without a running simulation a step does nothing. -/
theorem perform_step_of_idle (hidle : a.graph.active = false) (event : Option String) :
    a.perform (.step event) = ⟨.ok .done, a, [], []⟩ := by
  rw [perform, Graph.step.eq_def, if_neg (Bool.eq_false_iff.1 hidle)]
  rfl

/-- Without a running simulation nothing is recognised. -/
theorem perform_recognise_of_idle (hidle : a.graph.active = false) :
    a.perform .recognise = ⟨.ok (.verdict false), a, [], []⟩ := by
  rw [perform, Graph.recognise, if_neg (Bool.eq_false_iff.1 hidle)]
  rfl

/-- What single operations do.  In a running simulation a step without an event makes the closure
of the current states current.  A step with an event makes the states current that transitions with
this label lead to from the closure.  The verdict is whether the closure has a final state, and
asking for it makes the closure current.  A restart starts the simulation in the initial states, and
before the first one nothing happens.  Nothing but flags is written, and only a step and a restart
announce anything about the automaton as a whole, once and at the end. -/
theorem Reachable.simulation_correct {a : Automaton} (h : a.Reachable) :
    (∃ closure : Set StateId,
      IsLeast {S | {s | s ∈ a.graph.currentStates} ⊆ S ∧ a.graph.EpsilonClosed S} closure ∧
      (a.graph.active = true →
        (∀ s, s ∈ (a.perform (.step none)).automaton.graph.currentStates ↔ s ∈ closure) ∧
        (∀ event s, s ∈ (a.perform (.step (some event))).automaton.graph.currentStates ↔
          ∃ t, ∃ source ∈ closure, (t, ⟨source, s, some event⟩) ∈ a.graph.transitions) ∧
        (∀ s, s ∈ (a.perform .recognise).automaton.graph.currentStates ↔ s ∈ closure) ∧
        ∃ verdict, (a.perform .recognise).answer = .ok (.verdict verdict) ∧
          (verdict = true ↔ ∃ s ∈ closure, s ∈ a.graph.finalStates))) ∧
    (∀ s, s ∈ (a.perform .reset).automaton.graph.currentStates ↔ s ∈ a.graph.initialStates) ∧
    a.Simulates (a.perform .reset) true [.simulationChanged] ∧
    (a.graph.active = true →
      (∀ event, a.Simulates (a.perform (.step event)) a.graph.active [.simulationChanged]) ∧
      a.Simulates (a.perform .recognise) a.graph.active []) ∧
    (a.graph.active = false →
      (∀ event, a.perform (.step event) = ⟨.ok .done, a, [], []⟩) ∧
      a.perform .recognise = ⟨.ok (.verdict false), a, [], []⟩) := by
  have hg := h.consistent
  have hcurrent : {s | s ∈ a.graph.currentStates} = a.graph.marked := by
    rw [hg.currentStates_eq]
    rfl
  refine ⟨⟨a.graph.machine.εClosure a.graph.marked, ?_, fun hactive => ⟨?_, ?_, ?_, ?_⟩⟩, ?_,
    simulates_reset a, fun hactive => ⟨simulates_step hactive, simulates_recognise hactive⟩,
    fun hidle => ⟨perform_step_of_idle hidle, perform_recognise_of_idle hidle⟩⟩
  · rw [hcurrent]
    exact Graph.isLeast_εClosure _
  · intro s
    change s ∈ (a.graph.step none).graph.currentStates ↔ _
    rw [(hg.step none).currentStates_eq, ← Graph.mem_marked_iff, hg.marked_step hactive]
  · intro event s
    change s ∈ (a.graph.step (some event)).graph.currentStates ↔ _
    rw [(hg.step _).currentStates_eq, ← Graph.mem_marked_iff, hg.marked_step hactive,
      Graph.mem_moveSet_iff]
  · intro s
    change s ∈ a.graph.recognise.2.graph.currentStates ↔ _
    rw [hg.recognise.currentStates_eq, ← Graph.mem_marked_iff, Graph.recognise, if_pos hactive,
      hg.marked_close hactive]
  · refine ⟨_, rfl, ?_⟩
    have hclosed : a.graph.close.graph.Consistent :=
      hg.of_unmarked_eq (Graph.unmarked_close a.graph) hactive
    rw [Graph.recognise, if_pos hactive, hclosed.hasCurrentFinal_iff, hg.marked_close hactive,
      Graph.machine_eq_of_unmarked_eq (Graph.unmarked_close a.graph)]
    rfl
  · intro s
    change s ∈ a.graph.reset.graph.currentStates ↔ _
    rw [hg.reset.currentStates_eq, ← Graph.mem_marked_iff, hg.marked_reset]
    rfl

/-- In its second state the sample is in its first state as well, by the epsilon transition back:
asking for the verdict shows it. -/
theorem sampleAhead_simulation_correct : sampleAhead.Reachable ∧
    sampleAhead.graph.active = true ∧ sampleAhead.graph.currentStates = [⟨0, 2⟩] ∧
    ∀ closure, IsLeast {S | {s | s ∈ sampleAhead.graph.currentStates} ⊆ S ∧
      sampleAhead.graph.EpsilonClosed S} closure → ⟨0, 0⟩ ∈ closure := by
  have hactive : sampleAhead.graph.active = true := by decide +kernel
  have hasked : (sampleAhead.perform .recognise).automaton.graph.currentStates =
      [⟨0, 0⟩, ⟨0, 2⟩] := by decide +kernel
  refine ⟨reachable_sampleAhead, hactive, by decide +kernel, fun closure hleast => ?_⟩
  obtain ⟨⟨found, hfound, hrunning⟩, _⟩ := reachable_sampleAhead.simulation_correct
  obtain ⟨_, _, hrecognise, _⟩ := hrunning hactive
  rw [hleast.unique hfound, ← hrecognise, hasked]
  exact List.mem_cons_self

end Automaton

end NfaWorkbench
