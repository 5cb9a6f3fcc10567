import NfaWorkbench.Proofs.Delivery
import NfaWorkbench.Proofs.Removal
set_option autoImplicit false

/-!
# Automata: creation undone

Removing what was created brings the automaton back, apart from its counters.  A state may be shaped
in the meantime, by transitions of which it is an end and by its own attributes: whatever is done to
it, it leaves the same automaton when it goes (`Builds`), and there is only one such automaton.
-/

namespace NfaWorkbench.Automaton

/-- The automaton with other counters of its states, its transitions and its subscriptions. -/
def withCounters (a : Automaton) (states transitions subscriptions : Nat) : Automaton where
  graph := { a.graph with nextState := states, nextTransition := transitions }
  bus := { a.bus with next := subscriptions }

/-- The operations that shape one state: they create a transition of which it is an end, set or
clear a flag of it, or move it. -/
inductive Shapes (s : StateId) : Operation → Prop
  | outgoing (target : StateId) (label : Option String) :
      Shapes s (.createTransition s target label)
  | incoming (source : StateId) (label : Option String) :
      Shapes s (.createTransition source s label)
  | setInitial (value : Bool) : Shapes s (.setInitial s value)
  | setFinal (value : Bool) : Shapes s (.setFinal s value)
  | moveBy (dx dy : Coordinate) : Shapes s (.moveBy s dx dy)

variable {a b : Automaton} {s : StateId} {operation : Operation}

theorem Shapes.isRemoval_eq (h : Shapes s operation) : operation.isRemoval = false := by
  cases h <;> rfl

/-! ## What leaves no trace -/

theorem hasChannel_withCounters_iff {states transitions subscriptions : Nat} {channel : Channel} :
    (a.withCounters states transitions subscriptions).graph.HasChannel channel ↔
      a.graph.HasChannel channel := by
  cases channel <;> rfl

/-- A removal brings back the automaton of which it leaves the graph and the listeners. -/
theorem Reachable.removal_eq_withCounters (h : b.Reachable) {x : Handle} {states transitions : Nat}
    (hleaves : b.graph.Leaves [x]
      { a.graph with nextState := states, nextTransition := transitions })
    (hbus : b.bus.subscriptions.filter (fun u => a.graph.HasChannel u.channel) =
      a.bus.subscriptions) :
    (b.perform x.removal).automaton = a.withCounters states transitions b.bus.next := by
  refine (h.leaves_removal x).unique ⟨hleaves, ?_⟩
  simp only [hasChannel_withCounters_iff, hbus]
  rfl

/-! ## A new state, and what becomes of it -/

/-- The automaton `b` is `a` with a new state `s`, so that it is `a` again, up to its counters, when
the state goes. -/
structure Builds (a : Automaton) (s : StateId) (b : Automaton) : Prop where
  reachable : b.Reachable
  leaves : b.graph.Leaves [.state s]
    { a.graph with
      nextState := a.graph.nextState + 1, nextTransition := b.graph.nextTransition }
  bus_eq : b.bus = a.bus

theorem Reachable.builds_createState (h : a.Reachable) {name : String} {position : Position}
    (hs : (a.perform (.createState name position)).answer = .ok (.state s)) :
    Builds a s (a.perform (.createState name position)).automaton := by
  obtain ⟨c, hdoes, hperform⟩ := exists_does_of_answer_eq_ok rfl hs
  refine ⟨h.perform _, ?_, hperform ▸ h.bus_changed_of_keeps hdoes rfl⟩
  rw [hperform]
  cases hdoes with
  | createState hname hfree =>
    exact h.consistent.leaves_addState hfree position

theorem Builds.perform (h : Builds a s b) (hshapes : Shapes s operation) :
    Builds a s (b.perform operation).automaton := by
  have hreachable := h.reachable.perform operation
  have hperforms := performs b operation
  generalize b.perform operation = o at hreachable hperforms
  cases hperforms with
  | refused operation error => exact h
  | changed hdoes =>
    have hbus := h.reachable.bus_changed_of_keeps hdoes hshapes.isRemoval_eq
    refine ⟨hreachable, ?_, hbus.trans h.bus_eq⟩
    -- What is added or changed goes together with the state.
    cases hdoes with
    | @changeState operation u aspect f hchange hu =>
      obtain rfl : u = s := by
        cases hshapes <;> simp_all [Operation.attribute?]
      exact h.leaves.modifyState List.mem_cons_self f
    | createTransition hsource htarget hlabel hedge =>
      refine h.leaves.addTransition h.reachable.consistent.toWired ?_
      cases hshapes <;> simp [Graph.IsSpared]
    | _ => cases hshapes
  | subscribed hchannel => cases hshapes
  | unsubscribed id => cases hshapes

theorem Builds.performAll (h : Builds a s b) {operations : List Operation}
    (hshapes : ∀ operation ∈ operations, Shapes s operation) :
    Builds a s (b.performAll operations) := by
  induction operations generalizing b with
  | nil => exact h
  | cons operation rest ih =>
    obtain ⟨hfirst, hrest⟩ := List.forall_mem_cons.1 hshapes
    exact ih (h.perform hfirst) hrest

/-! ## Creation undone -/

/-- Whatever is created goes without a trace, but for the counters. -/
structure UndoesCreation (a : Automaton) : Prop where
  /-- It does not matter what becomes of a new state. -/
  removeState : ∀ name position s,
    (a.perform (.createState name position)).answer = .ok (.state s) →
    ∀ operations : List Operation, (∀ operation ∈ operations, Shapes s operation) →
    ∃ transitions,
      a.performAll (.createState name position :: operations ++ [.removeState s]) =
        a.withCounters (a.graph.nextState + 1) transitions a.bus.next
  removeTransition : ∀ source target label t,
    (a.perform (.createTransition source target label)).answer = .ok (.transition t) →
    a.performAll [.createTransition source target label, .removeTransition t] =
      a.withCounters a.graph.nextState (a.graph.nextTransition + 1) a.bus.next

theorem Reachable.undoesCreation (h : a.Reachable) : a.UndoesCreation where
  removeState name position s hs operations hshapes := by
    have hbuilds := (h.builds_createState hs).performAll hshapes
    have hbus := hbuilds.bus_eq
    have hback := hbuilds.reachable.removal_eq_withCounters hbuilds.leaves
      (hbus ▸ h.filter_hasChannel)
    rw [hbus] at hback
    exact ⟨_, (performAll_concat _ _ _).trans hback⟩
  removeTransition source target label t ht := by
    have hreachable := h.perform (.createTransition source target label)
    obtain ⟨c, hdoes, hperform⟩ := exists_does_of_answer_eq_ok rfl ht
    have hbus := h.bus_changed_of_keeps hdoes rfl
    rw [performAll_cons, hperform]
    rw [hperform] at hreachable
    cases hdoes with
    | createTransition hsource htarget hlabel hedge =>
      have hback := hreachable.removal_eq_withCounters
        (h.consistent.leaves_addTransition source target label) (hbus ▸ h.filter_hasChannel)
      rw [hbus] at hback
      exact hback

end NfaWorkbench.Automaton
