import NfaWorkbench.Proofs.Removal
import NfaWorkbench.Proofs.Simulation.Marking
set_option autoImplicit false

/-!
# Automata: editing during a simulation

Edits leave the simulation alone.  What they create is not current, what they remove is current no
more, and all the others stay current or not as they were (`KeepsStatus`).  An edit of one attribute
leaves all other attributes alone as well (`Writes`).
-/

namespace NfaWorkbench

/-- The operations that edit an automaton or concern its listeners, and not the simulation. -/
def Automaton.Operation.isEdit : Automaton.Operation → Bool
  | .reset => false
  | .step _ => false
  | .recognise => false
  | _ => true

namespace Graph

open Automaton (Answer Does Operation)

variable {g k : Graph} {gone : List Handle} {operation : Operation} {answer : Answer} {c : Change}

/-! ## The simulation after an edit -/

/-- Which states are flagged can be told from a view that shows the flags. -/
theorem flaggedStates_eq_of_current_eq
    (h : k.states.mapValues (·.current) = g.states.mapValues (·.current)) :
    k.flaggedStates = g.flaggedStates := by
  have hviews := congrArg (Registry.idsWhere · id) h
  rwa [Registry.idsWhere_mapValues, Registry.idsWhere_mapValues] at hviews

/-- Removals take nothing but the removed states from those that are flagged. -/
theorem Leaves.flaggedStates_eq (h : g.Leaves gone k) :
    k.flaggedStates = g.flaggedStates.filter fun s => .state s ∉ gone := by
  rw [flaggedStates, h.states_eq, Registry.idsWhere_mapValues]
  exact Registry.idsWhere_filter g.states (fun s => Handle.state s ∉ gone) (·.current)

/-- Creations and changes flag no state and clear no flag. -/
theorem status_eq_of_does (hdoes : Does g operation answer c) (hedit : operation.isEdit)
    (hkeeps : operation.isRemoval = false) :
    c.graph.active = g.active ∧ c.graph.flaggedStates = g.flaggedStates := by
  cases hdoes with
  | createState hname hfree =>
    refine ⟨rfl, ?_⟩
    simp [Graph.addState, flaggedStates]
  | changeState hchange hs =>
    have hcurrent := (Operation.showsIn_attribute hchange).current
    exact ⟨rfl, flaggedStates_eq_of_current_eq (Registry.mapValues_modify _ _ hcurrent)⟩
  | createTransition hsource htarget hlabel hedge =>
    exact ⟨rfl, flaggedStates_eq_of_current_eq
      (mapValues_addTransition_states _ _ _ (fun _ _ => rfl) fun _ _ => rfl)⟩
  | removeState s => simp [Operation.isRemoval] at hkeeps
  | removeTransition t => simp [Operation.isRemoval] at hkeeps
  | reset => simp [Operation.isEdit] at hedit
  | step event => simp [Operation.isEdit] at hedit
  | recognise => simp [Operation.isEdit] at hedit

end Graph

namespace Automaton

variable {a b : Automaton} {operation : Operation} {edits : List Operation}

theorem Operation.exists_removal (h : operation.isRemoval = true) :
    ∃ x : Handle, operation = x.removal := by
  cases operation with
  | removeState s => exact ⟨.state s, rfl⟩
  | removeTransition t => exact ⟨.transition t, rfl⟩
  | _ => simp [isRemoval] at h

theorem Operation.ne_removeState (hkeeps : operation.isRemoval = false) (s : StateId) :
    operation ≠ .removeState s := by
  rintro rfl
  simp [isRemoval] at hkeeps

/-- One edit. -/
theorem Reachable.status_perform (h : a.Reachable) (hedit : operation.isEdit) :
    (a.perform operation).automaton.graph.active = a.graph.active ∧
      (a.perform operation).automaton.graph.flaggedStates =
        a.graph.flaggedStates.filter fun s => operation ≠ .removeState s := by
  cases hremoval : operation.isRemoval with
  | true =>
    obtain ⟨x, rfl⟩ := Operation.exists_removal hremoval
    have hleaves := (h.leaves_removal x).graph
    refine ⟨hleaves.active_eq, hleaves.flaggedStates_eq.trans ?_⟩
    refine List.filter_congr fun s _ => ?_
    cases x <;> simp [Handle.removal, eq_comm (a := s)]
  | false =>
    -- Nothing is removed, whether or not the edit is refused.
    rw [List.filter_eq_self.2 fun s _ => decide_eq_true (Operation.ne_removeState hremoval s)]
    have hperforms := performs a operation
    generalize a.perform operation = o at hperforms
    cases hperforms with
    | changed hdoes => exact Graph.status_eq_of_does hdoes hedit hremoval
    | _ => exact ⟨rfl, rfl⟩

theorem Reachable.status_performAll (h : a.Reachable) (hedits : ∀ edit ∈ edits, edit.isEdit) :
    (a.performAll edits).graph.active = a.graph.active ∧
      (a.performAll edits).graph.flaggedStates =
        a.graph.flaggedStates.filter fun s => .removeState s ∉ edits := by
  induction edits generalizing a with
  | nil => exact ⟨rfl, (List.filter_eq_self.2 (by simp)).symm⟩
  | cons edit rest ih =>
    obtain ⟨hfirst, hrest⟩ := List.forall_mem_cons.1 hedits
    obtain ⟨hactive, hflagged⟩ := h.status_perform hfirst
    obtain ⟨hactives, hflaggeds⟩ := ih (h.perform edit) hrest
    refine ⟨hactives.trans hactive, hflaggeds.trans ?_⟩
    rw [hflagged, List.filter_filter]
    refine List.filter_congr fun s _ => ?_
    simp [eq_comm (b := edit), Bool.and_comm]

/-- A state stays until it is removed, and does not come back. -/
theorem Reachable.mem_ids_performAll_iff (h : a.Reachable) (edits : List Operation) {s : StateId}
    (hs : a.graph.HasIssued (.state s)) : s ∈ (a.performAll edits).graph.states.ids ↔
      s ∈ a.graph.states.ids ∧ .removeState s ∉ edits := by
  -- What carries the induction is that the state was issued, so that no later edit can create it.
  induction edits generalizing a with
  | nil => exact (and_iff_left List.not_mem_nil).symm
  | cons edit rest ih =>
    have hnew : Handle.state s ∉ (a.perform edit).issued := fun hissued =>
      ((performs a edit).hasIssued hissued).2 hs
    have hremoves : Removes a.graph edit (.state s) ↔ .removeState s = edit := by
      constructor
      · intro hgone
        cases hgone
        rfl
      · rintro rfl
        exact .state s
    have hfirst := mem_handles_perform_iff h edit (.state s)
    rw [Graph.state_mem_handles_iff, Graph.state_mem_handles_iff, or_iff_right hnew, hremoves]
      at hfirst
    have hrest := ih (h.perform edit) ((h.becomes_perform edit).hasIssued hs)
    rw [hfirst, and_assoc, ← not_or, ← List.mem_cons] at hrest
    exact hrest

/-- What some edits leave of the simulation of `a`. -/
structure KeepsStatus (a : Automaton) (edits : List Operation) (b : Automaton) : Prop where
  active_eq : b.graph.active = a.graph.active
  stays_iff : ∀ s ∈ a.graph.states.ids, s ∈ b.graph.states.ids ↔ .removeState s ∉ edits
  /-- A state that stays is current exactly if it was. -/
  current_eq : ∀ s v w, (s, v) ∈ a.graph.states → (s, w) ∈ b.graph.states → w.current = v.current
  /-- A new state is not current. -/
  created : ∀ s w, (s, w) ∈ b.graph.states → s ∉ a.graph.states.ids → w.current = false
  currentStates_eq : b.graph.currentStates =
    a.graph.currentStates.filter fun s => .removeState s ∉ edits

theorem Reachable.keepsStatus (h : a.Reachable) (hedits : ∀ edit ∈ edits, edit.isEdit) :
    a.KeepsStatus edits (a.performAll edits) := by
  obtain ⟨hactive, hflagged⟩ := h.status_performAll hedits
  have hg := h.consistent
  have hafter := (h.performAll edits).consistent
  have hstays : ∀ s ∈ a.graph.states.ids,
      (s ∈ (a.performAll edits).graph.states.ids ↔ .removeState s ∉ edits) := by
    intro s hs
    have hissued := hg.hasIssued_of_mem (Graph.state_mem_handles_iff.2 hs)
    rw [h.mem_ids_performAll_iff edits hissued, and_iff_right hs]
  refine ⟨hactive, hstays, ?_, ?_, ?_⟩
  · intro s v w hv hw
    have hkept := (hstays s (Registry.mem_ids_of_mem hv)).1 (Registry.mem_ids_of_mem hw)
    rw [Bool.eq_iff_iff, ← hafter.flagged_iff hw, ← hg.flagged_iff hv, hflagged, List.mem_filter,
      and_iff_left (decide_eq_true hkept)]
  · intro s w hw hs
    rw [Bool.eq_false_iff, ne_eq, ← hafter.flagged_iff hw, hflagged, List.mem_filter]
    exact fun hold => hs (Graph.flaggedStates_subset hold.1)
  · rw [hafter.currentStates_eq, hg.currentStates_eq, hflagged]

/-! ## Edits of one attribute -/

/-- An operation changes one state as `f` says, and nothing else; it is refused if the state is no
member. -/
structure Writes (a : Automaton) (s : StateId) (f : State → State) (o : Outcome) : Prop where
  answer_eq : o.answer = if s ∈ a.graph.states.ids then .ok .done else .error (.unknownState s)
  state?_eq : ∀ t, o.automaton.graph.state? t =
    if t = s then (a.graph.state? t).map f else a.graph.state? t
  ids_eq : o.automaton.graph.states.ids = a.graph.states.ids
  graph_eq : o.automaton.graph = { a.graph with states := o.automaton.graph.states }
  bus_eq : o.automaton.bus = a.bus

theorem Operation.isRemoval_of_attribute? {s : StateId} {aspect : StateAspect} {f : State → State}
    (hchange : operation.attribute? = some (s, aspect, f)) : operation.isRemoval = false := by
  cases operation <;> simp [attribute?, isRemoval] at hchange ⊢

/-- An attribute of what is no member cannot be changed. -/
theorem perform_attribute_of_not_mem (ha : a.graph.Consistent) {s : StateId} {aspect : StateAspect}
    {f : State → State} (hchange : operation.attribute? = some (s, aspect, f))
    (hs : s ∉ a.graph.states.ids) : a.perform operation = a.refused (.unknownState s) := by
  have hhandles : operation.handles = [.state s] := by
    cases operation <;> simp_all [Operation.attribute?, Operation.handles]
  have hfind : operation.handles.find? (· ∉ a.graph.handles) = some (.state s) := by
    rw [hhandles, find?_singleton_eq_some_iff]
    simpa using hs
  rw [perform_of_find? ha hfind, Operation.isRemoval_of_attribute? hchange]
  rfl

theorem Reachable.writes (h : a.Reachable) {s : StateId} {aspect : StateAspect} {f : State → State}
    (hchange : operation.attribute? = some (s, aspect, f)) :
    a.Writes s f (a.perform operation) := by
  by_cases hs : s ∈ a.graph.states.ids
  · have hdoes : Does a.graph operation _ _ := .changeState hchange hs
    rw [perform_eq_changed hdoes]
    refine ⟨(if_pos hs).symm, ?_, Registry.ids_modify _ _ _, rfl, ?_⟩
    · intro t
      exact Registry.get?_modify a.graph.states s t f
    · exact h.bus_changed_of_keeps hdoes (Operation.isRemoval_of_attribute? hchange)
  · rw [perform_attribute_of_not_mem h.consistent hchange hs]
    refine ⟨(if_neg hs).symm, ?_, rfl, rfl, rfl⟩
    intro t
    have hnone : a.graph.state? s = none := Registry.get?_eq_none_iff.2 hs
    split
    · rename_i hts
      rw [hts, refused, hnone]
      rfl
    · rfl

/-- Edits touch only what they name.  Whatever is edited in the course of a simulation, and in
whatever order, it goes on, and the current states are those that were current before and have not
been removed, in the same order.  A flag that is set and a move change one attribute of one state;
a move stops at the border of the 32-bit range. -/
theorem Reachable.editing_correct (h : a.Reachable) :
    (∀ edits : List Operation, (∀ edit ∈ edits, edit.isEdit) →
      a.KeepsStatus edits (a.performAll edits)) ∧
    (∀ s value, a.Writes s (fun v => { v with initial := value })
      (a.perform (.setInitial s value))) ∧
    (∀ s value, a.Writes s (fun v => { v with final := value }) (a.perform (.setFinal s value))) ∧
    (∀ s dx dy, a.Writes s (fun v => { v with position := v.position.moveBy dx dy })
      (a.perform (.moveBy s dx dy))) ∧
    ∀ (p : Position) dx dy,
      (p.moveBy dx dy).x.val = max (-2147483648) (min (p.x.val + dx.val) 2147483647) ∧
      (p.moveBy dx dy).y.val = max (-2147483648) (min (p.y.val + dy.val) 2147483647) :=
  ⟨fun _ hedits => h.keepsStatus hedits, fun _ _ => h.writes rfl, fun _ _ => h.writes rfl,
    fun _ _ _ => h.writes rfl, fun _ _ _ => ⟨rfl, rfl⟩⟩

/-- The other state goes, a new one takes its name, and the current state gets an epsilon transition
to it. -/
theorem sample_editing_correct : sample.Reachable ∧ sample.graph.currentStates = [⟨0, 0⟩] ∧
    (sample.performAll [.removeState ⟨0, 2⟩, .createState "b" default, .setInitial ⟨0, 3⟩ true,
      .createTransition ⟨0, 0⟩ ⟨0, 3⟩ none, .subscribe (.state ⟨0, 3⟩)]).graph.currentStates =
      [⟨0, 0⟩] ∧
    ((sample.perform (.setFinal ⟨0, 0⟩ true)).automaton.graph.state? ⟨0, 0⟩).map (·.final) =
      some true := by
  have hcurrent : sample.graph.currentStates = [⟨0, 0⟩] := by decide +kernel
  obtain ⟨hedits, _, hfinal, _⟩ := reachable_sample.editing_correct
  refine ⟨reachable_sample, hcurrent, ?_, ?_⟩
  · rw [(hedits _ (by simp [Operation.isEdit])).currentStates_eq, hcurrent]
    rfl
  · rw [(hfinal ⟨0, 0⟩ true).state?_eq, if_pos rfl]
    decide +kernel

end Automaton

end NfaWorkbench
