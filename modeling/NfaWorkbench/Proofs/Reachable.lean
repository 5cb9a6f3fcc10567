import NfaWorkbench.Automaton
import NfaWorkbench.Document.Reader
import NfaWorkbench.Proofs.Graph.Creation
import NfaWorkbench.Proofs.Graph.Removal
import NfaWorkbench.Proofs.Simulation.Frame
import NfaWorkbench.Snapshot.Basic
set_option autoImplicit false

/-!
# Reachable automata

An automaton starts empty, as the contents of a document or as a restored snapshot, and then any
operations are carried out, accepted or refused.  All automata that come about in this way are
consistent: each of the operations keeps the invariant, and so do the records of a document and the
entries of a snapshot, which go through the same operations.
-/

namespace NfaWorkbench

namespace Graph

variable {g k : Graph}

/-! ## Operations -/

theorem isAttributeChange_initial (value : Bool) :
    IsAttributeChange fun state => { state with initial := value } :=
  ⟨fun _ => rfl, fun _ => rfl, fun _ => rfl⟩

theorem isAttributeChange_final (value : Bool) :
    IsAttributeChange fun state => { state with final := value } :=
  ⟨fun _ => rfl, fun _ => rfl, fun _ => rfl⟩

theorem isAttributeChange_moveBy (dx dy : Coordinate) :
    IsAttributeChange fun state => { state with position := state.position.moveBy dx dy } :=
  ⟨fun _ => rfl, fun _ => rfl, fun _ => rfl⟩

theorem Consistent.createState (hg : g.Consistent) {name : String} {position : Position}
    {r : StateId × Change} (h : g.createState name position = .ok r) : r.2.graph.Consistent := by
  obtain ⟨hname, hfree, rfl⟩ := createState_eq_ok_iff.1 h
  exact hg.addState hname hfree position

theorem Consistent.changeState (hg : g.Consistent) {s : StateId} {aspect : StateAspect}
    {f : State → State} (hf : IsAttributeChange f) {c : Change}
    (h : g.changeState s aspect f = .ok c) : c.graph.Consistent := by
  obtain ⟨_, rfl⟩ := changeState_eq_ok_iff.1 h
  exact hg.modifyState s hf

theorem Consistent.createTransition (hg : g.Consistent) {source target : StateId}
    {label : Option String} {r : TransitionId × Change}
    (h : g.createTransition source target label = .ok r) : r.2.graph.Consistent := by
  obtain ⟨hsource, htarget, hlabel, hedge, rfl⟩ := createTransition_eq_ok_iff.1 h
  exact hg.addTransition hsource htarget hlabel hedge

theorem Consistent.removeTransition (hg : g.Consistent) (t : TransitionId) :
    (g.removeTransition t).graph.Consistent := by
  rw [hg.removeTransition_graph]
  exact hg.keepTransitions _

theorem Consistent.removeState (hg : g.Consistent) (s : StateId) :
    (g.removeState s).graph.Consistent := by
  by_cases hs : s ∈ g.states.ids
  · obtain ⟨state, hstate⟩ := Registry.mem_ids_iff.1 hs
    rw [hg.removeState_graph hstate]
    exact hg.withoutState hstate
  · rw [removeState_of_not_mem hs]
    exact hg

/-! ## Documents -/

theorem accepted_eq_ok_iff {r : Except GraphError Change} :
    accepted r = .ok k ↔ ∃ c, r = .ok c ∧ c.graph = k := by
  cases r <;> simp [accepted]

theorem accepted_map_eq_ok_iff {α : Type} {r : Except GraphError α} {f : α → Change} :
    accepted (r.map f) = .ok k ↔ ∃ x, r = .ok x ∧ (f x).graph = k := by
  cases r <;> simp [accepted, Except.map]

/-- A transition record is accepted if both names are declared and the graph takes the transition.
-/
theorem applyTransition_eq_ok_iff {source target : String} {label : Option String} :
    g.applyTransition source label target = .ok k ↔ ∃ s t r, g.findState source = some s ∧
      g.findState target = some t ∧ g.createTransition s t label = .ok r ∧ r.2.graph = k := by
  simp only [applyTransition, declared]
  cases g.findState source with
  | none => simp
  | some s => cases g.findState target with
    | none => simp
    | some t => simp [accepted_map_eq_ok_iff]

theorem applyChange_eq_ok_iff {name : String} {change : StateId → Except GraphError Change} :
    g.applyChange name change = .ok k ↔
      ∃ s c, g.findState name = some s ∧ change s = .ok c ∧ c.graph = k := by
  simp only [applyChange, declared]
  cases g.findState name with
  | none => simp
  | some s => simp [accepted_eq_ok_iff]

theorem Consistent.applyRecord (hg : g.Consistent) {r : Record} (h : g.applyRecord r = .ok k) :
    k.Consistent := by
  cases r with
  | state name position =>
    obtain ⟨created, hcreate, rfl⟩ := accepted_map_eq_ok_iff.1 h
    exact hg.createState hcreate
  | transition source label target =>
    obtain ⟨s, t, created, _, _, hcreate, rfl⟩ := applyTransition_eq_ok_iff.1 h
    exact hg.createTransition hcreate
  | initial name =>
    obtain ⟨s, c, _, hc, rfl⟩ := applyChange_eq_ok_iff.1 h
    exact hg.changeState (isAttributeChange_initial true) hc
  | final name =>
    obtain ⟨s, c, _, hc, rfl⟩ := applyChange_eq_ok_iff.1 h
    exact hg.changeState (isAttributeChange_final true) hc

/-- A line is accepted if it is text, and is ignored or holds a record that is accepted. -/
theorem readLine_eq_ok_iff {line : List UInt8} : g.readLine line = .ok k ↔
    ∃ text, Document.decodeLine line = some text ∧
      ((Record.read text = .ok none ∧ g = k) ∨
        ∃ r, Record.read text = .ok (some r) ∧ g.applyRecord r = .ok k) := by
  unfold readLine
  cases Document.decodeLine line with
  | none => simp
  | some text => cases hread : Record.read text with
    | error fault => simp [hread]
    | ok found => cases found <;> simp [hread]

theorem readLines_cons_eq_ok_iff {number : Nat} {line : List UInt8} {rest : List (List UInt8)} :
    g.readLines number (line :: rest) = .ok k ↔
      ∃ next, g.readLine line = .ok next ∧ next.readLines (number + 1) rest = .ok k := by
  rw [readLines]
  cases g.readLine line <;> simp

theorem Consistent.readLine (hg : g.Consistent) {line : List UInt8} (h : g.readLine line = .ok k) :
    k.Consistent := by
  obtain ⟨text, _, ⟨_, rfl⟩ | ⟨r, _, hr⟩⟩ := readLine_eq_ok_iff.1 h
  · exact hg
  · exact hg.applyRecord hr

theorem Consistent.readLines (hg : g.Consistent) {number : Nat} {lines : List (List UInt8)}
    (h : g.readLines number lines = .ok k) : k.Consistent := by
  induction lines generalizing g number with
  | nil =>
    obtain rfl := Except.ok.inj h
    exact hg
  | cons line rest ih =>
    obtain ⟨next, hline, hrest⟩ := readLines_cons_eq_ok_iff.1 h
    exact ih (hg.readLine hline) hrest

theorem read_eq_ok_iff {owner : Nat} {s : Source} :
    read owner s = .ok k ↔ s.failure = none ∧ (empty owner).readLines 1 s.lines = .ok k := by
  unfold read
  cases (empty owner).readLines 1 s.lines with
  | error error => simp
  | ok g => cases s.failure <;> simp

/-- What a document describes is consistent. -/
theorem consistent_of_read {owner : Nat} {s : Source} (h : read owner s = .ok k) : k.Consistent :=
  (Consistent.empty owner).readLines (read_eq_ok_iff.1 h).2

/-! ## Snapshots -/

theorem Consistent.restoreState (hg : g.Consistent) {s : StateSnapshot}
    (h : g.restoreState s = .ok k) : k.Consistent := by
  unfold Graph.restoreState at h
  split at h
  · simp at h
  · rename_i id created hcreate
    have hcreated : created.graph.Consistent := hg.createState hcreate
    split at h
    · simp at h
    · rename_i change hinitial
      have hchanged : change.graph.Consistent :=
        hcreated.changeState (isAttributeChange_initial s.initial) hinitial
      split at h
      · simp at h
      · rename_i last hfinal
        obtain rfl := Except.ok.inj h
        exact hchanged.changeState (isAttributeChange_final s.final) hfinal

theorem Consistent.restoreTransition (hg : g.Consistent) {t : TransitionSnapshot}
    (h : g.restoreTransition t = .ok k) : k.Consistent := by
  unfold Graph.restoreTransition at h
  split at h
  · simp at h
  · split at h
    · simp at h
    · split at h
      · simp at h
      · rename_i created hcreate
        obtain rfl := Except.ok.inj h
        exact hg.createTransition hcreate

theorem Consistent.restoreStates (hg : g.Consistent) {states : List StateSnapshot}
    (h : g.restoreStates states = .ok k) : k.Consistent := by
  induction states generalizing g with
  | nil =>
    obtain rfl := Except.ok.inj h
    exact hg
  | cons s rest ih =>
    rw [Graph.restoreStates] at h
    split at h
    · simp at h
    · rename_i next hstate
      exact ih (hg.restoreState hstate) h

theorem Consistent.restoreTransitions (hg : g.Consistent) {transitions : List TransitionSnapshot}
    (h : g.restoreTransitions transitions = .ok k) : k.Consistent := by
  induction transitions generalizing g with
  | nil =>
    obtain rfl := Except.ok.inj h
    exact hg
  | cons t rest ih =>
    rw [Graph.restoreTransitions] at h
    split at h
    · simp at h
    · rename_i next htransition
      exact ih (hg.restoreTransition htransition) h

/-- Only a snapshot of a running simulation sets flags, and switches the simulation on first. -/
theorem Consistent.restoreStatus (hg : g.Consistent) (s : Snapshot) :
    (g.restoreStatus s).Consistent := by
  unfold Graph.restoreStatus
  split
  · refine hg.activated.of_unmarked_eq ?_ rfl
    refine Change.each_eq ?_ _ _
    intro g name
    split
    · exact unmarked_setCurrent g _ true
    · rfl
  · exact hg

/-- What a snapshot describes is consistent. -/
theorem consistent_of_ofSnapshot {owner : Nat} {s : Snapshot} (h : ofSnapshot owner s = .ok k) :
    k.Consistent := by
  unfold ofSnapshot at h
  split at h
  · simp at h
  · rename_i withStates hstates
    split at h
    · simp at h
    · rename_i withTransitions htransitions
      obtain rfl := Except.ok.inj h
      have hconsistent := (Consistent.empty owner).restoreStates hstates
      exact (hconsistent.restoreTransitions htransitions).restoreStatus s

end Graph

namespace Automaton

/-- The automata that come about: they start empty, as a document or as a snapshot, and then any
operations are carried out on them, whether accepted or refused. -/
inductive Reachable : Automaton → Prop
  | empty (owner : Nat) : Reachable (empty owner)
  | read {owner : Nat} {source : Source} {g : Graph} (h : Graph.read owner source = .ok g) :
      Reachable (ofGraph g)
  | restored {owner : Nat} {snapshot : Snapshot} {g : Graph}
      (h : Graph.ofSnapshot owner snapshot = .ok g) : Reachable (ofGraph g)
  | perform {a : Automaton} (operation : Operation) (h : Reachable a) :
      Reachable (a.perform operation).automaton

/-- An operation that may be refused keeps what its change keeps. -/
theorem consistent_settled {a : Automaton} (ha : a.graph.Consistent)
    {r : Except GraphError (Answer × Change)} (hr : ∀ x, r = .ok x → x.2.graph.Consistent) :
    (a.settled r).automaton.graph.Consistent := by
  cases r with
  | error error => exact ha
  | ok x => exact hr x rfl

theorem consistent_perform {a : Automaton} (ha : a.graph.Consistent) (operation : Operation) :
    (a.perform operation).automaton.graph.Consistent := by
  have hmap : ∀ {α : Type} {r : Except GraphError α} {f : α → Answer × Change},
      (∀ x, r = .ok x → (f x).2.graph.Consistent) →
        ((a.settled (r.map f)).automaton.graph.Consistent) := by
    intro α r f hf
    refine consistent_settled ha ?_
    cases r with
    | error error => simp [Except.map]
    | ok x => simpa [Except.map] using hf x rfl
  cases operation with
  | createState name position => exact hmap fun x hx => ha.createState hx
  | removeState s => exact ha.removeState s
  | setInitial s value =>
    exact hmap fun c hc => ha.changeState (Graph.isAttributeChange_initial value) hc
  | setFinal s value =>
    exact hmap fun c hc => ha.changeState (Graph.isAttributeChange_final value) hc
  | moveBy s dx dy =>
    exact hmap fun c hc => ha.changeState (Graph.isAttributeChange_moveBy dx dy) hc
  | createTransition source target label => exact hmap fun x hx => ha.createTransition hx
  | removeTransition t => exact ha.removeTransition t
  | reset => exact ha.reset
  | step event => exact ha.step event
  | recognise => exact ha.recognise
  | subscribe channel =>
    simp only [perform, subscribe]
    cases a.channelError? channel <;> exact ha
  | unsubscribe id => exact ha

theorem Reachable.consistent {a : Automaton} (h : a.Reachable) : a.graph.Consistent := by
  induction h with
  | empty owner => exact Graph.Consistent.empty owner
  | read h => exact Graph.consistent_of_read h
  | restored h => exact Graph.consistent_of_ofSnapshot h
  | perform operation _ ih => exact consistent_perform ih operation

/-- The automaton after some operations. -/
def performAll (a : Automaton) (operations : List Operation) : Automaton :=
  operations.foldl (fun a operation => (a.perform operation).automaton) a

theorem performAll_concat (a : Automaton) (operations : List Operation) (operation : Operation) :
    a.performAll (operations ++ [operation]) =
      ((a.performAll operations).perform operation).automaton := by
  rw [performAll, List.foldl_append]
  rfl

theorem Reachable.performAll {a : Automaton} (h : a.Reachable) (operations : List Operation) :
    (a.performAll operations).Reachable := by
  induction operations generalizing a with
  | nil => exact h
  | cons operation rest ih => exact ih (h.perform operation)

/-- Whatever the operations were: the graph is consistent, no name occurs twice, and what is found
between two states are all transitions from the one to the other, oldest first. -/
theorem Reachable.graph_invariant {a : Automaton} (h : a.Reachable) :
    a.graph.Consistent ∧ (a.graph.states.map (·.2.name)).Nodup ∧
      ∀ s ∈ a.graph.states.ids, ∀ t ∈ a.graph.states.ids, a.graph.findTransitions s t =
        .ok (a.graph.transitions.idsWhere fun e => e.source = s ∧ e.target = t) :=
  ⟨h.consistent, h.consistent.names_nodup, fun _ hs _ ht => h.consistent.findTransitions_eq hs ht⟩

/-- Two states with a loop, an edge and the epsilon transition back; one more state was removed
together with its transition, and its name went to the second state. -/
def sample : Automaton := (empty 0).performAll
  [.createState "a" default, .createState "b" default,
    .createTransition ⟨0, 0⟩ ⟨0, 1⟩ (some "y"), .removeState ⟨0, 1⟩, .createState "b" default,
    .createTransition ⟨0, 0⟩ ⟨0, 0⟩ (some "x"), .createTransition ⟨0, 0⟩ ⟨0, 2⟩ (some "y"),
    .createTransition ⟨0, 2⟩ ⟨0, 0⟩ none, .setInitial ⟨0, 0⟩ true, .setFinal ⟨0, 2⟩ true,
    .reset, .step (some "x")]

theorem reachable_sample : sample.Reachable := (Reachable.empty 0).performAll _

theorem sample_graph_invariant : sample.Reachable ∧ sample.graph.states.ids = [⟨0, 0⟩, ⟨0, 2⟩] ∧
    sample.graph.findTransitions ⟨0, 0⟩ ⟨0, 2⟩ = .ok [⟨0, 2⟩] := by
  have hids : sample.graph.states.ids = [⟨0, 0⟩, ⟨0, 2⟩] := by decide +kernel
  obtain ⟨_, _, hfind⟩ := reachable_sample.graph_invariant
  refine ⟨reachable_sample, hids, ?_⟩
  rw [hfind ⟨0, 0⟩ (by simp [hids]) ⟨0, 2⟩ (by simp [hids])]
  exact congrArg Except.ok (by decide +kernel)

end Automaton

end NfaWorkbench
