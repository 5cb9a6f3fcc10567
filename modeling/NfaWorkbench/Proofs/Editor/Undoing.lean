import NfaWorkbench.Proofs.Editor.Documents
import NfaWorkbench.Proofs.Editor.Watching
import NfaWorkbench.Proofs.Undoing
set_option autoImplicit false

/-!
# Editor: transitions taken back

A line that creates a transition is taken back by the line that removes it.  There is one transition
with these ends and this label, so it is the new one that is found.
-/

namespace NfaWorkbench

namespace Editor.Session

open Automaton (Does)

variable {s : Session} {d : Directory} {source label target line : String} {a b : StateId}

/-- A transition is removed by its ends and its label, because no other has the same. -/
theorem deleteTransition_eq_ok (hg : s.graph.Consistent) (ha : s.graph.findState source = some a)
    (hb : s.graph.findState target = some b) {t : TransitionId}
    (ht : (t, ⟨a, b, labelOfWord label⟩) ∈ s.graph.transitions) :
    s.deleteTransition source label target =
      (.ok (.removedTransition source (labelOfWord label) target),
        s.apply (s.graph.removeTransition t)) := by
  obtain ⟨hsource, htarget⟩ := hg.endpoints t _ ht
  have hfound := hg.findTransitions_eq hsource htarget
  have hfind : (s.graph.transitions.find? (·.2 = ⟨a, b, labelOfWord label⟩)).map (·.1) =
      some t := by
    cases hfirst : s.graph.transitions.find? (·.2 = ⟨a, b, labelOfWord label⟩) with
    | none => simpa using List.find?_eq_none.1 hfirst _ ht
    | some e =>
      have hedge : e.2 = ⟨a, b, labelOfWord label⟩ := by simpa using List.find?_some hfirst
      have hmem : (e.1, ⟨a, b, labelOfWord label⟩) ∈ s.graph.transitions :=
        hedge ▸ List.mem_of_find?_eq_some hfirst
      rw [Option.map_some, hg.edge_unique _ _ _ hmem ht]
  simp only [deleteTransition, require_eq_ok_iff.2 ha, require_eq_ok_iff.2 hb, hfound,
    hg.withLabel_eq hfound, hfind]

/-- The session after a change that has brought a transition, to which it listens from then on. -/
def withTransition (s : Session) (c : Change) : Session :=
  { s with automaton :=
    ((s.apply c).subscribed (.transition s.graph.nextTransitionId)).automaton }

/-- The change `c` brings a transition between two states of the session. -/
structure Brings (s : Session) (source label target : String) (a b : StateId) (c : Change) :
    Prop where
  source_eq : s.graph.findState source = some a
  target_eq : s.graph.findState target = some b
  graph_eq : c.graph = s.graph.addTransition a b (labelOfWord label)
  does : Does s.graph (.createTransition a b (labelOfWord label))
    (.transition s.graph.nextTransitionId) c

theorem exists_brings (hg : s.graph.Consistent) {response : Response}
    (h : (s.createTransition source label target).1 = .ok response) :
    ∃ a b c, s.Brings source label target a b c ∧ (s.createTransition source label target).2 =
      (s.apply c).subscribed (.transition s.graph.nextTransitionId) := by
  unfold createTransition at h ⊢
  split at h
  · simp at h
  · rename_i a hsource
    split at h
    · simp at h
    · rename_i b htarget
      split at h
      · simp at h
      · rename_i id c hcreate
        obtain ⟨ha, hb, hlabel, hedge, heq⟩ := Graph.createTransition_eq_ok_iff.1 hcreate
        obtain ⟨rfl, rfl⟩ := Prod.mk.inj heq
        have hdoes := Does.createTransition ha hb hlabel hedge
        exact ⟨a, b, _, ⟨require_eq_ok_iff.1 hsource, require_eq_ok_iff.1 htarget, rfl, hdoes⟩,
          congrArg Prod.snd (adopt_eq hg hdoes rfl _)⟩

/-- What a line does that creates a transition. -/
theorem Ready.exists_execute_transition (hs : s.Ready) {changes : List String} {response : Response}
    (hline : Command.read line = some (.ok (.edit (.transition source label target))))
    (hanswer : (s.execute d line).1 = .answer changes response) :
    ∃ a b c, s.Brings source label target a b c ∧
      (s.execute d line).2.1 = s.withTransition c := by
  have hexecute := execute_eq_perform hline s d
  rw [hexecute] at hanswer ⊢
  have hok := (settle_answer hanswer).1
  obtain ⟨shown, hperform⟩ := perform_edit_of_ok (d := d) hok
  obtain ⟨a, b, c, hbrings, hcreated⟩ := exists_brings hs.consistent hok
  have hedit : (s.edit (.transition source label target)).2 =
    (s.apply c).subscribed (.transition s.graph.nextTransitionId) := hcreated
  refine ⟨a, b, c, hbrings, ?_⟩
  rw [hperform, hedit, withTransition, ← hs.log_eq]
  rfl

theorem Brings.graph_withTransition {c : Change} (h : s.Brings source label target a b c) :
    (s.withTransition c).graph = s.graph.addTransition a b (labelOfWord label) := by
  rw [← h.graph_eq]
  rfl

/-- When the new transition goes, the subscription to it goes as well. -/
theorem Ready.removal_withTransition (hs : s.Ready) {c : Change}
    (hbrings : s.Brings source label target a b c) (hafter : (s.withTransition c).Ready) :
    ((s.withTransition c).apply
      ((s.withTransition c).graph.removeTransition s.graph.nextTransitionId)).automaton =
        s.automaton.withCounters s.graph.nextState (s.graph.nextTransition + 1)
          (s.automaton.bus.next + 1) := by
  have hbus : (s.withTransition c).automaton.bus =
      (s.automaton.bus.subscribe (.transition s.graph.nextTransitionId)).2 := by
    have hkept : (s.apply c).automaton.bus = s.automaton.bus :=
      hs.reachable.bus_changed_of_keeps hbrings.does rfl
    rw [← hkept]
    rfl
  have hnew : ¬s.automaton.graph.HasChannel (.transition s.graph.nextTransitionId) := fun hmem =>
    Nat.lt_irrefl _ (hs.consistent.transition_issued _ hmem).2
  have hlisteners : (s.withTransition c).automaton.bus.subscriptions.filter
      (fun u => s.automaton.graph.HasChannel u.channel) = s.automaton.bus.subscriptions := by
    rw [hbus, Bus.subscribe, List.filter_append, hs.reachable.filter_hasChannel,
      List.filter_cons_of_neg (by simpa using hnew), List.filter_nil, List.append_nil]
  have hleaves : (s.withTransition c).automaton.graph.Leaves [.transition s.graph.nextTransitionId]
      { s.graph with nextTransition := s.graph.nextTransition + 1 } := by
    have hgraph : (s.withTransition c).automaton.graph =
      s.graph.addTransition a b (labelOfWord label) := hbrings.graph_withTransition
    rw [hgraph]
    exact hs.consistent.leaves_addTransition a b (labelOfWord label)
  have hback := hafter.reachable.removal_eq_withCounters hleaves hlisteners
  rw [hbus] at hback
  exact hback

/-- A line that creates a transition is taken back by any line that removes a transition with these
ends and this label. -/
def UndoesTransition (s : Session) : Prop :=
  ∀ source label target line d changes response,
    Command.read line = some (.ok (.edit (.transition source label target))) →
    (s.execute d line).1 = .answer changes response →
    ∀ back e, Command.read back = some (.ok (.edit (.untransition source label target))) →
      ∃ changes, (s.execute d line).2.1.execute e back =
        (.answer changes (.removedTransition source (labelOfWord label) target),
          { s with
            automaton := s.automaton.withCounters s.graph.nextState (s.graph.nextTransition + 1)
              (s.automaton.bus.next + 1) },
          e)

theorem Reachable.undoesTransition (h : s.Reachable) : s.UndoesTransition := by
  intro source label target line d changes response hline hanswer back e hback
  have hs := h.ready
  have hafter := (h.execute d line).ready
  obtain ⟨a, b, c, hbrings, hsession⟩ := hs.exists_execute_transition hline hanswer
  rw [hsession] at hafter ⊢
  have hgraph := hbrings.graph_withTransition
  have hdelete : (s.withTransition c).edit (.untransition source label target) =
      (.ok (.removedTransition source (labelOfWord label) target), (s.withTransition c).apply
        ((s.withTransition c).graph.removeTransition s.graph.nextTransitionId)) := by
    refine deleteTransition_eq_ok (a := a) (b := b) hafter.consistent ?_ ?_ ?_
    · rw [hgraph]
      exact hbrings.source_eq
    · rw [hgraph]
      exact hbrings.target_eq
    · rw [hgraph]
      exact Registry.mem_add_iff.2 (.inr rfl)
  obtain ⟨told, hperform⟩ := perform_edit_of_ok (d := e) (congrArg Prod.fst hdelete)
  refine ⟨told, ?_⟩
  rw [execute_eq_perform hback, hperform, hdelete, ← hs.removal_withTransition hbrings hafter,
    ← hs.log_eq]
  rfl

end Editor.Session

open Editor (Command)

/-- Creation is undone by removal.  Whatever becomes of a new state, the automaton is as it was, up
to its counters, when the state goes; so it is when a new transition goes.  A session is brought back
by the line that removes the transition which a line has created. -/
theorem creation_undone : (∀ a : Automaton, a.Reachable → a.UndoesCreation) ∧
    ∀ s : Editor.Session, s.Reachable → s.UndoesTransition :=
  ⟨fun _ h => h.undoesCreation, fun _ h => h.undoesTransition⟩

/-- A new state with a loop, an edge each way, one of them refused for being there already, and a
flag; a transition back; and a line in capitals that takes another line back. -/
theorem sample_creation_undone :
    (Automaton.sample.Reachable ∧
      (Automaton.sample.perform (.createState "c" default)).answer = .ok (.state ⟨0, 3⟩) ∧
      (∃ transitions, Automaton.sample.performAll (.createState "c" default ::
        [.createTransition ⟨0, 3⟩ ⟨0, 3⟩ none, .createTransition ⟨0, 3⟩ ⟨0, 0⟩ (some "x"),
          .createTransition ⟨0, 2⟩ ⟨0, 3⟩ none, .createTransition ⟨0, 2⟩ ⟨0, 3⟩ none,
          .setFinal ⟨0, 3⟩ true, .moveBy ⟨0, 3⟩ default default] ++ [.removeState ⟨0, 3⟩]) =
        Automaton.sample.withCounters 4 transitions 0) ∧
      Automaton.sample.performAll
        [.createTransition ⟨0, 2⟩ ⟨0, 2⟩ (some "y"), .removeTransition ⟨0, 4⟩] =
        Automaton.sample.withCounters 3 5 0) ∧
    ∃ changes, (Editor.Session.sample.execute ⟨[]⟩ "transition b ? a").2.1.execute ⟨[]⟩
      "UNTRANSITION b ? a" = (.answer changes (.removedTransition "b" none "a"),
        { Editor.Session.sample with automaton :=
          Editor.Session.sample.automaton.withCounters 2 2 5 }, ⟨[]⟩) := by
  have hcounters : Automaton.sample.graph.nextState + 1 = 4 ∧
      Automaton.sample.graph.nextTransition + 1 = 5 ∧ Automaton.sample.bus.next = 0 := by
    decide +kernel
  obtain ⟨hstates, htransitions, hsubscriptions⟩ := hcounters
  obtain ⟨hautomata, hsessions⟩ := creation_undone
  obtain ⟨hstate, htransition⟩ := hautomata Automaton.sample Automaton.reachable_sample
  have hnew : (Automaton.sample.perform (.createState "c" default)).answer =
      .ok (.state ⟨0, 3⟩) := by decide +kernel
  refine ⟨⟨Automaton.reachable_sample, hnew, ?_, ?_⟩, ?_⟩
  · rw [← hstates, ← hsubscriptions]
    refine hstate "c" default ⟨0, 3⟩ hnew _ ?_
    simp only [List.forall_mem_cons]
    exact ⟨.outgoing _ _, .outgoing _ _, .incoming _ _, .incoming _ _, .setFinal _, .moveBy _ _,
      by simp⟩
  · rw [← htransitions, ← hsubscriptions]
    exact htransition ⟨0, 2⟩ ⟨0, 2⟩ (some "y") ⟨0, 4⟩ (by decide +kernel)
  · have hline : Command.read "transition b ? a" =
        some (.ok (.edit (.transition "b" "?" "a"))) := by decide +kernel
    have hback : Command.read "UNTRANSITION b ? a" =
        some (.ok (.edit (.untransition "b" "?" "a"))) := by decide +kernel
    have hanswer : ∃ changes response, (Editor.Session.sample.execute ⟨[]⟩ "transition b ? a").1 =
        .answer changes response := by
      rw [Editor.Session.execute_eq_perform hline]
      exact ⟨_, _, rfl⟩
    obtain ⟨changes, response, hanswer⟩ := hanswer
    exact hsessions Editor.Session.sample Editor.Session.reachable_sample "b" "?" "a" _ ⟨[]⟩ changes
      response hline hanswer _ ⟨[]⟩ hback

end NfaWorkbench
