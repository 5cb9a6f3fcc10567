import NfaWorkbench.Jobs
import NfaWorkbench.Proofs.Reachable
import NfaWorkbench.Proofs.Simulation.Closure
set_option autoImplicit false

/-!
# Simulation: the language of a graph

What every operation of the simulation makes of the current states, and from that what a run does:
it moves along all paths at once.  After some events the epsilon closure of the current states holds
the ends of all paths that spell the events.

A step closes the current states before it moves, while the automaton of the theory closes them
after.  So the two agree up to a closure, which the verdict at the end of a run makes up for.
-/

namespace NfaWorkbench

/-! ## Moves in any automaton -/

section Machines

variable {α σ : Type} {M : εNFA α σ}

/-- The states that one letter reaches, without epsilon transitions. -/
def moveSet (M : εNFA α σ) (S : Set σ) (a : α) : Set σ := {t | ∃ s ∈ S, t ∈ M.step s (some a)}

theorem εClosure_moveSet (S : Set σ) (a : α) : M.εClosure (moveSet M S a) = M.stepSet S a := by
  ext u
  rw [M.mem_stepSet_iff, M.mem_εClosure_iff_exists]
  constructor
  · intro hgiven
    obtain ⟨t, ⟨s, hs, hst⟩, hu⟩ := hgiven
    exact ⟨s, hs, M.mem_εClosure_iff_exists.2 ⟨t, hst, hu⟩⟩
  · intro hgiven
    obtain ⟨s, hs, hu⟩ := hgiven
    obtain ⟨t, hst, htu⟩ := M.mem_εClosure_iff_exists.1 hu
    exact ⟨t, ⟨s, hs, hst⟩, htu⟩

theorem evalFrom_εClosure (S : Set σ) (word : List α) :
    M.evalFrom (M.εClosure S) word = M.evalFrom S word := by
  rw [εNFA.evalFrom, εNFA.evalFrom, εClosure_εClosure]

theorem evalFrom_cons (S : Set σ) (a : α) (word : List α) :
    M.evalFrom S (a :: word) = M.evalFrom (moveSet M (M.εClosure S) a) word := by
  rw [εNFA.evalFrom, εNFA.evalFrom, εClosure_moveSet, List.foldl_cons]

/-- A state is reached if some path from a start leads to it. -/
theorem mem_evalFrom_iff_path {S : Set σ} {word : List α} {t : σ} :
    t ∈ M.evalFrom S word ↔ ∃ s ∈ S, ∃ path, path.reduceOption = word ∧ M.IsPath s t path := by
  rw [M.mem_evalFrom_iff_exists]
  exact exists_congr fun s => and_congr_right fun _ => M.mem_evalFrom_iff_exists_path

end Machines

namespace Change

variable {α β : Type}

theorem each_map (f : Graph → β → Change) (h : α → β) (l : List α) (g : Graph) :
    each f (l.map h) g = each (fun g a => f g (h a)) l g := by
  induction l generalizing g with
  | nil => rfl
  | cons a rest ih => simp [each, andThen, ih]

theorem each_congr {f f' : Graph → α → Change} {l : List α} (h : ∀ a ∈ l, ∀ g, f g a = f' g a)
    (g : Graph) : each f l g = each f' l g := by
  induction l generalizing g with
  | nil => rfl
  | cons a rest ih =>
    have hrest := fun g => ih (fun b hb => h b (List.mem_cons_of_mem a hb)) g
    simp [each, andThen, h a List.mem_cons_self, hrest]

end Change

namespace Graph

variable {g : Graph}

/-! ## What an operation makes of the current states -/

/-- A restart writes the flag of every member: it is current if it is initial. -/
theorem Named.flagInitial_eq (hg : g.Named) : g.flagInitial =
    Change.each (fun k s => k.setCurrent s (decide (s ∈ g.initialStates))) g.states.ids
      { g with active := true } := by
  rw [flagInitial, Registry.ids, Change.each_map, Change.each_map]
  refine Change.each_congr ?_ _
  rintro ⟨s, state⟩ hs k
  have hflag : state.initial = decide (s ∈ g.initialStates) := by
    rw [Bool.eq_iff_iff, decide_eq_true_eq]
    exact (Registry.mem_idsWhere_of_mem hg.stateIds_nodup hs).symm
  simp only [hflag]

theorem initialStates_subset {s : StateId} (hs : s ∈ g.initialStates) : s ∈ g.states.ids := by
  obtain ⟨state, hmem, _⟩ := Registry.mem_idsWhere_iff.1 hs
  exact Registry.mem_ids_of_mem hmem

/-- After a restart exactly the initial states are current. -/
theorem Consistent.marked_reset (hg : g.Consistent) : g.reset.graph.marked = g.machine.start := by
  ext s
  have hwrite := hg.activated.mem_flaggedStates_each (fun s => decide (s ∈ g.initialStates))
    g.states.ids (t := s)
  rw [← hg.flagInitial_eq] at hwrite
  change s ∈ g.flagInitial.graph.flaggedStates ↔ s ∈ g.initialStates
  rw [hwrite, decide_eq_true_eq]
  split
  · rename_i hs
    exact and_iff_right hs
  · rename_i hs
    refine iff_of_false ?_ fun hinitial => hs (initialStates_subset hinitial)
    exact fun hflagged => hs (flaggedStates_subset hflagged)

theorem Consistent.mem_reached_iff (hg : g.Consistent) {label : String} {s : StateId} :
    s ∈ g.reached label ↔ s ∈ moveSet g.machine g.marked label := by
  simp only [reached, List.mem_filter, List.contains_iff_mem, hg.mem_targets_iff]
  refine and_iff_right_of_imp ?_
  intro hgiven
  obtain ⟨s, _, hstep⟩ := hgiven
  exact (hg.step_subset hstep).2

/-- Moving along a label leaves exactly the states current that it reaches. -/
theorem Consistent.marked_advance (hg : g.Consistent) (label : String) :
    (g.advance label).graph.marked = moveSet g.machine g.marked label := by
  ext s
  rw [← hg.mem_reached_iff]
  have hframe := Change.each_eq (fun g s => unmarked_setCurrent g s false)
    (g.flaggedStates.filter fun s => !(g.reached label).contains s) g
  have hclear := hg.mem_flaggedStates_each (fun _ => false)
    (g.flaggedStates.filter fun s => !(g.reached label).contains s) (t := s)
  have hset := (hg.toNamed.of_unmarked_eq hframe).mem_flaggedStates_each (fun _ => true)
    (g.reached label) (t := s)
  rw [ids_eq_of_unmarked_eq hframe, hclear] at hset
  refine hset.trans ?_
  by_cases hs : s ∈ g.reached label
  · have hmem : s ∈ g.states.ids := (List.mem_filter.1 hs).1
    simp [hs, hmem]
  · simp [hs]

/-- A step takes the epsilon transitions before the event, and leaves those after it to the next
step. -/
theorem Consistent.marked_step (hg : g.Consistent) (hactive : g.active = true)
    (event : Option String) : (g.step event).graph.marked = match event with
      | none => g.machine.εClosure g.marked
      | some label => moveSet g.machine (g.machine.εClosure g.marked) label := by
  unfold Graph.step
  rw [if_pos hactive]
  cases event with
  | none => exact hg.marked_close hactive
  | some label =>
    have hclosed := (hg.of_unmarked_eq (unmarked_close g) hactive).marked_advance label
    rw [hg.marked_close hactive, machine_eq_of_unmarked_eq (unmarked_close g)] at hclosed
    exact hclosed

theorem Named.hasCurrentFinal_iff (hg : g.Named) :
    g.hasCurrentFinal = true ↔ ∃ s ∈ g.marked, s ∈ g.machine.accept := by
  simp only [hasCurrentFinal, List.any_eq_true, Bool.and_eq_true, Prod.exists]
  constructor
  · intro hgiven
    obtain ⟨s, state, hs, hcurrent, hfinal⟩ := hgiven
    exact ⟨s, (hg.flagged_iff hs).2 hcurrent, Registry.mem_idsWhere_iff.2 ⟨state, hs, hfinal⟩⟩
  · intro hgiven
    obtain ⟨s, hcurrent, hfinal⟩ := hgiven
    obtain ⟨state, hs, hfinal⟩ := Registry.mem_idsWhere_iff.1 hfinal
    exact ⟨s, state, hs, (hg.flagged_iff hs).1 hcurrent, hfinal⟩

/-! ## Runs -/

/-- The events of a run that are letters: all but the epsilon sign. -/
def letters (events : List String) : List String := events.filter (· ≠ epsilonSign)

@[simp]
theorem unmarked_feed (g : Graph) (events : List String) :
    (g.feed events).2.unmarked = g.unmarked := by
  induction events generalizing g with
  | nil => rfl
  | cons event rest ih => exact (ih _).trans (unmarked_step g _)

/-- One event moves along all paths at once, up to the epsilon transitions that are left to the next
step. -/
theorem Consistent.evalFrom_step (hg : g.Consistent) (hactive : g.active = true) (event : String)
    (word : List String) : g.machine.evalFrom (g.step (labelOfWord event)).graph.marked word =
      g.machine.evalFrom g.marked (letters [event] ++ word) := by
  rw [hg.marked_step hactive]
  by_cases hevent : event = epsilonSign
  · simp [labelOfWord, letters, hevent, evalFrom_εClosure]
  · simp [labelOfWord, letters, hevent, evalFrom_cons]

/-- The closure of the current states after some events is the set of states that the automaton of
the theory is in after their letters. -/
theorem Consistent.εClosure_feed (hg : g.Consistent) (hactive : g.active = true)
    (events : List String) : g.machine.εClosure (g.feed events).2.marked =
      g.machine.evalFrom g.marked (letters events) := by
  induction events generalizing g with
  | nil => rfl
  | cons event rest ih =>
    have hframe := unmarked_step g (labelOfWord event)
    have hrest := ih (hg.step (labelOfWord event)) ((active_eq_of_unmarked_eq hframe).trans hactive)
    rw [machine_eq_of_unmarked_eq hframe, hg.evalFrom_step hactive] at hrest
    rw [feed]
    simp only
    rw [hrest, letters, letters, letters, ← List.filter_append, List.singleton_append]

section Runs

variable (events : List String)

/-- A run changes nothing but the status of the simulation. -/
theorem unmarked_run_finish : (g.run events).finish.unmarked = { g.unmarked with active := true } :=
  (unmarked_recognise _).trans ((unmarked_feed _ events).trans (unmarked_reset g))

theorem machine_run_finish : (g.run events).finish.machine = g.machine :=
  machine_eq_of_unmarked_eq (g := { g with active := true }) (unmarked_run_finish events)

theorem active_run_finish : (g.run events).finish.active = true :=
  active_eq_of_unmarked_eq (g := { g with active := true }) (unmarked_run_finish events)

theorem Consistent.run_finish (hg : g.Consistent) : (g.run events).finish.Consistent :=
  hg.activated.of_unmarked_eq (unmarked_run_finish events) rfl

/-- The graph after the last event, of which the verdict is asked. -/
def fed (g : Graph) (events : List String) : Graph := (g.reset.graph.feed events).2

theorem unmarked_fed : (g.fed events).unmarked = { g.unmarked with active := true } :=
  (unmarked_feed _ events).trans (unmarked_reset g)

theorem active_fed : (g.fed events).active = true :=
  active_eq_of_unmarked_eq (g := { g with active := true }) (unmarked_fed events)

theorem recognise_fed :
    (g.fed events).recognise =
      ((g.fed events).close.graph.hasCurrentFinal, (g.fed events).close) := by
  rw [recognise, if_pos (active_fed events)]

/-- After a run exactly the ends of the paths that spell the letters are current. -/
theorem Consistent.marked_run_finish (hg : g.Consistent) :
    (g.run events).finish.marked = g.machine.eval (letters events) := by
  have hactive : g.reset.graph.active = true :=
    active_eq_of_unmarked_eq (g := { g with active := true }) (unmarked_reset g)
  have hfed : (g.fed events).Consistent := hg.activated.of_unmarked_eq (unmarked_fed events) rfl
  have hmachine : (g.fed events).machine = g.reset.graph.machine :=
    machine_eq_of_unmarked_eq (unmarked_feed _ events)
  have hreset : g.reset.graph.machine = g.machine :=
    machine_eq_of_unmarked_eq (g := { g with active := true }) (unmarked_reset g)
  calc (g.run events).finish.marked
      = (g.fed events).close.graph.marked := congrArg (·.2.graph.marked) (recognise_fed events)
    _ = g.reset.graph.machine.εClosure (g.fed events).marked := by
        rw [hfed.marked_close (active_fed events), hmachine]
    _ = g.reset.graph.machine.evalFrom g.reset.graph.marked (letters events) :=
        hg.reset.εClosure_feed hactive events
    _ = g.machine.eval (letters events) := by
        rw [hreset, hg.marked_reset]
        rfl

/-- The verdict is whether a state that is current at the end is final. -/
theorem Consistent.accepted_run_iff (hg : g.Consistent) :
    (g.run events).accepted = true ↔
      ∃ t ∈ g.machine.eval (letters events), t ∈ g.machine.accept := by
  have hverdict : (g.run events).accepted = (g.run events).finish.hasCurrentFinal := by
    have haccepted : (g.run events).accepted = (g.fed events).recognise.1 := rfl
    have hfinish : (g.run events).finish = (g.fed events).recognise.2.graph := rfl
    rw [haccepted, hfinish, recognise_fed]
  rw [hverdict, (hg.run_finish events).hasCurrentFinal_iff, hg.marked_run_finish,
    machine_run_finish]

end Runs

/-- Only labels lead anywhere: any other word is a letter that no transition carries. -/
theorem Consistent.step_eq_empty (hg : g.Consistent) {word : String} (hword : ¬IsLabel word)
    (s : StateId) : g.machine.step s (some word) = ∅ := by
  refine Set.eq_empty_of_forall_notMem ?_
  rintro u ⟨t, ht⟩
  exact hword (hg.label_valid t _ word ht rfl)

end Graph

namespace Automaton

/-- The language of an automaton, whatever was done with it before.  A run succeeds exactly if some
path from an initial to a final state spells the letters of its events; afterwards the ends of all
paths that spell them, from any initial state, are current.  Events that are no labels are letters
on which no path goes on. -/
theorem Reachable.run_correct {a : Automaton} (h : a.Reachable) (p : Text.Palette)
    (events : List String) (traced : Bool) :
    ((Job.ran p (a.graph.run events) traced).success = true ↔
      ∃ s ∈ a.graph.initialStates, ∃ t ∈ a.graph.finalStates, ∃ path,
        path.reduceOption = Graph.letters events ∧ a.graph.machine.IsPath s t path) ∧
    (∀ t, t ∈ (a.graph.run events).finish.currentStates ↔
      ∃ s ∈ a.graph.initialStates, ∃ path,
        path.reduceOption = Graph.letters events ∧ a.graph.machine.IsPath s t path) ∧
    ∀ word, ¬IsLabel word → ∀ s, a.graph.machine.step s (some word) = ∅ := by
  have hg := h.consistent
  have hends : ∀ t, t ∈ a.graph.machine.eval (Graph.letters events) ↔
      ∃ s ∈ a.graph.initialStates, ∃ path,
        path.reduceOption = Graph.letters events ∧ a.graph.machine.IsPath s t path :=
    fun t => mem_evalFrom_iff_path
  refine ⟨?_, ?_, fun word hword => hg.step_eq_empty hword⟩
  · rw [Job.ran, hg.accepted_run_iff]
    constructor
    · intro hgiven
      obtain ⟨t, hreached, hfinal⟩ := hgiven
      obtain ⟨s, hs, path, hpath⟩ := (hends t).1 hreached
      exact ⟨s, hs, t, hfinal, path, hpath⟩
    · intro hgiven
      obtain ⟨s, hs, t, hfinal, path, hpath⟩ := hgiven
      exact ⟨t, (hends t).2 ⟨s, hs, path, hpath⟩, hfinal⟩
  · intro t
    rw [← hends, ← hg.marked_run_finish, Graph.currentStates,
      if_pos (Graph.active_run_finish events)]
    exact Iff.rfl

/-- The verdict of one run gives a path that is not the sequence of the events: it takes the epsilon
transition between the two letters. -/
theorem sample_run_correct : sample.Reachable ∧
    ∃ path, path.reduceOption = ["y", "y"] ∧ sample.graph.machine.IsPath ⟨0, 0⟩ ⟨0, 2⟩ path := by
  have hverdict : (Job.ran ⟨false⟩ (sample.graph.run ["?", "y", "y"]) false).success = true := by
    decide +kernel
  have hinitial : sample.graph.initialStates = [⟨0, 0⟩] := by decide +kernel
  have hfinal : sample.graph.finalStates = [⟨0, 2⟩] := by decide +kernel
  obtain ⟨hpath, _, _⟩ := reachable_sample.run_correct ⟨false⟩ ["?", "y", "y"] false
  obtain ⟨s, hs, t, ht, path, hword, hpath⟩ := hpath.1 hverdict
  rw [hinitial, List.mem_singleton] at hs
  rw [hfinal, List.mem_singleton] at ht
  subst hs ht
  exact ⟨reachable_sample, path, hword, hpath⟩

end Automaton

end NfaWorkbench
