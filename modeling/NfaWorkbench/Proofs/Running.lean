import NfaWorkbench.Proofs.Simulation.Looking
import NfaWorkbench.Proofs.Snapshot.Runs
set_option autoImplicit false

/-!
# Runs of automata

A run is a restart, a step for every event, and the question for the verdict.  The restart writes
all flags, so a run forgets the simulation that was there before it, and running once more leads to
the same graph.  A trace shows the graphs on the way: after every event the one that the operations
up to that event make.
-/

namespace NfaWorkbench

/-- The part of a snapshot that is at rest does not tell which simulation is running. -/
@[simp]
theorem Snapshot.atRest_runningAt (s : Snapshot) (names : Set String) :
    (s.runningAt names).atRest = s.atRest := by
  simp [runningAt, running, atRest, Function.comp_def]

/-! ## The course of a run -/

namespace Graph

variable {g : Graph}

/-- On its course a run passes, with every event, the graph after all events up to it. -/
theorem map_feed_fst {α : Type} (f : String × Graph → α) (g : Graph) (events : List String) :
    (g.feed events).1.map f =
      events.mapIdx fun i event => f (event, (g.feed (events.take (i + 1))).2) := by
  induction events generalizing g with
  | nil => rfl
  | cons event rest ih =>
    rw [feed, List.mapIdx_cons, List.map_cons, ih]
    rfl

/-- A run ends with the snapshot before it, up to the status of the simulation. -/
theorem Consistent.atRest_run_finish (hg : g.Consistent) (events : List String) :
    (g.run events).finish.snapshot.atRest = g.snapshot.atRest := by
  rw [hg.snapshot_eq_runningAt (unmarked_run_finish events), Snapshot.atRest_runningAt]

/-- Running once more makes no difference. -/
theorem Consistent.run_finish_run_finish (hg : g.Consistent) (events : List String) :
    ((g.run events).finish.run events).finish = (g.run events).finish := by
  have hfinish := hg.run_finish events
  refine hfinish.eq_of_unmarked_eq ?_ ?_
  · exact (unmarked_run_finish events).trans (unmarked_eq_of_active (active_run_finish events))
  · rw [hfinish.marked_run_finish, machine_run_finish, hg.marked_run_finish]

end Graph

namespace Automaton

/-! ## The operations of a run -/

/-- A restart, and a step for every event. -/
def feeding (events : List String) : List Operation :=
  .reset :: events.map fun event => .step (labelOfWord event)

/-- The operations of a run: last of all the verdict is asked for. -/
def running (events : List String) : List Operation := feeding events ++ [.recognise]

variable {a b : Automaton}

theorem graph_performAll_steps (a : Automaton) (events : List String) :
    (a.performAll (events.map fun event => .step (labelOfWord event))).graph =
      (a.graph.feed events).2 := by
  induction events generalizing a with
  | nil => rfl
  | cons event rest ih => exact ih (a.perform (.step (labelOfWord event))).automaton

theorem graph_performAll_feeding (a : Automaton) (events : List String) :
    (a.performAll (feeding events)).graph = a.graph.fed events :=
  graph_performAll_steps (a.perform .reset).automaton events

theorem graph_performAll_running (a : Automaton) (events : List String) :
    (a.performAll (running events)).graph = (a.graph.run events).finish := by
  rw [running, performAll_concat]
  change (a.performAll (feeding events)).graph.recognise.2.graph = _
  rw [graph_performAll_feeding]
  rfl

/-- The verdict of a run is the answer to its last operation. -/
theorem answer_recognise_feeding (a : Automaton) (events : List String) :
    ((a.performAll (feeding events)).perform .recognise).answer =
      .ok (.verdict (a.graph.run events).accepted) := by
  change Except.ok (Answer.verdict (a.performAll (feeding events)).graph.recognise.1) = _
  rw [graph_performAll_feeding]
  rfl

/-- A traced run shows the restart, then every event with the automaton after the operations up to
it, and then what is shown without a trace. -/
theorem output_traced (p : Text.Palette) (a : Automaton) (events : List String) :
    (Job.ran p (a.graph.run events) true).output =
      p.traceLine .dimmed "reset" (a.performAll (feeding [])).graph
        ++ String.join (events.mapIdx fun i event =>
          p.traceLine .cyan event (a.performAll (feeding (events.take (i + 1)))).graph)
        ++ (Job.ran p (a.graph.run events) false).output := by
  have hcourse : (a.graph.run events).course.map (fun e => p.traceLine .cyan e.1 e.2) =
      events.mapIdx fun i event =>
        p.traceLine .cyan event (a.performAll (feeding (events.take (i + 1)))).graph := by
    simp only [graph_performAll_feeding]
    exact Graph.map_feed_fst (fun e => p.traceLine .cyan e.1 e.2) a.graph.reset.graph events
  simp only [Job.ran, Text.Palette.report, Text.Palette.trace, hcourse, if_true]
  simp only [Bool.false_eq_true, if_false, String.empty_append]
  rfl

/-- A run forgets what was before it.  Automata with one snapshot, apart from the status of their
simulations, answer a run alike and show one snapshot after it, in which only that status is new.
The verdict and the automaton afterwards are those of the operations of the run, whether it is
traced or not; a trace comes in front of what is shown without it, one line for the restart and one
for every event.  Running once more on the same events is answered alike and changes nothing. -/
theorem Reachable.run_forgets (ha : a.Reachable) (hb : b.Reachable)
    (h : b.graph.snapshot.atRest = a.graph.snapshot.atRest) (p : Text.Palette)
    (events : List String) :
    (∀ traced, Job.ran p (b.graph.run events) traced = Job.ran p (a.graph.run events) traced) ∧
    (b.performAll (running events)).graph.snapshot =
      (a.performAll (running events)).graph.snapshot ∧
    (a.performAll (running events)).graph.snapshot.atRest = a.graph.snapshot.atRest ∧
    (a.performAll (running events)).graph = (a.graph.run events).finish ∧
    (∀ traced, ((a.performAll (feeding events)).perform .recognise).answer =
      .ok (.verdict (Job.ran p (a.graph.run events) traced).success)) ∧
    (Job.ran p (a.graph.run events) true).output =
      p.traceLine .dimmed "reset" (a.performAll (feeding [])).graph
        ++ String.join (events.mapIdx fun i event =>
          p.traceLine .cyan event (a.performAll (feeding (events.take (i + 1)))).graph)
        ++ (Job.ran p (a.graph.run events) false).output ∧
    (∀ traced, Job.ran p ((a.performAll (running events)).graph.run events) traced =
      Job.ran p (a.graph.run events) traced) ∧
    ((a.performAll (running events)).performAll (running events)).graph =
      (a.performAll (running events)).graph := by
  have hga := ha.consistent
  obtain ⟨hshown, hran⟩ := hga.run_alike (p := p) hb.consistent h events
  have hagain := (hga.run_alike (p := p) (hga.run_finish events) (hga.atRest_run_finish events)
    events).2
  simp only [graph_performAll_running]
  exact ⟨hran, congrArg ShownRun.finish hshown, hga.atRest_run_finish events, trivial,
    fun _ => answer_recognise_feeding a events, output_traced p a events, hagain,
    hga.run_finish_run_finish events⟩

/-- The states and transitions of the sample, made without a detour and never simulated. -/
def plainSample : Automaton := (empty 1).performAll
  [.createState "a" default, .createState "b" default,
    .createTransition ⟨1, 0⟩ ⟨1, 0⟩ (some "x"), .createTransition ⟨1, 0⟩ ⟨1, 1⟩ (some "y"),
    .createTransition ⟨1, 1⟩ ⟨1, 0⟩ none, .setInitial ⟨1, 0⟩ true, .setFinal ⟨1, 1⟩ true]

/-- The simulation of the sample is running, and its second state has another identifier. -/
theorem plainSample_run_forgets : sample.Reachable ∧ plainSample.Reachable ∧
    plainSample.graph.snapshot.atRest = sample.graph.snapshot.atRest ∧
    (Job.ran ⟨false⟩ (sample.graph.run ["y", "?"]) true).output =
      "       reset  \x7ba\x7d\n           y  \x7bb\x7d\n           ?  \x7ba, b\x7d\nACCEPTED" ∧
    Job.ran ⟨false⟩ ((sample.performAll (running ["y", "?"])).graph.run ["y", "?"]) true =
      Job.ran ⟨false⟩ (plainSample.graph.run ["y", "?"]) true := by
  have hplain : plainSample.Reachable := (Reachable.empty 1).performAll _
  have hsame : plainSample.graph.snapshot.atRest = sample.graph.snapshot.atRest := by
    decide +kernel
  obtain ⟨hran, _, _, _, _, houtput, hagain, _⟩ :=
    reachable_sample.run_forgets hplain hsame ⟨false⟩ ["y", "?"]
  refine ⟨reachable_sample, hplain, hsame, ?_, ?_⟩
  · rw [houtput]
    decide +kernel
  · rw [hagain, hran]

end Automaton

end NfaWorkbench
