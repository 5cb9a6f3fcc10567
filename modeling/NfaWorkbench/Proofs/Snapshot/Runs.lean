import NfaWorkbench.Jobs
import NfaWorkbench.Proofs.Snapshot.Complete
set_option autoImplicit false

/-!
# Snapshots: what runs and reports show

Everything that a job prints about an automaton is a function of the snapshot: the summary, the
canonical document, and the whole course of a run with its verdict.  A run begins with a restart,
so it does not depend on the status of the simulation either.
-/

namespace NfaWorkbench

/-- What is to be seen of a run: the snapshots it passes, and the verdict. -/
structure ShownRun where
  start : Snapshot
  course : List (String × Snapshot)
  accepted : Bool
  finish : Snapshot

/-- What is to be seen of a run of a graph. -/
def Run.shown (r : Run) : ShownRun where
  start := r.start.snapshot
  course := r.course.map fun e => (e.1, e.2.snapshot)
  accepted := r.accepted
  finish := r.finish.snapshot

/-! ## Runs of snapshots -/

namespace Snapshot

/-- The names of the states with a property, in braces. -/
def stateSet (s : Snapshot) (p : StateSnapshot → Bool) : String :=
  "\x7b" ++ ", ".intercalate (s.namesWhere p) ++ "\x7d"

/-- The size of the automaton, and its initial and final states. -/
def summary (s : Snapshot) : String :=
  "  States: " ++ Nat.repr s.states.length
    ++ "\n  Transitions: " ++ Nat.repr s.transitions.length
    ++ "\n  Initial: " ++ s.stateSet (·.initial)
    ++ "\n  Final: " ++ s.stateSet (·.final)

/-- Feeds events to the simulation. -/
noncomputable def feed (s : Snapshot) : List String → List (String × Snapshot) × Snapshot
  | [] => ([], s)
  | event :: rest =>
    let next := s.step (labelOfWord event)
    let later := next.feed rest
    ((event, next) :: later.1, later.2)

/-- Runs the automaton on events. -/
noncomputable def run (s : Snapshot) (events : List String) : ShownRun :=
  let fed := s.reset.feed events
  let verdict := fed.2.recognise
  { start := s.reset, course := fed.1, accepted := verdict.1, finish := verdict.2 }

variable (s : Snapshot)

/-- The status of the simulation is no part of the automaton. -/
@[simp]
theorem machine_atRest : s.atRest.machine = s.machine := by
  simp [machine, namesWhere, atRest, List.filter_map, Function.comp_def]

/-- A restart overwrites the status of the simulation. -/
@[simp]
theorem reset_atRest : s.atRest.reset = s.reset := by
  rw [reset, reset, machine_atRest]
  simp [runningAt, running, atRest, Function.comp_def]

@[simp]
theorem run_atRest (events : List String) : s.atRest.run events = s.run events := by
  rw [run, run, reset_atRest]

end Snapshot

namespace Text.Palette

/-- The line of a trace as the snapshot shows it. -/
def shownLine (p : Palette) (ink : Ink) (event : String) (s : Snapshot) : String :=
  p.paintPadded ink 12 event ++ "  " ++ s.stateSet (·.current) ++ "\n"

/-- How a run is shown. -/
def shownReport (p : Palette) (r : ShownRun) (traced : Bool) : String :=
  (if traced then
      p.shownLine .dimmed "reset" r.start
        ++ String.join (r.course.map fun e => p.shownLine .cyan e.1 e.2)
    else "") ++ p.verdict r.accepted

end Text.Palette

/-! ## Runs of graphs -/

namespace Graph

variable {g k : Graph} {p : Text.Palette}

theorem Named.stateSet_currentStates (hg : g.Named) :
    g.stateSet g.currentStates = g.snapshot.stateSet (·.current) := by
  rw [stateSet, hg.map_currentStates, Snapshot.stateSet]

theorem Named.stateSet_idsWhere (hg : g.Named) {p : State → Bool} {q : StateSnapshot → Bool}
    (hq : ∀ state, q (g.stateSnapshot state) = p state) :
    g.stateSet (g.states.idsWhere p) = g.snapshot.stateSet q := by
  rw [stateSet, hg.map_stateName_idsWhere hq, Snapshot.stateSet]

theorem Named.traceLine_eq (hg : g.Named) (ink : Text.Ink) (event : String) :
    p.traceLine ink event g = p.shownLine ink event g.snapshot := by
  rw [Text.Palette.traceLine, hg.stateSet_currentStates, Text.Palette.shownLine]

theorem Named.summary_eq (hg : g.Named) : g.summary = g.snapshot.summary := by
  have hinitial : g.stateSet g.initialStates = g.snapshot.stateSet (·.initial) :=
    hg.stateSet_idsWhere fun _ => rfl
  have hfinal : g.stateSet g.finalStates = g.snapshot.stateSet (·.final) :=
    hg.stateSet_idsWhere fun _ => rfl
  have hstates : g.snapshot.states.length = g.states.length := List.length_map _
  have htransitions : g.snapshot.transitions.length = g.transitions.length := List.length_map _
  delta summary Snapshot.summary
  rw [hinitial, hfinal, hstates, htransitions]

theorem Consistent.serializeTrimmed_eq (hg : g.Consistent) :
    g.serializeTrimmed = "\n".intercalate (g.snapshot.records.map Record.render) := by
  rw [serializeTrimmed, hg.records_eq]

theorem Consistent.feed (hg : g.Consistent) (events : List String) :
    (g.feed events).2.Consistent := by
  induction events generalizing g with
  | nil => exact hg
  | cons event rest ih => exact ih (hg.step _)

/-- Feeding events shows what feeding them to the snapshot gives. -/
theorem Consistent.feed_eq (hg : g.Consistent) (events : List String) :
    ((g.feed events).1.map (fun e => (e.1, e.2.snapshot)), (g.feed events).2.snapshot) =
      g.snapshot.feed events := by
  induction events generalizing g with
  | nil => rfl
  | cons event rest ih =>
    have hlater := ih (hg.step (labelOfWord event))
    rw [hg.snapshot_step] at hlater
    rw [Snapshot.feed, ← hlater, ← hg.snapshot_step]
    rfl

/-- The graphs on the way are shown by their snapshots. -/
theorem Consistent.map_traceLine_feed (hg : g.Consistent) (ink : Text.Ink) (events : List String) :
    (g.feed events).1.map (fun e => p.traceLine ink e.1 e.2) =
      ((g.feed events).1.map fun e => (e.1, e.2.snapshot)).map
        fun e => p.shownLine ink e.1 e.2 := by
  induction events generalizing g with
  | nil => rfl
  | cons event rest ih =>
    have hnext := hg.step (labelOfWord event)
    exact congrArg₂ List.cons (hnext.traceLine_eq ink event) (ih hnext)

/-- A run shows what the run of the snapshot gives. -/
theorem Consistent.shown_run (hg : g.Consistent) (events : List String) :
    (g.run events).shown = g.snapshot.run events := by
  have hfed := hg.reset.feed_eq events
  rw [hg.snapshot_reset] at hfed
  have hverdict := (hg.reset.feed events).recognise_eq
  have hlast := congrArg Prod.snd hfed
  simp only at hlast
  rw [hlast] at hverdict
  rw [Snapshot.run, ← hverdict, ← hfed, ← hg.snapshot_reset]
  rfl

/-- What is printed of a run depends on what it shows. -/
theorem Consistent.report_run (hg : g.Consistent) (events : List String) (traced : Bool) :
    p.report (g.run events) traced = p.shownReport (g.run events).shown traced := by
  have hstart := hg.reset.traceLine_eq (p := p) .dimmed "reset"
  have hcourse := hg.reset.map_traceLine_feed (p := p) .cyan events
  cases traced with
  | false => rfl
  | true =>
    simp only [Text.Palette.report, Text.Palette.trace, Text.Palette.shownReport, run, Run.shown,
      if_true, hstart, hcourse]

/-- Two graphs with one snapshot, apart from the status of their simulations, run alike. -/
theorem Consistent.run_alike (hg : g.Consistent) (hk : k.Consistent)
    (h : k.snapshot.atRest = g.snapshot.atRest) (events : List String) :
    (k.run events).shown = (g.run events).shown ∧
      ∀ traced, Job.ran p (k.run events) traced = Job.ran p (g.run events) traced := by
  have hshown : (k.run events).shown = (g.run events).shown := by
    rw [hk.shown_run, hg.shown_run, ← Snapshot.run_atRest, h, Snapshot.run_atRest]
  refine ⟨hshown, fun traced => ?_⟩
  have haccepted : (k.run events).accepted = (g.run events).accepted :=
    congrArg ShownRun.accepted hshown
  rw [Job.ran, Job.ran, hk.report_run, hg.report_run, hshown, haccepted]

/-- Two graphs with one snapshot are described and displayed alike. -/
theorem Consistent.display_alike (hg : g.Consistent) (hk : k.Consistent)
    (h : k.snapshot = g.snapshot) :
    k.summary = g.summary ∧ ∀ json, Job.shown k json = Job.shown g json := by
  refine ⟨by rw [hk.summary_eq, hg.summary_eq, h], fun json => ?_⟩
  rw [Job.shown, Job.shown, hk.serializeTrimmed_eq, hg.serializeTrimmed_eq, h]

end Graph

end NfaWorkbench
