import NfaWorkbench.Simulation
import NfaWorkbench.Text.Palette
set_option autoImplicit false

/-!
# Reports

What the workbench shows of an automaton: sets of states, a summary, and the course of a run.

A run starts the simulation anew, feeds it the given events one after another and asks whether they
are recognised.  It is carried out first and shown afterwards, so what is shown cannot change it.
-/

namespace NfaWorkbench

namespace Graph

/-- The states of a list, by name, in braces. -/
def stateSet (g : Graph) (states : List StateId) : String :=
  "\x7b" ++ ", ".intercalate (states.map g.stateName) ++ "\x7d"

/-- The size of the automaton, and its initial and final states. -/
def summary (g : Graph) : String :=
  "  States: " ++ Nat.repr g.states.length
    ++ "\n  Transitions: " ++ Nat.repr g.transitions.length
    ++ "\n  Initial: " ++ g.stateSet g.initialStates
    ++ "\n  Final: " ++ g.stateSet g.finalStates

end Graph

/-- The course of a run: the automaton after the start and after every event, and the verdict. -/
structure Run where
  /-- The automaton after the start of the simulation. -/
  start : Graph
  /-- Every event with the automaton after it. -/
  course : List (String × Graph)
  /-- Whether the events are recognised. -/
  accepted : Bool
  /-- The automaton after the verdict. -/
  finish : Graph

namespace Graph

/-- Feeds events to the simulation; gives every event with the automaton after it, and the last of
these automata. -/
def feed (g : Graph) : List String → List (String × Graph) × Graph
  | [] => ([], g)
  | event :: rest =>
    let next := (g.step (labelOfWord event)).graph
    let later := next.feed rest
    ((event, next) :: later.1, later.2)

/-- Runs the automaton on events.  The epsilon sign stands for a step without an event. -/
def run (g : Graph) (events : List String) : Run :=
  let start := g.reset.graph
  let fed := start.feed events
  let verdict := fed.2.recognise
  { start, course := fed.1, accepted := verdict.1, finish := verdict.2.graph }

end Graph

namespace Text.Palette

/-- How a verdict is shown. -/
def verdict (p : Palette) (accepted : Bool) : String :=
  if accepted then p.paint .green "ACCEPTED" else p.paint .red "REJECTED"

/-- The line of a trace: what happened, in a column of twelve characters, and the current states
after it. -/
def traceLine (p : Palette) (ink : Ink) (event : String) (g : Graph) : String :=
  p.paintPadded ink 12 event ++ "  " ++ g.stateSet g.currentStates ++ "\n"

/-- The trace of a run. -/
def trace (p : Palette) (r : Run) : String :=
  p.traceLine .dimmed "reset" r.start
    ++ String.join (r.course.map fun e => p.traceLine .cyan e.1 e.2)

/-- How a run is shown. -/
def report (p : Palette) (r : Run) (traced : Bool) : String :=
  (if traced then p.trace r else "") ++ p.verdict r.accepted

end Text.Palette

end NfaWorkbench
