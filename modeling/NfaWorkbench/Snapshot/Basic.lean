import NfaWorkbench.Graph.Edit
import NfaWorkbench.Simulation
set_option autoImplicit false

/-!
# Snapshots

A snapshot is everything about a graph that does not depend on how it came about: states and
transitions by name, in order, and the status of the simulation.  A state is shown as current only
while a simulation runs.  A graph is restored from a snapshot through the operations of the graph,
so a snapshot that breaks a rule of the graph is refused.
-/

namespace NfaWorkbench

/-- A state in a snapshot. -/
structure StateSnapshot where
  name : String
  x : Coordinate
  y : Coordinate
  initial : Bool
  final : Bool
  current : Bool
  deriving DecidableEq, Repr, Inhabited

/-- A transition in a snapshot, between states given by name. -/
structure TransitionSnapshot where
  source : String
  label : Option String
  target : String
  deriving DecidableEq, Repr, Inhabited

/-- The contents of a graph and the status of its simulation. -/
@[ext]
structure Snapshot where
  active : Bool
  states : List StateSnapshot
  transitions : List TransitionSnapshot
  deriving DecidableEq, Repr, Inhabited

/-- Why a graph could not be restored from a snapshot. -/
inductive SnapshotError
  /-- A transition refers to a state that the snapshot does not list. -/
  | unknownState (name : String)
  /-- The graph refused a state or a transition. -/
  | graph (error : GraphError)
  deriving DecidableEq, Repr

namespace SnapshotError

/-- The wording of an error. -/
def message : SnapshotError → String
  | unknownState name => "snapshot references undeclared state '" ++ name ++ "'"
  | graph error => "snapshot rejected: " ++ error.message

/-- The stable code of an error, for scripts. -/
def code : SnapshotError → String
  | unknownState _ => "SNAPSHOT_UNKNOWN_STATE"
  | graph error => error.code

end SnapshotError

namespace Graph

/-! ## Taking a snapshot -/

/-- The snapshot of one state. -/
def stateSnapshot (g : Graph) (state : State) : StateSnapshot where
  name := state.name
  x := state.position.x
  y := state.position.y
  initial := state.initial
  final := state.final
  current := g.active && state.current

/-- The snapshot of one transition. -/
def transitionSnapshot (g : Graph) (transition : Transition) : TransitionSnapshot where
  source := g.stateName transition.source
  label := transition.label
  target := g.stateName transition.target

/-- The snapshot of a graph. -/
def snapshot (g : Graph) : Snapshot where
  active := g.active
  states := g.states.map fun e => g.stateSnapshot e.2
  transitions := g.transitions.map fun e => g.transitionSnapshot e.2

/-! ## Restoring a graph -/

/-- The graph with one more state. -/
def restoreState (g : Graph) (s : StateSnapshot) : Except SnapshotError Graph :=
  match g.createState s.name ⟨s.x, s.y⟩ with
  | .error error => .error (.graph error)
  | .ok (id, created) => match created.graph.setInitial id s.initial with
    | .error error => .error (.graph error)
    | .ok change => match change.graph.setFinal id s.final with
      | .error error => .error (.graph error)
      | .ok change => .ok change.graph

/-- The graph with one more transition. -/
def restoreTransition (g : Graph) (t : TransitionSnapshot) : Except SnapshotError Graph :=
  match g.findState t.source with
  | none => .error (.unknownState t.source)
  | some source => match g.findState t.target with
    | none => .error (.unknownState t.target)
    | some target => match g.createTransition source target t.label with
      | .error error => .error (.graph error)
      | .ok (_, created) => .ok created.graph

/-- The graph with more states. -/
def restoreStates (g : Graph) : List StateSnapshot → Except SnapshotError Graph
  | [] => .ok g
  | s :: rest => match g.restoreState s with
    | .error error => .error error
    | .ok g => restoreStates g rest

/-- The graph with more transitions. -/
def restoreTransitions (g : Graph) : List TransitionSnapshot → Except SnapshotError Graph
  | [] => .ok g
  | t :: rest => match g.restoreTransition t with
    | .error error => .error error
    | .ok g => restoreTransitions g rest

/-- The graph with the status of the simulation: the flags of the current states count only if a
simulation was running. -/
def restoreStatus (g : Graph) (s : Snapshot) : Graph :=
  if s.active then
    (Change.each (fun g name =>
        match g.findState name with
        | some id => g.setCurrent id true
        | none => .none g)
      ((s.states.filter (·.current)).map (·.name)) { g with active := true }).graph
  else g

/-- The graph, with the given number, that a snapshot describes. -/
def ofSnapshot (owner : Nat) (s : Snapshot) : Except SnapshotError Graph :=
  match (empty owner).restoreStates s.states with
  | .error error => .error error
  | .ok g => match g.restoreTransitions s.transitions with
    | .error error => .error error
    | .ok g => .ok (g.restoreStatus s)

end Graph

end NfaWorkbench
