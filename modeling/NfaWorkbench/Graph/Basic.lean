import Std.Data.ExtTreeMap
import NfaWorkbench.Graph.Naming
import NfaWorkbench.Graph.Position
import NfaWorkbench.Registry
set_option autoImplicit false

/-!
# Graph: states, transitions and the graph that owns them

A graph owns its states and transitions and gives each an identifier of its own: the number of the
graph and a running index that is never used again.  Everything else refers to states and
transitions by identifier, so an identifier whose owner is gone is simply no member any more.

Three things are kept twice, for fast access: the identifier of every name, and for every state
the transitions that leave it and those that enter it.  The operations of `Graph.Edit` keep them
equal to what the two registries say.
-/

namespace NfaWorkbench

/-- The identifier of a state: the graph that issued it and a running index. -/
structure StateId where
  owner : Nat
  index : Nat
  deriving DecidableEq, Repr, Inhabited

/-- The identifier of a transition: the graph that issued it and a running index. -/
structure TransitionId where
  owner : Nat
  index : Nat
  deriving DecidableEq, Repr, Inhabited

/-- The short form in which messages show a state identifier. -/
def StateId.render (s : StateId) : String := "s" ++ Nat.repr s.index

/-- The short form in which messages show a transition identifier. -/
def TransitionId.render (t : TransitionId) : String := "t" ++ Nat.repr t.index

/-- A state: its name, its place on the drawing plane, its three flags, and the transitions that
leave and enter it, oldest first. -/
structure State where
  name : String
  position : Position
  initial : Bool
  final : Bool
  current : Bool
  outgoing : List TransitionId
  incoming : List TransitionId
  deriving DecidableEq, Repr, Inhabited

/-- A transition between two states.  One without a label is an epsilon transition: it can be taken
without an event. -/
structure Transition where
  source : StateId
  target : StateId
  label : Option String
  deriving DecidableEq, Repr, Inhabited

/-- How an epsilon transition is written where a label is expected. -/
def epsilonSign : String := "?"

/-- The label of a transition as it is written. -/
def renderLabel (label : Option String) : String := label.getD epsilonSign

/-- The label that a written word stands for: the epsilon sign stands for none. -/
def labelOfWord (word : String) : Option String := if word = epsilonSign then none else some word

/-- A nondeterministic automaton with epsilon transitions, and the status of its simulation. -/
structure Graph where
  /-- The number that all identifiers of this graph carry. -/
  owner : Nat
  /-- The states, oldest first. -/
  states : Registry StateId State
  /-- The identifier of every state name. -/
  names : Std.ExtTreeMap String StateId
  /-- The transitions, oldest first. -/
  transitions : Registry TransitionId Transition
  /-- Whether a simulation is running. -/
  active : Bool
  /-- The index of the next state. -/
  nextState : Nat
  /-- The index of the next transition. -/
  nextTransition : Nat

namespace Graph

/-- The graph with the given number that has no states yet. -/
def empty (owner : Nat) : Graph where
  owner := owner
  states := []
  names := {}
  transitions := []
  active := false
  nextState := 0
  nextTransition := 0

instance : Inhabited Graph := ⟨empty 0⟩

/-! ## Looking things up -/

/-- The state with an identifier. -/
def state? (g : Graph) (s : StateId) : Option State := g.states.get? s

/-- The transition with an identifier. -/
def transition? (g : Graph) (t : TransitionId) : Option Transition := g.transitions.get? t

/-- Whether an identifier is that of a state of this graph. -/
def hasState (g : Graph) (s : StateId) : Bool := g.states.contains s

/-- Whether an identifier is that of a transition of this graph. -/
def hasTransition (g : Graph) (t : TransitionId) : Bool := g.transitions.contains t

/-- The state with a name. -/
def findState (g : Graph) (name : String) : Option StateId := g.names[name]?

/-- The name of a state, and a question mark for an identifier that is no member. -/
def stateName (g : Graph) (s : StateId) : String :=
  match g.state? s with
  | some state => state.name
  | none => "?"

/-- The initial states, oldest first. -/
def initialStates (g : Graph) : List StateId := g.states.idsWhere (·.initial)

/-- The final states, oldest first. -/
def finalStates (g : Graph) : List StateId := g.states.idsWhere (·.final)

/-- The states whose current flag is set, whether or not a simulation is running. -/
def flaggedStates (g : Graph) : List StateId := g.states.idsWhere (·.current)

/-- The current states of the running simulation, oldest first; none if no simulation is running. -/
def currentStates (g : Graph) : List StateId := if g.active then g.flaggedStates else []

end Graph

end NfaWorkbench
