import NfaWorkbench.Graph.Edit
set_option autoImplicit false

/-!
# Simulation

A simulation keeps the set of states in which the automaton may be, as the flag `current` of every
state.  It is not running until the first `reset` and never stops after that.  A step first follows
all epsilon transitions, and then, if an event is given, moves along the transitions with that
label.

Following epsilon transitions goes in passes: every pass marks the targets of the states that the
pass before it marked.  A pass that marks nothing is the last, so there is one pass more than
unmarked states at most; that bound is the fuel of `markFrom`.
-/

namespace NfaWorkbench.Graph

/-- Sets or clears the current flag of a state; only a flag that flips is announced. -/
def setCurrent (g : Graph) (s : StateId) (value : Bool) : Change :=
  match g.state? s with
  | none => .none g
  | some state =>
    if state.current = value then .none g
    else ⟨g.modifyState s fun state => { state with current := value }, [.state s .current]⟩

/-- The current flag of every state becomes its initial flag, oldest state first. -/
def flagInitial (g : Graph) : Change :=
  Change.each (fun g (e : StateId × Bool) => g.setCurrent e.1 e.2)
    (g.states.map fun e => (e.1, e.2.initial)) { g with active := true }

/-- Starts a run: the current states are exactly the initial states. -/
def reset (g : Graph) : Change := g.flagInitial.notify .simulationChanged

/-! ## Epsilon transitions -/

/-- The targets of the transitions with the given label that leave the given states, in the order
of the states and of their transitions. -/
def targets (g : Graph) (sources : List StateId) (label : Option String) : List StateId :=
  sources.flatMap fun s =>
    match g.state? s with
    | none => []
    | some state => state.outgoing.filterMap fun t =>
      match g.transition? t with
      | none => none
      | some transition => if transition.label = label then some transition.target else none

/-- Whether a state is a member that is not current. -/
def isIdle (g : Graph) (s : StateId) : Bool := (g.state? s).any (!·.current)

/-- The change made by marking states current, and the states that were marked, in order. -/
structure Marking where
  graph : Graph
  notes : List Notification
  marked : List StateId

/-- Marks the listed states that are not current yet. -/
def markIdle : List StateId → Graph → Marking
  | [], g => ⟨g, [], []⟩
  | s :: rest, g =>
    if g.isIdle s then
      let c := g.setCurrent s true
      let m := markIdle rest c.graph
      ⟨m.graph, c.notes ++ m.notes, s :: m.marked⟩
    else markIdle rest g

/-- Marks what epsilon transitions reach from the frontier, in at most `fuel` passes.  A pass marks
the targets of the frontier, and the states that it marked are the frontier of the next pass. -/
def markFrom : (fuel : Nat) → (frontier : List StateId) → Graph → Marking
  | 0, _, g => ⟨g, [], []⟩
  | _ + 1, [], g => ⟨g, [], []⟩
  | fuel + 1, frontier, g =>
    let first := markIdle (g.targets frontier none) g
    let later := markFrom fuel first.marked first.graph
    ⟨later.graph, first.notes ++ later.notes, first.marked ++ later.marked⟩

/-- The number of passes that `markFrom` needs at most: one for every idle state, and the last one,
which marks nothing. -/
def passBound (g : Graph) : Nat := (g.states.idsWhere (!·.current)).length + 1

/-- Marks every state that epsilon transitions reach from the current states. -/
def followEpsilon (g : Graph) : Marking := markFrom g.passBound g.flaggedStates g

/-- The change made by following the epsilon transitions. -/
def close (g : Graph) : Change :=
  let closed := g.followEpsilon
  ⟨closed.graph, closed.notes⟩

/-! ## Steps -/

/-- The states reached from the current states by transitions with a label, oldest first. -/
def reached (g : Graph) (label : String) : List StateId :=
  let found := g.targets g.flaggedStates (some label)
  g.states.ids.filter found.contains

/-- Replaces the current states by those that a label reaches from them.  The states that are left
are cleared first. -/
def advance (g : Graph) (label : String) : Change :=
  let goal := g.reached label
  (Change.each (fun g s => g.setCurrent s false)
      (g.flaggedStates.filter fun s => !goal.contains s) g).andThen
    (Change.each (fun g s => g.setCurrent s true) goal)

/-- One step of the running simulation: with an event the transitions of that label are taken after
the epsilon transitions, without one only the epsilon transitions.  Nothing happens if no simulation
is running. -/
def step (g : Graph) (event : Option String) : Change :=
  if g.active then
    (match event with
      | none => g.close
      | some label => g.close.andThen (·.advance label)).notify .simulationChanged
  else .none g

/-- Whether some state is current and final. -/
def hasCurrentFinal (g : Graph) : Bool := g.states.any fun e => e.2.current && e.2.final

/-- Whether the input so far is recognised: whether epsilon transitions lead from the current states
to a final one.  The states that they reach become current.  Nothing is recognised if no simulation
is running. -/
def recognise (g : Graph) : Bool × Change :=
  if g.active then
    let closed := g.close
    (closed.graph.hasCurrentFinal, closed)
  else (false, .none g)

end NfaWorkbench.Graph
