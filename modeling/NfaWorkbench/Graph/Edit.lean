import NfaWorkbench.Graph.Change
import NfaWorkbench.Graph.Error
set_option autoImplicit false

/-!
# Graph: creating, changing and removing

The operations that edit a graph.  Those that can be refused check everything before they change
anything.  A removed state takes the transitions that touch it along.
-/

namespace NfaWorkbench.Graph

/-- Changes one state in place. -/
def modifyState (g : Graph) (s : StateId) (f : State → State) : Graph :=
  { g with states := g.states.modify s f }

/-! ## States -/

/-- The identifier of the next state. -/
def nextStateId (g : Graph) : StateId := ⟨g.owner, g.nextState⟩

/-- The graph with one more state, which carries no flag. -/
def addState (g : Graph) (name : String) (position : Position) : Graph :=
  let state : State :=
    { name, position, initial := false, final := false, current := false,
      outgoing := [], incoming := [] }
  { g with
    states := g.states.add g.nextStateId state
    names := g.names.insert name g.nextStateId
    nextState := g.nextState + 1 }

/-- Creates a state that carries no flag. -/
def createState (g : Graph) (name : String) (position : Position) :
    Except GraphError (StateId × Change) :=
  match nameFault? name with
  | some fault => .error (.invalidName name fault)
  | none =>
    if g.names.contains name then .error (.duplicateName name)
    else .ok (g.nextStateId, ⟨g.addState name position, [.statesChanged]⟩)

/-- Changes one state and announces what about it changed. -/
def changeState (g : Graph) (s : StateId) (aspect : StateAspect) (f : State → State) :
    Except GraphError Change :=
  if g.hasState s then .ok ⟨g.modifyState s f, [.state s aspect]⟩
  else .error (.unknownState s)

/-- Sets or clears the initial flag of a state. -/
def setInitial (g : Graph) (s : StateId) (value : Bool) : Except GraphError Change :=
  g.changeState s .initial fun state => { state with initial := value }

/-- Sets or clears the final flag of a state. -/
def setFinal (g : Graph) (s : StateId) (value : Bool) : Except GraphError Change :=
  g.changeState s .final fun state => { state with final := value }

/-- Moves a state. -/
def moveBy (g : Graph) (s : StateId) (dx dy : Coordinate) : Except GraphError Change :=
  g.changeState s .position fun state => { state with position := state.position.moveBy dx dy }

/-! ## Transitions -/

/-- Whether there is a transition between two states with this very label. -/
def hasEdge (g : Graph) (source target : StateId) (label : Option String) : Bool :=
  g.transitions.any fun e => e.2.source = source ∧ e.2.target = target ∧ e.2.label = label

/-- What is wrong with the label of a new transition, `none` if nothing is. -/
def labelError? : Option String → Option GraphError
  | none => none
  | some label => (labelFault? label).map (.invalidLabel label)

/-- The identifier of the next transition. -/
def nextTransitionId (g : Graph) : TransitionId := ⟨g.owner, g.nextTransition⟩

/-- The graph with one more transition, which both of its states keep. -/
def addTransition (g : Graph) (source target : StateId) (label : Option String) : Graph :=
  let t := g.nextTransitionId
  let linked :=
    (g.modifyState source fun state => { state with outgoing := state.outgoing ++ [t] })
      |>.modifyState target fun state => { state with incoming := state.incoming ++ [t] }
  { linked with
    transitions := g.transitions.add t ⟨source, target, label⟩
    nextTransition := g.nextTransition + 1 }

/-- Creates a transition; one without a label is an epsilon transition. -/
def createTransition (g : Graph) (source target : StateId) (label : Option String) :
    Except GraphError (TransitionId × Change) :=
  if g.hasState source = false then .error (.unknownState source)
  else if g.hasState target = false then .error (.unknownState target)
  else match labelError? label with
    | some error => .error error
    | none =>
      if g.hasEdge source target label then
        .error (.duplicateTransition (g.stateName source) label (g.stateName target))
      else .ok (g.nextTransitionId, ⟨g.addTransition source target label, [.transitionsChanged]⟩)

/-- The graph without a transition, which its two states no longer keep. -/
def eraseTransition (g : Graph) (t : TransitionId) (transition : Transition) : Graph :=
  let unlinked :=
    (g.modifyState transition.source fun state =>
        { state with outgoing := state.outgoing.filter (· ≠ t) })
      |>.modifyState transition.target fun state =>
        { state with incoming := state.incoming.filter (· ≠ t) }
  { unlinked with transitions := g.transitions.erase t }

/-- Removes a transition; nothing happens if it is no member. -/
def removeTransition (g : Graph) (t : TransitionId) : Change :=
  match g.transition? t with
  | none => .none g
  | some transition =>
    ⟨g.eraseTransition t transition, [.transitionRemoved t, .transitionsChanged]⟩

/-- The transitions from one state to another, whatever their label. -/
def findTransitions (g : Graph) (source target : StateId) :
    Except GraphError (List TransitionId) :=
  match g.state? source with
  | none => .error (.unknownState source)
  | some state =>
    if g.hasState target then
      .ok (state.outgoing.filter fun t => (g.transition? t).any (·.target = target))
    else .error (.unknownState target)

/-! ## Removing a state -/

/-- The transitions that leave or enter a state, oldest first and each once. -/
def touching (g : Graph) (state : State) : List TransitionId :=
  g.transitions.ids.filter fun t => state.outgoing.contains t || state.incoming.contains t

/-- Takes one state out of the registry and of the name index. -/
def dropState (g : Graph) (s : StateId) (name : String) : Change :=
  ⟨{ g with states := g.states.erase s, names := g.names.erase name },
    [.state s .removed, .statesChanged]⟩

/-- Removes a state after the transitions that touch it; nothing happens if it is no member. -/
def removeState (g : Graph) (s : StateId) : Change :=
  match g.state? s with
  | none => .none g
  | some state =>
    (Change.each removeTransition (g.touching state) g).andThen fun g => g.dropState s state.name

end NfaWorkbench.Graph
