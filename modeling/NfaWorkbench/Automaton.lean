import NfaWorkbench.Bus
import NfaWorkbench.Simulation
set_option autoImplicit false

/-!
# Automata that can be observed

An automaton is a graph with a bus of subscriptions.  Every operation works on the graph alone; the
notifications that it sends then go through the bus.  So the graph never depends on who listens.

`perform` carries out one operation and tells everything that can be seen of it: the answer, the
automaton afterwards, the notifications sent and the deliveries made.
-/

namespace NfaWorkbench

/-- A graph and the subscriptions to its notifications. -/
structure Automaton where
  graph : Graph
  bus : Bus

namespace Automaton

/-- A graph to which nobody listens. -/
def ofGraph (g : Graph) : Automaton := ⟨g, .empty⟩

/-- The automaton with the given number that has no states and no subscriptions. -/
def empty (owner : Nat) : Automaton := ofGraph (.empty owner)

/-- An operation that may change an automaton. -/
inductive Operation
  | createState (name : String) (position : Position)
  | removeState (id : StateId)
  | setInitial (id : StateId) (value : Bool)
  | setFinal (id : StateId) (value : Bool)
  | moveBy (id : StateId) (dx dy : Coordinate)
  | createTransition (source target : StateId) (label : Option String)
  | removeTransition (id : TransitionId)
  | reset
  | step (event : Option String)
  | recognise
  | subscribe (channel : Channel)
  | unsubscribe (id : Nat)
  deriving DecidableEq, Repr

/-- What an operation answers. -/
inductive Answer
  | done
  | state (id : StateId)
  | transition (id : TransitionId)
  | subscription (id : Nat)
  | verdict (value : Bool)
  deriving DecidableEq, Repr

/-- Everything that can be seen of an operation. -/
structure Outcome where
  answer : Except GraphError Answer
  automaton : Automaton
  notes : List Notification
  deliveries : List Delivery

/-- The outcome of a change: its notifications go through the bus. -/
def changed (a : Automaton) (answer : Answer) (c : Change) : Outcome :=
  let sent := a.bus.publish c.notes
  ⟨.ok answer, ⟨c.graph, sent.1⟩, c.notes, sent.2⟩

/-- The outcome of a refused operation: nothing happens. -/
def refused (a : Automaton) (error : GraphError) : Outcome := ⟨.error error, a, [], []⟩

/-- The outcome of an operation that may be refused. -/
def settled (a : Automaton) : Except GraphError (Answer × Change) → Outcome
  | .ok (answer, c) => a.changed answer c
  | .error error => a.refused error

/-- The refusal of a subscription to a channel that does not exist. -/
def channelError? (a : Automaton) : Channel → Option GraphError
  | .automaton => none
  | .state s => if a.graph.hasState s then none else some (.unknownState s)
  | .transition t => if a.graph.hasTransition t then none else some (.unknownTransition t)

/-- Subscribes to a channel of the automaton. -/
def subscribe (a : Automaton) (channel : Channel) : Except GraphError (Nat × Automaton) :=
  match a.channelError? channel with
  | some error => .error error
  | none => .ok ((a.bus.subscribe channel).1, { a with bus := (a.bus.subscribe channel).2 })

/-- Ends a subscription, and tells whether it was alive. -/
def unsubscribe (a : Automaton) (id : Nat) : Bool × Automaton :=
  ((a.bus.unsubscribe id).1, { a with bus := (a.bus.unsubscribe id).2 })

/-- Carries out one operation. -/
def perform (a : Automaton) : Operation → Outcome
  | .createState name position =>
    a.settled ((a.graph.createState name position).map fun r => (.state r.1, r.2))
  | .removeState s => a.changed .done (a.graph.removeState s)
  | .setInitial s value => a.settled ((a.graph.setInitial s value).map ((.done, ·)))
  | .setFinal s value => a.settled ((a.graph.setFinal s value).map ((.done, ·)))
  | .moveBy s dx dy => a.settled ((a.graph.moveBy s dx dy).map ((.done, ·)))
  | .createTransition source target label =>
    a.settled ((a.graph.createTransition source target label).map fun r => (.transition r.1, r.2))
  | .removeTransition t => a.changed .done (a.graph.removeTransition t)
  | .reset => a.changed .done a.graph.reset
  | .step event => a.changed .done (a.graph.step event)
  | .recognise =>
    let recognised := a.graph.recognise
    a.changed (.verdict recognised.1) recognised.2
  | .subscribe channel =>
    match a.subscribe channel with
    | .error error => a.refused error
    | .ok (id, b) => ⟨.ok (.subscription id), b, [], []⟩
  | .unsubscribe id => ⟨.ok (.verdict (a.unsubscribe id).1), (a.unsubscribe id).2, [], []⟩

end Automaton

end NfaWorkbench
