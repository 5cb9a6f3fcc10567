import NfaWorkbench.Automaton
import NfaWorkbench.Document.Reader
import NfaWorkbench.Snapshot.Codec
set_option autoImplicit false

/-!
# Workspaces

A workspace holds any number of automata, each in a slot of its own.  Every automaton that comes
into being gets the next number, which its identifiers carry; so no two automata of a workspace ever
issue the same identifier.  Automata never vanish: one that is replaced moves to a new slot.

Subscriptions of all automata are counted together.  A subscription either records what it hears in
a log, which it may share with others, or tells it at once.
-/

namespace NfaWorkbench

/-- What a new automaton is made of. -/
inductive Content
  /-- Nothing: it is empty. -/
  | nothing
  /-- A document. -/
  | document (text : String)
  /-- A snapshot as JSON. -/
  | snapshot (text : String)
  deriving DecidableEq, Repr

/-- Why an automaton could not be made. -/
inductive ContentError
  | document (error : ReadError)
  | json
  | snapshot (error : SnapshotError)
  deriving DecidableEq, Repr

/-- The graph with a number that is made of some content. -/
def Content.build (owner : Nat) : Content → Except ContentError Graph
  | nothing => .ok (.empty owner)
  | document text => (Graph.parse owner text).mapError .document
  | snapshot text => match Snapshot.parse text with
    | none => .error .json
    | some s => (Graph.ofSnapshot owner s).mapError .snapshot

/-- A subscription of an automaton, and what becomes of what it hears. -/
structure Listener where
  /-- The number of the automaton. -/
  owner : Nat
  /-- The number of the subscription there. -/
  subscription : Nat
  /-- The log that records what it hears, if there is one. -/
  log : Option Int
  deriving DecidableEq, Repr

/-- A notification that a listener without a log has heard. -/
structure Hearing where
  listener : Nat
  note : Notification
  deriving DecidableEq, Repr

/-- The automata, the listeners and the logs of a workspace. -/
structure Workspace where
  /-- The automaton of every slot. -/
  slots : List Automaton
  /-- The number of the next automaton. -/
  nextOwner : Nat
  /-- All listeners, oldest first. -/
  listeners : List Listener
  /-- The logs that have been written to. -/
  logs : Registry Int (List Notification)

namespace Workspace

/-- The workspace with one automaton, which is empty. -/
def start : Workspace := ⟨[.empty 0], 1, [], []⟩

/-! ## Identifiers -/

/-- The automaton with a number. -/
def automatonOf? (w : Workspace) (owner : Nat) : Option Automaton :=
  w.slots.find? (·.graph.owner = owner)

/-- Whether a state identifier was ever issued. -/
def issuedState (w : Workspace) (s : StateId) : Bool :=
  (w.automatonOf? s.owner).any (s.index < ·.graph.nextState)

/-- Whether a transition identifier was ever issued. -/
def issuedTransition (w : Workspace) (t : TransitionId) : Bool :=
  (w.automatonOf? t.owner).any (t.index < ·.graph.nextTransition)

/-! ## New automata -/

/-- The workspace with one more automaton, in the last slot. -/
def add (w : Workspace) (a : Automaton) : Workspace :=
  { w with slots := w.slots ++ [a], nextOwner := w.nextOwner + 1 }

/-- Makes a new automaton in a new slot. -/
def create (w : Workspace) (content : Content) : Except ContentError Workspace :=
  match content.build w.nextOwner with
  | .error error => .error error
  | .ok g => .ok (w.add (.ofGraph g))

/-- Makes a new automaton from the snapshot of a graph. -/
def restore (w : Workspace) (g : Graph) : Except SnapshotError Workspace :=
  match Graph.ofSnapshot w.nextOwner g.snapshot with
  | .error error => .error error
  | .ok g => .ok (w.add (.ofGraph g))

/-- Puts a new automaton into a slot, an empty one if it cannot be made.  The one that was there
moves to a new slot. -/
def replace (w : Workspace) (slot : Nat) (old : Automaton) (content : Content) :
    Option ContentError × Workspace :=
  let made := content.build w.nextOwner
  let g := match made with
    | .ok g => g
    | .error _ => .empty w.nextOwner
  let failed := match made with
    | .ok _ => none
    | .error error => some error
  (failed, { w with
    slots := w.slots.set slot (.ofGraph g) ++ [old]
    nextOwner := w.nextOwner + 1 })

/-! ## Operations -/

/-- The entries of a log. -/
def entries (w : Workspace) (log : Int) : List Notification := (w.logs.get? log).getD []

/-- Empties a log. -/
def clear (w : Workspace) (log : Int) : Workspace := { w with logs := w.logs.put log [] }

/-- What becomes of a delivery of an automaton: the listener records it or tells it. -/
def receive (w : Workspace) (owner : Nat) (delivery : Delivery) : Workspace × List Hearing :=
  match w.listeners.findIdx? fun l => l.owner = owner ∧ l.subscription = delivery.subscription with
  | none => (w, [])
  | some number => match w.listeners[number]?.bind (·.log) with
    | some log => ({ w with logs := w.logs.put log (w.entries log ++ [delivery.note]) }, [])
    | none => (w, [⟨number, delivery.note⟩])

/-- What becomes of some deliveries, one after another. -/
def receiveAll (w : Workspace) (owner : Nat) : List Delivery → Workspace × List Hearing
  | [] => (w, [])
  | delivery :: rest =>
    let first := w.receive owner delivery
    let later := first.1.receiveAll owner rest
    (later.1, first.2 ++ later.2)

/-- Carries out an operation on the automaton of a slot. -/
def operate (w : Workspace) (slot : Nat) (a : Automaton) (operation : Automaton.Operation) :
    Except GraphError Automaton.Answer × Workspace × List Hearing :=
  let outcome := a.perform operation
  let received :=
    receiveAll { w with slots := w.slots.set slot outcome.automaton } a.graph.owner
      outcome.deliveries
  (outcome.answer, received.1, received.2)

/-- Subscribes to a channel of the automaton of a slot, and gives the number of the listener. -/
def subscribe (w : Workspace) (slot : Nat) (a : Automaton) (channel : Channel)
    (log : Option Int) : Except GraphError (Nat × Workspace) :=
  match a.subscribe channel with
  | .error error => .error error
  | .ok (id, b) => .ok (w.listeners.length, { w with
      slots := w.slots.set slot b
      listeners := w.listeners ++ [⟨a.graph.owner, id, log⟩] })

end Workspace

end NfaWorkbench
