import NfaWorkbench.Proofs.Snapshot.Removal
import NfaWorkbench.Proofs.Snapshot.Simulation
set_option autoImplicit false

/-!
# Snapshots: requests by name

What can be asked of an automaton by someone who knows names only: every operation on states that
are found by their names, on transitions given by the names of their ends and their label, and every
question.  A reply shows what a handle stands for and not its identifier.

Snapshots serve the same requests, with no identifiers at all.
-/

namespace NfaWorkbench

/-- What is asked by names. -/
inductive NamedRequest
  | createState (name : String) (position : Position)
  | removeState (name : String)
  | setInitial (name : String) (value : Bool)
  | setFinal (name : String) (value : Bool)
  | moveBy (name : String) (dx dy : Coordinate)
  | createTransition (t : TransitionSnapshot)
  | removeTransition (t : TransitionSnapshot)
  | findTransitions (source target : String)
  | reset
  | step (event : Option String)
  | recognise
  | currentNames
  | initialNames
  | finalNames
  | counts
  | serialize
  | snapshot
  deriving DecidableEq, Repr

/-- A reply without identifiers. -/
inductive NamedReply
  /-- There is no state with a name, or no such transition. -/
  | missing
  | refused (error : GraphError)
  | done
  | state (name : String)
  | transitions (found : List TransitionSnapshot)
  | verdict (value : Bool)
  | names (found : List String)
  | counts (states transitions : Nat)
  | text (text : String)
  | snapshot (s : Snapshot)
  deriving DecidableEq, Repr

/-- Serves requests one after another. -/
def serveAll {σ : Type} (serve : σ → NamedRequest → NamedReply × σ) (s : σ) :
    List NamedRequest → List NamedReply × σ
  | [] => ([], s)
  | request :: rest =>
    let first := serve s request
    let later := serveAll serve first.2 rest
    (first.1 :: later.1, later.2)

/-- What one request keeps in step, all requests keep in step. -/
theorem serveAll_eq {σ τ : Type} {serve : σ → NamedRequest → NamedReply × σ}
    {serve' : τ → NamedRequest → NamedReply × τ} (view : σ → τ) {P : σ → Prop}
    (hkeep : ∀ s request, P s → P (serve s request).2)
    (hstep : ∀ s request, P s →
      ((serve s request).1, view (serve s request).2) = serve' (view s) request)
    {s : σ} (hs : P s) (requests : List NamedRequest) :
    ((serveAll serve s requests).1, view (serveAll serve s requests).2) =
      serveAll serve' (view s) requests := by
  induction requests generalizing s with
  | nil => rfl
  | cons request rest ih =>
    have hfirst := hstep s request hs
    have hrest := ih (hkeep s request hs)
    simp only [serveAll, ← hfirst, ← hrest]

/-! ## Automata -/

namespace Graph

/-- The transitions with some identifiers, as they are shown. -/
def shownTransitions (g : Graph) (ids : List TransitionId) : List TransitionSnapshot :=
  ids.filterMap fun t => (g.transition? t).map g.transitionSnapshot

/-- The transition with a label among those found between two states. -/
def edge? (g : Graph) (source target : StateId) (label : Option String) : Option TransitionId :=
  match g.findTransitions source target with
  | .ok found => found.find? fun t => (g.transition? t).any (·.label = label)
  | .error _ => none

end Graph

namespace Automaton

/-- What an answer shows in the graph afterwards. -/
def Answer.shown (g : Graph) : Answer → NamedReply
  | .done => .done
  | .state s => .state (g.stateName s)
  | .transition t => .transitions (g.shownTransitions [t])
  | .subscription _ => .done
  | .verdict value => .verdict value

/-- The reply to an operation, and the automaton afterwards. -/
def Outcome.reply (o : Outcome) : NamedReply × Automaton :=
  match o.answer with
  | .ok answer => (answer.shown o.automaton.graph, o.automaton)
  | .error error => (.refused error, o.automaton)

/-- Carries out an operation on the state with a name. -/
def atState (a : Automaton) (name : String) (operation : StateId → Operation) :
    NamedReply × Automaton :=
  match a.graph.findState name with
  | some s => (a.perform (operation s)).reply
  | none => (.missing, a)

/-- Serves a request about the two states with some names. -/
def atStates (a : Automaton) (source target : String)
    (serve : StateId → StateId → NamedReply × Automaton) : NamedReply × Automaton :=
  match a.graph.findState source with
  | none => (.missing, a)
  | some s => match a.graph.findState target with
    | none => (.missing, a)
    | some t => serve s t

/-- Serves a request. -/
def serve (a : Automaton) : NamedRequest → NamedReply × Automaton
  | .createState name position => (a.perform (.createState name position)).reply
  | .removeState name => a.atState name .removeState
  | .setInitial name value => a.atState name (.setInitial · value)
  | .setFinal name value => a.atState name (.setFinal · value)
  | .moveBy name dx dy => a.atState name (.moveBy · dx dy)
  | .createTransition t => a.atStates t.source t.target fun source target =>
    (a.perform (.createTransition source target t.label)).reply
  | .removeTransition t => a.atStates t.source t.target fun source target =>
    match a.graph.edge? source target t.label with
    | some id => (a.perform (.removeTransition id)).reply
    | none => (.missing, a)
  | .findTransitions source target => a.atStates source target fun source target =>
    match a.graph.findTransitions source target with
    | .ok found => (.transitions (a.graph.shownTransitions found), a)
    | .error error => (.refused error, a)
  | .reset => (a.perform .reset).reply
  | .step event => (a.perform (.step event)).reply
  | .recognise => (a.perform .recognise).reply
  | .currentNames => (.names (a.graph.currentStates.map a.graph.stateName), a)
  | .initialNames => (.names (a.graph.initialStates.map a.graph.stateName), a)
  | .finalNames => (.names (a.graph.finalStates.map a.graph.stateName), a)
  | .counts => (.counts a.graph.states.length a.graph.transitions.length, a)
  | .serialize => (.text a.graph.serialize, a)
  | .snapshot => (.snapshot a.graph.snapshot, a)

end Automaton

/-! ## Snapshots -/

namespace Snapshot

/-- A reply about the state with a name. -/
def atState (s : Snapshot) (name : String) (served : NamedReply × Snapshot) :
    NamedReply × Snapshot :=
  if name ∈ s.names then served else (.missing, s)

/-- A reply about the two states with some names. -/
def atStates (s : Snapshot) (source target : String) (served : NamedReply × Snapshot) :
    NamedReply × Snapshot :=
  if source ∈ s.names ∧ target ∈ s.names then served else (.missing, s)

/-- Creates a state. -/
def createState (s : Snapshot) (name : String) (position : Position) : NamedReply × Snapshot :=
  match nameFault? name with
  | some fault => (.refused (.invalidName name fault), s)
  | none =>
    if name ∈ s.names then (.refused (.duplicateName name), s)
    else (.state name, s.addState name position)

/-- Creates a transition between states that are there. -/
def createTransition (s : Snapshot) (t : TransitionSnapshot) : NamedReply × Snapshot :=
  match Graph.labelError? t.label with
  | some error => (.refused error, s)
  | none =>
    if t ∈ s.transitions then (.refused (.duplicateTransition t.source t.label t.target), s)
    else (.transitions [t], s.addTransition t)

/-- Serves a request. -/
noncomputable def serve (s : Snapshot) : NamedRequest → NamedReply × Snapshot
  | .createState name position => s.createState name position
  | .removeState name => s.atState name (.done, s.withoutState name)
  | .setInitial name value =>
    s.atState name (.done, s.modifyState name fun v => { v with initial := value })
  | .setFinal name value =>
    s.atState name (.done, s.modifyState name fun v => { v with final := value })
  | .moveBy name dx dy =>
    s.atState name (.done, s.modifyState name fun v => { v with x := v.x.add dx, y := v.y.add dy })
  | .createTransition t => s.atStates t.source t.target (s.createTransition t)
  | .removeTransition t => s.atStates t.source t.target
    (if t ∈ s.transitions then (.done, s.withoutTransition t) else (.missing, s))
  | .findTransitions source target => s.atStates source target
    (.transitions (s.transitions.filter fun t => t.source = source ∧ t.target = target), s)
  | .reset => (.done, s.reset)
  | .step event => (.done, s.step event)
  | .recognise => (.verdict s.recognise.1, s.recognise.2)
  | .currentNames => (.names (s.namesWhere (·.current)), s)
  | .initialNames => (.names (s.namesWhere (·.initial)), s)
  | .finalNames => (.names (s.namesWhere (·.final)), s)
  | .counts => (.counts s.states.length s.transitions.length, s)
  | .serialize => (.text (String.join (s.records.map fun r => r.render ++ "\n")), s)
  | .snapshot => (.snapshot s, s)

end Snapshot

end NfaWorkbench
