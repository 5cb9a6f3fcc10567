import NfaWorkbench.Automaton
import NfaWorkbench.Editor.Command
import NfaWorkbench.Report
set_option autoImplicit false

/-!
# Editor: sessions

A session holds the automaton that is being edited, the file to which it belongs, and a log.  It
listens to every channel of the automaton, and everything it hears goes into the log.  After every
command the log is emptied; while the session watches, its entries are shown with the answer.

A command that is refused leaves the session as it is, with one exception: if a file cannot be
loaded, the session goes on with an empty automaton.
-/

namespace NfaWorkbench.Editor

/-- An editing session. -/
structure Session where
  automaton : Automaton
  /-- The file that was loaded or saved last. -/
  path : Option String
  /-- The notifications heard during the current command. -/
  log : List Notification
  /-- Whether notifications are shown. -/
  watch : Bool

/-- What the editor answers to a command that it has carried out. -/
inductive Response
  | help
  | newAutomaton
  | loaded (path : String) (g : Graph)
  | saved (path : String)
  | document (g : Graph)
  | createdState (name : String)
  | removedState (name : String)
  | createdTransition (source : String) (label : Option String) (target : String)
  | removedTransition (source : String) (label : Option String) (target : String)
  | summary (g : Graph)
  | moved (name : String) (position : Position)
  | current (g : Graph)
  | verdict (accepted : Bool)
  | watching (value : Bool)

/-- What the editor answers to a command line. -/
inductive Reply
  /-- The user leaves the editor. -/
  | quit
  /-- The line is empty. -/
  | nothing
  /-- The command was carried out; first come the lines about what changed. -/
  | answer (changes : List String) (response : Response)
  /-- The command was refused. -/
  | refused (reason : Refusal)

/-! ## What is shown -/

/-- What changed about a state, in words. -/
def aspectWords : StateAspect → String
  | .position => "moved"
  | .initial => "initial flag changed"
  | .final => "final flag changed"
  | .current => "current flag changed"
  | .removed => "removed"

/-- A notification in words.  A state that is still there is shown by its name. -/
def describe (g : Graph) : Notification → String
  | .statesChanged => "* states changed"
  | .transitionsChanged => "* transitions changed"
  | .simulationChanged => "* simulation changed"
  | .state s .removed => "* state " ++ s.render ++ " removed"
  | .state s aspect => "* state " ++ g.stateName s ++ " " ++ aspectWords aspect
  | .transitionRemoved t => "* transition " ++ t.render ++ " removed"

/-- A transition in words. -/
def arrow (source : String) (label : Option String) (target : String) : String :=
  source ++ " -" ++ renderLabel label ++ "-> " ++ target

/-- How a response is shown. -/
def Response.render (p : Text.Palette) : Response → String
  | help => helpText
  | newAutomaton => p.paint .green "New automaton"
  | loaded path g => p.paint .green "Loaded" ++ " " ++ p.paint .cyan path ++ "\n" ++ g.summary
  | saved path => p.paint .green "Saved" ++ " " ++ p.paint .cyan path
  | document g => if g.states.isEmpty then p.paint .dimmed "(empty)" else g.serializeTrimmed
  | createdState name => "Created state " ++ p.paint .cyan name
  | removedState name => "Removed state " ++ p.paint .cyan name
  | createdTransition source label target => "Created transition " ++ arrow source label target
  | removedTransition source label target => "Removed transition " ++ arrow source label target
  | summary g => g.summary
  | moved name position =>
    p.paint .cyan name ++ " at (" ++ position.x.render ++ ", " ++ position.y.render ++ ")"
  | current g =>
    if g.active then g.stateSet g.currentStates else p.paint .dimmed "inactive"
  | verdict accepted => p.verdict accepted
  | watching value => if value then "watch on" else "watch off"

/-- The text of an answer. -/
def renderAnswer (p : Text.Palette) (changes : List String) (response : Response) : String :=
  if changes.isEmpty then response.render p
  else p.paint .dimmed ("\n".intercalate changes) ++ "\n" ++ response.render p

namespace Session

/-! ## Listening -/

/-- The channels of a graph and of everything in it. -/
def channels (g : Graph) : List Channel :=
  .automaton :: (g.states.ids.map .state ++ g.transitions.ids.map .transition)

/-- The session that listens to one more channel. -/
def listen (s : Session) (channel : Channel) : Except GraphError Session :=
  match s.automaton.subscribe channel with
  | .error error => .error error
  | .ok (_, automaton) => .ok { s with automaton }

/-- The session after it has begun to listen to some more channels, one after another.  It stops at
the first that does not exist. -/
def listenAll (s : Session) : List Channel → Except GraphError Unit × Session
  | [] => (.ok (), s)
  | channel :: rest =>
    match s.listen channel with
    | .error error => (.error error, s)
    | .ok s => s.listenAll rest

/-! ## Beginning -/

/-- The session at its beginning.  The automaton is empty, so there is one channel to listen to. -/
def start (watch : Bool) : Session :=
  ⟨⟨.empty 0, (Bus.empty.subscribe .automaton).2⟩, none, [], watch⟩

/-- The graph of the session. -/
def graph (s : Session) : Graph := s.automaton.graph

/-- The number of the next graph of the session. -/
def nextOwner (s : Session) : Nat := s.graph.owner + 1

/-- The session with another graph, which belongs to no file; it listens to all channels of the
graph. -/
def replace (s : Session) (g : Graph) : Except GraphError Unit × Session :=
  listenAll { s with automaton := .ofGraph g, path := none, log := [] } (channels g)

/-! ## Changing the automaton

Every command gives the session as it is when the command ends, also when it is refused. -/

/-- The session after a change of its graph.  What it hears goes into its log. -/
def apply (s : Session) (c : Change) : Session :=
  let outcome := s.automaton.changed .done c
  { s with automaton := outcome.automaton, log := s.log ++ outcome.deliveries.map (·.note) }

/-- The session after a change that has brought something new, to whose channel it listens from
now on. -/
def adopt (s : Session) (c : Change) (channel : Channel) (response : Response) :
    Except Refusal Response × Session :=
  match (s.apply c).listen channel with
  | .error error => (.error (.graph error), s.apply c)
  | .ok s => (.ok response, s)

/-- The state with a name. -/
def require (s : Session) (name : String) : Except Refusal StateId :=
  match s.graph.findState name with
  | some id => .ok id
  | none => .error (.noState name)

/-- Two coordinates given as words; `refuse` tells what is wrong with the first that is none. -/
def coordinates (refuse : String → Refusal) (x y : String) :
    Except Refusal (Coordinate × Coordinate) :=
  match Coordinate.parse? x with
  | none => .error (refuse x)
  | some a => match Coordinate.parse? y with
    | none => .error (refuse y)
    | some b => .ok (a, b)

/-- Creates a state. -/
def createState (s : Session) (name x y : String) : Except Refusal Response × Session :=
  match coordinates .invalidCoordinate x y with
  | .error reason => (.error reason, s)
  | .ok (x, y) => match s.graph.createState name ⟨x, y⟩ with
    | .error error => (.error (.graph error), s)
    | .ok (id, c) => s.adopt c (.state id) (.createdState name)

/-- Removes a state. -/
def deleteState (s : Session) (name : String) : Except Refusal Response × Session :=
  match s.require name with
  | .error reason => (.error reason, s)
  | .ok id => (.ok (.removedState name), s.apply (s.graph.removeState id))

/-- Creates a transition. -/
def createTransition (s : Session) (source label target : String) :
    Except Refusal Response × Session :=
  match s.require source with
  | .error reason => (.error reason, s)
  | .ok a => match s.require target with
    | .error reason => (.error reason, s)
    | .ok b => match s.graph.createTransition a b (labelOfWord label) with
      | .error error => (.error (.graph error), s)
      | .ok (id, c) =>
        s.adopt c (.transition id) (.createdTransition source (labelOfWord label) target)

/-- The first of some transitions that has a label. -/
def withLabel (g : Graph) (label : Option String) (found : List TransitionId) :
    Option TransitionId :=
  found.find? fun t => (g.transition? t).any (·.label = label)

/-- Removes a transition. -/
def deleteTransition (s : Session) (source label target : String) :
    Except Refusal Response × Session :=
  match s.require source with
  | .error reason => (.error reason, s)
  | .ok a => match s.require target with
    | .error reason => (.error reason, s)
    | .ok b => match s.graph.findTransitions a b with
      | .error error => (.error (.graph error), s)
      | .ok found => match withLabel s.graph (labelOfWord label) found with
        | none => (.error .noTransition, s)
        | some id =>
          (.ok (.removedTransition source (labelOfWord label) target),
            s.apply (s.graph.removeTransition id))

/-- The change that sets or clears a flag. -/
def flagChange (g : Graph) (id : StateId) (value : Bool) : Flag → Except GraphError Change
  | .initial => g.setInitial id value
  | .final => g.setFinal id value

/-- Sets or clears a flag of a state. -/
def setFlag (s : Session) (flag : Flag) (value : Bool) (name : String) :
    Except Refusal Response × Session :=
  match s.require name with
  | .error reason => (.error reason, s)
  | .ok id => match flagChange s.graph id value flag with
    | .error error => (.error (.graph error), s)
    | .ok c => (.ok (.summary c.graph), s.apply c)

/-- Moves a state. -/
def moveState (s : Session) (name dx dy : String) : Except Refusal Response × Session :=
  match s.require name with
  | .error reason => (.error reason, s)
  | .ok id => match coordinates .invalidOffset dx dy with
    | .error reason => (.error reason, s)
    | .ok (dx, dy) => match s.graph.moveBy id dx dy with
      | .error error => (.error (.graph error), s)
      | .ok c =>
        (.ok (.moved name ((c.graph.state? id).map (·.position) |>.getD default)), s.apply c)

/-! ## Simulating -/

/-- Starts the simulation. -/
def reset (s : Session) : Except Refusal Response × Session :=
  let c := s.graph.reset
  (.ok (.current c.graph), s.apply c)

/-- Moves the simulation on. -/
def step (s : Session) (event : Option String) : Except Refusal Response × Session :=
  if s.graph.active then
    let c := s.graph.step (event.bind labelOfWord)
    (.ok (.current c.graph), s.apply c)
  else (.error .notRunning, s)

/-- Asks whether the input so far is recognised. -/
def recognise (s : Session) : Except Refusal Response × Session :=
  let recognised := s.graph.recognise
  (.ok (.verdict recognised.1), s.apply recognised.2)

/-! ## Watching -/

/-- Switches watching on or off, or over if the user does not say which. -/
def setWatch (s : Session) (value : Option Bool) : Except Refusal Response × Session :=
  let value := value.getD (!s.watch)
  (.ok (.watching value), { s with watch := value, log := [] })

/-! ## Files -/

/-- Begins with an empty automaton. -/
def renew (s : Session) : Except Refusal Response × Session :=
  match s.replace (.empty s.nextOwner) with
  | (.error error, s) => (.error (.graph error), s)
  | (.ok (), s) => (.ok .newAutomaton, s)

/-- Loads an automaton from a file.  If that fails the session goes on with an empty one. -/
def load (s : Session) (d : Directory) (path : String) : Except Refusal Response × Session :=
  match d.load s.nextOwner path with
  | .error error => match s.replace (.empty s.nextOwner) with
    | (.error error, s) => (.error (.graph error), s)
    | (.ok (), s) => (.error (.load error), s)
  | .ok g => match s.replace g with
    | (.error error, s) => (.error (.graph error), s)
    | (.ok (), s) => (.ok (.loaded path g), { s with path := some path })

/-- The file to save to: the one that is given, or else the one of the session. -/
def target (s : Session) (file : Option String) : Except Refusal String :=
  match file.or s.path with
  | some path => .ok path
  | none => .error (.usage "save <file>")

/-- Saves the automaton to a file, and gives the directory afterwards. -/
def save (s : Session) (d : Directory) (file : Option String) :
    (Except Refusal Response × Session) × Directory :=
  match s.target file with
  | .error reason => ((.error reason, s), d)
  | .ok path => match d.save path s.graph with
    | .error fault => ((.error (.save fault), s), d)
    | .ok d => ((.ok (.saved path), { s with path := some path }), d)

/-! ## Commands -/

/-- Carries out a command that touches no file. -/
def edit (s : Session) : Edit → Except Refusal Response × Session
  | .help => (.ok .help, s)
  | .new => s.renew
  | .display => (.ok (.document s.graph), s)
  | .state name x y => s.createState name x y
  | .delete name => s.deleteState name
  | .transition source label target => s.createTransition source label target
  | .untransition source label target => s.deleteTransition source label target
  | .flag flag value name => s.setFlag flag value name
  | .move name dx dy => s.moveState name dx dy
  | .reset => s.reset
  | .step event => s.step event
  | .recognised => s.recognise
  | .current => (.ok (.current s.graph), s)
  | .watch value => s.setWatch value

/-- The reply to a command, and the session after it.  When a command has been carried out the log is
emptied, and is put in front of the answer if the session watches. -/
def settle : Except Refusal Response × Session → Reply × Session
  | (.error reason, s) => (.refused reason, s)
  | (.ok response, s) =>
    let changes := if s.watch then s.log.map (describe s.graph) else []
    (.answer changes response, { s with log := [] })

/-- Carries out a command, and gives the session and the directory afterwards. -/
def perform (s : Session) (d : Directory) : Command → Reply × Session × Directory
  | .quit => (.quit, s, d)
  | .load path =>
    let settled := settle (s.load d path)
    (settled.1, settled.2, d)
  | .save file =>
    let saved := s.save d file
    let settled := settle saved.1
    (settled.1, settled.2, saved.2)
  | .edit command =>
    let settled := settle (s.edit command)
    (settled.1, settled.2, d)

/-- Carries out a command line, and gives the session and the directory afterwards. -/
def execute (s : Session) (d : Directory) (line : String) : Reply × Session × Directory :=
  match Command.read line with
  | none => (.nothing, s, d)
  | some (.error reason) => (.refused reason, s, d)
  | some (.ok command) => s.perform d command

/-- Opens a file before the first command. -/
def openFile (s : Session) (d : Directory) (path : String) : Reply × Session :=
  match s.load d path with
  | (.error reason, s) => (.refused reason, s)
  | (.ok response, s) => (.answer [] response, s)

end Session

end NfaWorkbench.Editor
