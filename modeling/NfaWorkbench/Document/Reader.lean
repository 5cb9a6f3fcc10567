import NfaWorkbench.Document.Lines
import NfaWorkbench.Document.Record
import NfaWorkbench.Files.IoFault
import NfaWorkbench.Graph.Edit
set_option autoImplicit false

/-!
# Documents: reading

A document is read line by line into a graph that starts empty; every record goes through the
operations of the graph.  The first line that is wrong ends the reading, and the graph built so far
is dropped.

A source may break off: it delivers some bytes and then fails instead of ending.  Then the lines
that are complete are read first, and the failure is reported only if all of them are right.
-/

namespace NfaWorkbench

/-- How a source breaks off. -/
inductive SourceFailure
  /-- The source says that its bytes are no text. -/
  | notText
  /-- The source fails. -/
  | fault (fault : IoFault)
  deriving DecidableEq, Repr

/-- The bytes that a source delivers, and how it breaks off if it does. -/
structure Source where
  bytes : List UInt8
  failure : Option SourceFailure := none
  deriving DecidableEq, Repr

namespace Source

/-- A source that delivers a text and ends. -/
def ofText (text : String) : Source := { bytes := Document.encode text }

/-- The source that delivers at most `n` bytes of another and then breaks off. -/
def breakAfter (s : Source) (n : Nat) (failure : SourceFailure) : Source :=
  { bytes := s.bytes.take n, failure := some failure }

/-- The lines that a source delivers.  One that breaks off delivers no unfinished line. -/
def lines (s : Source) : List (List UInt8) :=
  match s.failure with
  | none => Document.lines s.bytes
  | some _ => (Document.splitLines s.bytes).1

end Source

/-- Why a document could not be read. -/
inductive ReadError
  /-- A line is wrong; lines are counted from 1. -/
  | line (number : Nat) (fault : LineFault)
  /-- The source failed. -/
  | source (fault : IoFault)
  deriving DecidableEq, Repr

namespace ReadError

/-- The number of the line that is wrong, if it was not the source that failed. -/
def lineNumber? : ReadError → Option Nat
  | line number _ => some number
  | source _ => none

/-- The wording of an error. -/
def message : ReadError → String
  | line number fault => "line " ++ Nat.repr number ++ ": " ++ fault.message
  | source fault => "I/O error: " ++ fault.message

/-- The stable code of an error, for scripts. -/
def code : ReadError → String
  | line _ fault => fault.code
  | source _ => "IO_ERROR"

end ReadError

namespace Graph

/-- The state that a record names. -/
def declared (g : Graph) (name : String) : Except LineFault StateId :=
  match g.findState name with
  | some s => .ok s
  | none => .error (.undeclaredState name)

/-- The graph after an operation that a record asks for. -/
def accepted : Except GraphError Change → Except LineFault Graph
  | .ok change => .ok change.graph
  | .error error => .error (.rejected error)

/-- The graph with one more transition between states given by name. -/
def applyTransition (g : Graph) (source : String) (label : Option String) (target : String) :
    Except LineFault Graph :=
  match g.declared source with
  | .error fault => .error fault
  | .ok s => match g.declared target with
    | .error fault => .error fault
    | .ok t => accepted ((g.createTransition s t label).map (·.2))

/-- The graph with a change of the state that has a name. -/
def applyChange (g : Graph) (name : String) (change : StateId → Except GraphError Change) :
    Except LineFault Graph :=
  match g.declared name with
  | .error fault => .error fault
  | .ok s => accepted (change s)

/-- The graph after a record. -/
def applyRecord (g : Graph) : Record → Except LineFault Graph
  | .state name position => accepted ((g.createState name position).map (·.2))
  | .transition source label target => g.applyTransition source label target
  | .initial name => g.applyChange name (g.setInitial · true)
  | .final name => g.applyChange name (g.setFinal · true)

/-- The graph after a line. -/
def readLine (g : Graph) (line : List UInt8) : Except LineFault Graph :=
  match Document.decodeLine line with
  | none => .error .invalidEncoding
  | some text => match Record.read text with
    | .error fault => .error fault
    | .ok none => .ok g
    | .ok (some record) => g.applyRecord record

/-- The graph after some lines, the first of which has the given number. -/
def readLines (g : Graph) (number : Nat) : List (List UInt8) → Except ReadError Graph
  | [] => .ok g
  | line :: rest => match g.readLine line with
    | .error fault => .error (.line number fault)
    | .ok g => readLines g (number + 1) rest

/-- The error of a source that broke off while the line with the given number was read. -/
def breakError (number : Nat) : SourceFailure → ReadError
  | .notText => .line number .invalidEncoding
  | .fault fault => .source fault

/-- Reads a graph, which gets the given number, from a source. -/
def read (owner : Nat) (s : Source) : Except ReadError Graph :=
  match (empty owner).readLines 1 s.lines with
  | .error error => .error error
  | .ok g => match s.failure with
    | none => .ok g
    | some failure => .error (breakError (s.lines.length + 1) failure)

/-- Reads a graph from a text. -/
def parse (owner : Nat) (text : String) : Except ReadError Graph := read owner (.ofText text)

end Graph

end NfaWorkbench
