import NfaWorkbench.Document.Lines
import NfaWorkbench.Document.Record
import NfaWorkbench.Files.IoFault
set_option autoImplicit false

/-!
# Documents: writing

The canonical document of a graph has a record for every state, then one for every transition, then
one for every initial state, then one for every final state, each group oldest first.

A sink takes bytes as long as it has room.  What it does not take it refuses with a fault of its
own, or it takes nothing without saying why.  The sink is flushed after everything was written.
-/

namespace NfaWorkbench

namespace Graph

/-- The records of the states. -/
def stateRecords (g : Graph) : List Record := g.states.map fun e => .state e.2.name e.2.position

/-- The records of the transitions. -/
def transitionRecords (g : Graph) : List Record :=
  g.transitions.map fun e => .transition (g.stateName e.2.source) e.2.label (g.stateName e.2.target)

/-- The records of the initial states. -/
def initialRecords (g : Graph) : List Record :=
  g.initialStates.map fun s => .initial (g.stateName s)

/-- The records of the final states. -/
def finalRecords (g : Graph) : List Record := g.finalStates.map fun s => .final (g.stateName s)

/-- The records of the canonical document. -/
def records (g : Graph) : List Record :=
  g.stateRecords ++ g.transitionRecords ++ g.initialRecords ++ g.finalRecords

/-- The lines of the canonical document, each with its line feed. -/
def recordLines (g : Graph) : List String := g.records.map fun r => r.render ++ "\n"

/-- The canonical document. -/
def serialize (g : Graph) : String := String.join g.recordLines

/-- The canonical document without the line feed at its end. -/
def serializeTrimmed (g : Graph) : String := "\n".intercalate (g.records.map Record.render)

end Graph

/-- What a sink does with bytes for which it has no room. -/
inductive Overflow
  /-- It fails. -/
  | refuses (fault : IoFault)
  /-- It takes none of them and does not fail. -/
  | takesNothing
  deriving DecidableEq, Repr

/-- A place to write to. -/
structure Sink where
  /-- How many more bytes fit, if there is a limit. -/
  room : Option Nat
  /-- What happens to bytes that do not fit. -/
  overflow : Overflow
  /-- The fault of a flush, if it fails. -/
  flushFault : Option IoFault
  /-- The bytes taken so far, last one first. -/
  takenReversed : List UInt8
  deriving DecidableEq, Repr

/-- Why a document could not be written. -/
inductive WriteError
  /-- The sink refused bytes. -/
  | refused (fault : IoFault)
  /-- The sink took none of the bytes that were left. -/
  | tookNothing
  /-- The flush at the end failed. -/
  | flush (fault : IoFault)
  deriving DecidableEq, Repr

/-- The wording of a failed write. -/
def WriteError.message : WriteError → String
  | refused fault => fault.message
  | tookNothing => "failed to write whole buffer"
  | flush fault => fault.message

namespace Sink

/-- A sink that takes everything. -/
def unlimited : Sink := ⟨none, .takesNothing, none, []⟩

/-- How many of the given number of bytes a sink takes. -/
def takes (s : Sink) (count : Nat) : Nat :=
  match s.room with
  | none => count
  | some room => min room count

/-- The bytes taken so far. -/
def taken (s : Sink) : List UInt8 := s.takenReversed.reverse

/-- A sink that has taken some bytes. -/
def take (s : Sink) (bytes : List UInt8) : Sink :=
  { s with
    room := s.room.map (· - bytes.length)
    takenReversed := bytes.reverseAux s.takenReversed }

/-- What a sink has taken grows at its end. -/
@[simp] theorem taken_take (s : Sink) (bytes : List UInt8) :
    (s.take bytes).taken = s.taken ++ bytes := by
  simp [taken, take, List.reverseAux_eq]

/-- Writes bytes, or as many of them as fit. -/
def write (s : Sink) (bytes : List UInt8) : Sink × Except WriteError Unit :=
  let filled := s.take (bytes.take (s.takes bytes.length))
  if s.takes bytes.length = bytes.length then (filled, .ok ())
  else match s.overflow with
    | .refuses fault => (filled, .error (.refused fault))
    | .takesNothing => (filled, .error .tookNothing)

/-- Writes chunks one after another, up to the first that does not fit. -/
def writeAll (s : Sink) : List (List UInt8) → Sink × Except WriteError Unit
  | [] => (s, .ok ())
  | chunk :: rest =>
    match s.write chunk with
    | (filled, .error error) => (filled, .error error)
    | (filled, .ok ()) => writeAll filled rest

/-- Flushes a sink. -/
def flush (s : Sink) : Except WriteError Unit :=
  match s.flushFault with
  | some fault => .error (.flush fault)
  | none => .ok ()

end Sink

/-- Writes the canonical document of a graph to a sink, line by line, and flushes the sink. -/
def Graph.write (g : Graph) (sink : Sink) : Sink × Except WriteError Unit :=
  match sink.writeAll (g.recordLines.map Document.encode) with
  | (filled, .error error) => (filled, .error error)
  | (filled, .ok ()) => (filled, filled.flush)

end NfaWorkbench
