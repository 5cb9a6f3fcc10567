import NfaWorkbench.Document.Writer
set_option autoImplicit false

/-!
# Documents: writing in portions

A sink is not handed a document as a whole.  It is offered one piece after another, and how much of
an offer it takes is up to the sink: at least one byte as long as it has room, and otherwise as it
likes.  What it leaves is offered again.  Once it has no room it takes nothing any more.
-/

namespace NfaWorkbench

/-- A sink that is being written to. -/
structure Outflow where
  sink : Sink
  /-- How many bytes the sink would take in each call, one at least. -/
  appetite : Nat → Nat
  /-- How often it was offered bytes. -/
  calls : Nat := 0
  /-- How often it was flushed. -/
  flushes : Nat := 0

namespace Outflow

/-- How many of the offered bytes are taken in the next call. -/
def portion (o : Outflow) (count : Nat) : Nat :=
  min (max 1 (o.appetite o.calls)) (o.sink.takes count)

/-- Offers some bytes once, and tells how many of them were taken. -/
def offer (o : Outflow) (bytes : List UInt8) : Outflow × Except WriteError Nat :=
  let count := o.portion bytes.length
  let next := { o with sink := o.sink.take (bytes.take count), calls := o.calls + 1 }
  match o.sink.overflow with
  | .refuses fault => if count = 0 then (next, .error (.refused fault)) else (next, .ok count)
  | .takesNothing => (next, .ok count)

/-- Offers some bytes until all of them are taken.  To take none of them is an error. -/
def write (o : Outflow) (bytes : List UInt8) : Outflow × Except WriteError Unit :=
  if _hne : bytes = [] then (o, .ok ())
  else match o.offer bytes with
    | (o, .error error) => (o, .error error)
    | (o, .ok 0) => (o, .error .tookNothing)
    | (o, .ok (count + 1)) => o.write (bytes.drop (count + 1))
termination_by bytes.length
decreasing_by
  have := List.length_pos_iff.2 _hne
  rw [List.length_drop]
  omega

/-- Writes pieces one after another, up to the first that is not taken. -/
def writePieces (o : Outflow) : List (List UInt8) → Outflow × Except WriteError Unit
  | [] => (o, .ok ())
  | piece :: rest =>
    match o.write piece with
    | (o, .error error) => (o, .error error)
    | (o, .ok ()) => o.writePieces rest

/-- Flushes the sink. -/
def flush (o : Outflow) : Outflow × Except WriteError Unit :=
  ({ o with flushes := o.flushes + 1 }, o.sink.flush)

/-- Writes the pieces of a document, and then flushes the sink. -/
def writeDocument (o : Outflow) (pieces : List (List UInt8)) : Outflow × Except WriteError Unit :=
  match o.writePieces pieces with
  | (o, .error error) => (o, .error error)
  | (o, .ok ()) => o.flush

end Outflow

end NfaWorkbench
