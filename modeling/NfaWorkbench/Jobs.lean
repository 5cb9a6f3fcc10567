import NfaWorkbench.Files.Automata
import NfaWorkbench.Report
import NfaWorkbench.Snapshot.Codec
set_option autoImplicit false

/-!
# Jobs: the commands that work on one file

A job reads an automaton from a file, does one thing with it, and ends.  Only `format` writes a
file, and only after everything was read.
-/

namespace NfaWorkbench

/-- What the workbench is asked to do. -/
inductive Job
  /-- Edit automata interactively, starting with the one in a file. -/
  | edit (file : Option String)
  /-- Tell whether a file holds an automaton, and describe it. -/
  | check (file : String)
  /-- Show the automaton in a file, as its canonical document or as JSON. -/
  | display (file : String) (json : Bool)
  /-- Write the canonical document of the automaton in a file to that file or to another. -/
  | format (file : String) (output : Option String)
  /-- Run the automaton in a file on events. -/
  | run (file : String) (events : List String) (traced : Bool)
  deriving DecidableEq, Repr

/-- Why a job failed. -/
inductive JobError
  /-- Editing is no job that ends by itself. -/
  | interactive
  /-- The automaton could not be read. -/
  | load (error : LoadError)
  /-- The file could not be written. -/
  | write (fault : IoFault)
  deriving DecidableEq, Repr

/-- The wording of an error. -/
def JobError.message : JobError → String
  | interactive => "the editor runs interactively"
  | load error => error.message
  | write fault => fault.message

/-- What a job shows, and whether its verdict is positive. -/
structure JobResult where
  output : String
  success : Bool
  deriving DecidableEq, Repr

namespace Job

/-- What a check shows. -/
def checked (p : Text.Palette) (file : String) (g : Graph) : String :=
  p.paint .green "OK" ++ " " ++ p.paint .cyan file ++ "\n" ++ g.summary

/-- What is shown of an automaton. -/
def shown (g : Graph) (json : Bool) : String :=
  if json then g.snapshot.render else g.serializeTrimmed

/-- What a run answers: with its trace or without, and with its verdict. -/
def ran (p : Text.Palette) (r : Run) (traced : Bool) : JobResult := ⟨p.report r traced, r.accepted⟩

/-- Carries out a job that reads an automaton and writes nothing. -/
def reading (d : Directory) (file : String) (answer : Graph → JobResult) :
    Except JobError JobResult :=
  match d.load 0 file with
  | .error error => .error (.load error)
  | .ok g => .ok (answer g)

/-- Writes the canonical document of the automaton in a file to a target, and gives the directory
afterwards. -/
def formatting (p : Text.Palette) (d : Directory) (file target : String) :
    Except JobError JobResult × Directory :=
  match d.load 0 file with
  | .error error => (.error (.load error), d)
  | .ok g => match d.save target g with
    | .error fault => (.error (.write fault), d)
    | .ok e => (.ok ⟨p.paint .green "Formatted" ++ " " ++ p.paint .cyan target, true⟩, e)

/-- Carries out a job, and gives the directory afterwards. -/
def execute (p : Text.Palette) (d : Directory) : Job → Except JobError JobResult × Directory
  | .edit _ => (.error .interactive, d)
  | .check file => (reading d file fun g => ⟨checked p file g, true⟩, d)
  | .display file json => (reading d file fun g => ⟨shown g json, true⟩, d)
  | .format file output => formatting p d file (output.getD file)
  | .run file events traced =>
    (reading d file fun g => ran p (g.run events) traced, d)

end Job

end NfaWorkbench
