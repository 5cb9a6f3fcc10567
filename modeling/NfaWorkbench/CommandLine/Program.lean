import NfaWorkbench.CommandLine.Request
import NfaWorkbench.Editor.Terminal
import NfaWorkbench.Settings.File
set_option autoImplicit false

/-!
# Command line: the program

What the program does with a command line: it writes to its two outputs, changes files, and ends
with an exit status.  The status is 0 if all went well, 1 after an error, and 2 if a run was
rejected or the command line was wrong.  The editor has a status of its own for a breakdown.
-/

namespace NfaWorkbench.CommandLine

/-- What can be seen of the program when it has ended. -/
structure Ending where
  status : UInt8
  output : String
  errors : String
  deriving DecidableEq, Repr

/-- What the program says about its version. -/
def versionText : String := "fsakit 0.1.0\n"

/-- What the program says about its use. -/
def usageText : String := "Usage: fsakit [OPTIONS] [COMMAND]\n"

/-- The end after an error. -/
def failed (p : Text.Palette) (message : String) : Ending :=
  ⟨1, "", Editor.errorLine p message ++ "\n"⟩

/-- The end of a job. -/
def finished (p : Text.Palette) : Except JobError JobResult → Ending
  | .error error => failed p error.message
  | .ok result => ⟨if result.success then 0 else 2, result.output ++ "\n", ""⟩

/-- Carries out a job with the given settings; gives the directory afterwards. -/
def work (terminal plain : Bool) (s : Settings) (d : Directory) (input : String) (job : Job) :
    Ending × Directory :=
  let p : Text.Palette := ⟨terminal && s.color && !plain⟩
  match job with
  | .edit file =>
    let held := Editor.conversation p s.watch d file input
    (⟨held.status, held.shown, ""⟩, held.directory)
  | job =>
    let done := job.execute p d
    (finished p done.1, done.2)

/-- Runs the program; gives the directory afterwards. -/
def run (terminal : Bool) (env : Environment) (d : Directory) (input : String)
    (words : List String) : Ending × Directory :=
  match Request.parse env words with
  | none => (⟨2, "", usageText⟩, d)
  | some .version => (⟨0, versionText, ""⟩, d)
  | some .help => (⟨0, usageText, ""⟩, d)
  | some (.work settingsFile plain job) =>
    match Settings.load d env settingsFile with
    | .error error => (failed ⟨terminal⟩ error.message, d)
    | .ok s => work terminal plain s d input job

end NfaWorkbench.CommandLine
