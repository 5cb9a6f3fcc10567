import NfaWorkbench.CommandLine.Arguments
import NfaWorkbench.Jobs
import NfaWorkbench.Settings.Basic
set_option autoImplicit false

/-!
# Command line: requests

A command line gives options of the workbench, then the name of a job, then the options and operands
of the job.  Without a job the editor is started.  A path must not be empty.
-/

namespace NfaWorkbench.CommandLine

/-- What the workbench is asked for. -/
inductive Request
  /-- Its version. -/
  | version
  /-- How it is used. -/
  | help
  /-- A job, with the settings of a file and without colours if so desired. -/
  | work (settingsFile : Option String) (plain : Bool) (job : Job)
  deriving DecidableEq, Repr

/-- The option that asks for help, known to the workbench and to every job. -/
def helpSpec : OptionSpec := ⟨"help", some 'h', false⟩

/-- What the workbench may be given in front of the name of a job. -/
def workbenchSpec : CommandSpec where
  options :=
    [⟨"config", some 'c', true⟩, ⟨"no-color", none, false⟩, ⟨"version", some 'V', false⟩, helpSpec]
  special := ["version", "help"]
  maxOperands := some 0

/-- The names of the jobs. -/
def jobNames : List String := ["repl", "check", "show", "fmt", "run"]

/-- What a job may be given. -/
def jobSpec (job : String) : CommandSpec where
  options :=
    if job = "show" then [⟨"json", none, false⟩, helpSpec]
    else if job = "fmt" then [⟨"output", some 'o', true⟩, helpSpec]
    else if job = "run" then [⟨"trace", some 't', false⟩, helpSpec]
    else [helpSpec]
  special := ["help"]
  maxOperands := if job = "run" then none else some 1

/-- The job with a name and arguments, if no operand is missing. -/
def job? (name : String) (a : Arguments) : Option Job :=
  match name, a.operands with
  | "repl", operands => some (.edit operands.head?)
  | "check", file :: _ => some (.check file)
  | "show", file :: _ => some (.display file (a.has "json"))
  | "fmt", file :: _ => some (.format file (a.value? "output"))
  | "run", file :: events => some (.run file events (a.has "trace"))
  | _, _ => none

/-- The request of an option that ends the reading. -/
def Stop.request? : Stop → Option Request
  | .usage => none
  | .asks "version" => some .version
  | .asks _ => some .help

/-- The settings file: that of the option, or of the environment, where it must not be empty. -/
def settingsFile? (env : Environment) (a : Arguments) : Option (Option String) :=
  match a.value? "config", env.get? Settings.fileVariable with
  | some file, _ => some (some file)
  | none, none => some none
  | none, some file => if file = "" then none else some (some file)

/-- The request to work on a job, after a judgement of what is waiting. -/
def work? (env : Environment) (a : Arguments) (waiting : Waiting) (job : Job) : Option Request :=
  match a.settle? waiting with
  | none => none
  | some a => (settingsFile? env a).map (.work · (a.has "no-color") job)

/-- The request of a user who asks for help on a job. -/
def helpOn? : List String → Option Request
  | [] => some .help
  | [job] => if job ∈ jobNames ∨ job = "help" then some .help else none
  | _ => none

/-- The job with a name and the words after it. -/
def readJob (name : String) (words : List String) : Except Stop Job :=
  match readArguments (jobSpec name) false default .nothing words with
  | .error stop => .error stop
  | .ok reading =>
    orUsage ((reading.arguments.settle? reading.waiting).bind (job? name))

/-- The request of a command line; `none` if it is wrong. -/
def Request.parse (env : Environment) (words : List String) : Option Request :=
  match readArguments workbenchSpec true default .nothing words with
  | .error stop => stop.request?
  | .ok ⟨a, waiting, []⟩ => work? env a waiting (.edit none)
  | .ok ⟨a, waiting, name :: words⟩ =>
    if name = "help" then helpOn? words
    else if name ∈ jobNames then
      match readJob name words with
      | .error stop => stop.request?
      | .ok job => work? env a waiting job
    else none

end NfaWorkbench.CommandLine
