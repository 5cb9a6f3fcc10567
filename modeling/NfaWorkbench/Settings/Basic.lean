import NfaWorkbench.Registry
set_option autoImplicit false

/-!
# Settings

The settings of the workbench have defaults, which a settings file may change; variables of the
environment change them last.
-/

namespace NfaWorkbench

/-- The variables of the environment that are set. -/
abbrev Environment := Registry String String

/-- The settings of the workbench. -/
structure Settings where
  /-- Which messages are logged. -/
  logLevel : String
  /-- Where the editor keeps the lines that were typed, if the user wants another place. -/
  historyFile : Option String
  /-- Whether the editor watches from the start. -/
  watch : Bool
  /-- What the editor shows before a line is typed. -/
  prompt : String
  /-- Whether the output is coloured. -/
  color : Bool
  deriving DecidableEq, Repr

namespace Settings

/-- The settings of a user who has set nothing. -/
def default : Settings where
  logLevel := "warn"
  historyFile := none
  watch := false
  prompt := "fsakit>"
  color := true

instance : Inhabited Settings := ⟨default⟩

/-- The variable that names the settings file. -/
def fileVariable : String := "FSAKIT_CONFIG"

/-- An ASCII letter in lower case. -/
def lowerAscii (text : String) : String := String.ofList (text.toList.map Char.toLower)

/-- Whether the text of a variable switches something on. -/
def isOn (text : String) : Bool := text = "1" || lowerAscii text ∈ ["true", "on"]

/-- The settings after the variables of the environment. -/
def override (s : Settings) (env : Environment) : Settings where
  logLevel := match env.get? "FSAKIT_LOG" with
    | some level => if level = "" then s.logLevel else level
    | none => s.logLevel
  historyFile := (env.get? "FSAKIT_HISTORY").or s.historyFile
  watch := match env.get? "FSAKIT_WATCH" with
    | some text => isOn text
    | none => s.watch
  prompt := s.prompt
  color := match env.get? "FSAKIT_COLOR" with
    | some text => isOn text
    | none => s.color

/-- The name of the history file in the home directory. -/
def historyName : String := ".fsakit_history"

/-- The path of a file in a folder; an empty path is the working directory. -/
def inFolder (folder name : String) : String :=
  if folder = "" ∨ folder.toList.getLast? = some '/' then folder ++ name
  else folder ++ "/" ++ name

/-- Where the editor keeps the lines that were typed. -/
def historyPath (s : Settings) (env : Environment) : String :=
  match s.historyFile with
  | some path => path
  | none => match env.get? "HOME" with
    | some home => inFolder home historyName
    | none => historyName

example : isOn "oN" = true ∧ isOn "yes" = false ∧ isOn " 1" = false := by decide +kernel

end Settings

end NfaWorkbench
