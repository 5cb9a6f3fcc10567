import NfaWorkbench.Document.Lines
import NfaWorkbench.Files.Directory
import NfaWorkbench.Settings.Basic
import NfaWorkbench.Yaml.Reader
import NfaWorkbench.Yaml.Writer
set_option autoImplicit false

/-!
# Settings: files

A settings file is a YAML document with the sections `log`, `repl` and `output`.  Sections and
entries that are missing keep their defaults, those with other names are skipped, and none of the
known ones may occur twice.
-/

namespace NfaWorkbench

/-- Why settings could not be read or written. -/
inductive SettingsError
  /-- The file could not be read or written. -/
  | io (path : String) (fault : IoFault)
  /-- The file holds no settings. -/
  | malformed (path : String)
  deriving DecidableEq, Repr

/-- The wording of an error. -/
def SettingsError.message : SettingsError → String
  | io path fault => "failed to read config file '" ++ path ++ "': " ++ fault.message
  | malformed path => "failed to parse config file '" ++ path ++ "'"

namespace Settings

/-! ## Reading -/

/-- The entry of a mapping, with the text of its key. -/
def withName? (d : Yaml.Document) (e : Yaml.Node × Yaml.Node) : Option (String × Yaml.Node) :=
  (d.resolve e.1).text?.map ((·, d.resolve e.2))

/-- The entries of a section; one without contents has none. -/
def entries? (d : Yaml.Document) (node : Yaml.Node) : Option (List (String × Yaml.Node)) :=
  node.entries?.bind (·.mapM (withName? d))

/-- What `read` makes of the entry with a name, and the default if there is none.  Two entries with
the name are an error. -/
def setting? {α : Type} (entries : List (String × Yaml.Node)) (name : String)
    (read : Yaml.Node → Option α) (default : α) : Option α :=
  match entries.filter (·.1 = name) with
  | [] => some default
  | [(_, node)] => read node
  | _ => none

/-- The settings with those of the section `log`. -/
def readLog (d : Yaml.Document) (s : Settings) (node : Yaml.Node) : Option Settings := do
  let entries ← entries? d node
  let logLevel ← setting? entries "level" Yaml.Node.text? s.logLevel
  return { s with logLevel }

/-- The settings with those of the section `repl`. -/
def readEditor (d : Yaml.Document) (s : Settings) (node : Yaml.Node) : Option Settings := do
  let entries ← entries? d node
  let historyFile ← setting? entries "history_file" Yaml.Node.optionalText? s.historyFile
  let watch ← setting? entries "watch" Yaml.Node.truth? s.watch
  let prompt ← setting? entries "prompt" Yaml.Node.text? s.prompt
  return { s with historyFile, watch, prompt }

/-- The settings with those of the section `output`. -/
def readOutput (d : Yaml.Document) (s : Settings) (node : Yaml.Node) : Option Settings := do
  let entries ← entries? d node
  let color ← setting? entries "color" Yaml.Node.truth? s.color
  return { s with color }

/-- The settings that a document holds. -/
def ofDocument? (d : Yaml.Document) : Option Settings := do
  let entries ← entries? d d.root
  let s := default
  let s ← setting? entries "log" (readLog d s) s
  let s ← setting? entries "repl" (readEditor d s) s
  setting? entries "output" (readOutput d s) s

/-- Reads a settings file. -/
def ofFile (d : Directory) (path : String) : Except SettingsError Settings :=
  match d.read path with
  | .error fault => .error (.io path fault)
  | .ok bytes => match Document.decodeLine bytes with
    | none => .error (.io path .notUtf8)
    | some text => match (Yaml.Document.parse text).bind ofDocument? with
      | none => .error (.malformed path)
      | some s => .ok s

/-- The settings in force: those of the given file, or of the one that the environment names, or the
defaults, and after that those of the environment. -/
def load (d : Directory) (env : Environment) (path : Option String) :
    Except SettingsError Settings :=
  match path.or (env.get? fileVariable) with
  | none => .ok (default.override env)
  | some path => (ofFile d path).map (·.override env)

/-! ## Writing -/

/-- A truth value as it is written. -/
def writeBool (value : Bool) : String := if value then "true\n" else "false\n"

/-- A text as it is written. -/
def writeEntry (text : String) : String := Yaml.writeText 4 text

/-- The settings file with some settings. -/
def render (s : Settings) : String :=
  "log:\n  level: " ++ writeEntry s.logLevel
    ++ "repl:\n  history_file: " ++ (s.historyFile.map writeEntry).getD "null\n"
    ++ "  watch: " ++ writeBool s.watch
    ++ "  prompt: " ++ writeEntry s.prompt
    ++ "output:\n  color: " ++ writeBool s.color

/-- Writes a settings file, and gives the directory afterwards. -/
def save (s : Settings) (d : Directory) (path : String) : Except SettingsError Directory :=
  match d.write path (Document.encode s.render) with
  | .error fault => .error (.io path fault)
  | .ok e => .ok e

end Settings

end NfaWorkbench
