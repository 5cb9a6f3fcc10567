import NfaWorkbench.CommandLine.Program
set_option autoImplicit false

/-!
# The program

Reads the files of the working directory that the command line names, runs the program on them, and
writes those that it has changed.  The editor talks to its user line by line.
-/

namespace NfaWorkbench.Main

/-- The variables that the program asks for. -/
def variableNames : List String :=
  ["FSAKIT_CONFIG", "FSAKIT_LOG", "FSAKIT_HISTORY", "FSAKIT_WATCH", "FSAKIT_COLOR", "HOME"]

/-- The variables that are set. -/
def environment : IO Environment := do
  let mut env : Environment := []
  for name in variableNames do
    if let some value ← IO.getEnv name then env := env.put name value
  return env

/-- The directory with the file at a path, if there is one. -/
def fetch (d : Directory) (path : String) : IO Directory := do
  match d.resolve path with
  | .ok (.file folder name _) =>
    try
      let bytes ← IO.FS.readBinFile (folder ++ name)
      return ⟨d.files.put (folder ++ name) bytes.toList⟩
    catch _ => return d
  | _ => return d

/-- The directory with the files at these paths. -/
def fetchAll (d : Directory) (paths : List String) : IO Directory := paths.foldlM fetch d

/-- Writes the files in which two directories differ. -/
def store (before after : Directory) : IO Unit := do
  for (path, bytes) in after.files do
    if before.file? path ≠ some bytes then IO.FS.writeBinFile path ⟨bytes.toArray⟩

/-- The files that a job reads. -/
def filesOf : Job → List String
  | .edit file => file.toList
  | .check file => [file]
  | .display file _ => [file]
  | .format file output => file :: output.toList
  | .run file _ _ => [file]

/-- Talks to the user of the editor until the end. -/
partial def talk (p : Text.Palette) (prompt : String) (s : Editor.Session) (d : Directory) :
    IO UInt8 := do
  let stdin ← IO.getStdin
  if ← stdin.isTty then IO.print (p.paint .cyan prompt ++ " ")
  (← IO.getStdout).flush
  let line ← stdin.getLine
  if line = "" then
    IO.print Editor.farewell
    return 0
  match Editor.typedLine line with
  | none => return Editor.breakdownStatus
  | some "" => talk p prompt s d
  | some typed =>
    let d ← fetchAll d (Text.words typed)
    let (reply, s, e) := s.execute d typed
    store d e
    IO.print (Editor.shownReply p reply)
    if reply.continues then talk p prompt s e else return 0

/-- Runs the editor and gives its exit status. -/
def edit (p : Text.Palette) (settings : Settings) (d : Directory) (file : Option String) :
    IO UInt8 := do
  let (shown, s) := Editor.opening p settings.watch d file
  IO.print shown
  talk p settings.prompt s d

/-- Runs a job that ends by itself. -/
def job (env : Environment) (terminal : Bool) (d : Directory) (words : List String) :
    IO UInt32 := do
  let (ending, e) := CommandLine.run terminal env d "" words
  store d e
  IO.print ending.output
  IO.eprint ending.errors
  return ending.status.toUInt32

end NfaWorkbench.Main

open NfaWorkbench in
/-- The program. -/
def main (words : List String) : IO UInt32 := do
  let env ← Main.environment
  let terminal ← (← IO.getStdout).isTty
  match CommandLine.Request.parse env words with
  | some (.work settingsFile plain requested) =>
    let d ← Main.fetchAll ⟨[]⟩ (settingsFile.toList ++ Main.filesOf requested)
    match Settings.load d env settingsFile, requested with
    | .ok settings, .edit file =>
      return (← Main.edit ⟨terminal && settings.color && !plain⟩ settings d file).toUInt32
    | _, _ => Main.job env terminal d words
  | _ => Main.job env terminal ⟨[]⟩ words
