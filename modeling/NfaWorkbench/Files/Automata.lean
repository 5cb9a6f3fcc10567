import NfaWorkbench.Document.Reader
import NfaWorkbench.Document.Writer
import NfaWorkbench.Files.Directory
set_option autoImplicit false

/-!
# Files: automata

An automaton is kept in a file as its document.
-/

namespace NfaWorkbench

/-- Why the automaton of a file could not be read. -/
structure LoadError where
  path : String
  cause : ReadError
  deriving DecidableEq, Repr

/-- The wording of an error: the path and what is wrong with its file. -/
def LoadError.message (e : LoadError) : String := e.path ++ ": " ++ e.cause.message

namespace Directory

/-- Reads the automaton in a file; it gets the given number. -/
def load (d : Directory) (owner : Nat) (path : String) : Except LoadError Graph :=
  match d.read path with
  | .error fault => .error ⟨path, .source fault⟩
  | .ok bytes => match Graph.read owner { bytes } with
    | .error cause => .error ⟨path, cause⟩
    | .ok g => .ok g

/-- Writes the canonical document of an automaton to a file. -/
def save (d : Directory) (path : String) (g : Graph) : Except IoFault Directory :=
  d.write path (Document.encode g.serialize)

end Directory

end NfaWorkbench
