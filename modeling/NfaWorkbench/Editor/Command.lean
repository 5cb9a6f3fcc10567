import NfaWorkbench.Document.Record
import NfaWorkbench.Files.Automata
import NfaWorkbench.Text.Blank
import NfaWorkbench.Text.LowerCase
set_option autoImplicit false

/-!
# Editor: commands

A command line is a command word and its arguments, separated by blanks.  The case of the command
word does not matter.  Reading a line checks the command word and the number of arguments; what the
arguments say is checked when the command is carried out.
-/

namespace NfaWorkbench.Editor

/-- A flag that the user sets. -/
inductive Flag
  | initial
  | final
  deriving DecidableEq, Repr

/-- A command that touches no file, with its arguments as they were written. -/
inductive Edit
  | help
  | new
  | display
  | state (name x y : String)
  | delete (name : String)
  | transition (source label target : String)
  | untransition (source label target : String)
  | flag (flag : Flag) (value : Bool) (name : String)
  | move (name dx dy : String)
  | reset
  | step (event : Option String)
  | recognised
  | current
  | watch (value : Option Bool)
  deriving DecidableEq, Repr

/-- A command of the editor. -/
inductive Command
  | quit
  | load (file : String)
  | save (file : Option String)
  | edit (command : Edit)
  deriving DecidableEq, Repr

/-- Why the editor does not carry out a command line. -/
inductive Refusal
  /-- The command does not take these arguments. -/
  | usage (form : String)
  /-- There is no such command. -/
  | unknownCommand (word : String)
  /-- The automaton has no state with the name. -/
  | noState (name : String)
  /-- There is no transition with this label between the two states. -/
  | noTransition
  /-- The word is not a coordinate. -/
  | invalidCoordinate (word : String)
  /-- The word is not an offset. -/
  | invalidOffset (word : String)
  /-- No simulation is running. -/
  | notRunning
  /-- The graph refused the operation. -/
  | graph (error : GraphError)
  /-- The automaton could not be loaded. -/
  | load (error : LoadError)
  /-- The automaton could not be saved. -/
  | save (fault : IoFault)
  deriving DecidableEq, Repr

/-- The wording of a refusal. -/
def Refusal.message : Refusal → String
  | usage form => "Usage: " ++ form
  | unknownCommand word =>
    "Unknown command: " ++ word ++ ". Type 'help' for available commands."
  | noState name => "no state named '" ++ name ++ "'"
  | noTransition => "no such transition"
  | invalidCoordinate word => "invalid coordinate '" ++ word ++ "'"
  | invalidOffset word => "invalid offset '" ++ word ++ "'"
  | notRunning => "no simulation running; use 'reset' first"
  | graph error => error.message
  | load error => error.message
  | save fault => fault.message

/-- What is shown to a user who asks for help. -/
def helpText : String := "\n".intercalate [
  "Available commands:",
  "  help                               Show this help",
  "",
  "  new                                Start an empty automaton",
  "  load <file>                        Open an automaton file",
  "  save [file]                        Write the automaton (default: last file)",
  "  show                               Print the automaton in canonical form",
  "",
  "  state <name> <x> <y>               Create a state",
  "  delete <name>                      Remove a state and its transitions",
  "  transition <from> <event> <to>     Create a transition (`?` for epsilon)",
  "  untransition <from> <event> <to>   Remove a transition",
  "  initial <name> / uninitial <name>  Mark or unmark a start state",
  "  final <name> / unfinal <name>      Mark or unmark an accepting state",
  "  move <name> <dx> <dy>              Move a state",
  "",
  "  reset                              Start a simulation",
  "  step [event]                       Advance (no event: epsilon moves only)",
  "  recognised                         Is the input so far accepted?",
  "  current                            List the current states",
  "",
  "  watch on|off                       Print change notifications",
  "",
  "  quit, exit                         Exit the REPL"]

namespace Command

/-- The command with one argument, or how it is used. -/
def withOne (form : String) (make : String → Command) : List String → Except Refusal Command
  | [a] => .ok (make a)
  | _ => .error (.usage form)

/-- The command with at most one argument, or how it is used. -/
def withOptional (form : String) (make : Option String → Command) :
    List String → Except Refusal Command
  | [] => .ok (make none)
  | [a] => .ok (make (some a))
  | _ => .error (.usage form)

/-- The command with three arguments, or how it is used. -/
def withThree (form : String) (make : String → String → String → Command) :
    List String → Except Refusal Command
  | [a, b, c] => .ok (make a b c)
  | _ => .error (.usage form)

/-- The command that switches watching. -/
def ofWatchArguments : List String → Except Refusal Command
  | [] => .ok (.edit (.watch none))
  | ["on"] => .ok (.edit (.watch (some true)))
  | ["off"] => .ok (.edit (.watch (some false)))
  | _ => .error (.usage "watch on|off")

/-- The command that sets or clears a flag. -/
def ofFlagArguments (word : String) (flag : Flag) (value : Bool) :
    List String → Except Refusal Command :=
  withOne (word ++ " <name>") fun name => .edit (.flag flag value name)

/-- The command with a command word, in lower case, and arguments.  A command without arguments
ignores those that it is given. -/
def ofWords (word : String) (arguments : List String) : Except Refusal Command :=
  if word = "help" ∨ word = "?" then .ok (.edit .help)
  else if word = "quit" ∨ word = "exit" then .ok .quit
  else if word = "new" then .ok (.edit .new)
  else if word = "load" then withOne "load <file>" .load arguments
  else if word = "save" then withOptional "save [file]" .save arguments
  else if word = "show" then .ok (.edit .display)
  else if word = "state" then
    withThree "state <name> <x> <y>" (fun name x y => .edit (.state name x y)) arguments
  else if word = "delete" then withOne "delete <name>" (fun name => .edit (.delete name)) arguments
  else if word = "transition" then
    withThree "transition <from> <event> <to>" (fun a e b => .edit (.transition a e b)) arguments
  else if word = "untransition" then
    withThree "untransition <from> <event> <to>" (fun a e b => .edit (.untransition a e b))
      arguments
  else if word = "initial" then ofFlagArguments word .initial true arguments
  else if word = "uninitial" then ofFlagArguments word .initial false arguments
  else if word = "final" then ofFlagArguments word .final true arguments
  else if word = "unfinal" then ofFlagArguments word .final false arguments
  else if word = "move" then
    withThree "move <name> <dx> <dy>" (fun name dx dy => .edit (.move name dx dy)) arguments
  else if word = "reset" then .ok (.edit .reset)
  else if word = "step" then
    withOptional "step [event]" (fun event => .edit (.step event)) arguments
  else if word = "recognised" ∨ word = "recognized" then .ok (.edit .recognised)
  else if word = "current" then .ok (.edit .current)
  else if word = "watch" then ofWatchArguments arguments
  else .error (.unknownCommand word)

/-- Reads a command line; `none` if it has no words. -/
def read (line : String) : Option (Except Refusal Command) :=
  match Text.words line with
  | [] => none
  | word :: arguments => some (ofWords (Text.lowerCase word) arguments)

end Command

end NfaWorkbench.Editor
