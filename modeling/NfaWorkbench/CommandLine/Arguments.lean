set_option autoImplicit false

/-!
# Command line: options and operands

The arguments of a command are its options and its operands, in any order.  An option is a flag or
takes a value.  A flag `f` called `flag` is written `-f` or `--flag`; short flags may share a dash.
An option `o` called `option` takes its value in one of the forms `-o value`, `-ovalue`, `-o=value`,
`--option value` and `--option=value`.  A value must not be empty, and neither must the first
operand.  No option may be given twice.  After a double dash everything is an operand.

Words are read in order, and the first thing that is wrong or asks for help decides.  A value that
is a word of its own is judged only when the next option or operand comes, or at the end.
-/

namespace NfaWorkbench.CommandLine

/-- An option of a command. -/
structure OptionSpec where
  /-- The name after two dashes. -/
  name : String
  /-- The letter after one dash, if there is one. -/
  letter : Option Char
  /-- Whether the option takes a value. -/
  takesValue : Bool
  deriving DecidableEq, Repr

/-- What a command may be given. -/
structure CommandSpec where
  options : List OptionSpec
  /-- The options that end the reading at once. -/
  special : List String
  /-- The number of operands it takes at most, if there is a limit. -/
  maxOperands : Option Nat
  deriving Repr

/-- An option that was given. -/
structure GivenOption where
  name : String
  /-- Its value; empty for a flag. -/
  value : String
  deriving DecidableEq, Repr

/-- The options and operands of a command. -/
structure Arguments where
  options : List GivenOption
  operands : List String
  deriving DecidableEq, Repr, Inhabited

/-- An option whose value is a word of its own, and has not been judged. -/
inductive Waiting
  /-- There is none. -/
  | nothing
  /-- The next word is the value. -/
  | value (name : String)
  /-- The value has been read. -/
  | judgement (name value : String)
  deriving DecidableEq, Repr

namespace Arguments

/-- Whether an option was given. -/
def has (a : Arguments) (name : String) : Bool := a.options.any (·.name = name)

/-- The value of an option. -/
def value? (a : Arguments) (name : String) : Option String :=
  (a.options.find? (·.name = name)).map (·.value)

/-- The arguments with one more flag; it must not have been given before. -/
def raise? (a : Arguments) (name : String) : Option Arguments :=
  if a.has name then none else some { a with options := a.options ++ [⟨name, ""⟩] }

/-- The arguments with one more option that takes a value; it must not have been given before. -/
def give? (a : Arguments) (name value : String) : Option Arguments :=
  if value = "" ∨ a.has name then none
  else some { a with options := a.options ++ [⟨name, value⟩] }

/-- The arguments after a judgement of what is waiting. -/
def settle? (a : Arguments) : Waiting → Option Arguments
  | .nothing => some a
  | .value _ => none
  | .judgement name value => a.give? name value

/-- The arguments with one more operand. -/
def operand? (spec : CommandSpec) (a : Arguments) (word : String) : Option Arguments :=
  if a.operands = [] ∧ word = "" then none
  else if spec.maxOperands.any (· ≤ a.operands.length) then none
  else some { a with operands := a.operands ++ [word] }

/-- The arguments with some more operands. -/
def operands? (spec : CommandSpec) (a : Arguments) : List String → Option Arguments
  | [] => some a
  | word :: rest => match a.operand? spec word with
    | none => none
    | some a => operands? spec a rest

end Arguments

/-! ## Options as they are written -/

/-- An option as it is written. -/
inductive WrittenOption
  | flag (name : String)
  /-- An option with its value in the same word. -/
  | valued (name value : String)
  /-- An option whose value is the next word. -/
  | opened (name : String)
  deriving DecidableEq, Repr

/-- Whether a word looks like an option; a single dash is an operand. -/
def looksLikeOption (word : String) : Bool :=
  match word.toList with
  | '-' :: _ :: _ => true
  | _ => false

/-- A text in front of the first equality sign and, if there is one, what follows it. -/
def splitValue (text : List Char) : String × Option String :=
  (String.ofList (text.takeWhile (· ≠ '=')),
    match text.dropWhile (· ≠ '=') with
    | [] => none
    | _ :: value => some (String.ofList value))

/-- The option written with two dashes. -/
def longOption? (specs : List OptionSpec) (text : List Char) : Option WrittenOption :=
  let (name, value) := splitValue text
  match specs.find? (·.name = name) with
  | none => none
  | some spec => match value with
    | none => some (if spec.takesValue then .opened name else .flag name)
    | some value => if spec.takesValue then some (.valued name value) else none

/-- The options written after one dash; `none` for a letter that means none. -/
def shortOptions (specs : List OptionSpec) : List Char → List (Option WrittenOption)
  | [] => []
  | c :: rest => match specs.find? (·.letter = some c) with
    | none => [none]
    | some spec =>
      if spec.takesValue then
        match rest with
        | [] => [some (.opened spec.name)]
        | '=' :: value => [some (.valued spec.name (String.ofList value))]
        | value => [some (.valued spec.name (String.ofList value))]
      else some (.flag spec.name) :: shortOptions specs rest

/-- The options written in a word. -/
def optionsOf (specs : List OptionSpec) (word : String) : List (Option WrittenOption) :=
  match word.toList with
  | '-' :: '-' :: text => [longOption? specs text]
  | '-' :: letters => shortOptions specs letters
  | _ => []

/-! ## Reading -/

/-- Why reading arguments ended early. -/
inductive Stop
  /-- The arguments are wrong. -/
  | usage
  /-- An option asks for something else than the command. -/
  | asks (name : String)
  deriving DecidableEq, Repr

/-- A value, unless the arguments are wrong. -/
def orUsage {α : Type} : Option α → Except Stop α
  | none => .error .usage
  | some a => .ok a

/-- The arguments with more options, the last of which may lack its value. -/
def giveAll (spec : CommandSpec) (a : Arguments) :
    List (Option WrittenOption) → Except Stop (Arguments × Waiting)
  | [] => .ok (a, .nothing)
  | none :: _ => .error .usage
  | some (.opened name) :: _ => .ok (a, .value name)
  | some (.valued name value) :: rest => match a.give? name value with
    | none => .error .usage
    | some a => giveAll spec a rest
  | some (.flag name) :: rest =>
    if name ∈ spec.special then .error (.asks name)
    else match a.raise? name with
      | none => .error .usage
      | some a => giveAll spec a rest

/-- What has been read: the arguments, an option that was not judged, and the words left over. -/
structure Reading where
  arguments : Arguments
  waiting : Waiting
  rest : List String
  deriving Repr

/-- Reads arguments.  With `stopAtOperand` the first operand and everything after it stay unread. -/
def readArguments (spec : CommandSpec) (stopAtOperand : Bool) (a : Arguments) (waiting : Waiting) :
    List String → Except Stop Reading
  | [] => .ok ⟨a, waiting, []⟩
  | word :: rest =>
    match waiting with
    | .value name =>
      if looksLikeOption word then .error .usage
      else readArguments spec stopAtOperand a (.judgement name word) rest
    | waiting =>
      if stopAtOperand && !looksLikeOption word then .ok ⟨a, waiting, word :: rest⟩
      else match a.settle? waiting with
        | none => .error .usage
        | some a =>
          if word = "--" then (orUsage (a.operands? spec rest)).map (⟨·, .nothing, []⟩)
          else if looksLikeOption word then
            match giveAll spec a (optionsOf spec.options word) with
            | .error stop => .error stop
            | .ok (a, waiting) => readArguments spec stopAtOperand a waiting rest
          else match a.operand? spec word with
            | none => .error .usage
            | some a => readArguments spec stopAtOperand a .nothing rest

end NfaWorkbench.CommandLine
