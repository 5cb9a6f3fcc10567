import NfaWorkbench.Json.Text
set_option autoImplicit false

/-!
# JSON: writing

Writes a value over several lines: every item of an array and every member of an object stands on a
line of its own, two spaces deeper than the brackets around it.  Empty arrays and objects stay on
one line.
-/

namespace NfaWorkbench.Json

/-- A line break and the indentation of a depth. -/
def newLine (depth : Nat) : List Char := '\n' :: List.replicate (2 * depth) ' '

/-- How a number is written.  One whose value is not kept is written as a zero with a fraction. -/
def writeNumber : Number → List Char
  | .integer negative magnitude => (if negative then ['-'] else []) ++ Nat.toDigits 10 magnitude
  | .decimal => ['0', '.', '0']

mutual

/-- How a value is written that stands at a depth. -/
def write (depth : Nat) : Value → List Char
  | .null => ['n', 'u', 'l', 'l']
  | .bool true => ['t', 'r', 'u', 'e']
  | .bool false => ['f', 'a', 'l', 's', 'e']
  | .number n => writeNumber n
  | .string text => writeText text
  | .array [] => ['[', ']']
  | .array (item :: rest) =>
    '[' :: newLine (depth + 1) ++ write (depth + 1) item ++ writeItems (depth + 1) rest
      ++ newLine depth ++ [']']
  | .object [] => ['\x7b', '\x7d']
  | .object ((key, value) :: rest) =>
    '\x7b' :: newLine (depth + 1) ++ writeText key ++ [':', ' '] ++ write (depth + 1) value
      ++ writeMembers (depth + 1) rest ++ newLine depth ++ ['\x7d']

/-- How the items after the first one are written. -/
def writeItems (depth : Nat) : List Value → List Char
  | [] => []
  | item :: rest => ',' :: newLine depth ++ write depth item ++ writeItems depth rest

/-- How the members after the first one are written. -/
def writeMembers (depth : Nat) : List (Option String × Value) → List Char
  | [] => []
  | (key, value) :: rest =>
    ',' :: newLine depth ++ writeText key ++ [':', ' '] ++ write depth value
      ++ writeMembers depth rest

end

/-- The text of a value, over several lines. -/
def pretty (value : Value) : String := String.ofList (write 0 value)

end NfaWorkbench.Json
