import NfaWorkbench.Graph.Basic
set_option autoImplicit false

/-!
# Graph: refusals

Why a graph refuses an operation.  Every operation checks everything first, so a refused operation
has changed nothing.
-/

namespace NfaWorkbench

/-- Why an operation on a graph was refused. -/
inductive GraphError
  /-- The text is not a state name. -/
  | invalidName (name : String) (fault : NameFault)
  /-- Another state has the name. -/
  | duplicateName (name : String)
  /-- The identifier is not that of a state of the graph. -/
  | unknownState (id : StateId)
  /-- The identifier is not that of a transition of the graph. -/
  | unknownTransition (id : TransitionId)
  /-- The text is not an event label. -/
  | invalidLabel (label : String) (fault : LabelFault)
  /-- There is a transition between the same states with the same label. -/
  | duplicateTransition (source : String) (label : Option String) (target : String)
  deriving DecidableEq, Repr

namespace GraphError

/-- The wording of a refusal. -/
def message : GraphError → String
  | invalidName name fault => "invalid state name '" ++ name ++ "': " ++ fault.message
  | duplicateName name => "duplicate state name '" ++ name ++ "'"
  | unknownState id => "unknown state: " ++ id.render
  | unknownTransition id => "unknown transition: " ++ id.render
  | invalidLabel label fault => "invalid event label '" ++ label ++ "': " ++ fault.message
  | duplicateTransition source label target =>
    "duplicate transition: " ++ source ++ " -" ++ renderLabel label ++ "-> " ++ target

/-- The stable code of a refusal, for scripts. -/
def code : GraphError → String
  | invalidName .. => "INVALID_NAME"
  | duplicateName .. => "DUPLICATE_NAME"
  | unknownState .. => "UNKNOWN_STATE"
  | unknownTransition .. => "UNKNOWN_TRANSITION"
  | invalidLabel .. => "INVALID_LABEL"
  | duplicateTransition .. => "DUPLICATE_TRANSITION"

end GraphError

end NfaWorkbench
