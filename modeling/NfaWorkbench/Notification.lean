import NfaWorkbench.Graph.Basic
set_option autoImplicit false

/-!
# Notifications

Every change of a graph is announced by notifications.  Each travels on one channel: the channel of
the automaton as a whole, or the channel of one state or of one transition.
-/

namespace NfaWorkbench

/-- What changed about a state. -/
inductive StateAspect
  | position
  | initial
  | final
  | current
  | removed
  deriving DecidableEq, Repr

/-- The announcement of one change. -/
inductive Notification
  /-- A state was created or removed. -/
  | statesChanged
  /-- A transition was created or removed. -/
  | transitionsChanged
  /-- The simulation was started or moved on. -/
  | simulationChanged
  /-- Something about one state changed. -/
  | state (id : StateId) (aspect : StateAspect)
  /-- One transition was removed, the only thing that can happen to it. -/
  | transitionRemoved (id : TransitionId)
  deriving DecidableEq, Repr

/-- Where a notification travels, and what a subscriber listens to. -/
inductive Channel
  | automaton
  | state (id : StateId)
  | transition (id : TransitionId)
  deriving DecidableEq, Repr

namespace Notification

/-- The channel of a notification. -/
def channel : Notification → Channel
  | statesChanged => .automaton
  | transitionsChanged => .automaton
  | simulationChanged => .automaton
  | state id _ => .state id
  | transitionRemoved id => .transition id

/-- Whether this is the last notification of its channel: what it tells of is gone. -/
def closesChannel : Notification → Bool
  | state _ .removed => true
  | transitionRemoved _ => true
  | _ => false

end Notification

end NfaWorkbench
