import NfaWorkbench.Notification
set_option autoImplicit false

/-!
# Notification bus

Subscribers listen to one channel each.  A notification is delivered to the subscriptions of its
channel, in the order in which they were made.  Subscription numbers are never used again.  The
notification that closes a channel ends the subscriptions of that channel after it was delivered.

What a listener does with a delivery is its own affair (`broadcast`): whatever it makes of the world
outside and however its call ends, the deliveries stay the same.
-/

namespace NfaWorkbench

/-- A subscription to one channel. -/
structure Subscription where
  id : Nat
  channel : Channel
  deriving DecidableEq, Repr

/-- A notification that reaches one subscription. -/
structure Delivery where
  subscription : Nat
  note : Notification
  deriving DecidableEq, Repr

/-- The subscriptions of an automaton, oldest first, and the number of the next one. -/
structure Bus where
  subscriptions : List Subscription
  next : Nat
  deriving DecidableEq, Repr

namespace Bus

/-- The bus without subscriptions. -/
def empty : Bus := ⟨[], 0⟩

/-- Adds a subscription and gives its number. -/
def subscribe (b : Bus) (channel : Channel) : Nat × Bus :=
  (b.next, ⟨b.subscriptions ++ [⟨b.next, channel⟩], b.next + 1⟩)

/-- Whether a subscription is alive. -/
def isAlive (b : Bus) (id : Nat) : Bool := b.subscriptions.any (·.id = id)

/-- Ends a subscription, and tells whether it was alive. -/
def unsubscribe (b : Bus) (id : Nat) : Bool × Bus :=
  (b.isAlive id, { b with subscriptions := b.subscriptions.filter (·.id ≠ id) })

/-- Ends all subscriptions of a channel. -/
def close (b : Bus) (channel : Channel) : Bus :=
  { b with subscriptions := b.subscriptions.filter (·.channel ≠ channel) }

/-- The deliveries of a notification. -/
def deliveries (b : Bus) (note : Notification) : List Delivery :=
  (b.subscriptions.filter (·.channel = note.channel)).map fun s => ⟨s.id, note⟩

/-- The bus after a notification. -/
def after (b : Bus) (note : Notification) : Bus :=
  if note.closesChannel then b.close note.channel else b

/-- Sends notifications one after another, and gives all deliveries in their order. -/
def publish (b : Bus) : List Notification → Bus × List Delivery
  | [] => (b, [])
  | note :: rest =>
    let later := (b.after note).publish rest
    (later.1, b.deliveries note ++ later.2)

/-! ## Listeners -/

/-- How the call of a listener ends, and the world as the listener leaves it. -/
inductive Call (σ : Type)
  | returned (world : σ)
  | panicked (world : σ)
  deriving Repr

/-- The world after a call.  A panic ends the call in which it happens, and nothing else. -/
def Call.world {σ : Type} : Call σ → σ
  | returned world => world
  | panicked world => world

/-- Calls the listeners of some deliveries one after another. -/
def callAll {σ : Type} (listen : Nat → Notification → σ → Call σ) (deliveries : List Delivery)
    (world : σ) : σ :=
  deliveries.foldl (fun world d => (listen d.subscription d.note world).world) world

/-- Calls the listeners of a notification one after another; each is known by the number of its
subscription. -/
def emit {σ : Type} (b : Bus) (listen : Nat → Notification → σ → Call σ) (note : Notification)
    (world : σ) : σ :=
  (b.subscriptions.filter (·.channel = note.channel)).foldl
    (fun world s => (listen s.id note world).world) world

/-- Sends notifications one after another to those who listen, and gives the world afterwards. -/
def broadcast {σ : Type} (b : Bus) (listen : Nat → Notification → σ → Call σ) :
    List Notification → σ → Bus × σ
  | [], world => (b, world)
  | note :: rest, world => (b.after note).broadcast listen rest (b.emit listen note world)

/-- The listeners are called once for every delivery, in the order of the deliveries. -/
theorem broadcast_eq {σ : Type} (b : Bus) (listen : Nat → Notification → σ → Call σ)
    (notes : List Notification) (world : σ) :
    b.broadcast listen notes world =
      ((b.publish notes).1, callAll listen (b.publish notes).2 world) := by
  induction notes generalizing b world with
  | nil => rfl
  | cons note rest ih =>
    rw [broadcast, ih, publish, callAll, callAll, List.foldl_append, deliveries, List.foldl_map]
    rfl

end Bus

end NfaWorkbench
