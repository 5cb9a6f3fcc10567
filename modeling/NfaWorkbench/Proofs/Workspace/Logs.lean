import NfaWorkbench.Proofs.BusHistory
import NfaWorkbench.Proofs.Workspace.Run
set_option autoImplicit false

/-!
# Logs

A log records what its subscriptions hear, all of them together in the order of the deliveries
(`entries_actAll`).  A subscription keeps to its log: later ones have other numbers.
-/

namespace NfaWorkbench.Workspace

open Automaton (Operation Tracks)
open Bus (Event)

/-- The log into which a subscription of the automaton with a number records. -/
def logOf? (w : Workspace) (owner subscription : Nat) : Option Int :=
  (w.listeners.find? fun l => l.owner = owner ∧ l.subscription = subscription).bind (·.log)

/-- Whether a delivery goes into a log. -/
def records (w : Workspace) (owner : Nat) (log : Int) (d : Delivery) : Bool :=
  w.logOf? owner d.subscription = some log

/-- What is to be done with the automaton in a slot: an operation, which comes with a log if it is a
subscription that is to be recorded. -/
def Action.ofRequest (slot : Nat) : Operation × Option Int → Action
  | (.subscribe channel, log) => .subscribe slot channel log
  | (operation, _) => .operate slot operation

variable {w v : Workspace} {slot owner : Nat} {log : Int} {a : Automaton} {past : List Event}

/-! ## Deliveries -/

theorem receive_eq (w : Workspace) (owner : Nat) (d : Delivery) :
    (w.receive owner d).1 = match w.logOf? owner d.subscription with
      | some log => { w with logs := w.logs.put log (w.entries log ++ [d.note]) }
      | none => w := by
  unfold receive logOf?
  rw [List.find?_eq_bind_findIdx?_getElem?]
  cases List.findIdx? _ w.listeners with
  | none => rfl
  | some number =>
    simp only [Option.bind_some]
    cases w.listeners[number]?.bind (·.log) <;> rfl

theorem logOf?_congr (hlisteners : v.listeners = w.listeners) (owner subscription : Nat) :
    v.logOf? owner subscription = w.logOf? owner subscription := by
  rw [logOf?, logOf?, hlisteners]

theorem entries_receive (w : Workspace) (owner : Nat) (d : Delivery) (log : Int) :
    (w.receive owner d).1.entries log =
      w.entries log ++ if w.records owner log d then [d.note] else [] := by
  rw [receive_eq, records]
  cases w.logOf? owner d.subscription with
  | none => simp
  | some other =>
    by_cases hsame : log = other
    · subst hsame
      simp [entries, Registry.get?_put]
    · simp [entries, Registry.get?_put, hsame, Ne.symm hsame]

/-- A log takes up, in their order, the deliveries to all subscriptions that record into it. -/
theorem entries_receiveAll (w : Workspace) (owner : Nat) (deliveries : List Delivery) (log : Int) :
    (w.receiveAll owner deliveries).1.entries log =
      w.entries log ++ (deliveries.filter (w.records owner log)).map (·.note) := by
  induction deliveries generalizing w with
  | nil => simp [receiveAll]
  | cons d rest ih =>
    have hsame : (w.receive owner d).1.records owner log = w.records owner log := by
      funext e
      rw [records, records, logOf?_congr (w.frame_receive owner d).2.2]
    rw [receiveAll, ih, entries_receive, hsame, List.filter_cons]
    split <;> simp

/-! ## One request -/

/-- Every subscription that an automaton has made has a listener. -/
def Listens (w : Workspace) (a : Automaton) : Prop :=
  ∀ n < a.bus.next, ∃ l ∈ w.listeners, l.owner = a.graph.owner ∧ l.subscription = n

/-- A request for the automaton in a slot is served: the deliveries go into the logs, and those who
have listened before keep to their logs. -/
structure Serves (w : Workspace) (slot : Nat) (a : Automaton) (operation : Operation)
    (v : Workspace) : Prop where
  slot : v.slots[slot]? = some (a.perform operation).automaton
  listens : v.Listens (a.perform operation).automaton
  logOf?_eq : ∀ n < a.bus.next, v.logOf? a.graph.owner n = w.logOf? a.graph.owner n
  entries_eq : ∀ log, v.entries log = w.entries log ++
    ((a.perform operation).deliveries.filter (v.records a.graph.owner log)).map (·.note)

theorem serves_operate (hslot : w.slots[slot]? = some a) (hlistens : w.Listens a)
    (ha : a.Reachable) {operation : Operation}
    (hother : ∀ channel, operation ≠ .subscribe channel) :
    Serves w slot a operation (w.act (.operate slot operation)) := by
  have hact : w.act (.operate slot operation) = (w.operate slot a operation).2.1 := by
    rw [act, hslot]
  obtain ⟨hslots, -, hlisteners⟩ := frame_receiveAll
    { w with slots := w.slots.set slot (a.perform operation).automaton } a.graph.owner
    (a.perform operation).deliveries
  have howner := (ha.becomes_perform operation).owner_eq
  obtain ⟨hlt, -⟩ := List.getElem?_eq_some_iff.1 hslot
  rw [hact]
  constructor
  · rw [operate, hslots]
    exact List.getElem?_set_self hlt
  · rw [Listens, operate, hlisteners, (Automaton.performs a operation).next_eq hother, howner]
    exact hlistens
  · exact fun n _ => logOf?_congr hlisteners _ n
  · intro log
    have hrecords : (w.operate slot a operation).2.1.records a.graph.owner log =
        records { w with slots := w.slots.set slot (a.perform operation).automaton }
          a.graph.owner log := by
      funext d
      rw [records, records, operate, logOf?_congr hlisteners]
    rw [hrecords, operate, entries_receiveAll]
    rfl

theorem serves_subscribe (hslot : w.slots[slot]? = some a) (hlistens : w.Listens a)
    (channel : Channel) (log : Option Int) :
    Serves w slot a (.subscribe channel) (w.act (.subscribe slot channel log)) := by
  have hact : w.act (.subscribe slot channel log) =
      ((w.subscribe slot a channel log).toOption.map (·.2)).getD w := by
    rw [act, hslot]
  obtain ⟨hlt, -⟩ := List.getElem?_eq_some_iff.1 hslot
  rw [hact, subscribe]
  cases hsubscribe : a.subscribe channel with
  | error error =>
    have hperform : a.perform (.subscribe channel) = a.refused error := by
      rw [Automaton.perform, hsubscribe]
    constructor
    · rw [hperform]
      exact hslot
    · rw [hperform]
      exact hlistens
    · exact fun n _ => rfl
    · intro log
      rw [hperform]
      exact (List.append_nil _).symm
  | ok made =>
    obtain ⟨id, b⟩ := made
    have hperform : a.perform (.subscribe channel) = ⟨.ok (.subscription id), b, [], []⟩ := by
      rw [Automaton.perform, hsubscribe]
    have hmade : id = a.bus.next ∧ b.graph = a.graph ∧ b.bus.next = a.bus.next + 1 := by
      rw [Automaton.subscribe] at hsubscribe
      split at hsubscribe
      · simp at hsubscribe
      · obtain ⟨rfl, rfl⟩ := by simpa using hsubscribe
        exact ⟨rfl, rfl, rfl⟩
    obtain ⟨hid, hgraph, hnext⟩ := hmade
    constructor
    · rw [hperform]
      exact List.getElem?_set_self hlt
    · rw [hperform]
      intro n hn
      rw [hnext, Nat.lt_succ_iff_lt_or_eq] at hn
      rw [hgraph]
      obtain hold | rfl := hn
      · obtain ⟨l, hl, hown⟩ := hlistens n hold
        exact ⟨l, List.mem_append_left _ hl, hown⟩
      · exact ⟨_, List.mem_append_right _ (List.mem_singleton_self _), rfl, hid⟩
    · -- The first listener that fits is among the old ones.
      intro n hn
      obtain ⟨l, hl, hown⟩ := hlistens n hn
      have hfound : (w.listeners.find? fun l =>
          l.owner = a.graph.owner ∧ l.subscription = n).isSome :=
        List.find?_isSome.2 ⟨l, hl, by simpa using hown⟩
      obtain ⟨first, hfirst⟩ := Option.isSome_iff_exists.1 hfound
      simp only [logOf?, Except.toOption, Option.map_some, Option.getD_some, List.find?_append,
        hfirst, Option.some_or]
    · intro log
      rw [hperform]
      exact (List.append_nil _).symm

theorem serves_ofRequest (hslot : w.slots[slot]? = some a) (hlistens : w.Listens a)
    (ha : a.Reachable) (request : Operation × Option Int) :
    Serves w slot a request.1 (w.act (.ofRequest slot request)) := by
  obtain ⟨operation, log⟩ := request
  cases operation with
  | subscribe channel => exact serves_subscribe hslot hlistens channel log
  | _ => exact serves_operate hslot hlistens ha (by simp)

/-! ## Runs -/

/-- In the course of some requests a log takes up all deliveries to the subscriptions that record
into it, in their order. -/
theorem entries_actAll (hslot : w.slots[slot]? = some a) (hlistens : w.Listens a)
    (ha : a.Reachable) (htracks : Tracks past a) (requests : List (Operation × Option Int)) :
    (∀ n < a.bus.next, (w.actAll (requests.map (.ofRequest slot))).logOf? a.graph.owner n =
      w.logOf? a.graph.owner n) ∧
    ∀ log, (w.actAll (requests.map (.ofRequest slot))).entries log = w.entries log ++
      ((a.deliveriesOf (requests.map (·.1))).filter
        ((w.actAll (requests.map (.ofRequest slot))).records a.graph.owner log)).map (·.note) := by
  induction requests generalizing w a past with
  | nil => exact ⟨fun _ _ => rfl, fun _ => (List.append_nil _).symm⟩
  | cons request rest ih =>
    have hserves := serves_ofRequest hslot hlistens ha request
    obtain ⟨hnext, hdue⟩ := htracks.performs ha.consistent (Automaton.performs a request.1)
    obtain ⟨hlogs, hentries⟩ := ih hserves.slot hserves.listens (ha.perform request.1) hnext
    rw [(ha.becomes_perform request.1).owner_eq] at hlogs hentries
    rw [List.map_cons, List.map_cons, actAll_cons, Automaton.deliveriesOf]
    refine ⟨fun n hn => ?_, fun log => ?_⟩
    · refine (hlogs n ?_).trans (hserves.logOf?_eq n hn)
      have hmade : n ∈ (Bus.made (past ++ request.1.events (a.perform request.1))).map (·.id) := by
        rw [Bus.made_append, List.map_append, htracks.numbered]
        exact List.mem_append_left _ (List.mem_range.2 hn)
      exact List.mem_range.1 (hnext.numbered ▸ hmade)
    · have hrecords : ∀ d ∈ (a.perform request.1).deliveries,
          (w.act (.ofRequest slot request)).records a.graph.owner log d =
            ((w.act (.ofRequest slot request)).actAll (rest.map (.ofRequest slot))).records
              a.graph.owner log d := by
        intro d hd
        have hmade := Bus.id_mem_made_of_mem_due (hdue ▸ hd)
        rw [records, records, hlogs d.subscription (List.mem_range.1 (hnext.numbered ▸ hmade))]
      rw [hentries log, hserves.entries_eq log, List.filter_congr hrecords, List.filter_append,
        List.map_append, List.append_assoc]

end NfaWorkbench.Workspace
