import NfaWorkbench.Proofs.BusHistory
import NfaWorkbench.Proofs.Workspace.Logs
set_option autoImplicit false

/-!
# Deliveries

What a run of an automaton delivers, and to whom: exactly what is due by the history of its bus.
Neither the listeners nor the subscriptions themselves make a difference to anything else.
-/

namespace NfaWorkbench.Automaton

open Bus (Event alive made due)

/-- What there is to an outcome apart from those who listen: the answer, what is sent, and the graph
afterwards with the status of its simulation. -/
def Outcome.result (o : Outcome) : Except GraphError Answer × List Notification × Graph :=
  (o.answer, o.notes, o.automaton.graph)

/-- The results of those operations that neither make nor cancel a subscription. -/
def results (a : Automaton) :
    List Operation → List (Except GraphError Answer × List Notification × Graph)
  | [] => []
  | operation :: rest =>
    (if operation.concernsBus then [] else [(a.perform operation).result]) ++
      (a.perform operation).automaton.results rest

/-- Carries out some operations while others listen, and gives the automaton and the world
afterwards. -/
def performHeard {σ : Type} (a : Automaton) (listen : Nat → Notification → σ → Bus.Call σ) :
    List Operation → σ → Automaton × σ
  | [], world => (a, world)
  | operation :: rest, world =>
    let outcome := a.perform operation
    outcome.automaton.performHeard listen rest (a.bus.broadcast listen outcome.notes world).2

variable {a b : Automaton} {operation : Operation}

/-! ## Listeners and subscriptions change nothing -/

theorem performAll_cons (a : Automaton) (operation : Operation) (rest : List Operation) :
    a.performAll (operation :: rest) = (a.perform operation).automaton.performAll rest := rfl

theorem result_settled (hgraph : b.graph = a.graph) (r : Except GraphError (Answer × Change)) :
    (b.settled r).result = (a.settled r).result := by
  cases r with
  | error error => simp [settled, refused, Outcome.result, hgraph]
  | ok x => rfl

/-- The result of an operation on the graph depends on nothing but the graph. -/
theorem result_perform (hgraph : b.graph = a.graph) (h : operation.concernsBus = false) :
    (b.perform operation).result = (a.perform operation).result := by
  cases operation with
  | subscribe channel => simp [Operation.concernsBus] at h
  | unsubscribe id => simp [Operation.concernsBus] at h
  | createState name position => simpa [perform, hgraph] using result_settled hgraph _
  | setInitial s value => simpa [perform, hgraph] using result_settled hgraph _
  | setFinal s value => simpa [perform, hgraph] using result_settled hgraph _
  | moveBy s dx dy => simpa [perform, hgraph] using result_settled hgraph _
  | createTransition source target label => simpa [perform, hgraph] using result_settled hgraph _
  | _ => simp [perform, changed, Outcome.result, hgraph]

theorem results_congr (hgraph : b.graph = a.graph) (operations : List Operation) :
    b.results operations = a.results operations ∧
      (b.performAll operations).graph = (a.performAll operations).graph := by
  induction operations generalizing a b with
  | nil => exact ⟨rfl, hgraph⟩
  | cons operation rest ih =>
    by_cases hbus : operation.concernsBus = true
    · have hnext :
          (b.perform operation).automaton.graph = (a.perform operation).automaton.graph := by
        rw [graph_perform_of_concernsBus hbus, graph_perform_of_concernsBus hbus, hgraph]
      simpa [results, performAll_cons, hbus] using ih hnext
    · have hresult := result_perform hgraph (Bool.eq_false_iff.2 hbus)
      have hnext : (b.perform operation).automaton.graph = (a.perform operation).automaton.graph :=
        congrArg (·.2.2) hresult
      simpa [results, performAll_cons, hbus, hresult] using ih hnext

/-- Subscriptions can be left out. -/
theorem results_filter (a : Automaton) (operations : List Operation) :
    a.results (operations.filter (!·.concernsBus)) = a.results operations ∧
      (a.performAll (operations.filter (!·.concernsBus))).graph =
        (a.performAll operations).graph := by
  induction operations generalizing a with
  | nil => exact ⟨rfl, rfl⟩
  | cons operation rest ih =>
    by_cases hbus : operation.concernsBus = true
    · obtain ⟨hresults, hgraph⟩ := results_congr (graph_perform_of_concernsBus (a := a) hbus) rest
      obtain ⟨hfilter, hend⟩ := ih a
      simp only [results, hbus, List.filter_cons, Bool.not_true, if_true, List.nil_append,
        Bool.false_eq_true, if_false]
      exact ⟨hfilter.trans hresults.symm, hend.trans hgraph.symm⟩
    · simpa [results, performAll_cons, hbus] using ih (a.perform operation).automaton

theorem Performs.deliveries_eq {o : Outcome} (h : Performs a operation o) :
    o.deliveries = (a.bus.publish o.notes).2 := by
  cases h <;> rfl

/-- The listeners are called once for every delivery, and the automaton does not feel it. -/
theorem performHeard_eq {σ : Type} (a : Automaton) (listen : Nat → Notification → σ → Bus.Call σ)
    (operations : List Operation) (world : σ) : a.performHeard listen operations world =
      (a.performAll operations, Bus.callAll listen (a.deliveriesOf operations) world) := by
  induction operations generalizing a world with
  | nil => rfl
  | cons operation rest ih =>
    rw [performHeard, ih, Bus.broadcast_eq, ← (performs a operation).deliveries_eq, deliveriesOf,
      Bus.callAll, Bus.callAll, Bus.callAll, List.foldl_append]
    rfl

/-! ## Runs -/

theorem history_concat (a : Automaton) (operations : List Operation) (operation : Operation) :
    a.history (operations ++ [operation]) =
      a.history operations ++ operation.events ((a.performAll operations).perform operation) := by
  induction operations generalizing a with
  | nil => simp [history, performAll]
  | cons first rest ih => simp [history, performAll_cons, ih]

/-- What becomes of the notifications of a run, and what does not depend on them. -/
structure Delivers (a : Automaton) (operations : List Operation) : Prop where
  /-- A notification goes to those subscriptions of its channel that are alive when it is sent, once
  to each and in the order in which they were made. -/
  deliveriesOf_eq : a.deliveriesOf operations = Bus.due [] (a.history operations)
  subscriptions_eq : (a.performAll operations).bus.subscriptions = alive (a.history operations)
  /-- No number is given twice. -/
  ids_nodup : ((made (a.history operations)).map (·.id)).Nodup
  /-- Whatever is listened to is there. -/
  channels : ∀ s ∈ alive (a.history operations),
    (a.performAll operations).graph.HasChannel s.channel
  /-- Whoever subscribes to a channel that there is gets a number, and is the last of those
  alive. -/
  subscribe_answer : ∀ channel, (a.performAll operations).graph.HasChannel channel →
    ∃ id, ((a.performAll operations).perform (.subscribe channel)).answer = .ok (.subscription id) ∧
      alive (a.history (operations ++ [.subscribe channel])) =
        alive (a.history operations) ++ [⟨id, channel⟩]
  /-- Cancelling a subscription tells whether it was alive. -/
  unsubscribe_answer : ∀ id, ((a.performAll operations).perform (.unsubscribe id)).answer =
    .ok (.verdict (decide (id ∈ (alive (a.history operations)).map (·.id))))
  /-- A subscription lives until it is cancelled or what it listens to goes. -/
  ended_iff : ∀ s ∈ alive (a.history operations), ∀ operation,
    s ∉ alive (a.history (operations ++ [operation])) ↔ operation = .unsubscribe s.id ∨
      ¬(a.performAll (operations ++ [operation])).graph.HasChannel s.channel
  /-- That it goes is the last thing that the subscription hears. -/
  farewell : ∀ s ∈ alive (a.history operations), ∀ operation,
    ¬(a.performAll (operations ++ [operation])).graph.HasChannel s.channel →
    ∃ note before later, s.channel.farewell? = some note ∧
      ((a.performAll operations).perform operation).deliveries = before ++ ⟨s.id, note⟩ :: later ∧
      ∀ d ∈ later, d.subscription ≠ s.id
  /-- Nothing is delivered to a subscription that has ended. -/
  silence : ∀ s ∈ made (a.history operations), s ∉ alive (a.history operations) →
    ∀ further, ∀ d ∈ (a.performAll operations).deliveriesOf further, d.subscription ≠ s.id
  /-- With other subscriptions all the rest would be the same. -/
  results_eq : ∀ (b : Automaton) (others : List Operation), b.graph = a.graph →
    others.filter (!·.concernsBus) = operations.filter (!·.concernsBus) →
    b.results others = a.results operations ∧
      (b.performAll others).graph = (a.performAll operations).graph
  /-- The listeners are called for the deliveries, one after another; whatever they do and whether
  or not they panic, the automaton is the same. -/
  performHeard_eq : ∀ {σ : Type} (listen : Nat → Notification → σ → Bus.Call σ) (world : σ),
    a.performHeard listen operations world =
      (a.performAll operations, Bus.callAll listen (Bus.due [] (a.history operations)) world)
  /-- A log records what all those who share it hear, in the order of the deliveries. -/
  entries_eq : ∀ (w : Workspace) (slot : Nat) (requests : List (Operation × Option Int)),
    w.slots[slot]? = some a → requests.map (·.1) = operations →
    ∀ log, (w.actAll (requests.map (.ofRequest slot))).entries log = w.entries log ++
      ((Bus.due [] (a.history operations)).filter
        ((w.actAll (requests.map (.ofRequest slot))).records a.graph.owner log)).map (·.note)

/-- From the first subscription on, the bus delivers exactly what is due, to exactly those that are
alive, and nothing else depends on it. -/
theorem Reachable.delivers {a : Automaton} (h : a.Reachable) (hbus : a.bus = .empty)
    (operations : List Operation) : a.Delivers operations := by
  have htracks : Tracks [] a := by
    refine ⟨?_, ?_, by simp [alive]⟩
    · rw [hbus]
      rfl
    · rw [hbus]
      rfl
  obtain ⟨hend, hdue⟩ := htracks.performAll h operations
  have hreached := h.performAll operations
  have hids : ((made (a.history operations)).map (·.id)).Nodup :=
    hend.numbered ▸ List.nodup_range
  refine ⟨hdue, hend.subscriptions, hids, hend.channels, ?_, ?_, ?_, ?_, ?_, ?_, ?_, ?_⟩
  · intro channel hchannel
    rw [history_concat]
    exact perform_subscribe hchannel _
  · exact hend.unsubscribe_answer
  · intro s hs operation
    rw [history_concat, performAll_concat]
    exact hend.ended_iff hreached.consistent operation hs
  · intro s hs operation hgone
    rw [performAll_concat] at hgone
    exact hend.farewell hreached.consistent hs hgone
  · intro s hs hended further
    obtain ⟨hfurther, hduefurther⟩ := hend.performAll hreached further
    rw [hduefurther]
    exact Bus.not_mem_due (hfurther.numbered ▸ List.nodup_range) hs hended
  · intro b others hgraph hsame
    obtain ⟨hothers, hotherend⟩ := results_filter b others
    obtain ⟨hown, hownend⟩ := results_filter a operations
    obtain ⟨hresults, hgraphs⟩ := results_congr hgraph (operations.filter (!·.concernsBus))
    rw [← hothers, ← hotherend, hsame, ← hown, ← hownend]
    exact ⟨hresults, hgraphs⟩
  · intro σ listen world
    rw [Automaton.performHeard_eq, hdue]
  · rintro w slot requests hslot rfl log
    have hlistens : w.Listens a := by
      intro n hn
      rw [hbus] at hn
      exact absurd hn (Nat.not_lt_zero n)
    rw [← hdue]
    exact (Workspace.entries_actAll hslot hlistens h htracks requests).2 log

/-- Two listen to the epsilon transition and one to the automaton, and the first of them stops; the
transition goes together with its source. -/
theorem sample_delivers : sample.Reachable ∧ sample.bus = .empty ∧
    sample.deliveriesOf [.subscribe (.transition ⟨0, 3⟩), .subscribe .automaton,
      .subscribe (.transition ⟨0, 3⟩), .unsubscribe 0, .removeState ⟨0, 2⟩, .unsubscribe 2,
      .reset] =
      [⟨1, .transitionsChanged⟩, ⟨2, .transitionRemoved ⟨0, 3⟩⟩, ⟨1, .transitionsChanged⟩,
        ⟨1, .statesChanged⟩, ⟨1, .simulationChanged⟩] := by
  have hbus : sample.bus = .empty := by decide +kernel
  refine ⟨reachable_sample, hbus, (reachable_sample.delivers hbus _).deliveriesOf_eq.trans ?_⟩
  decide +kernel

end NfaWorkbench.Automaton
