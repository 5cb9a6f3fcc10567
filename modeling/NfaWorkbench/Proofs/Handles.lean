import NfaWorkbench.Proofs.Graph.Lifetime
import NfaWorkbench.Proofs.Refusal
set_option autoImplicit false

/-!
# Handles of one automaton

A handle is an identifier of a state or of a transition.  An operation adds the handle that it
issues, which nobody has seen before, and takes away those that it removes; all others are members
afterwards exactly if they were before.  One that is no member is refused, or overlooked.
-/

namespace NfaWorkbench

/-- The identifier of a state or of a transition. -/
inductive Handle
  | state (id : StateId)
  | transition (id : TransitionId)
  deriving DecidableEq, Repr

/-- The number of the graph that has issued a handle. -/
def Handle.owner : Handle → Nat
  | state s => s.owner
  | transition t => t.owner

/-- The refusal of a handle that is no member. -/
def Handle.unknown : Handle → GraphError
  | state s => .unknownState s
  | transition t => .unknownTransition t

namespace Graph

variable {g k : Graph}

/-- The handles of all members, those of the states first. -/
def handles (g : Graph) : List Handle :=
  g.states.ids.map .state ++ g.transitions.ids.map .transition

/-- Whether a graph has issued a handle at some time. -/
def HasIssued (g : Graph) : Handle → Prop
  | .state s => s.owner = g.owner ∧ s.index < g.nextState
  | .transition t => t.owner = g.owner ∧ t.index < g.nextTransition

/-- The handle is no member for any of the queries. -/
def Disowns (g : Graph) : Handle → Prop
  | .state s =>
    g.state? s = none ∧ g.hasState s = false ∧ g.stateName s = "?" ∧
      (∀ t, g.findTransitions s t = .error (.unknownState s)) ∧
      ∀ t ∈ g.states.ids, g.findTransitions t s = .error (.unknownState s)
  | .transition t => g.transition? t = none ∧ g.hasTransition t = false

@[simp]
theorem state_mem_handles_iff {s : StateId} : .state s ∈ g.handles ↔ s ∈ g.states.ids := by
  simp [handles]

@[simp]
theorem transition_mem_handles_iff {t : TransitionId} :
    .transition t ∈ g.handles ↔ t ∈ g.transitions.ids := by
  simp [handles]

theorem Consistent.handles_nodup (hg : g.Consistent) : g.handles.Nodup := by
  refine List.nodup_append.2 ⟨?_, ?_, ?_⟩
  · exact hg.stateIds_nodup.map fun _ _ h => Handle.state.inj h
  · exact hg.transitionIds_nodup.map fun _ _ h => Handle.transition.inj h
  · simp

theorem Consistent.hasIssued_of_mem (hg : g.Consistent) {h : Handle} (hmem : h ∈ g.handles) :
    g.HasIssued h := by
  cases h with
  | state s => exact hg.state_issued s (state_mem_handles_iff.1 hmem)
  | transition t => exact hg.transition_issued t (transition_mem_handles_iff.1 hmem)

theorem HasIssued.owner_eq {h : Handle} (hissued : g.HasIssued h) : h.owner = g.owner := by
  cases h with
  | state s => exact hissued.1
  | transition t => exact hissued.1

theorem Becomes.hasIssued (hgk : g.Becomes k) {h : Handle} (hissued : g.HasIssued h) :
    k.HasIssued h := by
  cases h with
  | state s =>
    exact ⟨hissued.1.trans hgk.owner_eq.symm, Nat.lt_of_lt_of_le hissued.2 hgk.nextState_le⟩
  | transition t =>
    exact ⟨hissued.1.trans hgk.owner_eq.symm, Nat.lt_of_lt_of_le hissued.2 hgk.nextTransition_le⟩

/-- What has left a graph does not come back. -/
theorem Becomes.mem_of_hasIssued (hgk : g.Becomes k) {h : Handle} (hissued : g.HasIssued h)
    (hmem : h ∈ k.handles) : h ∈ g.handles := by
  cases h with
  | state s =>
    obtain ⟨w, hw⟩ := Registry.mem_ids_iff.1 (state_mem_handles_iff.1 hmem)
    obtain ⟨v, hv, _⟩ := hgk.states s w hw hissued.2
    exact state_mem_handles_iff.2 (Registry.mem_ids_of_mem hv)
  | transition t =>
    obtain ⟨e, he⟩ := Registry.mem_ids_iff.1 (transition_mem_handles_iff.1 hmem)
    exact transition_mem_handles_iff.2
      (Registry.mem_ids_of_mem (hgk.transitions t e he hissued.2))

theorem disowns_of_not_mem {h : Handle} (hmem : h ∉ g.handles) : g.Disowns h := by
  cases h with
  | state s =>
    rw [state_mem_handles_iff] at hmem
    have hnone : g.state? s = none := Registry.get?_eq_none_iff.2 hmem
    have hfalse : g.hasState s = false := Bool.eq_false_iff.2 fun hs => hmem ((hasState_iff s).1 hs)
    refine ⟨hnone, hfalse, ?_, ?_, ?_⟩
    · rw [stateName, hnone]
    · intro t
      rw [findTransitions, hnone]
    · intro t ht
      obtain ⟨v, hv⟩ := Option.ne_none_iff_exists'.1 (mt Registry.get?_eq_none_iff.1 (not_not.2 ht))
      have hsome : g.state? t = some v := hv
      simp [findTransitions, hsome, hfalse]
  | transition t =>
    rw [transition_mem_handles_iff] at hmem
    refine ⟨Registry.get?_eq_none_iff.2 hmem, Bool.eq_false_iff.2 fun ht => hmem ?_⟩
    exact (Registry.contains_iff_mem_ids _ t).1 ht

end Graph

namespace Automaton

variable {g : Graph} {a : Automaton} {operation : Operation} {o : Outcome}

/-- The handles that an operation is given. -/
def Operation.handles : Operation → List Handle
  | .removeState s => [.state s]
  | .setInitial s _ => [.state s]
  | .setFinal s _ => [.state s]
  | .moveBy s _ _ => [.state s]
  | .createTransition source target _ => [.state source, .state target]
  | .removeTransition t => [.transition t]
  | .subscribe (.state s) => [.state s]
  | .subscribe (.transition t) => [.transition t]
  | _ => []

/-- The operations that overlook a handle that is no member. -/
def Operation.isRemoval : Operation → Bool
  | .removeState _ => true
  | .removeTransition _ => true
  | _ => false

/-- The handle that an operation removes: the one that it is given, or that of a transition that
leaves or enters the state that it is given. -/
inductive Removes (g : Graph) : Operation → Handle → Prop
  | state (s : StateId) : Removes g (.removeState s) (.state s)
  | transition (t : TransitionId) : Removes g (.removeTransition t) (.transition t)
  | endpoint {s : StateId} {t : TransitionId} {e : Transition} (ht : (t, e) ∈ g.transitions)
      (hend : e.source = s ∨ e.target = s) : Removes g (.removeState s) (.transition t)

/-- The handle that an answer brings. -/
def Answer.issued : Answer → List Handle
  | .state s => [.state s]
  | .transition t => [.transition t]
  | _ => []

/-- The handle that an operation issues. -/
def Outcome.issued (o : Outcome) : List Handle :=
  match o.answer with
  | .ok answer => answer.issued
  | .error _ => []

/-! ## One operation -/

theorem removes_removeState_state_iff {s u : StateId} :
    Removes g (.removeState s) (.state u) ↔ u = s := by
  constructor
  · intro hremoves
    cases hremoves
    rfl
  · rintro rfl
    exact .state u

theorem removes_removeState_transition_iff {s : StateId} {t : TransitionId} :
    Removes g (.removeState s) (.transition t) ↔
      ∃ e, (t, e) ∈ g.transitions ∧ (e.source = s ∨ e.target = s) := by
  constructor
  · intro hremoves
    cases hremoves with
    | endpoint ht hend => exact ⟨_, ht, hend⟩
  · rintro ⟨e, ht, hend⟩
    exact .endpoint ht hend

theorem removes_removeTransition_iff {t : TransitionId} {h : Handle} :
    Removes g (.removeTransition t) h ↔ h = .transition t := by
  constructor
  · intro hremoves
    cases hremoves
    rfl
  · rintro rfl
    exact .transition t

/-- Only the two removals remove anything. -/
theorem not_removes (hkeeps : operation.isRemoval = false) (h : Handle) :
    ¬Removes g operation h := by
  intro hremoves
  cases hremoves <;> simp [Operation.isRemoval] at hkeeps

theorem mem_handles_removeState_iff (hg : g.Consistent) (s : StateId) (h : Handle) :
    h ∈ (g.removeState s).graph.handles ↔ h ∈ g.handles ∧ ¬Removes g (.removeState s) h := by
  by_cases hs : s ∈ g.states.ids
  · obtain ⟨state, hstate⟩ := Registry.mem_ids_iff.1 hs
    rw [hg.removeState_graph hstate]
    cases h with
    | state u =>
      rw [removes_removeState_state_iff, Graph.state_mem_handles_iff, Graph.state_mem_handles_iff,
        Graph.withoutState, Graph.dropState, Registry.ids_erase, Graph.ids_keepTransitions_states]
      simp
    | transition t =>
      rw [removes_removeState_transition_iff, ← hg.mem_touching_iff hstate,
        Graph.transition_mem_handles_iff, Graph.transition_mem_handles_iff, Graph.withoutState,
        Graph.dropState, Graph.ids_keepTransitions]
      simp
  · -- No transition can leave or enter what is no state.
    rw [Graph.removeState_of_not_mem hs]
    refine ⟨fun hmem => ⟨hmem, fun hremoves => ?_⟩, And.left⟩
    cases hremoves with
    | state => exact hs (Graph.state_mem_handles_iff.1 hmem)
    | endpoint ht hend =>
      obtain ⟨hsource, htarget⟩ := hg.endpoints _ _ ht
      obtain rfl | rfl := hend
      · exact hs hsource
      · exact hs htarget

theorem mem_handles_removeTransition_iff (hg : g.Consistent) (t : TransitionId) (h : Handle) :
    h ∈ (g.removeTransition t).graph.handles ↔
      h ∈ g.handles ∧ ¬Removes g (.removeTransition t) h := by
  rw [hg.removeTransition_graph, removes_removeTransition_iff]
  cases h with
  | state s =>
    rw [Graph.state_mem_handles_iff, Graph.state_mem_handles_iff, Graph.ids_keepTransitions_states]
    simp
  | transition u =>
    rw [Graph.transition_mem_handles_iff, Graph.transition_mem_handles_iff,
      Graph.ids_keepTransitions]
    simp

/-- After an operation the members are the one that it has issued and the old ones that it has not
removed. -/
theorem mem_handles_of_does (hg : g.Consistent) {answer : Answer} {c : Change}
    (hdoes : Does g operation answer c) (h : Handle) :
    h ∈ c.graph.handles ↔ h ∈ answer.issued ∨ (h ∈ g.handles ∧ ¬Removes g operation h) := by
  have hsame : operation.isRemoval = false → answer.issued = [] →
      c.graph.states.ids = g.states.ids → c.graph.transitions.ids = g.transitions.ids →
      (h ∈ c.graph.handles ↔ h ∈ answer.issued ∨ (h ∈ g.handles ∧ ¬Removes g operation h)) := by
    intro hkeeps hissued hstates htransitions
    rw [Graph.handles, Graph.handles, hissued, hstates, htransitions]
    simp [not_removes hkeeps]
  cases hdoes with
  | @createState name position hname hfree =>
    have hids : (g.addState name position).states.ids = g.states.ids ++ [g.nextStateId] :=
      Registry.ids_add _ _ _
    have hkeeps : ∀ h, ¬Removes g (.createState name position) h := not_removes rfl
    simp only [hkeeps, Graph.handles, hids, Answer.issued]
    simp [Graph.addState, or_left_comm]
  | removeState s =>
    rw [mem_handles_removeState_iff hg]
    simp [Answer.issued]
  | @changeState operation s aspect f hchange hs =>
    refine hsame ?_ rfl (Registry.ids_modify _ _ _) rfl
    cases operation <;> simp [Operation.attribute?, Operation.isRemoval] at hchange ⊢
  | @createTransition source target label hsource htarget hlabel hedge =>
    have hhandles : (g.addTransition source target label).handles =
        g.handles ++ [.transition g.nextTransitionId] := by
      rw [Graph.handles, Graph.ids_addTransition_states, Graph.addTransition, Registry.ids_add]
      simp [Graph.handles]
    have hkeeps : ∀ h, ¬Removes g (.createTransition source target label) h := not_removes rfl
    rw [hhandles, List.mem_append, or_comm]
    simp [hkeeps, Answer.issued]
  | removeTransition t =>
    rw [mem_handles_removeTransition_iff hg]
    simp [Answer.issued]
  | reset =>
    have hframe : g.reset.graph.unmarked = { g with active := true }.unmarked :=
      Graph.unmarked_reset g
    exact hsame rfl rfl (Graph.ids_eq_of_unmarked_eq hframe :)
      (congrArg Registry.ids (Graph.transitions_eq_of_unmarked_eq hframe) :)
  | step event =>
    exact hsame rfl rfl (Graph.ids_eq_of_unmarked_eq (Graph.unmarked_step g event))
      (congrArg Registry.ids (Graph.transitions_eq_of_unmarked_eq (Graph.unmarked_step g event)))
  | recognise =>
    exact hsame rfl rfl (Graph.ids_eq_of_unmarked_eq (Graph.unmarked_recognise g))
      (congrArg Registry.ids (Graph.transitions_eq_of_unmarked_eq (Graph.unmarked_recognise g)))

/-- A handle that is issued has never been issued before. -/
theorem hasIssued_of_does {answer : Answer} {c : Change} (hdoes : Does g operation answer c)
    {h : Handle} (hissued : h ∈ answer.issued) : c.graph.HasIssued h ∧ ¬g.HasIssued h := by
  cases hdoes with
  | createState hname hfree =>
    obtain rfl := List.mem_singleton.1 hissued
    exact ⟨⟨rfl, Nat.lt_succ_self _⟩, fun hold => Nat.lt_irrefl _ hold.2⟩
  | createTransition hsource htarget hlabel hedge =>
    obtain rfl := List.mem_singleton.1 hissued
    exact ⟨⟨rfl, Nat.lt_succ_self _⟩, fun hold => Nat.lt_irrefl _ hold.2⟩
  | _ => simp [Answer.issued] at hissued

theorem mem_handles_perform_iff (ha : a.Reachable) (operation : Operation) (h : Handle) :
    h ∈ (a.perform operation).automaton.graph.handles ↔
      h ∈ (a.perform operation).issued ∨ (h ∈ a.graph.handles ∧ ¬Removes a.graph operation h) := by
  cases hremoval : operation.isRemoval with
  | true =>
    -- A removal is never refused.
    cases operation with
    | removeState s => exact mem_handles_of_does ha.consistent (.removeState s) h
    | removeTransition t => exact mem_handles_of_does ha.consistent (.removeTransition t) h
    | _ => simp [Operation.isRemoval] at hremoval
  | false =>
    have hperforms := performs a operation
    generalize a.perform operation = o at hperforms
    cases hperforms with
    | changed hdoes => exact mem_handles_of_does ha.consistent hdoes h
    | refused error => simp [refused, Outcome.issued, not_removes hremoval]
    | subscribed hchannel => simp [Outcome.issued, Answer.issued, not_removes hremoval]
    | unsubscribed id => simp [Outcome.issued, Answer.issued, not_removes hremoval]

theorem Performs.hasIssued (hperforms : Performs a operation o) {h : Handle}
    (hissued : h ∈ o.issued) : o.automaton.graph.HasIssued h ∧ ¬a.graph.HasIssued h := by
  cases hperforms with
  | changed hdoes => exact hasIssued_of_does hdoes hissued
  | _ => exact absurd hissued List.not_mem_nil

theorem issued_nodup (o : Outcome) : o.issued.Nodup := by
  unfold Outcome.issued
  split
  · rename_i answer _
    cases answer <;> simp [Answer.issued]
  · exact List.nodup_nil

/-! ## Handles that are no members -/

theorem find?_singleton_eq_some_iff {α : Type} {p : α → Bool} {x y : α} :
    [x].find? p = some y ↔ p x = true ∧ x = y := by
  rw [List.find?_singleton, Option.ite_none_right_eq_some, Option.some_inj]

/-- Other operations than removals are refused for the first handle that is no member. -/
theorem refuses_of_find? {u : Handle} (hu : operation.handles.find? (· ∉ g.handles) = some u)
    (hkeeps : operation.isRemoval = false) : Refuses g operation u.unknown := by
  have hsubject : ∀ {s : StateId}, operation.handles = [.state s] → operation.subject? = some s →
      Refuses g operation u.unknown := by
    intro s hhandles hsome
    rw [hhandles] at hu
    obtain ⟨hs, rfl⟩ := find?_singleton_eq_some_iff.1 hu
    exact .unknownState hsome (by simpa using hs)
  cases operation with
  | removeState s => simp [Operation.isRemoval] at hkeeps
  | removeTransition t => simp [Operation.isRemoval] at hkeeps
  | setInitial s value => exact hsubject rfl rfl
  | setFinal s value => exact hsubject rfl rfl
  | moveBy s dx dy => exact hsubject rfl rfl
  | createTransition source target label =>
    rw [Operation.handles, List.find?_cons] at hu
    split at hu
    · rename_i hsource
      obtain rfl := Option.some.inj hu
      exact .unknownSource (by simpa using hsource)
    · rename_i hsource
      obtain ⟨htarget, rfl⟩ := find?_singleton_eq_some_iff.1 hu
      exact .unknownTarget (by simpa using hsource) (by simpa using htarget)
  | subscribe channel =>
    cases channel with
    | automaton => simp [Operation.handles] at hu
    | state s => exact hsubject rfl rfl
    | transition t =>
      obtain ⟨ht, rfl⟩ := find?_singleton_eq_some_iff.1 hu
      exact .unknownTransition (by simpa using ht)
  | _ => simp [Operation.handles] at hu

/-- An operation that is given the handle of no member changes nothing: a removal overlooks it, and
all others are refused with an error that names the first such handle. -/
theorem perform_of_find? (ha : a.graph.Consistent) {u : Handle}
    (hu : operation.handles.find? (· ∉ a.graph.handles) = some u) :
    a.perform operation =
      if operation.isRemoval then ⟨.ok .done, a, [], []⟩ else a.refused u.unknown := by
  cases hremoval : operation.isRemoval with
  | false => exact perform_eq_refused ((answer_eq_error_iff ha).2 (refuses_of_find? hu hremoval))
  | true =>
    cases operation with
    | removeState s =>
      obtain ⟨hs, -⟩ := find?_singleton_eq_some_iff.1 hu
      rw [perform, Graph.removeState_of_not_mem (by simpa using hs)]
      rfl
    | removeTransition t =>
      obtain ⟨ht, -⟩ := find?_singleton_eq_some_iff.1 hu
      rw [perform, Graph.removeTransition_of_not_mem (by simpa using ht)]
      rfl
    | _ => simp [Operation.isRemoval] at hremoval

end Automaton

end NfaWorkbench
