import Mathlib.Data.Set.Card
import NfaWorkbench.Proofs.Simulation.Flips
set_option autoImplicit false

/-!
# Simulation: passes

Following epsilon transitions is a loop that goes on as long as the last pass has marked something.
`Sweeps` is this loop without a bound on its passes, and it counts them.  The measure that ends it
is the number of idle states, not the frontier, which grows and shrinks: every pass but the last
takes at least one state from the idle ones.  So the bound of `followEpsilon` cuts nothing off.

The loop marks each state of the closure once, behind a state that leads to it.
-/

namespace NfaWorkbench

namespace Graph

variable {g k : Graph} {s : StateId} {frontier : List StateId}

/-! ## The loop without a bound -/

/-- What the loop leaves behind, with the number of its passes and of the states it has marked. -/
structure Sweep where
  graph : Graph
  notes : List Notification
  passes : Nat
  added : Nat

/-- The loop goes on as long as there is a frontier.  What a pass has marked is the frontier of the
next pass and is added to the count. -/
inductive Sweeps : List StateId → Graph → Sweep → Prop
  | done (g : Graph) : Sweeps [] g ⟨g, [], 0, 0⟩
  | pass {frontier : List StateId} {g : Graph} {first : Marking} {later : Sweep}
      (hne : frontier ≠ []) (hfirst : markIdle (g.targets frontier none) g = first)
      (hlater : Sweeps first.marked first.graph later) :
      Sweeps frontier g
        ⟨later.graph, first.notes ++ later.notes, later.passes + 1,
          first.marked.length + later.added⟩

/-- The loop leaves nothing to chance. -/
theorem Sweeps.unique {v w : Sweep} (hv : Sweeps frontier g v) (hw : Sweeps frontier g w) :
    v = w := by
  induction hv generalizing w with
  | done g =>
    cases hw with
    | done => rfl
    | pass hne => exact absurd rfl hne
  | pass hne hfirst _ ih =>
    cases hw with
    | done => exact absurd rfl hne
    | pass _ hfirst' hlater' =>
      subst hfirst hfirst'
      rw [ih hlater']

/-- The loop ends, before the passes of `markFrom` are used up.  All passes but the last make idle
states current, so there is one pass more than idle states at most. -/
theorem Named.exists_sweeps (hg : g.Named) {fuel : Nat}
    (hfuel : frontier ≠ [] → g.idleCount < fuel) :
    ∃ passes, Sweeps frontier g
        ⟨(markFrom fuel frontier g).graph, (markFrom fuel frontier g).notes, passes,
          (markFrom fuel frontier g).marked.length⟩ ∧
      (frontier = [] → passes = 0) ∧ passes ≤ g.idleCount + 1 := by
  fun_induction markFrom fuel frontier g with
  | case1 frontier g =>
    have hnil : frontier = [] := by
      by_contra hne
      exact Nat.not_lt_zero _ (hfuel hne)
    subst hnil
    exact ⟨0, .done g, fun _ => rfl, Nat.zero_le _⟩
  | case2 fuel g => exact ⟨0, .done g, fun _ => rfl, Nat.zero_le _⟩
  | case3 fuel frontier g hne first later ih =>
    have hcount : first.graph.idleCount + first.marked.length = g.idleCount :=
      hg.idleCount_markIdle (g.targets frontier none)
    have hbound := hfuel hne
    have hspent : first.marked ≠ [] → first.graph.idleCount < g.idleCount := by
      intro hmarked
      have hpos := List.length_pos_iff.2 hmarked
      omega
    obtain ⟨passes, hlater, hlast, hpasses⟩ := ih (hg.of_unmarked_eq (unmarked_markIdle _ g))
      fun hmarked => (hspent hmarked).trans_le (Nat.le_of_lt_succ hbound)
    refine ⟨passes + 1, ?_, fun hnil => absurd hnil hne, ?_⟩
    · rw [List.length_append]
      exact .pass hne rfl hlater
    · by_cases hmarked : first.marked = []
      · rw [hlast hmarked]
        omega
      · have hless := hspent hmarked
        omega

/-! ## What is announced -/

theorem notes_setCurrent_of_isIdle (h : g.isIdle s = true) :
    (g.setCurrent s true).notes = [.state s .current] := by
  obtain ⟨state, hstate, hidle⟩ := (Option.any_eq_true _ _).1 h
  have hclear : state.current = false := by simpa using hidle
  simp [setCurrent, hstate, hclear]

/-- Every state that is marked is announced, in the order of marking, and nothing else. -/
theorem notes_markIdle (l : List StateId) (g : Graph) :
    (markIdle l g).notes = (markIdle l g).marked.map (.state · .current) := by
  induction l generalizing g with
  | nil => rfl
  | cons s rest ih =>
    rw [markIdle]
    split
    · rename_i hidle
      simp only [notes_setCurrent_of_isIdle hidle, ih, List.map_cons, List.singleton_append]
    · exact ih g

theorem notes_markFrom (fuel : Nat) (frontier : List StateId) (g : Graph) :
    (markFrom fuel frontier g).notes =
      (markFrom fuel frontier g).marked.map (.state · .current) := by
  fun_induction markFrom fuel frontier g with
  | case1 => rfl
  | case2 => rfl
  | case3 fuel frontier g _ first later ih =>
    have hfirst : first.notes = _ := notes_markIdle (g.targets frontier none) g
    rw [hfirst, ih, List.map_append]

/-- So a state is marked as often as its flag is announced. -/
theorem count_marked_followEpsilon (g : Graph) (s : StateId) :
    g.followEpsilon.marked.count s = g.close.flips s := by
  have hinjective : Function.Injective (Notification.state · .current) :=
    fun _ _ h => (Notification.state.inj h).1
  have hnotes : g.close.notes = g.followEpsilon.marked.map (.state · .current) :=
    notes_markFrom g.passBound g.flaggedStates g
  rw [Change.flips, hnotes, List.count_map_of_injective _ _ hinjective]

theorem Named.nodup_marked_followEpsilon (hg : g.Named) : g.followEpsilon.marked.Nodup := by
  rw [List.nodup_iff_count_le_one]
  intro s
  rw [count_marked_followEpsilon, hg.flipsOnce_close s]
  split <;> omega

/-- The states that are marked are those that are flagged afterwards and were not before. -/
theorem Named.mem_marked_followEpsilon (hg : g.Named) : s ∈ g.followEpsilon.marked ↔
    s ∈ g.close.graph.flaggedStates ∧ s ∉ g.flaggedStates := by
  have hkept : s ∈ g.flaggedStates → s ∈ g.close.graph.flaggedStates :=
    fun hs => hg.subset_markFrom g.passBound g.flaggedStates hs
  rw [← List.count_pos_iff, count_marked_followEpsilon, hg.flipsOnce_close s]
  split <;> rename_i hsame <;> simp <;> tauto

/-! ## The order of marking -/

/-- An epsilon transition leads to every state of the list, from a flagged state or from one that
stands before it. -/
def Chained (g : Graph) (l : List StateId) : Prop :=
  ∀ before s after, l = before ++ s :: after →
    ∃ t, (t ∈ g.flaggedStates ∨ t ∈ before) ∧ s ∈ g.machine.step t none

/-- Two chains make one if the second begins at the states of the first. -/
theorem Chained.append {first second : List StateId} (hfirst : g.Chained first)
    (hsecond : k.Chained second) (hmachine : k.machine = g.machine)
    (hflagged : ∀ t ∈ k.flaggedStates, t ∈ g.flaggedStates ∨ t ∈ first) :
    g.Chained (first ++ second) := by
  intro before s after heq
  obtain ⟨between, rfl, hrest⟩ | ⟨between, hfront, hrest⟩ := List.append_eq_append_iff.1 heq
  · obtain ⟨t, ht, hstep⟩ := hsecond between s after hrest
    refine ⟨t, ?_, hmachine ▸ hstep⟩
    rcases ht with ht | ht
    · exact (hflagged t ht).imp_right (List.mem_append_left _)
    · exact .inr (List.mem_append_right _ ht)
  · cases between with
    | nil =>
      obtain ⟨t, ht, hstep⟩ := hsecond [] s after hrest.symm
      obtain rfl : first = before := by simpa using hfront
      exact ⟨t, by simpa using hflagged t (by simpa using ht), hmachine ▸ hstep⟩
    | cons other between =>
      obtain ⟨rfl, -⟩ := List.cons.inj hrest
      exact hfirst before s between hfront

/-- What a pass marks are targets of the frontier. -/
theorem Consistent.chained_markIdle (hg : g.Consistent)
    (hfrontier : ∀ t ∈ frontier, t ∈ g.flaggedStates) :
    g.Chained (markIdle (g.targets frontier none) g).marked := by
  intro before s after heq
  have hmarked : s ∈ (markIdle (g.targets frontier none) g).marked := by simp [heq]
  have htarget := ((hg.mem_marked_markIdle (g.targets frontier none)).1 hmarked).1
  obtain ⟨t, ht, hstep⟩ := hg.mem_targets_iff.1 htarget
  exact ⟨t, .inl (hfrontier t ht), hstep⟩

theorem Consistent.chained_markFrom (hg : g.Consistent) (hactive : g.active = true) (fuel : Nat)
    (hfrontier : ∀ t ∈ frontier, t ∈ g.flaggedStates) :
    g.Chained (markFrom fuel frontier g).marked := by
  fun_induction markFrom fuel frontier g with
  | case1 => simp [Chained]
  | case2 => simp [Chained]
  | case3 fuel frontier g _ first later ih =>
    have hframe : first.graph.unmarked = g.unmarked := unmarked_markIdle _ g
    have hflagged : ∀ t, t ∈ first.graph.flaggedStates ↔ _ :=
      fun t => hg.mem_flaggedStates_markIdle (g.targets frontier none)
    have hmarked : ∀ t, t ∈ first.marked ↔ _ :=
      fun t => hg.mem_marked_markIdle (g.targets frontier none)
    have hlater := ih (hg.of_unmarked_eq hframe hactive)
      ((active_eq_of_unmarked_eq hframe).trans hactive) fun t ht => by
        obtain ⟨htarget, hmember, -⟩ := (hmarked t).1 ht
        exact (hflagged t).2 (.inr ⟨htarget, hmember⟩)
    refine (hg.chained_markIdle hfrontier).append hlater (machine_eq_of_unmarked_eq hframe) ?_
    intro t ht
    by_cases hold : t ∈ g.flaggedStates
    · exact .inl hold
    · obtain ⟨htarget, hmember⟩ := ((hflagged t).1 ht).resolve_left hold
      exact .inr ((hmarked t).2 ⟨htarget, hmember, hold⟩)

/-! ## Without a running simulation -/

theorem followEpsilon_of_flaggedStates_eq_nil (h : g.flaggedStates = []) :
    g.followEpsilon = ⟨g, [], []⟩ := by
  rw [followEpsilon, h]
  rfl

/-- Following epsilon transitions makes the closure current whether or not a simulation is running:
without one there is nothing to start from. -/
theorem Consistent.marked_followEpsilon (hg : g.Consistent) :
    g.followEpsilon.graph.marked = g.machine.εClosure g.marked := by
  cases hactive : g.active with
  | true => exact hg.marked_close hactive
  | false =>
    have hnone := hg.flaggedStates_eq_nil hactive
    have hempty : g.marked = ∅ := by simp [marked, hnone]
    rw [followEpsilon_of_flaggedStates_eq_nil hnone, hempty, εNFA.εClosure_empty]

theorem Consistent.chained_followEpsilon (hg : g.Consistent) :
    g.Chained g.followEpsilon.marked := by
  cases hactive : g.active with
  | true => exact hg.chained_markFrom hactive _ fun t ht => ht
  | false =>
    rw [followEpsilon_of_flaggedStates_eq_nil (hg.flaggedStates_eq_nil hactive)]
    simp [Chained]

/-! ## The count -/

theorem encard_setOf_mem {l : List StateId} (h : l.Nodup) : {s | s ∈ l}.encard = l.length := by
  rw [← List.coe_toFinset, Set.encard_coe_eq_coe_finsetCard, List.toFinset_card_of_nodup h]

/-- The closure has as many states more than the current ones as states were marked. -/
theorem Consistent.encard_εClosure (hg : g.Consistent) :
    (g.machine.εClosure g.marked).encard = g.marked.encard + g.followEpsilon.marked.length := by
  have hunion : g.machine.εClosure g.marked = g.marked ∪ {s | s ∈ g.followEpsilon.marked} := by
    ext s
    have hclosed := Set.ext_iff.1 hg.marked_followEpsilon s
    have hold : s ∈ g.marked → s ∈ g.machine.εClosure g.marked :=
      fun hs => g.machine.subset_εClosure _ hs
    rw [Set.mem_union, Set.mem_ofPred_eq, hg.mem_marked_followEpsilon]
    simp only [mem_marked_iff] at hclosed hold ⊢
    change s ∈ g.close.graph.flaggedStates ↔ _ at hclosed
    tauto
  have hdisjoint : Disjoint g.marked {s | s ∈ g.followEpsilon.marked} := by
    rw [Set.disjoint_left]
    intro s hs hmarked
    exact (hg.mem_marked_followEpsilon.1 hmarked).2 hs
  rw [hunion, Set.encard_union_eq hdisjoint, encard_setOf_mem hg.nodup_marked_followEpsilon]

end Graph

namespace Automaton

/-- Following epsilon transitions ends on every graph, after one pass more than idle states at most,
and makes the epsilon closure of the current states current.  It announces every state that it adds
once, behind a state that leads to it, and nothing else; and it counts these states: so many has the
closure more than there were current states. -/
theorem Reachable.followEpsilon_ends {a : Automaton} (h : a.Reachable) :
    ∃ passes ≤ a.graph.idleCount + 1,
      (∀ w, Graph.Sweeps a.graph.flaggedStates a.graph w ↔
        w = ⟨a.graph.followEpsilon.graph, a.graph.followEpsilon.notes, passes,
          a.graph.followEpsilon.marked.length⟩) ∧
      a.graph.followEpsilon.graph.marked = a.graph.machine.εClosure a.graph.marked ∧
      a.graph.followEpsilon.notes = a.graph.followEpsilon.marked.map (.state · .current) ∧
      a.graph.followEpsilon.marked.Nodup ∧
      (∀ s, s ∈ a.graph.followEpsilon.marked ↔
        s ∈ a.graph.followEpsilon.graph.flaggedStates ∧ s ∉ a.graph.flaggedStates) ∧
      a.graph.Chained a.graph.followEpsilon.marked ∧
      (a.graph.machine.εClosure a.graph.marked).encard =
        a.graph.marked.encard + a.graph.followEpsilon.marked.length := by
  have hg := h.consistent
  have hfuel : a.graph.flaggedStates ≠ [] → a.graph.idleCount < a.graph.idleCount + 1 :=
    fun _ => Nat.lt_succ_self _
  obtain ⟨passes, hsweeps, -, hpasses⟩ := hg.exists_sweeps hfuel
  refine ⟨passes, hpasses, fun w => ?_, hg.marked_followEpsilon,
    Graph.notes_markFrom _ _ a.graph, hg.nodup_marked_followEpsilon,
    fun s => hg.mem_marked_followEpsilon, hg.chained_followEpsilon, hg.encard_εClosure⟩
  constructor
  · exact fun hw => hw.unique hsweeps
  · rintro rfl
    exact hsweeps

/-- Three states in a circle of epsilon transitions with a short cut and a loop, one of them
current. -/
def circle : Automaton := (empty 0).performAll
  [.createState "a" default, .createState "b" default, .createState "c" default,
    .createTransition ⟨0, 0⟩ ⟨0, 1⟩ none, .createTransition ⟨0, 0⟩ ⟨0, 2⟩ none,
    .createTransition ⟨0, 1⟩ ⟨0, 2⟩ none, .createTransition ⟨0, 2⟩ ⟨0, 2⟩ none,
    .createTransition ⟨0, 2⟩ ⟨0, 0⟩ none, .setInitial ⟨0, 1⟩ true, .reset]

/-- Two states are idle, so there are three passes at most. -/
theorem circle_followEpsilon_ends : circle.Reachable ∧ circle.graph.idleCount = 2 ∧
    (∃ passes ≤ 3, ∀ w, Graph.Sweeps circle.graph.flaggedStates circle.graph w ↔
      w = ⟨circle.graph.followEpsilon.graph,
        [.state ⟨0, 2⟩ .current, .state ⟨0, 0⟩ .current], passes, 2⟩) ∧
    circle.graph.Chained [⟨0, 2⟩, ⟨0, 0⟩] ∧
    (circle.graph.machine.εClosure circle.graph.marked).encard =
      circle.graph.marked.encard + 2 := by
  have hreachable : circle.Reachable := (Reachable.empty 0).performAll _
  have hidle : circle.graph.idleCount = 2 := by decide +kernel
  have hmarked : circle.graph.followEpsilon.marked = [⟨0, 2⟩, ⟨0, 0⟩] := by decide +kernel
  obtain ⟨passes, hpasses, hsweeps, -, hnotes, -, -, hchained, hcount⟩ :=
    hreachable.followEpsilon_ends
  rw [hidle] at hpasses
  rw [hnotes, hmarked] at hsweeps
  rw [hmarked] at hchained hcount
  exact ⟨hreachable, hidle, ⟨passes, hpasses, hsweeps⟩, hchained, hcount⟩

end Automaton

end NfaWorkbench
