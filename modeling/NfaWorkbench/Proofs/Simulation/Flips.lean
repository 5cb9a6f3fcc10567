import Mathlib.Algebra.Ring.Parity
import NfaWorkbench.Proofs.Simulation.Language
set_option autoImplicit false

/-!
# Simulation: flips

How often an operation of the simulation announces the current flag of a state.  Every write
announces a flip, so a pass that writes each flag once announces exactly the flags that differ
afterwards (`FlipsOnce`).  A step with an event makes two passes: what the closure flips, the move
along the event may flip back.  Such a state is announced twice though nothing is left to be seen
of it.
-/

namespace NfaWorkbench

namespace Change

variable {c : Change} {f : Graph → Change} {s : StateId}

/-- How often a change announces the current flag of a state. -/
def flips (c : Change) (s : StateId) : Nat := c.notes.count (.state s .current)

@[simp]
theorem flips_andThen : (c.andThen f).flips s = c.flips s + (f c.graph).flips s :=
  List.count_append

@[simp]
theorem flips_notify_simulationChanged : (c.notify .simulationChanged).flips s = c.flips s := by
  simp [flips, notify]

/-- A change announces current flags, and nothing else. -/
def SendsFlips (c : Change) : Prop := ∀ note ∈ c.notes, ∃ s, note = .state s .current

theorem sendsFlips_none (g : Graph) : (none g).SendsFlips := by
  simp [SendsFlips, none]

theorem SendsFlips.andThen (hc : c.SendsFlips) (hf : (f c.graph).SendsFlips) :
    (c.andThen f).SendsFlips :=
  List.forall_mem_append.2 ⟨hc, hf⟩

theorem sendsFlips_each {α : Type} {f : Graph → α → Change} (hf : ∀ g a, (f g a).SendsFlips)
    (l : List α) (g : Graph) : (each f l g).SendsFlips := by
  induction l generalizing g with
  | nil => exact sendsFlips_none g
  | cons a rest ih => exact (hf g a).andThen (ih _)

end Change

/-- Marking as a change. -/
def Graph.Marking.change (m : Graph.Marking) : Change := ⟨m.graph, m.notes⟩

namespace Graph

variable {g : Graph} {c : Change} {f : Graph → Change} {s t : StateId}

/-! ## Writing flags announces nothing else -/

theorem sendsFlips_setCurrent (g : Graph) (s : StateId) (value : Bool) :
    (g.setCurrent s value).SendsFlips := by
  unfold setCurrent
  split
  · exact Change.sendsFlips_none g
  · split
    · exact Change.sendsFlips_none g
    · simp [Change.SendsFlips]

theorem sendsFlips_markIdle (l : List StateId) (g : Graph) :
    (markIdle l g).change.SendsFlips := by
  induction l generalizing g with
  | nil => exact Change.sendsFlips_none g
  | cons s rest ih =>
    rw [markIdle]
    split
    · exact (sendsFlips_setCurrent g s true).andThen
        (f := fun g => (markIdle rest g).change) (ih _)
    · exact ih g

theorem sendsFlips_markFrom (fuel : Nat) (frontier : List StateId) (g : Graph) :
    (markFrom fuel frontier g).change.SendsFlips := by
  fun_induction markFrom fuel frontier g with
  | case1 => exact Change.sendsFlips_none _
  | case2 => exact Change.sendsFlips_none _
  | case3 fuel frontier g _ first later ih =>
    exact (sendsFlips_markIdle (g.targets frontier none) g).andThen
      (f := fun g => (markFrom fuel first.marked g).change) ih

theorem sendsFlips_close (g : Graph) : g.close.SendsFlips :=
  sendsFlips_markFrom g.passBound g.flaggedStates g

theorem sendsFlips_advance (g : Graph) (label : String) : (g.advance label).SendsFlips :=
  (Change.sendsFlips_each (fun g s => sendsFlips_setCurrent g s false) _ g).andThen
    (Change.sendsFlips_each (fun g s => sendsFlips_setCurrent g s true) _ _)

theorem sendsFlips_flagInitial (g : Graph) : g.flagInitial.SendsFlips :=
  Change.sendsFlips_each (fun g (e : StateId × Bool) => sendsFlips_setCurrent g e.1 e.2) _ _

/-! ## Passes that flip a flag once at most -/

/-- The states whose flag is another one afterwards are announced once, and no others. -/
def FlipsOnce (g : Graph) (c : Change) : Prop :=
  ∀ s, c.flips s = if s ∈ c.graph.flaggedStates ↔ s ∈ g.flaggedStates then 0 else 1

theorem flipsOnce_none : g.FlipsOnce (.none g) := by
  intro s
  simp [Change.none, Change.flips]

/-- Two passes that do not meet are like one. -/
theorem FlipsOnce.andThen (hc : g.FlipsOnce c) (hf : c.graph.FlipsOnce (f c.graph))
    (happart : ∀ s, (s ∈ c.graph.flaggedStates ↔ s ∈ g.flaggedStates) ∨
      (s ∈ (f c.graph).graph.flaggedStates ↔ s ∈ c.graph.flaggedStates)) :
    g.FlipsOnce (c.andThen f) := by
  intro s
  rw [Change.flips_andThen, hc s, hf s]
  rcases happart s with hsame | hsame
  · rw [if_pos hsame, Nat.zero_add]
    exact if_congr (iff_congr Iff.rfl hsame) rfl rfl
  · rw [if_pos hsame, Nat.add_zero]
    exact if_congr (iff_congr hsame.symm Iff.rfl) rfl rfl

/-- Two passes that only set flags do not meet. -/
theorem FlipsOnce.andThen_of_subset (hc : g.FlipsOnce c) (hf : c.graph.FlipsOnce (f c.graph))
    (hfirst : g.flaggedStates ⊆ c.graph.flaggedStates)
    (hsecond : c.graph.flaggedStates ⊆ (f c.graph).graph.flaggedStates) :
    g.FlipsOnce (c.andThen f) := by
  refine hc.andThen hf fun s => ?_
  by_cases hs : s ∈ c.graph.flaggedStates
  · exact .inr (iff_of_true (hsecond hs) hs)
  · exact .inl (iff_of_false hs fun hold => hs (hfirst hold))

theorem Named.flipsOnce_setCurrent (hg : g.Named) (s : StateId) (value : Bool) :
    g.FlipsOnce (g.setCurrent s value) := by
  intro t
  have hflagged : t ∈ (g.setCurrent s value).graph.flaggedStates ↔
      if t = s then s ∈ g.states.ids ∧ value = true else t ∈ g.flaggedStates :=
    hg.mem_flaggedStates_setCurrent
  unfold setCurrent at hflagged ⊢
  cases hstate : g.state? s with
  | none => exact flipsOnce_none t
  | some state =>
    have hs := hg.state?_eq_some_iff.1 hstate
    simp only [hstate] at hflagged ⊢
    split
    · exact flipsOnce_none t
    · rename_i hne
      rw [if_neg hne] at hflagged
      simp only [hflagged]
      by_cases hts : t = s
      · subst hts
        simp [Change.flips, Registry.mem_ids_of_mem hs, hg.flagged_iff hs, Ne.symm hne]
      · simp [Change.flips, hts, Ne.symm hts]

/-- Writing the flags of some states, each once, announces the flags that differ afterwards. -/
theorem Named.flipsOnce_each (hg : g.Named) (value : StateId → Bool) {l : List StateId}
    (hl : l.Nodup) : g.FlipsOnce (Change.each (fun g s => g.setCurrent s (value s)) l g) := by
  induction l generalizing g with
  | nil => exact flipsOnce_none
  | cons s rest ih =>
    obtain ⟨hs, hrest⟩ := List.nodup_cons.1 hl
    have hnext := hg.of_unmarked_eq (unmarked_setCurrent g s (value s))
    refine (hg.flipsOnce_setCurrent s (value s)).andThen (ih hnext hrest) fun t => ?_
    by_cases hts : t = s
    · rw [hnext.mem_flaggedStates_each value rest, if_neg (hts ▸ hs)]
      exact .inr Iff.rfl
    · rw [hg.mem_flaggedStates_setCurrent, if_neg hts]
      exact .inl Iff.rfl

/-! ## Following epsilon transitions -/

theorem Named.subset_markIdle (hg : g.Named) (l : List StateId) :
    g.flaggedStates ⊆ (markIdle l g).graph.flaggedStates :=
  fun _ hs => (hg.mem_flaggedStates_markIdle l).2 (.inl hs)

theorem Named.flipsOnce_markIdle (hg : g.Named) (l : List StateId) :
    g.FlipsOnce (markIdle l g).change := by
  induction l generalizing g with
  | nil => exact flipsOnce_none
  | cons s rest ih =>
    rw [markIdle]
    split
    · rename_i hidle
      have hnext := hg.of_unmarked_eq (unmarked_setCurrent g s true)
      refine (hg.flipsOnce_setCurrent s true).andThen_of_subset
        (f := fun g => (markIdle rest g).change) (ih hnext) ?_ (hnext.subset_markIdle rest)
      intro t ht
      rw [hg.mem_flaggedStates_setCurrent]
      split
      · exact ⟨(hg.isIdle_iff.1 hidle).1, rfl⟩
      · exact ht
    · exact ih hg

theorem Named.subset_markFrom (hg : g.Named) (fuel : Nat) (frontier : List StateId) :
    g.flaggedStates ⊆ (markFrom fuel frontier g).graph.flaggedStates := by
  fun_induction markFrom fuel frontier g with
  | case1 => exact List.Subset.refl _
  | case2 => exact List.Subset.refl _
  | case3 fuel frontier g _ first later =>
    rename_i ih
    have hnext : first.graph.Named := hg.of_unmarked_eq (unmarked_markIdle _ g)
    exact fun s hs => ih hnext (hg.subset_markIdle _ hs)

theorem Named.flipsOnce_markFrom (hg : g.Named) (fuel : Nat) (frontier : List StateId) :
    g.FlipsOnce (markFrom fuel frontier g).change := by
  fun_induction markFrom fuel frontier g with
  | case1 => exact flipsOnce_none
  | case2 => exact flipsOnce_none
  | case3 fuel frontier g _ first later ih =>
    have hnext : first.graph.Named := hg.of_unmarked_eq (unmarked_markIdle _ g)
    exact (hg.flipsOnce_markIdle _).andThen_of_subset
      (f := fun g => (markFrom fuel first.marked g).change) (ih hnext) (hg.subset_markIdle _)
      (hnext.subset_markFrom fuel first.marked)

theorem Named.flipsOnce_close (hg : g.Named) : g.FlipsOnce g.close :=
  hg.flipsOnce_markFrom g.passBound g.flaggedStates

/-! ## Operations -/

theorem Named.flipsOnce_reset (hg : g.Named) : g.FlipsOnce g.reset := by
  have hactive : { g with active := true }.Named := hg.congr rfl rfl rfl rfl
  have hwrite := hactive.flipsOnce_each (fun s => decide (s ∈ g.initialStates)) hg.stateIds_nodup
  rw [← hg.flagInitial_eq] at hwrite
  intro s
  exact Change.flips_notify_simulationChanged.trans (hwrite s)

theorem Named.flaggedStates_nodup (hg : g.Named) : g.flaggedStates.Nodup :=
  hg.stateIds_nodup.sublist (List.filter_sublist.map _)

/-- The states that are left and the states that are reached are different ones. -/
theorem Named.flipsOnce_advance (hg : g.Named) (label : String) :
    g.FlipsOnce (g.advance label) := by
  have hclear := hg.flipsOnce_each (fun _ => false)
    (hg.flaggedStates_nodup.filter fun s => !(g.reached label).contains s)
  have hframe := Change.each_eq (fun g s => unmarked_setCurrent g s false)
    (g.flaggedStates.filter fun s => !(g.reached label).contains s) g
  have hset := (hg.of_unmarked_eq hframe).flipsOnce_each (fun _ => true)
    (hg.stateIds_nodup.filter fun s => (g.targets g.flaggedStates (some label)).contains s)
  refine hclear.andThen hset fun s => ?_
  rw [(hg.of_unmarked_eq hframe).mem_flaggedStates_each]
  by_cases hs : s ∈ g.reached label
  · rw [hg.mem_flaggedStates_each, if_neg (by simp [hs])]
    exact .inl Iff.rfl
  · rw [if_neg (by exact hs)]
    exact .inr Iff.rfl

/-- A step announces every flag that differs afterwards once.  Beyond that it announces the flags
that the closure sets and the event clears again, each twice. -/
theorem Consistent.flips_step (hg : g.Consistent) (hactive : g.active = true)
    (event : Option String) (s : StateId) : (g.step event).flips s =
      if s ∈ (g.step event).graph.flaggedStates ↔ s ∈ g.flaggedStates then
        open Classical in
        if event ≠ none ∧ s ∉ g.flaggedStates ∧ s ∈ g.machine.εClosure g.marked then 2 else 0
      else 1 := by
  have hclosed : s ∈ g.close.graph.flaggedStates ↔ s ∈ g.machine.εClosure g.marked := by
    rw [← hg.marked_close hactive, mem_marked_iff]
  simp only [Graph.step, if_pos hactive, Change.flips_notify_simulationChanged]
  cases event with
  | none => simpa [Change.notify] using hg.flipsOnce_close s
  | some label =>
    have hnext := hg.of_unmarked_eq (unmarked_close g) hactive
    rw [Change.flips_andThen, hg.flipsOnce_close s, hnext.flipsOnce_advance label s]
    simp only [Change.notify, Change.andThen, ← hclosed]
    by_cases hbefore : s ∈ g.flaggedStates
    · have hkept := hg.subset_markFrom g.passBound g.flaggedStates hbefore
      simp [hbefore, show s ∈ g.close.graph.flaggedStates from hkept]
    · by_cases hpassed : s ∈ g.close.graph.flaggedStates <;>
        by_cases hafter : s ∈ (g.close.graph.advance label).graph.flaggedStates <;>
        simp [hbefore, hpassed, hafter]

end Graph

namespace Automaton

/-- How often one step announces the current flag of a state: once if the flag is another one
afterwards, and else not at all, but for one kind of state.  A step with an event announces a state
twice that was not current, that epsilon transitions lead to from the current states, and that the
event does not lead to. -/
theorem Reachable.count_current_step {a : Automaton} (h : a.Reachable)
    (hactive : a.graph.active = true) (event : Option String) (s : StateId) :
    (a.perform (.step event)).notes.count (.state s .current) =
      if s ∈ (a.perform (.step event)).automaton.graph.currentStates ↔
          s ∈ a.graph.currentStates then
        open Classical in
        if event ≠ none ∧ s ∉ a.graph.currentStates ∧
          s ∈ a.graph.machine.εClosure a.graph.marked then 2 else 0
      else 1 := by
  have hafter : (a.graph.step event).graph.active = true :=
    (Graph.active_eq_of_unmarked_eq (Graph.unmarked_step a.graph event)).trans hactive
  have hcurrent : (a.perform (.step event)).automaton.graph.currentStates =
      (a.graph.step event).graph.flaggedStates := if_pos hafter
  rw [hcurrent, Graph.currentStates, if_pos hactive]
  exact h.consistent.flips_step hactive event s

/-- The sample in its second state, from which an epsilon transition leads back to the first. -/
def sampleAhead : Automaton := (sample.perform (.step (some "y"))).automaton

theorem reachable_sampleAhead : sampleAhead.Reachable := reachable_sample.perform _

theorem sampleAhead_count_current_step : sampleAhead.Reachable ∧
    sampleAhead.graph.active = true ∧ sampleAhead.graph.currentStates = [⟨0, 2⟩] ∧
    (sampleAhead.perform (.step (some "y"))).automaton.graph.currentStates = [⟨0, 2⟩] ∧
    (sampleAhead.perform (.step (some "y"))).notes.count (.state ⟨0, 0⟩ .current) = 2 := by
  have hactive : sampleAhead.graph.active = true := by decide +kernel
  have hbefore : sampleAhead.graph.currentStates = [⟨0, 2⟩] := by decide +kernel
  have hafter : (sampleAhead.perform (.step (some "y"))).automaton.graph.currentStates =
      [⟨0, 2⟩] := by decide +kernel
  have hback : (⟨0, 0⟩ : StateId) ∈ sampleAhead.graph.machine.step ⟨0, 2⟩ none :=
    ⟨⟨0, 3⟩, by decide +kernel⟩
  have hmarked : (⟨0, 2⟩ : StateId) ∈ sampleAhead.graph.marked :=
    Graph.mem_marked_iff.2 (by decide +kernel)
  have hclosure := εNFA.εClosure.step _ _ hback (εNFA.subset_εClosure _ _ hmarked)
  refine ⟨reachable_sampleAhead, hactive, hbefore, hafter, ?_⟩
  rw [reachable_sampleAhead.count_current_step hactive, hbefore, hafter, if_pos Iff.rfl]
  exact if_pos ⟨by simp, by simp, hclosure⟩

/-- A step may announce a flag twice that is the same before and after. -/
theorem not_count_current_step_le_one : ¬∀ a : Automaton, a.Reachable → a.graph.active = true →
    ∀ event, ∀ s ∈ a.graph.states.ids,
      (a.perform (.step event)).notes.count (.state s .current) ≤ 1 ∧
      ((a.perform (.step event)).notes.count (.state s .current) = 1 ↔
        ¬(s ∈ (a.perform (.step event)).automaton.graph.currentStates ↔
          s ∈ a.graph.currentStates)) := by
  intro hall
  have hactive : sampleAhead.graph.active = true := by decide +kernel
  have hmember : ⟨0, 0⟩ ∈ sampleAhead.graph.states.ids := by decide +kernel
  have htwice :
      ¬(sampleAhead.perform (.step (some "y"))).notes.count (.state ⟨0, 0⟩ .current) ≤ 1 := by
    decide +kernel
  exact htwice (hall sampleAhead reachable_sampleAhead hactive (some "y") ⟨0, 0⟩ hmember).1

end Automaton

end NfaWorkbench
