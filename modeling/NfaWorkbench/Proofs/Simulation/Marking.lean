import NfaWorkbench.Proofs.Simulation.Frame
set_option autoImplicit false

/-!
# Simulation: marking

Which states are flagged after the flags of some states were written, and how many states are idle:
members that are not flagged.  Marking a list of states flags exactly its members, each once, and
takes each of them from the idle states.
-/

namespace NfaWorkbench.Graph

variable {g : Graph}

theorem mem_flaggedStates_iff {s : StateId} :
    s ∈ g.flaggedStates ↔ ∃ state, (s, state) ∈ g.states ∧ state.current = true :=
  Registry.mem_idsWhere_iff

theorem flaggedStates_subset {s : StateId} (hs : s ∈ g.flaggedStates) : s ∈ g.states.ids := by
  obtain ⟨state, hmem, _⟩ := mem_flaggedStates_iff.1 hs
  exact Registry.mem_ids_of_mem hmem

/-- A member is flagged exactly if its flag says so. -/
theorem Named.flagged_iff (hg : g.Named) {s : StateId} {state : State}
    (hs : (s, state) ∈ g.states) : s ∈ g.flaggedStates ↔ state.current = true :=
  Registry.mem_idsWhere_of_mem hg.stateIds_nodup hs

/-- Without a running simulation no state is flagged. -/
theorem Consistent.flaggedStates_eq_nil (hg : g.Consistent) (hactive : g.active = false) :
    g.flaggedStates = [] := by
  refine List.eq_nil_iff_forall_not_mem.2 ?_
  intro s hs
  obtain ⟨state, hmem, hcurrent⟩ := mem_flaggedStates_iff.1 hs
  simp [hg.idle hactive s state hmem] at hcurrent

/-- So the current states are the flagged ones whether or not a simulation is running. -/
theorem Consistent.currentStates_eq (hg : g.Consistent) : g.currentStates = g.flaggedStates := by
  unfold currentStates
  split
  · rfl
  · rename_i hidle
    exact (hg.flaggedStates_eq_nil (Bool.eq_false_iff.2 hidle)).symm

theorem Named.isIdle_iff (hg : g.Named) {s : StateId} :
    g.isIdle s = true ↔ s ∈ g.states.ids ∧ s ∉ g.flaggedStates := by
  rw [isIdle]
  cases hstate : g.state? s with
  | none => simp [Registry.get?_eq_none_iff.1 hstate]
  | some state =>
    have hs := hg.state?_eq_some_iff.1 hstate
    simp [hg.flagged_iff hs, Registry.mem_ids_of_mem hs]

/-! ## Writing flags -/

/-- Writing a flag is a change of the registry even where nothing flips. -/
theorem Named.setCurrent_graph (hg : g.Named) (s : StateId) (value : Bool) :
    (g.setCurrent s value).graph =
      g.modifyState s fun state => { state with current := value } := by
  unfold setCurrent
  split
  · rename_i hnone
    rw [modifyState, Registry.modify_of_not_mem (Registry.get?_eq_none_iff.1 hnone), Change.none]
  · rename_i state hsome
    split
    · rename_i hsame
      have hs := hg.state?_eq_some_iff.1 hsome
      have hstates :
          g.states.modify s (fun state => { state with current := value }) = g.states := by
        refine (List.map_congr_left ?_).trans (List.map_id _)
        rintro ⟨t, other⟩ ht
        by_cases hts : t = s
        · subst hts
          obtain rfl := hg.state_unique hs ht
          simp [← hsame]
        · simp [hts]
      rw [modifyState, hstates, Change.none]
    · rfl

theorem Named.mem_flaggedStates_setCurrent (hg : g.Named) {s t : StateId} {value : Bool} :
    t ∈ (g.setCurrent s value).graph.flaggedStates ↔
      if t = s then s ∈ g.states.ids ∧ value = true else t ∈ g.flaggedStates := by
  rw [hg.setCurrent_graph, mem_flaggedStates_iff]
  constructor
  · intro hgiven
    obtain ⟨state, hmem, hcurrent⟩ := hgiven
    obtain ⟨old, hold, rfl⟩ := mem_modifyState_iff.1 hmem
    by_cases hts : t = s
    · rw [if_pos hts] at hcurrent ⊢
      exact ⟨hts ▸ Registry.mem_ids_of_mem hold, hcurrent⟩
    · rw [if_neg hts] at hcurrent ⊢
      exact mem_flaggedStates_iff.2 ⟨old, hold, hcurrent⟩
  · by_cases hts : t = s
    · rw [if_pos hts]
      intro hgiven
      obtain ⟨hs, hvalue⟩ := hgiven
      obtain ⟨old, hold⟩ := Registry.mem_ids_iff.1 hs
      exact ⟨_, mem_modifyState_iff.2 ⟨old, hts ▸ hold, rfl⟩, by simp [hts, hvalue]⟩
    · rw [if_neg hts]
      intro ht
      obtain ⟨old, hold, hcurrent⟩ := mem_flaggedStates_iff.1 ht
      exact ⟨old, mem_modifyState_iff.2 ⟨old, hold, by rw [if_neg hts]⟩, hcurrent⟩

/-- Writing the flags of some states, each as `value` says: they are flagged as it says, the other
states as before. -/
theorem Named.mem_flaggedStates_each (hg : g.Named) (value : StateId → Bool) (l : List StateId)
    {t : StateId} :
    t ∈ (Change.each (fun g s => g.setCurrent s (value s)) l g).graph.flaggedStates ↔
      if t ∈ l then t ∈ g.states.ids ∧ value t = true else t ∈ g.flaggedStates := by
  induction l generalizing g with
  | nil => simp [Change.each, Change.none]
  | cons s rest ih =>
    have hframe := unmarked_setCurrent g s (value s)
    have hstep := ih (hg.of_unmarked_eq hframe)
    rw [ids_eq_of_unmarked_eq hframe, hg.mem_flaggedStates_setCurrent] at hstep
    simp only [Change.each, Change.andThen, hstep, List.mem_cons]
    by_cases hts : t = s
    · subst hts
      simp
    · simp [hts]

/-! ## Marking idle states -/

/-- The number of states that are not flagged. -/
def idleCount (g : Graph) : Nat := (g.states.idsWhere (!·.current)).length

theorem Named.idleCount_setCurrent (hg : g.Named) {s : StateId} (hs : g.isIdle s = true) :
    (g.setCurrent s true).graph.idleCount + 1 = g.idleCount := by
  obtain ⟨hmem, hfree⟩ := hg.isIdle_iff.1 hs
  obtain ⟨state, hstate⟩ := Registry.mem_ids_iff.1 hmem
  rw [hg.flagged_iff hstate, Bool.not_eq_true] at hfree
  have hcount := Registry.length_idsWhere_modify hg.stateIds_nodup hstate
    (fun state => { state with current := true }) (!·.current)
  simpa [hg.setCurrent_graph, idleCount, modifyState, hfree] using hcount

theorem Named.mem_flaggedStates_markIdle (hg : g.Named) (l : List StateId) {t : StateId} :
    t ∈ (markIdle l g).graph.flaggedStates ↔
      t ∈ g.flaggedStates ∨ (t ∈ l ∧ t ∈ g.states.ids) := by
  induction l generalizing g with
  | nil => simp [markIdle]
  | cons s rest ih =>
    rw [markIdle]
    split
    · rename_i hidle
      have hframe := unmarked_setCurrent g s true
      have hs := (hg.isIdle_iff.1 hidle).1
      simp only
      rw [ih (hg.of_unmarked_eq hframe), ids_eq_of_unmarked_eq hframe,
        hg.mem_flaggedStates_setCurrent, List.mem_cons]
      by_cases hts : t = s
      · subst hts
        simp [hs]
      · simp [hts]
    · rename_i hbusy
      rw [ih hg, List.mem_cons]
      by_cases hts : t = s
      · subst hts
        rw [hg.isIdle_iff] at hbusy
        grind
      · simp [hts]

/-- What is marked are the listed members that were idle. -/
theorem Named.mem_marked_markIdle (hg : g.Named) (l : List StateId) {t : StateId} :
    t ∈ (markIdle l g).marked ↔ t ∈ l ∧ t ∈ g.states.ids ∧ t ∉ g.flaggedStates := by
  induction l generalizing g with
  | nil => simp [markIdle]
  | cons s rest ih =>
    rw [markIdle]
    split
    · rename_i hidle
      have hframe := unmarked_setCurrent g s true
      have hs := hg.isIdle_iff.1 hidle
      simp only [List.mem_cons]
      rw [ih (hg.of_unmarked_eq hframe), ids_eq_of_unmarked_eq hframe,
        hg.mem_flaggedStates_setCurrent]
      by_cases hts : t = s
      · subst hts
        simp [hs]
      · simp [hts]
    · rename_i hbusy
      rw [ih hg, List.mem_cons]
      by_cases hts : t = s
      · subst hts
        rw [hg.isIdle_iff] at hbusy
        grind
      · simp [hts]

/-- Every state that is marked was idle, and is not any more. -/
theorem Named.idleCount_markIdle (hg : g.Named) (l : List StateId) :
    (markIdle l g).graph.idleCount + (markIdle l g).marked.length = g.idleCount := by
  induction l generalizing g with
  | nil => rfl
  | cons s rest ih =>
    rw [markIdle]
    split
    · rename_i hidle
      have hone := hg.idleCount_setCurrent hidle
      have hrest := ih (hg.of_unmarked_eq (unmarked_setCurrent g s true))
      simp only [List.length_cons]
      omega
    · exact ih hg

end NfaWorkbench.Graph
