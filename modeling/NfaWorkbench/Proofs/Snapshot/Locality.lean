import NfaWorkbench.Proofs.Snapshot.Requests
set_option autoImplicit false

/-!
# Snapshots: edits keep to their names

An edit by name looks at what bears the names that it mentions, and touches nothing else.  So the part
of a snapshot that bears some names serves an edit that mentions no others as the whole snapshot does,
and an edit that mentions none of them passes the part by.
-/

namespace NfaWorkbench

namespace NamedRequest

/-- The requests that create, change or remove one state or one transition. -/
def isEdit : NamedRequest → Bool
  | createState .. | removeState _ | setInitial .. | setFinal .. | moveBy .. => true
  | createTransition _ | removeTransition _ => true
  | _ => false

/-- The names that a request mentions. -/
def names : NamedRequest → List String
  | createState name _ => [name]
  | removeState name => [name]
  | setInitial name _ => [name]
  | setFinal name _ => [name]
  | moveBy name _ _ => [name]
  | createTransition t => [t.source, t.target]
  | removeTransition t => [t.source, t.target]
  | findTransitions source target => [source, target]
  | _ => []

end NamedRequest

namespace Snapshot

variable {s k : Snapshot} {names : List String} {name : String} {t : TransitionSnapshot}
  {r : NamedRequest}

/-- The part of a snapshot that bears some names: the states with these names and the transitions
between them. -/
def part (s : Snapshot) (names : List String) : Snapshot :=
  { s with
    states := s.states.filter (·.name ∈ names)
    transitions := s.transitions.filter fun t => t.source ∈ names ∧ t.target ∈ names }

/-! ## What a part shows -/

theorem mem_states_part_iff {v : StateSnapshot} :
    v ∈ (s.part names).states ↔ v ∈ s.states ∧ v.name ∈ names := by
  simp [part]

theorem mem_transitions_part_iff :
    t ∈ (s.part names).transitions ↔
      t ∈ s.transitions ∧ t.source ∈ names ∧ t.target ∈ names := by
  simp [part]

theorem mem_names_part_iff : name ∈ (s.part names).names ↔ name ∈ s.names ∧ name ∈ names := by
  simp only [Snapshot.names, List.mem_map, mem_states_part_iff]
  constructor
  · rintro ⟨v, ⟨hv, hname⟩, rfl⟩
    exact ⟨⟨v, hv, rfl⟩, hname⟩
  · rintro ⟨⟨v, hv, rfl⟩, hname⟩
    exact ⟨v, ⟨hv, hname⟩, rfl⟩

/-! ## What a change makes of a part -/

theorem part_addState (position : Position) (hname : name ∈ names) :
    (s.addState name position).part names = (s.part names).addState name position := by
  simp [part, addState, hname]

theorem part_modifyState {f : StateSnapshot → StateSnapshot} (hf : ∀ v, (f v).name = v.name) :
    (s.modifyState name f).part names = (s.part names).modifyState name f := by
  refine Snapshot.ext rfl ?_ rfl
  simp only [part, modifyState, List.filter_map]
  congr 1
  apply List.filter_congr
  intro v _
  by_cases hv : v.name = name <;> simp [hv, hf]

theorem part_withoutState :
    (s.withoutState name).part names = (s.part names).withoutState name := by
  simp only [part, withoutState, List.filter_filter, Bool.and_comm]

theorem part_addTransition (hsource : t.source ∈ names) (htarget : t.target ∈ names) :
    (s.addTransition t).part names = (s.part names).addTransition t := by
  simp [part, addTransition, hsource, htarget]

theorem part_withoutTransition :
    (s.withoutTransition t).part names = (s.part names).withoutTransition t := by
  simp only [part, withoutTransition, List.filter_filter, Bool.and_comm]

/-! ## What an edit does -/

/-- What an edit can make of a snapshot. -/
inductive Edits (s : Snapshot) : NamedRequest → Snapshot → Prop
  | nothing (r : NamedRequest) : Edits s r s
  | addState (name : String) (position : Position) :
      Edits s (.createState name position) (s.addState name position)
  | modifyState {r : NamedRequest} {name : String} {f : StateSnapshot → StateSnapshot}
      (hnames : r.names = [name]) (hf : ∀ v, (f v).name = v.name) :
      Edits s r (s.modifyState name f)
  | withoutState (name : String) : Edits s (.removeState name) (s.withoutState name)
  | addTransition (t : TransitionSnapshot) : Edits s (.createTransition t) (s.addTransition t)
  | withoutTransition (t : TransitionSnapshot) :
      Edits s (.removeTransition t) (s.withoutTransition t)

theorem edits_serve (s : Snapshot) (hedit : r.isEdit) : Edits s r (s.serve r).2 := by
  have hstate : ∀ {name served}, Edits s r served.2 → Edits s r (s.atState name served).2 := by
    intro name served hserved
    unfold atState
    split
    · exact hserved
    · exact .nothing r
  have hstates : ∀ {source target served}, Edits s r served.2 →
      Edits s r (s.atStates source target served).2 := by
    intro source target served hserved
    unfold atStates
    split
    · exact hserved
    · exact .nothing r
  cases r with
  | createState name position =>
    simp only [serve, Snapshot.createState]
    split
    · exact .nothing _
    · split
      · exact .nothing _
      · exact .addState name position
  | removeState name => exact hstate (.withoutState name)
  | setInitial name value => exact hstate (.modifyState rfl fun _ => rfl)
  | setFinal name value => exact hstate (.modifyState rfl fun _ => rfl)
  | moveBy name dx dy => exact hstate (.modifyState rfl fun _ => rfl)
  | createTransition t =>
    refine hstates ?_
    unfold Snapshot.createTransition
    split
    · exact .nothing _
    · split
      · exact .nothing _
      · exact .addTransition t
  | removeTransition t =>
    refine hstates ?_
    split
    · exact .withoutTransition t
    · exact .nothing _
  | _ => simp [NamedRequest.isEdit] at hedit

/-! ## Edits of others -/

/-- An edit that mentions none of the names of a part leaves the part as it is. -/
theorem part_serve_of_disjoint (s : Snapshot) (hedit : r.isEdit)
    (hapart : r.names.Disjoint names) : (s.serve r).2.part names = s.part names := by
  have hedits := edits_serve s hedit
  generalize (s.serve r).2 = k at hedits
  cases hedits with
  | nothing => rfl
  | addState name position =>
    have hname : name ∉ names := hapart (by simp [NamedRequest.names])
    simp [part, Snapshot.addState, hname]
  | @modifyState _ name f hnames hf =>
    have hname : name ∉ names := hapart (by simp [hnames])
    have hother : ∀ v ∈ (s.part names).states, v.name ≠ name := by
      rintro v hv rfl
      exact hname (mem_states_part_iff.1 hv).2
    rw [part_modifyState hf]
    refine Snapshot.ext rfl ?_ rfl
    refine (List.map_congr_left fun v hv => ?_).trans (List.map_id _)
    rw [if_neg (hother v hv), id]
  | withoutState name =>
    have hname : name ∉ names := hapart (by simp [NamedRequest.names])
    rw [part_withoutState]
    refine Snapshot.ext rfl ?_ ?_
    · refine List.filter_eq_self.2 fun v hv => ?_
      have hne : v.name ≠ name := fun heq => hname (heq ▸ (mem_states_part_iff.1 hv).2)
      simp [hne]
    · refine List.filter_eq_self.2 fun t ht => ?_
      obtain ⟨-, hsource, htarget⟩ := mem_transitions_part_iff.1 ht
      have hsource' : t.source ≠ name := fun heq => hname (heq ▸ hsource)
      have htarget' : t.target ≠ name := fun heq => hname (heq ▸ htarget)
      simp [hsource', htarget']
  | addTransition t =>
    have hsource : t.source ∉ names := hapart (by simp [NamedRequest.names])
    simp [part, Snapshot.addTransition, hsource]
  | withoutTransition t =>
    have hsource : t.source ∉ names := hapart (by simp [NamedRequest.names])
    rw [part_withoutTransition]
    refine Snapshot.ext rfl rfl (List.filter_eq_self.2 fun u hu => ?_)
    have hne : u ≠ t := fun heq => hsource (heq ▸ (mem_transitions_part_iff.1 hu).2.1)
    simp [hne]

/-! ## Edits of one's own -/

/-- The reply to a request and the part of the snapshot afterwards. -/
def partOf (names : List String) (served : NamedReply × Snapshot) : NamedReply × Snapshot :=
  (served.1, served.2.part names)

theorem atState_part (hname : name ∈ names) (served : NamedReply × Snapshot) :
    (s.part names).atState name (partOf names served) = partOf names (s.atState name served) := by
  simp only [atState, mem_names_part_iff, hname, and_true]
  split <;> rfl

/-- A change of a state with one of the names. -/
theorem atState_part_modifyState {f : StateSnapshot → StateSnapshot} (hname : name ∈ names)
    (hf : ∀ v, (f v).name = v.name) :
    (s.part names).atState name (.done, (s.part names).modifyState name f) =
      partOf names (s.atState name (.done, s.modifyState name f)) := by
  rw [← atState_part hname, partOf, part_modifyState hf]

theorem atStates_part {source target : String} (hsource : source ∈ names)
    (htarget : target ∈ names) (served : NamedReply × Snapshot) :
    (s.part names).atStates source target (partOf names served) =
      partOf names (s.atStates source target served) := by
  simp only [atStates, mem_names_part_iff, hsource, htarget, and_true]
  split <;> rfl

/-- The part that bears the names of an edit serves it as the whole snapshot does. -/
theorem serve_part (s : Snapshot) (hedit : r.isEdit) (hnames : r.names ⊆ names) :
    (s.part names).serve r = partOf names (s.serve r) := by
  cases r with
  | createState name position =>
    have hname : name ∈ names := hnames (by simp [NamedRequest.names])
    simp only [serve, Snapshot.createState, mem_names_part_iff, hname, and_true]
    split
    · rfl
    · split
      · rfl
      · rw [partOf, part_addState position hname]
  | removeState name =>
    have hname : name ∈ names := hnames (by simp [NamedRequest.names])
    rw [serve, serve, ← atState_part hname, partOf, part_withoutState]
  | setInitial name value =>
    exact atState_part_modifyState (hnames (by simp [NamedRequest.names])) fun _ => rfl
  | setFinal name value =>
    exact atState_part_modifyState (hnames (by simp [NamedRequest.names])) fun _ => rfl
  | moveBy name dx dy =>
    exact atState_part_modifyState (hnames (by simp [NamedRequest.names])) fun _ => rfl
  | createTransition t =>
    have hsource : t.source ∈ names := hnames (by simp [NamedRequest.names])
    have htarget : t.target ∈ names := hnames (by simp [NamedRequest.names])
    rw [serve, serve, ← atStates_part hsource htarget]
    congr 1
    simp only [Snapshot.createTransition, mem_transitions_part_iff, hsource, htarget, and_true]
    split
    · rfl
    · split
      · rfl
      · rw [partOf, part_addTransition hsource htarget]
  | removeTransition t =>
    have hsource : t.source ∈ names := hnames (by simp [NamedRequest.names])
    have htarget : t.target ∈ names := hnames (by simp [NamedRequest.names])
    rw [serve, serve, ← atStates_part hsource htarget]
    simp only [mem_transitions_part_iff, hsource, htarget, and_true]
    split
    · rw [partOf, part_withoutTransition]
    · rfl
  | _ => simp [NamedRequest.isEdit] at hedit

/-! ## Everything bears a name -/

/-- Every state bears a name of one of several groups, and the ends of every transition bear names of
one and the same group. -/
structure Within {ι : Type} (s : Snapshot) (groups : ι → List String) : Prop where
  states : ∀ v ∈ s.states, ∃ i, v.name ∈ groups i
  transitions : ∀ t ∈ s.transitions, ∃ i, t.source ∈ groups i ∧ t.target ∈ groups i

variable {ι : Type} {groups : ι → List String}

/-- An edit that mentions names of one group brings nothing without a group. -/
theorem Within.serve (h : s.Within groups) (hedit : r.isEdit) {i : ι}
    (hnames : r.names ⊆ groups i) : (s.serve r).2.Within groups := by
  have hedits := edits_serve s hedit
  generalize (s.serve r).2 = k at hedits
  cases hedits with
  | nothing => exact h
  | addState name position =>
    refine ⟨fun v hv => ?_, h.transitions⟩
    rcases List.mem_append.1 hv with hv | hv
    · exact h.states v hv
    · obtain rfl := List.mem_singleton.1 hv
      exact ⟨i, hnames (by simp [NamedRequest.names])⟩
  | modifyState _ hf =>
    refine ⟨fun v hv => ?_, h.transitions⟩
    obtain ⟨w, hw, rfl⟩ := List.mem_map.1 hv
    obtain ⟨j, hj⟩ := h.states w hw
    refine ⟨j, ?_⟩
    split
    · rwa [hf]
    · exact hj
  | withoutState name =>
    exact ⟨fun v hv => h.states v (List.mem_filter.1 hv).1,
      fun t ht => h.transitions t (List.mem_filter.1 ht).1⟩
  | addTransition t =>
    refine ⟨h.states, fun u hu => ?_⟩
    rcases List.mem_append.1 hu with hu | hu
    · exact h.transitions u hu
    · obtain rfl := List.mem_singleton.1 hu
      exact ⟨i, hnames (by simp [NamedRequest.names]), hnames (by simp [NamedRequest.names])⟩
  | withoutTransition t =>
    exact ⟨h.states, fun u hu => h.transitions u (List.mem_filter.1 hu).1⟩

end Snapshot

end NfaWorkbench
