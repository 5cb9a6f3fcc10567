import NfaWorkbench.Proofs.Graph.Consistency
set_option autoImplicit false

/-!
# Graph: creating and changing

When a graph accepts a new state, a new transition or a change of a state, what it is afterwards,
and that it stays consistent.
-/

namespace NfaWorkbench.Graph

variable {g : Graph}

theorem Consistent.empty (owner : Nat) : (empty owner).Consistent where
  states_ascending := .nil
  state_issued := by simp [Graph.empty, Registry.ids]
  name_valid := by simp [Graph.empty]
  findState_eq_some_iff := by simp [Graph.empty, findState]
  transitions_ascending := .nil
  transition_issued := by simp [Graph.empty, Registry.ids]
  endpoints := by simp [Graph.empty]
  label_valid := by simp [Graph.empty]
  edge_unique := by simp [Graph.empty]
  outgoing_eq := by simp [Graph.empty]
  incoming_eq := by simp [Graph.empty]
  idle := by simp [Graph.empty]

/-! ## When an operation is accepted -/

theorem createState_eq_ok_iff {name : String} {position : Position} {r : StateId × Change} :
    g.createState name position = .ok r ↔
      IsName name ∧ g.names.contains name = false ∧
        r = (g.nextStateId, ⟨g.addState name position, [.statesChanged]⟩) := by
  unfold createState
  cases hname : nameFault? name with
  | some fault => simp [← nameFault?_eq_none_iff, hname]
  | none =>
    cases hindex : g.names.contains name <;>
      simp [← nameFault?_eq_none_iff, hname, eq_comm]

theorem changeState_eq_ok_iff {s : StateId} {aspect : StateAspect} {f : State → State}
    {c : Change} : g.changeState s aspect f = .ok c ↔
      s ∈ g.states.ids ∧ c = ⟨g.modifyState s f, [.state s aspect]⟩ := by
  unfold changeState
  cases hs : g.hasState s <;> simp [← hasState_iff, hs, eq_comm]

theorem labelError?_eq_none_iff {label : Option String} :
    labelError? label = none ↔ ∀ word, label = some word → IsLabel word := by
  cases label with
  | none => simp [labelError?]
  | some word => simp [labelError?, labelFault?_eq_none_iff]

theorem hasEdge_iff {source target : StateId} {label : Option String} :
    g.hasEdge source target label = true ↔ ∃ t, (t, ⟨source, target, label⟩) ∈ g.transitions := by
  simp only [hasEdge, List.any_eq_true, decide_eq_true_eq, Prod.exists]
  constructor
  · intro hgiven
    obtain ⟨t, transition, ht, rfl, rfl, rfl⟩ := hgiven
    exact ⟨t, ht⟩
  · intro hgiven
    obtain ⟨t, ht⟩ := hgiven
    exact ⟨t, _, ht, rfl, rfl, rfl⟩

theorem createTransition_eq_ok_iff {source target : StateId} {label : Option String}
    {r : TransitionId × Change} :
    g.createTransition source target label = .ok r ↔
      source ∈ g.states.ids ∧ target ∈ g.states.ids ∧
        (∀ word, label = some word → IsLabel word) ∧ g.hasEdge source target label = false ∧
        r = (g.nextTransitionId, ⟨g.addTransition source target label, [.transitionsChanged]⟩) := by
  rw [createTransition, ← labelError?_eq_none_iff, ← hasState_iff, ← hasState_iff]
  cases g.hasState source
  · simp
  cases g.hasState target
  · simp
  cases labelError? label with
  | some error => simp
  | none => cases g.hasEdge source target label <;> simp [eq_comm]

/-! ## One more state -/

theorem findState_addState (name word : String) (position : Position) :
    (g.addState name position).findState word =
      if name = word then some g.nextStateId else g.findState word := by
  simp [findState, addState, Std.ExtTreeMap.getElem?_insert]

theorem Named.addState (hg : g.Named) {name : String} (hname : IsName name)
    (hfree : g.names.contains name = false) (position : Position) :
    (g.addState name position).Named := by
  have hfresh : ∀ s state, (s, state) ∈ g.states → state.name ≠ name := by
    intro s state hs heq
    have hknown : g.names.contains name = true := (hg.names_contains_iff name).2 ⟨s, state, hs, heq⟩
    simp [hknown] at hfree
  constructor
  · simp only [Graph.addState, Registry.ids_add]
    refine List.pairwise_append.2 ⟨hg.states_ascending, List.pairwise_singleton _ _, ?_⟩
    intro s hs t ht
    obtain rfl := List.mem_singleton.1 ht
    exact (hg.state_issued s hs).2
  · intro s hs
    simp only [Graph.addState, Registry.ids_add, List.mem_append, List.mem_singleton] at hs ⊢
    rcases hs with hs | rfl
    · exact ⟨(hg.state_issued s hs).1, Nat.lt_succ_of_lt (hg.state_issued s hs).2⟩
    · exact ⟨rfl, Nat.lt_succ_self _⟩
  · intro s state hs
    rcases Registry.mem_add_iff.1 hs with hs | heq
    · exact hg.name_valid s state hs
    · simpa [(Prod.mk.inj heq).2] using hname
  · intro word s
    rw [findState_addState]
    simp only [Graph.addState, Registry.mem_add_iff, Prod.mk.injEq]
    split
    · rename_i heq
      constructor
      · intro hs
        exact ⟨_, .inr ⟨(Option.some.inj hs).symm, rfl⟩, heq⟩
      · intro hgiven
        obtain ⟨state, hs | ⟨rfl, _⟩, hword⟩ := hgiven
        · exact absurd (hword.trans heq.symm) (hfresh s state hs)
        · rfl
    · rename_i hne
      rw [hg.findState_eq_some_iff]
      constructor
      · intro hgiven
        obtain ⟨state, hs, hword⟩ := hgiven
        exact ⟨state, .inl hs, hword⟩
      · intro hgiven
        obtain ⟨state, hs | ⟨_, rfl⟩, hword⟩ := hgiven
        · exact ⟨state, hs, hword⟩
        · exact absurd hword hne

/-- A new state has no transitions yet, because no transition has an end that is no state. -/
theorem Named.idsWhere_nextStateId (hg : g.Named) {f : Transition → StateId}
    (hf : ∀ t transition, (t, transition) ∈ g.transitions → f transition ∈ g.states.ids) :
    g.transitions.idsWhere (fun transition => f transition = g.nextStateId) = [] := by
  rw [Registry.idsWhere, List.map_eq_nil_iff, List.filter_eq_nil_iff]
  rintro ⟨t, transition⟩ ht
  have hlt := (hg.state_issued _ (hf t transition ht)).2
  simp only [decide_eq_true_eq]
  intro heq
  rw [heq] at hlt
  exact Nat.lt_irrefl _ hlt

theorem Consistent.addState (hg : g.Consistent) {name : String} (hname : IsName name)
    (hfree : g.names.contains name = false) (position : Position) :
    (g.addState name position).Consistent where
  toNamed := hg.toNamed.addState hname hfree position
  toWired := by
    refine ⟨hg.transitions_ascending, hg.transition_issued, ?_, hg.label_valid, hg.edge_unique⟩
    intro t transition ht
    simp only [Graph.addState, Registry.ids_add, List.mem_append]
    exact ⟨.inl (hg.endpoints t transition ht).1, .inl (hg.endpoints t transition ht).2⟩
  toLinked := by
    constructor
    · intro s state hs
      rcases Registry.mem_add_iff.1 hs with hs | heq
      · exact hg.outgoing_eq s state hs
      · obtain ⟨rfl, rfl⟩ := Prod.mk.inj heq
        exact (hg.idsWhere_nextStateId fun t e ht => (hg.endpoints t e ht).1).symm
    · intro s state hs
      rcases Registry.mem_add_iff.1 hs with hs | heq
      · exact hg.incoming_eq s state hs
      · obtain ⟨rfl, rfl⟩ := Prod.mk.inj heq
        exact (hg.idsWhere_nextStateId fun t e ht => (hg.endpoints t e ht).2).symm
  idle := by
    intro hactive s state hs
    rcases Registry.mem_add_iff.1 hs with hs | heq
    · exact hg.idle hactive s state hs
    · rw [(Prod.mk.inj heq).2]

/-! ## One state changed in place -/

/-- A change of a state that leaves its name, its transitions and its current flag alone. -/
structure IsAttributeChange (f : State → State) : Prop where
  name : ∀ v, (f v).name = v.name
  links : ∀ v, ((f v).outgoing, (f v).incoming) = (v.outgoing, v.incoming)
  current : ∀ v, (f v).current = v.current

theorem Consistent.modifyState (hg : g.Consistent) (s : StateId) {f : State → State}
    (hf : IsAttributeChange f) : (g.modifyState s f).Consistent where
  toNamed := hg.toNamed.congr rfl rfl rfl (Registry.mapValues_modify _ _ hf.name)
  toWired := hg.toWired.congr rfl rfl rfl (Registry.ids_modify _ _ _)
  toLinked := hg.toLinked.congr rfl (Registry.mapValues_modify _ _ hf.links)
  idle := by
    intro hactive t state ht
    obtain ⟨old, hold, rfl⟩ := mem_modifyState_iff.1 ht
    have hidle := hg.idle hactive t old hold
    split
    · rw [hf.current, hidle]
    · exact hidle

/-! ## One more transition -/

theorem mem_addTransition_states {source target s : StateId} {label : Option String} {state : State}
    (hs : (s, state) ∈ (g.addTransition source target label).states) :
    ∃ old, (s, old) ∈ g.states ∧ state = { old with
      outgoing := old.outgoing ++ if source = s then [g.nextTransitionId] else []
      incoming := old.incoming ++ if target = s then [g.nextTransitionId] else [] } := by
  simp only [Graph.addTransition, Graph.modifyState] at hs
  obtain ⟨linked, hlinked, rfl⟩ := Registry.mem_modify_iff.1 hs
  obtain ⟨old, hold, rfl⟩ := Registry.mem_modify_iff.1 hlinked
  refine ⟨old, hold, ?_⟩
  by_cases hsource : source = s <;> by_cases htarget : target = s <;>
    simp [hsource, htarget, eq_comm (a := s)]

theorem mapValues_addTransition_states (source target : StateId) (label : Option String)
    {β : Type} {f : State → β} (hout : ∀ v l, f { v with outgoing := l } = f v)
    (hin : ∀ v l, f { v with incoming := l } = f v) :
    (g.addTransition source target label).states.mapValues f = g.states.mapValues f := by
  simp only [Graph.addTransition, Graph.modifyState]
  rw [Registry.mapValues_modify _ _ fun v => hin v _,
    Registry.mapValues_modify _ _ fun v => hout v _]

theorem ids_addTransition_states (source target : StateId) (label : Option String) :
    (g.addTransition source target label).states.ids = g.states.ids := by
  simp [Graph.addTransition, Graph.modifyState]

theorem Wired.addTransition (hg : g.Wired) {source target : StateId} {label : Option String}
    (hsource : source ∈ g.states.ids) (htarget : target ∈ g.states.ids)
    (hlabel : ∀ word, label = some word → IsLabel word)
    (hedge : g.hasEdge source target label = false) :
    (g.addTransition source target label).Wired := by
  have hnew : ∀ t, (t, ⟨source, target, label⟩) ∉ g.transitions := by
    intro t ht
    have hknown := hasEdge_iff.2 ⟨t, ht⟩
    simp [hknown] at hedge
  constructor
  · simp only [Graph.addTransition, Registry.ids_add]
    refine List.pairwise_append.2 ⟨hg.transitions_ascending, List.pairwise_singleton _ _, ?_⟩
    intro t ht u hu
    obtain rfl := List.mem_singleton.1 hu
    exact (hg.transition_issued t ht).2
  · intro t ht
    simp only [Graph.addTransition, Registry.ids_add, List.mem_append, List.mem_singleton] at ht ⊢
    rcases ht with ht | rfl
    · exact ⟨(hg.transition_issued t ht).1, Nat.lt_succ_of_lt (hg.transition_issued t ht).2⟩
    · exact ⟨rfl, Nat.lt_succ_self _⟩
  · intro t transition ht
    rw [ids_addTransition_states]
    rcases Registry.mem_add_iff.1 ht with ht | heq
    · exact hg.endpoints t transition ht
    · rw [(Prod.mk.inj heq).2]
      exact ⟨hsource, htarget⟩
  · intro t transition word ht hword
    rcases Registry.mem_add_iff.1 ht with ht | heq
    · exact hg.label_valid t transition word ht hword
    · rw [(Prod.mk.inj heq).2] at hword
      exact hlabel word hword
  · intro t u transition ht hu
    rcases Registry.mem_add_iff.1 ht with ht | ht <;> rcases Registry.mem_add_iff.1 hu with hu | hu
    · exact hg.edge_unique t u transition ht hu
    · rw [(Prod.mk.inj hu).2] at ht
      exact absurd ht (hnew t)
    · rw [(Prod.mk.inj ht).2] at hu
      exact absurd hu (hnew u)
    · rw [(Prod.mk.inj ht).1, (Prod.mk.inj hu).1]

theorem Linked.addTransition (hg : g.Linked) (source target : StateId) (label : Option String) :
    (g.addTransition source target label).Linked := by
  constructor
  · intro s state hs
    obtain ⟨old, hold, rfl⟩ := mem_addTransition_states hs
    simp [Graph.addTransition, hg.outgoing_eq s old hold]
  · intro s state hs
    obtain ⟨old, hold, rfl⟩ := mem_addTransition_states hs
    simp [Graph.addTransition, hg.incoming_eq s old hold]

theorem Consistent.addTransition (hg : g.Consistent) {source target : StateId}
    {label : Option String} (hsource : source ∈ g.states.ids) (htarget : target ∈ g.states.ids)
    (hlabel : ∀ word, label = some word → IsLabel word)
    (hedge : g.hasEdge source target label = false) :
    (g.addTransition source target label).Consistent where
  toNamed := hg.toNamed.congr rfl rfl rfl
    (mapValues_addTransition_states source target label (fun _ _ => rfl) fun _ _ => rfl)
  toWired := hg.toWired.addTransition hsource htarget hlabel hedge
  toLinked := hg.toLinked.addTransition source target label
  idle := by
    intro hactive s state hs
    obtain ⟨old, hold, rfl⟩ := mem_addTransition_states hs
    exact hg.idle hactive s old hold

end NfaWorkbench.Graph
