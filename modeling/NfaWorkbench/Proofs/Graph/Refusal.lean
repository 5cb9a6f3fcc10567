import NfaWorkbench.Proofs.Graph.Creation
set_option autoImplicit false

/-!
# Graph: refusals

What exactly is wrong where a graph refuses something.  Faults of names and labels are described by
their characters, and the refusals of an operation by the members of the graph.  Each description
holds of one error at most, the one that the operation gives.
-/

namespace NfaWorkbench

/-! ## Faults of names and labels -/

/-- A text is no state name, and this is the first thing that is wrong with it. -/
inductive FaultyName : String → NameFault → Prop
  | empty {name : String} (hname : name.toList = []) : FaultyName name .empty
  | badStart {name : String} {first : Char} {rest : List Char} (hname : name.toList = first :: rest)
      (hfirst : Text.isLetter first = false) : FaultyName name .badStart
  | badCharacter {name : String} {first c : Char} {rest : List Char}
      (hname : name.toList = first :: rest) (hfirst : Text.isLetter first = true) (hc : c ∈ rest)
      (hbad : isNameCharacter c = false) : FaultyName name .badCharacter

/-- A text is no event label, and this is the first thing that is wrong with it. -/
inductive FaultyLabel : String → LabelFault → Prop
  | empty {label : String} (hlabel : label.toList = []) : FaultyLabel label .empty
  | notLetters {label : String} {c : Char} (hc : c ∈ label.toList)
      (hbad : Text.isLetter c = false) : FaultyLabel label .notLetters

theorem nameFault?_eq_some_iff {name : String} {fault : NameFault} :
    nameFault? name = some fault ↔ FaultyName name fault := by
  constructor
  · intro h
    unfold nameFault? at h
    split at h
    · rename_i hname
      exact Option.some.inj h ▸ .empty hname
    · rename_i first rest hname
      split at h
      · rename_i hfirst
        split at h
        · simp at h
        · rename_i hrest
          obtain ⟨c, hc, hbad⟩ := List.all_eq_false.1 (Bool.not_eq_true _ ▸ hrest)
          exact Option.some.inj h ▸ .badCharacter hname hfirst hc (Bool.not_eq_true _ ▸ hbad)
      · rename_i hfirst
        exact Option.some.inj h ▸ .badStart hname (Bool.not_eq_true _ ▸ hfirst)
  · intro h
    cases h with
    | empty hname => simp [nameFault?, hname]
    | badStart hname hfirst => simp [nameFault?, hname, hfirst]
    | @badCharacter first c rest hname hfirst hc hbad =>
      have hrest : rest.all isNameCharacter = false :=
        List.all_eq_false.2 ⟨c, hc, by simp [hbad]⟩
      simp [nameFault?, hname, hfirst, hrest]

theorem labelFault?_eq_some_iff {label : String} {fault : LabelFault} :
    labelFault? label = some fault ↔ FaultyLabel label fault := by
  constructor
  · intro h
    unfold labelFault? at h
    split at h
    · rename_i hlabel
      exact Option.some.inj h ▸ .empty hlabel
    · split at h
      · simp at h
      · rename_i hletters
        obtain ⟨c, hc, hbad⟩ := List.all_eq_false.1 (Bool.not_eq_true _ ▸ hletters)
        exact Option.some.inj h ▸ .notLetters hc (Bool.not_eq_true _ ▸ hbad)
  · intro h
    cases h with
    | empty hlabel => simp [labelFault?, hlabel]
    | @notLetters c hc hbad =>
      have hletters : label.toList.all Text.isLetter = false :=
        List.all_eq_false.2 ⟨c, hc, by simp [hbad]⟩
      unfold labelFault?
      split
      · rename_i hnil
        simp [hnil] at hc
      · rw [if_neg (Bool.eq_false_iff.1 hletters)]

namespace Graph

variable {g : Graph} {error : GraphError}

/-! ## Refused operations -/

/-- A state is refused for its name: because it is none, or else because another state has it. -/
theorem Named.createState_eq_error_iff (hg : g.Named) {name : String} {position : Position} :
    g.createState name position = .error error ↔
      (∃ fault, FaultyName name fault ∧ error = .invalidName name fault) ∨
      (IsName name ∧ (∃ s state, (s, state) ∈ g.states ∧ state.name = name) ∧
        error = .duplicateName name) := by
  unfold createState
  rw [← hg.names_contains_iff]
  cases hname : nameFault? name with
  | some fault =>
    have hno : ¬IsName name := by simp [← nameFault?_eq_none_iff, hname]
    simp [← nameFault?_eq_some_iff, hname, hno, eq_comm (a := error)]
  | none =>
    have hyes : IsName name := nameFault?_eq_none_iff.1 hname
    cases g.names.contains name <;>
      simp [← nameFault?_eq_some_iff, hname, hyes, eq_comm (a := error)]

theorem changeState_eq_error_iff {s : StateId} {aspect : StateAspect} {f : State → State} :
    g.changeState s aspect f = .error error ↔ s ∉ g.states.ids ∧ error = .unknownState s := by
  unfold changeState
  cases hs : g.hasState s <;> simp [← hasState_iff, hs, eq_comm (a := error)]

theorem labelError?_eq_some_iff {label : Option String} :
    labelError? label = some error ↔
      ∃ word fault, label = some word ∧ FaultyLabel word fault ∧
        error = .invalidLabel word fault := by
  cases label with
  | none => simp [labelError?]
  | some word =>
    simp only [labelError?, Option.map_eq_some_iff, labelFault?_eq_some_iff, Option.some.injEq]
    constructor
    · intro hgiven
      obtain ⟨fault, hfault, rfl⟩ := hgiven
      exact ⟨word, fault, rfl, hfault, rfl⟩
    · intro hgiven
      obtain ⟨_, fault, rfl, hfault, rfl⟩ := hgiven
      exact ⟨fault, hfault, rfl⟩

/-- A transition is refused for the first end that is no member, then for its label, and last
because there is the same transition already. -/
theorem createTransition_eq_error_iff {source target : StateId} {label : Option String} :
    g.createTransition source target label = .error error ↔
      (source ∉ g.states.ids ∧ error = .unknownState source) ∨
      (source ∈ g.states.ids ∧ target ∉ g.states.ids ∧ error = .unknownState target) ∨
      (source ∈ g.states.ids ∧ target ∈ g.states.ids ∧ ∃ word fault, label = some word ∧
        FaultyLabel word fault ∧ error = .invalidLabel word fault) ∨
      (source ∈ g.states.ids ∧ target ∈ g.states.ids ∧
        (∀ word, label = some word → IsLabel word) ∧
        (∃ t, (t, ⟨source, target, label⟩) ∈ g.transitions) ∧
        error = .duplicateTransition (g.stateName source) label (g.stateName target)) := by
  rw [createTransition, ← labelError?_eq_some_iff, ← labelError?_eq_none_iff, ← hasEdge_iff,
    ← hasState_iff, ← hasState_iff]
  cases g.hasState source
  · simp [eq_comm (a := error)]
  cases g.hasState target
  · simp [eq_comm (a := error)]
  cases labelError? label with
  | some fault => simp [eq_comm (a := error)]
  | none => cases g.hasEdge source target label <;> simp [eq_comm (a := error)]

theorem findTransitions_eq_error_iff {source target : StateId} :
    g.findTransitions source target = .error error ↔
      (source ∉ g.states.ids ∧ error = .unknownState source) ∨
      (source ∈ g.states.ids ∧ target ∉ g.states.ids ∧ error = .unknownState target) := by
  rw [findTransitions]
  cases hsource : g.state? source with
  | none => simp [Registry.get?_eq_none_iff.1 hsource, eq_comm (a := error)]
  | some state =>
    have hmem : source ∈ g.states.ids := Registry.mem_ids_of_mem (Registry.mem_of_get? hsource)
    cases htarget : g.hasState target <;> simp [← hasState_iff, hmem, htarget, eq_comm (a := error)]

end Graph

end NfaWorkbench
