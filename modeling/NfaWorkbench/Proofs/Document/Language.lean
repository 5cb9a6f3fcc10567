import NfaWorkbench.Document.Record
import NfaWorkbench.Document.Lines
import NfaWorkbench.Proofs.Snapshot.Edit
set_option autoImplicit false

/-!
# Documents: the language

Which lists of records are documents, and what automaton such a list describes, without any graph: a
record has to fit the records before it, and the description is read off the list as a whole.

`Snapshot.ofRecords_append` is the link to what a reader does record by record.  A state is
described before its flags are, so one more record about it has to change an entry that is there
already.
-/

namespace NfaWorkbench

/-! ## What a record says -/

namespace Record

/-- The name that a record declares. -/
def declared? : Record → Option String
  | state name _ => some name
  | _ => none

/-- The transition that a record describes. -/
def edge? : Record → Option TransitionSnapshot
  | transition source label target => some ⟨source, label, target⟩
  | _ => none

/-- The state that a record describes; its flags are set by the records among `flags` that name it.
-/
def stateSnapshot? (flags : List Record) : Record → Option StateSnapshot
  | state name position => some
    { name
      x := position.x
      y := position.y
      initial := decide (.initial name ∈ flags)
      final := decide (.final name ∈ flags)
      current := false }
  | _ => none

/-- What a record has to satisfy where some names are declared and some transitions are described:
what it declares or describes is valid and new, and the names it refers to are declared. -/
def Fits (names : List String) (edges : List TransitionSnapshot) : Record → Prop
  | state name _ => IsName name ∧ name ∉ names
  | transition source label target => source ∈ names ∧ target ∈ names ∧
    (∀ word, label = some word → IsLabel word) ∧ ⟨source, label, target⟩ ∉ edges
  | initial name => name ∈ names
  | final name => name ∈ names

end Record

namespace Document

/-- The names that records declare, in their order. -/
def declaredNames (records : List Record) : List String := records.filterMap Record.declared?

/-- The transitions that records describe, in their order. -/
def edges (records : List Record) : List TransitionSnapshot := records.filterMap Record.edge?

/-- Every record fits what stands before it. -/
def FitsAfter (earlier records : List Record) : Prop :=
  ∀ before r after, records = before ++ r :: after →
    r.Fits (declaredNames (earlier ++ before)) (edges (earlier ++ before))

/-- The lists of records that are documents. -/
def Admissible (records : List Record) : Prop := FitsAfter [] records

/-- The records of lines.  Every line is text, and is a record or one that is ignored. -/
inductive Records : List (List UInt8) → List Record → Prop
  | nil : Records [] []
  | ignored {line : List UInt8} {text : String} {lines : List (List UInt8)} {records : List Record}
      (htext : decodeLine line = some text) (hread : Record.read text = .ok none)
      (hrest : Records lines records) : Records (line :: lines) records
  | record {line : List UInt8} {text : String} {r : Record} {lines : List (List UInt8)}
      {records : List Record} (htext : decodeLine line = some text)
      (hread : Record.read text = .ok (some r)) (hrest : Records lines records) :
      Records (line :: lines) (r :: records)

end Document

/-- The automaton that records describe: the states and the transitions in the order of their
records, without a running simulation. -/
def Snapshot.ofRecords (records : List Record) : Snapshot where
  active := false
  states := records.filterMap (Record.stateSnapshot? records)
  transitions := Document.edges records

/-! ## Records after records -/

namespace Document

variable {earlier records : List Record} {r : Record}

theorem fitsAfter_nil (earlier : List Record) : FitsAfter earlier [] := by
  intro before r after h
  simp at h

theorem fitsAfter_cons_iff : FitsAfter earlier (r :: records) ↔
    r.Fits (declaredNames earlier) (edges earlier) ∧ FitsAfter (earlier ++ [r]) records := by
  constructor
  · intro h
    refine ⟨by simpa using h [] r records rfl, ?_⟩
    intro before s after heq
    simpa using h (r :: before) s after (by rw [heq, List.cons_append])
  · rintro ⟨hr, hrest⟩ before s after heq
    cases before with
    | nil =>
      obtain ⟨rfl, rfl⟩ := List.cons.inj heq
      simpa using hr
    | cons b before =>
      obtain ⟨rfl, rfl⟩ := List.cons.inj heq
      simpa using hrest before s after rfl

theorem fitsAfter_append_iff {later : List Record} : FitsAfter earlier (records ++ later) ↔
    FitsAfter earlier records ∧ FitsAfter (earlier ++ records) later := by
  induction records generalizing earlier with
  | nil => simp [fitsAfter_nil]
  | cons r rest ih => simp [fitsAfter_cons_iff, ih, and_assoc]

theorem admissible_append_iff {later : List Record} :
    Admissible (records ++ later) ↔ Admissible records ∧ FitsAfter records later := by
  rw [Admissible, fitsAfter_append_iff, List.nil_append]
  exact Iff.rfl

/-- Lines have one list of records at most. -/
theorem Records.unique {lines : List (List UInt8)} {others : List Record}
    (h : Records lines records) (h' : Records lines others) : records = others := by
  induction h generalizing others with
  | nil =>
    cases h'
    rfl
  | ignored htext hread _ ih =>
    cases h' with
    | ignored htext' hread' hrest' => exact ih hrest'
    | record htext' hread' hrest' =>
      obtain rfl := Option.some.inj (htext.symm.trans htext')
      simp [hread] at hread'
  | record htext hread _ ih =>
    cases h' with
    | ignored htext' hread' hrest' =>
      obtain rfl := Option.some.inj (htext.symm.trans htext')
      simp [hread] at hread'
    | record htext' hread' hrest' =>
      obtain rfl := Option.some.inj (htext.symm.trans htext')
      simp only [hread, Except.ok.injEq, Option.some.injEq] at hread'
      rw [hread', ih hrest']

theorem declaredNames_subset {name : String} {before after : List Record}
    (h : name ∈ declaredNames before) : name ∈ declaredNames (before ++ after) := by
  rw [declaredNames, List.filterMap_append]
  exact List.mem_append_left _ h

/-- A flag is set on declared states only. -/
theorem Admissible.declared (h : Admissible records) {name : String}
    (hname : Record.initial name ∈ records ∨ Record.final name ∈ records) :
    name ∈ declaredNames records := by
  rcases hname with hname | hname
  · obtain ⟨before, after, rfl⟩ := List.append_of_mem hname
    exact declaredNames_subset (h before _ after rfl)
  · obtain ⟨before, after, rfl⟩ := List.append_of_mem hname
    exact declaredNames_subset (h before _ after rfl)

end Document

/-! ## What one more record describes -/

namespace Snapshot

variable {records : List Record}

/-- The snapshot after one more record about its automaton. -/
def applyRecord (s : Snapshot) : Record → Snapshot
  | .state name position => s.addState name position
  | .transition source label target => s.addTransition ⟨source, label, target⟩
  | .initial name => s.modifyState name fun v => { v with initial := true }
  | .final name => s.modifyState name fun v => { v with final := true }

@[simp]
theorem names_ofRecords (records : List Record) :
    (ofRecords records).names = Document.declaredNames records := by
  simp only [names, ofRecords, Document.declaredNames, List.map_filterMap]
  congr 1
  funext r
  cases r <;> rfl

@[simp]
theorem transitions_ofRecords (records : List Record) :
    (ofRecords records).transitions = Document.edges records := rfl

/-- What one more record does to the description of a state that is declared already: it sets a flag
if it names the state. -/
def setFlags (r : Record) (v : StateSnapshot) : StateSnapshot :=
  { v with
    initial := v.initial || decide (r = .initial v.name)
    final := v.final || decide (r = .final v.name) }

theorem stateSnapshot?_append (flags : List Record) (r s : Record) :
    Record.stateSnapshot? (flags ++ [r]) s =
      (Record.stateSnapshot? flags s).map (setFlags r) := by
  cases s <;> simp [Record.stateSnapshot?, setFlags, eq_comm (b := r)]

/-- The states that are described after one more record: those before it with their flags, and the
one that it describes. -/
theorem states_ofRecords_append (records : List Record) (r : Record) :
    (ofRecords (records ++ [r])).states =
      (ofRecords records).states.map (setFlags r) ++
        (Record.stateSnapshot? (records ++ [r]) r).toList := by
  have hold : records.filterMap (Record.stateSnapshot? (records ++ [r])) =
      (records.filterMap (Record.stateSnapshot? records)).map (setFlags r) := by
    rw [List.map_filterMap]
    congr 1
    funext s
    exact stateSnapshot?_append records r s
  have hnew : [r].filterMap (Record.stateSnapshot? (records ++ [r])) =
      (Record.stateSnapshot? (records ++ [r]) r).toList := by
    cases h : Record.stateSnapshot? (records ++ [r]) r <;> simp [h]
  simp only [ofRecords, List.filterMap_append, hold, hnew]

theorem setFlags_initial (name : String) : setFlags (.initial name) = fun v =>
    if v.name = name then { v with initial := true } else v := by
  funext v
  by_cases hname : v.name = name
  · simp [setFlags, hname]
  · simp [setFlags, hname, Ne.symm hname]

theorem setFlags_final (name : String) : setFlags (.final name) = fun v =>
    if v.name = name then { v with final := true } else v := by
  funext v
  by_cases hname : v.name = name
  · simp [setFlags, hname]
  · simp [setFlags, hname, Ne.symm hname]

/-- Records that set no flags change no state that is declared already. -/
theorem setFlags_eq_id {r : Record} (hinitial : ∀ name, r ≠ .initial name)
    (hfinal : ∀ name, r ≠ .final name) : setFlags r = id := by
  funext v
  simp [setFlags, hinitial, hfinal]

/-- One more record that fits changes the description as it would change a snapshot. -/
theorem ofRecords_append (h : Document.Admissible records) {r : Record}
    (hr : r.Fits (Document.declaredNames records) (Document.edges records)) :
    ofRecords (records ++ [r]) = (ofRecords records).applyRecord r := by
  have hstates := states_ofRecords_append records r
  refine Snapshot.ext ?_ (hstates.trans ?_) ?_
  · cases r <;> rfl
  · cases r with
    | state name position =>
      -- A flag of the new state would need a record that names it before it is declared.
      have hinitial : Record.initial name ∉ records := fun hmem => hr.2 (h.declared (.inl hmem))
      have hfinal : Record.final name ∉ records := fun hmem => hr.2 (h.declared (.inr hmem))
      have hold := setFlags_eq_id (r := .state name position) (by simp) (by simp)
      simp [applyRecord, addState, hold, Record.stateSnapshot?, hinitial, hfinal]
    | transition source label target =>
      have hold := setFlags_eq_id (r := .transition source label target) (by simp) (by simp)
      simp [applyRecord, addTransition, hold, Record.stateSnapshot?]
    | initial name => simp [applyRecord, modifyState, setFlags_initial, Record.stateSnapshot?]
    | final name => simp [applyRecord, modifyState, setFlags_final, Record.stateSnapshot?]
  · cases r <;> simp [ofRecords, Document.edges, applyRecord, addState, addTransition, modifyState,
      Record.edge?]

end Snapshot

end NfaWorkbench
