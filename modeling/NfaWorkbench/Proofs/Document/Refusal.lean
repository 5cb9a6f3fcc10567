import NfaWorkbench.Proofs.Document.FirstError
import NfaWorkbench.Proofs.Graph.Refusal
import NfaWorkbench.Proofs.Snapshot.Entry
set_option autoImplicit false

/-!
# Documents: refused records

A record either fits the snapshot of a graph or is refused for one reason, and the snapshot alone
tells for which.  So readers whose graphs show the same read the same lines with the same result,
whatever numbers their identifiers carry.
-/

namespace NfaWorkbench

namespace Record

/-- Why a record does not fit where some names are declared and some transitions are described: the
first of its parts that is wrong. -/
inductive Misfits (names : List String) (edges : List TransitionSnapshot) :
    Record → LineFault → Prop
  | invalidName {name : String} {position : Position} {fault : NameFault}
      (hname : FaultyName name fault) :
      Misfits names edges (.state name position) (.rejected (.invalidName name fault))
  | duplicateName {name : String} {position : Position} (hname : IsName name)
      (htaken : name ∈ names) :
      Misfits names edges (.state name position) (.rejected (.duplicateName name))
  | undeclaredSource {source target : String} {label : Option String} (hsource : source ∉ names) :
      Misfits names edges (.transition source label target) (.undeclaredState source)
  | undeclaredTarget {source target : String} {label : Option String} (hsource : source ∈ names)
      (htarget : target ∉ names) :
      Misfits names edges (.transition source label target) (.undeclaredState target)
  | invalidLabel {source target word : String} {fault : LabelFault} (hsource : source ∈ names)
      (htarget : target ∈ names) (hword : FaultyLabel word fault) :
      Misfits names edges (.transition source (some word) target)
        (.rejected (.invalidLabel word fault))
  | duplicateTransition {source target : String} {label : Option String} (hsource : source ∈ names)
      (htarget : target ∈ names) (hlabel : ∀ word, label = some word → IsLabel word)
      (htaken : ⟨source, label, target⟩ ∈ edges) :
      Misfits names edges (.transition source label target)
        (.rejected (.duplicateTransition source label target))
  | undeclaredInitial {name : String} (hname : name ∉ names) :
      Misfits names edges (.initial name) (.undeclaredState name)
  | undeclaredFinal {name : String} (hname : name ∉ names) :
      Misfits names edges (.final name) (.undeclaredState name)

theorem transition_fits_or_misfits (names : List String) (edges : List TransitionSnapshot)
    (source target : String) (label : Option String) :
    (transition source label target).Fits names edges ∨
      ∃ fault, Misfits names edges (transition source label target) fault := by
  by_cases hsource : source ∈ names
  · by_cases htarget : target ∈ names
    · by_cases hlabel : ∀ word, label = some word → IsLabel word
      · by_cases htaken : ⟨source, label, target⟩ ∈ edges
        · exact .inr ⟨_, .duplicateTransition hsource htarget hlabel htaken⟩
        · exact .inl ⟨hsource, htarget, hlabel, htaken⟩
      · simp only [not_forall] at hlabel
        obtain ⟨word, rfl, hword⟩ := hlabel
        obtain ⟨fault, hfault⟩ :=
          Option.ne_none_iff_exists'.1 (mt labelFault?_eq_none_iff.1 hword)
        exact .inr ⟨_, .invalidLabel hsource htarget (labelFault?_eq_some_iff.1 hfault)⟩
    · exact .inr ⟨_, .undeclaredTarget hsource htarget⟩
  · exact .inr ⟨_, .undeclaredSource hsource⟩

/-- A record fits or is refused for some reason. -/
theorem fits_or_misfits (names : List String) (edges : List TransitionSnapshot) (r : Record) :
    r.Fits names edges ∨ ∃ fault, Misfits names edges r fault := by
  cases r with
  | state name position =>
    by_cases hname : IsName name
    · by_cases htaken : name ∈ names
      · exact .inr ⟨_, .duplicateName hname htaken⟩
      · exact .inl ⟨hname, htaken⟩
    · obtain ⟨fault, hfault⟩ := Option.ne_none_iff_exists'.1 (mt nameFault?_eq_none_iff.1 hname)
      exact .inr ⟨_, .invalidName (nameFault?_eq_some_iff.1 hfault)⟩
  | transition source label target =>
    exact transition_fits_or_misfits names edges source target label
  | initial name =>
    by_cases hname : name ∈ names
    · exact .inl hname
    · exact .inr ⟨_, .undeclaredInitial hname⟩
  | final name =>
    by_cases hname : name ∈ names
    · exact .inl hname
    · exact .inr ⟨_, .undeclaredFinal hname⟩

end Record

namespace Graph

variable {g k : Graph} {r : Record} {fault : LineFault}

/-! ## One record -/

theorem Named.declared_eq_error (hg : g.Named) {name : String} (h : name ∉ g.snapshot.names) :
    g.declared name = .error (.undeclaredState name) := by
  rw [declared, hg.findState_eq_none_iff.2 h]

theorem Named.declared_eq_ok (hg : g.Named) {s : StateId} {state : State}
    (hs : (s, state) ∈ g.states) : g.declared state.name = .ok s := by
  rw [declared, hg.findState_of_mem hs]

/-- A transition that the graph refuses is refused for the same reason under the names of its
states. -/
theorem Named.applyTransition_eq_rejected (hg : g.Named) {s t : StateId} {a b : State}
    (hs : (s, a) ∈ g.states) (ht : (t, b) ∈ g.states) {label : Option String} {error : GraphError}
    (h : g.createTransition s t label = .error error) :
    g.applyRecord (.transition a.name label b.name) = .error (.rejected error) := by
  rw [applyRecord, applyTransition, hg.declared_eq_ok hs, hg.declared_eq_ok ht]
  simp only [h, Except.map, accepted]

/-- A record that does not fit the snapshot of a graph is refused by the graph for that reason. -/
theorem Consistent.applyRecord_eq_error (hg : g.Consistent)
    (h : r.Misfits g.snapshot.names g.snapshot.transitions fault) :
    g.applyRecord r = .error fault := by
  have hmember : ∀ {s state}, (s, state) ∈ g.states → s ∈ g.states.ids := Registry.mem_ids_of_mem
  cases h with
  | @invalidName name position fault hname =>
    have hrefused : g.createState name position = .error (.invalidName name fault) :=
      hg.createState_eq_error_iff.2 (.inl ⟨fault, hname, rfl⟩)
    rw [Graph.applyRecord, hrefused]
    rfl
  | @duplicateName name position hname htaken =>
    have hrefused : g.createState name position = .error (.duplicateName name) :=
      hg.createState_eq_error_iff.2 (.inr ⟨hname, mem_snapshot_names_iff.1 htaken, rfl⟩)
    rw [Graph.applyRecord, hrefused]
    rfl
  | undeclaredSource hsource =>
    rw [Graph.applyRecord, applyTransition, hg.declared_eq_error hsource]
  | undeclaredTarget hsource htarget =>
    obtain ⟨s, a, ha, rfl⟩ := mem_snapshot_names_iff.1 hsource
    rw [Graph.applyRecord, applyTransition, hg.declared_eq_ok ha, hg.declared_eq_error htarget]
  | invalidLabel hsource htarget hword =>
    obtain ⟨s, a, ha, rfl⟩ := mem_snapshot_names_iff.1 hsource
    obtain ⟨t, b, hb, rfl⟩ := mem_snapshot_names_iff.1 htarget
    exact hg.applyTransition_eq_rejected ha hb (createTransition_eq_error_iff.2
      (.inr (.inr (.inl ⟨hmember ha, hmember hb, _, _, rfl, hword, rfl⟩))))
  | duplicateTransition hsource htarget hlabel htaken =>
    obtain ⟨s, a, ha, rfl⟩ := mem_snapshot_names_iff.1 hsource
    obtain ⟨t, b, hb, rfl⟩ := mem_snapshot_names_iff.1 htarget
    refine hg.applyTransition_eq_rejected ha hb (createTransition_eq_error_iff.2
      (.inr (.inr (.inr ⟨hmember ha, hmember hb, hlabel, ?_, ?_⟩))))
    · exact (hg.exists_edge_iff ha hb).2 htaken
    · rw [hg.stateName_of_mem ha, hg.stateName_of_mem hb]
  | undeclaredInitial hname => rw [Graph.applyRecord, applyChange, hg.declared_eq_error hname]
  | undeclaredFinal hname => rw [Graph.applyRecord, applyChange, hg.declared_eq_error hname]

/-! ## Readers that have built the same -/

/-- Two readers show the same if they fail alike or build graphs that show the same. -/
theorem map_snapshot_eq_iff {ε : Type} {first second : Except ε Graph} :
    second.map snapshot = first.map snapshot ↔
      (∃ error, first = .error error ∧ second = .error error) ∨
        ∃ g k, first = .ok g ∧ second = .ok k ∧ k.snapshot = g.snapshot := by
  cases first <;> cases second <;> simp [Except.map, eq_comm]

/-- Graphs with the same snapshot take the same records, and show the same afterwards. -/
theorem Consistent.map_applyRecord_congr (hg : g.Consistent) (hk : k.Consistent)
    (h : k.snapshot = g.snapshot) (r : Record) :
    (k.applyRecord r).map snapshot = (g.applyRecord r).map snapshot := by
  obtain hfits | ⟨fault, hfault⟩ := r.fits_or_misfits g.snapshot.names g.snapshot.transitions
  · obtain ⟨g', hg', hshown⟩ := hg.exists_applyRecord_iff.2 ⟨hfits, rfl⟩
    obtain ⟨k', hk', hshown'⟩ := hk.exists_applyRecord_iff.2 ⟨h ▸ hfits, rfl⟩
    simp only [hg', hk', Except.map, hshown, hshown', h]
  · rw [hg.applyRecord_eq_error hfault, hk.applyRecord_eq_error (h ▸ hfault)]

theorem Consistent.map_readLine_congr (hg : g.Consistent) (hk : k.Consistent)
    (h : k.snapshot = g.snapshot) (line : List UInt8) :
    (k.readLine line).map snapshot = (g.readLine line).map snapshot := by
  unfold Graph.readLine
  split
  · rfl
  · split
    · rfl
    · exact congrArg Except.ok h
    · exact hg.map_applyRecord_congr hk h _

/-- Graphs with the same snapshot read the same lines with the same result. -/
theorem Consistent.map_readLines_congr (hg : g.Consistent) (hk : k.Consistent)
    (h : k.snapshot = g.snapshot) (number : Nat) (lines : List (List UInt8)) :
    (k.readLines number lines).map snapshot = (g.readLines number lines).map snapshot := by
  induction lines generalizing g k number with
  | nil => exact congrArg Except.ok h
  | cons line rest ih =>
    rw [Graph.readLines, Graph.readLines]
    rcases map_snapshot_eq_iff.1 (hg.map_readLine_congr hk h line) with
      ⟨fault, hgline, hkline⟩ | ⟨g', k', hgline, hkline, hsame⟩
    · rw [hgline, hkline]
    · rw [hgline, hkline]
      exact ih (hg.readLine hgline) (hk.readLine hkline) hsame (number + 1)

/-- The number that a graph gets makes no difference to what is read. -/
theorem map_read_owner (owner other : Nat) (bytes : List UInt8) :
    (read other { bytes }).map snapshot = (read owner { bytes }).map snapshot := by
  have hempty : (empty other).snapshot = (empty owner).snapshot := rfl
  rw [read_bytes, read_bytes]
  exact (Consistent.empty owner).map_readLines_congr (Consistent.empty other) hempty 1 _

end Graph

end NfaWorkbench
