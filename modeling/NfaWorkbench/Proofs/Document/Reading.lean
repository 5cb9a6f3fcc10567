import NfaWorkbench.Proofs.Document.Language
import NfaWorkbench.Proofs.Document.Lines
import NfaWorkbench.Proofs.Reachable
set_option autoImplicit false

/-!
# Documents: reading

The reader accepts exactly the language of documents, and builds what the records describe.  It
keeps one invariant: the graph built so far has the snapshot that the records read so far describe.
So whether it accepts the next record depends on those records alone.
-/

namespace NfaWorkbench

namespace Graph

variable {g k : Graph}

/-! ## One record -/

theorem applyRecord_state_iff {name : String} {position : Position} :
    g.applyRecord (.state name position) = .ok k ↔
      IsName name ∧ g.names.contains name = false ∧ k = g.addState name position := by
  rw [applyRecord, accepted_map_eq_ok_iff]
  constructor
  · intro hgiven
    obtain ⟨r, hr, rfl⟩ := hgiven
    obtain ⟨hname, hfree, rfl⟩ := createState_eq_ok_iff.1 hr
    exact ⟨hname, hfree, rfl⟩
  · intro hgiven
    obtain ⟨hname, hfree, rfl⟩ := hgiven
    exact ⟨_, createState_eq_ok_iff.2 ⟨hname, hfree, rfl⟩, rfl⟩

theorem Named.applyTransition_iff (hg : g.Named) {source target : String} {label : Option String} :
    g.applyRecord (.transition source label target) = .ok k ↔
      ∃ s a t b, (s, a) ∈ g.states ∧ a.name = source ∧ (t, b) ∈ g.states ∧ b.name = target ∧
        (∀ word, label = some word → IsLabel word) ∧ g.hasEdge s t label = false ∧
        k = g.addTransition s t label := by
  rw [applyRecord, applyTransition_eq_ok_iff]
  simp only [hg.findState_eq_some_iff]
  constructor
  · intro hgiven
    obtain ⟨s, t, r, ⟨a, ha, hsource⟩, ⟨b, hb, htarget⟩, hr, rfl⟩ := hgiven
    obtain ⟨_, _, hlabel, hedge, rfl⟩ := createTransition_eq_ok_iff.1 hr
    exact ⟨s, a, t, b, ha, hsource, hb, htarget, hlabel, hedge, rfl⟩
  · intro hgiven
    obtain ⟨s, a, t, b, ha, hsource, hb, htarget, hlabel, hedge, rfl⟩ := hgiven
    have hcreate := createTransition_eq_ok_iff.2
      ⟨Registry.mem_ids_of_mem ha, Registry.mem_ids_of_mem hb, hlabel, hedge, rfl⟩
    exact ⟨s, t, _, ⟨a, ha, hsource⟩, ⟨b, hb, htarget⟩, hcreate, rfl⟩

/-- A record that sets a flag changes the state that it names. -/
theorem Consistent.exists_applyChange_iff (hg : g.Consistent) {name : String} {aspect : StateAspect}
    {f : State → State} {f' : StateSnapshot → StateSnapshot} (hf : IsAttributeChange f)
    (hf' : ∀ v, g.stateSnapshot (f v) = f' (g.stateSnapshot v)) {s : Snapshot} :
    (∃ k, g.applyChange name (g.changeState · aspect f) = .ok k ∧ k.snapshot = s) ↔
      name ∈ g.snapshot.names ∧ g.snapshot.modifyState name f' = s := by
  simp only [applyChange_eq_ok_iff, changeState_eq_ok_iff, hg.findState_eq_some_iff]
  constructor
  · intro hgiven
    obtain ⟨k, ⟨t, c, ⟨state, ht, rfl⟩, ⟨_, rfl⟩, rfl⟩, rfl⟩ := hgiven
    exact ⟨mem_snapshot_names_iff.2 ⟨t, state, ht, rfl⟩, (hg.snapshot_modifyState ht hf hf').symm⟩
  · intro hgiven
    obtain ⟨hname, rfl⟩ := hgiven
    obtain ⟨t, state, ht, rfl⟩ := mem_snapshot_names_iff.1 hname
    exact ⟨_, ⟨t, _, ⟨state, ht, rfl⟩, ⟨Registry.mem_ids_of_mem ht, rfl⟩, rfl⟩,
      hg.snapshot_modifyState ht hf hf'⟩

theorem Consistent.exists_applyState_iff (hg : g.Consistent) {name : String} {position : Position}
    {s : Snapshot} :
    (∃ k, g.applyRecord (.state name position) = .ok k ∧ k.snapshot = s) ↔
      (IsName name ∧ name ∉ g.snapshot.names) ∧ g.snapshot.addState name position = s := by
  simp only [applyRecord_state_iff, hg.names_contains_eq_false_iff]
  constructor
  · intro hgiven
    obtain ⟨k, ⟨hname, hfree, rfl⟩, rfl⟩ := hgiven
    exact ⟨⟨hname, hfree⟩, (hg.snapshot_addState name position).symm⟩
  · intro hgiven
    obtain ⟨⟨hname, hfree⟩, rfl⟩ := hgiven
    exact ⟨_, ⟨hname, hfree, rfl⟩, hg.snapshot_addState name position⟩

theorem Consistent.exists_applyTransition_iff (hg : g.Consistent) {source target : String}
    {label : Option String} {s : Snapshot} :
    (∃ k, g.applyRecord (.transition source label target) = .ok k ∧ k.snapshot = s) ↔
      (source ∈ g.snapshot.names ∧ target ∈ g.snapshot.names ∧
        (∀ word, label = some word → IsLabel word) ∧
        ⟨source, label, target⟩ ∉ g.snapshot.transitions) ∧
      g.snapshot.addTransition ⟨source, label, target⟩ = s := by
  have hsnapshot : ∀ {s a t b}, (s, a) ∈ g.states → (t, b) ∈ g.states →
      (g.addTransition s t label).snapshot =
        g.snapshot.addTransition ⟨a.name, label, b.name⟩ := by
    intro s a t b ha hb
    rw [snapshot_addTransition, hg.stateName_of_mem ha, hg.stateName_of_mem hb]
  simp only [hg.applyTransition_iff]
  constructor
  · intro hgiven
    obtain ⟨k, ⟨s, a, t, b, ha, rfl, hb, rfl, hlabel, hedge, rfl⟩, rfl⟩ := hgiven
    refine ⟨⟨?_, ?_, hlabel, (hg.hasEdge_eq_false_iff ha hb).1 hedge⟩, (hsnapshot ha hb).symm⟩
    · exact mem_snapshot_names_iff.2 ⟨s, a, ha, rfl⟩
    · exact mem_snapshot_names_iff.2 ⟨t, b, hb, rfl⟩
  · intro hgiven
    obtain ⟨⟨hsource, htarget, hlabel, hedge⟩, rfl⟩ := hgiven
    obtain ⟨s, a, ha, rfl⟩ := mem_snapshot_names_iff.1 hsource
    obtain ⟨t, b, hb, rfl⟩ := mem_snapshot_names_iff.1 htarget
    have hfree := (hg.hasEdge_eq_false_iff ha hb).2 hedge
    exact ⟨_, ⟨s, a, t, b, ha, rfl, hb, rfl, hlabel, hfree, rfl⟩, hsnapshot ha hb⟩

/-- The reader takes a record if it fits the snapshot of the graph, and then the graph has the
snapshot that the record makes of it. -/
theorem Consistent.exists_applyRecord_iff (hg : g.Consistent) {r : Record} {s : Snapshot} :
    (∃ k, g.applyRecord r = .ok k ∧ k.snapshot = s) ↔
      r.Fits g.snapshot.names g.snapshot.transitions ∧ g.snapshot.applyRecord r = s := by
  cases r with
  | state name position => exact hg.exists_applyState_iff
  | transition source label target => exact hg.exists_applyTransition_iff
  | initial name => exact hg.exists_applyChange_iff (isAttributeChange_initial true) fun _ => rfl
  | final name => exact hg.exists_applyChange_iff (isAttributeChange_final true) fun _ => rfl

/-! ## The invariant of the reader -/

/-- A graph is what some records describe. -/
structure Follows (g : Graph) (records : List Record) : Prop where
  consistent : g.Consistent
  admissible : Document.Admissible records
  snapshot_eq : g.snapshot = .ofRecords records

theorem Follows.empty (owner : Nat) : (empty owner).Follows [] :=
  ⟨Consistent.empty owner, Document.fitsAfter_nil [], rfl⟩

variable {earlier records : List Record} {r : Record} {number : Nat} {lines : List (List UInt8)}

theorem Follows.fits_iff (h : g.Follows earlier) :
    r.Fits g.snapshot.names g.snapshot.transitions ↔
      r.Fits (Document.declaredNames earlier) (Document.edges earlier) := by
  rw [h.snapshot_eq, Snapshot.names_ofRecords, Snapshot.transitions_ofRecords]

/-- A record that is taken fits, and then the graph is what the records including it describe. -/
theorem Follows.of_applyRecord (h : g.Follows earlier) (hr : g.applyRecord r = .ok k) :
    r.Fits (Document.declaredNames earlier) (Document.edges earlier) ∧
      k.Follows (earlier ++ [r]) := by
  obtain ⟨hfits, hsnapshot⟩ := h.consistent.exists_applyRecord_iff.1 ⟨k, hr, rfl⟩
  rw [h.fits_iff] at hfits
  have hone : Document.FitsAfter earlier [r] :=
    Document.fitsAfter_cons_iff.2 ⟨hfits, Document.fitsAfter_nil _⟩
  refine ⟨hfits, h.consistent.applyRecord hr, ?_, ?_⟩
  · exact Document.admissible_append_iff.2 ⟨h.admissible, hone⟩
  · rw [Snapshot.ofRecords_append h.admissible hfits, ← hsnapshot, h.snapshot_eq]

theorem Follows.exists_applyRecord (h : g.Follows earlier)
    (hr : r.Fits (Document.declaredNames earlier) (Document.edges earlier)) :
    ∃ k, g.applyRecord r = .ok k := by
  obtain ⟨k, hk, _⟩ := h.consistent.exists_applyRecord_iff.2 ⟨h.fits_iff.2 hr, rfl⟩
  exact ⟨k, hk⟩

/-- Lines that are read have records that fit, and lead to what all records describe. -/
theorem Follows.of_readLines (h : g.Follows earlier) (hk : g.readLines number lines = .ok k) :
    ∃ records, Document.Records lines records ∧ Document.FitsAfter earlier records ∧
      k.Follows (earlier ++ records) := by
  induction lines generalizing g earlier number with
  | nil =>
    obtain rfl := Except.ok.inj hk
    exact ⟨[], .nil, Document.fitsAfter_nil earlier, by simpa using h⟩
  | cons line rest ih =>
    obtain ⟨next, hline, hrest⟩ := readLines_cons_eq_ok_iff.1 hk
    obtain ⟨text, htext, ⟨hread, rfl⟩ | ⟨r, hread, happly⟩⟩ := readLine_eq_ok_iff.1 hline
    · obtain ⟨records, hrecords, hlater⟩ := ih h hrest
      exact ⟨records, .ignored htext hread hrecords, hlater⟩
    · obtain ⟨hfits, hnext⟩ := h.of_applyRecord happly
      obtain ⟨records, hrecords, hlater, hfollows⟩ := ih hnext hrest
      refine ⟨r :: records, .record htext hread hrecords, ?_, by simpa using hfollows⟩
      exact Document.fitsAfter_cons_iff.2 ⟨hfits, hlater⟩

/-- Lines whose records fit are read. -/
theorem Follows.exists_readLines (h : g.Follows earlier)
    (hrecords : Document.Records lines records) (hfits : Document.FitsAfter earlier records) :
    ∃ k, g.readLines number lines = .ok k := by
  induction hrecords generalizing g earlier number with
  | nil => exact ⟨g, rfl⟩
  | @ignored line text rest records htext hread _ ih =>
    obtain ⟨k, hk⟩ := ih h hfits
    have hline : g.readLine line = .ok g := readLine_eq_ok_iff.2 ⟨text, htext, .inl ⟨hread, rfl⟩⟩
    exact ⟨k, readLines_cons_eq_ok_iff.2 ⟨g, hline, hk⟩⟩
  | @record line text r rest records htext hread _ ih =>
    obtain ⟨hr, hlater⟩ := Document.fitsAfter_cons_iff.1 hfits
    obtain ⟨next, hnext⟩ := h.exists_applyRecord hr
    obtain ⟨k, hk⟩ := ih (h.of_applyRecord hnext).2 hlater
    have hline : g.readLine line = .ok next :=
      readLine_eq_ok_iff.2 ⟨text, htext, .inr ⟨r, hread, hnext⟩⟩
    exact ⟨k, readLines_cons_eq_ok_iff.2 ⟨next, hline, hk⟩⟩

/-! ## Whole documents -/

variable {owner : Nat} {bytes : List UInt8}

/-- A document that is delivered whole is read line by line. -/
theorem read_bytes_eq_ok_iff :
    read owner { bytes } = .ok k ↔ (empty owner).readLines 1 (Document.lines bytes) = .ok k := by
  rw [read_eq_ok_iff]
  exact and_iff_right rfl

theorem exists_read_of_records (owner : Nat)
    (hrecords : Document.Records (Document.lines bytes) records)
    (hadmissible : Document.Admissible records) : ∃ k, read owner { bytes } = .ok k := by
  obtain ⟨k, hk⟩ := (Follows.empty owner).exists_readLines hrecords hadmissible
  exact ⟨k, read_bytes_eq_ok_iff.2 hk⟩

theorem follows_of_read (h : read owner { bytes } = .ok k) :
    ∃ records, Document.Records (Document.lines bytes) records ∧ k.Follows records := by
  obtain ⟨records, hrecords, _, hfollows⟩ :=
    (Follows.empty owner).of_readLines (read_bytes_eq_ok_iff.1 h)
  exact ⟨records, hrecords, hfollows⟩

/-- The reader accepts exactly the documents: the lines have records, and every record fits those
before it.  What it builds is what the records describe. -/
theorem read_correct (owner : Nat) (bytes : List UInt8) :
    ((∃ g, read owner { bytes } = .ok g) ↔ ∃ lines records, Document.Lines bytes lines ∧
      Document.Records lines records ∧ Document.Admissible records) ∧
    ∀ g, read owner { bytes } = .ok g → ∃ lines records, Document.Lines bytes lines ∧
      Document.Records lines records ∧ g.snapshot = .ofRecords records := by
  have hlines := Document.lines_lines bytes
  refine ⟨⟨?_, ?_⟩, ?_⟩
  · intro hgiven
    obtain ⟨g, hg⟩ := hgiven
    obtain ⟨records, hrecords, hfollows⟩ := follows_of_read hg
    exact ⟨_, records, hlines, hrecords, hfollows.admissible⟩
  · intro hgiven
    obtain ⟨lines, records, hsplit, hrecords, hadmissible⟩ := hgiven
    obtain rfl := Document.lines_iff.1 hsplit
    exact exists_read_of_records owner hrecords hadmissible
  · intro g hg
    obtain ⟨records, hrecords, hfollows⟩ := follows_of_read hg
    exact ⟨_, records, hlines, hrecords, hfollows.snapshot_eq⟩

/-- A document with a comment, line ends of two bytes and a last line without a line end. -/
def commentedLoop : String := "# a loop\r\nstate a 1 -1\r\ninitial a\ntransition a ? a"

theorem read_correct_commentedLoop : ∃ g lines records, read 0 (.ofText commentedLoop) = .ok g ∧
    Document.Records lines records ∧ g.snapshot = .ofRecords records := by
  have hok : (read 0 (.ofText commentedLoop)).toBool = true := by decide +kernel
  cases hread : read 0 (.ofText commentedLoop) with
  | error error => simp [hread, Except.toBool] at hok
  | ok g =>
    obtain ⟨lines, records, _, hrecords, hsnapshot⟩ :=
      (read_correct 0 (Document.encode commentedLoop)).2 g hread
    exact ⟨g, lines, records, rfl, hrecords, hsnapshot⟩

end Graph

end NfaWorkbench
