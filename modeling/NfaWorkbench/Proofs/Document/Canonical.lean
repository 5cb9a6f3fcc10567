import NfaWorkbench.Proofs.Document.Grammar
import NfaWorkbench.Proofs.Document.Reading
import NfaWorkbench.Proofs.Snapshot.Valid
set_option autoImplicit false

/-!
# Documents: the canonical document

The canonical document of a graph is read again, into a graph that differs by its identifiers and
the status of its simulation only.  On the way from the one graph to the other: the records of a
valid snapshot are admissible and describe that snapshot, their lines are found again in the bytes,
and every line is read as its record.
-/

namespace NfaWorkbench

/-! ## The records of a valid snapshot -/

namespace Document

variable {α : Type}

/-- A block of records fits if each of them fits after those before it in the block. -/
theorem fitsAfter_map {earlier : List Record} {l : List α} {f : α → Record}
    (h : ∀ before a after, l = before ++ a :: after →
      (f a).Fits (declaredNames (earlier ++ before.map f)) (edges (earlier ++ before.map f))) :
    FitsAfter earlier (l.map f) := by
  intro before r after heq
  obtain ⟨front, back, rfl, rfl, hback⟩ := List.map_eq_append_iff.1 heq
  obtain ⟨a, rest, rfl, rfl, rfl⟩ := List.map_eq_cons_iff.1 hback
  exact h front a rest rfl

theorem declaredNames_append (records later : List Record) :
    declaredNames (records ++ later) = declaredNames records ++ declaredNames later :=
  List.filterMap_append

theorem edges_append (records later : List Record) :
    edges (records ++ later) = edges records ++ edges later :=
  List.filterMap_append

theorem declaredNames_map_stateRecord (l : List StateSnapshot) :
    declaredNames (l.map Snapshot.stateRecord) = l.map (·.name) := by
  induction l with
  | nil => rfl
  | cons v rest ih => exact congrArg (v.name :: ·) ih

theorem declaredNames_map_transitionRecord (l : List TransitionSnapshot) :
    declaredNames (l.map Snapshot.transitionRecord) = [] := by
  induction l with
  | nil => rfl
  | cons t rest ih => exact ih

theorem edges_map_transitionRecord (l : List TransitionSnapshot) :
    edges (l.map Snapshot.transitionRecord) = l := by
  induction l with
  | nil => rfl
  | cons t rest ih => exact congrArg (t :: ·) ih

theorem edges_map_stateRecord (l : List StateSnapshot) :
    edges (l.map Snapshot.stateRecord) = [] := by
  induction l with
  | nil => rfl
  | cons v rest ih => exact ih

end Document

namespace Snapshot

variable {s : Snapshot}

open Document

theorem Valid.admissible_stateRecords (h : s.Valid) :
    Admissible (s.states.map stateRecord) := by
  refine fitsAfter_map ?_
  intro before v after heq
  have hmem : v ∈ s.states := by simp [heq]
  have hnodup := h.names_nodup
  rw [names, heq, List.map_append, List.map_cons, List.nodup_append] at hnodup
  rw [List.nil_append, declaredNames_map_stateRecord]
  exact ⟨h.name_valid v hmem, fun hbefore => hnodup.2.2 _ hbefore _ List.mem_cons_self rfl⟩

theorem Valid.fitsAfter_transitionRecords (h : s.Valid) :
    FitsAfter (s.states.map stateRecord) (s.transitions.map transitionRecord) := by
  refine fitsAfter_map ?_
  intro before t after heq
  have hmem : t ∈ s.transitions := by simp [heq]
  obtain ⟨hsource, htarget⟩ := h.endpoints t hmem
  have hnodup := h.transitions_nodup
  rw [heq, List.nodup_append] at hnodup
  rw [declaredNames_append, edges_append, declaredNames_map_stateRecord,
    declaredNames_map_transitionRecord, edges_map_stateRecord, edges_map_transitionRecord,
    List.append_nil, List.nil_append]
  refine ⟨hsource, htarget, h.label_valid t hmem, ?_⟩
  exact fun hbefore => hnodup.2.2 _ hbefore _ List.mem_cons_self rfl

/-- Records of flags fit wherever the states are declared. -/
theorem fitsAfter_flagRecords {earlier : List Record} {f : String → Record}
    (hf : ∀ name names edges, name ∈ names → (f name).Fits names edges)
    (hearlier : ∀ v ∈ s.states, v.name ∈ declaredNames earlier) (p : StateSnapshot → Bool) :
    FitsAfter earlier ((s.states.filter p).map fun v => f v.name) := by
  refine fitsAfter_map ?_
  intro before v after heq
  have hfilter : v ∈ s.states.filter p := by simp [heq]
  have hdeclared := hearlier v (List.mem_of_mem_filter hfilter)
  exact hf _ _ _ (declaredNames_subset hdeclared)

/-- The canonical records of a valid snapshot are a document: states, then transitions between them,
then their flags. -/
theorem Valid.admissible_records (h : s.Valid) : Admissible s.records := by
  have hdeclared : ∀ later, ∀ v ∈ s.states,
      v.name ∈ declaredNames (s.states.map stateRecord ++ later) := by
    intro later v hv
    rw [declaredNames_append, declaredNames_map_stateRecord]
    exact List.mem_append_left _ (List.mem_map_of_mem hv)
  have hinitial := fitsAfter_flagRecords (f := .initial) (fun _ _ _ hname => hname)
    (hdeclared (s.transitions.map transitionRecord)) (·.initial)
  have hfinal := fitsAfter_flagRecords (f := .final) (fun _ _ _ hname => hname)
    (hdeclared (s.transitions.map transitionRecord ++
      (s.states.filter (·.initial)).map fun v => .initial v.name)) (·.final)
  rw [← List.append_assoc] at hfinal
  rw [records, admissible_append_iff, admissible_append_iff, admissible_append_iff]
  exact ⟨⟨⟨h.admissible_stateRecords, h.fitsAfter_transitionRecords⟩, hinitial⟩, hfinal⟩

/-- A name belongs to a state with some flag exactly if its state has the flag. -/
theorem Valid.exists_flagged_iff (h : s.Valid) {v : StateSnapshot} (hv : v ∈ s.states)
    (p : StateSnapshot → Bool) :
    (∃ w, (w ∈ s.states ∧ p w = true) ∧ w.name = v.name) ↔ p v = true := by
  constructor
  · intro hgiven
    obtain ⟨w, ⟨hw, hflag⟩, hname⟩ := hgiven
    rwa [← h.state_unique hw hv hname]
  · intro hflag
    exact ⟨v, ⟨hv, hflag⟩, rfl⟩

theorem Valid.initial_mem_records_iff (h : s.Valid) {v : StateSnapshot} (hv : v ∈ s.states) :
    Record.initial v.name ∈ s.records ↔ v.initial = true := by
  rw [← h.exists_flagged_iff hv (·.initial)]
  simp [records, stateRecord, transitionRecord]

theorem Valid.final_mem_records_iff (h : s.Valid) {v : StateSnapshot} (hv : v ∈ s.states) :
    Record.final v.name ∈ s.records ↔ v.final = true := by
  rw [← h.exists_flagged_iff hv (·.final)]
  simp [records, stateRecord, transitionRecord]

/-- The states that the canonical records describe, with the flags that some records set. -/
theorem filterMap_stateSnapshot?_records (s : Snapshot) (flags : List Record) :
    s.records.filterMap (Record.stateSnapshot? flags) = s.states.map fun v =>
      { v with
        initial := decide (.initial v.name ∈ flags)
        final := decide (.final v.name ∈ flags)
        current := false } := by
  simp [records, List.filterMap_append, List.filterMap_map, Function.comp_def, stateRecord,
    transitionRecord, Record.stateSnapshot?]

theorem edges_records (s : Snapshot) : edges s.records = s.transitions := by
  simp [edges, records, List.filterMap_append, List.filterMap_map, Function.comp_def, stateRecord,
    transitionRecord, Record.edge?]

/-- Records describe no running simulation. -/
@[simp]
theorem atRest_ofRecords (records : List Record) : (ofRecords records).atRest = ofRecords records := by
  refine Snapshot.ext rfl ?_ rfl
  simp only [atRest, ofRecords, List.map_filterMap]
  congr 1
  funext r
  cases r <;> rfl

/-- The records of a valid snapshot describe that snapshot, but for the status of the simulation. -/
theorem Valid.ofRecords_records (h : s.Valid) : ofRecords s.records = s.atRest := by
  refine Snapshot.ext rfl ?_ (edges_records s)
  refine (filterMap_stateSnapshot?_records s s.records).trans ?_
  apply List.map_congr_left
  intro v hv
  simp [h.initial_mem_records_iff hv, h.final_mem_records_iff hv]

end Snapshot

/-! ## The lines of valid records -/

namespace Document

/-- A line end in the bytes of a text is one in the text. -/
theorem lineEnds_not_mem_encode {text : String} (h : ∀ c ∈ text.toList, c ≠ '\n' ∧ c ≠ '\r') :
    lineFeed ∉ encode text ∧ carriageReturn ∉ encode text := by
  constructor
  · intro hmem
    obtain ⟨c, hc, hcode⟩ := exists_char_of_mem_encode (by decide) hmem
    exact (h c hc).1 (Char.toNat_inj.1 hcode)
  · intro hmem
    obtain ⟨c, hc, hcode⟩ := exists_char_of_mem_encode (by decide) hmem
    exact (h c hc).2 (Char.toNat_inj.1 hcode)

/-- The lines of texts that are written one after another, each with a line feed. -/
theorem lines_encode_join (texts : List String)
    (h : ∀ text ∈ texts, ∀ c ∈ text.toList, c ≠ '\n' ∧ c ≠ '\r') :
    lines (encode (String.join (texts.map (· ++ "\n")))) = texts.map encode := by
  induction texts with
  | nil => simp [encode_eq_flatMap, lines, splitLines]
  | cons text rest ih =>
    obtain ⟨htext, hrest⟩ := List.forall_mem_cons.1 h
    obtain ⟨hfeed, hreturn⟩ := lineEnds_not_mem_encode htext
    have hbytes : encode (String.join ((text :: rest).map (· ++ "\n"))) =
        encode text ++ lineFeed :: encode (String.join (rest.map (· ++ "\n"))) := by
      have hend : encode "\n" = [lineFeed] := by decide +kernel
      simp [String.join_cons, hend]
    have hlast : (encode text).getLast? ≠ some carriageReturn :=
      fun heq => hreturn (List.mem_of_getLast? heq)
    rw [hbytes, lines_append hfeed, dropCarriageReturn_of_ne hlast, ih hrest, List.map_cons]

/-- Valid records are found again in the lines that they are written in. -/
theorem records_of_valid {records : List Record} (h : ∀ r ∈ records, r.Valid) :
    Records (records.map fun r => encode r.render) records := by
  induction records with
  | nil => exact .nil
  | cons r rest ih =>
    obtain ⟨hr, hrest⟩ := List.forall_mem_cons.1 h
    exact .record (decodeLine_eq_some_iff.2 rfl) hr.read_render (ih hrest)

theorem records_lines_join {records : List Record} (h : ∀ r ∈ records, r.Valid) :
    Records (lines (encode (String.join (records.map fun r => r.render ++ "\n")))) records := by
  have hlines := lines_encode_join (records.map Record.render) (by
    simp only [List.mem_map, forall_exists_index, and_imp, forall_apply_eq_imp_iff₂]
    exact fun r hr => (h r hr).not_lineEnd)
  simp only [List.map_map, Function.comp_def] at hlines
  rw [hlines]
  exact records_of_valid h

end Document

theorem Snapshot.Valid.valid_of_mem_records {s : Snapshot} (h : s.Valid) :
    ∀ r ∈ s.records, r.Valid := by
  have hname : ∀ {name}, name ∈ s.names → IsName name := by
    intro name hmem
    obtain ⟨v, hv, rfl⟩ := List.mem_map.1 hmem
    exact h.name_valid v hv
  intro r hr
  simp only [records, List.mem_append, List.mem_map, List.mem_filter] at hr
  rcases hr with ((⟨v, hv, rfl⟩ | ⟨t, ht, rfl⟩) | ⟨v, ⟨hv, _⟩, rfl⟩) | ⟨v, ⟨hv, _⟩, rfl⟩
  · exact h.name_valid v hv
  · obtain ⟨hsource, htarget⟩ := h.endpoints t ht
    exact ⟨hname hsource, hname htarget, h.label_valid t ht⟩
  · exact h.name_valid v hv
  · exact h.name_valid v hv

/-! ## There and back -/

namespace Graph

variable {g : Graph}

/-- The canonical document of a consistent graph is read again, into a graph with its snapshot. -/
theorem Consistent.exists_parse_serialize (hg : g.Consistent) (owner : Nat) :
    ∃ b, parse owner g.serialize = .ok b ∧ b.snapshot = g.snapshot.atRest ∧
      b.serialize = g.serialize := by
  have hvalid := hg.snapshot_valid
  have hrecords := Document.records_lines_join hvalid.valid_of_mem_records
  rw [← hg.serialize_eq] at hrecords
  obtain ⟨b, hb⟩ := exists_read_of_records owner hrecords hvalid.admissible_records
  have hsnapshot : b.snapshot = g.snapshot.atRest := by
    obtain ⟨records, hfound, hfollows⟩ := follows_of_read hb
    rw [hfollows.snapshot_eq, hfound.unique hrecords, hvalid.ofRecords_records]
  refine ⟨b, hb, hsnapshot, ?_⟩
  rw [(consistent_of_read hb).serialize_eq, hsnapshot, Snapshot.records_atRest, ← hg.serialize_eq]

end Graph

namespace Automaton

/-- Whatever was done with an automaton: its document is read again, and what is read has its states
and transitions, but no running simulation.  So a document that was read and written is what it was
after any number of further readings. -/
theorem Reachable.parse_serialize {a : Automaton} (h : a.Reachable) (owner : Nat) :
    (∃ b, Graph.parse owner a.graph.serialize = .ok b ∧ b.snapshot = a.graph.snapshot.atRest ∧
      b.serialize = a.graph.serialize) ∧
    ∀ number source g, Graph.read number source = .ok g →
      ∃ b, Graph.parse owner g.serialize = .ok b ∧ b.serialize = g.serialize := by
  refine ⟨h.consistent.exists_parse_serialize owner, ?_⟩
  intro number source g hg
  obtain ⟨b, hb, _, hsame⟩ := (Graph.consistent_of_read hg).exists_parse_serialize owner
  exact ⟨b, hb, hsame⟩

/-- The simulation of the automaton that is written is running, and its states are not numbered in a
row. -/
theorem sample_parse_serialize : sample.graph.snapshot.active = true ∧
    ∃ b, Graph.parse 7 sample.graph.serialize = .ok b ∧
      b.snapshot = sample.graph.snapshot.atRest ∧ b.serialize = "state a 0 0\nstate b 0 0\n"
        ++ "transition a x a\ntransition a y b\ntransition b ? a\ninitial a\nfinal b\n" := by
  obtain ⟨⟨b, hb, hsnapshot, hsame⟩, _⟩ := reachable_sample.parse_serialize 7
  refine ⟨by decide +kernel, b, hb, hsnapshot, ?_⟩
  rw [hsame]
  decide +kernel

end Automaton

end NfaWorkbench
