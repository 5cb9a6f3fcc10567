import NfaWorkbench.Editor.Terminal
import NfaWorkbench.Proofs.Editor.Documents
import NfaWorkbench.Proofs.Editor.Remembering
set_option autoImplicit false

/-!
# Editor: saving and loading

What a session saves to a file is the canonical document of its automaton.  Any session that loads
the file gets the automaton back, without the status of its simulation.  That session remembers the
file, and saves the same bytes to it if it is not told where to save.

A user who asks to see the automaton is shown the same document, without the line feed at its end.
-/

namespace NfaWorkbench

/-! ## The document that is shown -/

namespace Text

/-- Joined words end as the last one of them does. -/
theorem getLast?_intercalate (separator : String) (words : List String) {last : String}
    (h : last.toList ≠ []) :
    (separator.intercalate (words ++ [last])).toList.getLast? = last.toList.getLast? := by
  induction words with
  | nil => simp
  | cons word rest ih =>
    obtain ⟨next, others, hrest⟩ := List.exists_cons_of_ne_nil (List.append_ne_nil_of_right_ne_nil
      rest (List.cons_ne_nil last []))
    rw [hrest, String.toList_intercalate] at ih
    rw [List.cons_append, hrest, String.toList_intercalate]
    simp only [List.map_cons] at ih ⊢
    rw [List.intercalate_cons_cons, List.getLast?_append, ih]
    obtain ⟨c, hc⟩ := Option.isSome_iff_exists.1 (List.getLast?_isSome.2 h)
    rw [hc]
    rfl

/-- Lines with a line feed each are lines with line feeds in between, and one more. -/
theorem join_lines (first : String) (rest : List String) :
    String.join ((first :: rest).map (· ++ "\n")) =
      "\n".intercalate (first :: rest) ++ "\n" := by
  induction rest generalizing first with
  | nil => simp [String.join_cons]
  | cons next rest ih =>
    rw [List.map_cons, String.join_cons, ih next]
    simp [String.append_assoc]

end Text

/-- The line of a record does not end with a blank. -/
theorem Record.Valid.exists_last {r : Record} (h : r.Valid) :
    ∃ c, r.render.toList.getLast? = some c ∧ Text.isBlank c = false := by
  have hlast : ∀ (words : List String) (last : String), r.toTokens = words ++ [last] →
      Text.IsWord last → ∃ c, r.render.toList.getLast? = some c ∧ Text.isBlank c = false := by
    intro words last htokens hword
    obtain ⟨c, hc⟩ := Option.isSome_iff_exists.1 (List.getLast?_isSome.2 hword.1)
    refine ⟨c, ?_, hword.2 c (List.mem_of_getLast? hc)⟩
    rw [render, htokens, Text.getLast?_intercalate " " words hword.1, hc]
  cases r with
  | state name position =>
    exact hlast ["state", name, position.x.render] position.y.render rfl
      (Text.isWord_of_parse? position.y.parse?_render)
  | transition source label target =>
    exact hlast ["transition", source, renderLabel label] target rfl (Text.isWord_of_isName h.2.1)
  | initial name => exact hlast ["initial"] name rfl (Text.isWord_of_isName h)
  | final name => exact hlast ["final"] name rfl (Text.isWord_of_isName h)

namespace Graph

variable {g : Graph}

theorem records_ne_nil (h : g.states ≠ []) : g.records ≠ [] := by
  simp [records, stateRecords, h]

theorem serialize_eq_trimmed (h : g.states ≠ []) : g.serialize = g.serializeTrimmed ++ "\n" := by
  obtain ⟨first, rest, hrecords⟩ := List.exists_cons_of_ne_nil (records_ne_nil h)
  have hlines : g.recordLines = (g.records.map Record.render).map (· ++ "\n") := by
    simp [recordLines]
  rw [serialize, hlines, serializeTrimmed, hrecords]
  exact Text.join_lines first.render (rest.map Record.render)

/-- The line feed at the end is all that is lost if the blanks at the end of the document are taken
away. -/
theorem Consistent.serializeTrimmed_eq_rdropWhile (hg : g.Consistent) (h : g.states ≠ []) :
    g.serializeTrimmed = String.ofList (g.serialize.toList.rdropWhile Text.isBlank) := by
  obtain ⟨front, r, hrecords⟩ := (g.records.eq_nil_or_concat').resolve_left (records_ne_nil h)
  have hvalid : r.Valid := by
    refine hg.snapshot_valid.valid_of_mem_records r ?_
    rw [← hg.records_eq, hrecords]
    simp
  obtain ⟨c, hc, hblank⟩ := hvalid.exists_last
  have hlast : g.serializeTrimmed.toList.getLast? = some c := by
    have hne : r.render.toList ≠ [] := fun hnil => by simp [hnil] at hc
    rw [serializeTrimmed, hrecords, List.map_append, List.map_singleton,
      Text.getLast?_intercalate "\n" _ hne, hc]
  have hkept : g.serializeTrimmed.toList.rdropWhile Text.isBlank = g.serializeTrimmed.toList := by
    refine List.rdropWhile_eq_self_iff.2 fun hne => ?_
    obtain rfl := Option.some.inj ((List.getLast?_eq_some_getLast hne).symm.trans hlast)
    simp [hblank]
  have hfeed : Text.isBlank '\n' = true := by decide
  rw [serialize_eq_trimmed h, String.toList_append, show "\n".toList = ['\n'] from rfl,
    List.rdropWhile_concat_pos _ _ _ hfeed, hkept, String.ofList_toList]

end Graph

namespace Editor.Session

variable {s : Session} {d e : Directory} {g : Graph} {line path : String} {file : Option String}
  {history : List Turn}

/-! ## Lines that save and load -/

/-- The line saves the automaton to a file, which is remembered, and nothing else happens. -/
structure Saves (s : Session) (d : Directory) (line path : String) : Prop where
  reply_eq : (s.execute d line).1 = .answer [] (.saved path)
  stored : Directory.Stored d (s.execute d line).2.2 path s.graph
  session_eq : (s.execute d line).2.1 = { s with path := some path }

/-- The line loads the automaton of a file, which is remembered, and no file changes. -/
structure Loads (s : Session) (d : Directory) (line path : String) : Prop where
  reply_eq : (s.execute d line).1 = .answer [] (.loaded path (s.execute d line).2.1.graph)
  load_eq : d.load s.nextOwner path = .ok (s.execute d line).2.1.graph
  path_eq : (s.execute d line).2.1.path = some path
  directory_eq : (s.execute d line).2.2 = d

theorem settle_eq_of_log (h : s.log = []) (response : Response) :
    settle (.ok response, s) = (.answer [] response, s) := by
  obtain ⟨automaton, path, log, watch⟩ := s
  obtain rfl : log = [] := h
  simp [settle]

theorem Ready.execute_save (hs : s.Ready) (hread : Command.read line = some (.ok (.save file)))
    (htarget : file.or s.path = some path) (hsave : d.save path s.graph = .ok e) :
    s.execute d line = (.answer [] (.saved path), { s with path := some path }, e) := by
  have hlog : ({ s with path := some path } : Session).log = [] := hs.log_eq
  have hok : s.save d file = ((.ok (.saved path), { s with path := some path }), e) := by
    simp only [save, target, htarget, hsave]
  rw [execute_eq_perform hread, Session.perform, hok, settle_eq_of_log hlog]

theorem Ready.saves (hs : s.Ready) (hread : Command.read line = some (.ok (.save file)))
    (htarget : file.or s.path = some path) (hsave : d.save path s.graph = .ok e) :
    s.Saves d line path := by
  have hexecute := hs.execute_save hread htarget hsave
  constructor
  · rw [hexecute]
  · rw [hexecute]
    exact Directory.stored_of_save hsave
  · rw [hexecute]

theorem execute_load (hload : Command.IsLoad line path) (hfile : d.load s.nextOwner path = .ok g) :
    s.execute d line =
      (.answer [] (.loaded path g), { s.begun g with path := some path }, d) := by
  have hlog : ({ s.begun g with path := some path } : Session).log = [] := log_begun s g
  rw [execute_eq_perform (Command.read_eq_load_iff.2 hload), perform, load_eq_ok hfile,
    settle_eq_of_log hlog]

theorem loads (hload : Command.IsLoad line path) (hfile : d.load s.nextOwner path = .ok g) :
    s.Loads d line path := by
  have hexecute := execute_load hload hfile
  have hgraph : (s.execute d line).2.1.graph = g := by
    rw [hexecute]
    exact graph_begun s g
  constructor
  · rw [hgraph, hexecute]
  · rw [hgraph, hfile]
  · rw [hexecute]
  · rw [hexecute]

/-- A reply that tells of a file tells the truth: the file was loaded, or the automaton is in it. -/
theorem Ready.loads_or_saves (hs : s.Ready) (h : (s.execute d line).1.file? = some path) :
    s.Loads d line path ∨ s.Saves d line path := by
  cases hread : Command.read line with
  | none => simp [Session.execute, hread, Reply.file?] at h
  | some result =>
    cases result with
    | error reason => simp [Session.execute, hread, Reply.file?] at h
    | ok command =>
      rw [execute_eq_perform hread] at h
      cases command with
      | quit => simp [Session.perform, Reply.file?] at h
      | load file =>
        have hfile : (s.load d file).1.toOption.bind Response.file? = some path :=
          (file?_settle (s.load d file)).symm.trans h
        cases hload : d.load s.nextOwner file with
        | error error => simp [load_eq_error hload, Except.toOption] at hfile
        | ok g =>
          rw [load_eq_ok hload] at hfile
          obtain rfl : file = path := Option.some.inj hfile
          exact .inl (loads (Command.read_eq_load_iff.1 hread) hload)
      | save file =>
        obtain ⟨reason, hsave⟩ | ⟨other, e, htarget, hwrite, hsave⟩ := save_cases s d file
        · simp [Session.perform, hsave, Session.settle, Reply.file?] at h
        · rw [Session.perform, hsave] at h
          obtain rfl : other = path := Option.some.inj h
          exact .inr (hs.saves hread htarget hwrite)
      | edit command => simp [file?_perform_edit] at h

/-- Without a file to save to the user is told to give one. -/
theorem execute_save_none (hread : Command.read line = some (.ok (.save none)))
    (hpath : s.path = none) : s.execute d line = (.refused (.usage "save <file>"), s, d) := by
  have herror : s.save d none = ((.error (.usage "save <file>"), s), d) := by
    simp [save, target, hpath]
  rw [execute_eq_perform hread, Session.perform, herror]
  rfl

/-- A session that knows its file saves to it, in whatever directory. -/
theorem Ready.saves_of_path (hs : s.Ready) (hread : Command.read line = some (.ok (.save none)))
    (hpath : s.path = some path) (hfile : Directory.IsFilePath path) (d : Directory) :
    s.Saves d line path := by
  obtain ⟨e, hwrite⟩ := hfile.exists_write d (Document.encode s.graph.serialize)
  exact hs.saves hread hpath hwrite

/-- A session that saves what is in its file already changes no file. -/
theorem Ready.saves_again (hs : s.Ready) (hread : Command.read line = some (.ok (.save none)))
    (hpath : s.path = some path) (hfile : d.read path = .ok (Document.encode s.graph.serialize)) :
    s.Saves d line path ∧ ∀ other, (s.execute d line).2.2.file? other = d.file? other := by
  obtain ⟨e, hwrite⟩ := (Directory.isFilePath_of_read hfile).exists_write d
    (Document.encode s.graph.serialize)
  have hexecute := hs.execute_save hread hpath hwrite
  refine ⟨hs.saves hread hpath hwrite, fun other => ?_⟩
  rw [hexecute]
  exact Directory.file?_of_rewrite hfile hwrite other

/-- A file with the document of a graph is loaded, whatever the session was, and the graph is there
again.  Then the session saves the same bytes to the same file. -/
theorem loads_of_read (s : Session) (hg : g.Consistent)
    (hfile : d.read path = .ok (Document.encode g.serialize)) (hload : Command.IsLoad line path) :
    s.Loads d line path ∧ (s.execute d line).2.1.graph.snapshot = g.snapshot.atRest ∧
    ∀ plain, Command.read plain = some (.ok (.save none)) →
      (s.execute d line).2.1.Saves d plain path ∧
      ((s.execute d line).2.1.execute d plain).2.2.read path = d.read path ∧
      ∀ other, ((s.execute d line).2.1.execute d plain).2.2.file? other = d.file? other := by
  obtain ⟨b, hparse, hsnapshot, hsame⟩ := hg.exists_parse_serialize s.nextOwner
  have hb : d.load s.nextOwner path = .ok b := Directory.load_eq_ok_iff.2 ⟨_, hfile, hparse⟩
  have hloads : s.Loads d line path := loads hload hb
  have hgraph : (s.execute d line).2.1.graph = b :=
    Except.ok.inj (hloads.load_eq.symm.trans hb)
  have hready : (s.execute d line).2.1.Ready := by
    have hafter := ready_load s d path
    rw [load_eq_ok hb] at hafter
    rw [execute_load hload hb]
    exact hafter
  refine ⟨hloads, hgraph ▸ hsnapshot, fun plain hplain => ?_⟩
  have hsaved : d.read path = .ok (Document.encode (s.execute d line).2.1.graph.serialize) := by
    rw [hgraph, hsame, hfile]
  obtain ⟨hsaves, hfiles⟩ := hready.saves_again hplain hloads.path_eq hsaved
  exact ⟨hsaves, hsaves.stored.read_eq.trans hsaved.symm, hfiles⟩

/-- The automaton is shown as its document, without the line feed at the end. -/
theorem Ready.execute_display (hs : s.Ready)
    (hread : Command.read line = some (.ok (.edit .display))) :
    s.execute d line = (.answer [] (.document s.graph), s, d) := by
  have hedit : s.edit .display = (.ok (.document s.graph), s) := rfl
  rw [execute_eq_perform hread, Session.perform, hedit, settle_eq_of_log hs.log_eq]

theorem render_document (p : Text.Palette) (h : g.states ≠ []) :
    (Reply.answer [] (.document g)).render p = g.serializeTrimmed := by
  have hstates : ¬g.states.isEmpty = true := mt List.isEmpty_iff.1 h
  change (if g.states.isEmpty then p.paint .dimmed "(empty)" else g.serializeTrimmed) = _
  exact if_neg hstates

/-- A line that saves to a file leaves the document of the automaton in it, and changes no other
file.  As long as the file stays as it is, every session that loads it gets the automaton back,
without the status of its simulation, and saves the same bytes to it when it is not told where to
save.

Without being told a session saves to the file of the last line that has loaded or saved one, if
none since has begun a new automaton or has failed to load.  Otherwise it refuses, and touches no
file.  An automaton with states is shown as its document, without the line feed at the end. -/
theorem Reachable.saving_correct (h : s.Reachable) :
    (∀ d line path changes response, Command.read line = some (.ok (.save (some path))) →
      (s.execute d line).1 = .answer changes response →
      s.Saves d line path ∧
      ∀ (t : Session) (e : Directory) (again : String),
        e.read path = (s.execute d line).2.2.read path → Command.IsLoad again path →
        t.Loads e again path ∧
        (t.execute e again).2.1.graph.snapshot = s.graph.snapshot.atRest ∧
        ∀ plain, Command.read plain = some (.ok (.save none)) →
          (t.execute e again).2.1.Saves e plain path ∧
          ((t.execute e again).2.1.execute e plain).2.2.read path = e.read path ∧
          ∀ other, ((t.execute e again).2.1.execute e plain).2.2.file? other = e.file? other) ∧
    (∀ d line path, (s.execute d line).1.file? = some path →
      s.Loads d line path ∨ s.Saves d line path) ∧
    (∃ history, Course history s) ∧
    (∀ history, Course history s → ∀ d line, Command.read line = some (.ok (.save none)) →
      (∀ path, Remembered history path → s.Saves d line path) ∧
      ((¬∃ path, Remembered history path) →
        s.execute d line = (.refused (.usage "save <file>"), s, d))) ∧
    ∀ d line p, Command.read line = some (.ok (.edit .display)) → s.graph.states ≠ [] →
      (s.execute d line).1.render p ++ "\n" = s.graph.serialize ∧
      (s.execute d line).1.render p =
        String.ofList (s.graph.serialize.toList.rdropWhile Text.isBlank) ∧
      (s.execute d line).2 = (s, d) := by
  have hs := h.ready
  refine ⟨?_, fun d line path => hs.loads_or_saves, h.exists_course, ?_, ?_⟩
  · intro d line path changes response hread hanswer
    have hsaves : s.Saves d line path := by
      obtain ⟨reason, hsave⟩ | ⟨other, e, htarget, hwrite, -⟩ := save_cases s d (some path)
      · simp [execute_eq_perform hread, Session.perform, hsave, Session.settle] at hanswer
      · obtain rfl : path = other := Option.some.inj htarget
        exact hs.saves hread rfl hwrite
    refine ⟨hsaves, fun t e again hsame hload => ?_⟩
    exact loads_of_read t hs.consistent (hsame.trans hsaves.stored.read_eq) hload
  · intro history hcourse d line hread
    have hrecalls := hcourse.recalls
    refine ⟨fun path hremembered => ?_, fun hnone => ?_⟩
    · have hpath := (hrecalls.path_iff path).2 hremembered
      exact hs.saves_of_path hread hpath (hrecalls.isFilePath path hpath) d
    · refine execute_save_none hread (Option.eq_none_iff_forall_ne_some.2 fun path hpath => ?_)
      exact hnone ⟨path, (hrecalls.path_iff path).1 hpath⟩
  · intro d line p hread hstates
    rw [hs.execute_display hread, render_document p hstates]
    exact ⟨(Graph.serialize_eq_trimmed hstates).symm,
      hs.consistent.serializeTrimmed_eq_rdropWhile hstates, rfl⟩

/-- An automaton whose simulation is running is saved, loaded by a session that has just begun, and
shown.  A session without a file does not save. -/
theorem sample_saving_correct : sample.Reachable ∧ sample.graph.snapshot.active = true ∧
    sample.Saves ⟨[]⟩ "save m" "m" ∧
    (start false).Loads (sample.execute ⟨[]⟩ "save m").2.2 "load m" "m" ∧
    ((start false).execute (sample.execute ⟨[]⟩ "save m").2.2 "load m").2.1.graph.snapshot =
      sample.graph.snapshot.atRest ∧
    (sample.execute ⟨[]⟩ "save m").2.1.Saves ⟨[]⟩ "SAVE" "m" ∧
    (start false).execute ⟨[]⟩ "SAVE" = (.refused (.usage "save <file>"), start false, ⟨[]⟩) ∧
    ∀ p, (sample.execute ⟨[]⟩ "show").1.render p ++ "\n" =
      "state a 0 0\nstate b 1 0\ntransition a x b\ninitial a\n" := by
  have hread : Command.read "save m" = some (.ok (.save (some "m"))) := by decide +kernel
  have hplain : Command.read "SAVE" = some (.ok (.save none)) := by decide +kernel
  have hshow : Command.read "show" = some (.ok (.edit .display)) := by decide +kernel
  have hload : Command.IsLoad "load m" "m" := ⟨"load", by decide +kernel, by decide +kernel⟩
  have hanswer : (sample.execute ⟨[]⟩ "save m").1 = .answer [] (.saved "m") := by
    rw [Session.execute, hread]
    rfl
  obtain ⟨hsave, -, ⟨history, hcourse⟩, -, hdisplay⟩ := reachable_sample.saving_correct
  obtain ⟨hsaves, hloads⟩ := hsave ⟨[]⟩ "save m" "m" [] (.saved "m") hread hanswer
  obtain ⟨hloaded, hsnapshot, -⟩ := hloads (start false) _ "load m" rfl hload
  have hsaved := hcourse.execute ⟨[]⟩ "save m"
  have hremembered :
      Remembered (history ++ [.line "save m" (sample.execute ⟨[]⟩ "save m").1]) "m" :=
    remembered_concat_iff.2 (.inl (congrArg Reply.file? hanswer))
  have hnone : ¬∃ path, Remembered [] path := not_exists.2 not_remembered_nil
  refine ⟨reachable_sample, by decide +kernel, hsaves, hloaded, hsnapshot, ?_, ?_, fun p => ?_⟩
  · exact (hsaved.reachable.saving_correct.2.2.2.1 _ hsaved ⟨[]⟩ "SAVE" hplain).1 "m" hremembered
  · exact ((Reachable.start false).saving_correct.2.2.2.1 [] (.start false) ⟨[]⟩ "SAVE" hplain).2
      hnone
  · rw [(hdisplay ⟨[]⟩ "show" p hshow (by decide +kernel)).1]
    decide +kernel

end Editor.Session

end NfaWorkbench
