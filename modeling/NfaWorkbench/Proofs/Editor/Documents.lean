import NfaWorkbench.Proofs.Document.Encoding
import NfaWorkbench.Proofs.Document.FirstError
import NfaWorkbench.Proofs.Editor.Reachable
import NfaWorkbench.Proofs.Editor.Words
set_option autoImplicit false

/-!
# Editor: documents as conversations

Whoever types the lines of a document gets the automaton that it describes.  A record is a command of
the same spelling and does the same; a line that is ignored does nothing, and only a comment is
refused.
-/

namespace NfaWorkbench

/-! ## Records that a graph takes -/

namespace Record

variable {r : Record} {kind : RecordKind} {arguments : List String} {text : String}

/-- What the tokens of a record say. -/
inductive Reads : RecordKind → List String → Record → Prop
  | state {name x y : String} {position : Position} (hx : Coordinate.parse? x = some position.x)
      (hy : Coordinate.parse? y = some position.y) :
      Reads .state [name, x, y] (.state name position)
  | transition (source label target : String) :
      Reads .transition [source, label, target] (.transition source (labelOfWord label) target)
  | initial (name : String) : Reads .initial [name] (.initial name)
  | final (name : String) : Reads .final [name] (.final name)

theorem reads_of_ofArguments (h : ofArguments kind arguments = .ok r) : Reads kind arguments r := by
  unfold ofArguments at h
  split at h
  · unfold readState at h
    split at h
    · simp at h
    · rename_i a hx
      split at h
      · simp at h
      · rename_i b hy
        obtain rfl := Except.ok.inj h
        exact .state hx hy
  · obtain rfl := Except.ok.inj h
    exact .transition _ _ _
  · obtain rfl := Except.ok.inj h
    exact .initial _
  · obtain rfl := Except.ok.inj h
    exact .final _
  · simp at h

/-- The tokens of a line that is a record. -/
theorem reads_of_read (h : read text = .ok (some r)) : text.toList.head? ≠ some '#' ∧
    ∃ kind arguments, (tokens text.toList).map String.ofList = kind.keyword :: arguments ∧
      Reads kind arguments r := by
  obtain ⟨hcomment, keyword, arguments, htokens, hof⟩ := read_eq_ok_some_iff.1 h
  unfold ofTokens at hof
  split at hof
  · simp at hof
  · rename_i kind hkind
    obtain rfl := RecordKind.ofKeyword?_eq_some_iff.1 hkind
    exact ⟨hcomment, kind, arguments, htokens, reads_of_ofArguments hof⟩

/-- The tokens of a valid record are words. -/
theorem Reads.isWord (h : Reads kind arguments r) (hvalid : r.Valid) :
    ∀ word ∈ arguments, Text.IsWord word := by
  cases h with
  | state hx hy =>
    simp only [List.forall_mem_cons]
    exact ⟨Text.isWord_of_isName hvalid, Text.isWord_of_parse? hx, Text.isWord_of_parse? hy,
      by simp⟩
  | transition source label target =>
    simp only [List.forall_mem_cons]
    obtain ⟨hsource, htarget, hlabel⟩ := hvalid
    refine ⟨Text.isWord_of_isName hsource, ?_, Text.isWord_of_isName htarget, by simp⟩
    by_cases hepsilon : label = epsilonSign
    · exact hepsilon ▸ Text.isWord_epsilonSign
    · exact Text.isWord_of_isLabel (hlabel label (if_neg hepsilon))
  | initial name => simpa using Text.isWord_of_isName hvalid
  | final name => simpa using Text.isWord_of_isName hvalid

theorem isWord_keyword (kind : RecordKind) : Text.IsWord kind.keyword := by
  cases kind <;> simp [Text.IsWord, RecordKind.keyword, Text.isBlank_eq_false_of_visible]

end Record

namespace Graph

variable {g k : Graph} {r : Record}

/-- The names and the label of a record that is taken are valid. -/
theorem Consistent.valid_of_applyRecord (hg : g.Consistent) (h : g.applyRecord r = .ok k) :
    r.Valid := by
  have hdeclared : ∀ {name s}, g.findState name = some s → IsName name := by
    intro name s hfind
    obtain ⟨state, hstate, rfl⟩ := (hg.findState_eq_some_iff name s).1 hfind
    exact hg.name_valid s state hstate
  cases r with
  | state name position => exact (applyRecord_state_iff.1 h).1
  | transition source label target =>
    obtain ⟨s, t, created, hsource, htarget, hcreate, -⟩ := applyTransition_eq_ok_iff.1 h
    obtain ⟨-, -, hlabel, -⟩ := createTransition_eq_ok_iff.1 hcreate
    exact ⟨hdeclared hsource, hdeclared htarget, hlabel⟩
  | initial name =>
    obtain ⟨s, c, hfind, -⟩ := applyChange_eq_ok_iff.1 h
    exact hdeclared hfind
  | final name =>
    obtain ⟨s, c, hfind, -⟩ := applyChange_eq_ok_iff.1 h
    exact hdeclared hfind

end Graph

namespace Editor

open Automaton (Does)

variable {s : Session} {d : Directory} {g k : Graph} {r : Record} {kind : RecordKind}
  {arguments : List String} {text : String}

namespace Session

/-! ## One line -/

/-- A flag that can be set is set. -/
theorem edit_flag_eq {flag : Flag} {value : Bool} {name : String} {id : StateId} {c : Change}
    (hname : s.graph.findState name = some id)
    (hchange : flagChange s.graph id value flag = .ok c) :
    s.edit (.flag flag value name) = (.ok (.summary c.graph), s.apply c) := by
  simp only [edit, setFlag, require_eq_ok_iff.2 hname, hchange]

/-- A record that the graph takes is a command of the same spelling, and the command makes the same
of the graph. -/
theorem edit_of_reads (hg : s.graph.Consistent) (hreads : Record.Reads kind arguments r)
    (h : s.graph.applyRecord r = .ok k) : ∃ command response,
      Command.ofWords kind.keyword arguments = .ok (.edit command) ∧
        (s.edit command).1 = .ok response ∧ (s.edit command).2.graph = k := by
  cases hreads with
  | @state name x y position hx hy =>
    obtain ⟨created, hcreate, rfl⟩ := Graph.accepted_map_eq_ok_iff.1 h
    obtain ⟨hname, hfree, rfl⟩ := Graph.createState_eq_ok_iff.1 hcreate
    have hedit : s.edit (.state name x y) =
        s.adopt ⟨s.graph.addState name position, [.statesChanged]⟩ (.state s.graph.nextStateId)
          (.createdState name) := by
      rw [edit, createState, coordinates_eq_ok_iff (r := (position.x, position.y)) |>.2 ⟨hx, hy⟩]
      simp only [hcreate]
    have hdoes : Does s.graph (.createState name position) _ _ := .createState hname hfree
    have hadopt := adopt_eq hg hdoes rfl (.createdState name)
    exact ⟨.state name x y, _, rfl, by rw [hedit]; exact congrArg Prod.fst hadopt,
      by rw [hedit]; exact congrArg (·.2.graph) hadopt⟩
  | transition source label target =>
    obtain ⟨a, b, created, hsource, htarget, hcreate, rfl⟩ := Graph.applyTransition_eq_ok_iff.1 h
    obtain ⟨ha, hb, hlabel, hedge, rfl⟩ := Graph.createTransition_eq_ok_iff.1 hcreate
    have hedit : s.edit (.transition source label target) =
        s.adopt ⟨s.graph.addTransition a b (labelOfWord label), [.transitionsChanged]⟩
          (.transition s.graph.nextTransitionId)
          (.createdTransition source (labelOfWord label) target) := by
      rw [edit, createTransition, require_eq_ok_iff.2 hsource, require_eq_ok_iff.2 htarget]
      simp only [hcreate]
    have hadopt := adopt_eq hg (Does.createTransition ha hb hlabel hedge) rfl
      (.createdTransition source (labelOfWord label) target)
    exact ⟨.transition source label target, _, rfl,
      by rw [hedit]; exact congrArg Prod.fst hadopt,
      by rw [hedit]; exact congrArg (·.2.graph) hadopt⟩
  | initial name =>
    obtain ⟨id, c, hname, hchange, rfl⟩ := Graph.applyChange_eq_ok_iff.1 h
    have hedit : s.edit (.flag .initial true name) = _ := edit_flag_eq hname hchange
    exact ⟨.flag .initial true name, _, rfl, congrArg Prod.fst hedit, congrArg (·.2.graph) hedit⟩
  | final name =>
    obtain ⟨id, c, hname, hchange, rfl⟩ := Graph.applyChange_eq_ok_iff.1 h
    have hedit : s.edit (.flag .final true name) = _ := edit_flag_eq hname hchange
    exact ⟨.flag .final true name, _, rfl, congrArg Prod.fst hedit, congrArg (·.2.graph) hedit⟩

/-- The editor makes of a line what the reader of documents makes of it, and is still there. -/
structure Obeys (s : Session) (d : Directory) (text : String) : Prop where
  /-- The line is read, and the graph is the same afterwards. -/
  readLine_eq : s.graph.readLine (Document.encode text) = .ok (s.execute d text).2.1.graph
  directory_eq : (s.execute d text).2.2 = d
  stays : (s.execute d text).1 ≠ .quit
  refused_iff : (∃ reason, (s.execute d text).1 = .refused reason) ↔ text.toList.head? = some '#'
  ignored : Record.read text = .ok none → (s.execute d text).2.1 = s

theorem lowerCase_keyword (kind : RecordKind) : Text.lowerCase kind.keyword = kind.keyword := by
  cases kind <;> decide +kernel

/-- The tokens of a line that the graph takes are its words. -/
theorem words_eq_of_applyRecord (hg : g.Consistent) (hreads : Record.Reads kind arguments r)
    (h : g.applyRecord r = .ok k)
    (htokens : (Record.tokens text.toList).map String.ofList = kind.keyword :: arguments) :
    Text.words text = kind.keyword :: arguments := by
  have hword : ∀ word ∈ (Record.tokens text.toList).map String.ofList, Text.IsWord word := by
    rw [htokens, List.forall_mem_cons]
    exact ⟨Record.isWord_keyword kind, hreads.isWord (hg.valid_of_applyRecord h)⟩
  rw [Text.words_eq_tokens fun token htoken => hword _ (List.mem_map_of_mem htoken), htokens]

/-- A line that holds nothing but spaces has no words. -/
theorem words_eq_nil (h : Record.tokens text.toList = []) : Text.words text = [] := by
  rw [Text.words_eq_tokens (by simp [h]), h, List.map_nil]

/-- A line that is ignored, and is no comment, has no tokens. -/
theorem tokens_eq_nil (h : Record.read text = .ok none) (hcomment : text.toList.head? ≠ some '#') :
    Record.tokens text.toList = [] :=
  (Record.read_eq_ok_none_iff.1 h).resolve_left hcomment

/-- A command that is carried out is answered. -/
theorem perform_edit_of_ok {command : Edit} {response : Response}
    (h : (s.edit command).1 = .ok response) : ∃ changes, s.perform d (.edit command) =
      (.answer changes response, { (s.edit command).2 with log := [] }, d) := by
  rw [perform]
  generalize s.edit command = result at h
  obtain ⟨answer, after⟩ := result
  obtain rfl : answer = .ok response := h
  exact ⟨_, rfl⟩

/-- A line that the graph of the session takes is obeyed. -/
theorem Ready.obeys (hs : s.Ready) (h : s.graph.readLine (Document.encode text) = .ok k) :
    s.Obeys d text ∧ (s.execute d text).2.1.graph = k := by
  obtain ⟨decoded, hdecode, hline⟩ := Graph.readLine_eq_ok_iff.1 h
  obtain rfl : text = decoded := by
    rw [Document.decodeLine_eq_some_iff.2 rfl] at hdecode
    exact Option.some.inj hdecode
  obtain ⟨hread, rfl⟩ | ⟨r, hread, happly⟩ := hline
  · by_cases hcomment : text.toList.head? = some '#'
    · obtain ⟨word, hunknown⟩ := Command.read_eq_unknown hcomment
      have hexecute : s.execute d text = (.refused (.unknownCommand word), s, d) := by
        rw [Session.execute, hunknown]
      refine ⟨⟨?_, ?_, ?_, ?_, ?_⟩, ?_⟩ <;> simp [hexecute, h, hcomment]
    · have hexecute : s.execute d text = (.nothing, s, d) := by
        rw [Session.execute, Command.read, words_eq_nil (tokens_eq_nil hread hcomment)]
      refine ⟨⟨?_, ?_, ?_, ?_, ?_⟩, ?_⟩ <;> simp [hexecute, h, hcomment]
  · obtain ⟨hcomment, kind, arguments, htokens, hreads⟩ := Record.reads_of_read hread
    obtain ⟨command, response, hcommand, hok, hgraph⟩ :=
      edit_of_reads hs.consistent hreads happly
    have hwords := words_eq_of_applyRecord hs.consistent hreads happly htokens
    have hexecute : s.execute d text = s.perform d (.edit command) := by
      simp only [Session.execute, Command.read, hwords, lowerCase_keyword, hcommand]
    obtain ⟨changes, hperform⟩ := perform_edit_of_ok (d := d) hok
    rw [hperform] at hexecute
    have hafter : (s.execute d text).2.1.graph = k := by
      rw [hexecute]
      exact hgraph
    refine ⟨⟨?_, ?_, ?_, ?_, ?_⟩, hafter⟩
    · rw [hafter, h]
    · rw [hexecute]
    · simp [hexecute]
    · simp [hexecute, hcomment]
    · simp [hread]

/-! ## All lines -/

variable {texts : List String} {number : Nat}

/-- Lines that the graph of the session takes one after another are all obeyed, and lead to the same
graph. -/
theorem Ready.executeAll (hs : s.Ready)
    (h : s.graph.readLines number (texts.map Document.encode) = .ok k) :
    (s.executeAll d texts).1.graph = k ∧ (s.executeAll d texts).2 = d ∧
      ∀ before text after, texts = before ++ text :: after →
        (s.executeAll d before).1.Obeys (s.executeAll d before).2 text := by
  induction texts generalizing s number with
  | nil => exact ⟨Except.ok.inj h, rfl, by simp⟩
  | cons first rest ih =>
    obtain ⟨next, hline, hrest⟩ := Graph.readLines_cons_eq_ok_iff.1 h
    obtain ⟨hobeys, hgraph⟩ := hs.obeys (d := d) hline
    have hlater := ih (hs.execute d first) (hgraph ▸ hrest)
    have hafter : ∀ lines, s.executeAll d (first :: lines) =
        (s.execute d first).2.1.executeAll d lines := by
      intro lines
      rw [Session.executeAll, hobeys.directory_eq]
    refine ⟨hafter rest ▸ hlater.1, hafter rest ▸ hlater.2.1, ?_⟩
    intro before text after heq
    cases before with
    | nil =>
      obtain ⟨rfl, rfl⟩ := List.cons.inj heq
      exact hobeys
    | cons other before =>
      obtain ⟨rfl, rfl⟩ := List.cons.inj heq
      exact hafter before ▸ hlater.2.2 before text after rfl

end Session

/-- Lines that are read are texts. -/
theorem exists_texts_of_readLines {lines : List (List UInt8)} {number : Nat}
    (h : g.readLines number lines = .ok k) :
    ∃ texts : List String, lines = texts.map Document.encode := by
  induction lines generalizing g number with
  | nil => exact ⟨[], rfl⟩
  | cons line rest ih =>
    obtain ⟨next, hline, hrest⟩ := Graph.readLines_cons_eq_ok_iff.1 h
    obtain ⟨text, htext, -⟩ := Graph.readLine_eq_ok_iff.1 hline
    obtain ⟨texts, rfl⟩ := ih hrest
    exact ⟨text :: texts, by rw [List.map_cons, Document.decodeLine_eq_some_iff.1 htext]⟩

/-- A document is read alike under all numbers that its graph may get. -/
theorem exists_read_of_read {bytes : List UInt8} {owner : Nat}
    (h : Graph.read owner { bytes } = .ok g) (other : Nat) :
    ∃ k, Graph.read other { bytes } = .ok k ∧ k.snapshot = g.snapshot := by
  obtain ⟨records, hrecords, hfollows⟩ := Graph.follows_of_read h
  obtain ⟨k, hk⟩ := Graph.exists_read_of_records other hrecords hfollows.admissible
  obtain ⟨others, hothers, hsame⟩ := Graph.follows_of_read hk
  obtain rfl := hrecords.unique hothers
  exact ⟨k, hk, by rw [hsame.snapshot_eq, hfollows.snapshot_eq]⟩

/-- The lines of a document that can be read are carried out as it is read.  After each line the
graph of the session is what the reader has built so far, whatever flag the session was started with;
no line ends the session, and the lines that are refused are the comments, which change nothing.  In
the end the automaton has the snapshot that the document has. -/
theorem Session.executeAll_document {bytes : List UInt8} {owner : Nat}
    (h : Graph.read owner { bytes } = .ok g) (watch : Bool) (d : Directory) :
    ∃ texts : List String, Document.lines bytes = texts.map Document.encode ∧
      ((start watch).executeAll d texts).1.graph.snapshot = g.snapshot ∧
      ∀ before text after, texts = before ++ text :: after →
        ((start watch).executeAll d before).1.Obeys ((start watch).executeAll d before).2 text := by
  obtain ⟨k, hk, hsnapshot⟩ := exists_read_of_read h 0
  have hread := Graph.read_bytes_eq_ok_iff.1 hk
  obtain ⟨texts, htexts⟩ := exists_texts_of_readLines hread
  rw [htexts] at hread
  obtain ⟨hgraph, -, hobeys⟩ := (ready_start watch).executeAll (d := d) hread
  exact ⟨texts, htexts, hgraph ▸ hsnapshot, hobeys⟩

/-- A document with a comment and with line ends of both kinds. -/
theorem Session.executeAll_commentedLoop : ∃ g texts,
    Graph.read 0 (.ofText Graph.commentedLoop) = .ok g ∧
    Document.lines (Document.encode Graph.commentedLoop) = texts.map Document.encode ∧
    ((start true).executeAll ⟨[]⟩ texts).1.graph.snapshot = g.snapshot := by
  have hok : (Graph.read 0 (.ofText Graph.commentedLoop)).toBool = true := by decide +kernel
  cases hread : Graph.read 0 (.ofText Graph.commentedLoop) with
  | error error => simp [hread, Except.toBool] at hok
  | ok g =>
    obtain ⟨texts, htexts, hsnapshot, -⟩ := executeAll_document hread true ⟨[]⟩
    exact ⟨g, texts, rfl, htexts, hsnapshot⟩

end Editor

end NfaWorkbench
