import NfaWorkbench.Proofs.Editor.Refusal
import NfaWorkbench.Proofs.Editor.Watching
set_option autoImplicit false

/-!
# Editor: the file that is remembered

A session remembers the file that was loaded or saved last.  It forgets it when a new automaton is
begun and when a file cannot be loaded, and a command that fails in any other way, also a save,
changes nothing about it.  So what is remembered can be told from the requests and the replies.

Whatever is remembered is the path of a file: it was read or written once, so it can be written in
every directory.
-/

namespace NfaWorkbench.Editor

/-- The file that was loaded or saved, if the response tells of one. -/
def Response.file? : Response → Option String
  | loaded path _ => some path
  | saved path => some path
  | _ => none

/-- The file that was loaded or saved, if the reply tells of one. -/
def Reply.file? : Reply → Option String
  | answer _ response => response.file?
  | _ => none

/-! ## What happened -/

/-- A request to a session and the reply. -/
inductive Turn
  /-- A command line. -/
  | line (text : String) (reply : Reply)
  /-- A file that is opened without a command line. -/
  | opening (path : String) (reply : Reply)

namespace Turn

/-- The reply of a turn. -/
def reply : Turn → Reply
  | line _ reply => reply
  | opening _ reply => reply

/-- The turn has loaded or saved a file. -/
def Names (t : Turn) (path : String) : Prop := t.reply.file? = some path

/-- The turn has begun a new automaton, or a file could not be loaded. -/
def Forgets : Turn → Prop
  | line text reply => Command.read text = some (.ok (.edit .new)) ∨
      ∃ path reason, Command.IsLoad text path ∧ reply = .refused reason
  | opening _ reply => ∃ reason, reply = .refused reason

/-- The turn has nothing to do with the file that is remembered. -/
def Keeps (t : Turn) : Prop := ¬t.Forgets ∧ ∀ path, ¬t.Names path

/-- What a turn makes of the file that was remembered before it. -/
inductive Moves (t : Turn) (before : Option String) : Option String → Prop
  | names {path : String} (h : t.Names path) (hfile : Directory.IsFilePath path) :
      Moves t before (some path)
  | forgets (h : t.Forgets) (hnot : ∀ path, ¬t.Names path) : Moves t before none
  | keeps (h : t.Keeps) : Moves t before before

end Turn

/-- The file of the last turn that has loaded or saved one, with no turn since that forgets it. -/
def Remembered (history : List Turn) (path : String) : Prop :=
  ∃ earlier turn later, history = earlier ++ turn :: later ∧ turn.Names path ∧
    ∀ t ∈ later, t.Keeps

theorem not_remembered_nil (path : String) : ¬Remembered [] path := by
  rintro ⟨earlier, turn, later, heq, -⟩
  simp at heq

/-- One more turn either tells of the file itself, or leaves everything as it was. -/
theorem remembered_concat_iff {history : List Turn} {turn : Turn} {path : String} :
    Remembered (history ++ [turn]) path ↔
      turn.Names path ∨ turn.Keeps ∧ Remembered history path := by
  constructor
  · rintro ⟨earlier, found, later, heq, hnames, hkeeps⟩
    rcases later.eq_nil_or_concat' with rfl | ⟨later, last, rfl⟩
    · obtain ⟨-, rfl⟩ := List.append_singleton_inj.1 heq
      exact .inl hnames
    · rw [← List.cons_append, ← List.append_assoc] at heq
      obtain ⟨rfl, rfl⟩ := List.append_singleton_inj.1 heq
      obtain ⟨hlater, hlast⟩ := List.forall_mem_append.1 hkeeps
      exact .inr ⟨hlast _ List.mem_cons_self, earlier, found, later, rfl, hnames, hlater⟩
  · rintro (hnames | ⟨hlast, earlier, found, later, rfl, hnames, hkeeps⟩)
    · exact ⟨history, turn, [], rfl, hnames, by simp⟩
    · refine ⟨earlier, found, later ++ [turn], by simp, hnames, ?_⟩
      exact List.forall_mem_append.2 ⟨hkeeps, by simpa using hlast⟩

namespace Session

/-- The sessions that come about, with everything that was asked and replied. -/
inductive Course : List Turn → Session → Prop
  | start (watch : Bool) : Course [] (start watch)
  | execute {history : List Turn} {s : Session} (d : Directory) (text : String)
      (h : Course history s) :
      Course (history ++ [.line text (s.execute d text).1]) (s.execute d text).2.1
  | openFile {history : List Turn} {s : Session} (d : Directory) (path : String)
      (h : Course history s) :
      Course (history ++ [.opening path (s.openFile d path).1]) (s.openFile d path).2

variable {s : Session} {d : Directory} {history : List Turn} {line : String}

theorem Course.reachable (h : Course history s) : s.Reachable := by
  induction h with
  | start watch => exact .start watch
  | execute d text _ ih => exact ih.execute d text
  | openFile d path _ ih => exact ih.openFile d path

theorem Reachable.exists_course (h : s.Reachable) : ∃ history, Course history s := by
  induction h with
  | start watch => exact ⟨[], .start watch⟩
  | execute d text _ ih =>
    obtain ⟨history, h⟩ := ih
    exact ⟨_, h.execute d text⟩
  | openFile d path _ ih =>
    obtain ⟨history, h⟩ := ih
    exact ⟨_, h.openFile d path⟩

/-! ## What one turn does -/

/-- The only commands that tell of a file are those that load and save. -/
theorem file?_of_edit {command : Edit} {response : Response}
    (h : (s.edit command).1 = .ok response) : response.file? = none := by
  have hadopt : ∀ {c channel created}, (s.adopt c channel created).1 = .ok response →
      response = created := by
    intro c channel created hok
    unfold adopt at hok
    split at hok
    · simp at hok
    · exact (Except.ok.inj hok).symm
  cases command with
  | state name x y =>
    simp only [edit, createState] at h
    split at h
    · simp at h
    · split at h
      · simp at h
      · exact hadopt h ▸ rfl
  | transition source label target =>
    simp only [edit, createTransition] at h
    split at h
    · simp at h
    · split at h
      · simp at h
      · split at h
        · simp at h
        · exact hadopt h ▸ rfl
  | untransition source label target =>
    simp only [edit, deleteTransition] at h
    split at h
    · simp at h
    · split at h
      · simp at h
      · split at h
        · simp at h
        · split at h
          · simp at h
          · exact Except.ok.inj h ▸ rfl
  | delete name =>
    simp only [edit, deleteState] at h
    split at h
    · simp at h
    · exact Except.ok.inj h ▸ rfl
  | flag flag value name =>
    simp only [edit, setFlag] at h
    split at h
    · simp at h
    · split at h
      · simp at h
      · exact Except.ok.inj h ▸ rfl
  | move name dx dy =>
    simp only [edit, moveState] at h
    split at h
    · simp at h
    · split at h
      · simp at h
      · split at h
        · simp at h
        · exact Except.ok.inj h ▸ rfl
  | step event =>
    simp only [edit, Session.step] at h
    split at h
    · exact Except.ok.inj h ▸ rfl
    · simp at h
  | new =>
    rw [edit, renew_eq] at h
    exact Except.ok.inj h ▸ rfl
  | _ => exact Except.ok.inj h ▸ rfl

theorem file?_settle (result : Except Refusal Response × Session) :
    (settle result).1.file? = result.1.toOption.bind Response.file? := by
  obtain ⟨answer, s⟩ := result
  cases answer <;> rfl

theorem file?_perform_edit (s : Session) (d : Directory) (command : Edit) :
    (s.perform d (.edit command)).1.file? = none := by
  change (settle (s.edit command)).1.file? = none
  rw [file?_settle]
  cases hedit : (s.edit command).1 with
  | error reason => rfl
  | ok response => exact file?_of_edit hedit

theorem reply_of_error {result : Except Refusal Response × Session} {reason : Refusal}
    (h : result.1 = .error reason) : (settle result).1 = .refused reason := by
  obtain ⟨answer, s⟩ := result
  obtain rfl : answer = .error reason := h
  rfl

theorem path_settle (result : Except Refusal Response × Session) :
    (settle result).2.path = result.2.path := by
  obtain ⟨answer, s⟩ := result
  cases answer <;> rfl

theorem Comes.path_eq {operation : Option Automaton.Operation}
    {result : Except Refusal Response × Session} (h : Comes s operation result) :
    result.2.path = s.path := by
  cases h <;> rfl

/-- Of the commands that touch no file, only the one for a new automaton changes what is
remembered. -/
theorem Ready.path_edit (hs : s.Ready) {command : Edit} (hnew : command ≠ .new) :
    (s.edit command).2.path = s.path := by
  cases hordinary : command.isOrdinary with
  | true => exact (Session.comes hs.consistent hordinary).path_eq
  | false =>
    cases command with
    | new => exact absurd rfl hnew
    | watch value => rfl
    | _ => simp [Edit.isOrdinary] at hordinary

/-- A line that neither begins a new automaton nor loads forgets nothing. -/
theorem not_forgets_line {reply : Reply}
    (hnew : Command.read line ≠ some (.ok (.edit .new)))
    (hload : ∀ path, Command.read line ≠ some (.ok (.load path))) :
    ¬(Turn.line line reply).Forgets := by
  rintro (hread | ⟨path, reason, hpath, -⟩)
  · exact hnew hread
  · exact hload path (Command.read_eq_load_iff.2 hpath)

/-- Loading a file, with or without a command line. -/
theorem moves_load {turn : Turn} {path : String}
    (hreply : turn.reply.file? = (s.load d path).1.toOption.bind Response.file?)
    (hforgets : ∀ reason, (s.load d path).1 = .error reason → turn.Forgets) :
    turn.Moves s.path (s.load d path).2.path := by
  cases hfile : d.load s.nextOwner path with
  | error error =>
    rw [load_eq_error hfile] at hreply hforgets ⊢
    rw [path_begun]
    refine .forgets (hforgets _ rfl) fun other hother => ?_
    simp [Turn.Names, hreply, Except.toOption] at hother
  | ok g =>
    obtain ⟨bytes, hread, -⟩ := Directory.load_eq_ok_iff.1 hfile
    rw [load_eq_ok hfile] at hreply ⊢
    exact .names hreply (Directory.isFilePath_of_read hread)

/-- What a save can come to. -/
theorem save_cases (s : Session) (d : Directory) (file : Option String) :
    (∃ reason, s.save d file = ((.error reason, s), d)) ∨
    ∃ path e, file.or s.path = some path ∧ d.save path s.graph = .ok e ∧
      s.save d file = ((.ok (.saved path), { s with path := some path }), e) := by
  cases htarget : file.or s.path with
  | none => exact .inl ⟨.usage "save <file>", by simp only [save, target, htarget]⟩
  | some path =>
    cases hwrite : d.save path s.graph with
    | error fault => exact .inl ⟨.save fault, by simp only [save, target, htarget, hwrite]⟩
    | ok e => exact .inr ⟨path, e, rfl, hwrite, by simp only [save, target, htarget, hwrite]⟩

theorem moves_perform (hs : s.Ready) {command : Command}
    (hread : Command.read line = some (.ok command)) :
    (Turn.line line (s.perform d command).1).Moves s.path (s.perform d command).2.1.path := by
  cases command with
  | quit =>
    refine .keeps ⟨not_forgets_line (by simp [hread]) (by simp [hread]), fun path hpath => ?_⟩
    simp [Turn.Names, Turn.reply, perform, Reply.file?] at hpath
  | load path =>
    refine (path_settle (s.load d path)).symm ▸ moves_load (file?_settle (s.load d path)) ?_
    intro reason herror
    refine .inr ⟨path, reason, Command.read_eq_load_iff.1 hread, ?_⟩
    exact reply_of_error herror
  | save file =>
    have hkept : ∀ reply, ¬(Turn.line line reply).Forgets :=
      fun reply => not_forgets_line (by simp [hread]) (by simp [hread])
    obtain ⟨reason, hsave⟩ | ⟨path, e, -, hwrite, hsave⟩ := save_cases s d file
    · rw [perform, hsave]
      exact .keeps ⟨hkept _, fun path hpath => by cases hpath⟩
    · rw [perform, hsave]
      exact .names rfl (Directory.isFilePath_of_write hwrite)
  | edit command =>
    have hnone : ∀ path, ¬(Turn.line line (s.perform d (.edit command)).1).Names path := by
      intro path hpath
      have hfile : (s.perform d (.edit command)).1.file? = some path := hpath
      simp [file?_perform_edit] at hfile
    have hpath : (s.perform d (.edit command)).2.1.path = (s.edit command).2.path :=
      path_settle (s.edit command)
    by_cases hnew : command = .new
    · subst hnew
      have hbegun : (s.edit .new).2.path = none := by rw [edit, renew_eq, path_begun]
      rw [hpath, hbegun]
      exact .forgets (.inl hread) hnone
    · rw [hpath, hs.path_edit hnew]
      exact .keeps ⟨not_forgets_line (by simp [hread, hnew]) (by simp [hread]), hnone⟩

theorem moves_execute (hs : s.Ready) (d : Directory) (line : String) :
    (Turn.line line (s.execute d line).1).Moves s.path (s.execute d line).2.1.path := by
  unfold execute
  split
  · rename_i hread
    exact .keeps ⟨not_forgets_line (by simp [hread]) (by simp [hread]), fun _ h => by cases h⟩
  · rename_i reason hread
    exact .keeps ⟨not_forgets_line (by simp [hread]) (by simp [hread]), fun _ h => by cases h⟩
  · rename_i command hread
    exact moves_perform hs hread

theorem moves_openFile (s : Session) (d : Directory) (path : String) :
    (Turn.opening path (s.openFile d path).1).Moves s.path (s.openFile d path).2.path := by
  rw [openFile_session_eq]
  refine moves_load ?_ ?_
  · change (s.openFile d path).1.file? = _
    unfold openFile
    split <;> rename_i heq <;> rw [heq] <;> rfl
  · intro reason herror
    refine ⟨reason, ?_⟩
    unfold openFile
    split <;> rename_i heq <;> simp_all

/-! ## What a whole conversation does -/

/-- What a session knows about the file that it belongs to. -/
structure Recalls (s : Session) (history : List Turn) : Prop where
  path_iff : ∀ path, s.path = some path ↔ Remembered history path
  isFilePath : ∀ path, s.path = some path → Directory.IsFilePath path

/-- Every turn keeps up what is known about the file. -/
theorem Recalls.concat {t : Session} {turn : Turn} (h : s.Recalls history)
    (hmoves : turn.Moves s.path t.path) : t.Recalls (history ++ [turn]) := by
  generalize hafter : t.path = after at hmoves
  cases hmoves with
  | names hnames hfile =>
    constructor
    · intro path
      rw [hafter, remembered_concat_iff]
      constructor
      · rintro ⟨rfl⟩
        exact .inl hnames
      · rintro (hother | ⟨hkeeps, -⟩)
        · exact hnames.symm.trans hother
        · exact absurd hnames (hkeeps.2 _)
    · intro path heq
      obtain rfl := Option.some.inj (hafter.symm.trans heq)
      exact hfile
  | forgets hforgets hnot =>
    constructor
    · intro path
      rw [hafter, remembered_concat_iff]
      refine iff_of_false (by simp) ?_
      rintro (hnames | ⟨hkeeps, -⟩)
      · exact hnot path hnames
      · exact hkeeps.1 hforgets
    · intro path heq
      simp [hafter] at heq
  | keeps hkeeps =>
    constructor
    · intro path
      rw [hafter, remembered_concat_iff, h.path_iff]
      constructor
      · exact fun hpath => .inr ⟨hkeeps, hpath⟩
      · rintro (hnames | ⟨-, hpath⟩)
        · exact absurd hnames (hkeeps.2 path)
        · exact hpath
    · intro path heq
      exact h.isFilePath path (hafter ▸ heq)

/-- At every point of a conversation the session remembers the file of the last turn that has loaded
or saved one, unless it has forgotten it since. -/
theorem Course.recalls (h : Course history s) : s.Recalls history := by
  induction h with
  | start watch =>
    exact ⟨fun path => iff_of_false nofun (not_remembered_nil path), nofun⟩
  | execute d text hcourse ih => exact ih.concat (moves_execute hcourse.reachable.ready d text)
  | openFile d path _ ih => exact ih.concat (moves_openFile _ d path)

end Session

end NfaWorkbench.Editor
