import NfaWorkbench.Proofs.Editor.Reachable
set_option autoImplicit false

/-!
# Editor: refused lines

A line that is refused leaves the session as it was.  There is one exception, a line that names a
file to load: the automaton is gone before the file is read, and if it cannot be read the session
goes on with an empty one.  Only a line that asks to save touches a file.
-/

namespace NfaWorkbench

namespace Editor

namespace Command

variable {form word line : String} {arguments : List String} {command : Command}

/-- The line asks to load a file. -/
def IsLoad (line path : String) : Prop :=
  ∃ word, Text.words line = [word, path] ∧ Text.lowerCase word = "load"

/-- The line asks to save, with whatever arguments. -/
def IsSave (line : String) : Prop :=
  ∃ word arguments, Text.words line = word :: arguments ∧ Text.lowerCase word = "save"

/-- The commands that touch no file. -/
def isLocal : Command → Bool
  | quit => true
  | load _ => false
  | save _ => false
  | edit _ => true

/-- What is read is a command that touches no file, if it is a command at all. -/
def ReadsLocal (r : Except Refusal Command) : Prop := ∀ command, r = .ok command → command.isLocal

/-! ## Which lines are which commands -/

theorem readsLocal_ok (h : command.isLocal) : ReadsLocal (.ok command) :=
  fun _ heq => Except.ok.inj heq ▸ h

theorem readsLocal_error (reason : Refusal) : ReadsLocal (.error reason) := by
  rintro command ⟨⟩

theorem readsLocal_ite {p : Prop} [Decidable p] {r t : Except Refusal Command} (hr : ReadsLocal r)
    (ht : ReadsLocal t) : ReadsLocal (if p then r else t) := by
  split
  · exact hr
  · exact ht

theorem readsLocal_withOne {make : String → Command} (h : ∀ a, (make a).isLocal) :
    ReadsLocal (withOne form make arguments) := by
  unfold withOne
  split
  · exact readsLocal_ok (h _)
  · exact readsLocal_error _

theorem readsLocal_withOptional {make : Option String → Command} (h : ∀ a, (make a).isLocal) :
    ReadsLocal (withOptional form make arguments) := by
  unfold withOptional
  split
  · exact readsLocal_ok (h _)
  · exact readsLocal_ok (h _)
  · exact readsLocal_error _

theorem readsLocal_withThree {make : String → String → String → Command}
    (h : ∀ a b c, (make a b c).isLocal) : ReadsLocal (withThree form make arguments) := by
  unfold withThree
  split
  · exact readsLocal_ok (h _ _ _)
  · exact readsLocal_error _

theorem readsLocal_ofWatchArguments : ReadsLocal (ofWatchArguments arguments) := by
  unfold ofWatchArguments
  split <;> first | exact readsLocal_ok rfl | exact readsLocal_error _

/-- Only the words `load` and `save` make a command that touches a file. -/
theorem readsLocal_ofWords (hload : word ≠ "load") (hsave : word ≠ "save") :
    ReadsLocal (ofWords word arguments) := by
  unfold ofWords
  rw [if_neg hload, if_neg hsave]
  repeat' apply readsLocal_ite
  all_goals
    first
    | exact readsLocal_ok rfl
    | exact readsLocal_withOne fun _ => rfl
    | exact readsLocal_withOptional fun _ => rfl
    | exact readsLocal_withThree fun _ _ _ => rfl
    | exact readsLocal_ofWatchArguments
    | exact readsLocal_error _

theorem withOne_eq_ok_iff {make : String → Command} :
    withOne form make arguments = .ok command ↔ ∃ a, arguments = [a] ∧ make a = command := by
  unfold withOne
  split
  · simp
  · rename_i hother
    refine iff_of_false (by simp) ?_
    rintro ⟨a, rfl, -⟩
    exact hother a rfl

theorem ofWords_eq_load_iff {path : String} :
    ofWords word arguments = .ok (.load path) ↔ word = "load" ∧ arguments = [path] := by
  by_cases hload : word = "load"
  · subst hload
    have hread : ofWords "load" arguments = withOne "load <file>" .load arguments := rfl
    simp [hread, withOne_eq_ok_iff]
  · refine iff_of_false (fun heq => ?_) fun h => hload h.1
    by_cases hsave : word = "save"
    · subst hsave
      have hread : ofWords "save" arguments = withOptional "save [file]" .save arguments := rfl
      rw [hread] at heq
      unfold withOptional at heq
      split at heq <;> simp at heq
    · exact Bool.false_ne_true (readsLocal_ofWords hload hsave _ heq)

theorem read_eq_load_iff {path : String} :
    read line = some (.ok (.load path)) ↔ IsLoad line path := by
  unfold read IsLoad
  split
  · rename_i hnone
    simp [hnone]
  · rename_i word arguments hwords
    rw [hwords, Option.some_inj, ofWords_eq_load_iff]
    constructor
    · rintro ⟨hload, rfl⟩
      exact ⟨word, rfl, hload⟩
    · rintro ⟨_, heq, hload⟩
      obtain ⟨rfl, rfl⟩ := List.cons.inj heq
      exact ⟨hload, rfl⟩

theorem isSave_of_read {file : Option String} (h : read line = some (.ok (.save file))) :
    IsSave line := by
  unfold read at h
  split at h
  · simp at h
  · rename_i word arguments hwords
    refine ⟨word, arguments, hwords, ?_⟩
    rw [Option.some_inj] at h
    by_contra hsave
    by_cases hload : Text.lowerCase word = "load"
    · rw [hload] at h
      obtain ⟨_, _, heq⟩ := withOne_eq_ok_iff.1 h
      simp at heq
    · exact Bool.false_ne_true (readsLocal_ofWords hload hsave _ h)

end Command

namespace Session

variable {s : Session} {d : Directory} {reason : Refusal}

/-! ## What a refusal leaves behind -/

theorem settle_refused {result : Except Refusal Response × Session}
    (h : (settle result).1 = .refused reason) :
    result.1 = .error reason ∧ (settle result).2 = result.2 := by
  obtain ⟨answer, s⟩ := result
  cases answer with
  | error other =>
    obtain rfl := Reply.refused.inj h
    exact ⟨rfl, rfl⟩
  | ok response => simp [settle] at h

theorem Comes.session_eq_of_error {operation : Option Automaton.Operation}
    {result : Except Refusal Response × Session} (hcomes : Comes s operation result)
    (h : result.1 = .error reason) : result.2 = s := by
  cases hcomes with
  | refused => rfl
  | _ => simp at h

theorem edit_refused (hg : s.graph.Consistent) {command : Edit}
    (h : (s.edit command).1 = .error reason) : (s.edit command).2 = s := by
  cases hordinary : command.isOrdinary with
  | true =>
    exact (comes hg hordinary).session_eq_of_error h
  | false =>
    cases command with
    | new => simp [edit, renew_eq] at h
    | watch value => simp [edit, setWatch] at h
    | _ => simp [Edit.isOrdinary] at hordinary

theorem save_refused {file : Option String} (h : (s.save d file).1.1 = .error reason) :
    (s.save d file).1.2 = s := by
  unfold save at h ⊢
  split
  · rfl
  · split at h
    · simp_all
    · split <;> simp_all

theorem perform_refused (hg : s.graph.Consistent) {command : Command}
    (hload : ∀ path, command ≠ .load path) (h : (s.perform d command).1 = .refused reason) :
    (s.perform d command).2.1 = s := by
  cases command with
  | quit => rfl
  | load path => exact absurd rfl (hload path)
  | save file =>
    obtain ⟨herror, hsession⟩ := settle_refused h
    exact hsession.trans (save_refused herror)
  | edit command =>
    obtain ⟨herror, hsession⟩ := settle_refused h
    exact hsession.trans (edit_refused hg herror)

theorem perform_directory {command : Command} (hsave : ∀ file, command ≠ .save file) :
    (s.perform d command).2.2 = d := by
  cases command with
  | save file => exact absurd rfl (hsave file)
  | _ => rfl

/-- A line that is refused leaves the session as it was, unless it names a file to load: if that
cannot be read the session goes on with an empty automaton, which belongs to no file.  Only lines
that ask to save change files. -/
theorem Reachable.execute_refused (h : s.Reachable) (d : Directory) (line : String) :
    (∀ reason, (s.execute d line).1 = .refused reason →
      (∀ path, Command.IsLoad line path → ∃ cause,
        d.load s.nextOwner path = .error ⟨path, cause⟩ ∧ reason = .load ⟨path, cause⟩ ∧
        (s.execute d line).2.1.graph = .empty s.nextOwner ∧
        (s.execute d line).2.1.path = none ∧ (s.execute d line).2.1.log = [] ∧
        (s.execute d line).2.1.watch = s.watch) ∧
      ((¬∃ path, Command.IsLoad line path) → (s.execute d line).2.1 = s)) ∧
    (¬Command.IsSave line → (s.execute d line).2.2 = d) := by
  refine ⟨fun reason hrefused => ⟨fun path hload => ?_, fun hload => ?_⟩, fun hsave => ?_⟩
  · have hexecute : s.execute d line = s.perform d (.load path) := by
      rw [Session.execute, Command.read_eq_load_iff.2 hload]
    rw [hexecute] at hrefused ⊢
    obtain ⟨herror, hsession⟩ := settle_refused hrefused
    cases hfile : d.load s.nextOwner path with
    | ok g => simp [load_eq_ok hfile] at herror
    | error error =>
      obtain rfl : path = error.path := (Directory.path_of_load_eq_error hfile).symm
      have hafter : (s.perform d (.load error.path)).2.1 = (s.load d error.path).2 := hsession
      rw [load_eq_error hfile] at herror hafter
      rw [hafter]
      exact ⟨error.cause, rfl, (Except.error.inj herror).symm, by simp⟩
  · unfold Session.execute at hrefused ⊢
    split at hrefused
    · rfl
    · rfl
    · rename_i command hread
      refine perform_refused h.ready.consistent ?_ hrefused
      rintro path rfl
      exact hload ⟨path, Command.read_eq_load_iff.1 hread⟩
  · unfold Session.execute
    split
    · rfl
    · rfl
    · rename_i command hread
      refine perform_directory ?_
      rintro file rfl
      exact hsave (Command.isSave_of_read hread)

/-- A transition that is there already, and a file that is not there. -/
theorem sample_execute_refused : sample.Reachable ∧
    (sample.execute ⟨[]⟩ "transition a x b").1 =
      .refused (.graph (.duplicateTransition "a" (some "x") "b")) ∧
    (sample.execute ⟨[]⟩ "transition a x b").2.1 = sample ∧
    (sample.execute ⟨[]⟩ "LOAD c").1 = .refused (.load ⟨"c", .source .notFound⟩) ∧
    (sample.execute ⟨[]⟩ "LOAD c").2.1.graph = .empty sample.nextOwner ∧
    (sample.execute ⟨[]⟩ "LOAD c").2.2 = ⟨[]⟩ := by
  have hdouble : (sample.execute ⟨[]⟩ "transition a x b").1 =
      .refused (.graph (.duplicateTransition "a" (some "x") "b")) := by
    have hread : Command.read "transition a x b" =
        some (.ok (.edit (.transition "a" "x" "b"))) := by decide +kernel
    rw [Session.execute, hread]
    rfl
  have hwords : Text.words "transition a x b" = ["transition", "a", "x", "b"] := by decide +kernel
  have hload : Command.IsLoad "LOAD c" "c" := ⟨"LOAD", by decide +kernel, by decide +kernel⟩
  have hmissing : (sample.execute ⟨[]⟩ "LOAD c").1 =
      .refused (.load ⟨"c", .source .notFound⟩) := by
    have hfile : Directory.load ⟨[]⟩ sample.nextOwner "c" = .error ⟨"c", .source .notFound⟩ := rfl
    rw [Session.execute, Command.read_eq_load_iff.2 hload]
    exact congrArg (fun result => (settle result).1) (load_eq_error hfile)
  refine ⟨reachable_sample, hdouble, ?_, hmissing, ?_, ?_⟩
  · refine ((reachable_sample.execute_refused ⟨[]⟩ "transition a x b").1 _ hdouble).2 ?_
    rintro ⟨path, word, hpath, -⟩
    simp [hwords] at hpath
  · obtain ⟨_, _, _, hgraph, _⟩ :=
      ((reachable_sample.execute_refused ⟨[]⟩ "LOAD c").1 _ hmissing).1 "c" hload
    exact hgraph
  · refine (reachable_sample.execute_refused ⟨[]⟩ "LOAD c").2 ?_
    rintro ⟨word, arguments, harguments, hsave⟩
    have hline : Text.words "LOAD c" = ["LOAD", "c"] := by decide +kernel
    obtain ⟨rfl, -⟩ : "LOAD" = word ∧ ["c"] = arguments := by simpa [hline] using harguments
    exact absurd hsave (by decide +kernel)

end Session

end Editor

end NfaWorkbench
