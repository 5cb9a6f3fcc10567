import NfaWorkbench.Proofs.Editor.Commands
import NfaWorkbench.Proofs.Files
set_option autoImplicit false

/-!
# Editor: reachable sessions

The sessions that come about by any command lines and by opening any files, where the directory may
have changed in between in whatever way.  Between two command lines such a session is `Ready`: its
automaton is reachable, it listens to every channel once, and its log is empty.
-/

namespace NfaWorkbench.Editor.Session

open Automaton (Operation)

/-- The sessions that come about. -/
inductive Reachable : Session → Prop
  | start (watch : Bool) : Reachable (start watch)
  | execute {s : Session} (d : Directory) (line : String) (h : Reachable s) :
      Reachable (s.execute d line).2.1
  | openFile {s : Session} (d : Directory) (path : String) (h : Reachable s) :
      Reachable (s.openFile d path).2

/-- A session as it waits for a command line. -/
structure Ready (s : Session) : Prop where
  reachable : s.automaton.Reachable
  attended : Attended s.automaton
  log_eq : s.log = []

variable {s : Session} {d : Directory} {g : Graph}

theorem Ready.consistent (h : s.Ready) : s.graph.Consistent := h.reachable.consistent

/-! ## Beginning with a graph -/

theorem ready_begun (s : Session) (hg : (Automaton.ofGraph g).Reachable) : (s.begun g).Ready where
  reachable := reachable_begun s hg
  attended := attended_begun s g
  log_eq := log_begun s g

theorem ready_start (watch : Bool) : (start watch).Ready where
  reachable := (Automaton.Reachable.empty 0).perform (.subscribe .automaton)
  attended := .refl _
  log_eq := rfl

theorem renew_eq (s : Session) : s.renew = (.ok .newAutomaton, s.begun (.empty s.nextOwner)) := by
  rw [renew, replace_eq_ok]

/-- After a file that cannot be loaded the session goes on with an empty automaton. -/
theorem load_eq_error {path : String} {error : LoadError}
    (h : d.load s.nextOwner path = .error error) :
    s.load d path = (.error (.load error), s.begun (.empty s.nextOwner)) := by
  simp only [load, h, replace_eq_ok]

theorem load_eq_ok {path : String} (h : d.load s.nextOwner path = .ok g) :
    s.load d path = (.ok (.loaded path g), { s.begun g with path := some path }) := by
  simp only [load, h, replace_eq_ok]

theorem reachable_ofGraph_of_load {owner : Nat} {path : String} (h : d.load owner path = .ok g) :
    (Automaton.ofGraph g).Reachable := by
  obtain ⟨bytes, -, hread⟩ := Directory.load_eq_ok_iff.1 h
  exact .read hread

/-- Whether a file could be loaded or not, the session is ready afterwards. -/
theorem ready_load (s : Session) (d : Directory) (path : String) : (s.load d path).2.Ready := by
  cases hload : d.load s.nextOwner path with
  | error error =>
    rw [load_eq_error hload]
    exact ready_begun s (.empty s.nextOwner)
  | ok g =>
    rw [load_eq_ok hload]
    obtain ⟨hreachable, hattended, hlog⟩ := ready_begun s (reachable_ofGraph_of_load hload)
    exact ⟨hreachable, hattended, hlog⟩

/-! ## One command -/

variable {operation : Option Operation} {result : Except Refusal Response × Session}

/-- A command that is carried out empties the log. -/
theorem ready_settle (hreachable : result.2.automaton.Reachable)
    (hattended : Attended result.2.automaton)
    (hlog : ∀ reason, result.1 = .error reason → result.2.log = []) : (settle result).2.Ready := by
  obtain ⟨answer, s⟩ := result
  cases answer with
  | error reason => exact ⟨hreachable, hattended, hlog reason rfl⟩
  | ok response => exact ⟨hreachable, hattended, rfl⟩

theorem Ready.settle (h : result.2.Ready) : (settle result).2.Ready :=
  ready_settle h.reachable h.attended fun _ _ => h.log_eq

theorem Ready.comes (h : s.Ready) (hcomes : Comes s operation result) :
    (Session.settle result).2.Ready := by
  have happly : ∀ {operation answer c}, Automaton.Does s.graph operation answer c →
      (s.apply c).automaton = (s.automaton.perform operation).automaton := by
    intro operation answer c hdoes
    rw [Automaton.perform_eq_changed hdoes]
    rfl
  cases hcomes with
  | refused reason => exact h.settle
  | shown response => exact h.settle
  | changed hdoes hissued response =>
    refine ready_settle ?_ (attended_apply h.consistent h.attended hdoes hissued) (by simp)
    exact happly hdoes ▸ h.reachable.perform _
  | @adopted operation answer c new hdoes hissued response =>
    refine ready_settle ?_ (attended_adopt h.consistent h.attended hdoes hissued) (by simp)
    have hchannel : (s.apply c).graph.HasChannel new.channel := Graph.hasChannel_channel_iff.2
      ((Automaton.mem_handles_of_does h.consistent hdoes new).2 (.inl (by simp [hissued])))
    rw [automaton_subscribed hchannel, happly hdoes]
    exact (h.reachable.perform _).perform _

theorem Ready.edit (h : s.Ready) (command : Edit) : (Session.settle (s.edit command)).2.Ready := by
  cases hordinary : command.isOrdinary with
  | true => exact h.comes (Session.comes h.consistent hordinary)
  | false =>
    cases command with
    | new =>
      refine Ready.settle (?_ : s.renew.2.Ready)
      rw [renew_eq]
      exact ready_begun s (.empty s.nextOwner)
    | watch value => exact Ready.settle ⟨h.reachable, h.attended, rfl⟩
    | _ => simp [Edit.isOrdinary] at hordinary

/-- Saving changes nothing but the path. -/
theorem save_session_eq (s : Session) (d : Directory) (file : Option String) :
    ∃ path, (s.save d file).1.2 = { s with path } := by
  unfold save
  split
  · exact ⟨s.path, rfl⟩
  · split
    · exact ⟨s.path, rfl⟩
    · exact ⟨_, rfl⟩

theorem Ready.perform (h : s.Ready) (d : Directory) (command : Command) :
    (s.perform d command).2.1.Ready := by
  cases command with
  | quit => exact h
  | load path => exact (ready_load s d path).settle
  | save file =>
    refine Ready.settle (?_ : (s.save d file).1.2.Ready)
    obtain ⟨path, hsave⟩ := save_session_eq s d file
    exact hsave ▸ ⟨h.reachable, h.attended, h.log_eq⟩
  | edit command => exact h.edit command

/-! ## Whole conversations -/

theorem Ready.execute (h : s.Ready) (d : Directory) (line : String) :
    (s.execute d line).2.1.Ready := by
  unfold Session.execute
  split
  · exact h
  · exact h
  · exact h.perform d _

theorem openFile_session_eq (s : Session) (d : Directory) (path : String) :
    (s.openFile d path).2 = (s.load d path).2 := by
  unfold openFile
  split <;> rename_i heq <;> rw [heq]

theorem Reachable.ready (h : s.Reachable) : s.Ready := by
  induction h with
  | start watch => exact ready_start watch
  | execute d line _ ih => exact ih.execute d line
  | openFile d path _ _ => exact openFile_session_eq _ d path ▸ ready_load _ d path

/-- Carries out some lines one after another, and gives the session and the directory afterwards. -/
def executeAll (s : Session) (d : Directory) : List String → Session × Directory
  | [] => (s, d)
  | line :: rest => (s.execute d line).2.1.executeAll (s.execute d line).2.2 rest

theorem executeAll_append (s : Session) (d : Directory) (first second : List String) :
    s.executeAll d (first ++ second) =
      (s.executeAll d first).1.executeAll (s.executeAll d first).2 second := by
  induction first generalizing s d with
  | nil => rfl
  | cons line rest ih => exact ih _ _

theorem Reachable.executeAll (h : s.Reachable) (d : Directory) (lines : List String) :
    (s.executeAll d lines).1.Reachable := by
  induction lines generalizing s d with
  | nil => exact h
  | cons line rest ih => exact ih (h.execute d line) _

/-- A session that watches, with two states and a transition from the one to the other. -/
def sample : Session := ((start true).executeAll ⟨[]⟩
  ["state a 0 0", "state b 1 0", "transition a x b", "initial a", "reset"]).1

theorem reachable_sample : sample.Reachable := (Reachable.start true).executeAll _ _

end NfaWorkbench.Editor.Session
