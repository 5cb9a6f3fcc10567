import NfaWorkbench.Editor.Terminal
import NfaWorkbench.Proofs.Document.Tokens
import NfaWorkbench.Proofs.Editor.Reachable
set_option autoImplicit false

/-!
# Editor: what a watching session shows

A watching session shows every notification of a command once, in the order in which they were sent,
each on a line of its own, and then what it would have shown without watching.  Nothing of an earlier
command is left in the log, and nothing of an automaton that was replaced.
-/

namespace NfaWorkbench

namespace Text.Palette

/-- The escape sequences around a text in a colour; without colours there are none. -/
def codes (p : Palette) (ink : Ink) : String × String :=
  if p.colored then (ink.start, resetSequence) else ("", "")

theorem restartAfterResets_eq (start : List Char) {text : List Char} (h : '\x1b' ∉ text) :
    restartAfterResets start text = text := by
  fun_induction restartAfterResets start text with
  | case1 => rfl
  | case2 rest ih => simp at h
  | case3 c rest hc ih => rw [ih fun hrest => h (List.mem_cons_of_mem c hrest)]

/-- A text without escape sequences of its own is painted by putting the codes around it. -/
theorem paint_eq (p : Palette) (ink : Ink) {text : String} (h : '\x1b' ∉ text.toList) :
    p.paint ink text = (p.codes ink).1 ++ text ++ (p.codes ink).2 := by
  have hpad : padLeft 0 text = text := by simp [padLeft, String.pushn_eq_repeat_push, Nat.repeat]
  rw [paint, paintPadded, codes, restartAfterResets_eq _ h, String.ofList_toList, hpad]
  split <;> simp

end Text.Palette

namespace Editor

open Automaton (Does Operation)

/-! ## Lines about what changed -/

/-- A text that fits on one line and does not colour anything. -/
def IsLine (text : String) : Prop := ∀ c ∈ text.toList, c ≠ '\n' ∧ c ≠ '\x1b'

theorem IsLine.append {first second : String} (hfirst : IsLine first) (hsecond : IsLine second) :
    IsLine (first ++ second) := by
  intro c hc
  rw [String.toList_append, List.mem_append] at hc
  exact hc.elim (hfirst c) (hsecond c)

/-- A class of characters in which there are no line ends and no escapes. -/
theorem isLine_of_class {p : Char → Bool} (hfeed : p '\n' = false) (hescape : p '\x1b' = false)
    {text : String} (h : ∀ c ∈ text.toList, p c = true) : IsLine text := by
  intro c hc
  refine ⟨?_, ?_⟩
  · rintro rfl
    simp [h _ hc] at hfeed
  · rintro rfl
    simp [h _ hc] at hescape

theorem isLine_repr (n : Nat) : IsLine (Nat.repr n) := by
  refine isLine_of_class (p := Char.isDigit) (by decide) (by decide) fun c hc => ?_
  rw [Nat.toList_repr] at hc
  exact Nat.isDigit_of_mem_toDigits (by decide) (by decide) hc

theorem isLine_of_isName {name : String} (h : IsName name) : IsLine name :=
  isLine_of_class (by decide) (by decide) h.isNameCharacter

/-- Every notification is shown on one line. -/
theorem isLine_describe {g : Graph} (hg : g.Consistent) (note : Notification) :
    IsLine (describe g note) := by
  have hname : ∀ s, IsLine (g.stateName s) := by
    intro s
    by_cases hs : s ∈ g.states.ids
    · obtain ⟨state, hstate⟩ := Registry.mem_ids_iff.1 hs
      rw [hg.stateName_of_mem hstate]
      exact isLine_of_isName (hg.name_valid s state hstate)
    · have hgone : g.state? s = none := Registry.get?_eq_none_iff.2 hs
      rw [Graph.stateName, hgone]
      simp [IsLine]
  have hstate : ∀ s aspect, IsLine ("* state " ++ g.stateName s ++ " " ++ aspectWords aspect) := by
    intro s aspect
    refine ((IsLine.append ?_ (hname s)).append ?_).append ?_
    · simp [IsLine]
    · simp [IsLine]
    · cases aspect <;> simp [aspectWords, IsLine]
  have hremoved : ∀ start id, IsLine start → IsLine (start ++ Nat.repr id ++ " removed") :=
    fun start id hstart => (hstart.append (isLine_repr id)).append (by simp [IsLine])
  cases note with
  | state s aspect =>
    cases aspect with
    | removed =>
      have heq : describe g (.state s .removed) =
          "* state s" ++ Nat.repr s.index ++ " removed" := by
        simp [describe, StateId.render, ← String.append_assoc]
      exact heq ▸ hremoved _ _ (by simp [IsLine])
    | _ => exact hstate s _
  | transitionRemoved t =>
    have heq : describe g (.transitionRemoved t) =
        "* transition t" ++ Nat.repr t.index ++ " removed" := by
      simp [describe, TransitionId.render, ← String.append_assoc]
    exact heq ▸ hremoved _ _ (by simp [IsLine])
  | _ => simp [describe, IsLine]

/-- The text in front of an answer: the lines about what changed, if there are any. -/
def changesText (p : Text.Palette) (changes : List String) : String :=
  if changes = [] then ""
  else (p.codes .dimmed).1 ++ "\n".intercalate changes ++ (p.codes .dimmed).2 ++ "\n"

theorem renderAnswer_eq (p : Text.Palette) {changes : List String} (response : Response)
    (h : ∀ line ∈ changes, IsLine line) :
    renderAnswer p changes response = changesText p changes ++ renderAnswer p [] response := by
  have hescape : '\x1b' ∉ ("\n".intercalate changes).toList := by
    intro hmem
    obtain hbetween | ⟨line, hline, hmem⟩ := Text.mem_intercalate hmem
    · simp at hbetween
    · exact (h line hline _ hmem).2 rfl
  cases changes with
  | nil => simp [changesText]
  | cons line rest => simp [renderAnswer, changesText, p.paint_eq _ hescape]

namespace Session

variable {s : Session} {c : Change}

/-! ## Commands without watching -/

/-- The session with watching switched on or off. -/
def watching (s : Session) (value : Bool) : Session := { s with watch := value }

theorem listen_watching (s : Session) (value : Bool) (channel : Channel) :
    (s.watching value).listen channel = (s.listen channel).map (·.watching value) := by
  have hautomaton : (s.watching value).automaton = s.automaton := rfl
  rw [listen, listen, hautomaton]
  cases s.automaton.subscribe channel <;> rfl

theorem adopt_watching (s : Session) (value : Bool) (c : Change) (channel : Channel)
    (response : Response) : (s.watching value).adopt c channel response =
      (s.adopt c channel response).map id (·.watching value) := by
  have happly : (s.watching value).apply c = (s.apply c).watching value := rfl
  rw [adopt, adopt, happly, listen_watching]
  cases (s.apply c).listen channel <;> rfl

theorem edit_watching (s : Session) (value : Bool) {command : Edit}
    (hordinary : command.isOrdinary) :
    (s.watching value).edit command = (s.edit command).map id (·.watching value) := by
  have hgraph : (s.watching value).graph = s.graph := rfl
  have hrequire : ∀ name, (s.watching value).require name = s.require name := fun _ => rfl
  cases command with
  | new => simp [Edit.isOrdinary] at hordinary
  | watch value => simp [Edit.isOrdinary] at hordinary
  | state name x y =>
    simp only [edit, createState, hgraph]
    split
    · rfl
    · split
      · rfl
      · exact adopt_watching s value _ _ _
  | delete name =>
    simp only [edit, deleteState, hrequire, hgraph]
    split <;> rfl
  | transition source label target =>
    simp only [edit, createTransition, hrequire, hgraph]
    split
    · rfl
    · split
      · rfl
      · split
        · rfl
        · exact adopt_watching s value _ _ _
  | untransition source label target =>
    simp only [edit, deleteTransition, hrequire, hgraph]
    split
    · rfl
    · split
      · rfl
      · split
        · rfl
        · split <;> rfl
  | flag flag value' name =>
    simp only [edit, setFlag, hrequire, hgraph]
    split
    · rfl
    · split <;> rfl
  | move name dx dy =>
    simp only [edit, moveState, hrequire, hgraph]
    split
    · rfl
    · split
      · rfl
      · split <;> rfl
  | step event =>
    simp only [edit, Session.step, hgraph]
    split <;> rfl
  | _ => rfl

theorem save_watching (s : Session) (value : Bool) (d : Directory) (file : Option String) :
    (s.watching value).save d file = (s.save d file).map (·.map id (·.watching value)) id := by
  have htarget : (s.watching value).target file = s.target file := rfl
  have hgraph : (s.watching value).graph = s.graph := rfl
  simp only [save, htarget, hgraph]
  split
  · rfl
  · split <;> rfl

/-! ## What is shown -/

/-- The operation that a command of any kind stands for. -/
def operationOf? (s : Session) : Command → Option Operation
  | .edit command => s.operation? command
  | _ => none

/-- What the automaton does at a command that stands for an operation, or for none. -/
def outcome (s : Session) : Option Operation → Automaton.Outcome
  | some operation => s.automaton.perform operation
  | none => s.automaton.changed .done (.none s.graph)

/-- A session shows everything that its automaton has sent while a line was carried out, and then
what it would have shown without watching. -/
structure Shows (s : Session) (d : Directory) (line : String) (o : Automaton.Outcome) : Prop where
  graph_eq : (s.execute d line).2.1.graph = o.automaton.graph
  /-- Every notification is heard once. -/
  heard : o.deliveries.map (·.note) = o.notes
  answer_eq : ∃ response,
    (s.execute d line).1 = .answer (o.notes.map (describe o.automaton.graph)) response ∧
    ((s.watching false).execute d line).1 = .answer [] response
  text_eq : ∀ p, (s.execute d line).1.render p =
    changesText p (o.notes.map (describe o.automaton.graph)) ++
      ((s.watching false).execute d line).1.render p
  isLine : ∀ note ∈ o.notes, IsLine (describe o.automaton.graph note)
  /-- What is told of a state that is still there is told with its name. -/
  named : ∀ id aspect, .state id aspect ∈ o.notes → aspect ≠ .removed →
    ∃ state, (id, state) ∈ o.automaton.graph.states ∧ state.name ≠ "?" ∧
      describe o.automaton.graph (.state id aspect) =
        "* state " ++ state.name ++ " " ++ aspectWords aspect

variable {d : Directory} {line : String} {operation : Option Operation}
  {result : Except Refusal Response × Session} {response : Response}

/-! ## The outcome of an operation -/

theorem Ready.consistent_outcome (hs : s.Ready) (operation : Option Operation) :
    (s.outcome operation).automaton.graph.Consistent := by
  cases operation with
  | none => exact hs.consistent
  | some operation => exact Automaton.consistent_perform hs.consistent operation

theorem Ready.heard_outcome (hs : s.Ready) (operation : Option Operation) :
    (s.outcome operation).deliveries.map (·.note) = (s.outcome operation).notes := by
  cases operation with
  | none => rfl
  | some operation =>
    have hperforms := Automaton.performs s.automaton operation
    change (s.automaton.perform operation).deliveries.map _ = (s.automaton.perform operation).notes
    generalize s.automaton.perform operation = o at hperforms
    cases hperforms with
    | changed hdoes => exact map_note_publish hs.consistent hs.attended hdoes
    | _ => rfl

theorem Ready.alive_outcome (hs : s.Ready) {id : StateId} {aspect : StateAspect}
    (hnote : .state id aspect ∈ (s.outcome operation).notes) (haspect : aspect ≠ .removed) :
    id ∈ (s.outcome operation).automaton.graph.states.ids := by
  cases operation with
  | none => simp [outcome, Change.none, Automaton.changed] at hnote
  | some operation =>
    have hperforms := Automaton.performs s.automaton operation
    change _ ∈ (s.automaton.perform operation).notes at hnote
    change id ∈ (s.automaton.perform operation).automaton.graph.states.ids
    generalize s.automaton.perform operation = o at hperforms hnote
    cases hperforms with
    | changed hdoes => exact Automaton.mem_ids_of_mem_notes hs.consistent hdoes hnote haspect
    | _ => exact absurd hnote List.not_mem_nil

/-- What comes of a command that is carried out is the outcome of its operation. -/
theorem Comes.eq_outcome (hcomes : Comes s operation result) (hs : s.Ready)
    (hok : result.1 = .ok response) :
    result.2.graph = (s.outcome operation).automaton.graph ∧
      result.2.log = (s.outcome operation).notes ∧ result.2.watch = s.watch := by
  have hlog : ∀ {operation answer c}, Does s.graph operation answer c →
      (s.apply c).log = c.notes := by
    intro operation answer c hdoes
    rw [log_apply hs.consistent hs.attended hdoes, hs.log_eq, List.nil_append]
  cases hcomes with
  | refused => simp at hok
  | shown => exact ⟨rfl, hs.log_eq, rfl⟩
  | changed hdoes =>
    rw [outcome, Automaton.perform_eq_changed hdoes]
    exact ⟨rfl, hlog hdoes, rfl⟩
  | adopted hdoes =>
    rw [outcome, Automaton.perform_eq_changed hdoes]
    exact ⟨rfl, hlog hdoes, rfl⟩

/-! ## The answer to a line -/

theorem settle_answer {changes : List String} (h : (settle result).1 = .answer changes response) :
    result.1 = .ok response ∧
      changes = if result.2.watch then result.2.log.map (describe result.2.graph) else [] := by
  obtain ⟨answer, after⟩ := result
  cases answer with
  | error reason => simp [settle] at h
  | ok other =>
    obtain ⟨rfl, rfl⟩ := Reply.answer.inj h
    exact ⟨rfl, rfl⟩

/-- A command that is carried out is shown as its operation has turned out. -/
theorem Ready.shows (hs : s.Ready) (operation : Option Operation) (response : Response)
    {after : Session}
    (hexecute : ((s.execute d line).1, (s.execute d line).2.1) =
      Session.settle (.ok response, after))
    (hsilent : ((s.watching false).execute d line).1 = .answer [] response)
    (hwatch : after.watch = true) (hgraph : after.graph = (s.outcome operation).automaton.graph)
    (hlog : after.log = (s.outcome operation).notes) : s.Shows d line (s.outcome operation) := by
  obtain ⟨hreply, hafter⟩ := Prod.mk.inj hexecute
  have hconsistent := hs.consistent_outcome operation
  have hline : ∀ note ∈ (s.outcome operation).notes,
      IsLine (describe (s.outcome operation).automaton.graph note) :=
    fun note _ => isLine_describe hconsistent note
  have hanswer : (s.execute d line).1 = .answer
      ((s.outcome operation).notes.map (describe (s.outcome operation).automaton.graph))
      response := by
    rw [hreply, ← hgraph, ← hlog]
    exact congrArg (Reply.answer · response) (if_pos hwatch)
  refine ⟨?_, hs.heard_outcome operation, ⟨response, hanswer, hsilent⟩, fun p => ?_, hline, ?_⟩
  · rw [hafter]
    exact hgraph
  · rw [hanswer, hsilent]
    refine renderAnswer_eq p response ?_
    simpa using hline
  · intro id aspect hnote haspect
    obtain ⟨state, hstate⟩ := Registry.mem_ids_iff.1 (hs.alive_outcome hnote haspect)
    refine ⟨state, hstate, ?_, ?_⟩
    · intro hname
      have hvalid := (hconsistent.name_valid id state hstate).isNameCharacter
      exact absurd (hvalid '?' (by simp [hname])) (by decide)
    · rw [← hconsistent.stateName_of_mem hstate]
      cases aspect <;> first | rfl | exact absurd rfl haspect

theorem execute_eq_perform {command : Command} (hread : Command.read line = some (.ok command))
    (s : Session) (d : Directory) : s.execute d line = s.perform d command := by
  rw [execute, hread]

theorem Ready.shows_edit (hs : s.Ready) (hwatch : s.watch = true) {command : Edit}
    (hread : Command.read line = some (.ok (.edit command))) (hordinary : command.isOrdinary)
    (hok : (s.edit command).1 = .ok response) :
    s.Shows d line (s.outcome (s.operation? command)) := by
  obtain ⟨hgraph, hlog, hstill⟩ := (Session.comes hs.consistent hordinary).eq_outcome hs hok
  have hsilent := edit_watching s false hordinary
  refine hs.shows _ response ?_ ?_ (hstill.trans hwatch) hgraph hlog
  · rw [execute_eq_perform hread, ← hok]
    rfl
  · rw [execute_eq_perform hread, Session.perform, hsilent, Prod.map, hok]
    rfl

theorem Ready.shows_save (hs : s.Ready) (hwatch : s.watch = true) {file : Option String}
    (hread : Command.read line = some (.ok (.save file)))
    (hok : (s.save d file).1.1 = .ok response) :
    s.Shows d line (s.outcome none) := by
  obtain ⟨path, hsave⟩ := save_session_eq s d file
  have hsilent := save_watching s false d file
  have hwatched : ({ s with path } : Session).watch = true := hwatch
  refine hs.shows none response ?_ ?_ hwatched rfl hs.log_eq
  · rw [execute_eq_perform hread, ← hok, ← hsave]
    rfl
  · rw [execute_eq_perform hread, Session.perform, hsilent]
    simp only [Prod.map, hok]
    rfl

/-- Between two lines a session has one subscription to every channel of its automaton and no other,
and its log is empty.  If it watches, it answers a line with everything that the automaton has sent
during the line and nothing else, and then with what it would answer otherwise.  The commands that
replace the automaton, and the one that switches watching, show no notification at all. -/
theorem Reachable.watch_correct (h : s.Reachable) :
    (∀ channel, s.automaton.bus.channels.count channel =
      if channel ∈ channels s.graph then 1 else 0) ∧
    s.log = [] ∧
    ∀ (d : Directory) (line : String) (command : Command) (changes : List String)
      (response : Response), s.watch = true → Command.read line = some (.ok command) →
      (s.execute d line).1 = .answer changes response →
      (command.isOrdinary = true → s.Shows d line (s.outcome (s.operationOf? command))) ∧
      (command.isOrdinary = false → changes = []) := by
  have hs := h.ready
  refine ⟨(attended_iff hs.consistent).1 hs.attended, hs.log_eq, ?_⟩
  intro d line command changes response hwatch hread hanswer
  rw [execute_eq_perform hread] at hanswer
  cases command with
  | quit => simp [Session.perform] at hanswer
  | load path =>
    obtain ⟨-, rfl⟩ := settle_answer hanswer
    exact ⟨by simp [Command.isOrdinary], fun _ => by simp [(ready_load s d path).log_eq]⟩
  | save file =>
    obtain ⟨hok, -⟩ := settle_answer hanswer
    exact ⟨fun _ => hs.shows_save hwatch hread hok, by simp [Command.isOrdinary]⟩
  | edit command =>
    obtain ⟨hok, hchanges⟩ := settle_answer hanswer
    refine ⟨fun hordinary => hs.shows_edit hwatch hread hordinary hok, fun hother => ?_⟩
    cases command with
    | new => simp [hchanges, Session.edit, renew_eq]
    | watch value => simp [hchanges, Session.edit, setWatch]
    | _ => simp [Command.isOrdinary, Edit.isOrdinary] at hother

/-- A step of the simulation, which tells of two states and then of itself. -/
theorem sample_watch_correct : sample.Reachable ∧ sample.watch = true ∧
    (sample.execute ⟨[]⟩ "step x").1 = .answer
      ["* state a current flag changed", "* state b current flag changed", "* simulation changed"]
      (.current (sample.graph.step (some "x")).graph) ∧
    sample.Shows ⟨[]⟩ "step x" (sample.outcome (sample.operationOf? (.edit (.step (some "x"))))) := by
  have hread : Command.read "step x" = some (.ok (.edit (.step (some "x")))) := by decide +kernel
  have hanswer : (sample.execute ⟨[]⟩ "step x").1 = .answer
      ["* state a current flag changed", "* state b current flag changed", "* simulation changed"]
      (.current (sample.graph.step (some "x")).graph) := by
    rw [Session.execute, hread]
    rfl
  have hwatch : sample.watch = true := by decide +kernel
  refine ⟨reachable_sample, hwatch, hanswer, ?_⟩
  exact (reachable_sample.watch_correct.2.2 ⟨[]⟩ "step x" _ _ _ hwatch hread hanswer).1 rfl

end Session

end Editor

end NfaWorkbench
