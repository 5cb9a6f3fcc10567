import NfaWorkbench.Proofs.Editor.Listening
set_option autoImplicit false

/-!
# Editor: what comes of a command

Every command that keeps the automaton of its session is one of three kinds: it is refused and leaves
the session as it is, it only shows something, or it carries out one operation on the automaton
(`Comes`).  What it brings, a state or a transition, the session listens to from then on.
-/

namespace NfaWorkbench

/-- In a consistent graph the search among the transitions between two states finds the first one of
all that has these ends and this label. -/
theorem Graph.Consistent.withLabel_eq {g : Graph} (hg : g.Consistent) {a b : StateId}
    {label : Option String} {found : List TransitionId}
    (hfound : g.findTransitions a b = .ok found) :
    Editor.Session.withLabel g label found =
      (g.transitions.find? (·.2 = ⟨a, b, label⟩)).map (·.1) := by
  obtain ⟨ha, hb⟩ : a ∈ g.states.ids ∧ b ∈ g.states.ids := by
    by_contra hends
    have herror : ∃ error, g.findTransitions a b = .error error := by
      by_cases ha : a ∈ g.states.ids
      · exact ⟨_, Graph.findTransitions_eq_error_iff.2 (.inr ⟨ha, fun hb => hends ⟨ha, hb⟩, rfl⟩)⟩
      · exact ⟨_, Graph.findTransitions_eq_error_iff.2 (.inl ⟨ha, rfl⟩)⟩
    obtain ⟨error, herror⟩ := herror
    simp [hfound] at herror
  obtain rfl : g.transitions.idsWhere (fun e => e.source = a ∧ e.target = b) = found :=
    Except.ok.inj ((hg.findTransitions_eq ha hb).symm.trans hfound)
  rw [Editor.Session.withLabel, Registry.idsWhere, List.find?_map, List.find?_filter,
    ← List.head?_filter, ← List.head?_filter]
  congr 2
  refine List.filter_congr ?_
  rintro ⟨t, e⟩ ht
  have hsome : g.transition? t = some e := hg.transition?_eq_some_iff.2 ht
  obtain ⟨source, target, word⟩ := e
  simp [hsome, and_assoc]

namespace Editor

/-- The commands that touch no file and keep the automaton of the session, and whether it watches. -/
def Edit.isOrdinary : Edit → Bool
  | new => false
  | watch _ => false
  | _ => true

/-- The commands after which the session has the automaton that it had before, and watches if it
watched before. -/
def Command.isOrdinary : Command → Bool
  | quit => true
  | load _ => false
  | save _ => true
  | edit command => command.isOrdinary

namespace Session

open Automaton (Answer Does Operation)

variable {s : Session} {operation : Operation} {answer : Answer} {c : Change}

/-- The operation on the automaton that a command stands for, if there is one. -/
def operation? (s : Session) : Edit → Option Operation
  | .state name x y =>
    match Coordinate.parse? x, Coordinate.parse? y with
    | some x, some y => some (.createState name ⟨x, y⟩)
    | _, _ => none
  | .delete name => (s.graph.findState name).map .removeState
  | .transition source label target =>
    match s.graph.findState source, s.graph.findState target with
    | some a, some b => some (.createTransition a b (labelOfWord label))
    | _, _ => none
  | .untransition source label target =>
    match s.graph.findState source, s.graph.findState target with
    | some a, some b =>
      (s.graph.transitions.find? (·.2 = ⟨a, b, labelOfWord label⟩)).map (.removeTransition ·.1)
    | _, _ => none
  | .flag .initial value name => (s.graph.findState name).map (.setInitial · value)
  | .flag .final value name => (s.graph.findState name).map (.setFinal · value)
  | .move name dx dy =>
    match s.graph.findState name, Coordinate.parse? dx, Coordinate.parse? dy with
    | some id, some dx, some dy => some (.moveBy id dx dy)
    | _, _, _ => none
  | .reset => some .reset
  | .step event => if s.graph.active then some (.step (event.bind labelOfWord)) else none
  | .recognised => some .recognise
  | _ => none

/-- What can come of a command that stands for an operation, or for none. -/
inductive Comes (s : Session) : Option Operation → Except Refusal Response × Session → Prop
  | refused (operation : Option Operation) (reason : Refusal) : Comes s operation (.error reason, s)
  | shown (response : Response) : Comes s none (.ok response, s)
  | changed {operation : Operation} {answer : Answer} {c : Change}
      (hdoes : Does s.graph operation answer c) (hissued : answer.issued = [])
      (response : Response) : Comes s (some operation) (.ok response, s.apply c)
  | adopted {operation : Operation} {answer : Answer} {c : Change} {h : Handle}
      (hdoes : Does s.graph operation answer c) (hissued : answer.issued = [h])
      (response : Response) :
      Comes s (some operation) (.ok response, (s.apply c).subscribed h.channel)

/-! ## The parts of commands -/

theorem require_eq_ok_iff {name : String} {id : StateId} :
    s.require name = .ok id ↔ s.graph.findState name = some id := by
  unfold require
  cases s.graph.findState name <;> simp

theorem coordinates_eq_ok_iff {refuse : String → Refusal} {x y : String}
    {r : Coordinate × Coordinate} :
    coordinates refuse x y = .ok r ↔
      Coordinate.parse? x = some r.1 ∧ Coordinate.parse? y = some r.2 := by
  obtain ⟨a, b⟩ := r
  unfold coordinates
  cases Coordinate.parse? x <;> cases Coordinate.parse? y <;> simp

/-- What is new has a channel, so that it can be listened to. -/
theorem adopt_eq (hg : s.graph.Consistent) (hdoes : Does s.graph operation answer c) {h : Handle}
    (hissued : answer.issued = [h]) (response : Response) :
    s.adopt c h.channel response = (.ok response, (s.apply c).subscribed h.channel) := by
  have hmem : h ∈ c.graph.handles :=
    (Automaton.mem_handles_of_does hg hdoes h).2 (.inl (by simp [hissued]))
  have hchannel : (s.apply c).graph.HasChannel h.channel := Graph.hasChannel_channel_iff.2 hmem
  rw [adopt, listen_eq_ok hchannel]

/-! ## The commands one by one -/

theorem comes_createState (hg : s.graph.Consistent) (name x y : String) :
    Comes s (s.operation? (.state name x y)) (s.createState name x y) := by
  unfold createState
  split
  · exact .refused _ _
  · rename_i x' y' hcoordinates
    obtain ⟨hx, hy⟩ := coordinates_eq_ok_iff.1 hcoordinates
    split
    · exact .refused _ _
    · rename_i id c hcreate
      obtain ⟨hname, hfree, heq⟩ := Graph.createState_eq_ok_iff.1 hcreate
      obtain ⟨rfl, rfl⟩ := Prod.mk.inj heq
      have hdoes : Does s.graph (.createState name ⟨x', y'⟩) _ _ := .createState hname hfree
      rw [operation?, hx, hy]
      exact adopt_eq hg hdoes rfl _ ▸ .adopted hdoes rfl _

theorem comes_deleteState (name : String) :
    Comes s (s.operation? (.delete name)) (s.deleteState name) := by
  unfold deleteState
  split
  · exact .refused _ _
  · rename_i id hrequire
    rw [operation?, require_eq_ok_iff.1 hrequire]
    exact .changed (.removeState id) rfl _

theorem comes_createTransition (hg : s.graph.Consistent) (source label target : String) :
    Comes s (s.operation? (.transition source label target))
      (s.createTransition source label target) := by
  unfold createTransition
  split
  · exact .refused _ _
  · rename_i a hsource
    split
    · exact .refused _ _
    · rename_i b htarget
      split
      · exact .refused _ _
      · rename_i id c hcreate
        obtain ⟨ha, hb, hlabel, hedge, heq⟩ := Graph.createTransition_eq_ok_iff.1 hcreate
        obtain ⟨rfl, rfl⟩ := Prod.mk.inj heq
        have hdoes := Does.createTransition ha hb hlabel hedge
        rw [operation?, require_eq_ok_iff.1 hsource, require_eq_ok_iff.1 htarget]
        exact adopt_eq hg hdoes rfl _ ▸ .adopted hdoes rfl _

theorem comes_deleteTransition (hg : s.graph.Consistent) (source label target : String) :
    Comes s (s.operation? (.untransition source label target))
      (s.deleteTransition source label target) := by
  unfold deleteTransition
  split
  · exact .refused _ _
  · rename_i a hsource
    split
    · exact .refused _ _
    · rename_i b htarget
      split
      · exact .refused _ _
      · rename_i found hfound
        split
        · exact .refused _ _
        · rename_i id hid
          rw [hg.withLabel_eq hfound, Option.map_eq_some_iff] at hid
          obtain ⟨⟨t, e⟩, hfind, rfl⟩ := hid
          simp only [operation?, require_eq_ok_iff.1 hsource, require_eq_ok_iff.1 htarget, hfind]
          exact .changed (.removeTransition t) rfl _

theorem comes_setFlag (flag : Flag) (value : Bool) (name : String) :
    Comes s (s.operation? (.flag flag value name)) (s.setFlag flag value name) := by
  unfold setFlag
  split
  · exact .refused _ _
  · rename_i id hrequire
    split
    · exact .refused _ _
    · rename_i c hchange
      have hname := require_eq_ok_iff.1 hrequire
      cases flag <;>
      · obtain ⟨hs, rfl⟩ := Graph.changeState_eq_ok_iff.1 hchange
        rw [operation?, hname]
        exact .changed (.changeState rfl hs) rfl _

theorem comes_moveState (name dx dy : String) :
    Comes s (s.operation? (.move name dx dy)) (s.moveState name dx dy) := by
  unfold moveState
  split
  · exact .refused _ _
  · rename_i id hrequire
    split
    · exact .refused _ _
    · rename_i dx' dy' hoffsets
      obtain ⟨hx, hy⟩ := coordinates_eq_ok_iff.1 hoffsets
      split
      · exact .refused _ _
      · rename_i c hchange
        obtain ⟨hs, rfl⟩ := Graph.changeState_eq_ok_iff.1 hchange
        rw [operation?, require_eq_ok_iff.1 hrequire, hx, hy]
        exact .changed (.changeState rfl hs) rfl _

theorem comes_step (event : Option String) :
    Comes s (s.operation? (.step event)) (s.step event) := by
  have hstep : s.operation? (.step event) =
      if s.graph.active then some (.step (event.bind labelOfWord)) else none := rfl
  rw [hstep, Session.step]
  split
  · exact .changed (.step _) rfl _
  · exact .refused _ _

/-- What comes of a command is decided by the operation that it stands for. -/
theorem comes (hg : s.graph.Consistent) {command : Edit} (hordinary : command.isOrdinary) :
    Comes s (s.operation? command) (s.edit command) := by
  cases command with
  | help => exact .shown _
  | new => simp [Edit.isOrdinary] at hordinary
  | display => exact .shown _
  | state name x y => exact comes_createState hg name x y
  | delete name => exact comes_deleteState name
  | transition source label target => exact comes_createTransition hg source label target
  | untransition source label target => exact comes_deleteTransition hg source label target
  | flag flag value name => exact comes_setFlag flag value name
  | move name dx dy => exact comes_moveState name dx dy
  | reset => exact .changed .reset rfl _
  | step event => exact comes_step event
  | recognised => exact .changed .recognise rfl _
  | current => exact .shown _
  | watch value => simp [Edit.isOrdinary] at hordinary

end Session

end Editor

end NfaWorkbench
