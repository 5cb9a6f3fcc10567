import NfaWorkbench.Simulation
import NfaWorkbench.Proofs.Graph.Consistency
set_option autoImplicit false

/-!
# Simulation: the frame

The simulation writes current flags, and nothing else but the switch that tells whether it runs.  So
a graph before and after agree once all flags are cleared, and everything that does not look at the
flags is the same before and after.
-/

namespace NfaWorkbench

/-- A change that leaves alone what `P` shows of a graph leaves it alone when made for each element
of a list. -/
theorem Change.each_eq {α β : Type} {P : Graph → β} {f : Graph → α → Change}
    (hf : ∀ g a, P (f g a).graph = P g) (l : List α) (g : Graph) :
    P (each f l g).graph = P g := by
  induction l generalizing g with
  | nil => rfl
  | cons a rest ih =>
    calc P (each f (a :: rest) g).graph = P (each f rest (f g a).graph).graph := rfl
      _ = P (f g a).graph := ih _
      _ = P g := hf g a

/-- A state with its current flag cleared. -/
def State.unmarked (state : State) : State := { state with current := false }

namespace Graph

/-- The graph with all current flags cleared. -/
def unmarked (g : Graph) : Graph := { g with states := g.states.mapValues State.unmarked }

variable {g k : Graph}

/-! ## The operations of the simulation clear and set flags only -/

@[simp]
theorem unmarked_setCurrent (g : Graph) (s : StateId) (value : Bool) :
    (g.setCurrent s value).graph.unmarked = g.unmarked := by
  unfold setCurrent
  split
  · rfl
  · split
    · rfl
    · have hstates := Registry.mapValues_modify (g := State.unmarked) g.states s
        (f := fun state => { state with current := value }) fun _ => rfl
      simp only [unmarked, modifyState, hstates]

@[simp]
theorem unmarked_markIdle (l : List StateId) (g : Graph) :
    (markIdle l g).graph.unmarked = g.unmarked := by
  induction l generalizing g with
  | nil => rfl
  | cons s rest ih =>
    rw [markIdle]
    split
    · exact (ih _).trans (unmarked_setCurrent g s true)
    · exact ih g

@[simp]
theorem unmarked_markFrom (fuel : Nat) (frontier : List StateId) (g : Graph) :
    (markFrom fuel frontier g).graph.unmarked = g.unmarked := by
  fun_induction markFrom fuel frontier g with
  | case1 => rfl
  | case2 => rfl
  | case3 fuel frontier g _ first later ih => exact ih.trans (unmarked_markIdle _ g)

@[simp]
theorem unmarked_close (g : Graph) : g.close.graph.unmarked = g.unmarked :=
  unmarked_markFrom g.passBound g.flaggedStates g

@[simp]
theorem unmarked_advance (g : Graph) (label : String) :
    (g.advance label).graph.unmarked = g.unmarked := by
  refine (Change.each_eq (fun g s => unmarked_setCurrent g s true) _ _).trans ?_
  exact Change.each_eq (fun g s => unmarked_setCurrent g s false) _ g

@[simp]
theorem unmarked_step (g : Graph) (event : Option String) :
    (g.step event).graph.unmarked = g.unmarked := by
  unfold step
  split
  · cases event with
    | none => exact unmarked_close g
    | some label => exact (unmarked_advance g.close.graph label).trans (unmarked_close g)
  · rfl

@[simp]
theorem unmarked_recognise (g : Graph) : g.recognise.2.graph.unmarked = g.unmarked := by
  unfold recognise
  split
  · exact unmarked_close g
  · rfl

/-- A restart also switches the simulation on. -/
@[simp]
theorem unmarked_reset (g : Graph) :
    g.reset.graph.unmarked = { g.unmarked with active := true } :=
  Change.each_eq (fun g (e : StateId × Bool) => unmarked_setCurrent g e.1 e.2) _ _

/-! ## What does not look at the flags -/

theorem mapValues_eq_of_unmarked_eq (h : k.unmarked = g.unmarked) {β : Type} {f : State → β}
    (hf : ∀ v, f v.unmarked = f v) : k.states.mapValues f = g.states.mapValues f := by
  have hclear : ∀ r : Registry StateId State,
      r.mapValues f = (r.mapValues State.unmarked).mapValues f := by
    intro r
    simp [Registry.mapValues, hf]
  rw [hclear k.states, hclear g.states]
  exact congrArg (Registry.mapValues f) (congrArg Graph.states h :)

theorem transitions_eq_of_unmarked_eq (h : k.unmarked = g.unmarked) :
    k.transitions = g.transitions :=
  (congrArg Graph.transitions h :)

theorem active_eq_of_unmarked_eq (h : k.unmarked = g.unmarked) : k.active = g.active :=
  (congrArg Graph.active h :)

theorem ids_eq_of_unmarked_eq (h : k.unmarked = g.unmarked) : k.states.ids = g.states.ids :=
  Registry.ids_eq_of_mapValues_eq (congrArg Graph.states h :)

theorem Named.of_unmarked_eq (hg : g.Named) (h : k.unmarked = g.unmarked) : k.Named :=
  hg.congr (congrArg Graph.owner h :) (congrArg Graph.nextState h :) (congrArg Graph.names h :)
    (mapValues_eq_of_unmarked_eq h fun _ => rfl)

theorem Wired.of_unmarked_eq (hg : g.Wired) (h : k.unmarked = g.unmarked) : k.Wired :=
  hg.congr (congrArg Graph.owner h :) (congrArg Graph.nextTransition h :)
    (transitions_eq_of_unmarked_eq h) (ids_eq_of_unmarked_eq h)

theorem Linked.of_unmarked_eq (hg : g.Linked) (h : k.unmarked = g.unmarked) : k.Linked :=
  hg.congr (transitions_eq_of_unmarked_eq h) (mapValues_eq_of_unmarked_eq h fun _ => rfl)

/-- While a simulation runs, a change of the flags keeps a graph consistent. -/
theorem Consistent.of_unmarked_eq (hg : g.Consistent) (h : k.unmarked = g.unmarked)
    (hactive : g.active = true) : k.Consistent where
  toNamed := hg.toNamed.of_unmarked_eq h
  toWired := hg.toWired.of_unmarked_eq h
  toLinked := hg.toLinked.of_unmarked_eq h
  idle := by simp [active_eq_of_unmarked_eq h, hactive]

theorem Consistent.activated (hg : g.Consistent) : { g with active := true }.Consistent where
  toNamed := hg.toNamed.congr rfl rfl rfl rfl
  toWired := hg.toWired.congr rfl rfl rfl rfl
  toLinked := hg.toLinked.congr rfl rfl
  idle := by simp

theorem Consistent.reset (hg : g.Consistent) : g.reset.graph.Consistent :=
  hg.activated.of_unmarked_eq (unmarked_reset g) rfl

theorem Consistent.step (hg : g.Consistent) (event : Option String) :
    (g.step event).graph.Consistent := by
  cases hactive : g.active with
  | true => exact hg.of_unmarked_eq (unmarked_step g event) hactive
  | false => simpa [Graph.step, hactive, Change.none] using hg

theorem Consistent.recognise (hg : g.Consistent) : g.recognise.2.graph.Consistent := by
  cases hactive : g.active with
  | true => exact hg.of_unmarked_eq (unmarked_recognise g) hactive
  | false => simpa [Graph.recognise, hactive, Change.none] using hg

end Graph

end NfaWorkbench
