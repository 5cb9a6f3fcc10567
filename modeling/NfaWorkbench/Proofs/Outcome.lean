import NfaWorkbench.Automaton
import NfaWorkbench.Proofs.Reachable
set_option autoImplicit false

/-!
# Operations case by case

Everything that an operation can do to an automaton, with the checks that it has passed: it is
refused, or it makes one of eight kinds of change to the graph, or it touches the bus only.  What is
proved of all operations is proved by these cases.
-/

namespace NfaWorkbench

/-- A change of a state that shows in one of its aspects only. -/
structure Graph.ShowsIn (aspect : StateAspect) (f : State → State) : Prop
    extends IsAttributeChange f where
  ne_current : aspect ≠ .current
  ne_removed : aspect ≠ .removed
  position_eq : aspect ≠ .position → ∀ v, (f v).position = v.position
  initial_eq : aspect ≠ .initial → ∀ v, (f v).initial = v.initial
  final_eq : aspect ≠ .final → ∀ v, (f v).final = v.final

namespace Automaton

/-- The attribute that an operation changes: of which state, what it is, and how it changes. -/
def Operation.attribute? : Operation → Option (StateId × StateAspect × (State → State))
  | .setInitial s value => some (s, .initial, fun state => { state with initial := value })
  | .setFinal s value => some (s, .final, fun state => { state with final := value })
  | .moveBy s dx dy =>
    some (s, .position, fun state => { state with position := state.position.moveBy dx dy })
  | _ => none

theorem Operation.showsIn_attribute {operation : Operation} {s : StateId} {aspect : StateAspect}
    {f : State → State} (h : operation.attribute? = some (s, aspect, f)) :
    Graph.ShowsIn aspect f := by
  cases operation with
  | setInitial t value =>
    obtain ⟨rfl, rfl, rfl⟩ := by simpa [attribute?] using h
    exact ⟨Graph.isAttributeChange_initial value, by simp, by simp, by simp, by simp, by simp⟩
  | setFinal t value =>
    obtain ⟨rfl, rfl, rfl⟩ := by simpa [attribute?] using h
    exact ⟨Graph.isAttributeChange_final value, by simp, by simp, by simp, by simp, by simp⟩
  | moveBy t dx dy =>
    obtain ⟨rfl, rfl, rfl⟩ := by simpa [attribute?] using h
    exact ⟨Graph.isAttributeChange_moveBy dx dy, by simp, by simp, by simp, by simp, by simp⟩
  | _ => simp [attribute?] at h

/-- What an accepted operation makes of a graph. -/
inductive Does (g : Graph) : Operation → Answer → Change → Prop
  | createState {name : String} {position : Position} (hname : IsName name)
      (hfree : g.names.contains name = false) :
      Does g (.createState name position) (.state g.nextStateId)
        ⟨g.addState name position, [.statesChanged]⟩
  | removeState (s : StateId) : Does g (.removeState s) .done (g.removeState s)
  | changeState {operation : Operation} {s : StateId} {aspect : StateAspect} {f : State → State}
      (hchange : operation.attribute? = some (s, aspect, f)) (hs : s ∈ g.states.ids) :
      Does g operation .done ⟨g.modifyState s f, [.state s aspect]⟩
  | createTransition {source target : StateId} {label : Option String}
      (hsource : source ∈ g.states.ids) (htarget : target ∈ g.states.ids)
      (hlabel : ∀ word, label = some word → IsLabel word)
      (hedge : g.hasEdge source target label = false) :
      Does g (.createTransition source target label) (.transition g.nextTransitionId)
        ⟨g.addTransition source target label, [.transitionsChanged]⟩
  | removeTransition (t : TransitionId) : Does g (.removeTransition t) .done (g.removeTransition t)
  | reset : Does g .reset .done g.reset
  | step (event : Option String) : Does g (.step event) .done (g.step event)
  | recognise : Does g .recognise (.verdict g.recognise.1) g.recognise.2

/-- What an operation makes of an automaton. -/
inductive Performs (a : Automaton) : Operation → Outcome → Prop
  | refused (operation : Operation) (error : GraphError) : Performs a operation (a.refused error)
  | changed {operation : Operation} {answer : Answer} {c : Change}
      (h : Does a.graph operation answer c) : Performs a operation (a.changed answer c)
  | subscribed {channel : Channel} (h : a.channelError? channel = none) :
      Performs a (.subscribe channel)
        ⟨.ok (.subscription a.bus.next), { a with bus := (a.bus.subscribe channel).2 }, [], []⟩
  | unsubscribed (id : Nat) :
      Performs a (.unsubscribe id)
        ⟨.ok (.verdict (a.bus.isAlive id)), { a with bus := (a.bus.unsubscribe id).2 }, [], []⟩

variable {a : Automaton}

theorem performs_settled {operation : Operation} {α : Type} {r : Except GraphError α}
    {f : α → Answer × Change} (h : ∀ x, r = .ok x → Does a.graph operation (f x).1 (f x).2) :
    Performs a operation (a.settled (r.map f)) := by
  cases r with
  | error error => exact .refused operation error
  | ok x => exact .changed (h x rfl)

theorem performs (a : Automaton) (operation : Operation) :
    Performs a operation (a.perform operation) := by
  have hchange : ∀ {s aspect f} {operation : Operation},
      operation.attribute? = some (s, aspect, f) → Performs a operation
        (a.settled ((a.graph.changeState s aspect f).map ((.done, ·)))) := by
    intro s aspect f operation hchange
    refine performs_settled fun c hc => ?_
    obtain ⟨hs, rfl⟩ := Graph.changeState_eq_ok_iff.1 hc
    exact .changeState hchange hs
  cases operation with
  | createState name position =>
    refine performs_settled fun r hr => ?_
    obtain ⟨hname, hfree, rfl⟩ := Graph.createState_eq_ok_iff.1 hr
    exact .createState hname hfree
  | removeState s => exact .changed (.removeState s)
  | setInitial s value => exact hchange rfl
  | setFinal s value => exact hchange rfl
  | moveBy s dx dy => exact hchange rfl
  | createTransition source target label =>
    refine performs_settled fun r hr => ?_
    obtain ⟨hsource, htarget, hlabel, hedge, rfl⟩ := Graph.createTransition_eq_ok_iff.1 hr
    exact .createTransition hsource htarget hlabel hedge
  | removeTransition t => exact .changed (.removeTransition t)
  | reset => exact .changed .reset
  | step event => exact .changed (.step event)
  | recognise => exact .changed .recognise
  | subscribe channel =>
    simp only [perform, subscribe]
    cases hchannel : a.channelError? channel with
    | some error => exact .refused _ error
    | none => exact .subscribed hchannel
  | unsubscribe id => exact .unsubscribed id

/-- What an operation does to the graph decides its outcome. -/
theorem perform_eq_changed {operation : Operation} {answer : Answer} {c : Change}
    (h : Does a.graph operation answer c) : a.perform operation = a.changed answer c := by
  have hsettled : ∀ {α : Type} {r : Except GraphError α} {f : α → Answer × Change} {x : α},
      r = .ok x → a.settled (r.map f) = a.changed (f x).1 (f x).2 := by
    rintro α r f x rfl
    rfl
  cases h with
  | createState hname hfree =>
    exact hsettled (Graph.createState_eq_ok_iff.2 ⟨hname, hfree, rfl⟩)
  | @changeState operation s aspect f hchange hs =>
    have hok : a.graph.changeState s aspect f = .ok ⟨a.graph.modifyState s f, [.state s aspect]⟩ :=
      Graph.changeState_eq_ok_iff.2 ⟨hs, rfl⟩
    cases operation <;> simp only [Operation.attribute?, reduceCtorEq, Option.some.injEq,
      Prod.mk.injEq] at hchange <;> obtain ⟨rfl, rfl, rfl⟩ := hchange <;> exact hsettled hok
  | createTransition hsource htarget hlabel hedge =>
    exact hsettled (Graph.createTransition_eq_ok_iff.2 ⟨hsource, htarget, hlabel, hedge, rfl⟩)
  | _ => rfl

theorem consistent_of_does {g : Graph} (hg : g.Consistent) {operation : Operation} {answer : Answer}
    {c : Change} (h : Does g operation answer c) : c.graph.Consistent := by
  have hperform : ((ofGraph g).perform operation).automaton.graph = c.graph := by
    rw [perform_eq_changed h]
    rfl
  exact hperform ▸ consistent_perform hg operation

end Automaton

end NfaWorkbench
