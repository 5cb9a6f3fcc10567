import Mathlib.Control.Monad.Basic
import NfaWorkbench.Proofs.Graph.Refusal
import NfaWorkbench.Proofs.Reachable
set_option autoImplicit false

/-!
# Refused operations

Which operations an automaton refuses, with which error, and what becomes of the automaton then:
nothing.  The rules speak of the members of the graph alone.  That an operation follows them, though
it asks the name index, rests on the invariant.
-/

namespace NfaWorkbench.Automaton

/-- The state that an operation speaks of, for the operations that need it to be a member. -/
def Operation.subject? : Operation → Option StateId
  | .setInitial s _ => some s
  | .setFinal s _ => some s
  | .moveBy s _ _ => some s
  | .subscribe (.state s) => some s
  | _ => none

/-- The operations that are refused on an automaton with the given graph, and the errors.  At most
one rule applies to an operation, and where none does it is carried out. -/
inductive Refuses (g : Graph) : Operation → GraphError → Prop
  | invalidName {name : String} {position : Position} {fault : NameFault}
      (hfault : FaultyName name fault) :
      Refuses g (.createState name position) (.invalidName name fault)
  | duplicateName {name : String} {position : Position} {s : StateId} {state : State}
      (hname : IsName name) (hs : (s, state) ∈ g.states) (hsame : state.name = name) :
      Refuses g (.createState name position) (.duplicateName name)
  | unknownState {operation : Operation} {s : StateId} (hsubject : operation.subject? = some s)
      (hs : s ∉ g.states.ids) : Refuses g operation (.unknownState s)
  | unknownSource {source target : StateId} {label : Option String}
      (hsource : source ∉ g.states.ids) :
      Refuses g (.createTransition source target label) (.unknownState source)
  | unknownTarget {source target : StateId} {label : Option String}
      (hsource : source ∈ g.states.ids) (htarget : target ∉ g.states.ids) :
      Refuses g (.createTransition source target label) (.unknownState target)
  | invalidLabel {source target : StateId} {word : String} {fault : LabelFault}
      (hsource : source ∈ g.states.ids) (htarget : target ∈ g.states.ids)
      (hfault : FaultyLabel word fault) :
      Refuses g (.createTransition source target (some word)) (.invalidLabel word fault)
  | duplicateTransition {source target : StateId} {a b : State} {label : Option String}
      {t : TransitionId} (hsource : (source, a) ∈ g.states) (htarget : (target, b) ∈ g.states)
      (hlabel : ∀ word, label = some word → IsLabel word)
      (ht : (t, ⟨source, target, label⟩) ∈ g.transitions) :
      Refuses g (.createTransition source target label) (.duplicateTransition a.name label b.name)
  | unknownTransition {t : TransitionId} (ht : t ∉ g.transitions.ids) :
      Refuses g (.subscribe (.transition t)) (.unknownTransition t)

variable {a : Automaton} {error : GraphError}

/-! ## The answer of an operation -/

theorem answer_settled_map {α : Type} {r : Except GraphError α} {f : α → Answer × Change} :
    (a.settled (r.map f)).answer = .error error ↔ r = .error error := by
  cases r <;> simp [settled, changed, refused, Except.map]

theorem refuses_createState_iff {g : Graph} (hg : g.Named) {name : String} {position : Position} :
    g.createState name position = .error error ↔ Refuses g (.createState name position) error := by
  rw [hg.createState_eq_error_iff]
  constructor
  · intro hgiven
    obtain ⟨fault, hfault, rfl⟩ | ⟨hname, ⟨s, state, hs, hsame⟩, rfl⟩ := hgiven
    · exact .invalidName hfault
    · exact .duplicateName hname hs hsame
  · intro hrefuses
    cases hrefuses with
    | unknownState hsubject => nomatch hsubject
    | invalidName hfault => exact .inl ⟨_, hfault, rfl⟩
    | duplicateName hname hs hsame => exact .inr ⟨hname, ⟨_, _, hs, hsame⟩, rfl⟩

theorem refuses_createTransition_iff {g : Graph} (hg : g.Named) {source target : StateId}
    {label : Option String} : g.createTransition source target label = .error error ↔
      Refuses g (.createTransition source target label) error := by
  rw [Graph.createTransition_eq_error_iff]
  constructor
  · intro hgiven
    obtain ⟨hsource, rfl⟩ | ⟨hsource, htarget, rfl⟩ |
      ⟨hsource, htarget, word, fault, rfl, hfault, rfl⟩ |
      ⟨hsource, htarget, hlabel, ⟨t, ht⟩, rfl⟩ := hgiven
    · exact .unknownSource hsource
    · exact .unknownTarget hsource htarget
    · exact .invalidLabel hsource htarget hfault
    · obtain ⟨v, hv⟩ := Registry.mem_ids_iff.1 hsource
      obtain ⟨w, hw⟩ := Registry.mem_ids_iff.1 htarget
      rw [hg.stateName_of_mem hv, hg.stateName_of_mem hw]
      exact .duplicateTransition hv hw hlabel ht
  · intro hrefuses
    cases hrefuses with
    | unknownState hsubject => nomatch hsubject
    | unknownSource hsource => exact .inl ⟨hsource, rfl⟩
    | unknownTarget hsource htarget => exact .inr (.inl ⟨hsource, htarget, rfl⟩)
    | invalidLabel hsource htarget hfault =>
      exact .inr (.inr (.inl ⟨hsource, htarget, _, _, rfl, hfault, rfl⟩))
    | duplicateTransition hv hw hlabel ht =>
      rw [← hg.stateName_of_mem hv, ← hg.stateName_of_mem hw]
      exact .inr (.inr (.inr ⟨Registry.mem_ids_of_mem hv, Registry.mem_ids_of_mem hw, hlabel,
        ⟨_, ht⟩, rfl⟩))

/-- An operation on one state is refused exactly if that state is no member. -/
theorem refuses_iff_of_subject {g : Graph} {operation : Operation} {s : StateId}
    (hsubject : operation.subject? = some s) :
    Refuses g operation error ↔ s ∉ g.states.ids ∧ error = .unknownState s := by
  constructor
  · intro hrefuses
    cases hrefuses with
    | @unknownState _ t hother hs =>
      obtain rfl : t = s := Option.some.inj (hother.symm.trans hsubject)
      exact ⟨hs, rfl⟩
    | _ => nomatch hsubject
  · intro hgiven
    obtain ⟨hs, rfl⟩ := hgiven
    exact .unknownState hsubject hs

theorem channelError?_eq_some_iff {channel : Channel} :
    a.channelError? channel = some error ↔ Refuses a.graph (.subscribe channel) error := by
  cases channel with
  | automaton =>
    simp only [channelError?, reduceCtorEq, false_iff]
    intro hrefuses
    cases hrefuses with
    | unknownState hsubject => nomatch hsubject
  | state s =>
    rw [refuses_iff_of_subject rfl, ← Graph.hasState_iff, channelError?]
    cases a.graph.hasState s <;> simp [eq_comm (a := error)]
  | transition t =>
    have hrule : Refuses a.graph (.subscribe (.transition t)) error ↔
        t ∉ a.graph.transitions.ids ∧ error = .unknownTransition t := by
      constructor
      · intro hrefuses
        cases hrefuses with
        | unknownState hsubject => nomatch hsubject
        | unknownTransition ht => exact ⟨ht, rfl⟩
      · intro hgiven
        obtain ⟨ht, rfl⟩ := hgiven
        exact .unknownTransition ht
    rw [hrule, ← Registry.contains_iff_mem_ids, channelError?, Graph.hasTransition]
    cases a.graph.transitions.contains t <;> simp [eq_comm (a := error)]

theorem answer_subscribe {channel : Channel} :
    (a.perform (.subscribe channel)).answer = .error error ↔
      a.channelError? channel = some error := by
  simp only [perform, subscribe]
  cases a.channelError? channel <;> simp [refused]

/-- An operation is refused exactly where a rule says so, and with the error of that rule. -/
theorem answer_eq_error_iff (ha : a.graph.Consistent) {operation : Operation} :
    (a.perform operation).answer = .error error ↔ Refuses a.graph operation error := by
  have hchange : ∀ {s aspect f} {operation : Operation}, operation.subject? = some s →
      ((a.settled ((a.graph.changeState s aspect f).map ((.done, ·)))).answer = .error error ↔
        Refuses a.graph operation error) := by
    intro s aspect f operation hsubject
    rw [answer_settled_map, Graph.changeState_eq_error_iff, refuses_iff_of_subject hsubject]
  -- An operation without a rule is always carried out.
  have hfree : ∀ {answer : Answer} {operation : Operation},
      (∀ error, ¬Refuses a.graph operation error) →
      (Except.ok answer = Except.error error ↔ Refuses a.graph operation error) :=
    fun hnone => iff_of_false (by simp) (hnone error)
  cases operation with
  | createState name position => exact answer_settled_map.trans (refuses_createState_iff ha.toNamed)
  | setInitial s value => exact hchange rfl
  | setFinal s value => exact hchange rfl
  | moveBy s dx dy => exact hchange rfl
  | createTransition source target label =>
    exact answer_settled_map.trans (refuses_createTransition_iff ha.toNamed)
  | subscribe channel => exact answer_subscribe.trans channelError?_eq_some_iff
  | _ =>
    refine hfree ?_
    intro error hrefuses
    cases hrefuses with
    | unknownState hsubject => nomatch hsubject

/-! ## What a refusal leaves behind -/

/-- A refused operation changes nothing, and nobody hears of it. -/
theorem perform_eq_refused {operation : Operation}
    (h : (a.perform operation).answer = .error error) : a.perform operation = a.refused error := by
  have hsettled : ∀ {r : Except GraphError (Answer × Change)},
      (a.settled r).answer = .error error → a.settled r = a.refused error := by
    intro r hr
    cases r with
    | error other => exact Except.error.inj hr ▸ rfl
    | ok x => simp [settled, changed] at hr
  cases operation with
  | createState name position => exact hsettled h
  | setInitial s value => exact hsettled h
  | setFinal s value => exact hsettled h
  | moveBy s dx dy => exact hsettled h
  | createTransition source target label => exact hsettled h
  | subscribe channel =>
    simp only [perform] at h ⊢
    split at h
    · exact Except.error.inj h ▸ rfl
    · simp at h
  | _ => simp [perform, changed] at h

/-- An operation is refused exactly by the rules, and carried out where none applies.  After a
refusal the automaton is what it was, counters and subscriptions included, and no notification was
sent.  A search between two states is refused for the first of them that is no member. -/
theorem Reachable.answer_eq_error {a : Automaton} (h : a.Reachable) (operation : Operation) :
    (∀ error, (a.perform operation).answer = .error error ↔ Refuses a.graph operation error) ∧
    ((∃ answer, (a.perform operation).answer = .ok answer) ↔
      ∀ error, ¬Refuses a.graph operation error) ∧
    (∀ error, (a.perform operation).answer = .error error →
      (a.perform operation).automaton = a ∧ (a.perform operation).notes = [] ∧
        (a.perform operation).deliveries = []) ∧
    ∀ s t error, a.graph.findTransitions s t = .error error ↔
      (s ∉ a.graph.states.ids ∧ error = .unknownState s) ∨
      (s ∈ a.graph.states.ids ∧ t ∉ a.graph.states.ids ∧ error = .unknownState t) := by
  have hrules : ∀ error, (a.perform operation).answer = .error error ↔
      Refuses a.graph operation error := fun error => answer_eq_error_iff h.consistent
  refine ⟨hrules, ?_, ?_, fun s t error => Graph.findTransitions_eq_error_iff⟩
  · simp only [← hrules]
    cases (a.perform operation).answer <;> simp
  · intro error herror
    simp [perform_eq_refused herror, refused]

/-- A name that went to another state, the identifier of the state that had it before, and a
transition that is there already. -/
theorem sample_answer_eq_error : sample.Reachable ∧
    Refuses sample.graph (.createState "b" default) (.duplicateName "b") ∧
    Refuses sample.graph (.moveBy ⟨0, 1⟩ default default) (.unknownState ⟨0, 1⟩) ∧
    (sample.perform (.createTransition ⟨0, 0⟩ ⟨0, 2⟩ (some "y"))).automaton = sample := by
  have hname := (reachable_sample.answer_eq_error (.createState "b" default)).1
  have hgone := (reachable_sample.answer_eq_error (.moveBy ⟨0, 1⟩ default default)).1
  have hsame :=
    (reachable_sample.answer_eq_error (.createTransition ⟨0, 0⟩ ⟨0, 2⟩ (some "y"))).2.2.1
  refine ⟨reachable_sample, (hname _).1 ?_, (hgone _).1 ?_,
    (hsame (.duplicateTransition "a" (some "y") "b") ?_).1⟩
  · decide +kernel
  · decide +kernel
  · decide +kernel

end NfaWorkbench.Automaton
