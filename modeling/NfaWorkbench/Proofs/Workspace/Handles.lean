import NfaWorkbench.Proofs.Handles
import NfaWorkbench.Proofs.Workspace.Run
set_option autoImplicit false

/-!
# Handles of all automata

The handles that the automata of a workspace issue in the course of a run.  No two of them are the
same, whichever automata they come from.  A handle is a member of one automaton, from the action
that issues it there until the action that removes it there, and of no other.
-/

namespace NfaWorkbench.Workspace

variable {w : Workspace} {action : Action} {n : Nat} {h : Handle}

/-- Whether a handle is that of a member of the automaton with a number. -/
def HasHandle (w : Workspace) (n : Nat) (h : Handle) : Prop :=
  ∃ a, w.automatonOf? n = some a ∧ h ∈ a.graph.handles

/-- Whether a handle was issued by some automaton, be it a member still or not. -/
def HasIssued (w : Workspace) : Handle → Prop
  | .state s => w.issuedState s
  | .transition t => w.issuedTransition t

/-- The handles that an action issues, each with the number of the automaton that issues it: those
of all members where an automaton comes into being, and the new one where an operation creates. -/
def issued (w : Workspace) (action : Action) : List (Nat × Handle) :=
  match w.made? action, w.operated? action with
  | some new, _ => new.graph.handles.map (new.graph.owner, ·)
  | none, some (a, operation) => (a.perform operation).issued.map (a.graph.owner, ·)
  | none, none => []

/-- The handles that are issued in the course of some actions. -/
def issuedAll (w : Workspace) : List Action → List (Nat × Handle)
  | [] => []
  | action :: rest => w.issued action ++ (w.act action).issuedAll rest

/-- Whether an action removes a handle from the automaton with a number. -/
def Removes (w : Workspace) (action : Action) (n : Nat) (h : Handle) : Prop :=
  ∃ a operation, w.operated? action = some (a, operation) ∧ a.graph.owner = n ∧
    Automaton.Removes a.graph operation h

/-- None of some actions removes a handle from the automaton with a number. -/
def Keeps (w : Workspace) (n : Nat) (h : Handle) : List Action → Prop
  | [] => True
  | action :: rest => ¬w.Removes action n h ∧ (w.act action).Keeps n h rest

/-! ## One action -/

theorem WellFormed.hasIssued_iff (hw : w.WellFormed) :
    w.HasIssued h ↔ ∃ a ∈ w.slots, a.graph.HasIssued h := by
  cases h with
  | state s =>
    simp only [HasIssued, issuedState, Option.any_eq_true, hw.automatonOf?_eq_some_iff,
      decide_eq_true_eq, Graph.HasIssued, eq_comm (a := s.owner), and_assoc]
  | transition t =>
    simp only [HasIssued, issuedTransition, Option.any_eq_true, hw.automatonOf?_eq_some_iff,
      decide_eq_true_eq, Graph.HasIssued, eq_comm (a := t.owner), and_assoc]

theorem WellFormed.hasHandle_iff (hw : w.WellFormed) :
    w.HasHandle n h ↔ ∃ a ∈ w.slots, a.graph.owner = n ∧ h ∈ a.graph.handles := by
  simp only [HasHandle, hw.automatonOf?_eq_some_iff, and_assoc]

/-- Where the others have other numbers, the automaton with a number is the one in the middle or one
of the others. -/
theorem exists_owner_iff {before after : List Automaton} {a b : Automaton} {P : Automaton → Prop}
    (hothers : ∀ c ∈ before ++ after, c.graph.owner ≠ a.graph.owner)
    (howner : b.graph.owner = a.graph.owner) :
    (∃ c ∈ before ++ b :: after, c.graph.owner = n ∧ P c) ↔
      if a.graph.owner = n then P b else ∃ c ∈ before ++ after, c.graph.owner = n ∧ P c := by
  have hmem : ∀ c, c ∈ before ++ b :: after ↔ c = b ∨ c ∈ before ++ after := by
    simp [or_left_comm]
  simp only [hmem, or_and_right, exists_or, exists_eq_left, howner]
  split
  · rename_i hn
    refine or_iff_left ?_ |>.trans (and_iff_right hn)
    rintro ⟨c, hc, hcn, -⟩
    exact hothers c hc (hcn.trans hn.symm)
  · rename_i hn
    exact or_iff_right fun hmiddle => hn hmiddle.1

/-- After an action the handles of an automaton are those that it has issued there, and the old ones
that it has not removed there. -/
theorem WellFormed.hasHandle_act_iff (hw : w.WellFormed) :
    (w.act action).HasHandle n h ↔
      (n, h) ∈ w.issued action ∨ (w.HasHandle n h ∧ ¬w.Removes action n h) := by
  rw [(hw.act action).hasHandle_iff, hw.hasHandle_iff]
  have hacts := acts w action
  generalize w.act action = v at hacts
  cases hacts with
  | none hmade hoperated hslots hnext => simp [issued, Removes, hmade, hoperated, hslots]
  | @made new hmade hoperated hslots hnext =>
    simp [issued, Removes, hmade, hoperated, hslots.mem_iff, and_comm (a := new.graph.owner = n)]
  | @operated before after a operation hmade hoperated hbefore hafter hnext =>
    have ha : a ∈ w.slots := by simp [hbefore]
    have howner := ((hw.reachable a ha).becomes_perform operation).owner_eq
    have hstep := Automaton.mem_handles_perform_iff (hw.reachable a ha) operation h
    have hissued : (n, h) ∈ w.issued action ↔
        a.graph.owner = n ∧ h ∈ (a.perform operation).issued := by
      simp [issued, hmade, hoperated, and_comm]
    have hremoves : w.Removes action n h ↔
        a.graph.owner = n ∧ Automaton.Removes a.graph operation h := by
      simp [Removes, hoperated]
    have hothers : ∀ c ∈ before ++ after, c.graph.owner ≠ a.graph.owner := by
      have hnodup := hw.owners_nodup
      rw [hbefore, (List.perm_middle.map _).nodup_iff, List.map_cons, List.nodup_cons] at hnodup
      exact fun c hc hsame => hnodup.1 (List.mem_map.2 ⟨c, hc, hsame⟩)
    rw [hissued, hremoves, hafter, hbefore, exists_owner_iff hothers howner,
      exists_owner_iff hothers rfl]
    by_cases hn : a.graph.owner = n
    · simpa [hn] using hstep
    · simp [hn]

/-- Every automaton of a workspace is still there after an action. -/
theorem WellFormed.exists_becomes_act (hw : w.WellFormed) (action : Action) {a : Automaton}
    (ha : a ∈ w.slots) : ∃ b ∈ (w.act action).slots, a.graph.Becomes b.graph := by
  have hacts := acts w action
  generalize w.act action = v at hacts
  cases hacts with
  | none hmade hoperated hslots hnext => exact ⟨a, hslots ▸ ha, .refl _⟩
  | made hmade hoperated hslots hnext =>
    exact ⟨a, hslots.mem_iff.2 (List.mem_cons_of_mem _ ha), .refl _⟩
  | @operated before after c operation hmade hoperated hbefore hafter hnext =>
    by_cases hc : a = c
    · obtain rfl := hc
      exact ⟨_, by simp [hafter], (hw.reachable a ha).becomes_perform operation⟩
    · refine ⟨a, ?_, .refl _⟩
      simpa [hbefore, hafter, hc] using Or.imp_right .inr (by simpa [hbefore, hc] using ha)

/-- What an action issues has not been issued before, and has been from then on. -/
theorem WellFormed.hasIssued_of_issued (hw : w.WellFormed) (hissued : (n, h) ∈ w.issued action) :
    (w.act action).HasIssued h ∧ ¬w.HasIssued h := by
  rw [(hw.act action).hasIssued_iff, hw.hasIssued_iff]
  have hacts := acts w action
  generalize w.act action = v at hacts
  cases hacts with
  | none hmade hoperated hslots hnext => simp [issued, hmade, hoperated] at hissued
  | @made new hmade hoperated hslots hnext =>
    obtain ⟨hreachable, howner⟩ := reachable_of_made hmade
    have hnew : new.graph.HasIssued h := by
      refine hreachable.consistent.hasIssued_of_mem ?_
      simp only [issued, hmade, List.mem_map, Prod.mk.injEq] at hissued
      obtain ⟨_, hmem, -, rfl⟩ := hissued
      exact hmem
    refine ⟨⟨new, hslots.mem_iff.2 List.mem_cons_self, hnew⟩, ?_⟩
    rintro ⟨a, ha, hold⟩
    have hlt := hw.owner_lt a ha
    rw [← hold.owner_eq, hnew.owner_eq, howner] at hlt
    exact Nat.lt_irrefl _ hlt
  | @operated before after a operation hmade hoperated hbefore hafter hnext =>
    have ha : a ∈ w.slots := by simp [hbefore]
    have hmem : h ∈ (a.perform operation).issued := by
      simp only [issued, hmade, hoperated, List.mem_map, Prod.mk.injEq] at hissued
      obtain ⟨_, hmem, -, rfl⟩ := hissued
      exact hmem
    obtain ⟨hnew, hfresh⟩ := (Automaton.performs a operation).hasIssued hmem
    refine ⟨⟨_, by simp [hafter], hnew⟩, ?_⟩
    rintro ⟨b, hb, hold⟩
    have howner := ((hw.reachable a ha).becomes_perform operation).owner_eq
    have hsame : b = a :=
      hw.eq_of_owner_eq hb ha (hold.owner_eq.symm.trans (hnew.owner_eq.trans howner))
    exact hfresh (hsame ▸ hold)

theorem issued_handles_nodup (w : Workspace) (action : Action) :
    ((w.issued action).map (·.2)).Nodup := by
  unfold issued
  split
  · rename_i hmade
    rw [List.map_map]
    exact ((reachable_of_made hmade).1.consistent.handles_nodup.map fun _ _ => id)
  · rw [List.map_map]
    exact (Automaton.issued_nodup _).map fun _ _ => id
  · exact List.nodup_nil

/-! ## Runs -/

theorem WellFormed.exists_becomes_actAll (hw : w.WellFormed) (actions : List Action) {a : Automaton}
    (ha : a ∈ w.slots) : ∃ b ∈ (w.actAll actions).slots, a.graph.Becomes b.graph := by
  induction actions generalizing w a with
  | nil => exact ⟨a, ha, .refl _⟩
  | cons action rest ih =>
    obtain ⟨b, hb, hab⟩ := hw.exists_becomes_act action ha
    obtain ⟨c, hc, hbc⟩ := ih (hw.act action) hb
    exact ⟨c, hc, hab.trans hbc⟩

theorem WellFormed.hasIssued_actAll (hw : w.WellFormed) (actions : List Action)
    (hissued : w.HasIssued h) : (w.actAll actions).HasIssued h := by
  rw [(hw.actAll actions).hasIssued_iff]
  obtain ⟨a, ha, hold⟩ := hw.hasIssued_iff.1 hissued
  obtain ⟨b, hb, hbecomes⟩ := hw.exists_becomes_actAll actions ha
  exact ⟨b, hb, hbecomes.hasIssued hold⟩

/-- What is issued in the course of some actions has not been issued before, and no two of the
handles are the same. -/
theorem WellFormed.issuedAll_nodup (hw : w.WellFormed) (actions : List Action) :
    ((w.issuedAll actions).map (·.2)).Nodup ∧
      ∀ h ∈ (w.issuedAll actions).map (·.2), (w.actAll actions).HasIssued h ∧ ¬w.HasIssued h := by
  induction actions generalizing w with
  | nil => exact ⟨List.nodup_nil, by simp [issuedAll]⟩
  | cons action rest ih =>
    obtain ⟨hnodup, hlater⟩ := ih (hw.act action)
    have hfirst : ∀ h ∈ (w.issued action).map (·.2),
        (w.act action).HasIssued h ∧ ¬w.HasIssued h := by
      intro h hmem
      obtain ⟨⟨n, _⟩, hissued, rfl⟩ := List.mem_map.1 hmem
      exact hw.hasIssued_of_issued hissued
    rw [issuedAll, List.map_append]
    refine ⟨List.nodup_append.2 ⟨issued_handles_nodup w action, hnodup, ?_⟩, ?_⟩
    · rintro h hnow _ hthen rfl
      exact (hlater h hthen).2 (hfirst h hnow).1
    · intro h hmem
      obtain hnow | hthen := List.mem_append.1 hmem
      · exact ⟨(hw.act action).hasIssued_actAll rest (hfirst h hnow).1, (hfirst h hnow).2⟩
      · refine ⟨(hlater h hthen).1, fun hold => (hlater h hthen).2 ?_⟩
        exact hw.hasIssued_actAll [action] hold

/-- After some actions the handles of an automaton are those that it had, or that one of the actions
has issued there, and that none of the actions since has removed there. -/
theorem WellFormed.hasHandle_actAll_iff (hw : w.WellFormed) (actions : List Action) :
    (w.actAll actions).HasHandle n h ↔ (w.HasHandle n h ∧ w.Keeps n h actions) ∨
      ∃ before action later, actions = before ++ action :: later ∧
        (n, h) ∈ (w.actAll before).issued action ∧
        (w.actAll (before ++ [action])).Keeps n h later := by
  induction actions generalizing w with
  | nil => simp [actAll_nil, Keeps]
  | cons action rest ih =>
    have hstep := ih (hw.act action)
    rw [hw.hasHandle_act_iff] at hstep
    rw [actAll_cons, hstep]
    constructor
    · rintro (⟨hissued | ⟨hold, hkept⟩, hrest⟩ | ⟨before, next, later, rfl, hissued, hrest⟩)
      · exact .inr ⟨[], action, rest, rfl, hissued, hrest⟩
      · exact .inl ⟨hold, hkept, hrest⟩
      · exact .inr ⟨action :: before, next, later, rfl, hissued, hrest⟩
    · rintro (⟨hold, hkept, hrest⟩ | ⟨before, next, later, hactions, hissued, hrest⟩)
      · exact .inl ⟨.inr ⟨hold, hkept⟩, hrest⟩
      · cases before with
        | nil =>
          obtain ⟨rfl, rfl⟩ := List.cons.inj hactions
          exact .inl ⟨.inl hissued, hrest⟩
        | cons first before =>
          obtain ⟨rfl, rfl⟩ := List.cons.inj hactions
          exact .inr ⟨before, next, later, rfl, hissued, hrest⟩

/-- A handle that was issued and is no member of an automaton does not become one again. -/
theorem WellFormed.not_hasHandle_actAll (hw : w.WellFormed) (hissued : w.HasIssued h)
    (hgone : ¬w.HasHandle n h) (actions : List Action) : ¬(w.actAll actions).HasHandle n h := by
  have hlater := hw.actAll actions
  rw [hlater.hasHandle_iff]
  rintro ⟨c, hc, hcn, hmem⟩
  obtain ⟨a, ha, hold⟩ := hw.hasIssued_iff.1 hissued
  obtain ⟨b, hb, hbecomes⟩ := hw.exists_becomes_actAll actions ha
  have hreached := (hlater.reachable c hc).consistent.hasIssued_of_mem hmem
  have howner : b.graph.owner = c.graph.owner :=
    hbecomes.owner_eq.trans (hold.owner_eq.symm.trans hreached.owner_eq)
  obtain rfl : b = c := hlater.eq_of_owner_eq hb hc howner
  refine hgone (hw.hasHandle_iff.2 ⟨a, ha, ?_, hbecomes.mem_of_hasIssued hold hmem⟩)
  exact hbecomes.owner_eq.symm.trans hcn

/-- What stays in an automaton keeps its name, or its ends and its label. -/
theorem WellFormed.becomes_of_automatonOf? (hw : w.WellFormed) (actions : List Action)
    {a b : Automaton} (ha : w.automatonOf? n = some a)
    (hb : (w.actAll actions).automatonOf? n = some b) : a.graph.Becomes b.graph := by
  obtain ⟨hslot, howner⟩ := hw.automatonOf?_eq_some_iff.1 ha
  obtain ⟨hlater, hnumber⟩ := (hw.actAll actions).automatonOf?_eq_some_iff.1 hb
  obtain ⟨c, hc, hbecomes⟩ := hw.exists_becomes_actAll actions hslot
  have hsame : c.graph.owner = b.graph.owner := hbecomes.owner_eq.trans (howner.trans hnumber.symm)
  obtain rfl : c = b := (hw.actAll actions).eq_of_owner_eq hc hlater hsame
  exact hbecomes

/-- What handles mean in the course of a run. -/
structure HandleLifetime (actions : List Action) : Prop where
  /-- No handle is issued twice, whichever automata issue them. -/
  issued_nodup : ((start.issuedAll actions).map (·.2)).Nodup
  hasIssued : ∀ h ∈ (start.issuedAll actions).map (·.2), (start.actAll actions).HasIssued h
  /-- A handle is that of a member of the automaton that has issued it, from then on until it is
  removed there. -/
  hasHandle_iff : ∀ n h, (start.actAll actions).HasHandle n h ↔
    ∃ before action later, actions = before ++ action :: later ∧
      (n, h) ∈ (start.actAll before).issued action ∧
      (start.actAll (before ++ [action])).Keeps n h later
  /-- What has left an automaton does not come back, whatever is done afterwards. -/
  not_again : ∀ n, ∀ h ∈ (start.issuedAll actions).map (·.2),
    ¬(start.actAll actions).HasHandle n h →
    ∀ further, ¬(start.actAll (actions ++ further)).HasHandle n h
  /-- As long as a state or transition is a member it keeps its name, or its ends and its label. -/
  unchanging : ∀ further n a b, (start.actAll actions).automatonOf? n = some a →
    (start.actAll (actions ++ further)).automatonOf? n = some b →
    (∀ s v w, (s, v) ∈ a.graph.states → (s, w) ∈ b.graph.states → w.name = v.name) ∧
    ∀ t d e, (t, d) ∈ a.graph.transitions → (t, e) ∈ b.graph.transitions → e = d
  /-- A handle of no member is none for the queries, and an operation that is given one changes
  nothing: a removal has nothing to do, and all others are refused. -/
  strangers : ∀ a ∈ (start.actAll actions).slots, ∀ h, h ∉ a.graph.handles →
    a.graph.Disowns h ∧ ∀ operation : Automaton.Operation, h ∈ operation.handles →
      ∃ u, operation.handles.find? (· ∉ a.graph.handles) = some u ∧
        a.perform operation =
          if operation.isRemoval then ⟨.ok .done, a, [], []⟩ else a.refused u.unknown

/-- In every run over any number of automata handles are unique, belong to one member as long as it
lives, and are good for nothing else. -/
theorem handle_lifetime (actions : List Action) : HandleLifetime actions := by
  have hw := wellFormed_start.actAll actions
  obtain ⟨hnodup, hfresh⟩ := wellFormed_start.issuedAll_nodup actions
  refine ⟨hnodup, fun h hmem => (hfresh h hmem).1, ?_, ?_, ?_, ?_⟩
  · intro n h
    have hstart : ¬start.HasHandle n h := by
      rw [wellFormed_start.hasHandle_iff]
      simp [start, Automaton.empty, Automaton.ofGraph, Graph.handles, Graph.empty, Registry.ids]
    rw [wellFormed_start.hasHandle_actAll_iff]
    exact or_iff_right fun hold => hstart hold.1
  · intro n h hmem hgone further
    rw [actAll_append]
    exact hw.not_hasHandle_actAll (hfresh h hmem).1 hgone further
  · intro further n a b ha hb
    rw [actAll_append] at hb
    have hbecomes := hw.becomes_of_automatonOf? further ha hb
    have hconsistent := (hw.reachable a (hw.automatonOf?_eq_some_iff.1 ha).1).consistent
    refine ⟨fun s v w hv hs => ?_, fun t d e hd he => ?_⟩
    · have hindex := (hconsistent.state_issued s (Registry.mem_ids_of_mem hv)).2
      obtain ⟨old, hold, hname⟩ := hbecomes.states s w hs hindex
      rw [hname, hconsistent.state_unique hold hv]
    · have hindex := (hconsistent.transition_issued t (Registry.mem_ids_of_mem hd)).2
      have hold := hbecomes.transitions t e he hindex
      exact Registry.mem_unique hconsistent.transitionIds_nodup hold hd
  · intro a ha h hmem
    refine ⟨Graph.disowns_of_not_mem hmem, fun operation hgiven => ?_⟩
    obtain ⟨u, hu⟩ : ∃ u, operation.handles.find? (· ∉ a.graph.handles) = some u :=
      Option.isSome_iff_exists.1 (List.find?_isSome.2 ⟨h, hgiven, by simpa using hmem⟩)
    exact ⟨u, hu, Automaton.perform_of_find? (hw.reachable a ha).consistent hu⟩

/-- A name that is free again goes to a new handle, and another automaton counts for itself. -/
example : start.issuedAll
    [.operate 0 (.createState "a" default), .operate 0 (.removeState ⟨0, 0⟩),
      .operate 0 (.createState "a" default), .create .nothing,
      .operate 1 (.createState "a" default), .operate 1 (.setFinal ⟨0, 0⟩ true)] =
    [(0, .state ⟨0, 0⟩), (0, .state ⟨0, 1⟩), (1, .state ⟨1, 0⟩)] := by
  decide +kernel

end NfaWorkbench.Workspace
