import NfaWorkbench.Proofs.Graph.Lifetime
import NfaWorkbench.Workspace
set_option autoImplicit false

/-!
# Runs of a workspace

The actions of a workspace, and what each does to its automata: one more comes into being, or an
operation is carried out on one of them, or all stay as they are (`Acts`).  In every run the
automata are reachable and have numbers of their own.
-/

namespace NfaWorkbench.Workspace

open Automaton (Operation)

/-- What can be done in a workspace. -/
inductive Action
  /-- Makes a new automaton. -/
  | create (content : Content)
  /-- Makes a new automaton from the snapshot of the one in a slot. -/
  | restore (slot : Nat)
  /-- Puts a new automaton into a slot. -/
  | replace (slot : Nat) (content : Content)
  /-- Carries out an operation on the automaton in a slot. -/
  | operate (slot : Nat) (operation : Operation)
  /-- Subscribes to a channel of the automaton in a slot. -/
  | subscribe (slot : Nat) (channel : Channel) (log : Option Int)
  /-- Empties a log. -/
  | clear (log : Int)

/-- The workspace after an action.  One that is refused, or speaks of a slot that there is not,
leaves it as it is. -/
def act (w : Workspace) : Action → Workspace
  | .create content => ((w.create content).toOption).getD w
  | .restore slot => match w.slots[slot]? with
    | none => w
    | some a => ((w.restore a.graph).toOption).getD w
  | .replace slot content => match w.slots[slot]? with
    | none => w
    | some a => (w.replace slot a content).2
  | .operate slot operation => match w.slots[slot]? with
    | none => w
    | some a => (w.operate slot a operation).2.1
  | .subscribe slot channel log => match w.slots[slot]? with
    | none => w
    | some a => ((w.subscribe slot a channel log).toOption.map (·.2)).getD w
  | .clear log => w.clear log

/-- The workspace after some actions. -/
def actAll (w : Workspace) (actions : List Action) : Workspace := actions.foldl act w

theorem actAll_nil (w : Workspace) : w.actAll [] = w := rfl

theorem actAll_cons (w : Workspace) (action : Action) (rest : List Action) :
    w.actAll (action :: rest) = (w.act action).actAll rest := rfl

theorem actAll_append (w : Workspace) (first second : List Action) :
    w.actAll (first ++ second) = (w.actAll first).actAll second := List.foldl_append

/-- The automaton that an action brings into being. -/
def made? (w : Workspace) : Action → Option Automaton
  | .create content => (content.build w.nextOwner).toOption.map .ofGraph
  | .restore slot =>
    w.slots[slot]?.bind fun a =>
      (Graph.ofSnapshot w.nextOwner a.graph.snapshot).toOption.map .ofGraph
  | .replace slot content =>
    w.slots[slot]?.map fun _ =>
      .ofGraph ((content.build w.nextOwner).toOption.getD (.empty w.nextOwner))
  | _ => none

/-- The operation that an action carries out, with the automaton on which it does. -/
def operated? (w : Workspace) : Action → Option (Automaton × Operation)
  | .operate slot operation => w.slots[slot]?.map (·, operation)
  | .subscribe slot channel _ => w.slots[slot]?.map (·, .subscribe channel)
  | _ => none

variable {w v : Workspace} {action : Action}

/-! ## What an action does to the automata -/

/-- The automata in `v` are what an action makes of those in `w`. -/
inductive Acts (w : Workspace) (action : Action) (v : Workspace) : Prop
  | none (hmade : w.made? action = none) (hoperated : w.operated? action = none)
      (hslots : v.slots = w.slots) (hnext : v.nextOwner = w.nextOwner)
  | made {new : Automaton} (hmade : w.made? action = some new)
      (hoperated : w.operated? action = none) (hslots : v.slots.Perm (new :: w.slots))
      (hnext : v.nextOwner = w.nextOwner + 1)
  | operated {before after : List Automaton} {a : Automaton} {operation : Operation}
      (hmade : w.made? action = none) (hoperated : w.operated? action = some (a, operation))
      (hbefore : w.slots = before ++ a :: after)
      (hafter : v.slots = before ++ (a.perform operation).automaton :: after)
      (hnext : v.nextOwner = w.nextOwner)

/-- Deliveries touch nothing but the logs. -/
theorem frame_receive (w : Workspace) (owner : Nat) (d : Delivery) :
    (w.receive owner d).1.slots = w.slots ∧ (w.receive owner d).1.nextOwner = w.nextOwner ∧
      (w.receive owner d).1.listeners = w.listeners := by
  unfold receive
  split
  · exact ⟨rfl, rfl, rfl⟩
  · split <;> exact ⟨rfl, rfl, rfl⟩

theorem frame_receiveAll (w : Workspace) (owner : Nat) (deliveries : List Delivery) :
    (w.receiveAll owner deliveries).1.slots = w.slots ∧
      (w.receiveAll owner deliveries).1.nextOwner = w.nextOwner ∧
      (w.receiveAll owner deliveries).1.listeners = w.listeners := by
  induction deliveries generalizing w with
  | nil => exact ⟨rfl, rfl, rfl⟩
  | cons d rest ih =>
    obtain ⟨hslots, hnext, hlisteners⟩ := ih (w.receive owner d).1
    obtain ⟨hfirstslots, hfirstnext, hfirstlisteners⟩ := w.frame_receive owner d
    exact ⟨hslots.trans hfirstslots, hnext.trans hfirstnext, hlisteners.trans hfirstlisteners⟩

/-- A slot stands between those before it and those after it. -/
theorem exists_set_eq {α : Type} {l : List α} {n : Nat} {a : α} (h : l[n]? = some a) :
    ∃ before after, l = before ++ a :: after ∧ ∀ b, l.set n b = before ++ b :: after := by
  obtain ⟨hn, rfl⟩ := List.getElem?_eq_some_iff.1 h
  refine ⟨l.take n, l.drop (n + 1), ?_, fun b => ?_⟩
  · rw [List.getElem_cons_drop, List.take_append_drop]
  · rw [List.set_eq_take_append_cons_drop, if_pos hn]

theorem made?_replace (w : Workspace) {slot : Nat} (content : Content) {a : Automaton}
    (h : w.slots[slot]? = some a) : w.made? (.replace slot content) =
      some (.ofGraph ((content.build w.nextOwner).toOption.getD (.empty w.nextOwner))) := by
  rw [made?, h]
  rfl

/-- One that is replaced and moves to the end is still there. -/
theorem perm_set_append_singleton {α : Type} (before after : List α) (new old : α) :
    (before ++ new :: after ++ [old]).Perm (new :: (before ++ old :: after)) :=
  calc (before ++ new :: after ++ [old]).Perm (old :: (before ++ new :: after)) :=
        List.perm_append_singleton old _
    _ |>.Perm (old :: new :: (before ++ after)) := List.perm_middle.cons old
    _ |>.Perm (new :: old :: (before ++ after)) := .swap new old _
    _ |>.Perm (new :: (before ++ old :: after)) := List.perm_middle.symm.cons new

theorem acts (w : Workspace) (action : Action) : Acts w action (w.act action) := by
  cases action with
  | create content =>
    cases hbuild : content.build w.nextOwner with
    | error error =>
      refine .none ?_ rfl ?_ ?_ <;> simp [made?, act, create, hbuild, Except.toOption]
    | ok g =>
      have hmade : w.made? (.create content) = some (.ofGraph g) := by
        simp [made?, hbuild, Except.toOption]
      refine .made hmade rfl ?_ ?_
      · simp [act, create, hbuild, Except.toOption, add]
      · simp [act, create, hbuild, Except.toOption, add]
  | restore slot =>
    cases hslot : w.slots[slot]? with
    | none => refine .none ?_ rfl ?_ ?_ <;> simp [made?, act, hslot]
    | some a =>
      cases hbuild : Graph.ofSnapshot w.nextOwner a.graph.snapshot with
      | error error =>
        refine .none ?_ rfl ?_ ?_ <;> simp [made?, act, hslot, restore, hbuild, Except.toOption]
      | ok g =>
        have hmade : w.made? (.restore slot) = some (.ofGraph g) := by
          simp [made?, hslot, hbuild, Except.toOption]
        refine .made hmade rfl ?_ ?_
        · simp [act, hslot, restore, hbuild, Except.toOption, add]
        · simp [act, hslot, restore, hbuild, Except.toOption, add]
  | replace slot content =>
    cases hslot : w.slots[slot]? with
    | none => refine .none ?_ rfl ?_ ?_ <;> simp [made?, act, hslot]
    | some a =>
      obtain ⟨before, after, hbefore, hset⟩ := exists_set_eq hslot
      refine .made (w.made?_replace content hslot) rfl ?_ (by simp [act, hslot, replace])
      rw [hbefore]
      refine List.Perm.trans (.of_eq ?_) (perm_set_append_singleton before after _ a)
      simp only [act, hslot, replace, hset]
      cases content.build w.nextOwner <;> rfl
  | operate slot operation =>
    cases hslot : w.slots[slot]? with
    | none => refine .none rfl ?_ ?_ ?_ <;> simp [operated?, act, hslot]
    | some a =>
      obtain ⟨before, after, hbefore, hset⟩ := exists_set_eq hslot
      have hoperated : w.operated? (.operate slot operation) = some (a, operation) := by
        simp [operated?, hslot]
      refine .operated rfl hoperated hbefore ?_ ?_
      · simp [act, hslot, operate, frame_receiveAll, hset]
      · simp [act, hslot, operate, frame_receiveAll]
  | subscribe slot channel log =>
    cases hslot : w.slots[slot]? with
    | none => refine .none rfl ?_ ?_ ?_ <;> simp [operated?, act, hslot]
    | some a =>
      obtain ⟨before, after, hbefore, hset⟩ := exists_set_eq hslot
      have hoperated :
          w.operated? (.subscribe slot channel log) = some (a, .subscribe channel) := by
        simp [operated?, hslot]
      refine .operated rfl hoperated hbefore ?_ ?_
      · simp only [act, hslot, subscribe, Automaton.perform]
        cases a.subscribe channel with
        | error error => exact hbefore
        | ok made => exact hset made.2
      · simp only [act, hslot, subscribe]
        cases a.subscribe channel <;> rfl
  | clear log => exact .none rfl rfl rfl rfl

/-! ## Automata and their numbers -/

/-- Every automaton has come about by operations, and has a number of its own. -/
structure WellFormed (w : Workspace) : Prop where
  reachable : ∀ a ∈ w.slots, a.Reachable
  owners_nodup : (w.slots.map (·.graph.owner)).Nodup
  owner_lt : ∀ a ∈ w.slots, a.graph.owner < w.nextOwner

theorem wellFormed_start : start.WellFormed where
  reachable a ha := by
    obtain rfl := List.mem_singleton.1 ha
    exact .empty 0
  owners_nodup := by simp [start]
  owner_lt a ha := by
    obtain rfl := List.mem_singleton.1 ha
    exact Nat.one_pos

theorem reachable_build {owner : Nat} {content : Content} {g : Graph}
    (h : content.build owner = .ok g) :
    (Automaton.ofGraph g).Reachable ∧ (Graph.empty owner).Becomes g := by
  cases content with
  | nothing =>
    obtain rfl := Except.ok.inj h
    exact ⟨.empty owner, .refl _⟩
  | document text =>
    rw [Content.build, Graph.parse] at h
    cases hread : Graph.read owner (.ofText text) with
    | error error => simp [hread, Except.mapError] at h
    | ok k =>
      obtain rfl : k = g := by simpa [hread, Except.mapError] using h
      exact ⟨.read hread, Graph.becomes_of_read hread⟩
  | snapshot text =>
    rw [Content.build] at h
    cases hparse : Snapshot.parse text with
    | none => simp [hparse] at h
    | some snapshot =>
      cases hrestore : Graph.ofSnapshot owner snapshot with
      | error error => simp [hparse, hrestore, Except.mapError] at h
      | ok k =>
        obtain rfl : k = g := by simpa [hparse, hrestore, Except.mapError] using h
        exact ⟨.restored hrestore, Graph.becomes_of_ofSnapshot hrestore⟩

/-- An automaton that comes into being is reachable, and gets the next number. -/
theorem reachable_of_made {new : Automaton} (h : w.made? action = some new) :
    new.Reachable ∧ new.graph.owner = w.nextOwner := by
  have hgraph : ∃ g, new = .ofGraph g ∧ (Automaton.ofGraph g).Reachable ∧
      (Graph.empty w.nextOwner).Becomes g := by
    cases action with
    | create content =>
      cases hbuild : content.build w.nextOwner with
      | error error => simp [made?, hbuild, Except.toOption] at h
      | ok g =>
        obtain rfl : .ofGraph g = new := by simpa [made?, hbuild, Except.toOption] using h
        exact ⟨g, rfl, reachable_build hbuild⟩
    | restore slot =>
      obtain ⟨a, _, ha⟩ := Option.bind_eq_some_iff.1 h
      cases hrestore : Graph.ofSnapshot w.nextOwner a.graph.snapshot with
      | error error => simp [hrestore, Except.toOption] at ha
      | ok g =>
        obtain rfl : .ofGraph g = new := by simpa [hrestore, Except.toOption] using ha
        exact ⟨g, rfl, .restored hrestore, Graph.becomes_of_ofSnapshot hrestore⟩
    | replace slot content =>
      obtain ⟨a, _, rfl⟩ := Option.map_eq_some_iff.1 h
      cases hbuild : content.build w.nextOwner with
      | error error => exact ⟨_, rfl, .empty w.nextOwner, .refl _⟩
      | ok g => exact ⟨g, rfl, reachable_build hbuild⟩
    | _ => simp [made?] at h
  obtain ⟨g, rfl, hreachable, hbecomes⟩ := hgraph
  exact ⟨hreachable, hbecomes.owner_eq⟩

theorem WellFormed.eq_of_owner_eq (hw : w.WellFormed) {a b : Automaton} (ha : a ∈ w.slots)
    (hb : b ∈ w.slots) (howner : a.graph.owner = b.graph.owner) : a = b :=
  List.inj_on_of_nodup_map hw.owners_nodup ha hb howner

theorem WellFormed.act (hw : w.WellFormed) (action : Action) : (w.act action).WellFormed := by
  have hacts := acts w action
  generalize w.act action = v at hacts
  cases hacts with
  | none hmade hoperated hslots hnext =>
    refine ⟨?_, ?_, ?_⟩
    · rw [hslots]
      exact hw.reachable
    · rw [hslots]
      exact hw.owners_nodup
    · rw [hslots, hnext]
      exact hw.owner_lt
  | @made new hmade hoperated hslots hnext =>
    obtain ⟨hreachable, howner⟩ := reachable_of_made hmade
    refine ⟨?_, ?_, ?_⟩
    · intro a ha
      obtain rfl | hold := List.mem_cons.1 (hslots.subset ha)
      · exact hreachable
      · exact hw.reachable a hold
    · rw [(hslots.map _).nodup_iff, List.map_cons, List.nodup_cons]
      refine ⟨fun hmem => ?_, hw.owners_nodup⟩
      obtain ⟨a, ha, heq⟩ := List.mem_map.1 hmem
      exact Nat.lt_irrefl _ (howner ▸ heq ▸ hw.owner_lt a ha)
    · intro a ha
      rw [hnext]
      obtain rfl | hold := List.mem_cons.1 (hslots.subset ha)
      · exact Nat.lt_succ_of_le (Nat.le_of_eq howner)
      · exact Nat.lt_succ_of_lt (hw.owner_lt a hold)
  | @operated before after a operation hmade hoperated hbefore hafter hnext =>
    have ha : a ∈ w.slots := by simp [hbefore]
    have hbecomes := (hw.reachable a ha).becomes_perform operation
    have howners : v.slots.map (·.graph.owner) = w.slots.map (·.graph.owner) := by
      simp [hafter, hbefore, hbecomes.owner_eq]
    refine ⟨?_, ?_, ?_⟩
    · intro b hb
      rw [hafter, List.mem_append, List.mem_cons] at hb
      obtain hold | rfl | hold := hb
      · exact hw.reachable b (by simp [hbefore, hold])
      · exact (hw.reachable a ha).perform operation
      · exact hw.reachable b (by simp [hbefore, hold])
    · rw [howners]
      exact hw.owners_nodup
    · intro b hb
      obtain ⟨c, hc, heq⟩ := List.mem_map.1 (howners ▸ List.mem_map_of_mem hb)
      rw [hnext, ← heq]
      exact hw.owner_lt c hc

theorem WellFormed.actAll (hw : w.WellFormed) (actions : List Action) :
    (w.actAll actions).WellFormed := by
  induction actions generalizing w with
  | nil => exact hw
  | cons action rest ih => exact ih (hw.act action)

theorem WellFormed.automatonOf?_eq_some_iff (hw : w.WellFormed) {n : Nat} {a : Automaton} :
    w.automatonOf? n = some a ↔ a ∈ w.slots ∧ a.graph.owner = n := by
  unfold automatonOf?
  constructor
  · intro h
    exact ⟨List.mem_of_find?_eq_some h, by simpa using List.find?_some h⟩
  · rintro ⟨ha, howner⟩
    cases hfound : w.slots.find? (·.graph.owner = n) with
    | none => simpa [howner] using List.find?_eq_none.1 hfound a ha
    | some b =>
      have hb := List.find?_some hfound
      have hmem := List.mem_of_find?_eq_some hfound
      have hsame : b.graph.owner = a.graph.owner :=
        (of_decide_eq_true hb : b.graph.owner = n).trans howner.symm
      rw [hw.eq_of_owner_eq hmem ha hsame]

end NfaWorkbench.Workspace
