import Mathlib.Data.List.Induction
import NfaWorkbench.Proofs.Document.Tokens
import NfaWorkbench.Proofs.Snapshot.Entry
import NfaWorkbench.Proofs.Snapshot.Status
set_option autoImplicit false

/-!
# Snapshots: restoring

A snapshot is restored exactly if it keeps the rules, and the graph that comes about has that
snapshot, up to flags that say nothing because no simulation is running.  Otherwise the error is
that of the first entry which breaks a rule: states in their order, then transitions in theirs.

Both loops keep one invariant: the entries so far keep the rules, and the graph shows them at rest.
-/

namespace NfaWorkbench

/-! ## Folds that may fail -/

section Folds

variable {ε α β : Type} {f : β → α → Except ε β} {b c : β} {l : List α}

theorem foldlM_concat_eq_ok_iff {a : α} :
    (l ++ [a]).foldlM f b = .ok c ↔ ∃ m, l.foldlM f b = .ok m ∧ f m a = .ok c := by
  rw [List.foldlM_append]
  cases l.foldlM f b with
  | error error => simp [bind, Except.bind]
  | ok m => cases h : f m a <;> simp [bind, Except.bind, pure, Except.pure, h]

/-- A fold fails at the first element that it cannot take. -/
theorem foldlM_eq_error_iff {e : ε} : l.foldlM f b = .error e ↔
    ∃ before a after m, l = before ++ a :: after ∧ before.foldlM f b = .ok m ∧
      f m a = .error e := by
  constructor
  · induction l generalizing b with
    | nil => simp [pure, Except.pure]
    | cons a rest ih =>
      rw [List.foldlM_cons]
      cases ha : f b a with
      | error other =>
        intro h
        obtain rfl : other = e := Except.error.inj h
        exact ⟨[], a, rest, b, rfl, rfl, ha⟩
      | ok next =>
        intro h
        obtain ⟨before, d, after, m, rfl, hm, hd⟩ := ih h
        exact ⟨a :: before, d, after, m, rfl, by rw [List.foldlM_cons, ha]; exact hm, hd⟩
  · intro hgiven
    obtain ⟨before, a, after, m, rfl, hm, ha⟩ := hgiven
    rw [List.foldlM_append, hm]
    simp [bind, Except.bind, ha]

end Folds

namespace Graph

open Snapshot (StateFault TransitionFault FirstFault)

variable {g k : Graph} {error : SnapshotError}

/-! ## All states, then all transitions -/

theorem restoreStates_eq_foldlM (l : List StateSnapshot) :
    g.restoreStates l = l.foldlM restoreState g := by
  induction l generalizing g with
  | nil => rfl
  | cons v rest ih =>
    rw [restoreStates, List.foldlM_cons]
    cases g.restoreState v with
    | error error => rfl
    | ok next => exact ih

theorem restoreTransitions_eq_foldlM (l : List TransitionSnapshot) :
    g.restoreTransitions l = l.foldlM restoreTransition g := by
  induction l generalizing g with
  | nil => rfl
  | cons t rest ih =>
    rw [restoreTransitions, List.foldlM_cons]
    cases g.restoreTransition t with
    | error error => rfl
    | ok next => exact ih

theorem restoreStates_concat_eq_ok_iff {l : List StateSnapshot} {v : StateSnapshot} :
    g.restoreStates (l ++ [v]) = .ok k ↔
      ∃ m, g.restoreStates l = .ok m ∧ m.restoreState v = .ok k := by
  rw [restoreStates_eq_foldlM, restoreStates_eq_foldlM, foldlM_concat_eq_ok_iff]

theorem restoreTransitions_concat_eq_ok_iff {l : List TransitionSnapshot} {t : TransitionSnapshot} :
    g.restoreTransitions (l ++ [t]) = .ok k ↔
      ∃ m, g.restoreTransitions l = .ok m ∧ m.restoreTransition t = .ok k := by
  rw [restoreTransitions_eq_foldlM, restoreTransitions_eq_foldlM, foldlM_concat_eq_ok_iff]

section Loops

variable {owner : Nat} {active : Bool} {states : List StateSnapshot}
  {transitions : List TransitionSnapshot}

variable (active) in
/-- The states so far, at rest. -/
theorem snapshot_restoreStates (h : (empty owner).restoreStates states = .ok k) :
    k.snapshot = Snapshot.atRest ⟨active, states, []⟩ := by
  induction states using List.reverseRecOn generalizing k with
  | nil =>
    obtain rfl := Except.ok.inj h
    rfl
  | append_singleton before v ih =>
    obtain ⟨m, hm, hv⟩ := restoreStates_concat_eq_ok_iff.1 h
    have hconsistent := (Consistent.empty owner).restoreStates hm
    obtain ⟨hname, hfree, rfl⟩ := hconsistent.restoreState_eq_ok_iff.1 hv
    rw [hconsistent.snapshot_withState hname hfree, ih hm]
    simp [Snapshot.atRest]

theorem names_restoreStates (h : (empty owner).restoreStates states = .ok k) :
    k.snapshot.names = states.map (·.name) := by
  rw [snapshot_restoreStates false h]
  simp [Snapshot.names, Snapshot.atRest]

variable (owner) in
theorem exists_restoreStates_iff :
    (∃ k, (empty owner).restoreStates states = .ok k) ↔ Snapshot.Valid ⟨active, states, []⟩ := by
  induction states using List.reverseRecOn with
  | nil => exact iff_of_true ⟨_, rfl⟩ ⟨by simp, .nil, by simp, by simp, .nil⟩
  | append_singleton before v ih =>
    rw [Snapshot.valid_concat_state_iff, ← ih]
    simp only [restoreStates_concat_eq_ok_iff]
    constructor
    · intro hgiven
      obtain ⟨k, m, hm, hv⟩ := hgiven
      have hconsistent := (Consistent.empty owner).restoreStates hm
      obtain ⟨hname, hfree, -⟩ := hconsistent.restoreState_eq_ok_iff.1 hv
      rw [names_restoreStates hm] at hfree
      exact ⟨⟨m, hm⟩, hname, hfree⟩
    · intro hgiven
      obtain ⟨⟨m, hm⟩, hname, hfree⟩ := hgiven
      have hconsistent := (Consistent.empty owner).restoreStates hm
      rw [← names_restoreStates hm] at hfree
      exact ⟨_, m, hm, hconsistent.restoreState_eq_ok_iff.2 ⟨hname, hfree, rfl⟩⟩

variable (active) in
/-- The states fail with the first that breaks a rule. -/
theorem restoreStates_eq_error_iff : (empty owner).restoreStates states = .error error ↔
    ∃ before v after, states = before ++ v :: after ∧ Snapshot.Valid ⟨active, before, []⟩ ∧
      StateFault (before.map (·.name)) v error := by
  rw [restoreStates_eq_foldlM, foldlM_eq_error_iff]
  simp only [← restoreStates_eq_foldlM]
  constructor
  · intro hgiven
    obtain ⟨before, v, after, m, hsplit, hm, hv⟩ := hgiven
    rw [((Consistent.empty owner).restoreStates hm).restoreState_eq_error_iff,
      names_restoreStates hm] at hv
    exact ⟨before, v, after, hsplit, (exists_restoreStates_iff owner).1 ⟨m, hm⟩, hv⟩
  · intro hgiven
    obtain ⟨before, v, after, hsplit, hbefore, hv⟩ := hgiven
    obtain ⟨m, hm⟩ := (exists_restoreStates_iff owner).2 hbefore
    rw [← names_restoreStates hm,
      ← ((Consistent.empty owner).restoreStates hm).restoreState_eq_error_iff] at hv
    exact ⟨before, v, after, m, hsplit, hm, hv⟩

variable (hg : g.Consistent) (hsnapshot : g.snapshot = Snapshot.atRest ⟨active, states, []⟩)
include hg hsnapshot

/-- The transitions so far, between the states at rest. -/
theorem snapshot_restoreTransitions (h : g.restoreTransitions transitions = .ok k) :
    k.snapshot = Snapshot.atRest ⟨active, states, transitions⟩ := by
  induction transitions using List.reverseRecOn generalizing k with
  | nil =>
    obtain rfl := Except.ok.inj h
    exact hsnapshot
  | append_singleton before t ih =>
    obtain ⟨m, hm, ht⟩ := restoreTransitions_concat_eq_ok_iff.1 h
    rw [(hg.restoreTransitions hm).snapshot_restoreTransition ht, ih hm]
    rfl

theorem names_restoreTransitions (h : g.restoreTransitions transitions = .ok k) :
    k.snapshot.names = states.map (·.name) := by
  rw [snapshot_restoreTransitions hg hsnapshot h]
  simp [Snapshot.names, Snapshot.atRest]

theorem exists_restoreTransitions_iff (hvalid : Snapshot.Valid ⟨active, states, []⟩) :
    (∃ k, g.restoreTransitions transitions = .ok k) ↔
      Snapshot.Valid ⟨active, states, transitions⟩ := by
  induction transitions using List.reverseRecOn with
  | nil => exact iff_of_true ⟨_, rfl⟩ hvalid
  | append_singleton before t ih =>
    rw [Snapshot.valid_concat_transition_iff, ← ih]
    have hone : ∀ {m}, g.restoreTransitions before = .ok m →
        ((∃ k, m.restoreTransition t = .ok k) ↔ t.source ∈ states.map (·.name) ∧
          t.target ∈ states.map (·.name) ∧ (∀ word, t.label = some word → IsLabel word) ∧
          t ∉ before) := by
      intro m hm
      rw [(hg.restoreTransitions hm).exists_restoreTransition_iff,
        names_restoreTransitions hg hsnapshot hm, snapshot_restoreTransitions hg hsnapshot hm]
      rfl
    simp only [restoreTransitions_concat_eq_ok_iff]
    constructor
    · intro hgiven
      obtain ⟨k, m, hm, ht⟩ := hgiven
      exact ⟨⟨m, hm⟩, (hone hm).1 ⟨k, ht⟩⟩
    · intro hgiven
      obtain ⟨⟨m, hm⟩, hrules⟩ := hgiven
      obtain ⟨k, ht⟩ := (hone hm).2 hrules
      exact ⟨k, m, hm, ht⟩

/-- The transitions fail with the first that breaks a rule. -/
theorem restoreTransitions_eq_error_iff (hvalid : Snapshot.Valid ⟨active, states, []⟩) :
    g.restoreTransitions transitions = .error error ↔
      ∃ before t after, transitions = before ++ t :: after ∧
        Snapshot.Valid ⟨active, states, before⟩ ∧
        TransitionFault (states.map (·.name)) before t error := by
  have hone : ∀ {before t m}, g.restoreTransitions before = .ok m →
      (m.restoreTransition t = .error error ↔
        TransitionFault (states.map (·.name)) before t error) := by
    intro before t m hm
    rw [(hg.restoreTransitions hm).transitionFault_iff, names_restoreTransitions hg hsnapshot hm,
      snapshot_restoreTransitions hg hsnapshot hm]
    rfl
  rw [restoreTransitions_eq_foldlM, foldlM_eq_error_iff]
  simp only [← restoreTransitions_eq_foldlM]
  constructor
  · intro hgiven
    obtain ⟨before, t, after, m, hsplit, hm, ht⟩ := hgiven
    exact ⟨before, t, after, hsplit, (exists_restoreTransitions_iff hg hsnapshot hvalid).1 ⟨m, hm⟩,
      (hone hm).1 ht⟩
  · intro hgiven
    obtain ⟨before, t, after, hsplit, hbefore, ht⟩ := hgiven
    obtain ⟨m, hm⟩ := (exists_restoreTransitions_iff hg hsnapshot hvalid).2 hbefore
    exact ⟨before, t, after, m, hsplit, hm, (hone hm).2 ht⟩

end Loops

/-! ## The status of the simulation -/

/-- Makes the state with a name current, if there is one. -/
def flagName (g : Graph) (name : String) : Change :=
  match g.findState name with
  | some id => g.setCurrent id true
  | none => .none g

theorem restoreStatus_eq (g : Graph) (s : Snapshot) : g.restoreStatus s =
    if s.active then
      (Change.each flagName ((s.states.filter (·.current)).map (·.name))
        { g with active := true }).graph
    else g := rfl

theorem unmarked_flagName (g : Graph) (name : String) :
    (g.flagName name).graph.unmarked = g.unmarked := by
  unfold flagName
  split
  · exact unmarked_setCurrent g _ true
  · rfl

theorem Named.mem_flaggedStates_flagName (hg : g.Named) {name : String} {s : StateId}
    {state : State} (hs : (s, state) ∈ g.states) :
    s ∈ (g.flagName name).graph.flaggedStates ↔ s ∈ g.flaggedStates ∨ state.name = name := by
  unfold flagName
  cases hfound : g.findState name with
  | none =>
    have hne : state.name ≠ name := by
      rintro rfl
      simp [hg.findState_of_mem hs] at hfound
    exact (or_iff_left hne).symm
  | some id =>
    obtain ⟨found, hmem, rfl⟩ := (hg.findState_eq_some_iff _ _).1 hfound
    rw [hg.mem_flaggedStates_setCurrent, hg.name_eq_iff hs hmem]
    by_cases hid : s = id
    · simp [hid, Registry.mem_ids_of_mem hmem]
    · simp [hid]

/-- Flagging the states with some names leaves exactly those flagged besides the ones that were. -/
theorem Named.mem_flaggedStates_flagNames (hg : g.Named) (names : List String) {s : StateId}
    {state : State} (hs : (s, state) ∈ g.states) :
    s ∈ (Change.each flagName names g).graph.flaggedStates ↔
      s ∈ g.flaggedStates ∨ state.name ∈ names := by
  induction names generalizing g state with
  | nil => simp [Change.each, Change.none]
  | cons name rest ih =>
    have hframe := unmarked_flagName g name
    obtain ⟨other, hother, hname⟩ := Registry.exists_mem_of_mapValues_eq
      (mapValues_eq_of_unmarked_eq (f := (·.name)) hframe fun _ => rfl).symm hs
    have hrest := ih (hg.of_unmarked_eq hframe) hother
    rw [hg.mem_flaggedStates_flagName hs, hname, or_assoc] at hrest
    rw [List.mem_cons]
    exact hrest

/-- The states with the names of the current ones become current. -/
theorem Consistent.snapshot_restoreStatus (hg : g.Consistent) {s : Snapshot} (hvalid : s.Valid)
    (hsnapshot : g.snapshot = s.atRest) : (g.restoreStatus s).snapshot = s.effective := by
  have hidle : g.active = false := congrArg Snapshot.active hsnapshot
  rw [restoreStatus_eq]
  cases hactive : s.active with
  | false =>
    rw [if_neg Bool.false_ne_true, hsnapshot]
    simp [Snapshot.atRest, Snapshot.effective, hactive]
  | true =>
    rw [if_pos rfl]
    have hcurrent : ∀ v ∈ s.states,
        (v.name ∈ (s.states.filter (·.current)).map (·.name) ↔ v.current = true) := by
      intro v hv
      simp only [List.mem_map, List.mem_filter]
      constructor
      · intro hgiven
        obtain ⟨w, ⟨hw, hflag⟩, hname⟩ := hgiven
        rwa [← hvalid.state_unique hw hv hname]
      · intro hflag
        exact ⟨v, ⟨hv, hflag⟩, rfl⟩
    have hnone : ({ g with active := true } : Graph).flaggedStates = [] :=
      hg.flaggedStates_eq_nil hidle
    have htransitions : g.snapshot.transitions = s.transitions := by
      rw [hsnapshot]
      rfl
    rw [hg.snapshot_eq_running (Change.each_eq unmarked_flagName _ _)
      (p := (· ∈ (s.states.filter (·.current)).map (·.name)))]
    · refine Snapshot.ext hactive.symm ?_ htransitions
      simp only [Snapshot.running, hsnapshot, Snapshot.atRest, Snapshot.effective, List.map_map]
      apply List.map_congr_left
      intro v hv
      simp only [Function.comp_apply, hcurrent v hv, hactive, Bool.and_true, Bool.decide_eq_true]
    · intro t state ht
      rw [hg.activated.mem_flaggedStates_flagNames _ ht, hnone, decide_eq_true_eq]
      exact or_iff_right (List.not_mem_nil)

/-! ## Whole snapshots -/

theorem ofSnapshot_eq_ok_iff {owner : Nat} {s : Snapshot} : ofSnapshot owner s = .ok k ↔
    ∃ m n, (empty owner).restoreStates s.states = .ok m ∧
      m.restoreTransitions s.transitions = .ok n ∧ n.restoreStatus s = k := by
  unfold ofSnapshot
  cases (empty owner).restoreStates s.states with
  | error error => simp
  | ok m => cases hn : m.restoreTransitions s.transitions <;> simp [hn]

theorem ofSnapshot_eq_error_iff {owner : Nat} {s : Snapshot} : ofSnapshot owner s = .error error ↔
    (empty owner).restoreStates s.states = .error error ∨
      ∃ m, (empty owner).restoreStates s.states = .ok m ∧
        m.restoreTransitions s.transitions = .error error := by
  unfold ofSnapshot
  cases (empty owner).restoreStates s.states with
  | error error => simp
  | ok m => cases hn : m.restoreTransitions s.transitions <;> simp [hn]

section Whole

variable {owner : Nat} {s : Snapshot}

theorem exists_ofSnapshot_iff : (∃ k, ofSnapshot owner s = .ok k) ↔ s.Valid := by
  simp only [ofSnapshot_eq_ok_iff]
  constructor
  · intro hgiven
    obtain ⟨_, m, n, hm, hn, -⟩ := hgiven
    exact (exists_restoreTransitions_iff ((Consistent.empty owner).restoreStates hm)
      (snapshot_restoreStates s.active hm)
      ((exists_restoreStates_iff owner).1 ⟨m, hm⟩)).1 ⟨n, hn⟩
  · intro hvalid
    obtain ⟨m, hm⟩ := (exists_restoreStates_iff owner).2 hvalid.withoutTransitions
    obtain ⟨n, hn⟩ := (exists_restoreTransitions_iff ((Consistent.empty owner).restoreStates hm)
      (snapshot_restoreStates s.active hm) hvalid.withoutTransitions).2 hvalid
    exact ⟨_, m, n, hm, hn, rfl⟩

theorem snapshot_ofSnapshot (h : ofSnapshot owner s = .ok k) : k.snapshot = s.effective := by
  obtain ⟨m, n, hm, hn, rfl⟩ := ofSnapshot_eq_ok_iff.1 h
  have hconsistent := (Consistent.empty owner).restoreStates hm
  exact (hconsistent.restoreTransitions hn).snapshot_restoreStatus
    (exists_ofSnapshot_iff.1 ⟨_, h⟩)
    (snapshot_restoreTransitions hconsistent (snapshot_restoreStates s.active hm) hn)

theorem ofSnapshot_eq_error_iff_firstFault :
    ofSnapshot owner s = .error error ↔ FirstFault s error := by
  rw [ofSnapshot_eq_error_iff, restoreStates_eq_error_iff s.active]
  constructor
  · intro hgiven
    obtain ⟨before, v, after, hsplit, hbefore, hv⟩ | ⟨m, hm, htransitions⟩ := hgiven
    · exact .state hsplit hbefore hv
    · obtain ⟨before, t, after, hsplit, hbefore, ht⟩ :=
        (restoreTransitions_eq_error_iff ((Consistent.empty owner).restoreStates hm)
          (snapshot_restoreStates s.active hm)
          ((exists_restoreStates_iff owner).1 ⟨m, hm⟩)).1 htransitions
      exact .transition hsplit hbefore ht
  · intro hfault
    cases hfault with
    | state hsplit hbefore hv => exact .inl ⟨_, _, _, hsplit, hbefore, hv⟩
    | transition hsplit hbefore ht =>
      obtain ⟨m, hm⟩ := (exists_restoreStates_iff owner).2 hbefore.withoutTransitions
      exact .inr ⟨m, hm, (restoreTransitions_eq_error_iff
        ((Consistent.empty owner).restoreStates hm)
        (snapshot_restoreStates s.active hm) hbefore.withoutTransitions).2
          ⟨_, _, _, hsplit, hbefore, ht⟩⟩

end Whole

/-- The snapshot of a graph shows no flag that does not count. -/
theorem effective_snapshot (g : Graph) : g.snapshot.effective = g.snapshot := by
  refine Snapshot.ext rfl ?_ rfl
  simp only [Snapshot.effective, snapshot, List.map_map]
  apply List.map_congr_left
  intro e _
  simp only [Function.comp_apply, stateSnapshot]
  cases g.active <;> simp

/-- Restoring accepts exactly the snapshots that keep the rules, and what it makes has that very
snapshot, up to flags of current states where no simulation runs.  Neither the epsilon sign nor an
empty text is taken for a label.  It fails with the first fault.  Everything that can come about is
restored as it is, in the middle of a run as well. -/
theorem ofSnapshot_correct (owner : Nat) (s : Snapshot) :
    ((∃ g, ofSnapshot owner s = .ok g) ↔ s.Valid) ∧
    (∀ g, ofSnapshot owner s = .ok g → g.snapshot = s.effective) ∧
    (∀ t ∈ s.transitions, t.label = some epsilonSign ∨ t.label = some "" →
      ∀ g, ofSnapshot owner s ≠ .ok g) ∧
    (∀ error, ofSnapshot owner s = .error error ↔ s.FirstFault error) ∧
    ∀ a : Automaton, a.Reachable →
      ∃ g, ofSnapshot owner a.graph.snapshot = .ok g ∧ g.snapshot = a.graph.snapshot := by
  refine ⟨exists_ofSnapshot_iff, fun g => snapshot_ofSnapshot, ?_,
    fun error => ofSnapshot_eq_error_iff_firstFault, ?_⟩
  · intro t ht hlabel g hg
    have hword := (exists_ofSnapshot_iff.1 ⟨g, hg⟩).label_valid t ht
    rcases hlabel with hsign | hempty
    · exact not_isLabel_epsilonSign (hword _ hsign)
    · exact (hword _ hempty).1 rfl
  · intro a ha
    obtain ⟨g, hg⟩ := exists_ofSnapshot_iff.2 ha.consistent.snapshot_valid
    exact ⟨g, hg, (snapshot_ofSnapshot hg).trans (effective_snapshot a.graph)⟩

/-- Two states, the first of which is flagged though nothing runs; the second transition goes to a
state that is not there. -/
def danglingSnapshot : Snapshot where
  active := false
  states := [⟨"a", default, default, true, false, true⟩,
    ⟨"b", default, default, false, true, false⟩]
  transitions := [⟨"a", some "x", "b"⟩, ⟨"a", none, "c"⟩]

/-- Without its second transition the snapshot is restored, and the flag is gone; with an epsilon
sign for a label it is refused. -/
theorem ofSnapshot_correct_danglingSnapshot :
    danglingSnapshot.FirstFault (.unknownState "c") ∧
    (∃ g, ofSnapshot 7 { danglingSnapshot with transitions := [⟨"a", some "x", "b"⟩] } = .ok g ∧
      g.snapshot.states.map (·.current) = [false, false]) ∧
    (∀ g, ofSnapshot 7 { danglingSnapshot with transitions := [⟨"a", some "?", "b"⟩] } ≠ .ok g) ∧
    ∃ g, ofSnapshot 7 Automaton.sample.graph.snapshot = .ok g ∧
      g.snapshot = Automaton.sample.graph.snapshot := by
  obtain ⟨-, -, -, hfault, hreachable⟩ := ofSnapshot_correct 7 danglingSnapshot
  obtain ⟨-, hrestored, -, -, -⟩ :=
    ofSnapshot_correct 7 { danglingSnapshot with transitions := [⟨"a", some "x", "b"⟩] }
  obtain ⟨-, -, hrefused, -, -⟩ :=
    ofSnapshot_correct 7 { danglingSnapshot with transitions := [⟨"a", some "?", "b"⟩] }
  refine ⟨(hfault _).1 rfl, ?_, ?_, hreachable _ Automaton.reachable_sample⟩
  · refine ⟨_, rfl, ?_⟩
    rw [hrestored _ rfl]
    rfl
  · exact hrefused ⟨"a", some "?", "b"⟩ (List.mem_singleton.2 rfl) (.inl rfl)

end Graph

end NfaWorkbench
