import NfaWorkbench.Proofs.Document.Canonical
import NfaWorkbench.Proofs.Snapshot.Simulation
set_option autoImplicit false

/-!
# Documents: the order of the records

Whether records are a document depends on their order in one way only: a state is declared before it
is referred to (`admissible_iff`).  In another order that keeps to this, the records describe the
same states and transitions, listed in another order.  The automaton over names does not see the
order of the lists, so runs end in the same states and with the same verdict.
-/

namespace NfaWorkbench

/-! ## Documents in any order -/

namespace Record

variable {r : Record} {names : List String} {edges : List TransitionSnapshot}

/-- The names of the states that a record refers to. -/
def mentions : Record → List String
  | state .. => []
  | transition source _ target => [source, target]
  | initial name => [name]
  | final name => [name]

/-- A record fits if it is valid, refers to names that are declared, and declares or describes
something new. -/
theorem fits_iff (hnames : ∀ name ∈ names, IsName name) : r.Fits names edges ↔
    r.Valid ∧ (∀ name ∈ r.mentions, name ∈ names) ∧ (∀ name ∈ r.declared?, name ∉ names) ∧
      ∀ edge ∈ r.edge?, edge ∉ edges := by
  cases r with
  | state name position => simp [Fits, Valid, mentions, declared?, edge?]
  | transition source label target =>
    simp only [Fits, Valid, mentions, declared?, edge?, List.forall_mem_cons, Option.mem_def,
      Option.some.injEq, forall_eq', reduceCtorEq]
    constructor
    · rintro ⟨hsource, htarget, hlabel, hnew⟩
      exact ⟨⟨hnames source hsource, hnames target htarget, hlabel⟩,
        ⟨hsource, htarget, by simp⟩, by simp, hnew⟩
    · rintro ⟨⟨-, -, hlabel⟩, ⟨hsource, htarget, -⟩, -, hnew⟩
      exact ⟨hsource, htarget, hlabel, hnew⟩
  | initial name =>
    simpa [Fits, Valid, mentions, declared?, edge?] using fun hname => hnames name hname
  | final name =>
    simpa [Fits, Valid, mentions, declared?, edge?] using fun hname => hnames name hname

end Record

namespace Document

variable {records records' : List Record}

/-- Every record comes after the records of the states that it refers to. -/
def DeclaresFirst (records : List Record) : Prop :=
  ∀ before r after, records = before ++ r :: after → ∀ name ∈ r.mentions, ∀ position,
    .state name position ∈ records → .state name position ∈ before

/-- What makes records a document but for their order. -/
structure Coherent (records : List Record) : Prop where
  valid : ∀ r ∈ records, r.Valid
  declared : ∀ r ∈ records, ∀ name ∈ r.mentions, name ∈ declaredNames records
  names_nodup : (declaredNames records).Nodup
  edges_nodup : (edges records).Nodup

theorem mem_declaredNames_iff {name : String} :
    name ∈ declaredNames records ↔ ∃ position, .state name position ∈ records := by
  rw [declaredNames, List.mem_filterMap]
  constructor
  · rintro ⟨r, hr, hname⟩
    cases r <;> simp only [Record.declared?, reduceCtorEq, Option.some.injEq] at hname
    exact ⟨_, hname ▸ hr⟩
  · rintro ⟨position, hr⟩
    exact ⟨_, hr, rfl⟩

theorem Coherent.perm (h : Coherent records) (hperm : records'.Perm records) :
    Coherent records' where
  valid r hr := h.valid r (hperm.mem_iff.1 hr)
  declared r hr name hname :=
    (hperm.filterMap _).mem_iff.2 (h.declared r (hperm.mem_iff.1 hr) name hname)
  names_nodup := (hperm.filterMap _).nodup_iff.2 h.names_nodup
  edges_nodup := (hperm.filterMap _).nodup_iff.2 h.edges_nodup

theorem Coherent.isName (h : Coherent records) : ∀ name ∈ declaredNames records, IsName name := by
  intro name hname
  obtain ⟨position, hr⟩ := mem_declaredNames_iff.1 hname
  exact h.valid _ hr

theorem nodup_filterMap_concat {α β : Type} {f : α → Option β} {l : List α} {a : α}
    (h : (l.filterMap f).Nodup) (ha : ∀ b ∈ f a, b ∉ l.filterMap f) :
    ((l ++ [a]).filterMap f).Nodup := by
  rw [List.filterMap_append]
  cases hf : f a with
  | none => simpa [hf] using h
  | some b =>
    have hb := ha b hf
    simp only [List.filterMap_cons, hf, List.filterMap_nil]
    rw [← List.concat_eq_append]
    exact h.concat hb

/-- A record that fits coherent records leaves them coherent. -/
theorem Coherent.concat (h : Coherent records) {r : Record}
    (hr : r.Fits (declaredNames records) (edges records)) : Coherent (records ++ [r]) := by
  obtain ⟨hvalid, hmentions, hname, hedge⟩ := (Record.fits_iff h.isName).1 hr
  refine ⟨?_, ?_, ?_, ?_⟩
  · simpa [or_imp, forall_and] using ⟨h.valid, hvalid⟩
  · intro s hs name hsname
    rcases List.mem_append.1 hs with hs | hs
    · exact declaredNames_subset (h.declared s hs name hsname)
    · obtain rfl := List.mem_singleton.1 hs
      exact declaredNames_subset (hmentions name hsname)
  · exact nodup_filterMap_concat h.names_nodup hname
  · exact nodup_filterMap_concat h.edges_nodup hedge

theorem Admissible.coherent (h : Admissible records) : Coherent records := by
  induction records using List.reverseRecOn with
  | nil => exact ⟨by simp, by simp, List.nodup_nil, List.nodup_nil⟩
  | append_singleton records r ih =>
    obtain ⟨hrecords, hlast⟩ := admissible_append_iff.1 h
    exact (ih hrecords).concat (fitsAfter_cons_iff.1 hlast).1

theorem Admissible.declaresFirst (h : Admissible records) : DeclaresFirst records := by
  rintro before r after rfl name hname position hstate
  have hbefore : Coherent before := (admissible_append_iff.1 h).1.coherent
  have hfits := h before r after rfl
  rw [List.nil_append, Record.fits_iff hbefore.isName] at hfits
  obtain ⟨_, hmentions, _⟩ := hfits
  rcases List.mem_append.1 hstate with hstate | hstate
  · exact hstate
  · -- The name is declared before, and only once.
    have hnames := h.coherent.names_nodup
    rw [declaredNames_append, List.nodup_append] at hnames
    exact absurd rfl
      (hnames.2.2 name (hmentions name hname) name (mem_declaredNames_iff.2 ⟨position, hstate⟩))

/-- What coherent records need to be a document is that names are declared before they are referred
to. -/
theorem Coherent.admissible (h : Coherent records) (hfirst : DeclaresFirst records) :
    Admissible records := by
  rintro before r after rfl
  rw [List.nil_append]
  have hnames := h.names_nodup
  have hedges := h.edges_nodup
  rw [declaredNames_append, List.nodup_append] at hnames
  rw [edges_append, List.nodup_append] at hedges
  have hr : r ∈ before ++ r :: after := List.mem_append_right _ List.mem_cons_self
  refine (Record.fits_iff fun name hname => h.isName name (declaredNames_subset hname)).2
    ⟨h.valid r hr, ?_, ?_, ?_⟩
  · intro name hname
    obtain ⟨position, hstate⟩ := mem_declaredNames_iff.1 (h.declared r hr name hname)
    exact mem_declaredNames_iff.2
      ⟨position, hfirst before r after rfl name hname position hstate⟩
  · intro name hname hmem
    refine hnames.2.2 name hmem name ?_ rfl
    exact List.mem_filterMap.2 ⟨r, List.mem_cons_self, hname⟩
  · intro edge hedge hmem
    refine hedges.2.2 edge hmem edge ?_ rfl
    exact List.mem_filterMap.2 ⟨r, List.mem_cons_self, hedge⟩

theorem admissible_iff : Admissible records ↔ Coherent records ∧ DeclaresFirst records :=
  ⟨fun h => ⟨h.coherent, h.declaresFirst⟩, fun h => h.1.admissible h.2⟩

/-- Records are a document in every order in which names are declared before they are referred to.
-/
theorem Admissible.perm (h : Admissible records) (hperm : records'.Perm records)
    (hfirst : DeclaresFirst records') : Admissible records' :=
  admissible_iff.2 ⟨h.coherent.perm hperm, hfirst⟩

end Document

/-- Records in another order describe the same states and transitions, in another order. -/
theorem Snapshot.ofRecords_perm {records records' : List Record} (hperm : records'.Perm records) :
    (ofRecords records').states.Perm (ofRecords records).states ∧
      (ofRecords records').transitions.Perm (ofRecords records).transitions := by
  have hshown : Record.stateSnapshot? records' = Record.stateSnapshot? records := by
    funext r
    cases r <;> simp only [Record.stateSnapshot?, hperm.mem_iff]
  constructor
  · simp only [ofRecords, hshown]
    exact hperm.filterMap _
  · exact hperm.filterMap _

/-! ## Runs in any order -/

/-- The automaton that a snapshot describes does not depend on the order of its lists. -/
theorem Snapshot.machine_eq_of_perm {s t : Snapshot} (hstates : t.states.Perm s.states)
    (htransitions : t.transitions.Perm s.transitions) : t.machine = s.machine := by
  have hnames : ∀ (p : StateSnapshot → Bool) name,
      name ∈ t.namesWhere p ↔ name ∈ s.namesWhere p :=
    fun p _ => ((hstates.filter p).map _).mem_iff
  simp only [machine, htransitions.mem_iff, hnames]

/-- The automata reach the same states under both names. -/
theorem InStep.image_evalFrom {α σ τ : Type} {M : εNFA α σ} {N : εNFA α τ} {f : σ → τ}
    {members S : Set σ} (h : InStep M N f members) (hS : S ⊆ members) (word : List α) :
    f '' M.evalFrom S word = N.evalFrom (f '' S) word := by
  induction word generalizing S with
  | nil => exact h.image_εClosure hS
  | cons a word ih =>
    have hmoved : moveSet M (M.εClosure S) a ⊆ members := by
      rintro t ⟨s, hs, ht⟩
      exact h.closed s (h.εClosure_subset hS hs) _ ht
    rw [evalFrom_cons, ih hmoved, h.image_moveSet (h.εClosure_subset hS), h.image_εClosure hS,
      evalFrom_cons]

namespace Graph

variable {g k : Graph}

theorem Consistent.image_eval (hg : g.Consistent) (word : List String) :
    g.stateName '' g.machine.eval word = g.snapshot.machine.eval word := by
  have hstart : g.stateName '' g.machine.start = g.snapshot.machine.start :=
    hg.image_idsWhere fun _ => rfl
  have hmembers : g.machine.start ⊆ {s | s ∈ g.states.ids} := fun _ hs => initialStates_subset hs
  rw [εNFA.eval, hg.inStep.image_evalFrom hmembers, hstart, εNFA.eval]

/-- The names of the states that are current after a run are those that the snapshot reaches. -/
theorem Consistent.mem_names_run_finish_iff (hg : g.Consistent) (events : List String)
    {name : String} :
    name ∈ (g.run events).finish.currentStates.map (g.run events).finish.stateName ↔
      name ∈ g.snapshot.machine.eval (letters events) := by
  have hframe : (g.run events).finish.unmarked = { g with active := true }.unmarked :=
    unmarked_run_finish events
  have hnames : (g.run events).finish.stateName = g.stateName :=
    funext (stateName_eq_of_mapValues_eq (mapValues_eq_of_unmarked_eq hframe fun _ => rfl))
  have hcurrent : (g.run events).finish.currentStates = (g.run events).finish.flaggedStates :=
    if_pos (active_run_finish events)
  rw [← hg.image_eval, ← hg.marked_run_finish, hnames, hcurrent, List.mem_map]
  exact Iff.rfl

/-- The names of the states that a run can end in tell its verdict. -/
theorem Consistent.accepted_run_iff_names (hg : g.Consistent) (events : List String) :
    (g.run events).accepted = true ↔
      ∃ name ∈ g.snapshot.machine.eval (letters events), name ∈ g.snapshot.machine.accept := by
  have hmembers : g.machine.eval (letters events) ⊆ {s | s ∈ g.states.ids} := by
    rw [← hg.marked_run_finish]
    intro s hs
    exact ids_eq_of_unmarked_eq (g := { g with active := true }) (unmarked_run_finish events) ▸
      marked_subset _ hs
  rw [hg.accepted_run_iff, hg.exists_final_iff hmembers, hg.image_eval]

/-! ## Documents with the same records -/

open Document

/-- The order of the records matters for declarations only.  If the records of one document are
those of another in an order in which every record comes after the states that it refers to, and the
other can be read, then so can the one.  Both describe the same states with their flags and the same
transitions, and runs on the same events have the same verdict and end in states of the same names.
-/
theorem read_reordered {owner : Nat} {bytes bytes' : List UInt8} {records records' : List Record}
    (hread : read owner { bytes } = .ok g) (hrecords : Records (lines bytes) records)
    (hrecords' : Records (lines bytes') records') (hperm : records'.Perm records)
    (hfirst : DeclaresFirst records') (other : Nat) :
    ∃ k, read other { bytes := bytes' } = .ok k ∧
      k.snapshot.states.Perm g.snapshot.states ∧
      k.snapshot.transitions.Perm g.snapshot.transitions ∧
      ∀ events, (∀ p traced, (Job.ran p (k.run events) traced).success =
          (Job.ran p (g.run events) traced).success) ∧
        ∀ name, name ∈ (k.run events).finish.currentStates.map (k.run events).finish.stateName ↔
          name ∈ (g.run events).finish.currentStates.map (g.run events).finish.stateName := by
  obtain ⟨found, hfound, hg⟩ := follows_of_read hread
  obtain rfl := hfound.unique hrecords
  obtain ⟨k, hk⟩ := exists_read_of_records other hrecords' (hg.admissible.perm hperm hfirst)
  obtain ⟨found', hfound', hfollows⟩ := follows_of_read hk
  obtain rfl := hfound'.unique hrecords'
  obtain ⟨hstates, htransitions⟩ := Snapshot.ofRecords_perm hperm
  rw [← hg.snapshot_eq, ← hfollows.snapshot_eq] at hstates htransitions
  have hmachine := Snapshot.machine_eq_of_perm hstates htransitions
  refine ⟨k, hk, hstates, htransitions, fun events => ⟨fun p traced => ?_, fun name => ?_⟩⟩
  · rw [Job.ran, Job.ran, Bool.eq_iff_iff, hfollows.consistent.accepted_run_iff_names,
      hg.consistent.accepted_run_iff_names, hmachine]
  · rw [hfollows.consistent.mem_names_run_finish_iff, hg.consistent.mem_names_run_finish_iff,
      hmachine]

/-- Two states, each declared where it is needed first. -/
def declaredApart : List Record :=
  [.state "a" default, .initial "a", .state "b" default, .transition "a" (some "x") "b", .final "b"]

/-- The same records, with the states in the other order. -/
def declaredTogether : List Record :=
  [.state "b" default, .state "a" default, .final "b", .transition "a" (some "x") "b", .initial "a"]

theorem admissible_declaredTogether : Admissible declaredTogether := by
  have ha : IsName "a" := nameFault?_eq_none_iff.1 (by decide +kernel)
  have hb : IsName "b" := nameFault?_eq_none_iff.1 (by decide +kernel)
  have hx : IsLabel "x" := labelFault?_eq_none_iff.1 (by decide +kernel)
  simp [declaredTogether, Admissible, fitsAfter_cons_iff, fitsAfter_nil, Record.Fits, declaredNames,
    edges, Record.declared?, Record.edge?, ha, hb, hx]

theorem read_reordered_declaredTogether :
    ∃ g k, read 0 (.ofText "state a 0 0\ninitial a\nstate b 0 0\ntransition a x b\nfinal b\n") =
        .ok g ∧
      read 1 (.ofText "state b 0 0\nstate a 0 0\nfinal b\ntransition a x b\ninitial a\n") =
        .ok k ∧
      (Job.ran ⟨false⟩ (k.run ["x"]) false).success =
        (Job.ran ⟨false⟩ (g.run ["x"]) false).success := by
  have hcoherent : Coherent declaredTogether := admissible_declaredTogether.coherent
  have hperm : declaredTogether.Perm declaredApart := by decide
  have hvalid : ∀ r ∈ declaredApart, r.Valid := fun r hr =>
    hcoherent.valid r (hperm.mem_iff.2 hr)
  have hapart := records_lines_join hvalid
  have htogether := records_lines_join hcoherent.valid
  have hok : (read 0 (.ofText
      "state a 0 0\ninitial a\nstate b 0 0\ntransition a x b\nfinal b\n")).toBool = true := by
    decide +kernel
  cases hread : read 0 (.ofText
      "state a 0 0\ninitial a\nstate b 0 0\ntransition a x b\nfinal b\n") with
  | error error => simp [hread, Except.toBool] at hok
  | ok g =>
    obtain ⟨k, hk, _, _, hruns⟩ := read_reordered hread hapart htogether hperm
      admissible_declaredTogether.declaresFirst 1
    exact ⟨g, k, rfl, hk, (hruns ["x"]).1 ⟨false⟩ false⟩

end Graph

end NfaWorkbench
