import NfaWorkbench.Proofs.Snapshot.Complete
import NfaWorkbench.Proofs.Snapshot.Locality
set_option autoImplicit false

/-!
# Sharing an automaton

Several clients share one automaton.  Each has a script of requests, and while one of its requests is
served it has the automaton to itself; in which order the clients get their turns is left open.

Clients whose edits mention different names do not disturb each other.  What holds them apart is that
the part of the automaton that bears the names of one client is what this client would have made of an
automaton of its own: its own turns do to the part what they would do there, and the turns of the
others pass the part by.
-/

namespace NfaWorkbench

theorem serveAll_concat {σ : Type} (serve : σ → NamedRequest → NamedReply × σ) (s : σ)
    (requests : List NamedRequest) (r : NamedRequest) :
    serveAll serve s (requests ++ [r]) =
      ((serveAll serve s requests).1 ++ [(serve (serveAll serve s requests).2 r).1],
        (serve (serveAll serve s requests).2 r).2) := by
  induction requests generalizing s with
  | nil => rfl
  | cons first rest ih => simp only [List.cons_append, serveAll, ih]

/-- The names that a script mentions. -/
def NamedRequest.allNames (script : List NamedRequest) : List String := script.flatMap names

theorem NamedRequest.names_subset_allNames {script : List NamedRequest} {r : NamedRequest}
    (hr : r ∈ script) : r.names ⊆ allNames script :=
  fun _ hname => List.mem_flatMap.2 ⟨r, hr, hname⟩

/-- An automaton and the clients that share it. -/
structure Sharing (ι : Type) where
  automaton : Automaton
  /-- What every client has still to ask. -/
  pending : ι → List NamedRequest
  /-- What every client has been answered so far. -/
  replies : ι → List NamedReply

namespace Sharing

variable {ι : Type} [DecidableEq ι]

/-- The clients before the first turn, with an empty automaton. -/
def start (owner : Nat) (scripts : ι → List NamedRequest) : Sharing ι :=
  ⟨.empty owner, scripts, fun _ => []⟩

/-- A request of one client is served, and leaves the client with the rest of its script. -/
def serve (s : Sharing ι) (i : ι) (request : NamedRequest) (rest : List NamedRequest) :
    Sharing ι where
  automaton := (s.automaton.serve request).2
  pending := Function.update s.pending i rest
  replies := Function.update s.replies i (s.replies i ++ [(s.automaton.serve request).1])

/-- A client gets its turn: its next request is served, if there is one left. -/
def turn (s : Sharing ι) (i : ι) : Sharing ι :=
  match s.pending i with
  | [] => s
  | request :: rest => s.serve i request rest

/-- The clients get their turns in the order of a schedule. -/
def run (s : Sharing ι) (schedule : List ι) : Sharing ι := schedule.foldl turn s

/-- Every script consists of edits, and no two scripts mention the same name. -/
structure Independent (scripts : ι → List NamedRequest) : Prop where
  isEdit : ∀ i, ∀ r ∈ scripts i, r.isEdit
  apart : Pairwise fun i j =>
    (NamedRequest.allNames (scripts i)).Disjoint (NamedRequest.allNames (scripts j))

/-- A client has had so many turns, and everything is for it as if it were alone: it has been
answered as a snapshot of its own answers, and the part of the automaton that bears its names is that
snapshot. -/
structure Alone (scripts : ι → List NamedRequest) (s : Sharing ι) (i : ι) (turns : Nat) : Prop where
  pending_eq : s.pending i = (scripts i).drop turns
  served_eq : (s.replies i, s.automaton.graph.snapshot.part (NamedRequest.allNames (scripts i))) =
    serveAll Snapshot.serve (Graph.empty 0).snapshot ((scripts i).take turns)

variable {scripts : ι → List NamedRequest} {s : Sharing ι} {i j : ι} {m n : Nat}
  {r : NamedRequest} {rest : List NamedRequest}

theorem turn_of_nil (h : s.pending i = []) : s.turn i = s := by
  rw [turn, h]

theorem turn_of_cons (h : s.pending i = r :: rest) : s.turn i = s.serve i r rest := by
  rw [turn, h]

/-! ## One turn -/

omit [DecidableEq ι] in
theorem Alone.mem_script (h : s.Alone scripts i n) (hpending : s.pending i = r :: rest) :
    r ∈ scripts i :=
  List.mem_of_mem_drop (h.pending_eq ▸ hpending ▸ List.mem_cons_self)

/-- A request is served as the snapshot of the automaton serves it. -/
theorem snapshot_serve (hs : s.automaton.Reachable) (i : ι) (r : NamedRequest)
    (rest : List NamedRequest) : (s.serve i r rest).automaton.graph.snapshot =
      (s.automaton.graph.snapshot.serve r).2 :=
  congrArg Prod.snd (Automaton.shown_serve hs.consistent r)

theorem replies_serve (hs : s.automaton.Reachable) (i : ι) (r : NamedRequest)
    (rest : List NamedRequest) : (s.serve i r rest).replies i =
      s.replies i ++ [(s.automaton.graph.snapshot.serve r).1] := by
  rw [← Automaton.shown_serve hs.consistent r]
  exact Function.update_self ..

/-- What the client asks is served as if it were alone. -/
theorem Alone.turn_self (h : s.Alone scripts i n) (hscripts : Independent scripts)
    (hs : s.automaton.Reachable) : (s.turn i).Alone scripts i (n + 1) := by
  cases hpending : s.pending i with
  | nil =>
    have hdone : (scripts i).length ≤ n := List.drop_eq_nil_iff.1 (h.pending_eq ▸ hpending)
    have hlater := Nat.le_succ_of_le hdone
    rw [turn_of_nil hpending]
    constructor
    · rw [hpending, List.drop_eq_nil_of_le hlater]
    · rw [h.served_eq, List.take_of_length_le hdone, List.take_of_length_le hlater]
  | cons r rest =>
    have hdrop : (scripts i).drop n = r :: rest := h.pending_eq ▸ hpending
    have htake : (scripts i).take (n + 1) = (scripts i).take n ++ [r] := by
      rw [List.take_add_one, ← List.head?_drop, hdrop]
      rfl
    have hr := h.mem_script hpending
    have hpart := Snapshot.serve_part s.automaton.graph.snapshot (hscripts.isEdit i r hr)
      (NamedRequest.names_subset_allNames hr)
    rw [turn_of_cons hpending]
    constructor
    · have hrest : (s.serve i r rest).pending i = rest := Function.update_self ..
      rw [hrest, ← List.tail_drop, hdrop, List.tail_cons]
    · rw [htake, serveAll_concat, ← h.served_eq, hpart, snapshot_serve hs, replies_serve hs]
      rfl

/-- What another client asks passes by. -/
theorem Alone.turn_of_ne (h : s.Alone scripts i n) (hj : s.Alone scripts j m)
    (hscripts : Independent scripts) (hs : s.automaton.Reachable) (hne : i ≠ j) :
    (s.turn j).Alone scripts i n := by
  cases hpending : s.pending j with
  | nil => exact (turn_of_nil hpending).symm ▸ h
  | cons r rest =>
    have hr := hj.mem_script hpending
    have hapart : r.names.Disjoint (NamedRequest.allNames (scripts i)) := fun name hname =>
      hscripts.apart hne.symm (NamedRequest.names_subset_allNames hr hname)
    have hpending' : (s.serve j r rest).pending i = s.pending i := Function.update_of_ne hne ..
    have hreplies : (s.serve j r rest).replies i = s.replies i := Function.update_of_ne hne ..
    rw [turn_of_cons hpending]
    constructor
    · rw [hpending', h.pending_eq]
    · rw [← h.served_eq, hreplies, snapshot_serve hs,
        Snapshot.part_serve_of_disjoint _ (hscripts.isEdit j r hr) hapart]

/-- Everything is for every client as if it were alone, and there is nothing that belongs to no
client. -/
structure Separate (scripts : ι → List NamedRequest) (s : Sharing ι) (turns : ι → Nat) : Prop where
  reachable : s.automaton.Reachable
  alone : ∀ i, s.Alone scripts i (turns i)
  within : s.automaton.graph.snapshot.Within fun i => NamedRequest.allNames (scripts i)

omit [DecidableEq ι] in
theorem separate_start (owner : Nat) (scripts : ι → List NamedRequest) :
    (start owner scripts).Separate scripts fun _ => 0 where
  reachable := .empty owner
  alone _ := ⟨rfl, rfl⟩
  within := ⟨fun _ => List.not_mem_nil.elim, fun _ => List.not_mem_nil.elim⟩

theorem Separate.turn {turns : ι → Nat} (h : s.Separate scripts turns)
    (hscripts : Independent scripts) (j : ι) :
    (s.turn j).Separate scripts (Function.update turns j (turns j + 1)) where
  reachable := by
    unfold Sharing.turn
    split
    · exact h.reachable
    · exact h.reachable.served _
  alone i := by
    by_cases hij : i = j
    · subst hij
      rw [Function.update_self]
      exact (h.alone i).turn_self hscripts h.reachable
    · rw [Function.update_of_ne hij]
      exact (h.alone i).turn_of_ne (h.alone j) hscripts h.reachable hij
  within := by
    cases hpending : s.pending j with
    | nil => exact (turn_of_nil hpending).symm ▸ h.within
    | cons r rest =>
      have hr := (h.alone j).mem_script hpending
      have hnames : r.names ⊆ NamedRequest.allNames (scripts j) :=
        NamedRequest.names_subset_allNames hr
      rw [turn_of_cons hpending, snapshot_serve h.reachable]
      exact h.within.serve (hscripts.isEdit j r hr) hnames

/-! ## Any schedule -/

theorem separate_run (hscripts : Independent scripts) (owner : Nat) (schedule : List ι) :
    ((start owner scripts).run schedule).Separate scripts fun i => schedule.count i := by
  induction schedule using List.reverseRecOn with
  | nil => exact separate_start owner scripts
  | append_singleton earlier j ih =>
    have hlater := ih.turn hscripts j
    have hcount : (fun i => (earlier ++ [j]).count i) =
        Function.update (fun i => earlier.count i) j (earlier.count j + 1) := by
      funext i
      by_cases hij : i = j
      · subst hij
        simp
      · simp [hij, Ne.symm hij]
    rw [hcount, run, List.foldl_concat]
    exact hlater

/-- Clients whose edits mention different names, whatever their schedule is.  Each has been served
its first requests, one for each turn that it had, and has been answered as if it were alone with an
automaton of its own, refusals included.  The part of the shared automaton that bears its names is
all of that other automaton, states and transitions in their order, and every state and every
transition is in one of these parts.  So it is in the middle of a schedule and at its end, when all
scripts have been served. -/
theorem Independent.run_eq_alone (hscripts : Independent scripts) (owner : Nat)
    (schedule : List ι) :
    (∀ i solo, ((start owner scripts).run schedule).pending i =
        (scripts i).drop (schedule.count i) ∧
      (((start owner scripts).run schedule).replies i,
        ((start owner scripts).run schedule).automaton.graph.snapshot.part
          (NamedRequest.allNames (scripts i))) =
        Automaton.shown (serveAll Automaton.serve (.empty solo)
          ((scripts i).take (schedule.count i)))) ∧
    ((start owner scripts).run schedule).automaton.graph.snapshot.Within
      fun i => NamedRequest.allNames (scripts i) := by
  obtain ⟨-, halone, hwithin⟩ := separate_run hscripts owner schedule
  refine ⟨fun i solo => ⟨(halone i).pending_eq, ?_⟩, hwithin⟩
  rw [(Automaton.Reachable.empty solo).shown_serveAll]
  exact (halone i).served_eq

/-- Two clients, one of which removes its state with the transition in the middle of its script. -/
def sampleScripts : Bool → List NamedRequest
  | false => [.createState "a" default, .createTransition ⟨"a", some "x", "a"⟩,
      .setInitial "a" true, .createTransition ⟨"a", some "x", "a"⟩]
  | true => [.createState "b" default, .createState "b" default,
      .createTransition ⟨"b", none, "b"⟩, .removeState "b", .createState "b" default]

theorem sample_run_eq_alone : Independent sampleScripts ∧
    ((start 0 sampleScripts).run
        [true, false, true, false, true, true, false, false, true]).replies true =
      [.state "b", .refused (.duplicateName "b"), .transitions [⟨"b", none, "b"⟩], .done,
        .state "b"] ∧
    ((start 0 sampleScripts).run
        [true, false, true, false, true, true, false, false, true]).automaton.graph.snapshot.part
          (NamedRequest.allNames (sampleScripts false)) =
      ⟨false, [⟨"a", default, default, true, false, false⟩], [⟨"a", some "x", "a"⟩]⟩ := by
  have hscripts : Independent sampleScripts := ⟨by decide, by
    intro i j hne
    cases i <;> cases j <;>
      first | exact absurd rfl hne | simp [NamedRequest.allNames, sampleScripts, NamedRequest.names]⟩
  have hsolo := (hscripts.run_eq_alone 0
    [true, false, true, false, true, true, false, false, true]).1
  refine ⟨hscripts, (congrArg Prod.fst (hsolo true 1).2).trans ?_,
    (congrArg Prod.snd (hsolo false 2).2).trans ?_⟩
  · decide +kernel
  · decide +kernel

end Sharing

end NfaWorkbench
