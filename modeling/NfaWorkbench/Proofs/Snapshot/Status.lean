import NfaWorkbench.Proofs.Simulation.Marking
import NfaWorkbench.Proofs.Snapshot.Edit
set_option autoImplicit false

/-!
# Snapshots: the status of the simulation

The simulation changes nothing of a snapshot but the status: that it runs, and which states are
shown as current.  So the snapshot afterwards is known once the flagged states are, and these are
told by their names.
-/

namespace NfaWorkbench

namespace Snapshot

/-- The snapshot with a running simulation, in which the states are current whose names satisfy
`p`. -/
def running (s : Snapshot) (p : String → Bool) : Snapshot :=
  { s with
    active := true
    states := s.states.map fun v => { v with current := p v.name } }

end Snapshot

/-- What a snapshot shows of a state where its name tells whether it is current. -/
def State.shown (p : String → Bool) (state : State) : StateSnapshot where
  name := state.name
  x := state.position.x
  y := state.position.y
  initial := state.initial
  final := state.final
  current := p state.name

namespace Graph

variable {g k : Graph}

/-- A graph with a running simulation shows the states as current that are flagged. -/
theorem Named.snapshot_eq_running (hg : g.Named)
    (h : k.unmarked = { g.unmarked with active := true }) {p : String → Bool}
    (hp : ∀ s state, (s, state) ∈ g.states → (s ∈ k.flaggedStates ↔ p state.name = true)) :
    k.snapshot = g.snapshot.running p := by
  have hframe : k.unmarked = { g with active := true }.unmarked := h
  have hactive : k.active = true := active_eq_of_unmarked_eq hframe
  have hk : k.Named :=
    (hg.congr (h := { g with active := true }) rfl rfl rfl rfl).of_unmarked_eq hframe
  have hnames : k.states.mapValues (·.name) = g.states.mapValues (·.name) :=
    mapValues_eq_of_unmarked_eq hframe fun _ => rfl
  have hshown : k.states.mapValues (State.shown p) = g.states.mapValues (State.shown p) :=
    mapValues_eq_of_unmarked_eq hframe fun _ => rfl
  refine Snapshot.ext hactive ?_ ?_
  · have hstates : k.states.map (fun e => k.stateSnapshot e.2) =
        k.states.map fun e => e.2.shown p := by
      apply List.map_congr_left
      rintro ⟨s, state⟩ hs
      obtain ⟨old, hold, hname⟩ := Registry.exists_mem_of_mapValues_eq hnames hs
      have hflag : state.current = p state.name := by
        rw [Bool.eq_iff_iff, ← hk.flagged_iff hs, hp s old hold, hname]
      simp only [stateSnapshot, State.shown, hactive, hflag, Bool.true_and]
    have hvalues := congrArg (List.map Prod.snd) hshown
    simp only [Registry.mapValues, List.map_map, Function.comp_def] at hvalues
    simp only [snapshot, Snapshot.running, List.map_map, hstates, hvalues, Function.comp_def]
    rfl
  · simp only [snapshot, transitionSnapshot, Snapshot.running,
      stateName_eq_of_mapValues_eq hnames, transitions_eq_of_unmarked_eq hframe]

end Graph

end NfaWorkbench
