import NfaWorkbench.Editor.Terminal
import NfaWorkbench.Proofs.Editor.Documents
import NfaWorkbench.Proofs.Simulation.Looking
import NfaWorkbench.Proofs.Snapshot.Runs
set_option autoImplicit false

/-!
# Editor: simulating

A simulation in the editor and a run on the same events.  The user may look at the simulation at any
time: some of these commands close the current states, but none makes a difference to the steps that
follow or to the verdict.
-/

namespace NfaWorkbench.Editor.Session

/-! ## Lines that step and lines that look -/

/-- The lines that step with an event. -/
def stepLine (event : String) : String := "step" ++ " " ++ event

/-- The lines that look at a simulation. -/
def lookLines : List String := ["recognised", "step", "step ?", "current", "show"]

/-- Lines that step with some events one after another, and look at the simulation in between. -/
inductive Feeds : List String → List String → Prop
  | nil : Feeds [] []
  | step {event : String} {events lines : List String} (hevent : Text.IsWord event)
      (h : Feeds events lines) : Feeds (event :: events) (stepLine event :: lines)
  | look {line : String} {events lines : List String} (hline : line ∈ lookLines)
      (h : Feeds events lines) : Feeds events (line :: lines)

variable {s : Session} {d : Directory} {line event : String} {events lines : List String} {g : Graph}

/-- The lines that only step. -/
theorem Feeds.withoutLooks (h : Feeds events lines) : Feeds events (events.map stepLine) := by
  induction h with
  | nil => exact .nil
  | step hevent _ ih => exact .step hevent ih
  | look _ _ ih => exact ih

theorem read_stepLine (h : Text.IsWord event) :
    Command.read (stepLine event) = some (.ok (.edit (.step (some event)))) := by
  have hstep : Text.IsWord "step" := ⟨by decide, by simp [Text.isBlank_eq_false_of_visible]⟩
  have hlower : Text.lowerCase "step" = "step" := by decide +kernel
  rw [Command.read, stepLine, Text.words_pair hstep h]
  simp only [hlower]
  rfl

/-! ## What the lines do to the graph -/

theorem execute_eq_of_ok {command : Edit} {response : Response}
    (hread : Command.read line = some (.ok (.edit command)))
    (hok : (s.edit command).1 = .ok response) :
    ∃ changes, (s.execute d line).1 = .answer changes response ∧
      (s.execute d line).2.1.graph = (s.edit command).2.graph := by
  obtain ⟨changes, hperform⟩ := perform_edit_of_ok (d := d) hok
  have hexecute : s.execute d line = s.perform d (.edit command) := by
    rw [Session.execute, hread]
  rw [hexecute, hperform]
  exact ⟨changes, rfl, rfl⟩

theorem graph_execute_reset (s : Session) (d : Directory) :
    (s.execute d "reset").2.1.graph = s.graph.reset.graph := by
  have hread : Command.read "reset" = some (.ok (.edit .reset)) := by decide +kernel
  obtain ⟨_, _, hgraph⟩ := execute_eq_of_ok (s := s) (d := d) hread rfl
  exact hgraph

theorem graph_execute_step (hactive : s.graph.active = true) {event : Option String}
    (hread : Command.read line = some (.ok (.edit (.step event)))) :
    (s.execute d line).2.1.graph = (s.graph.step (event.bind labelOfWord)).graph := by
  have hedit : s.edit (.step event) = (.ok (.current (s.graph.step (event.bind labelOfWord)).graph),
      s.apply (s.graph.step (event.bind labelOfWord))) := by
    rw [edit, Session.step, if_pos hactive]
  obtain ⟨_, _, hgraph⟩ := execute_eq_of_ok (d := d) hread (congrArg Prod.fst hedit)
  rw [hgraph, hedit]
  rfl

/-- The verdict is that of the graph, which is closed on the way. -/
theorem execute_recognised (s : Session) (d : Directory) :
    ∃ changes, (s.execute d "recognised").1 = .answer changes (.verdict s.graph.recognise.1) ∧
      (s.execute d "recognised").2.1.graph = s.graph.recognise.2.graph := by
  have hread : Command.read "recognised" = some (.ok (.edit .recognised)) := by decide +kernel
  exact execute_eq_of_ok hread rfl

/-- To look at a simulation is to close its current states at most. -/
theorem graph_execute_look (hactive : s.graph.active = true) (hline : line ∈ lookLines) :
    (s.execute d line).2.1.graph = s.graph ∨
      (s.execute d line).2.1.graph = s.graph.close.graph := by
  have hclose : (s.graph.step none).graph = s.graph.close.graph := by
    rw [Graph.step.eq_def, if_pos hactive]
    rfl
  simp only [lookLines, List.mem_cons, List.not_mem_nil, or_false] at hline
  obtain rfl | rfl | rfl | rfl | rfl := hline
  · obtain ⟨_, _, hgraph⟩ := execute_recognised s d
    rw [hgraph, Graph.recognise, if_pos hactive]
    exact .inr rfl
  · have hread : Command.read "step" = some (.ok (.edit (.step none))) := by decide +kernel
    exact .inr ((graph_execute_step hactive hread).trans hclose)
  · have hread : Command.read "step ?" = some (.ok (.edit (.step (some "?")))) := by decide +kernel
    exact .inr ((graph_execute_step hactive hread).trans hclose)
  · have hread : Command.read "current" = some (.ok (.edit .current)) := by decide +kernel
    obtain ⟨_, _, hgraph⟩ := execute_eq_of_ok (s := s) (d := d) hread rfl
    exact .inl hgraph
  · have hread : Command.read "show" = some (.ok (.edit .display)) := by decide +kernel
    obtain ⟨_, _, hgraph⟩ := execute_eq_of_ok (s := s) (d := d) hread rfl
    exact .inl hgraph

/-- A look leaves everything as it is, up to closing. -/
theorem Ready.close_execute_look (hs : s.Ready) (hactive : s.graph.active = true)
    (hline : line ∈ lookLines) :
    (s.execute d line).2.1.graph.close.graph = s.graph.close.graph := by
  rcases graph_execute_look (d := d) hactive hline with hsame | hclosed
  · rw [hsame]
  · rw [hclosed, hs.consistent.close_close hactive]

/-! ## Conversations -/

/-- Lines that feed some events to a session do to its graph what feeding them does to a graph that
is equal to it once both are closed. -/
theorem Feeds.close_executeAll (h : Feeds events lines) (hs : s.Ready)
    (hactive : s.graph.active = true) (hsame : s.graph.close.graph = g.close.graph) :
    (s.executeAll d lines).1.graph.close.graph = (g.feed events).2.close.graph := by
  induction h generalizing s d g with
  | nil => exact hsame
  | @step event events lines hevent _ ih =>
    have hgraph : (s.execute d (stepLine event)).2.1.graph =
        (s.graph.step (labelOfWord event)).graph :=
      graph_execute_step hactive (read_stepLine hevent)
    have hnext : (s.execute d (stepLine event)).2.1.graph =
        (g.step (labelOfWord event)).graph := by
      rw [hgraph]
      refine Graph.step_graph_eq_of_close_eq hsame ?_ _
      rw [← Graph.active_eq_of_close_eq hsame, hactive]
    refine ih (hs.execute d _) ?_ (congrArg (·.close.graph) hnext)
    rw [hgraph, Graph.active_eq_of_unmarked_eq (Graph.unmarked_step _ _), hactive]
  | @look line events lines hline _ ih =>
    have hlook := hs.close_execute_look (d := d) hactive hline
    refine ih (hs.execute d _) ?_ (hlook.trans hsame)
    rw [Graph.active_eq_of_close_eq hlook, hactive]

/-- After a restart and some events the session has the graph of a run, up to closing. -/
theorem Ready.close_executeAll_reset (hs : s.Ready) (h : Feeds events lines) (d : Directory) :
    (s.executeAll d ("reset" :: lines)).1.graph.close.graph =
      (s.graph.fed events).close.graph := by
  have hreset := graph_execute_reset s d
  refine h.close_executeAll (hs.execute d "reset") ?_ (congrArg (·.close.graph) hreset)
  rw [hreset]
  exact Graph.active_eq_of_unmarked_eq (g := { s.graph with active := true })
    (Graph.unmarked_reset s.graph)

/-- After the next step no trace is left of looking. -/
theorem Ready.graph_executeAll_stepLine (hs : s.Ready) (h : Feeds events lines)
    (hevent : Text.IsWord event) (d : Directory) :
    (s.executeAll d ("reset" :: lines ++ [stepLine event])).1.graph =
      ((s.graph.fed events).step (labelOfWord event)).graph := by
  have hclosed := hs.close_executeAll_reset h d
  have hactive := (Graph.active_eq_of_close_eq hclosed).trans (Graph.active_fed events)
  rw [executeAll_append]
  exact (graph_execute_step hactive (read_stepLine hevent)).trans
    (Graph.step_graph_eq_of_close_eq hclosed (Graph.active_fed events) _)

/-- Looking at a simulation, any number of times, makes no difference.  A conversation that restarts
the simulation, steps with some events and asks for the verdict is answered with the verdict of a run
on these events, whatever automaton of the same snapshot is run; and after each step the graph is the
one that the steps alone lead to. -/
theorem Reachable.looking_correct (h : s.Reachable) (d : Directory) (hlines : Feeds events lines) :
    (∀ after e, s.executeAll d ("reset" :: lines) = (after, e) →
      ∃ changes accepted, (after.execute e "recognised").1 = .answer changes (.verdict accepted) ∧
        ∀ b : Automaton, b.Reachable → b.graph.snapshot.atRest = s.graph.snapshot.atRest →
          ∀ p traced, (Job.ran p (b.graph.run events) traced).success = accepted ∧
            ∃ shown, (after.execute e "recognised").1.render p = shown ++ p.verdict accepted) ∧
    ∀ event, Text.IsWord event →
      (s.executeAll d ("reset" :: lines ++ [stepLine event])).1.graph =
        (s.executeAll d ("reset" :: (events ++ [event]).map stepLine)).1.graph := by
  have hs := h.ready
  constructor
  · intro after e hafter
    have hclosed := hs.close_executeAll_reset hlines d
    rw [hafter] at hclosed
    obtain ⟨changes, hanswer, -⟩ := execute_recognised after e
    have hverdict : after.graph.recognise.1 = (s.graph.run events).accepted :=
      Graph.recognise_fst_eq_of_close_eq hclosed
    rw [hverdict] at hanswer
    refine ⟨changes, _, hanswer, fun b hb hsnapshot p traced => ⟨?_, ?_⟩⟩
    · have halike := (hs.consistent.run_alike (p := p) hb.consistent hsnapshot events).2 traced
      rw [halike]
      rfl
    · rw [hanswer, Reply.render, renderAnswer]
      split
      · exact ⟨"", String.empty_append.symm⟩
      · exact ⟨_, rfl⟩
  · intro event hevent
    rw [hs.graph_executeAll_stepLine hlines hevent, List.map_append,
      ← hs.graph_executeAll_stepLine hlines.withoutLooks hevent]
    rfl

/-- The sample with an epsilon transition back to its first state, which is final. -/
def sampleBack : Session := (sample.executeAll ⟨[]⟩ ["transition b ? a", "final a"]).1

/-- The look after the step takes the epsilon transition, on which the verdict rests. -/
theorem sampleBack_looking_correct : sampleBack.Reachable ∧
    Feeds ["x"] ["current", stepLine "x", "step ?"] ∧
    ∃ changes, ((sampleBack.executeAll ⟨[]⟩ ["reset", "current", stepLine "x", "step ?"]).1.execute
      ⟨[]⟩ "recognised").1 = .answer changes (.verdict true) := by
  have hword : Text.IsWord "x" := ⟨by decide, by simp [Text.isBlank_eq_false_of_visible]⟩
  have hfeeds : Feeds ["x"] ["current", stepLine "x", "step ?"] :=
    .look (by decide) (.step hword (.look (by decide) .nil))
  have hreachable : sampleBack.Reachable := reachable_sample.executeAll _ _
  have hverdict : (Job.ran ⟨false⟩ (sampleBack.graph.run ["x"]) false).success = true := by
    decide +kernel
  have hfiles : (sampleBack.executeAll ⟨[]⟩ ["reset", "current", stepLine "x", "step ?"]).2 =
      ⟨[]⟩ := by decide +kernel
  refine ⟨hreachable, hfeeds, ?_⟩
  obtain ⟨hlooking, -⟩ := hreachable.looking_correct ⟨[]⟩ hfeeds
  obtain ⟨changes, accepted, hanswer, hrun⟩ := hlooking _ _ (Prod.ext rfl hfiles)
  obtain ⟨hsame, -⟩ := hrun sampleBack.automaton hreachable.ready.reachable rfl ⟨false⟩ false
  rw [← hsame] at hanswer
  exact ⟨changes, hverdict ▸ hanswer⟩

end NfaWorkbench.Editor.Session
