import NfaWorkbench.Proofs.Files
import NfaWorkbench.Proofs.Snapshot.Runs
set_option autoImplicit false

/-!
# Jobs

What jobs do to the files, and what formatting leaves behind.  Only formatting writes, and it writes
one file after everything was read; so an error leaves all files as they are, and formatting in
place is no special case.  What it writes is read again with the same snapshot, and everything that
the other jobs show is a function of the snapshot.
-/

namespace NfaWorkbench.Job

variable {p : Text.Palette} {d e : Directory} {file target : String} {g : Graph}

/-- What formatting a file to a target leaves behind, where it makes the directory `e` of `d`. -/
structure Formatted (p : Text.Palette) (d e : Directory) (file target : String) : Prop where
  /-- The target holds the canonical document of the automaton that the file held. -/
  canonical : ∃ g, d.load 0 file = .ok g ∧ e.read target = .ok (Document.encode g.serialize)
  /-- Formatting the target changes nothing any more. -/
  again : ∃ result, execute p e (.format target none) = (.ok result, e)
  run : ∀ events traced, ∃ result, (execute p d (.run file events traced)).1 = .ok result ∧
    (execute p e (.run target events traced)).1 = .ok result
  display : ∀ json, ∃ result, (execute p d (.display file json)).1 = .ok result ∧
    (execute p e (.display target json)).1 = .ok result
  /-- The check names the file that it reads; the rest is the same. -/
  check : ∃ summary,
    (execute p d (.check file)).1 = .ok
      ⟨p.paint .green "OK" ++ " " ++ p.paint .cyan file ++ "\n" ++ summary, true⟩ ∧
    (execute p e (.check target)).1 = .ok
      ⟨p.paint .green "OK" ++ " " ++ p.paint .cyan target ++ "\n" ++ summary, true⟩

/-- Only formatting writes files. -/
theorem execute_snd_of_reading (p : Text.Palette) (d : Directory) {job : Job}
    (h : ∀ file output, job ≠ .format file output) : (execute p d job).2 = d := by
  cases job with
  | format file output => exact absurd rfl (h file output)
  | _ => rfl

theorem reading_of_load {answer : Graph → JobResult} (h : d.load 0 file = .ok g) :
    reading d file answer = .ok (answer g) := by
  rw [reading, h]

theorem formatting_of_load (p : Text.Palette) (hload : d.load 0 file = .ok g) :
    (∀ fault, d.save target g = .error fault →
      formatting p d file target = (.error (.write fault), d)) ∧
    ∀ e, d.save target g = .ok e → ∃ result, formatting p d file target = (.ok result, e) := by
  refine ⟨fun fault hsave => ?_, fun e hsave => ?_⟩
  · simp only [formatting, hload, hsave]
  · simp only [formatting, hload, hsave]
    exact ⟨_, rfl⟩

/-- Formatting succeeds if the file is loaded and the target is saved. -/
theorem formatting_eq_ok {result : JobResult} (h : formatting p d file target = (.ok result, e)) :
    ∃ g, d.load 0 file = .ok g ∧ d.save target g = .ok e := by
  unfold formatting at h
  split at h
  · simp at h
  · rename_i g hload
    split at h
    · simp at h
    · rename_i written hsave
      exact ⟨g, hload, by rw [hsave, (Prod.mk.inj h).2]⟩

theorem formatting_eq_error {error : JobError} (h : (formatting p d file target).1 = .error error) :
    (formatting p d file target).2 = d := by
  unfold formatting at h ⊢
  split at h
  · rfl
  · split at h
    · rfl
    · simp at h

/-- Formatting changes at most the file to which the target leads. -/
theorem file?_formatting {path : String}
    (h : (formatting p d file target).2.file? path ≠ d.file? path) :
    ∃ folder name, d.resolve target = .ok (.file folder name false) ∧ path = folder ++ name := by
  cases hresult : (formatting p d file target).1 with
  | error error =>
    rw [formatting_eq_error hresult] at h
    exact absurd rfl h
  | ok result =>
    obtain ⟨g, -, hsave⟩ := formatting_eq_ok (Prod.ext hresult rfl)
    obtain ⟨folder, name, hresolve, -, hfiles⟩ := Directory.file?_of_write hsave
    refine ⟨folder, name, hresolve, ?_⟩
    by_contra hother
    rw [hfiles, if_neg hother] at h
    exact h rfl

/-- The canonical document stands for the automaton in everything that jobs show. -/
theorem formatted_of_save (p : Text.Palette) (hload : d.load 0 file = .ok g)
    (hsave : d.save target g = .ok e) : Formatted p d e file target := by
  have hg := Directory.consistent_of_load hload
  obtain ⟨b, hagain, hsnapshot, hsame⟩ := Directory.exists_load_of_save hg hsave 0
  rw [Directory.atRest_of_load hload] at hsnapshot
  have hb := Directory.consistent_of_load hagain
  obtain ⟨hsummary, hshown⟩ := hg.display_alike hb hsnapshot
  constructor
  · exact ⟨g, hload, Directory.read_of_write hsave⟩
  · have hrewrite : e.save target b = .ok e := by
      rw [Directory.save, hsame, Directory.write_of_write hsave]
      exact hsave
    exact (formatting_of_load p hagain).2 e hrewrite
  · intro events traced
    refine ⟨ran p (g.run events) traced, reading_of_load hload, ?_⟩
    rw [← (hg.run_alike hb (congrArg Snapshot.atRest hsnapshot) events).2 traced]
    exact reading_of_load hagain
  · intro json
    refine ⟨⟨shown g json, true⟩, reading_of_load hload, ?_⟩
    rw [← hshown json]
    exact reading_of_load hagain
  · refine ⟨g.summary, reading_of_load hload, ?_⟩
    rw [← hsummary]
    exact reading_of_load hagain

/-- Jobs and files.  Only formatting changes a file, and only its target; if the automaton cannot be
loaded or the target cannot be written it changes nothing.  Where it succeeds, the target holds the
canonical document of the automaton, and from then on it stands for the file as that was before: it
is checked, displayed and run alike, and formatting it once more leaves it as it is. -/
theorem execute_correct (p : Text.Palette) (d : Directory) :
    (∀ job, (∀ file output, job ≠ .format file output) → (execute p d job).2 = d) ∧
    ∀ file output,
      (∀ path, (execute p d (.format file output)).2.file? path ≠ d.file? path →
        ∃ folder name, d.resolve (output.getD file) = .ok (.file folder name false) ∧
          path = folder ++ name) ∧
      (∀ cause, d.load 0 file = .error cause →
        execute p d (.format file output) = (.error (.load cause), d)) ∧
      (∀ g fault, d.load 0 file = .ok g → d.save (output.getD file) g = .error fault →
        execute p d (.format file output) = (.error (.write fault), d)) ∧
      ∀ result e, execute p d (.format file output) = (.ok result, e) →
        Formatted p d e file (output.getD file) := by
  refine ⟨fun job => execute_snd_of_reading p d, fun file output => ⟨?_, ?_, ?_, ?_⟩⟩
  · exact fun path => file?_formatting
  · intro cause hload
    simp only [execute, formatting, hload]
  · intro g fault hload hsave
    exact (formatting_of_load p hload).1 fault hsave
  · intro result e h
    obtain ⟨g, hload, hsave⟩ := formatting_eq_ok h
    exact formatted_of_save p hload hsave

/-- A directory with one document, which holds a comment and is not in the canonical order. -/
def loopDirectory : Directory := ⟨[("a.fsa", Document.encode Graph.commentedLoop)]⟩

/-- The document is formatted in place. -/
theorem execute_correct_loopDirectory : ∃ result e,
    execute ⟨false⟩ loopDirectory (.format "a.fsa" none) = (.ok result, e) ∧
    Formatted ⟨false⟩ loopDirectory e "a.fsa" "a.fsa" := by
  have hok : (execute ⟨false⟩ loopDirectory (.format "a.fsa" none)).1.toBool = true := by
    decide +kernel
  cases hresult : (execute ⟨false⟩ loopDirectory (.format "a.fsa" none)).1 with
  | error error => simp [hresult, Except.toBool] at hok
  | ok result =>
    have hdone : execute ⟨false⟩ loopDirectory (.format "a.fsa" none) =
        (.ok result, (execute ⟨false⟩ loopDirectory (.format "a.fsa" none)).2) :=
      Prod.ext hresult rfl
    obtain ⟨-, hformat⟩ := execute_correct ⟨false⟩ loopDirectory
    obtain ⟨-, -, -, hformatted⟩ := hformat "a.fsa" none
    exact ⟨result, _, hdone, hformatted result _ hdone⟩

end NfaWorkbench.Job
