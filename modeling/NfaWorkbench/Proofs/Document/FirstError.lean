import Mathlib.Control.Monad.Basic
import NfaWorkbench.Proofs.Document.Reading
set_option autoImplicit false

/-!
# Documents: the first error

The error of a reader is that of the first wrong line: the lines before it are read without an error,
and nothing that stands after it makes a difference.  The line splitter does not look ahead either:
what follows a line feed is split as if it stood alone (`lines_firstLines_append`).
-/

namespace NfaWorkbench

namespace Document

/-- The bytes of the first lines of a document, line ends included; all its bytes if it has no more
lines. -/
def firstLines : (count : Nat) → List UInt8 → List UInt8
  | 0, _ => []
  | _ + 1, [] => []
  | count + 1, b :: rest =>
    if b = lineFeed then b :: firstLines count rest else b :: firstLines (count + 1) rest

/-- The first line takes its line feed along. -/
theorem firstLines_append {line : List UInt8} (h : lineFeed ∉ line) (count : Nat)
    (rest : List UInt8) :
    firstLines (count + 1) (line ++ lineFeed :: rest) =
      line ++ lineFeed :: firstLines count rest := by
  induction line with
  | nil => simp [firstLines]
  | cons b line ih =>
    obtain ⟨hb, hline⟩ := not_or.1 (fun hor => h (List.mem_cons.2 hor))
    rw [List.cons_append, firstLines, if_neg (Ne.symm hb), ih hline, List.cons_append]

/-- Lines that are ended are the same lines whatever follows them. -/
theorem lines_firstLines_append {count : Nat} {bytes : List UInt8}
    (h : count ≤ bytes.count lineFeed) (more : List UInt8) :
    lines (firstLines count bytes ++ more) = (lines bytes).take count ++ lines more := by
  induction bytes using lines_induction generalizing count with
  | unended line hline =>
    rw [List.count_eq_zero.2 hline, Nat.le_zero] at h
    simp [h, firstLines]
  | ended line rest hline ih =>
    cases count with
    | zero => simp [firstLines]
    | succ count =>
      rw [List.count_append, List.count_eq_zero.2 hline, List.count_cons_self, Nat.zero_add] at h
      rw [firstLines_append hline, List.append_assoc, List.cons_append, lines_append hline,
        ih (Nat.le_of_succ_le_succ h), lines_append hline, List.take_succ_cons, List.cons_append]

/-- All lines but the last are ended. -/
theorem length_lines_le (bytes : List UInt8) :
    (lines bytes).length ≤ bytes.count lineFeed + 1 := by
  induction bytes using lines_induction with
  | unended line hline =>
    by_cases hne : line = []
    · simp [hne, lines, splitLines]
    · simp [lines_of_not_mem hne hline]
  | ended line rest hline ih =>
    rw [lines_append hline, List.length_cons, List.count_append, List.count_cons_self]
    omega

end Document

namespace Graph

variable {g k : Graph} {number owner : Nat} {bytes : List UInt8} {error : ReadError}

/-- Lines are read one after another. -/
theorem readLines_append_eq {before after : List (List UInt8)}
    (hbefore : g.readLines number before = .ok k) :
    g.readLines number (before ++ after) = k.readLines (number + before.length) after := by
  induction before generalizing g number with
  | nil =>
    obtain rfl := Except.ok.inj hbefore
    rfl
  | cons line before ih =>
    obtain ⟨next, hline, hrest⟩ := readLines_cons_eq_ok_iff.1 hbefore
    rw [List.cons_append, readLines, hline]
    simp only [ih hrest, List.length_cons]
    congr 1
    omega

/-- Reading some lines fails at the first line that fails after those before it. -/
theorem readLines_eq_error_iff {lines : List (List UInt8)} :
    g.readLines number lines = .error error ↔ ∃ before line after k fault,
      lines = before ++ line :: after ∧ g.readLines number before = .ok k ∧
        k.readLine line = .error fault ∧ error = .line (number + before.length) fault := by
  constructor
  · intro h
    induction lines generalizing g number with
    | nil => nomatch h
    | cons line rest ih =>
      rw [readLines] at h
      split at h
      · rename_i fault hline
        exact ⟨[], line, rest, g, fault, rfl, rfl, hline, (Except.error.inj h).symm⟩
      · rename_i next hline
        obtain ⟨before, wrong, after, k, fault, rfl, hbefore, hwrong, rfl⟩ := ih h
        refine ⟨line :: before, wrong, after, k, fault, rfl, ?_, hwrong, ?_⟩
        · exact readLines_cons_eq_ok_iff.2 ⟨next, hline, hbefore⟩
        · rw [List.length_cons, Nat.add_assoc, Nat.add_comm 1]
  · intro hgiven
    obtain ⟨before, line, after, k, fault, rfl, hbefore, hline, rfl⟩ := hgiven
    rw [readLines_append_eq hbefore, readLines, hline]

/-- A document that is delivered whole is read line by line. -/
theorem read_bytes (owner : Nat) (bytes : List UInt8) :
    read owner { bytes } = (empty owner).readLines 1 (Document.lines bytes) := by
  have hlines : Source.lines { bytes } = Document.lines bytes := rfl
  rw [read, hlines]
  cases (empty owner).readLines 1 (Document.lines bytes) <;> rfl

theorem read_bytes_eq_error_iff : read owner { bytes } = .error error ↔
    (empty owner).readLines 1 (Document.lines bytes) = .error error := by
  rw [read_bytes]

/-- The reader gives the first error there is.  It carries the number of a line, counted among all
lines, and is what that line is refused for by the graph of the lines before it, which are read
without an error.  If the line is ended, the error is the same whatever follows it. -/
theorem read_first_error (h : read owner { bytes } = .error error) :
    ∃ n, error.lineNumber? = some n ∧ 1 ≤ n ∧ n ≤ (Document.lines bytes).length ∧
      (∃ g line fault, read owner { bytes := Document.firstLines (n - 1) bytes } = .ok g ∧
        (Document.lines bytes)[n - 1]? = some line ∧ g.readLine line = .error fault ∧
        error = .line n fault) ∧
      (n ≤ bytes.count Document.lineFeed → ∀ more,
        read owner { bytes := Document.firstLines n bytes ++ more } = .error error) := by
  obtain ⟨before, line, after, g, fault, hlines, hbefore, hline, rfl⟩ :=
    readLines_eq_error_iff.1 (read_bytes_eq_error_iff.1 h)
  have htake : (Document.lines bytes).take before.length = before := by simp [hlines]
  have hthrough : (Document.lines bytes).take (1 + before.length) = before ++ [line] := by
    rw [hlines, Nat.add_comm, List.take_length_add_append]
    rfl
  have hended : before.length ≤ bytes.count Document.lineFeed := by
    have hlength := Document.length_lines_le bytes
    rw [hlines, List.length_append, List.length_cons] at hlength
    omega
  refine ⟨1 + before.length, rfl, Nat.le_add_right _ _, ?_,
    ⟨g, line, fault, ?_, ?_, hline, rfl⟩, ?_⟩
  · rw [hlines, List.length_append, List.length_cons]
    omega
  · have hsplit := Document.lines_firstLines_append hended []
    rw [List.append_nil, htake] at hsplit
    rw [Nat.add_sub_cancel_left, read_bytes_eq_ok_iff, hsplit]
    exact (congrArg _ (List.append_nil before)).trans hbefore
  · rw [Nat.add_sub_cancel_left, hlines, List.getElem?_append_right (Nat.le_refl _), Nat.sub_self]
    rfl
  · intro hcount more
    rw [read_bytes_eq_error_iff, Document.lines_firstLines_append hcount, hthrough,
      List.append_assoc]
    exact readLines_eq_error_iff.2
      ⟨before, line, Document.lines more, g, fault, rfl, hbefore, hline, rfl⟩

/-- A document whose fourth line, the second that is not ignored, names a state that only the line
after it declares. -/
def lateState : String := "state a 0 0\n\n# too early\r\nfinal b \nstate b 0 0"

theorem read_first_error_lateState :
    read 0 (.ofText lateState) = .error (.line 4 (.undeclaredState "b")) ∧
    (∃ g, read 0 { bytes := Document.firstLines 3 (Document.encode lateState) } = .ok g) ∧
    ∀ more, read 0 { bytes := Document.firstLines 4 (Document.encode lateState) ++ more } =
      .error (.line 4 (.undeclaredState "b")) := by
  -- Errors can be compared, graphs cannot.
  have hgiven : (read 0 (.ofText lateState)).map (fun _ => ()) =
      .error (.line 4 (.undeclaredState "b")) := by decide +kernel
  have herror : read 0 (.ofText lateState) = .error (.line 4 (.undeclaredState "b")) := by
    cases hread : read 0 (.ofText lateState) with
    | error error =>
      rw [hread] at hgiven
      exact congrArg Except.error (Except.error.inj hgiven)
    | ok g => simp [hread, Except.map] at hgiven
  obtain ⟨n, hn, _, _, ⟨g, line, fault, hbefore, _⟩, hafter⟩ :=
    read_first_error herror
  obtain rfl : 4 = n := Option.some.inj hn
  exact ⟨herror, ⟨g, hbefore⟩, hafter (by decide +kernel)⟩

end Graph

end NfaWorkbench
