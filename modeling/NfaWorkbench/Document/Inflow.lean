import Mathlib.Data.List.TakeWhile
import NfaWorkbench.Document.Reader
set_option autoImplicit false

/-!
# Documents: reading in portions

A source hands out its bytes in portions, and where it cuts them has nothing to do with lines.  The
reader keeps what no line has taken yet, and asks for more when it finds no line feed there.  A call
that was interrupted is made again.  When nothing comes any more the source has ended, or it has
broken off; then what there is of a line is dropped.

Main statements: which line is taken depends on the bytes alone, not on the portions
(`exists_fetch`, `fetch_of_not_mem`).
-/

namespace NfaWorkbench

/-- What comes of asking a source for more. -/
inductive Arrival
  /-- Some bytes, one at least. -/
  | bytes (first : UInt8) (others : List UInt8)
  /-- The call was interrupted. -/
  | interrupted
  deriving DecidableEq, Repr

/-- The bytes that came. -/
def Arrival.toList : Arrival → List UInt8
  | bytes first others => first :: others
  | interrupted => []

/-- A source that is read in portions. -/
structure Inflow where
  /-- What has come and was not taken by a line yet. -/
  buffer : List UInt8 := []
  /-- What comes when the reader asks for more. -/
  arrivals : List Arrival
  /-- How the source breaks off after that, if it does not end. -/
  failure : Option SourceFailure
  deriving DecidableEq, Repr

/-- What a reader gets that asks for a line. -/
inductive Fetched
  /-- A line, without its line feed, and what follows it. -/
  | line (bytes : List UInt8) (rest : Inflow)
  /-- The source has ended; these bytes are the last ones. -/
  | ended (bytes : List UInt8)
  /-- The source has broken off. -/
  | failed (failure : SourceFailure)

namespace Inflow

open Document

/-- All bytes that are still to be read. -/
def bytes (s : Inflow) : List UInt8 := s.buffer ++ s.arrivals.flatMap Arrival.toList

/-- The source as a whole. -/
def source (s : Inflow) : Source := ⟨s.bytes, s.failure⟩

/-- Looks for the end of a line of which some bytes were taken already. -/
def fetchFrom (failure : Option SourceFailure) (taken buffer : List UInt8)
    (arrivals : List Arrival) : Fetched :=
  let front := buffer.takeWhile (· ≠ lineFeed)
  match buffer.dropWhile (· ≠ lineFeed), arrivals with
  | _ :: rest, _ => .line (taken ++ front) ⟨rest, arrivals, failure⟩
  | [], .bytes first others :: later =>
    fetchFrom failure (taken ++ front) (first :: others) later
  | [], .interrupted :: later => fetchFrom failure (taken ++ front) [] later
  | [], [] => match failure with
    | none => .ended (taken ++ front)
    | some failure => .failed failure

/-- Takes one line from a source. -/
def fetch (s : Inflow) : Fetched := fetchFrom s.failure [] s.buffer s.arrivals

/-! ## Which line is taken -/

variable {failure : Option SourceFailure} {taken buffer line more : List UInt8}
  {arrivals later : List Arrival} {s : Inflow}

theorem forall_ne_lineFeed (h : lineFeed ∉ buffer) :
    ∀ b ∈ buffer, (decide (b ≠ lineFeed)) = true := by
  intro b hb
  rw [decide_eq_true_eq]
  rintro rfl
  exact h hb

/-- A line feed in the buffer ends the line. -/
theorem fetchFrom_append (h : lineFeed ∉ line) (more : List UInt8) :
    fetchFrom failure taken (line ++ lineFeed :: more) arrivals =
      .line (taken ++ line) ⟨more, arrivals, failure⟩ := by
  have hall := forall_ne_lineFeed h
  rw [fetchFrom.eq_def, List.takeWhile_append_of_pos hall, List.dropWhile_append_of_pos hall]
  simp

/-- A buffer without a line feed is used up. -/
theorem fetchFrom_of_not_mem (h : lineFeed ∉ buffer) :
    fetchFrom failure taken buffer arrivals = match arrivals with
      | a :: later => fetchFrom failure (taken ++ buffer) a.toList later
      | [] => match failure with
        | none => .ended (taken ++ buffer)
        | some failure => .failed failure := by
  have hall := forall_ne_lineFeed h
  rw [fetchFrom.eq_def, List.takeWhile_eq_self_iff.2 hall, List.dropWhile_eq_nil_iff.2 hall]
  cases arrivals with
  | nil => rfl
  | cons a later => cases a <;> rfl

/-- A line that is ended somewhere in what comes is found. -/
theorem exists_fetchFrom (hline : lineFeed ∉ line)
    (h : buffer ++ arrivals.flatMap Arrival.toList = line ++ lineFeed :: more) :
    ∃ rest : Inflow, fetchFrom failure taken buffer arrivals = .line (taken ++ line) rest ∧
      rest.bytes = more ∧ rest.failure = failure := by
  induction arrivals generalizing taken buffer line with
  | nil =>
    rw [List.flatMap_nil, List.append_nil] at h
    exact ⟨_, by rw [h, fetchFrom_append hline], by simp [bytes], rfl⟩
  | cons a later ih =>
    have hlater : ∀ between, line = buffer ++ between →
        (a :: later).flatMap Arrival.toList = between ++ lineFeed :: more →
        ∃ rest : Inflow, fetchFrom failure taken buffer (a :: later) = .line (taken ++ line) rest ∧
          rest.bytes = more ∧ rest.failure = failure := by
      rintro between rfl hmore
      obtain ⟨hbuffer, hbetween⟩ := not_or.1 (mt List.mem_append.2 hline)
      rw [fetchFrom_of_not_mem hbuffer, ← List.append_assoc]
      exact ih hbetween hmore
    -- The line ends in the buffer, or the buffer is the beginning of it.
    obtain ⟨between, hend, hmore⟩ | ⟨between, hend, hmore⟩ := List.append_eq_append_iff.1 h
    · exact hlater between hend hmore
    · cases between with
      | nil => exact hlater [] (by simpa using hend.symm) hmore.symm
      | cons b between =>
        obtain ⟨rfl, rfl⟩ := List.cons.inj hmore
        exact ⟨_, by rw [hend, fetchFrom_append hline], by simp [bytes], rfl⟩

/-- If no line feed comes any more, the source ends or breaks off. -/
theorem fetchFrom_of_forall_not_mem (h : lineFeed ∉ buffer ++ arrivals.flatMap Arrival.toList) :
    fetchFrom failure taken buffer arrivals = match failure with
      | none => .ended (taken ++ (buffer ++ arrivals.flatMap Arrival.toList))
      | some failure => .failed failure := by
  induction arrivals generalizing taken buffer with
  | nil =>
    rw [List.flatMap_nil, List.append_nil] at h ⊢
    rw [fetchFrom_of_not_mem h]
  | cons a later ih =>
    obtain ⟨hbuffer, hlater⟩ := not_or.1 (mt List.mem_append.2 h)
    rw [fetchFrom_of_not_mem hbuffer]
    simp only [ih hlater, List.flatMap_cons, List.append_assoc]

theorem exists_fetch (hline : lineFeed ∉ line) (h : s.bytes = line ++ lineFeed :: more) :
    ∃ rest : Inflow, s.fetch = .line line rest ∧ rest.bytes = more ∧ rest.failure = s.failure :=
  exists_fetchFrom hline h

theorem fetch_of_not_mem (h : lineFeed ∉ s.bytes) : s.fetch = match s.failure with
    | none => .ended s.bytes
    | some failure => .failed failure :=
  fetchFrom_of_forall_not_mem h

/-- A line that is taken is no longer there. -/
theorem length_bytes_lt {rest : Inflow} (h : s.fetch = .line line rest) :
    rest.bytes.length < s.bytes.length := by
  by_cases hmem : lineFeed ∈ s.bytes
  · obtain ⟨first, more, hbytes, hfirst⟩ := List.eq_append_cons_of_mem hmem
    obtain ⟨others, hfetch, rfl, -⟩ := exists_fetch hfirst hbytes
    obtain ⟨-, rfl⟩ := Fetched.line.inj (h.symm.trans hfetch)
    rw [hbytes, List.length_append, List.length_cons]
    omega
  · rw [fetch_of_not_mem hmem] at h
    split at h <;> simp at h

end Inflow

namespace Graph

/-- The graph after the lines that are taken from a source one after another, the first of which has
the given number. -/
def readInflow (g : Graph) (number : Nat) (s : Inflow) : Except ReadError Graph :=
  match _hfetch : s.fetch with
  | .line line rest => match g.readLine (Document.dropCarriageReturn line) with
    | .error fault => .error (.line number fault)
    | .ok next => next.readInflow (number + 1) rest
  | .ended [] => .ok g
  | .ended line => match g.readLine line with
    | .error fault => .error (.line number fault)
    | .ok next => .ok next
  | .failed failure => .error (breakError number failure)
termination_by s.bytes.length
decreasing_by exact Inflow.length_bytes_lt _hfetch

variable {g : Graph} {number : Nat} {s rest : Inflow} {line : List UInt8}

theorem readInflow_of_line (h : s.fetch = .line line rest) : g.readInflow number s =
    match g.readLine (Document.dropCarriageReturn line) with
    | .error fault => .error (.line number fault)
    | .ok next => next.readInflow (number + 1) rest := by
  rw [readInflow]
  split <;> simp_all

/-- The bytes behind the last line feed are a line too unless there are none. -/
theorem readInflow_of_ended (h : s.fetch = .ended line) : g.readInflow number s =
    g.readLines number (if line = [] then [] else [line]) := by
  rw [readInflow]
  cases hread : g.readLine line with
  | error fault => split <;> simp_all [readLines]
  | ok next => split <;> simp_all [readLines]

theorem readInflow_of_failed {failure : SourceFailure} (h : s.fetch = .failed failure) :
    g.readInflow number s = .error (breakError number failure) := by
  rw [readInflow]
  split <;> simp_all

end Graph

end NfaWorkbench
