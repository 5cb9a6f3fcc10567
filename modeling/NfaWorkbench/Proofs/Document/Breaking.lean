import NfaWorkbench.Document.Inflow
import NfaWorkbench.Proofs.Document.Layout
set_option autoImplicit false

/-!
# Documents: sources that break off

Reading in portions is reading the source as a whole (`readInflow_eq_read`).  A source that breaks
off is never read to an end: its whole lines are read as if they were all, and only if they are
right is the failure reported.  What was delivered of one more line makes no difference.
-/

namespace NfaWorkbench

open Document

namespace Document

variable {bytes line rest : List UInt8}

/-- The lines that are ended, with their line ends. -/
def wholeLines (bytes : List UInt8) : List UInt8 := firstLines (bytes.count lineFeed) bytes

theorem firstLines_zero (bytes : List UInt8) : firstLines 0 bytes = [] := by
  cases bytes <;> rfl

theorem wholeLines_of_not_mem (h : lineFeed ∉ line) : wholeLines line = [] := by
  rw [wholeLines, List.count_eq_zero.2 h, firstLines_zero]

theorem wholeLines_append (h : lineFeed ∉ line) (rest : List UInt8) :
    wholeLines (line ++ lineFeed :: rest) = line ++ lineFeed :: wholeLines rest := by
  rw [wholeLines, List.count_append, List.count_eq_zero.2 h, List.count_cons_self, Nat.zero_add,
    firstLines_append h]
  rfl

/-- Whole lines are a prefix that ends with a line feed, if it is not empty, and no line is ended in
what follows. -/
theorem exists_wholeLines_append (bytes : List UInt8) :
    ∃ rest, bytes = wholeLines bytes ++ rest ∧ lineFeed ∉ rest ∧
      ∀ last ∈ (wholeLines bytes).getLast?, last = lineFeed := by
  induction bytes using lines_induction with
  | unended line hline =>
    rw [wholeLines_of_not_mem hline]
    exact ⟨line, rfl, hline, by simp⟩
  | ended line rest hline ih =>
    obtain ⟨last, hrest, hlast, hfeed⟩ := ih
    rw [wholeLines_append hline]
    refine ⟨last, ?_, hlast, fun b hb => ?_⟩
    · rw [List.append_assoc, List.cons_append, ← hrest]
    · rw [List.getLast?_append, List.getLast?_cons] at hb
      cases hwhole : (wholeLines rest).getLast? with
      | none =>
        obtain rfl : lineFeed = b := by simpa [hwhole] using hb
        rfl
      | some found =>
        obtain rfl : found = b := by simpa [hwhole] using hb
        exact hfeed found hwhole

theorem wholeLines_wholeLines_append (bytes : List UInt8) (hrest : lineFeed ∉ rest) :
    wholeLines (wholeLines bytes ++ rest) = wholeLines bytes := by
  induction bytes using lines_induction with
  | unended line hline =>
    rw [wholeLines_of_not_mem hline, List.nil_append, wholeLines_of_not_mem hrest]
  | ended line more hline ih =>
    rw [wholeLines_append hline, List.append_assoc, List.cons_append, wholeLines_append hline, ih]

theorem splitLines_fst (bytes : List UInt8) : (splitLines bytes).1 = lines (wholeLines bytes) := by
  induction bytes using lines_induction with
  | unended line hline =>
    rw [wholeLines_of_not_mem hline, splitLines,
      Text.pieces_of_forall_not (not_sep_of_lineFeed_not_mem hline)]
    rfl
  | ended line rest hline ih =>
    rw [splitLines_append hline, wholeLines_append hline, lines_append hline, ih]

end Document

namespace Source

/-- The first line of a source is the same whether the source ends or breaks off. -/
theorem lines_append {line : List UInt8} (h : lineFeed ∉ line) (rest : List UInt8)
    (failure : Option SourceFailure) :
    lines ⟨line ++ lineFeed :: rest, failure⟩ =
      dropCarriageReturn line :: lines ⟨rest, failure⟩ := by
  cases failure with
  | none => exact Document.lines_append h rest
  | some failure => simp only [lines, splitLines_append h]

theorem lines_of_not_mem {line : List UInt8} (h : lineFeed ∉ line) (failure : SourceFailure) :
    lines ⟨line, some failure⟩ = [] := by
  rw [lines, splitLines_fst, wholeLines_of_not_mem h]
  rfl

end Source

namespace Graph

variable {g : Graph} {s : Inflow} {failure : SourceFailure}

/-! ## Reading in portions -/

/-- What is left to do when the lines of a source have been read. -/
def conclude (failure : Option SourceFailure) (number : Nat) (g : Graph) : Except ReadError Graph :=
  match failure with
  | none => .ok g
  | some failure => .error (breakError number failure)

theorem read_eq_bind (owner : Nat) (s : Source) : read owner s =
    ((empty owner).readLines 1 s.lines).bind (conclude s.failure (s.lines.length + 1)) := by
  rw [read]
  cases (empty owner).readLines 1 s.lines <;> rfl

/-- Lines that are taken one after another are the lines of the source as a whole. -/
theorem readInflow_eq_bind (g : Graph) (number : Nat) (s : Inflow) :
    g.readInflow number s = (g.readLines number s.source.lines).bind
      (conclude s.failure (number + s.source.lines.length)) := by
  induction hbytes : s.bytes using lines_induction generalizing g number s with
  | unended line hline =>
    have hfetch := s.fetch_of_not_mem (hbytes ▸ hline)
    rw [Inflow.source, hbytes]
    cases hfailure : s.failure with
    | none =>
      rw [hfailure, hbytes] at hfetch
      have hlines : Source.lines ⟨line, none⟩ = if line = [] then [] else [line] := by
        split
        · simp_all [Source.lines, Document.lines, splitLines]
        · exact lines_of_not_mem ‹_› hline
      rw [readInflow_of_ended hfetch, hlines]
      cases g.readLines number (if line = [] then [] else [line]) <;> rfl
    | some failure =>
      rw [hfailure] at hfetch
      rw [readInflow_of_failed hfetch, Source.lines_of_not_mem hline]
      rfl
  | ended line rest hline ih =>
    obtain ⟨later, hfetch, hrest, hfailure⟩ := s.exists_fetch hline hbytes
    have hlines : s.source.lines = dropCarriageReturn line :: later.source.lines := by
      rw [Inflow.source, hbytes, Source.lines_append hline, ← hrest, ← hfailure, Inflow.source]
    rw [readInflow_of_line hfetch, hlines, readLines]
    cases g.readLine (dropCarriageReturn line) with
    | error fault => rfl
    | ok next =>
      simp only [ih next (number + 1) later hrest, hfailure, List.length_cons]
      rw [Nat.add_right_comm, ← Nat.add_assoc]

/-- It makes no difference in which portions a source is read. -/
theorem readInflow_eq_read (owner : Nat) (s : Inflow) :
    (empty owner).readInflow 1 s = read owner s.source := by
  rw [readInflow_eq_bind, read_eq_bind, Nat.add_comm]
  rfl

/-! ## Sources that break off -/

theorem read_broken (owner : Nat) (bytes : List UInt8) (failure : SourceFailure) :
    read owner ⟨bytes, some failure⟩ = (read owner { bytes := wholeLines bytes }).bind
      (conclude (some failure) ((Document.lines (wholeLines bytes)).length + 1)) := by
  rw [read_eq_bind, read_bytes]
  simp only [Source.lines, splitLines_fst]

/-- A source that breaks off after some bytes of a document.  Its whole lines are the bytes up to the
last line feed.  Reading it never succeeds, in whatever portions it delivers the bytes.  The error is
that of its whole lines, if they are wrong; else it is the failure of the source, under the number of
the next line if the source says that its bytes are no text, and without a number otherwise.  The
bytes behind the last line feed make no difference. -/
theorem readInflow_broken {bytes : List UInt8} {n : Nat} (hbytes : s.bytes = bytes.take n)
    (hfailure : s.failure = some failure) (owner : Nat) :
    (∃ rest, bytes.take n = wholeLines (bytes.take n) ++ rest ∧ lineFeed ∉ rest ∧
      ∀ last ∈ (wholeLines (bytes.take n)).getLast?, last = lineFeed) ∧
    read owner (.breakAfter { bytes } n failure) = (empty owner).readInflow 1 s ∧
    (∀ g, (empty owner).readInflow 1 s ≠ .ok g) ∧
    (∀ error, read owner { bytes := wholeLines (bytes.take n) } = .error error →
      (empty owner).readInflow 1 s = .error error) ∧
    (∀ g, read owner { bytes := wholeLines (bytes.take n) } = .ok g →
      (failure = .notText → (empty owner).readInflow 1 s =
        .error (.line ((Document.lines (wholeLines (bytes.take n))).length + 1)
          .invalidEncoding)) ∧
      ∀ fault, failure = .fault fault →
        (empty owner).readInflow 1 s = .error (.source fault)) ∧
    ∀ t : Inflow, t.failure = some failure →
      (∃ rest, t.bytes = wholeLines (bytes.take n) ++ rest ∧ lineFeed ∉ rest) →
      (empty owner).readInflow 1 t = (empty owner).readInflow 1 s := by
  have hsource : s.source = ⟨bytes.take n, some failure⟩ := by rw [Inflow.source, hbytes, hfailure]
  have hread := readInflow_eq_read owner s
  rw [hsource, read_broken] at hread
  refine ⟨exists_wholeLines_append _, ?_, ?_, ?_, ?_, ?_⟩
  · rw [hread, ← read_broken]
    rfl
  · intro g
    rw [hread]
    cases read owner { bytes := wholeLines (bytes.take n) } <;> simp [Except.bind, conclude]
  · intro error herror
    rw [hread, herror]
    rfl
  · intro g hg
    rw [hread, hg]
    constructor
    · rintro rfl
      rfl
    · rintro fault rfl
      rfl
  · rintro t hfailure ⟨rest, hrest, hfeed⟩
    rw [readInflow_eq_read, Inflow.source, hfailure, hrest, read_broken,
      wholeLines_wholeLines_append _ hfeed, hread]

/-- A document that is cut inside of its second name. -/
def cutDocument : String := "state a 0 0\r\nstate é 0 0\n"

/-- Its first twenty bytes.  A portion ends between the two bytes of the line end, and the last byte
is the first of two. -/
def cutInflow (failure : SourceFailure) : Inflow where
  arrivals := [.bytes 115 (encode "tate a 0 0\r"), .interrupted,
    .bytes lineFeed (encode "state " ++ [195])]
  failure := some failure

/-- The first line is right, and the second is never looked at. -/
theorem readInflow_broken_cutInflow :
    (∀ failure, (cutInflow failure).bytes = (encode cutDocument).take 20) ∧
    (empty 0).readInflow 1 (cutInflow .notText) = .error (.line 2 .invalidEncoding) ∧
    (empty 0).readInflow 1 (cutInflow (.fault (.stream "gone"))) =
      .error (.source (.stream "gone")) := by
  have hbytes : ∀ failure, (cutInflow failure).bytes = (encode cutDocument).take 20 := by
    have hdelivered : (cutInflow .notText).bytes = (encode cutDocument).take 20 := by
      decide +kernel
    exact fun failure => hdelivered
  have hright : (read 0 { bytes := wholeLines ((encode cutDocument).take 20) }).toBool = true := by
    decide +kernel
  have hlines : (Document.lines (wholeLines ((encode cutDocument).take 20))).length = 1 := by
    decide +kernel
  cases hread : read 0 { bytes := wholeLines ((encode cutDocument).take 20) } with
  | error error => simp [hread, Except.toBool] at hright
  | ok g =>
    obtain ⟨-, -, -, -, hnotText, -⟩ := readInflow_broken (hbytes .notText) rfl 0
    obtain ⟨-, -, -, -, hfault, -⟩ := readInflow_broken (hbytes (.fault (.stream "gone"))) rfl 0
    refine ⟨hbytes, ?_, (hfault g hread).2 _ rfl⟩
    rw [(hnotText g hread).1 rfl, hlines]

end Graph

end NfaWorkbench
