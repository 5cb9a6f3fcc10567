import NfaWorkbench.Document.Lines
set_option autoImplicit false

/-!
# Documents: what the lines are

`Lines` says what the lines of a document are without saying how they are found: a document is taken
apart from its front, a line and its line end at a time.  Every document has exactly one list of
lines, and `lines` computes it.
-/

namespace NfaWorkbench.Document

/-- The lines of a document. -/
inductive Lines : List UInt8 → List (List UInt8) → Prop
  | nil : Lines [] []
  /-- What follows the last line feed is a line unless it is empty. -/
  | unended {line : List UInt8} (hne : line ≠ []) (hline : lineFeed ∉ line) : Lines line [line]
  /-- A line is ended by a line feed. -/
  | ended {line rest : List UInt8} {ls : List (List UInt8)} (hline : lineFeed ∉ line)
      (hreturn : line.getLast? ≠ some carriageReturn) (hrest : Lines rest ls) :
      Lines (line ++ lineFeed :: rest) (line :: ls)
  /-- One carriage return before the line feed is no part of the line. -/
  | endedByBoth {line rest : List UInt8} {ls : List (List UInt8)} (hline : lineFeed ∉ line)
      (hrest : Lines rest ls) : Lines (line ++ carriageReturn :: lineFeed :: rest) (line :: ls)

/-! ## Taking one line off -/

theorem not_sep_of_lineFeed_not_mem {line : List UInt8} (h : lineFeed ∉ line) :
    ∀ b ∈ line, (b == lineFeed) = false := by
  intro b hb
  rw [beq_eq_false_iff_ne]
  rintro rfl
  exact h hb

theorem lines_of_not_mem {line : List UInt8} (hne : line ≠ []) (h : lineFeed ∉ line) :
    lines line = [line] := by
  have hpieces := Text.pieces_of_forall_not (not_sep_of_lineFeed_not_mem h)
  simp [lines, splitLines, hpieces, hne]

/-- The first line feed ends the first line. -/
theorem splitLines_append {line : List UInt8} (h : lineFeed ∉ line) (rest : List UInt8) :
    splitLines (line ++ lineFeed :: rest) =
      (dropCarriageReturn line :: (splitLines rest).1, (splitLines rest).2) := by
  have hpieces : Text.pieces (· == lineFeed) (line ++ lineFeed :: rest) =
      line :: Text.pieces (· == lineFeed) rest := by
    rw [Text.pieces_append_sep (by simp), Text.pieces_of_forall_not (not_sep_of_lineFeed_not_mem h)]
    rfl
  have hne := Text.pieces_ne_nil (· == lineFeed) rest
  simp only [splitLines, hpieces, List.dropLast_cons_of_ne_nil hne, List.map_cons]
  cases hrest : Text.pieces (· == lineFeed) rest with
  | nil => exact absurd hrest hne
  | cons piece others => rfl

theorem lines_append {line : List UInt8} (h : lineFeed ∉ line) (rest : List UInt8) :
    lines (line ++ lineFeed :: rest) = dropCarriageReturn line :: lines rest := by
  simp only [lines, splitLines_append h]
  split <;> rfl

theorem dropCarriageReturn_of_ne {line : List UInt8} (h : line.getLast? ≠ some carriageReturn) :
    dropCarriageReturn line = line := if_neg h

theorem dropCarriageReturn_append (line : List UInt8) :
    dropCarriageReturn (line ++ [carriageReturn]) = line := by
  simp [dropCarriageReturn]

/-- A document is a line without a line end, or a line feed ends its first line. -/
@[elab_as_elim]
theorem lines_induction {motive : List UInt8 → Prop}
    (unended : ∀ line, lineFeed ∉ line → motive line)
    (ended : ∀ line rest, lineFeed ∉ line → motive rest → motive (line ++ lineFeed :: rest))
    (bytes : List UInt8) : motive bytes := by
  -- The induction is on the length: what is left after one line is shorter.
  induction hn : bytes.length using Nat.strongRecOn generalizing bytes with
  | ind n ih =>
    subst hn
    by_cases hmem : lineFeed ∈ bytes
    · obtain ⟨line, rest, rfl, hline⟩ := List.eq_append_cons_of_mem hmem
      exact ended line rest hline (ih rest.length (by simp; omega) rest rfl)
    · exact unended bytes hmem

/-! ## The lines are those that are computed -/

theorem Lines.lines_eq {bytes : List UInt8} {ls : List (List UInt8)} (h : Lines bytes ls) :
    Document.lines bytes = ls := by
  induction h with
  | nil => rfl
  | unended hne hline => exact lines_of_not_mem hne hline
  | ended hline hreturn _ ih => rw [lines_append hline, dropCarriageReturn_of_ne hreturn, ih]
  | @endedByBoth line rest ls hline _ ih =>
    have hline' : lineFeed ∉ line ++ [carriageReturn] := by
      simpa [hline] using (show lineFeed ≠ carriageReturn by decide)
    have hcut := lines_append hline' rest
    rw [dropCarriageReturn_append, ih, List.append_assoc] at hcut
    exact hcut

theorem lines_lines (bytes : List UInt8) : Lines bytes (lines bytes) := by
  induction bytes using lines_induction with
  | unended line hline =>
    by_cases hne : line = []
    · subst hne
      exact .nil
    · rw [lines_of_not_mem hne hline]
      exact .unended hne hline
  | ended line rest hline hrest =>
    rw [lines_append hline]
    by_cases hreturn : line.getLast? = some carriageReturn
    · obtain ⟨front, rfl⟩ := List.getLast?_eq_some_iff.1 hreturn
      have hfront : lineFeed ∉ front := fun h => hline (List.mem_append_left _ h)
      rw [dropCarriageReturn_append, List.append_assoc]
      exact .endedByBoth hfront hrest
    · rw [dropCarriageReturn_of_ne hreturn]
      exact .ended hline hreturn hrest

/-- Every document has one list of lines, the computed one. -/
theorem lines_iff {bytes : List UInt8} {ls : List (List UInt8)} :
    Lines bytes ls ↔ lines bytes = ls := by
  constructor
  · exact Lines.lines_eq
  · rintro rfl
    exact lines_lines bytes

end NfaWorkbench.Document
