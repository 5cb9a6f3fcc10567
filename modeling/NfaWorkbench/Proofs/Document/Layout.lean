import Mathlib.Logic.Relation
import NfaWorkbench.Proofs.Document.Grammar
import NfaWorkbench.Proofs.Document.Refusal
set_option autoImplicit false

/-!
# Documents: layout

The reader does not see which of the two line ends a line has, how many spaces stand at the end of a
line, and whether the last line is ended.  A change of these leaves the number of lines as it is,
and pads lines with spaces at most (`Relaid.forall₂_lines`).  Lines that are ignored change nothing
but the numbers of the lines after them.
-/

namespace NfaWorkbench

namespace Document

/-- The byte of a space. -/
def space : UInt8 := 32

/-- One change of the layout of a document. -/
inductive Relaid : List UInt8 → List UInt8 → Prop
  /-- A line feed gets a carriage return before it. -/
  | lineEnd {before : List UInt8} (after : List UInt8)
      (hreturn : before.getLast? ≠ some carriageReturn) :
      Relaid (before ++ lineFeed :: after) (before ++ carriageReturn :: lineFeed :: after)
  /-- Spaces are added to a line that is ended by a line feed alone. -/
  | spaces {before : List UInt8} (count : Nat) (after : List UInt8)
      (hreturn : before.getLast? ≠ some carriageReturn) :
      Relaid (before ++ lineFeed :: after)
        (before ++ (List.replicate count space ++ lineFeed :: after))
  /-- Spaces are added to a line that is ended by both bytes. -/
  | spacesBeforeReturn (before : List UInt8) (count : Nat) (after : List UInt8) :
      Relaid (before ++ carriageReturn :: lineFeed :: after)
        (before ++ (List.replicate count space ++ carriageReturn :: lineFeed :: after))
  /-- Spaces are added to a last line that is not ended. -/
  | spacesAtEnd {bytes : List UInt8} (count : Nat) (hne : bytes ≠ [])
      (hfeed : bytes.getLast? ≠ some lineFeed) :
      Relaid bytes (bytes ++ List.replicate count space)
  /-- The last line is ended. -/
  | ended {bytes : List UInt8} (hne : bytes ≠ []) (hfeed : bytes.getLast? ≠ some lineFeed)
      (hreturn : bytes.getLast? ≠ some carriageReturn) : Relaid bytes (bytes ++ [lineFeed])

/-- A line with spaces added to it. -/
def Padded (line padded : List UInt8) : Prop :=
  ∃ count, padded = line ++ List.replicate count space

/-- The contents of lines that the reader ignores. -/
inductive Ignorable : List UInt8 → Prop
  | spaces (count : Nat) : Ignorable (List.replicate count space)
  | comment {text : String} (hhead : text.toList.head? = some '#') : Ignorable (encode text)

/-- A place between two lines: the bytes before it end in a line feed, if there are any. -/
def Boundary (before : List UInt8) : Prop := ∀ b ∈ before.getLast?, b = lineFeed

/-! ## Lines on both sides of a place -/

variable {bytes before line : List UInt8}

theorem Boundary.eq_nil (h : Boundary line) (hline : lineFeed ∉ line) : line = [] := by
  rcases line.eq_nil_or_concat' with rfl | ⟨front, last, rfl⟩
  · rfl
  · obtain rfl : last = lineFeed := h last (by simp)
    simp at hline

theorem boundary_append_iff {rest : List UInt8} :
    Boundary (line ++ lineFeed :: rest) ↔ Boundary rest := by
  rcases rest.eq_nil_or_concat' with rfl | ⟨front, last, rfl⟩
  · simp [Boundary]
  · simp [Boundary, List.getLast?_append, List.getLast?_cons]

/-- A place between two lines cuts the lines in two. -/
theorem Boundary.lines_append (h : Boundary before) (after : List UInt8) :
    lines (before ++ after) = lines before ++ lines after := by
  induction before using lines_induction with
  | unended line hline =>
    rw [h.eq_nil hline]
    rfl
  | ended line rest hline ih =>
    rw [List.append_assoc, List.cons_append, Document.lines_append hline,
      ih (boundary_append_iff.1 h), Document.lines_append hline, List.cons_append]

theorem Boundary.length_lines (h : Boundary before) :
    (lines before).length = before.count lineFeed := by
  induction before using lines_induction with
  | unended line hline =>
    rw [h.eq_nil hline]
    rfl
  | ended line rest hline ih =>
    rw [Document.lines_append hline, List.length_cons, ih (boundary_append_iff.1 h),
      List.count_append, List.count_eq_zero.2 hline, List.count_cons_self, Nat.zero_add]

/-- The bytes before any place are whole lines and the beginning of one more. -/
theorem exists_boundary (bytes : List UInt8) :
    ∃ front line, bytes = front ++ line ∧ Boundary front ∧ lineFeed ∉ line := by
  induction bytes using lines_induction with
  | unended line hline => exact ⟨[], line, rfl, by simp [Boundary], hline⟩
  | ended line rest hline ih =>
    obtain ⟨front, last, rfl, hfront, hlast⟩ := ih
    exact ⟨line ++ lineFeed :: front, last, by simp, boundary_append_iff.2 hfront, hlast⟩

/-- A document that does not end in a line feed is whole lines and one that is not ended. -/
theorem exists_unended (hne : bytes ≠ []) (hfeed : bytes.getLast? ≠ some lineFeed) :
    ∃ front line, bytes = front ++ line ∧ Boundary front ∧ lineFeed ∉ line ∧ line ≠ [] := by
  obtain ⟨front, line, rfl, hfront, hline⟩ := exists_boundary bytes
  refine ⟨front, line, rfl, hfront, hline, ?_⟩
  rintro rfl
  rw [List.append_nil] at hne hfeed
  obtain ⟨last, hlast⟩ := Option.ne_none_iff_exists'.1 (mt List.getLast?_eq_none_iff.1 hne)
  exact hfeed (hfront last hlast ▸ hlast)

/-! ## A change of layout, line by line -/

theorem Padded.refl (line : List UInt8) : Padded line line := ⟨0, by simp⟩

theorem forall₂_padded_refl (ls : List (List UInt8)) : List.Forall₂ Padded ls ls :=
  List.forall₂_same.2 fun line _ => .refl line

theorem lineFeed_not_mem_append_return (hline : lineFeed ∉ line) :
    lineFeed ∉ line ++ [carriageReturn] := by
  simpa [hline] using (show lineFeed ≠ carriageReturn by decide)

theorem lineFeed_not_mem_append_spaces (hline : lineFeed ∉ line) (count : Nat) :
    lineFeed ∉ line ++ List.replicate count space := by
  have hspace : lineFeed ≠ space := by decide
  simp [hline, List.mem_replicate, hspace]

/-- The end of a line is the end of the bytes up to it. -/
theorem getLast?_ne_of_append {front : List UInt8} {b : UInt8}
    (h : (front ++ line).getLast? ≠ some b) : line.getLast? ≠ some b := by
  intro hline
  exact h (by simp [hline])

/-- Spaces at the end of a line are part of it. -/
theorem dropCarriageReturn_append_replicate (hreturn : line.getLast? ≠ some carriageReturn)
    (count : Nat) : dropCarriageReturn (line ++ List.replicate count space) =
      line ++ List.replicate count space := by
  refine dropCarriageReturn_of_ne ?_
  cases count with
  | zero => simpa using hreturn
  | succ count => simp [List.replicate_succ', ← List.append_assoc, space, carriageReturn]

/-- A line that is changed up to its line feed pads the lines if what is read of it is padded. -/
theorem Boundary.forall₂_lines (h : Boundary before) {line' : List UInt8} (hline : lineFeed ∉ line)
    (hline' : lineFeed ∉ line')
    (hpadded : Padded (dropCarriageReturn line) (dropCarriageReturn line')) (after : List UInt8) :
    List.Forall₂ Padded (lines (before ++ (line ++ lineFeed :: after)))
      (lines (before ++ (line' ++ lineFeed :: after))) := by
  rw [h.lines_append, h.lines_append, Document.lines_append hline, Document.lines_append hline']
  exact List.rel_append (forall₂_padded_refl _) (.cons hpadded (forall₂_padded_refl _))

/-- After a change of layout there are as many lines, one of them padded at most. -/
theorem Relaid.forall₂_lines {bytes' : List UInt8} (h : Relaid bytes bytes') :
    List.Forall₂ Padded (lines bytes) (lines bytes') := by
  cases h with
  | @lineEnd before after hreturn =>
    obtain ⟨front, line, rfl, hfront, hline⟩ := exists_boundary before
    have hsame : Padded (dropCarriageReturn line)
        (dropCarriageReturn (line ++ [carriageReturn])) := by
      rw [dropCarriageReturn_of_ne (getLast?_ne_of_append hreturn), dropCarriageReturn_append]
      exact .refl line
    simpa using hfront.forall₂_lines hline (lineFeed_not_mem_append_return hline) hsame after
  | @spaces before count after hreturn =>
    obtain ⟨front, line, rfl, hfront, hline⟩ := exists_boundary before
    have hmore : Padded (dropCarriageReturn line)
        (dropCarriageReturn (line ++ List.replicate count space)) := by
      rw [dropCarriageReturn_of_ne (getLast?_ne_of_append hreturn),
        dropCarriageReturn_append_replicate (getLast?_ne_of_append hreturn)]
      exact ⟨count, rfl⟩
    simpa using
      hfront.forall₂_lines hline (lineFeed_not_mem_append_spaces hline count) hmore after
  | spacesBeforeReturn before count after =>
    obtain ⟨front, line, rfl, hfront, hline⟩ := exists_boundary before
    have hmore : Padded (dropCarriageReturn (line ++ [carriageReturn]))
        (dropCarriageReturn (line ++ List.replicate count space ++ [carriageReturn])) := by
      rw [dropCarriageReturn_append, dropCarriageReturn_append]
      exact ⟨count, rfl⟩
    have hfeed := lineFeed_not_mem_append_return (lineFeed_not_mem_append_spaces hline count)
    simpa using
      hfront.forall₂_lines (lineFeed_not_mem_append_return hline) hfeed hmore after
  | spacesAtEnd count hne hfeed =>
    obtain ⟨front, line, rfl, hfront, hline, hsome⟩ := exists_unended hne hfeed
    have hmore := List.append_ne_nil_of_left_ne_nil hsome (List.replicate count space)
    rw [List.append_assoc, hfront.lines_append, hfront.lines_append, lines_of_not_mem hsome hline,
      lines_of_not_mem hmore (lineFeed_not_mem_append_spaces hline count)]
    exact List.rel_append (forall₂_padded_refl _) (.cons ⟨count, rfl⟩ .nil)
  | ended hne hfeed hreturn =>
    obtain ⟨front, line, rfl, hfront, hline, hsome⟩ := exists_unended hne hfeed
    rw [List.append_assoc, hfront.lines_append, hfront.lines_append, lines_of_not_mem hsome hline,
      Document.lines_append hline, dropCarriageReturn_of_ne (getLast?_ne_of_append hreturn)]
    exact forall₂_padded_refl _

/-! ## Padded lines -/

/-- A space at the end of a line decides neither whether the line is text nor which text. -/
theorem decodeLine_append_space (line : List UInt8) :
    decodeLine (line ++ [space]) = (decodeLine line).map (· ++ " ") := by
  have hspace : encode " " = [space] := by decide +kernel
  cases hline : decodeLine line with
  | some text =>
    rw [Option.map_some, decodeLine_eq_some_iff, encode_append, hspace,
      decodeLine_eq_some_iff.1 hline]
  | none =>
    rw [Option.map_none, Option.eq_none_iff_forall_ne_some]
    intro text htext
    rw [decodeLine_eq_some_iff, encode_eq_flatMap] at htext
    rcases text.toList.eq_nil_or_concat' with hnil | ⟨front, last, hconcat⟩
    · simp [hnil] at htext
    · rw [hconcat, List.flatMap_append, List.flatMap_singleton] at htext
      -- The last byte belongs to the last character, which is a space then.
      have hbyte : (String.utf8EncodeChar last).getLast? = some space := by
        rw [← List.getLast?_append_of_ne_nil _ String.utf8EncodeChar_ne_nil, ← htext,
          List.getLast?_concat]
      obtain rfl : last = ' ' := Char.toNat_inj.1
        (toNat_eq_of_mem_utf8EncodeChar (by decide) (List.mem_of_getLast? hbyte))
      have hfront : line = encode (String.ofList front) := by
        rw [encode_eq_flatMap, String.toList_ofList]
        exact List.append_cancel_right htext
      simp [decodeLine_eq_some_iff.2 hfront] at hline

end Document

/-- The error of a reader if `count` lines are inserted after the first `boundary` ones and make no
difference but to the numbers of the lines after them. -/
def ReadError.renumber (boundary count : Nat) : ReadError → ReadError
  | line number fault => line (if boundary < number then number + count else number) fault
  | source fault => source fault

namespace Graph

open Document

variable {g : Graph} {line padded : List UInt8}

theorem readLine_append_space (line : List UInt8) :
    g.readLine (line ++ [space]) = g.readLine line := by
  rw [readLine, readLine, decodeLine_append_space]
  cases decodeLine line with
  | none => rfl
  | some text => simp only [Option.map_some, Record.read_append_space]

theorem readLine_padded (h : Padded line padded) : g.readLine padded = g.readLine line := by
  obtain ⟨count, rfl⟩ := h
  induction count with
  | zero => rw [List.replicate_zero, List.append_nil]
  | succ count ih =>
    rw [List.replicate_succ', ← List.append_assoc, readLine_append_space, ih]

theorem readLines_padded {lines lines' : List (List UInt8)} (h : List.Forall₂ Padded lines lines')
    (number : Nat) : g.readLines number lines' = g.readLines number lines := by
  induction h generalizing g number with
  | nil => rfl
  | cons hline _ ih =>
    rw [readLines, readLines, readLine_padded hline]
    cases g.readLine _ with
    | error fault => rfl
    | ok next => exact ih (number + 1)

/-- Documents that differ in layout are read alike. -/
theorem map_read_relaid {bytes bytes' : List UInt8} (h : Relation.EqvGen Relaid bytes bytes')
    (owner other : Nat) :
    (read other { bytes := bytes' }).map snapshot = (read owner { bytes }).map snapshot := by
  induction h generalizing owner other with
  | rel bytes bytes' h =>
    rw [map_read_owner owner other, read_bytes, read_bytes, readLines_padded h.forall₂_lines]
  | refl bytes => exact map_read_owner owner other bytes
  | symm bytes bytes' _ ih => exact (ih other owner).symm
  | trans first second third _ _ ih ih' => exact (ih' owner other).trans (ih owner owner)

/-! ## Lines that are ignored -/

/-- A line that can be ignored is ignored. -/
theorem readLine_ignorable (h : Ignorable line) : g.readLine line = .ok g := by
  cases h with
  | spaces count =>
    have hempty : g.readLine [] = .ok g :=
      readLine_eq_ok_iff.2 ⟨"", decodeLine_eq_some_iff.2 (by decide +kernel), .inl ⟨rfl, rfl⟩⟩
    have hpadded : Padded [] (List.replicate count space) := ⟨count, rfl⟩
    rw [readLine_padded hpadded, hempty]
  | comment hhead =>
    exact readLine_eq_ok_iff.2
      ⟨_, decodeLine_eq_some_iff.2 rfl, .inl ⟨Record.read_of_comment hhead, rfl⟩⟩

theorem readLines_ignorable {lines : List (List UInt8)} (h : ∀ line ∈ lines, Ignorable line)
    (number : Nat) : g.readLines number lines = .ok g := by
  induction lines generalizing number with
  | nil => rfl
  | cons line rest ih =>
    obtain ⟨hline, hrest⟩ := List.forall_mem_cons.1 h
    rw [readLines, readLine_ignorable hline]
    exact ih hrest (number + 1)

/-- Reading some lines is reading the first of them and then, if all went well, the others. -/
theorem readLines_append (number : Nat) (before after : List (List UInt8)) :
    g.readLines number (before ++ after) = (g.readLines number before).bind fun k =>
      k.readLines (number + before.length) after := by
  cases hbefore : g.readLines number before with
  | ok k => exact readLines_append_eq hbefore
  | error error =>
    obtain ⟨first, line, rest, k, fault, rfl, hfirst, hline, rfl⟩ :=
      readLines_eq_error_iff.1 hbefore
    exact readLines_eq_error_iff.2
      ⟨first, line, rest ++ after, k, fault, by simp, hfirst, hline, rfl⟩

variable {boundary number : Nat} {lines : List (List UInt8)}

/-- Lines after the place where some are inserted are read as they are, under other numbers. -/
theorem readLines_renumber (h : boundary < number) (count : Nat) :
    g.readLines (number + count) lines =
      (g.readLines number lines).mapError (.renumber boundary count) := by
  induction lines generalizing g number with
  | nil => rfl
  | cons line rest ih =>
    rw [readLines, readLines]
    cases g.readLine line with
    | error fault => simp [Except.mapError, ReadError.renumber, h]
    | ok next =>
      have hnumber : number + count + 1 = number + 1 + count := by omega
      simp only [hnumber]
      exact ih (by omega)

/-- Lines before the place where some are inserted keep their numbers. -/
theorem readLines_mapError_renumber (h : number + lines.length ≤ boundary + 1) (count : Nat) :
    (g.readLines number lines).mapError (.renumber boundary count) = g.readLines number lines := by
  induction lines generalizing g number with
  | nil => rfl
  | cons line rest ih =>
    rw [List.length_cons] at h
    rw [readLines]
    cases g.readLine line with
    | error fault =>
      have hbefore : ¬boundary < number := by omega
      simp [Except.mapError, ReadError.renumber, hbefore]
    | ok next => exact ih (by omega)

/-- The lines of a document in which lines are inserted. -/
theorem lines_inserted {before after : List UInt8} {extra : List (List UInt8)}
    (hbefore : Boundary before) (hextra : ∀ line ∈ extra, lineFeed ∉ line) :
    Document.lines (before ++ extra.flatMap (· ++ [lineFeed]) ++ after) =
      Document.lines before ++ (extra.map dropCarriageReturn ++ Document.lines after) := by
  rw [List.append_assoc, hbefore.lines_append]
  congr 1
  induction extra with
  | nil => rfl
  | cons line rest ih =>
    obtain ⟨hline, hrest⟩ := List.forall_mem_cons.1 hextra
    have hcut : (line :: rest).flatMap (· ++ [lineFeed]) ++ after =
        line ++ lineFeed :: (rest.flatMap (· ++ [lineFeed]) ++ after) := by
      simp
    rw [hcut, Document.lines_append hline, ih hrest, List.map_cons, List.cons_append]

/-- Lines that are ignored may be inserted between two lines. -/
theorem read_inserted {before after : List UInt8} {extra : List (List UInt8)} (owner : Nat)
    (hbefore : Boundary before)
    (hextra : ∀ line ∈ extra, lineFeed ∉ line ∧ Ignorable (dropCarriageReturn line)) :
    read owner { bytes := before ++ extra.flatMap (· ++ [lineFeed]) ++ after } =
      (read owner { bytes := before ++ after }).mapError
        (.renumber (before.count lineFeed) extra.length) := by
  have hlines : Document.lines (before ++ extra.flatMap (· ++ [lineFeed]) ++ after) =
      Document.lines before ++ (extra.map dropCarriageReturn ++ Document.lines after) :=
    lines_inserted hbefore fun line hline => (hextra line hline).1
  have hignored : ∀ line ∈ extra.map dropCarriageReturn, Ignorable line := by
    rw [List.forall_mem_map]
    exact fun line hline => (hextra line hline).2
  have hfirst : ((empty owner).readLines 1 (Document.lines before)).mapError
      (.renumber (before.count lineFeed) extra.length) =
        (empty owner).readLines 1 (Document.lines before) :=
    readLines_mapError_renumber (by rw [hbefore.length_lines, Nat.add_comm]) extra.length
  rw [read_bytes, read_bytes, hlines, hbefore.lines_append, readLines_append, readLines_append]
  cases hread : (empty owner).readLines 1 (Document.lines before) with
  | error error =>
    rw [hread] at hfirst
    exact hfirst.symm
  | ok k =>
    have hafter : before.count lineFeed < 1 + (Document.lines before).length := by
      rw [hbefore.length_lines]
      omega
    calc k.readLines (1 + (Document.lines before).length)
          (extra.map dropCarriageReturn ++ Document.lines after)
        = k.readLines (1 + (Document.lines before).length + extra.length)
            (Document.lines after) := by
          rw [readLines_append_eq (readLines_ignorable hignored _), List.length_map]
      _ = _ := readLines_renumber hafter extra.length

/-- Documents that differ in layout are read alike: into equal snapshots, or not at all for the same
error.  Whole lines that are ignored may be inserted between two lines, and then only the error of a
line after them is another: its number is greater by the number of lines that were inserted. -/
theorem read_layout (owner other : Nat) :
    (∀ bytes bytes', Relation.EqvGen Relaid bytes bytes' →
      (read other { bytes := bytes' }).map snapshot = (read owner { bytes }).map snapshot) ∧
    ∀ before (extra : List (List UInt8)) after, Boundary before →
      (∀ line ∈ extra, lineFeed ∉ line ∧ Ignorable (dropCarriageReturn line)) →
      (read other { bytes := before ++ extra.flatMap (· ++ [lineFeed]) ++ after }).map snapshot =
        ((read owner { bytes := before ++ after }).map snapshot).mapError
          (.renumber (before.count lineFeed) extra.length) := by
  refine ⟨fun bytes bytes' h => map_read_relaid h owner other, ?_⟩
  intro before extra after hbefore hextra
  rw [map_read_owner owner other, read_inserted owner hbefore hextra]
  cases read owner { bytes := before ++ after } <;> rfl

theorem read_layout_undeclared :
    (read 1 (.ofText "final b\r\n")).map snapshot = .error (.line 1 (.undeclaredState "b")) ∧
    (read 1 (.ofText "# first\n\nfinal b")).map snapshot =
      .error (.line 3 (.undeclaredState "b")) := by
  have hgiven : (read 0 { bytes := encode "final b" }).map snapshot =
      .error (.line 1 (.undeclaredState "b")) := by decide +kernel
  have hended : Relaid (encode "final b") (encode "final b" ++ [lineFeed]) :=
    .ended (by decide +kernel) (by decide +kernel) (by decide +kernel)
  have hreturned : Relaid (encode "final b" ++ [lineFeed]) (encode "final b\r\n") := by
    have hbytes : encode "final b\r\n" = encode "final b" ++ carriageReturn :: lineFeed :: [] := by
      decide +kernel
    exact hbytes ▸ .lineEnd [] (by decide +kernel)
  obtain ⟨hrelaid, hinserted⟩ := read_layout 0 1
  constructor
  · rw [Source.ofText, hrelaid _ _ (.trans _ _ _ (.rel _ _ hended) (.rel _ _ hreturned)), hgiven]
  · have hextra : ∀ line ∈ [encode "# first", []],
        lineFeed ∉ line ∧ Ignorable (dropCarriageReturn line) := by
      simp only [List.forall_mem_cons]
      have hcomment : Ignorable (dropCarriageReturn (encode "# first")) := by
        rw [show dropCarriageReturn (encode "# first") = encode "# first" by decide +kernel]
        exact .comment rfl
      exact ⟨⟨by decide +kernel, hcomment⟩, ⟨by decide, .spaces 0⟩, by simp⟩
    have hbytes : encode "# first\n\nfinal b" =
        [] ++ [encode "# first", []].flatMap (· ++ [lineFeed]) ++ encode "final b" := by
      decide +kernel
    rw [Source.ofText, hbytes, hinserted [] _ _ (by simp [Boundary]) hextra, List.nil_append,
      hgiven]
    rfl

end Graph

end NfaWorkbench
