import NfaWorkbench.Document.Outflow
import NfaWorkbench.Graph.Edit
import NfaWorkbench.Proofs.Document.Encoding
set_option autoImplicit false

/-!
# Documents: sinks without room

A sink takes a document from its front until it has no room any more.  Where the document is cut
into pieces makes no difference (`writeAll_eq`), nor how much of a piece the sink takes in each of
its calls (`sink_write`).  So `Graph.write`, which writes whole lines to a sink that takes as much
as it can, says what becomes of all of them.
-/

namespace NfaWorkbench

/-- The error of a sink that has no room. -/
def Overflow.error : Overflow → WriteError
  | refuses fault => .refused fault
  | takesNothing => .tookNothing

namespace Sink

variable {s : Sink} {bytes : List UInt8}

/-! ## Room -/

theorem takes_le (s : Sink) (count : Nat) : s.takes count ≤ count := by
  unfold takes
  split
  · exact Nat.le_refl _
  · exact Nat.min_le_right ..

/-- Bytes that fit are taken, and what comes after them finds so much less room. -/
theorem takes_add {count : Nat} (h : s.takes bytes.length = bytes.length) :
    s.takes (bytes.length + count) = bytes.length + (s.take bytes).takes count := by
  unfold takes at h ⊢
  cases hroom : s.room with
  | none => simp [take, hroom]
  | some room =>
    simp only [hroom, take, Option.map_some] at h ⊢
    omega

/-- Bytes that do not fit leave no room. -/
theorem takes_add_of_ne {count : Nat} (h : s.takes bytes.length ≠ bytes.length) :
    s.takes (bytes.length + count) = s.takes bytes.length := by
  unfold takes at h ⊢
  cases hroom : s.room with
  | none => simp [hroom] at h
  | some room =>
    simp only [hroom] at h ⊢
    omega

theorem takes_eq_of_le {count other : Nat} (h : other ≤ s.takes count) : s.takes other = other := by
  unfold takes at h ⊢
  cases hroom : s.room with
  | none => rfl
  | some room =>
    simp only [hroom] at h ⊢
    omega

@[simp]
theorem take_nil (s : Sink) : s.take [] = s := by
  cases s with
  | mk room overflow flushFault takenReversed => cases room <;> simp [take]

theorem take_append (s : Sink) (bytes rest : List UInt8) :
    s.take (bytes ++ rest) = (s.take bytes).take rest := by
  simp [take, Function.comp_def, Nat.sub_sub]

/-! ## Writing -/

theorem write_of_fits (h : s.takes bytes.length = bytes.length) :
    s.write bytes = (s.take bytes, .ok ()) := by
  simp [write, h]

theorem write_of_not_fits (h : s.takes bytes.length ≠ bytes.length) :
    s.write bytes = (s.take (bytes.take (s.takes bytes.length)), .error s.overflow.error) := by
  rw [write, if_neg h]
  cases hoverflow : s.overflow <;> rfl

@[simp]
theorem write_nil (s : Sink) : s.write [] = (s, .ok ()) := by
  have hfits : s.takes ([] : List UInt8).length = ([] : List UInt8).length :=
    Nat.le_zero.1 (s.takes_le 0)
  rw [write_of_fits hfits, take_nil]

/-- What follows a write that succeeds. -/
def andWrite (result : Sink × Except WriteError Unit) (bytes : List UInt8) :
    Sink × Except WriteError Unit :=
  match result with
  | (s, .error error) => (s, .error error)
  | (s, .ok ()) => s.write bytes

/-- Bytes may be written in two parts. -/
theorem write_append (s : Sink) (bytes rest : List UInt8) :
    s.write (bytes ++ rest) = andWrite (s.write bytes) rest := by
  by_cases hfirst : s.takes bytes.length = bytes.length
  · rw [write_of_fits hfirst]
    by_cases hsecond : (s.take bytes).takes rest.length = rest.length
    · have hboth : s.takes (bytes ++ rest).length = (bytes ++ rest).length := by
        rw [List.length_append, takes_add hfirst, hsecond]
      rw [andWrite, write_of_fits hboth, write_of_fits hsecond, take_append]
    · have hboth : s.takes (bytes ++ rest).length ≠ (bytes ++ rest).length := by
        rw [List.length_append, takes_add hfirst]
        omega
      rw [andWrite, write_of_not_fits hboth, write_of_not_fits hsecond, List.length_append,
        takes_add hfirst, List.take_length_add_append, take_append]
      rfl
  · have hle := s.takes_le bytes.length
    have hboth : s.takes (bytes ++ rest).length ≠ (bytes ++ rest).length := by
      rw [List.length_append, takes_add_of_ne hfirst]
      omega
    rw [write_of_not_fits hfirst, write_of_not_fits hboth, List.length_append,
      takes_add_of_ne hfirst, List.take_append_of_le_length hle]
    rfl

/-- Pieces that are written one after another are written as a whole. -/
theorem writeAll_eq (s : Sink) (pieces : List (List UInt8)) :
    s.writeAll pieces = s.write pieces.flatten := by
  induction pieces generalizing s with
  | nil => rw [List.flatten_nil, write_nil, writeAll]
  | cons piece rest ih =>
    rw [writeAll, List.flatten_cons, write_append]
    obtain ⟨filled, result⟩ := s.write piece
    cases result with
    | error error => rfl
    | ok _ => exact ih filled

end Sink

namespace Outflow

variable {o : Outflow} {bytes : List UInt8}

/-! ## Call by call -/

/-- What the writing of a document comes to for the sink. -/
def outcome (result : Outflow × Except WriteError Unit) : Sink × Except WriteError Unit :=
  (result.1.sink, result.2)

theorem offer_of_full (h : o.sink.takes bytes.length = 0) :
    o.offer bytes = ({ o with calls := o.calls + 1 }, match o.sink.overflow with
      | .refuses fault => .error (.refused fault)
      | .takesNothing => .ok 0) := by
  have hnone : o.portion bytes.length = 0 := by simp [portion, h]
  rw [offer, hnone, List.take_zero, Sink.take_nil]
  cases o.sink.overflow <;> rfl

/-- A sink that has room takes something. -/
theorem exists_offer_of_room (h : o.sink.takes bytes.length ≠ 0) :
    ∃ count, count + 1 ≤ o.sink.takes bytes.length ∧
      o.offer bytes = ({ o with
        sink := o.sink.take (bytes.take (count + 1)), calls := o.calls + 1 }, .ok (count + 1)) := by
  obtain ⟨count, hcount⟩ : ∃ count, o.portion bytes.length = count + 1 := by
    refine Nat.exists_eq_succ_of_ne_zero ?_
    unfold portion
    omega
  refine ⟨count, hcount ▸ Nat.min_le_right .., ?_⟩
  rw [offer, hcount]
  cases o.sink.overflow <;> simp

/-- However much a sink takes in each call, in the end it has taken what it has room for. -/
theorem outcome_write (o : Outflow) (bytes : List UInt8) :
    outcome (o.write bytes) = o.sink.write bytes ∧ (o.write bytes).1.flushes = o.flushes := by
  -- The induction is on the number of bytes: every call that is followed by another takes some.
  induction hn : bytes.length using Nat.strongRecOn generalizing o bytes with
  | ind n ih =>
    subst hn
    rw [Outflow.write]
    split
    · rename_i hnil
      rw [hnil, Sink.write_nil]
      exact ⟨rfl, rfl⟩
    · rename_i hne
      have hpos := List.length_pos_iff.2 hne
      by_cases hfull : o.sink.takes bytes.length = 0
      · have hrefused : o.sink.write bytes = (o.sink, .error o.sink.overflow.error) := by
          rw [Sink.write_of_not_fits (by omega), hfull, List.take_zero, Sink.take_nil]
        rw [offer_of_full hfull, hrefused]
        cases hoverflow : o.sink.overflow <;> exact ⟨rfl, rfl⟩
      · obtain ⟨count, hcount, hoffer⟩ := exists_offer_of_room hfull
        have hlength : (bytes.take (count + 1)).length = count + 1 :=
          List.length_take_of_le (Nat.le_trans hcount (o.sink.takes_le _))
        have hfirst : o.sink.write (bytes.take (count + 1)) =
            (o.sink.take (bytes.take (count + 1)), .ok ()) :=
          Sink.write_of_fits (Sink.takes_eq_of_le (by rw [hlength]; exact hcount))
        have hsplit : o.sink.write bytes =
            (o.sink.take (bytes.take (count + 1))).write (bytes.drop (count + 1)) := by
          conv => lhs; rw [← List.take_append_drop (count + 1) bytes]
          rw [Sink.write_append, hfirst]
          rfl
        rw [hoffer, hsplit]
        exact ih _ (by rw [List.length_drop]; omega) _ _ rfl

theorem outcome_writePieces (o : Outflow) (pieces : List (List UInt8)) :
    outcome (o.writePieces pieces) = o.sink.writeAll pieces ∧
      (o.writePieces pieces).1.flushes = o.flushes := by
  induction pieces generalizing o with
  | nil => exact ⟨rfl, rfl⟩
  | cons piece rest ih =>
    obtain ⟨hwrite, hflushes⟩ := outcome_write o piece
    rw [writePieces, Sink.writeAll, ← hwrite, ← hflushes]
    obtain ⟨next, result⟩ := o.write piece
    cases result with
    | error error => exact ⟨rfl, rfl⟩
    | ok _ => exact ih next

end Outflow

/-! ## Documents -/

theorem Document.encode_join (texts : List String) :
    encode (String.join texts) = (texts.map encode).flatten := by
  induction texts with
  | nil => simp [encode_eq_flatMap]
  | cons text rest ih => rw [String.join_cons, encode_append, ih, List.map_cons, List.flatten_cons]

open Document (encode)

variable {g : Graph} {pieces : List (List UInt8)}

theorem Graph.write_eq_match (g : Graph) (s : Sink) : g.write s =
    match s.write (encode g.serialize) with
    | (filled, .error error) => (filled, .error error)
    | (filled, .ok ()) => (filled, filled.flush) := by
  have hlines : s.writeAll (g.recordLines.map encode) = s.write (encode g.serialize) := by
    rw [Sink.writeAll_eq, Graph.serialize, Document.encode_join]
  unfold Graph.write
  exact hlines ▸ rfl

theorem Graph.write_of_fits {s : Sink}
    (h : s.takes (encode g.serialize).length = (encode g.serialize).length) :
    g.write s = (s.take (encode g.serialize), s.flush) := by
  rw [Graph.write_eq_match, Sink.write_of_fits h]
  rfl

theorem Graph.write_of_not_fits {s : Sink}
    (h : s.takes (encode g.serialize).length ≠ (encode g.serialize).length) :
    g.write s = (s.take ((encode g.serialize).take (s.takes (encode g.serialize).length)),
      .error s.overflow.error) := by
  rw [Graph.write_eq_match, Sink.write_of_not_fits h]

namespace Outflow

/-- A document that is written in pieces is written as `Graph.write` writes it, and the sink is
flushed once if it has taken all of them, and else not at all. -/
theorem outcome_writeDocument (g : Graph) (o : Outflow)
    (hpieces : pieces.flatten = encode g.serialize) :
    outcome (o.writeDocument pieces) = g.write o.sink ∧
      (o.writeDocument pieces).1.flushes = o.flushes +
        if o.sink.takes (encode g.serialize).length = (encode g.serialize).length
        then 1 else 0 := by
  obtain ⟨hwrite, hflushes⟩ := outcome_writePieces o pieces
  rw [Sink.writeAll_eq, hpieces] at hwrite
  rw [Graph.write_eq_match, ← hwrite, ← hflushes, writeDocument]
  generalize o.writePieces pieces = written at hwrite ⊢
  obtain ⟨next, result⟩ := written
  by_cases h : o.sink.takes (encode g.serialize).length = (encode g.serialize).length
  · rw [Sink.write_of_fits h] at hwrite
    obtain rfl : result = .ok () := congrArg Prod.snd hwrite
    rw [if_pos h]
    exact ⟨rfl, rfl⟩
  · rw [Sink.write_of_not_fits h] at hwrite
    obtain rfl : result = .error o.sink.overflow.error := congrArg Prod.snd hwrite
    rw [if_neg h]
    exact ⟨rfl, rfl⟩

end Outflow

/-- A sink that has taken nothing yet and takes so many bytes. -/
def Sink.ofCapacity (capacity : Nat) (overflow : Overflow) (flushFault : Option IoFault) : Sink :=
  ⟨some capacity, overflow, flushFault, []⟩

theorem Sink.takes_ofCapacity (capacity : Nat) (overflow : Overflow) (flushFault : Option IoFault)
    (count : Nat) : (ofCapacity capacity overflow flushFault).takes count = min capacity count :=
  rfl

/-- What becomes of a document that is written to such a sink. -/
structure Delivered (document : List UInt8) (capacity : Nat) (overflow : Overflow)
    (flushFault : Option IoFault) (o : Outflow) (result : Except WriteError Unit) : Prop where
  /-- The sink holds the front of the document, as far as it has room. -/
  taken_eq : o.sink.taken = document.take capacity
  ok_iff : result = .ok () ↔ document.length ≤ capacity ∧ flushFault = none
  taken_of_ok : result = .ok () → o.sink.taken = document
  /-- The error is that of the sink. -/
  error_eq : ∀ error, result = .error error →
    (capacity < document.length ∧ error = overflow.error) ∨
      (document.length ≤ capacity ∧ ∃ fault, flushFault = some fault ∧ error = .flush fault)
  /-- The sink is flushed only after it has taken everything. -/
  flushes_eq : o.flushes = if document.length ≤ capacity then 1 else 0

/-- `Graph.write` delivers its document. -/
theorem Graph.delivered_write (g : Graph) (capacity : Nat) (overflow : Overflow)
    (flushFault : Option IoFault) {o : Outflow} {result : Except WriteError Unit}
    (hwrite : g.write (.ofCapacity capacity overflow flushFault) = (o.sink, result))
    (hflushes : o.flushes = if (encode g.serialize).length ≤ capacity then 1 else 0) :
    Delivered (encode g.serialize) capacity overflow flushFault o result := by
  have htakes := Sink.takes_ofCapacity capacity overflow flushFault (encode g.serialize).length
  by_cases hroom : (encode g.serialize).length ≤ capacity
  · rw [write_of_fits (by omega)] at hwrite
    obtain ⟨hsink, rfl⟩ := Prod.mk.inj hwrite
    have htaken : o.sink.taken = encode g.serialize := by
      rw [← hsink, Sink.taken_take]
      rfl
    cases flushFault with
    | none =>
      constructor
      · rw [htaken, List.take_of_length_le hroom]
      · exact iff_of_true rfl ⟨hroom, rfl⟩
      · exact fun _ => htaken
      · rintro error ⟨⟩
      · exact hflushes
    | some fault =>
      constructor
      · rw [htaken, List.take_of_length_le hroom]
      · exact iff_of_false (by simp [Sink.flush, Sink.ofCapacity]) (by simp)
      · exact fun _ => htaken
      · exact fun error herror => .inr ⟨hroom, fault, rfl, (Except.error.inj herror).symm⟩
      · exact hflushes
  · rw [write_of_not_fits (by omega), htakes, Nat.min_eq_left (by omega)] at hwrite
    obtain ⟨hsink, rfl⟩ := Prod.mk.inj hwrite
    constructor
    · rw [← hsink, Sink.taken_take]
      rfl
    · exact iff_of_false (by simp) fun h => hroom h.1
    · rintro ⟨⟩
    · exact fun error herror =>
        .inl ⟨Nat.lt_of_not_le hroom, (Except.error.inj herror).symm⟩
    · exact hflushes

/-- The canonical document and sinks with limited room.  Into whatever pieces the document is cut,
and however much of them the sink takes in each call: it takes the front of the document as far as
it has room, and the write succeeds exactly if it has room for all of it and the flush succeeds.
Every error is the sink's own, and the flush comes last.  A sink without a limit gets the whole
document. -/
theorem Graph.write_delivers (g : Graph) (hpieces : pieces.flatten = encode g.serialize)
    (appetite : Nat → Nat) (capacity : Nat) (overflow : Overflow) (flushFault : Option IoFault) :
    (∃ o result, ({ sink := .ofCapacity capacity overflow flushFault, appetite } :
        Outflow).writeDocument pieces = (o, result) ∧
      g.write (.ofCapacity capacity overflow flushFault) = (o.sink, result) ∧
      Delivered (encode g.serialize) capacity overflow flushFault o result) ∧
    (g.write .unlimited).1.taken = encode g.serialize ∧ (g.write .unlimited).2 = .ok () := by
  constructor
  · obtain ⟨hwrite, hflushes⟩ := Outflow.outcome_writeDocument g
      { sink := .ofCapacity capacity overflow flushFault, appetite } hpieces
    have htakes : (Sink.ofCapacity capacity overflow flushFault).takes
        (encode g.serialize).length = (encode g.serialize).length ↔
          (encode g.serialize).length ≤ capacity := by
      rw [Sink.takes_ofCapacity]
      omega
    rw [Nat.zero_add] at hflushes
    simp only [htakes] at hflushes
    exact ⟨_, _, rfl, hwrite.symm, g.delivered_write _ _ _ hwrite.symm hflushes⟩
  · have hunlimited : g.write .unlimited = (Sink.unlimited.take (encode g.serialize), .ok ()) :=
      write_of_fits rfl
    rw [hunlimited, Sink.taken_take]
    exact ⟨rfl, rfl⟩

/-- A graph with one state, whose name takes two bytes for each of its two letters. -/
def Graph.accented : Graph := (Graph.empty 0).addState "äö" default

/-- Its document, cut into four pieces. -/
def Graph.accentedPieces : List (List UInt8) :=
  [encode "state ", encode "äö", encode " 0", encode " 0\n"]

/-- The sink has room for three of the four bytes of the name. -/
theorem Graph.write_delivers_accented :
    accentedPieces.flatten = encode accented.serialize ∧
    ∃ o, ({ sink := .ofCapacity 9 .takesNothing none, appetite := id } : Outflow).writeDocument
        accentedPieces = (o, .error .tookNothing) ∧
      o.sink.taken = encode "state ä" ++ [195] ∧ o.flushes = 0 := by
  have hpieces : accentedPieces.flatten = encode accented.serialize := by decide +kernel
  have hfront : (encode accented.serialize).take 9 = encode "state ä" ++ [195] := by
    decide +kernel
  have hlength : (encode accented.serialize).length = 15 := by decide +kernel
  obtain ⟨⟨o, result, hwritten, -, hdelivered⟩, -⟩ :=
    accented.write_delivers hpieces id 9 .takesNothing none
  have htaken := hdelivered.taken_eq
  have hflushes := hdelivered.flushes_eq
  rw [hfront] at htaken
  rw [hlength, if_neg (by decide)] at hflushes
  cases result with
  | ok _ => exact absurd (hdelivered.ok_iff.1 rfl).1 (by rw [hlength]; decide)
  | error error =>
    obtain ⟨-, rfl⟩ | ⟨hroom, -⟩ := hdelivered.error_eq error rfl
    · exact ⟨hpieces, o, hwritten, htaken, hflushes⟩
    · exact absurd hroom (by rw [hlength]; decide)

end NfaWorkbench
