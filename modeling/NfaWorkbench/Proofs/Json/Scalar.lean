import NfaWorkbench.Json.Printer
import NfaWorkbench.Json.Reader
set_option autoImplicit false

/-!
# JSON: strings and numbers

The leaves of a value are read back from their text, whatever characters a string holds.  A string
ends with its quote, so anything may follow it.  A number ends where its digits do, so it needs that
a comma, a line end or nothing follows, and that is what the writer puts there.
-/

namespace NfaWorkbench.Json

/-! ## Strings -/

/-- A control character is written as two zeros and its two hexadecimal digits. -/
theorem hexNumber?_digitChar {n : Nat} (h : n < 32) :
    Text.hexNumber? ['0', '0', Nat.digitChar (n / 16), Nat.digitChar (n % 16)] = some n := by
  have hzero : Text.hexDigit? '0' = some 0 := by decide
  have hhigh := Text.hexDigit?_digitChar (n / 16) (by omega)
  have hlow := Text.hexDigit?_digitChar (n % 16) (by omega)
  simp only [Text.hexNumber?, Text.hexNumberFrom?, hzero, hhigh, hlow]
  exact congrArg some (by omega)

theorem readUnits_backslash {c d : Char} (h : escaped? c = some d) (hne : c ≠ 'u')
    (rest : List Char) :
    readUnits ('\x5c' :: c :: rest) = consUnit d.toNat (readUnits rest) := by
  simp [readUnits, h, hne]

/-- An escaped character is read as that character. -/
theorem readUnits_escape (c : Char) (rest : List Char) :
    readUnits (escape c ++ rest) = consUnit c.toNat (readUnits rest) := by
  unfold escape
  split
  · rename_i h
    rcases h with rfl | rfl <;> exact readUnits_backslash rfl (by decide) rest
  -- The five control characters with a letter of their own.
  iterate 5
    split
    · rename_i h
      exact h ▸ readUnits_backslash rfl (by decide) rest
  split
  · rename_i h
    have hlt : c.toNat < 32 := h
    simp [readUnits, hexNumber?_digitChar hlt]
  · rename_i hplain _ _ _ _ _ hcontrol
    rw [not_or] at hplain
    simp [readUnits, hplain, hcontrol]

theorem readUnits_flatMap_escape (cs rest : List Char) :
    readUnits (cs.flatMap escape ++ '\x22' :: rest) = some (cs.map Char.toNat, rest) := by
  induction cs with
  | nil => simp [readUnits]
  | cons c cs ih =>
    rw [List.flatMap_cons, List.append_assoc, readUnits_escape, ih, consUnit, List.map_cons]

/-- A string is read up to its closing quote. -/
theorem readText_escapeText (text : Option String) (rest : List Char) :
    readText (escapeText text ++ '\x22' :: rest) = some (text, rest) := by
  cases text with
  | none => simp [escapeText, readText, readUnits, Text.hexNumber?, Text.hexNumberFrom?,
      show Text.hexDigit? 'd' = some 13 by decide, show Text.hexDigit? '8' = some 8 by decide,
      show Text.hexDigit? '0' = some 0 by decide, consUnit, charactersOf?, isFirstHalf]
  | some text =>
    rw [readText, escapeText, readUnits_flatMap_escape]
    simp [charactersOf?_map_toNat]

/-! ## Numbers -/

/-- What may follow a number: nothing, a comma or a line end. -/
def Stops (rest : List Char) : Prop := ∀ c ∈ rest.head?, c = ',' ∨ c = '\n'

theorem Stops.not_isDigit {rest : List Char} (h : Stops rest) :
    ∀ c ∈ rest.head?, c.isDigit = false := by
  intro c hc
  rcases h c hc with rfl | rfl <;> decide

theorem takeWhile_isDigit_append {digits rest : List Char}
    (hdigits : ∀ c ∈ digits, c.isDigit = true) (hrest : ∀ c ∈ rest.head?, c.isDigit = false) :
    (digits ++ rest).takeWhile Char.isDigit = digits ∧
      (digits ++ rest).dropWhile Char.isDigit = rest := by
  rw [List.takeWhile_append_of_pos hdigits, List.dropWhile_append_of_pos hdigits]
  cases rest with
  | nil => simp
  | cons c rest => simp [hrest c rfl]

/-- Only zero is written with a zero at its start, and then nothing follows it. -/
theorem toDigits_ne_zero_cons (n : Nat) (c : Char) (rest : List Char) :
    Nat.toDigits 10 n ≠ '0' :: c :: rest := by
  induction n using Nat.strongRecOn generalizing c rest with
  | ind n ih =>
    intro h
    rw [Nat.toDigits_eq_if (by decide)] at h
    split at h
    · simp at h
    · rename_i hn
      have hlt : n / 10 < n := by omega
      match htens : Nat.toDigits 10 (n / 10) with
      | [] => exact Nat.toDigits_ne_nil htens
      | [d] =>
        rw [htens] at h
        obtain rfl : d = '0' := (List.cons.inj h).1
        have hzero := Nat.ofDigitChars_toDigits (b := 10) (n := n / 10) (by decide) (by decide)
        rw [htens] at hzero
        simp [Nat.ofDigitChars] at hzero
        omega
      | d :: e :: more =>
        rw [htens] at h
        obtain rfl : d = '0' := (List.cons.inj h).1
        exact ih _ hlt e more htens

theorem readMagnitude_toDigits (n : Nat) {rest : List Char}
    (hrest : ∀ c ∈ rest.head?, c.isDigit = false) :
    readMagnitude (Nat.toDigits 10 n ++ rest) = some (n, rest) := by
  obtain ⟨htake, hdrop⟩ := takeWhile_isDigit_append
    (fun c hc => Nat.isDigit_of_mem_toDigits (b := 10) (n := n) (by decide) (by decide) hc) hrest
  have hvalue := Nat.ofDigitChars_toDigits (b := 10) (n := n) (by decide) (by decide)
  unfold readMagnitude
  split
  · rename_i hnil
    exact absurd (htake.symm.trans hnil) Nat.toDigits_ne_nil
  · rename_i hzero
    exact absurd (htake.symm.trans hzero) (toDigits_ne_zero_cons n _ _)
  · rw [htake, hdrop, hvalue]

theorem skipFraction_of_stops {rest : List Char} (h : Stops rest) :
    skipFraction rest = some (false, rest) := by
  unfold skipFraction
  split
  · simpa using h '.' rfl
  · rfl

theorem skipExponent_of_stops {rest : List Char} (h : Stops rest) :
    skipExponent rest = some (false, rest) := by
  cases rest with
  | nil => rfl
  | cons c rest => rcases h c rfl with rfl | rfl <;> rfl

theorem readUnsigned_toDigits (negative : Bool) (n : Nat) {rest : List Char} (h : Stops rest) :
    readUnsigned negative (Nat.toDigits 10 n ++ rest) = some (.integer negative n, rest) := by
  simp [readUnsigned, readMagnitude_toDigits n h.not_isDigit, skipFraction_of_stops h,
    skipExponent_of_stops h]

/-- A number whose value is not kept is read as one again. -/
theorem readUnsigned_decimal {rest : List Char} (h : Stops rest) :
    readUnsigned false ('0' :: '.' :: '0' :: rest) = some (.decimal, rest) := by
  have hmagnitude : readMagnitude ('0' :: '.' :: '0' :: rest) = some (0, '.' :: '0' :: rest) :=
    readMagnitude_toDigits 0 (by simp)
  have hdrop : ('0' :: rest).dropWhile Char.isDigit = rest :=
    (takeWhile_isDigit_append (List.forall_mem_singleton.2 rfl) h.not_isDigit).2
  have hfraction : skipFraction ('.' :: '0' :: rest) = some (true, rest) := by
    simp [skipFraction, skipDigits, hdrop]
  simp [readUnsigned, hmagnitude, hfraction, skipExponent_of_stops h]

/-- A number is written with a digit or a minus sign at its start. -/
theorem writeNumber_eq_cons (n : Number) :
    ∃ c cs, writeNumber n = c :: cs ∧ (c = '-' ∨ c.isDigit = true) := by
  have hdigits : ∀ m, ∃ c cs, Nat.toDigits 10 m = c :: cs ∧ c.isDigit = true := by
    intro m
    match h : Nat.toDigits 10 m with
    | [] => exact absurd h Nat.toDigits_ne_nil
    | c :: cs =>
      exact ⟨c, cs, rfl, Nat.isDigit_of_mem_toDigits (b := 10) (n := m) (by decide) (by decide)
        (h ▸ List.mem_cons_self)⟩
  cases n with
  | decimal => exact ⟨'0', ['.', '0'], rfl, .inr rfl⟩
  | integer negative m =>
    cases negative with
    | true => exact ⟨'-', Nat.toDigits 10 m, rfl, .inl rfl⟩
    | false =>
      obtain ⟨c, cs, hcs, hc⟩ := hdigits m
      exact ⟨c, cs, hcs, .inr hc⟩

theorem readNumber_writeNumber (n : Number) {rest : List Char} (h : Stops rest) :
    readNumber (writeNumber n ++ rest) = some (n, rest) := by
  cases n with
  | decimal => exact readUnsigned_decimal h
  | integer negative m =>
    cases negative with
    | true => exact readUnsigned_toDigits true m h
    | false =>
      obtain ⟨c, cs, hcs, hc⟩ := writeNumber_eq_cons (.integer false m)
      have hdigits : Nat.toDigits 10 m = c :: cs := hcs
      have hread := readUnsigned_toDigits false m h
      have hsign : c ≠ '-' := by
        rintro rfl
        have hdigit := Nat.isDigit_of_mem_toDigits (b := 10) (n := m) (c := '-') (by decide)
          (by decide) (hdigits ▸ List.mem_cons_self)
        exact absurd hdigit (by decide)
      rw [hdigits] at hread
      rw [hcs, List.cons_append] at *
      unfold readNumber
      split
      · rename_i heq
        exact absurd (List.cons.inj heq).1 hsign
      · exact hread

end NfaWorkbench.Json
