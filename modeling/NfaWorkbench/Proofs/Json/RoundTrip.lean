import NfaWorkbench.Proofs.Json.Scalar
set_option autoImplicit false

/-!
# JSON: what is written is read back

Every value is read back from its text, whatever its strings and however deep it is.  Each part is
read up to its last character and no further.  The items of an array are read by induction on the
list, and the values by recursion into their parts; the fuel is twice the length of the text,
because between two calls of the reader of values at least one character is read.
-/

namespace NfaWorkbench.Json

/-! ## Blanks -/

theorem skipSpace_of_not {c : Char} (h : isSpace c = false) (rest : List Char) :
    skipSpace (c :: rest) = c :: rest := by
  simp [skipSpace, h]

/-- The line breaks of the writer are blanks. -/
theorem skipSpace_newLine (depth : Nat) (rest : List Char) :
    skipSpace (newLine depth ++ rest) = skipSpace rest := by
  have hblank : ∀ c ∈ newLine depth, isSpace c = true := by
    intro c hc
    rcases List.mem_cons.1 hc with rfl | hc
    · rfl
    · rw [List.eq_of_mem_replicate hc]
      rfl
  rw [skipSpace, List.dropWhile_append_of_pos hblank, skipSpace]

/-- Blanks in front of a part do not matter. -/
theorem readValue_congr {input input' : List Char} (h : skipSpace input = skipSpace input')
    (fuel : Nat) : readValue fuel input = readValue fuel input' := by
  cases fuel with
  | zero => rw [readValue, readValue]
  | succ fuel => rw [readValue, readValue, h]

theorem readItems_newLine (fuel depth : Nat) (rest : List Char) :
    readItems fuel (newLine depth ++ rest) = readItems fuel rest := by
  cases fuel with
  | zero => rw [readItems, readItems]
  | succ fuel => rw [readItems, readItems, readValue_congr (skipSpace_newLine depth rest)]

theorem readMembers_newLine (fuel depth : Nat) (rest : List Char) :
    readMembers fuel (newLine depth ++ rest) = readMembers fuel rest := by
  cases fuel with
  | zero => rw [readMembers, readMembers]
  | succ fuel => rw [readMembers, readMembers, readKey, skipSpace_newLine, ← readKey]

theorem stops_newLine (depth : Nat) (rest : List Char) : Stops (newLine depth ++ rest) := by
  intro c hc
  exact .inr (Option.some.inj hc).symm

theorem stops_comma (rest : List Char) : Stops (',' :: rest) := by
  intro c hc
  exact .inl (Option.some.inj hc).symm

/-! ## Values -/

/-- A value is read back from its text at a depth, with fuel for twice its length. -/
def Reads (depth : Nat) (v : Value) : Prop :=
  ∀ fuel rest, 2 * (write depth v).length ≤ fuel → Stops rest →
    readValue fuel (write depth v ++ rest) = some (v, rest)

section Lists

variable {fuel : Nat} {input rest after : List Char} {item : Value} {items : List Value}

theorem readItems_last (hitem : readValue fuel input = some (item, rest))
    (hrest : skipSpace rest = ']' :: after) :
    readItems (fuel + 1) input = some ([item], after) := by
  simp [readItems, hitem, hrest]

theorem readItems_next {more final : List Char} (hitem : readValue fuel input = some (item, rest))
    (hrest : skipSpace rest = ',' :: more) (hmore : readItems fuel more = some (items, final)) :
    readItems (fuel + 1) input = some (item :: items, final) := by
  simp [readItems, hitem, hrest, hmore]

variable {depth outer : Nat}

/-- Items are read back if each of them is. -/
theorem readItems_write (hreads : ∀ v ∈ item :: items, Reads depth v)
    (hfuel : 2 * ((write depth item).length + (writeItems depth items).length) < fuel) :
    readItems fuel (write depth item ++ (writeItems depth items ++ (newLine outer ++ ']' :: rest)))
      = some (item :: items, rest) := by
  induction items generalizing item fuel with
  | nil =>
    obtain ⟨n, rfl⟩ := Nat.exists_eq_add_one_of_ne_zero (Nat.ne_zero_of_lt hfuel)
    have hitem := hreads item (by simp) n (newLine outer ++ ']' :: rest) (by omega)
      (stops_newLine outer _)
    exact readItems_last hitem ((skipSpace_newLine outer _).trans (skipSpace_of_not rfl _))
  | cons next more ih =>
    have hlength : (writeItems depth (next :: more)).length = 1 + (newLine depth).length +
        (write depth next).length + (writeItems depth more).length := by
      simp [writeItems]
      omega
    obtain ⟨n, rfl⟩ := Nat.exists_eq_add_one_of_ne_zero (Nat.ne_zero_of_lt hfuel)
    have hitem := hreads item (by simp) n
      (writeItems depth (next :: more) ++ (newLine outer ++ ']' :: rest)) (by omega) (stops_comma _)
    have hmore : readItems n (write depth next ++
        (writeItems depth more ++ (newLine outer ++ ']' :: rest))) = some (next :: more, rest) :=
      ih (fun v hv => hreads v (List.mem_cons_of_mem _ hv)) (by omega)
    have hnext : writeItems depth (next :: more) ++ (newLine outer ++ ']' :: rest) =
        ',' :: (newLine depth ++ (write depth next ++
          (writeItems depth more ++ (newLine outer ++ ']' :: rest)))) := by
      simp [writeItems]
    rw [hnext] at hitem ⊢
    refine readItems_next hitem (skipSpace_of_not rfl _) ?_
    rw [readItems_newLine, hmore]

/-! The members of an object are read in the same way, each after its key. -/

/-- A member after its line break. -/
def writeMember (depth : Nat) (m : Option String × Value) : List Char :=
  writeText m.1 ++ (':' :: ' ' :: write depth m.2)

theorem readKey_writeText (key : Option String) (rest : List Char) :
    readKey (writeText key ++ ':' :: rest) = some (key, rest) := by
  simp only [readKey, writeText, List.cons_append, List.append_assoc, List.nil_append]
  rw [skipSpace_of_not rfl]
  simp only [readText_escapeText]
  rw [skipSpace_of_not rfl]
  rfl

variable {key : Option String} {value : Value} {members : List (Option String × Value)}

theorem readMembers_last (hkey : readKey input = some (key, rest))
    (hvalue : readValue fuel rest = some (value, after)) {final : List Char}
    (hafter : skipSpace after = '\x7d' :: final) :
    readMembers (fuel + 1) input = some ([(key, value)], final) := by
  simp [readMembers, hkey, hvalue, hafter]

theorem readMembers_next (hkey : readKey input = some (key, rest))
    (hvalue : readValue fuel rest = some (value, after)) {more final : List Char}
    (hafter : skipSpace after = ',' :: more)
    (hmore : readMembers fuel more = some (members, final)) :
    readMembers (fuel + 1) input = some ((key, value) :: members, final) := by
  simp [readMembers, hkey, hvalue, hafter, hmore]

variable (fuel) in
/-- A member is read back if its value is. -/
theorem readMember_write {m : Option String × Value} (hreads : Reads depth m.2) {tail : List Char}
    (hfuel : 2 * (writeMember depth m).length ≤ fuel) (htail : Stops tail) :
    readKey (writeMember depth m ++ tail) = some (m.1, ' ' :: (write depth m.2 ++ tail)) ∧
      readValue fuel (' ' :: (write depth m.2 ++ tail)) = some (m.2, tail) := by
  have hlength : (writeMember depth m).length =
      (writeText m.1).length + 2 + (write depth m.2).length := by
    simp [writeMember]
    omega
  constructor
  · simpa [writeMember] using readKey_writeText m.1 (' ' :: (write depth m.2 ++ tail))
  · have hblank : skipSpace (' ' :: (write depth m.2 ++ tail)) =
        skipSpace (write depth m.2 ++ tail) := by
      simp [skipSpace, isSpace]
    rw [readValue_congr hblank]
    exact hreads fuel tail (by omega) htail

theorem writeMembers_cons (m : Option String × Value) :
    writeMembers depth (m :: members) =
      ',' :: (newLine depth ++ (writeMember depth m ++ writeMembers depth members)) := by
  simp [writeMembers, writeMember]

/-- Members are read back if the value of each of them is. -/
theorem readMembers_write {m : Option String × Value}
    (hreads : ∀ n ∈ m :: members, Reads depth n.2)
    (hfuel : 2 * ((writeMember depth m).length + (writeMembers depth members).length) < fuel) :
    readMembers fuel (writeMember depth m ++
        (writeMembers depth members ++ (newLine outer ++ '\x7d' :: rest))) =
      some (m :: members, rest) := by
  induction members generalizing m fuel with
  | nil =>
    obtain ⟨n, rfl⟩ := Nat.exists_eq_add_one_of_ne_zero (Nat.ne_zero_of_lt hfuel)
    obtain ⟨hkey, hvalue⟩ := readMember_write n (hreads m List.mem_cons_self) (by omega)
      (stops_newLine outer ('\x7d' :: rest))
    exact readMembers_last hkey hvalue ((skipSpace_newLine outer _).trans (skipSpace_of_not rfl _))
  | cons next more ih =>
    obtain ⟨n, rfl⟩ := Nat.exists_eq_add_one_of_ne_zero (Nat.ne_zero_of_lt hfuel)
    rw [writeMembers_cons] at hfuel ⊢
    simp only [List.length_cons, List.length_append] at hfuel
    have hmore : readMembers n (writeMember depth next ++
        (writeMembers depth more ++ (newLine outer ++ '\x7d' :: rest))) =
          some (next :: more, rest) :=
      ih (fun v hv => hreads v (List.mem_cons_of_mem _ hv)) (by omega)
    obtain ⟨hkey, hvalue⟩ := readMember_write n (hreads m List.mem_cons_self) (by omega)
      (stops_comma (newLine depth ++ (writeMember depth next ++
        (writeMembers depth more ++ (newLine outer ++ '\x7d' :: rest)))))
    rw [List.cons_append, List.append_assoc, List.append_assoc]
    refine readMembers_next hkey hvalue (skipSpace_of_not rfl _) ?_
    rw [readMembers_newLine, hmore]

end Lists

/-! ## All values -/

/-- The start of a number is none of the characters with which other values start. -/
theorem ne_of_startsNumber {c d : Char} (hc : c = '-' ∨ c.isDigit = true) (hsign : '-' ≠ d)
    (hdigit : d.isDigit = false) : c ≠ d := by
  rintro rfl
  rcases hc with rfl | hc
  · exact hsign rfl
  · simp [hdigit] at hc

theorem isSpace_of_startsNumber {c : Char} (hc : c = '-' ∨ c.isDigit = true) :
    isSpace c = false := by
  have hne := fun d => ne_of_startsNumber (d := d) hc
  simp [isSpace, hne ' ' (by decide) rfl, hne '\t' (by decide) rfl, hne '\n' (by decide) rfl,
    hne '\r' (by decide) rfl]

/-- The text of a value starts with no blank and no bracket that closes a list. -/
theorem write_eq_cons (depth : Nat) (v : Value) :
    ∃ c cs, write depth v = c :: cs ∧ isSpace c = false ∧ c ≠ ']' := by
  cases v with
  | null => exact ⟨'n', _, rfl, rfl, by decide⟩
  | bool value => cases value <;> exact ⟨_, _, rfl, rfl, by decide⟩
  | string text => exact ⟨_, _, rfl, rfl, by decide⟩
  | array items => cases items <;> exact ⟨_, _, rfl, rfl, by decide⟩
  | object members => cases members <;> exact ⟨_, _, rfl, rfl, by decide⟩
  | number n =>
    obtain ⟨c, cs, hcs, hc⟩ := writeNumber_eq_cons n
    exact ⟨c, cs, hcs, isSpace_of_startsNumber hc, ne_of_startsNumber hc (by decide) rfl⟩

section Values

variable {fuel depth : Nat} {input : List Char} {c : Char} {cs : List Char}

theorem readValue_startsNumber (hc : c = '-' ∨ c.isDigit = true) :
    readValue (fuel + 1) (c :: cs) =
      (readNumber (c :: cs)).map fun r => (.number r.1, r.2) := by
  have hne : ∀ {d : Char} {ds : List Char}, '-' ≠ d → d.isDigit = false → c :: cs ≠ d :: ds :=
    fun hsign hdigit heq => ne_of_startsNumber hc hsign hdigit (List.cons.inj heq).1
  rw [readValue, skipSpace_of_not (isSpace_of_startsNumber hc)]
  split
  -- Null, true, false, a string, an array and an object start differently.
  iterate 6
    rename_i heq
    exact absurd heq (hne (by decide) rfl)
  rfl

theorem readValue_bracket (hinput : skipSpace input = c :: cs) (hc : c ≠ ']') :
    readValue (fuel + 1) ('[' :: input) =
      (readItems fuel (c :: cs)).map fun r => (.array r.1, r.2) := by
  rw [readValue, skipSpace_of_not rfl]
  simp only [hinput]
  split
  · rename_i heq
    exact absurd (List.cons.inj heq).1 hc
  · rfl

theorem readValue_brace (hinput : skipSpace input = c :: cs) (hc : c ≠ '\x7d') :
    readValue (fuel + 1) ('\x7b' :: input) =
      (readMembers fuel (c :: cs)).map fun r => (.object r.1, r.2) := by
  rw [readValue, skipSpace_of_not rfl]
  simp only [hinput]
  split
  · rename_i heq
    exact absurd (List.cons.inj heq).1 hc
  · rfl

/-- A value without parts needs fuel for one call. -/
theorem reads_of_forall {v : Value}
    (h : ∀ fuel rest, Stops rest → readValue (fuel + 1) (write depth v ++ rest) = some (v, rest)) :
    Reads depth v := by
  intro fuel rest hfuel hrest
  obtain ⟨c, cs, hcs, _⟩ := write_eq_cons depth v
  obtain ⟨n, rfl⟩ : ∃ n, fuel = n + 1 := by
    refine Nat.exists_eq_add_one_of_ne_zero ?_
    rintro rfl
    simp [hcs] at hfuel
  exact h n rest hrest

theorem reads_number (n : Number) : Reads depth (.number n) := by
  refine reads_of_forall fun fuel rest hrest => ?_
  obtain ⟨c, cs, hcs, hc⟩ := writeNumber_eq_cons n
  have hread := readNumber_writeNumber n hrest
  rw [write, hcs, List.cons_append] at *
  rw [readValue_startsNumber hc, hread]
  rfl

theorem reads_string (text : Option String) : Reads depth (.string text) := by
  refine reads_of_forall fun fuel rest _ => ?_
  have hread := readText_escapeText text rest
  simp only [write, writeText, List.cons_append, List.append_assoc, List.nil_append]
  rw [readValue, skipSpace_of_not rfl]
  simp only [hread]
  rfl

theorem reads_array {item : Value} {items : List Value}
    (hreads : ∀ v ∈ item :: items, Reads (depth + 1) v) : Reads depth (.array (item :: items)) := by
  intro fuel rest hfuel _
  obtain ⟨c, cs, hcs, hspace, hbracket⟩ := write_eq_cons (depth + 1) item
  have hwrite : write depth (.array (item :: items)) ++ rest = '[' :: (newLine (depth + 1) ++
      (write (depth + 1) item ++ (writeItems (depth + 1) items ++
        (newLine depth ++ ']' :: rest)))) := by
    simp [write]
  obtain ⟨n, rfl⟩ : ∃ n, fuel = n + 1 := ⟨fuel - 1, by simp [write] at hfuel; omega⟩
  have hitems : readItems n (write (depth + 1) item ++ (writeItems (depth + 1) items ++
      (newLine depth ++ ']' :: rest))) = some (item :: items, rest) :=
    readItems_write hreads (by simp [write] at hfuel; omega)
  rw [hcs, List.cons_append] at hwrite hitems
  rw [hwrite,
    readValue_bracket ((skipSpace_newLine _ _).trans (skipSpace_of_not hspace _)) hbracket, hitems]
  rfl

theorem reads_object {m : Option String × Value} {members : List (Option String × Value)}
    (hreads : ∀ n ∈ m :: members, Reads (depth + 1) n.2) :
    Reads depth (.object (m :: members)) := by
  intro fuel rest hfuel _
  have hwrite : write depth (.object (m :: members)) ++ rest = '\x7b' :: (newLine (depth + 1) ++
      (writeMember (depth + 1) m ++ (writeMembers (depth + 1) members ++
        (newLine depth ++ '\x7d' :: rest)))) := by
    simp [write, writeMember]
  have hlength := congrArg List.length hwrite
  obtain ⟨n, rfl⟩ : ∃ n, fuel = n + 1 := ⟨fuel - 1, by simp at hlength; omega⟩
  have hmembers : readMembers n (writeMember (depth + 1) m ++ (writeMembers (depth + 1) members ++
      (newLine depth ++ '\x7d' :: rest))) = some (m :: members, rest) :=
    readMembers_write hreads (by simp at hlength; omega)
  rw [writeMember, writeText, List.cons_append, List.cons_append, List.cons_append]
    at hwrite hmembers
  rw [hwrite, readValue_brace ((skipSpace_newLine _ _).trans (skipSpace_of_not rfl _)) (by decide),
    hmembers]
  rfl

end Values

theorem reads (v : Value) (depth : Nat) : Reads depth v := by
  match v with
  | .null => exact reads_of_forall fun _ _ _ => rfl
  | .bool true => exact reads_of_forall fun _ _ _ => rfl
  | .bool false => exact reads_of_forall fun _ _ _ => rfl
  | .number n => exact reads_number n
  | .string text => exact reads_string text
  | .array [] => exact reads_of_forall fun _ _ _ => rfl
  | .array (item :: items) =>
    exact reads_array fun w hw => reads w (depth + 1)
  | .object [] => exact reads_of_forall fun _ _ _ => rfl
  | .object (m :: members) =>
    exact reads_object fun n hn => reads n.2 (depth + 1)
termination_by sizeOf v
decreasing_by
  · have := List.sizeOf_lt_of_mem hw
    simp at *
    omega
  · have := List.sizeOf_lt_of_mem hn
    cases n
    simp at *
    omega

/-- Every value is read back from its text. -/
theorem parse_pretty (v : Value) : parse (pretty v) = some v := by
  have hread := reads v 0 (2 * (write 0 v).length + 2) [] (by omega) (by simp [Stops])
  rw [List.append_nil] at hread
  simp [parse, pretty, hread, skipSpace]

end NfaWorkbench.Json
