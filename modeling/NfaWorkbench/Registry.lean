set_option autoImplicit false

/-!
# Registries

A registry keeps values under identifiers, in the order in which they were added.  Changing or
removing an entry leaves the others where they are.  Main statements: what `get?` finds after each
operation.
-/

namespace NfaWorkbench

/-- Values under identifiers, in the order in which they were added. -/
abbrev Registry (κ α : Type) := List (κ × α)

namespace Registry

variable {κ α : Type} [DecidableEq κ]

/-- The value under an identifier. -/
def get? : Registry κ α → κ → Option α
  | [], _ => none
  | (key, value) :: rest, k => if key = k then some value else get? rest k

/-- Whether the registry has an entry under an identifier. -/
def contains (r : Registry κ α) (k : κ) : Bool := (r.get? k).isSome

/-- The registry with one more entry, the last. -/
def add (r : Registry κ α) (k : κ) (value : α) : Registry κ α := r ++ [(k, value)]

/-- The registry with the value under one identifier changed. -/
def modify (r : Registry κ α) (k : κ) (f : α → α) : Registry κ α :=
  r.map fun e => if e.1 = k then (e.1, f e.2) else e

/-- The registry with a value under an identifier, at its place if there is an entry already and at
the end if not. -/
def put (r : Registry κ α) (k : κ) (value : α) : Registry κ α :=
  if r.contains k then r.modify k fun _ => value else r.add k value

/-- The registry without the entry under an identifier. -/
def erase (r : Registry κ α) (k : κ) : Registry κ α := r.filter fun e => e.1 ≠ k

/-- The identifiers, in the order of their entries. -/
def ids (r : Registry κ α) : List κ := r.map (·.1)

/-- The identifiers of the entries whose value satisfies `p`. -/
def idsWhere (r : Registry κ α) (p : α → Bool) : List κ := (r.filter fun e => p e.2).map (·.1)

theorem get?_add (r : Registry κ α) (k j : κ) (value : α) :
    (r.add k value).get? j = match r.get? j with
      | some v => some v
      | none => if k = j then some value else none := by
  induction r with
  | nil => simp [add, get?]
  | cons e rest ih =>
    obtain ⟨key, v⟩ := e
    by_cases h : key = j
    · simp [add, get?, h]
    · simpa [add, get?, h] using ih

theorem get?_modify (r : Registry κ α) (k j : κ) (f : α → α) :
    (r.modify k f).get? j = if j = k then (r.get? j).map f else r.get? j := by
  induction r with
  | nil => simp [modify, get?]
  | cons e rest ih =>
    obtain ⟨key, v⟩ := e
    by_cases hj : key = j <;> by_cases hk : key = k <;> simp_all [modify, get?]

theorem get?_put (r : Registry κ α) (k j : κ) (value : α) :
    (r.put k value).get? j = if j = k then some value else r.get? j := by
  unfold put
  split
  · rename_i h
    rw [get?_modify]
    split
    · subst j
      obtain ⟨v, hv⟩ := Option.isSome_iff_exists.1 h
      simp [hv]
    · rfl
  · rename_i h
    rw [get?_add]
    by_cases hj : j = k
    · subst j
      simp only [contains, Option.not_isSome_iff_eq_none] at h
      simp [h]
    · simp only [hj, Ne.symm hj, if_false]
      cases r.get? j <;> rfl

theorem get?_erase (r : Registry κ α) (k j : κ) :
    (r.erase k).get? j = if j = k then none else r.get? j := by
  induction r with
  | nil => simp [erase, get?]
  | cons e rest ih =>
    obtain ⟨key, v⟩ := e
    by_cases hj : key = j <;> by_cases hk : key = k <;> simp_all [erase, get?]

@[simp]
theorem ids_modify (r : Registry κ α) (k : κ) (f : α → α) : (r.modify k f).ids = r.ids := by
  simp only [ids, modify, List.map_map]
  apply List.map_congr_left
  intro e _
  simp only [Function.comp_apply]
  split <;> rfl

omit [DecidableEq κ] in
@[simp]
theorem ids_add (r : Registry κ α) (k : κ) (value : α) : (r.add k value).ids = r.ids ++ [k] := by
  simp [ids, add]

/-- An identifier is found exactly if it is listed. -/
theorem contains_iff_mem_ids (r : Registry κ α) (k : κ) : r.contains k = true ↔ k ∈ r.ids := by
  induction r with
  | nil => simp [contains, get?, ids]
  | cons e rest ih =>
    obtain ⟨key, v⟩ := e
    by_cases h : key = k
    · simp [contains, get?, ids, h]
    · have : (k = key) = False := by simp [Ne.symm h]
      simpa [contains, get?, ids, h, this] using ih

end Registry

end NfaWorkbench
