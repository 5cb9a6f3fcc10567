import NfaWorkbench.Registry
set_option autoImplicit false

/-!
# Registries: entries

The laws of `Registry` speak of `get?`.  Here the same operations are described by their entries, as
members of a list, and by their identifiers.  Where no identifier occurs twice the two views agree:
`get?_eq_some_iff` is the bridge, and an entry is determined by its identifier (`mem_unique`).
-/

namespace NfaWorkbench.Registry

variable {κ α : Type}

theorem mem_ids_of_mem {r : Registry κ α} {k : κ} {v : α} (h : (k, v) ∈ r) : k ∈ r.ids :=
  List.mem_map.2 ⟨(k, v), h, rfl⟩

theorem mem_ids_iff {r : Registry κ α} {k : κ} : k ∈ r.ids ↔ ∃ v, (k, v) ∈ r := by
  simp [ids]

theorem mem_idsWhere_iff {r : Registry κ α} {p : α → Bool} {k : κ} :
    k ∈ r.idsWhere p ↔ ∃ v, (k, v) ∈ r ∧ p v = true := by
  simp [idsWhere]

/-- Two entries under one identifier are the same entry. -/
theorem mem_unique {r : Registry κ α} (h : r.ids.Nodup) {k : κ} {v w : α} (hv : (k, v) ∈ r)
    (hw : (k, w) ∈ r) : v = w := by
  induction r with
  | nil => simp at hv
  | cons e rest ih =>
    obtain ⟨hnot, hrest⟩ := List.nodup_cons.1 h
    rcases List.mem_cons.1 hv with rfl | hv'
    · rcases List.mem_cons.1 hw with hw' | hw'
      · exact (Prod.mk.inj hw').2.symm
      · exact absurd (mem_ids_of_mem hw') hnot
    · rcases List.mem_cons.1 hw with rfl | hw'
      · exact absurd (mem_ids_of_mem hv') hnot
      · exact ih hrest hv' hw'

/-- An entry is among those that satisfy `p` exactly if its value does. -/
theorem mem_idsWhere_of_mem {r : Registry κ α} (h : r.ids.Nodup) {k : κ} {v : α} (hv : (k, v) ∈ r)
    {p : α → Bool} : k ∈ r.idsWhere p ↔ p v = true := by
  rw [mem_idsWhere_iff]
  constructor
  · intro hgiven
    obtain ⟨w, hw, hp⟩ := hgiven
    rwa [mem_unique h hv hw]
  · intro hp
    exact ⟨v, hv, hp⟩

/-! ## Views

A view keeps the identifiers and shows of every value only what a function keeps of it.  Two
registries with the same view have the same identifiers. -/

/-- The registry of what `f` keeps of every value. -/
def mapValues {β : Type} (f : α → β) (r : Registry κ α) : Registry κ β :=
  r.map fun e => (e.1, f e.2)

section Views

variable {β : Type} {f : α → β}

@[simp]
theorem ids_mapValues (r : Registry κ α) : (r.mapValues f).ids = r.ids := by
  simp [ids, mapValues]

theorem mem_mapValues_iff {r : Registry κ α} {k : κ} {b : β} :
    (k, b) ∈ r.mapValues f ↔ ∃ v, (k, v) ∈ r ∧ f v = b := by
  simp only [mapValues, List.mem_map, Prod.exists, Prod.mk.injEq]
  constructor
  · intro hgiven
    obtain ⟨_, v, hv, rfl, rfl⟩ := hgiven
    exact ⟨v, hv, rfl⟩
  · intro hgiven
    obtain ⟨v, hv, rfl⟩ := hgiven
    exact ⟨k, v, hv, rfl, rfl⟩

theorem ids_eq_of_mapValues_eq {r q : Registry κ α} (h : r.mapValues f = q.mapValues f) :
    r.ids = q.ids := by
  rw [← ids_mapValues (f := f) r, h, ids_mapValues]

theorem exists_mem_of_mapValues_eq {r q : Registry κ α} (h : r.mapValues f = q.mapValues f) {k : κ}
    {v : α} (hv : (k, v) ∈ r) : ∃ w, (k, w) ∈ q ∧ f w = f v := by
  rw [← mem_mapValues_iff, ← h, mem_mapValues_iff]
  exact ⟨v, hv, rfl⟩

theorem mapValues_mapValues {γ : Type} (h : β → γ) (r : Registry κ α) :
    (r.mapValues f).mapValues h = r.mapValues fun v => h (f v) := by
  simp only [mapValues, List.map_map]
  rfl

/-- A view of those entries that are kept by their identifiers. -/
theorem mapValues_filter (r : Registry κ α) (p : κ → Bool) :
    mapValues f (r.filter fun e => p e.1) = (r.mapValues f).filter fun e => p e.1 := by
  simp only [mapValues, List.filter_map]
  rfl

/-- Which values satisfy `p` can be told from a view that shows it. -/
theorem idsWhere_mapValues (r : Registry κ α) (p : β → Bool) :
    (r.mapValues f).idsWhere p = r.idsWhere fun v => p (f v) := by
  simp only [idsWhere, mapValues, List.filter_map, List.map_map]
  rfl

end Views

theorem idsWhere_filter (r : Registry κ α) (keep : κ → Bool) (p : α → Bool) :
    idsWhere (r.filter fun e => keep e.1) p = (r.idsWhere p).filter keep := by
  simp only [idsWhere, List.filter_map, List.filter_filter]
  congr 1
  exact List.filter_congr fun e _ => Bool.and_comm _ _

/-! ## Entries after an operation -/

theorem mem_add_iff {r : Registry κ α} {k : κ} {v : α} {e : κ × α} :
    e ∈ r.add k v ↔ e ∈ r ∨ e = (k, v) := by
  simp [add]

@[simp]
theorem idsWhere_add (r : Registry κ α) (k : κ) (v : α) (p : α → Bool) :
    (r.add k v).idsWhere p = r.idsWhere p ++ if p v then [k] else [] := by
  simp only [idsWhere, add, List.filter_append, List.map_append]
  cases h : p v <;> simp [h]

variable [DecidableEq κ]

theorem mem_of_get? {r : Registry κ α} {k : κ} {v : α} (h : r.get? k = some v) : (k, v) ∈ r := by
  induction r with
  | nil => simp [get?] at h
  | cons e rest ih =>
    obtain ⟨key, w⟩ := e
    rw [get?] at h
    split at h
    · rename_i hk
      obtain rfl : w = v := Option.some.inj h
      exact hk ▸ List.mem_cons_self
    · exact List.mem_cons_of_mem _ (ih h)

/-- Looking up and being an entry are the same where no identifier occurs twice. -/
theorem get?_eq_some_iff {r : Registry κ α} (h : r.ids.Nodup) {k : κ} {v : α} :
    r.get? k = some v ↔ (k, v) ∈ r := by
  constructor
  · exact mem_of_get?
  · intro hv
    have hk : r.contains k = true := (contains_iff_mem_ids r k).2 (mem_ids_of_mem hv)
    obtain ⟨w, hw⟩ := Option.isSome_iff_exists.1 hk
    rw [hw, mem_unique h (mem_of_get? hw) hv]

theorem get?_eq_none_iff {r : Registry κ α} {k : κ} : r.get? k = none ↔ k ∉ r.ids := by
  rw [← contains_iff_mem_ids, contains, Option.not_isSome_iff_eq_none]

theorem get?_mapValues {β : Type} (f : α → β) (r : Registry κ α) (k : κ) :
    (r.mapValues f).get? k = (r.get? k).map f := by
  induction r with
  | nil => rfl
  | cons e rest ih =>
    obtain ⟨key, v⟩ := e
    by_cases h : key = k
    · simp [mapValues, get?, h]
    · simpa [mapValues, get?, h] using ih

theorem mem_modify_iff {r : Registry κ α} {k j : κ} {f : α → α} {v : α} :
    (j, v) ∈ r.modify k f ↔ ∃ w, (j, w) ∈ r ∧ v = if j = k then f w else w := by
  simp only [modify, List.mem_map, Prod.exists]
  constructor
  · intro hgiven
    obtain ⟨i, w, hw, he⟩ := hgiven
    split at he
    · rename_i hk
      obtain ⟨rfl, rfl⟩ := Prod.mk.inj he
      exact ⟨w, hw, by simp [show i = k from hk]⟩
    · rename_i hk
      obtain ⟨rfl, rfl⟩ := Prod.mk.inj he
      exact ⟨w, hw, by simp [show i ≠ k from hk]⟩
  · intro hgiven
    obtain ⟨w, hw, rfl⟩ := hgiven
    refine ⟨j, w, hw, ?_⟩
    split <;> rfl

/-- A change that a view does not show leaves the view as it is. -/
theorem mapValues_modify {β : Type} {g : α → β} (r : Registry κ α) (k : κ) {f : α → α}
    (h : ∀ v, g (f v) = g v) : (r.modify k f).mapValues g = r.mapValues g := by
  simp only [mapValues, modify, List.map_map]
  apply List.map_congr_left
  intro e _
  simp only [Function.comp_apply]
  split <;> simp [h]

theorem modify_of_not_mem {r : Registry κ α} {k : κ} (h : k ∉ r.ids) (f : α → α) :
    r.modify k f = r := by
  refine (List.map_congr_left ?_).trans (List.map_id r)
  intro e he
  have hne : e.1 ≠ k := fun heq => h (heq ▸ mem_ids_of_mem he)
  simp [hne]

/-- The change of a value does not show among entries to which it does not belong. -/
theorem filter_modify_of_not {p : κ → Bool} {k : κ} (hk : p k = false) (r : Registry κ α)
    (f : α → α) : (r.modify k f).filter (fun e => p e.1) = r.filter fun e => p e.1 := by
  induction r with
  | nil => rfl
  | cons e rest ih =>
    rw [modify] at ih
    by_cases he : e.1 = k
    · simp [modify, he, hk, ih]
    · simp [modify, he, List.filter_cons, ih]

/-- The last value put under an identifier counts. -/
theorem put_put (r : Registry κ α) (k : κ) (v w : α) : (r.put k v).put k w = r.put k w := by
  have hcontains : (r.put k v).contains k = true := by simp [contains, get?_put]
  rw [put, if_pos hcontains, put, put]
  split
  · simp only [modify, List.map_map]
    apply List.map_congr_left
    intro e _
    simp only [Function.comp_apply]
    split <;> rfl
  · rename_i hnew
    have hnot : k ∉ r.ids := fun hk => hnew ((contains_iff_mem_ids r k).2 hk)
    have hsplit : (r.add k v).modify k (fun _ => w) =
        (r.modify k fun _ => w) ++ (Registry.modify [(k, v)] k fun _ => w) :=
      List.map_append
    rw [hsplit, modify_of_not_mem hnot]
    simp [add, modify]

/-- A change of one value moves that value from one side of a count to the other. -/
theorem length_idsWhere_modify {r : Registry κ α} (h : r.ids.Nodup) {k : κ} {v : α}
    (hk : (k, v) ∈ r) (f : α → α) (p : α → Bool) :
    ((r.modify k f).idsWhere p).length + (p v).toNat =
      (r.idsWhere p).length + (p (f v)).toNat := by
  simp only [idsWhere, List.length_map, ← List.countP_eq_length_filter]
  induction r with
  | nil => simp at hk
  | cons e rest ih =>
    obtain ⟨hnot, hrest⟩ := List.nodup_cons.1 h
    rcases List.mem_cons.1 hk with rfl | hk'
    · have hsame : Registry.modify rest k f = rest := modify_of_not_mem hnot f
      rw [modify] at hsame
      simp only [modify, List.map_cons, hsame, if_true, List.countP_cons]
      cases p v <;> cases p (f v) <;> simp
    · have hne : e.1 ≠ k := by
        rintro rfl
        exact hnot (mem_ids_of_mem hk')
      have hcount := ih hrest hk'
      rw [modify] at hcount
      simp only [modify, List.map_cons, hne, if_false, List.countP_cons]
      omega

theorem mem_erase_iff {r : Registry κ α} {k : κ} {e : κ × α} :
    e ∈ r.erase k ↔ e ∈ r ∧ e.1 ≠ k := by
  simp [erase]

theorem ids_erase (r : Registry κ α) (k : κ) : (r.erase k).ids = r.ids.filter (· ≠ k) := by
  simp only [ids, erase, List.filter_map]
  rfl

end NfaWorkbench.Registry
