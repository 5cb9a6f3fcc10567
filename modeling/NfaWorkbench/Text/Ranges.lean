set_option autoImplicit false

/-!
# Text: classes of characters given by code point ranges

A property of characters is stored as the list of the closed code point intervals that have it, in
ascending order.  Membership walks the list and stops at the first interval that ends the question,
so a test of an ASCII character looks at the first few intervals only.
-/

namespace NfaWorkbench.Text

/-- A list of closed code point intervals `(first, last)`, ascending and disjoint. -/
abbrev Ranges := List (Nat × Nat)

namespace Ranges

/-- Whether a code point lies in one of the intervals. -/
def contains : Ranges → Nat → Bool
  | [], _ => false
  | (first, last) :: rest, code =>
    if code < first then false else if code ≤ last then true else contains rest code

/-- A code point that is found lies in one of the listed intervals. -/
theorem exists_mem_of_contains {ranges : Ranges} {code : Nat} (h : ranges.contains code = true) :
    ∃ r ∈ ranges, r.1 ≤ code ∧ code ≤ r.2 := by
  induction ranges with
  | nil => simp [contains] at h
  | cons r rest ih =>
    obtain ⟨first, last⟩ := r
    rw [contains] at h
    split at h
    · simp at h
    · split at h
      · exact ⟨(first, last), by simp, by omega, by omega⟩
      · obtain ⟨r, hr, bounds⟩ := ih h
        exact ⟨r, List.mem_cons_of_mem _ hr, bounds⟩

end Ranges

end NfaWorkbench.Text
