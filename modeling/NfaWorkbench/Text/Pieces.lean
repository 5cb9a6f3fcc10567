set_option autoImplicit false

/-!
# Text: splitting at separators

`pieces p l` cuts a list at every element that satisfies `p`: `n` separators give `n + 1` pieces,
some of them empty.  Lines, tokens and words are all found this way.  The laws say that no piece
holds a separator, and that the pieces before a separator and those behind it can be found apart.
-/

namespace NfaWorkbench.Text

variable {α : Type}

/-- The pieces of a list between the elements that satisfy `p`. -/
def pieces (p : α → Bool) : List α → List (List α)
  | [] => [[]]
  | a :: rest =>
    if p a then [] :: pieces p rest
    else match pieces p rest with
      | [] => [[a]]
      | piece :: others => (a :: piece) :: others

theorem pieces_ne_nil (p : α → Bool) (l : List α) : pieces p l ≠ [] := by
  fun_cases pieces p l <;> simp_all

@[simp] theorem pieces_nil (p : α → Bool) : pieces p [] = [[]] := rfl

theorem pieces_cons_sep {p : α → Bool} {a : α} (h : p a = true) (rest : List α) :
    pieces p (a :: rest) = [] :: pieces p rest := by
  rw [pieces, if_pos h]

theorem pieces_cons_of_not {p : α → Bool} {a : α} (h : p a = false) (rest : List α) :
    ∃ piece others, pieces p rest = piece :: others ∧
      pieces p (a :: rest) = (a :: piece) :: others := by
  match hr : pieces p rest with
  | [] => exact absurd hr (pieces_ne_nil p rest)
  | piece :: others => exact ⟨piece, others, rfl, by simp [pieces, h, hr]⟩

/-- No piece holds a separator. -/
theorem not_sep_of_mem_pieces {p : α → Bool} {l piece : List α} (h : piece ∈ pieces p l) :
    ∀ a ∈ piece, p a = false := by
  induction l generalizing piece with
  | nil => simp_all
  | cons a rest ih =>
    cases ha : p a with
    | true =>
      rw [pieces_cons_sep ha] at h
      rcases List.mem_cons.1 h with rfl | h
      · simp
      · exact ih h
    | false =>
      obtain ⟨first, others, hr, heq⟩ := pieces_cons_of_not ha rest
      rw [heq] at h
      rcases List.mem_cons.1 h with rfl | h
      · intro b hb
        rcases List.mem_cons.1 hb with rfl | hb
        · exact ha
        · exact ih (by simp [hr]) b hb
      · exact ih (by simp [hr, h])

/-- A list without a separator is one piece. -/
theorem pieces_of_forall_not {p : α → Bool} {l : List α} (h : ∀ a ∈ l, p a = false) :
    pieces p l = [l] := by
  induction l with
  | nil => rfl
  | cons a rest ih =>
    have := ih fun b hb => h b (by simp [hb])
    simp [pieces, h a (by simp), this]

/-- A separator ends the pieces before it. -/
theorem pieces_append_sep {p : α → Bool} {sep : α} (hs : p sep = true) (l rest : List α) :
    pieces p (l ++ sep :: rest) = pieces p l ++ pieces p rest := by
  induction l with
  | nil => simp [pieces, hs]
  | cons a l ih =>
    cases ha : p a with
    | true => rw [List.cons_append, pieces_cons_sep ha, pieces_cons_sep ha, ih, List.cons_append]
    | false =>
      obtain ⟨first, others, hr, heq⟩ := pieces_cons_of_not ha l
      simp [pieces, ha, ih, hr]

end NfaWorkbench.Text
