import Mathlib.Data.List.DropRight
import NfaWorkbench.Document.Record
set_option autoImplicit false

/-!
# Documents: tokens

A record of a graph is written with one space between its tokens, and no token is empty or holds a
space or a line end.  So the tokens are found again, and with them the record.  The one token that
could be taken for something else is a label that is the epsilon sign, and no label is.
-/

namespace NfaWorkbench

/-- The pieces between separators are what the standard library calls splitting. -/
theorem Text.pieces_eq_splitOnP {α : Type} (p : α → Bool) (l : List α) :
    pieces p l = l.splitOnP p := by
  induction l with
  | nil => rfl
  | cons a rest ih =>
    rw [List.splitOnP_cons_eq_if_modifyHead, ← ih]
    cases ha : p a with
    | true => rw [pieces_cons_sep ha, if_pos rfl]
    | false =>
      obtain ⟨piece, others, hrest, hcons⟩ := pieces_cons_of_not ha rest
      simp [hcons, hrest]

/-- What stands in joined words stands in a word or between two. -/
theorem Text.mem_intercalate {separator : String} {words : List String} {c : Char}
    (h : c ∈ (separator.intercalate words).toList) :
    c ∈ separator.toList ∨ ∃ word ∈ words, c ∈ word.toList := by
  rw [String.toList_intercalate] at h
  induction words with
  | nil => simp at h
  | cons word rest ih =>
    cases rest with
    | nil =>
      rw [List.map_singleton, List.intercalate_singleton] at h
      exact .inr ⟨word, List.mem_singleton_self word, h⟩
    | cons next others =>
      rw [List.map_cons, List.map_cons, List.intercalate_cons_cons] at h
      simp only [List.mem_append] at h
      rcases h with (hword | hbetween) | hlater
      · exact .inr ⟨word, List.mem_cons_self, hword⟩
      · exact .inl hbetween
      · rcases ih hlater with hbetween | ⟨other, hother, hc⟩
        · exact .inl hbetween
        · exact .inr ⟨other, List.mem_cons_of_mem word hother, hc⟩

/-! ## Words without blanks -/

/-- A character that may stand in a token. -/
def IsPlain (c : Char) : Prop := c ≠ ' ' ∧ c ≠ '\n' ∧ c ≠ '\r'

/-- A word that may stand as a token of a record. -/
structure IsToken (word : String) : Prop where
  ne_nil : word.toList ≠ []
  plain : ∀ c ∈ word.toList, IsPlain c

theorem IsToken.ne_empty {word : String} (h : IsToken word) : word ≠ "" := by
  rintro rfl
  exact h.ne_nil rfl

theorem IsToken.spaceless {word : String} (h : IsToken word) : ' ' ∉ word.toList :=
  fun hmem => (h.plain ' ' hmem).1 rfl

/-- A class of characters is plain if a space and the two line ends are not in it. -/
theorem isPlain_of_class {p : Char → Bool} (hspace : p ' ' = false) (hfeed : p '\n' = false)
    (hreturn : p '\r' = false) {c : Char} (h : p c = true) : IsPlain c := by
  refine ⟨?_, ?_, ?_⟩
  · rintro rfl
    simp [hspace] at h
  · rintro rfl
    simp [hfeed] at h
  · rintro rfl
    simp [hreturn] at h

theorem isPlain_of_isLetter {c : Char} (h : Text.isLetter c = true) : IsPlain c :=
  isPlain_of_class (by decide) (by decide) (by decide) h

theorem isPlain_of_isNameCharacter {c : Char} (h : isNameCharacter c = true) : IsPlain c :=
  isPlain_of_class (by decide) (by decide) (by decide) h

theorem isPlain_of_isDigit {c : Char} (h : c.isDigit = true) : IsPlain c :=
  isPlain_of_class (by decide) (by decide) (by decide) h

theorem IsName.ne_nil {name : String} (h : IsName name) : name.toList ≠ [] := by
  obtain ⟨first, rest, heq, -⟩ := h
  simp [heq]

/-- The first letter is a character that may stand in a name, like the others. -/
theorem IsName.isNameCharacter {name : String} (h : IsName name) :
    ∀ c ∈ name.toList, isNameCharacter c = true := by
  obtain ⟨first, rest, heq, hfirst, hrest⟩ := h
  intro c hc
  rw [heq] at hc
  rcases List.mem_cons.1 hc with rfl | hc
  · simp [NfaWorkbench.isNameCharacter, hfirst]
  · exact hrest c hc

theorem IsName.isToken {name : String} (h : IsName name) : IsToken name :=
  ⟨h.ne_nil, fun c hc => isPlain_of_isNameCharacter (h.isNameCharacter c hc)⟩

theorem IsLabel.isToken {label : String} (h : IsLabel label) : IsToken label :=
  ⟨h.1, fun c hc => isPlain_of_isLetter (h.2 c hc)⟩

/-- The epsilon sign is no label. -/
theorem not_isLabel_epsilonSign : ¬IsLabel epsilonSign := by
  intro h
  exact absurd (h.2 '?' (by decide)) (by decide)

theorem Coordinate.isToken_render (c : Coordinate) : IsToken c.render := by
  have hdigit : ∀ d ∈ Nat.toDigits 10 c.val.natAbs, IsPlain d := fun d hd =>
    isPlain_of_isDigit (Nat.isDigit_of_mem_toDigits (by decide) (by decide) hd)
  rw [render, Text.integerDigits]
  constructor
  · rw [String.toList_ofList]
    split
    · exact List.cons_ne_nil _ _
    · exact Nat.toDigits_ne_nil
  · intro d hd
    rw [String.toList_ofList] at hd
    split at hd
    · rcases List.mem_cons.1 hd with rfl | hd
      · exact ⟨by decide, by decide, by decide⟩
      · exact hdigit d hd
    · exact hdigit d hd

namespace Record

variable {r : Record} {text : String}

/-- A record with valid names and a valid label. -/
def Valid : Record → Prop
  | state name _ => IsName name
  | transition source label target =>
    IsName source ∧ IsName target ∧ ∀ word, label = some word → IsLabel word
  | initial name => IsName name
  | final name => IsName name

/-- The kind of a record. -/
def kind : Record → RecordKind
  | state .. => .state
  | transition .. => .transition
  | initial .. => .initial
  | final .. => .final

/-- The tokens of a record after its keyword. -/
def arguments : Record → List String
  | state name position => [name, position.x.render, position.y.render]
  | transition source label target => [source, renderLabel label, target]
  | initial name => [name]
  | final name => [name]

theorem toTokens_eq (r : Record) : r.toTokens = r.kind.keyword :: r.arguments := by
  cases r <;> rfl

theorem isToken_renderLabel {label : Option String}
    (h : ∀ word, label = some word → IsLabel word) : IsToken (renderLabel label) := by
  cases label with
  | none => exact ⟨by decide, by simp [renderLabel, epsilonSign, IsPlain]⟩
  | some word => exact (h word rfl).isToken

theorem isToken_keyword (kind : RecordKind) : IsToken kind.keyword := by
  cases kind <;> exact ⟨by decide, by simp [RecordKind.keyword, IsPlain]⟩

theorem Valid.isToken_arguments (h : r.Valid) : ∀ word ∈ r.arguments, IsToken word := by
  intro word hword
  cases r with
  | state name position =>
    simp only [arguments, List.mem_cons, List.not_mem_nil, or_false] at hword
    rcases hword with rfl | rfl | rfl
    · exact h.isToken
    · exact position.x.isToken_render
    · exact position.y.isToken_render
  | transition source label target =>
    obtain ⟨hsource, htarget, hlabel⟩ := h
    simp only [arguments, List.mem_cons, List.not_mem_nil, or_false] at hword
    rcases hword with rfl | rfl | rfl
    · exact hsource.isToken
    · exact isToken_renderLabel hlabel
    · exact htarget.isToken
  | initial name =>
    obtain rfl := List.mem_singleton.1 hword
    exact h.isToken
  | final name =>
    obtain rfl := List.mem_singleton.1 hword
    exact h.isToken

theorem Valid.isToken (h : r.Valid) : ∀ word ∈ r.toTokens, IsToken word := by
  rw [toTokens_eq, List.forall_mem_cons]
  exact ⟨isToken_keyword r.kind, h.isToken_arguments⟩

/-! ## Writing and reading a line -/

theorem tokens_eq_rdropWhile (line : List Char) :
    tokens line = (Text.pieces (· == ' ') line).rdropWhile List.isEmpty := rfl

/-- Tokens that are joined by spaces are found again if none of them holds a space and the last one
is not empty. -/
theorem tokens_intercalate {words : List String} (hspace : ∀ word ∈ words, ' ' ∉ word.toList)
    (hlast : ∀ word ∈ words.getLast?, word ≠ "") :
    tokens (" ".intercalate words).toList = words.map String.toList := by
  rcases words.eq_nil_or_concat' with rfl | ⟨front, last, rfl⟩
  · rfl
  · have hsplit : Text.pieces (· == ' ') (" ".intercalate (front ++ [last])).toList =
        (front ++ [last]).map String.toList := by
      rw [Text.pieces_eq_splitOnP, ← List.splitOn_eq_splitOnP, String.toList_intercalate]
      refine List.splitOn_intercalate ' ' ?_ (by simp)
      simpa only [List.mem_map, forall_exists_index, and_imp, forall_apply_eq_imp_iff₂] using hspace
    have hne : last ≠ "" := hlast last (by simp)
    rw [tokens_eq_rdropWhile, hsplit, List.map_append, List.map_singleton,
      List.rdropWhile_concat_neg _ _ _ (by simpa using hne)]

/-- A line that is a comment is ignored. -/
theorem read_of_comment (h : text.toList.head? = some '#') : read text = .ok none := by
  obtain ⟨rest, hrest⟩ := List.head?_eq_some_iff.1 h
  rw [read, hrest]
  rfl

/-- A line without tokens is ignored. -/
theorem read_of_tokens_nil (h : tokens text.toList = []) : read text = .ok none := by
  unfold read
  split
  · rfl
  · rw [h]
    rfl

/-- The tokens of a line that is no comment decide what it is read as. -/
theorem read_of_tokens (hcomment : text.toList.head? ≠ some '#') {keyword : String}
    {arguments : List String}
    (h : (tokens text.toList).map String.ofList = keyword :: arguments) :
    read text = (ofTokens keyword arguments).map some := by
  unfold read
  split
  · rename_i rest heq
    exact absurd (by rw [heq, List.head?_cons]) hcomment
  · rw [h]

/-- The lines that are ignored are the comments and those without tokens. -/
theorem read_eq_ok_none_iff :
    read text = .ok none ↔ text.toList.head? = some '#' ∨ tokens text.toList = [] := by
  constructor
  · intro h
    by_contra hboth
    obtain ⟨hcomment, htokens⟩ := not_or.1 hboth
    obtain ⟨keyword, arguments, hsome⟩ := List.exists_cons_of_ne_nil
      (mt List.map_eq_nil_iff.1 htokens : (tokens text.toList).map String.ofList ≠ [])
    rw [read_of_tokens hcomment hsome] at h
    cases hread : ofTokens keyword arguments <;> simp [hread, Except.map] at h
  · rintro (hcomment | htokens)
    · exact read_of_comment hcomment
    · exact read_of_tokens_nil htokens

/-- A line that is not ignored is no comment and has tokens. -/
theorem exists_tokens_of_read (h : read text ≠ .ok none) : text.toList.head? ≠ some '#' ∧
    ∃ keyword arguments, (tokens text.toList).map String.ofList = keyword :: arguments := by
  rw [Ne, read_eq_ok_none_iff, not_or] at h
  exact ⟨h.1, List.exists_cons_of_ne_nil (mt List.map_eq_nil_iff.1 h.2)⟩

/-- What is read from a line that is not ignored is read from its tokens. -/
theorem read_eq_map_some_iff (result : Except LineFault Record) :
    read text = result.map some ↔ text.toList.head? ≠ some '#' ∧
      ∃ keyword arguments, (tokens text.toList).map String.ofList = keyword :: arguments ∧
        ofTokens keyword arguments = result := by
  constructor
  · intro h
    have hsome : read text ≠ .ok none := by
      rw [h]
      cases result <;> simp [Except.map]
    obtain ⟨hcomment, keyword, arguments, htokens⟩ := exists_tokens_of_read hsome
    refine ⟨hcomment, keyword, arguments, htokens, ?_⟩
    rw [read_of_tokens hcomment htokens] at h
    cases hread : ofTokens keyword arguments <;> cases result <;> simp_all [Except.map]
  · rintro ⟨hcomment, keyword, arguments, htokens, rfl⟩
    exact read_of_tokens hcomment htokens

theorem read_eq_ok_some_iff : read text = .ok (some r) ↔ text.toList.head? ≠ some '#' ∧
    ∃ keyword arguments, (tokens text.toList).map String.ofList = keyword :: arguments ∧
      ofTokens keyword arguments = .ok r :=
  read_eq_map_some_iff (.ok r)

theorem read_eq_error_iff {fault : LineFault} :
    read text = .error fault ↔ text.toList.head? ≠ some '#' ∧
      ∃ keyword arguments, (tokens text.toList).map String.ofList = keyword :: arguments ∧
        ofTokens keyword arguments = .error fault :=
  read_eq_map_some_iff (.error fault)

/-- No line that starts with the keyword of a record is a comment. -/
theorem head?_intercalate_keyword (kind : RecordKind) (words : List String) :
    (" ".intercalate (kind.keyword :: words)).toList.head? ≠ some '#' := by
  have hkeyword : ∃ c, c ≠ '#' ∧ kind.keyword.toList.head? = some c := by
    cases kind <;> exact ⟨_, by decide, rfl⟩
  obtain ⟨c, hc, hhead⟩ := hkeyword
  have hfirst : (" ".intercalate (kind.keyword :: words)).toList.head? = some c := by
    rw [String.toList_intercalate, List.map_cons]
    cases words with
    | nil => rw [List.map_nil, List.intercalate_singleton, hhead]
    | cons word rest =>
      rw [List.map_cons, List.intercalate_cons_cons, List.append_assoc, List.head?_append, hhead]
      rfl
  rw [hfirst]
  simpa using hc

/-- A valid record is written in one line. -/
theorem Valid.not_lineEnd (h : r.Valid) : ∀ c ∈ r.render.toList, c ≠ '\n' ∧ c ≠ '\r' := by
  intro c hc
  rcases Text.mem_intercalate hc with hspace | ⟨word, hword, hc⟩
  · obtain rfl : c = ' ' := by simpa using hspace
    exact ⟨by decide, by decide⟩
  · exact ((h.isToken word hword).plain c hc).2

end Record

end NfaWorkbench
