import NfaWorkbench.Editor.Command
import NfaWorkbench.Proofs.Document.Tokens
set_option autoImplicit false

/-!
# Editor: words and tokens

A document is cut into tokens at single spaces, a command line into words at blanks of any kind.
Where no token is empty or holds a blank the two agree.  That is so for the records that a graph
takes: no name, no label and no number holds a blank.  A comment is never a command, because no
command word starts with its sign.
-/

namespace NfaWorkbench

namespace Text

variable {α : Type}

/-! ## Pieces -/

/-- Two separators that agree on a list cut it alike. -/
theorem pieces_congr {p q : α → Bool} {l : List α} (h : ∀ a ∈ l, p a = q a) :
    pieces p l = pieces q l := by
  induction l with
  | nil => rfl
  | cons a rest ih =>
    obtain ⟨ha, hrest⟩ := List.forall_mem_cons.1 h
    rw [pieces, pieces, ha, ih hrest]

/-- What is no separator stands in a piece. -/
theorem exists_piece_of_mem {p : α → Bool} {l : List α} {a : α} (h : a ∈ l) (ha : p a = false) :
    ∃ piece ∈ pieces p l, a ∈ piece := by
  induction l with
  | nil => simp at h
  | cons b rest ih =>
    cases hb : p b with
    | true =>
      obtain rfl | hrest := List.mem_cons.1 h
      · simp [ha] at hb
      · obtain ⟨piece, hpiece, hmem⟩ := ih hrest
        exact ⟨piece, pieces_cons_sep hb rest ▸ List.mem_cons_of_mem _ hpiece, hmem⟩
    | false =>
      obtain ⟨first, others, hsplit, hcons⟩ := pieces_cons_of_not hb rest
      rw [hcons]
      obtain rfl | hrest := List.mem_cons.1 h
      · exact ⟨_, List.mem_cons_self, List.mem_cons_self⟩
      · obtain ⟨piece, hpiece, hmem⟩ := ih hrest
        rw [hsplit] at hpiece
        obtain rfl | hlater := List.mem_cons.1 hpiece
        · exact ⟨_, List.mem_cons_self, List.mem_cons_of_mem b hmem⟩
        · exact ⟨piece, List.mem_cons_of_mem _ hlater, hmem⟩

/-! ## Characters that are no blanks -/

/-- Two classes of characters have nothing in common if the intervals of the one hold no code point
of the other. -/
theorem Ranges.contains_eq_false {first second : Ranges}
    (h : ∀ r ∈ first, ∀ code ∈ List.range' r.1 (r.2 + 1 - r.1), second.contains code = false)
    {code : Nat} (hcode : first.contains code = true) : second.contains code = false := by
  obtain ⟨r, hr, hfirst, hlast⟩ := Ranges.exists_mem_of_contains hcode
  exact h r hr code (List.mem_range'_1.2 ⟨hfirst, by omega⟩)

theorem isBlank_eq_false_of_isLetter {c : Char} (h : isLetter c = true) : isBlank c = false := by
  refine Bool.eq_false_iff.2 fun hblank => ?_
  have hletter : isLetter c = false := Ranges.contains_eq_false (by decide +kernel) hblank
  simp [hletter] at h

theorem isBlank_eq_false_of_isNumeral {c : Char} (h : isNumeral c = true) : isBlank c = false := by
  refine Bool.eq_false_iff.2 fun hblank => ?_
  have hnumeral : isNumeral c = false := Ranges.contains_eq_false (by decide +kernel) hblank
  simp [hnumeral] at h

/-- The characters of ASCII that can be seen are no blanks. -/
theorem isBlank_eq_false_of_visible {c : Char} (hmin : 0x20 < c.toNat) (hmax : c.toNat < 0x7F) :
    isBlank c = false := by
  simp only [isBlank, blankRanges, Ranges.contains]
  rw [if_neg (by omega), if_neg (by omega), if_neg (by omega), if_neg (by omega), if_pos (by omega)]

theorem isBlank_eq_false_of_isDigit {c : Char} (h : c.isDigit = true) : isBlank c = false := by
  have hnat : c.val.toNat = c.toNat := rfl
  simp only [Char.isDigit, Bool.and_eq_true, decide_eq_true_eq, ge_iff_le, UInt32.le_iff_toNat_le,
    hnat] at h
  obtain ⟨hmin, hmax⟩ := h
  have hzero : '0'.val.toNat = 48 := rfl
  have hnine : '9'.val.toNat = 57 := rfl
  exact isBlank_eq_false_of_visible (by omega) (by omega)

/-! ## Tokens and words -/

/-- A text that can stand as a word: not empty and without blanks. -/
def IsWord (word : String) : Prop := word.toList ≠ [] ∧ ∀ c ∈ word.toList, isBlank c = false

theorem isWord_of_isName {name : String} (h : IsName name) : IsWord name := by
  refine ⟨h.ne_nil, fun c hc => ?_⟩
  have hname := h.isNameCharacter c hc
  simp only [isNameCharacter, Bool.or_eq_true, decide_eq_true_eq] at hname
  obtain (hletter | hnumeral) | rfl := hname
  · exact isBlank_eq_false_of_isLetter hletter
  · exact isBlank_eq_false_of_isNumeral hnumeral
  · exact isBlank_eq_false_of_visible (by decide) (by decide)

theorem isWord_of_isLabel {label : String} (h : IsLabel label) : IsWord label :=
  ⟨h.1, fun c hc => isBlank_eq_false_of_isLetter (h.2 c hc)⟩

theorem isWord_epsilonSign : IsWord epsilonSign := by
  simp [IsWord, epsilonSign, isBlank_eq_false_of_visible]

theorem isDigit_of_natural? {digits : List Char} {n : Nat} (h : natural? digits = some n) :
    digits ≠ [] ∧ ∀ c ∈ digits, c.isDigit = true := by
  unfold natural? at h
  split at h
  · rename_i hdigits
    exact ⟨hdigits.1, List.all_eq_true.1 hdigits.2⟩
  · simp at h

/-- A number has a sign and digits, and no blanks. -/
theorem isWord_of_parse? {text : String} {c : Coordinate} (h : Coordinate.parse? text = some c) :
    IsWord text := by
  obtain ⟨n, hn, -⟩ := Option.bind_eq_some_iff.1 h
  have hdigits : ∀ {digits : List Char} {f : Nat → Int}, (natural? digits).map f = some n →
      digits ≠ [] ∧ ∀ c ∈ digits, isBlank c = false := by
    intro digits f hmap
    obtain ⟨m, hm, -⟩ := Option.map_eq_some_iff.1 hmap
    obtain ⟨hne, hdigit⟩ := isDigit_of_natural? hm
    exact ⟨hne, fun c hc => isBlank_eq_false_of_isDigit (hdigit c hc)⟩
  have hsign : ∀ {sign : Char} {digits : List Char} {f : Nat → Int}, isBlank sign = false →
      (natural? digits).map f = some n → ∀ c ∈ sign :: digits, isBlank c = false :=
    fun hsign hmap => List.forall_mem_cons.2 ⟨hsign, (hdigits hmap).2⟩
  unfold integer? at hn
  split at hn
  · rename_i digits heq
    rw [IsWord, heq]
    exact ⟨List.cons_ne_nil _ _, hsign (isBlank_eq_false_of_visible (by decide) (by decide)) hn⟩
  · rename_i digits heq
    rw [IsWord, heq]
    exact ⟨List.cons_ne_nil _ _, hsign (isBlank_eq_false_of_visible (by decide) (by decide)) hn⟩
  · exact hdigits hn

/-- The pieces that are no tokens are empty. -/
theorem pieces_eq_tokens_append (line : List Char) : ∃ rest,
    pieces (· == ' ') line = Record.tokens line ++ rest ∧ ∀ piece ∈ rest, piece = [] := by
  let backwards := (pieces (· == ' ') line).reverse
  refine ⟨(backwards.takeWhile List.isEmpty).reverse, ?_, fun piece hpiece => ?_⟩
  · rw [Record.tokens, ← List.reverse_append, List.takeWhile_append_dropWhile, List.reverse_reverse]
  · simpa using List.all_eq_true.1 List.all_takeWhile piece (List.mem_reverse.1 hpiece)

/-- Where the tokens of a line are words, they are its words. -/
theorem words_eq_tokens {text : String}
    (h : ∀ token ∈ Record.tokens text.toList, IsWord (String.ofList token)) :
    words text = (Record.tokens text.toList).map String.ofList := by
  obtain ⟨rest, hpieces, hrest⟩ := pieces_eq_tokens_append text.toList
  have hblank : ∀ c ∈ text.toList, isBlank c = (c == ' ') := by
    intro c hc
    cases hspace : c == ' ' with
    | true =>
      obtain rfl : c = ' ' := by simpa using hspace
      decide
    | false =>
      obtain ⟨piece, hpiece, hmem⟩ := exists_piece_of_mem (p := (· == ' ')) hc hspace
      rw [hpieces] at hpiece
      obtain htoken | hempty := List.mem_append.1 hpiece
      · exact (h piece htoken).2 c (by simpa using hmem)
      · simp [hrest piece hempty] at hmem
  have hkept : (Record.tokens text.toList).filter (!·.isEmpty) = Record.tokens text.toList := by
    refine List.filter_eq_self.2 fun token htoken => ?_
    have hne := (h token htoken).1
    simpa using hne
  have hdropped : rest.filter (!·.isEmpty) = [] := by
    refine List.filter_eq_nil_iff.2 fun piece hpiece => ?_
    simp [hrest piece hpiece]
  rw [words, pieces_congr hblank, hpieces, List.filter_append, hkept, hdropped, List.append_nil]

/-- Two words with a space between them are found again. -/
theorem words_pair {first second : String} (hfirst : IsWord first) (hsecond : IsWord second) :
    words (first ++ " " ++ second) = [first, second] := by
  have htext : (first ++ " " ++ second).toList = first.toList ++ ' ' :: second.toList := by simp
  have hspace : isBlank ' ' = true := by decide
  have hpieces : pieces isBlank (first ++ " " ++ second).toList =
      [first.toList, second.toList] := by
    rw [htext, pieces_append_sep hspace, pieces_of_forall_not hfirst.2,
      pieces_of_forall_not hsecond.2, List.singleton_append]
  rw [words, hpieces]
  simp [hfirst.1, hsecond.1]

/-- The first word of a text that does not start with a blank starts as the text does. -/
theorem words_eq_cons {text : String} {c : Char} (h : text.toList.head? = some c)
    (hc : isBlank c = false) :
    ∃ word others, words text = word :: others ∧ word.toList.head? = some c := by
  obtain ⟨rest, htext⟩ := List.head?_eq_some_iff.1 h
  obtain ⟨piece, others, hpieces, hcons⟩ := pieces_cons_of_not hc rest
  refine ⟨String.ofList (c :: piece), (others.filter (!·.isEmpty)).map String.ofList, ?_, ?_⟩
  · rw [words, htext, hcons]
    simp
  · simp

/-- A number sign is its own lower case. -/
theorem head?_lowerCase {word : String} (h : word.toList.head? = some '#') :
    (lowerCase word).toList.head? = some '#' := by
  obtain ⟨rest, hword⟩ := List.head?_eq_some_iff.1 h
  rw [lowerCase, String.toList_ofList, hword, lowerCaseAfter]
  simp [lowerCaseBetween, lowerCaseIn, capitalRuns]

end Text

namespace Editor.Command

/-- No command word starts with a number sign. -/
theorem ofWords_eq_unknown {word : String} (h : word.toList.head? = some '#')
    (arguments : List String) : ofWords word arguments = .error (.unknownCommand word) := by
  have hne : ∀ known : String, known.toList.head? ≠ some '#' → (word = known) = False := by
    intro known hknown
    simp only [eq_iff_iff, iff_false]
    rintro rfl
    exact hknown h
  unfold ofWords
  simp (disch := decide) only [hne, or_self, if_false]

/-- A comment is no command. -/
theorem read_eq_unknown {line : String} (h : line.toList.head? = some '#') :
    ∃ word, read line = some (.error (.unknownCommand word)) := by
  obtain ⟨word, arguments, hwords, hword⟩ :=
    Text.words_eq_cons h (Text.isBlank_eq_false_of_visible (by decide) (by decide))
  refine ⟨Text.lowerCase word, ?_⟩
  rw [read, hwords]
  exact congrArg some (ofWords_eq_unknown (Text.head?_lowerCase hword) arguments)

end Editor.Command

end NfaWorkbench
