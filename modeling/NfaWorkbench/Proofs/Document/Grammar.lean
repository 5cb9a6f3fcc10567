import Mathlib.Data.List.DropRight
import NfaWorkbench.Document.Reader
import NfaWorkbench.Proofs.Document.Encoding
import NfaWorkbench.Proofs.Document.Tokens
set_option autoImplicit false

/-!
# Documents: the grammar of a line

What a line may say is a grammar that mentions no reader: a line is its tokens with single spaces
between them, some lists of tokens spell a record, and every other list is misspelt in one way.  The
reader follows the grammar exactly.  What `Record.render` writes is one of the spellings of a
record, if the record has any.
-/

namespace NfaWorkbench

/-! ## Integers -/

namespace Text

/-- Digits that write a natural number, zeros at the front included. -/
structure WritesNat (digits : List Char) (n : Nat) : Prop where
  ne_nil : digits ≠ []
  isDigit : ∀ c ∈ digits, c.isDigit = true
  value : Nat.ofDigitChars 10 digits 0 = n

/-- The characters that write an integer: one sign or none, then digits. -/
inductive WritesInt : List Char → Int → Prop
  | unsigned {digits : List Char} {n : Nat} (h : WritesNat digits n) : WritesInt digits n
  | plus {digits : List Char} {n : Nat} (h : WritesNat digits n) : WritesInt ('+' :: digits) n
  | minus {digits : List Char} {n : Nat} (h : WritesNat digits n) : WritesInt ('-' :: digits) (-n)

theorem natural?_eq_some_iff {digits : List Char} {n : Nat} :
    natural? digits = some n ↔ WritesNat digits n := by
  constructor
  · intro h
    unfold natural? at h
    split at h
    · rename_i hdigits
      exact ⟨hdigits.1, List.all_eq_true.1 hdigits.2, Option.some.inj h⟩
    · simp at h
  · rintro ⟨hne, hdigit, rfl⟩
    exact if_pos ⟨hne, List.all_eq_true.2 hdigit⟩

theorem integer?_eq_some_iff {text : List Char} {n : Int} :
    integer? text = some n ↔ WritesInt text n := by
  constructor
  · intro h
    unfold integer? at h
    split at h <;> obtain ⟨m, hm, rfl⟩ := Option.map_eq_some_iff.1 h
    · exact .plus (natural?_eq_some_iff.1 hm)
    · exact .minus (natural?_eq_some_iff.1 hm)
    · exact .unsigned (natural?_eq_some_iff.1 hm)
  · intro h
    cases h with
    | @unsigned digits m h =>
      -- The first character is a digit, so it is not taken for a sign.
      obtain ⟨c, rest, rfl⟩ := List.exists_cons_of_ne_nil h.ne_nil
      rw [integer?_of_isDigit (h.isDigit c List.mem_cons_self), natural?_eq_some_iff.2 h]
      rfl
    | plus h => exact congrArg (Option.map Int.ofNat) (natural?_eq_some_iff.2 h)
    | minus h => exact congrArg (Option.map fun n => -Int.ofNat n) (natural?_eq_some_iff.2 h)

/-- A character that is no separator is added to the last piece. -/
theorem pieces_append_of_not {α : Type} {p : α → Bool} {a : α} (h : p a = false) (l : List α) :
    ∃ front last, pieces p l = front ++ [last] ∧ pieces p (l ++ [a]) = front ++ [last ++ [a]] := by
  induction l with
  | nil => exact ⟨[], [], rfl, by simp [pieces, h]⟩
  | cons b l ih =>
    obtain ⟨front, last, hpieces, hmore⟩ := ih
    cases hb : p b with
    | true =>
      refine ⟨[] :: front, last, ?_, ?_⟩
      · rw [pieces_cons_sep hb, hpieces, List.cons_append]
      · rw [List.cons_append, pieces_cons_sep hb, hmore, List.cons_append]
    | false =>
      cases front with
      | nil => exact ⟨[], b :: last, by simp [pieces, hb, hpieces], by simp [pieces, hb, hmore]⟩
      | cons piece others =>
        exact ⟨(b :: piece) :: others, last, by simp [pieces, hb, hpieces],
          by simp [pieces, hb, hmore]⟩

end Text

/-- A coordinate is read from the texts that write an integer of its range. -/
theorem Coordinate.parse?_eq_some_iff {text : String} {c : Coordinate} :
    parse? text = some c ↔ Text.WritesInt text.toList c.val := by
  simp only [parse?, Option.bind_eq_some_iff, ofInt?_eq_some_iff, exists_eq_right',
    Text.integer?_eq_some_iff]

theorem Coordinate.parse?_eq_none_iff {text : String} :
    parse? text = none ↔ ∀ c : Coordinate, ¬Text.WritesInt text.toList c.val := by
  simp only [Option.eq_none_iff_forall_ne_some, Ne, parse?_eq_some_iff]

namespace Record

/-! ## The tokens of a text -/

/-- A text without the spaces at its end. -/
def content (text : String) : String := String.ofList (text.toList.rdropWhile (· == ' '))

/-- A text is these tokens with single spaces between them.  No token holds a space, and the last
one is not empty. -/
structure Tokenized (text : String) (words : List String) : Prop where
  text_eq : text = " ".intercalate words
  spaceless : ∀ word ∈ words, ' ' ∉ word.toList
  last_ne : ∀ word ∈ words.getLast?, word ≠ ""

/-- A space at the end of a line makes no token. -/
theorem tokens_append_space (line : List Char) : tokens (line ++ [' ']) = tokens line := by
  rw [tokens_eq_rdropWhile, Text.pieces_append_sep rfl, Text.pieces_nil,
    List.rdropWhile_concat_pos _ _ _ rfl]
  rfl

/-- The tokens of a line with single spaces between them are the line without the spaces at its end,
and the last token is not empty. -/
theorem intercalate_tokens (line : List Char) :
    [' '].intercalate (tokens line) = line.rdropWhile (· == ' ') ∧
      ∀ token ∈ (tokens line).getLast?, token ≠ [] := by
  induction line using List.reverseRecOn with
  | nil => exact ⟨rfl, by simp [tokens]⟩
  | append_singleton line c ih =>
    by_cases hc : c = ' '
    · subst hc
      rw [tokens_append_space, List.rdropWhile_concat_pos _ _ _ rfl]
      exact ih
    · obtain ⟨front, last, -, hpieces⟩ :=
        Text.pieces_append_of_not (p := (· == ' ')) (by simpa using hc) line
      have htokens : tokens (line ++ [c]) = Text.pieces (· == ' ') (line ++ [c]) := by
        rw [tokens_eq_rdropWhile, hpieces, List.rdropWhile_concat_neg _ _ _ (by simp)]
      constructor
      · rw [htokens, Text.pieces_eq_splitOnP, ← List.splitOn_eq_splitOnP, List.intercalate_splitOn,
          List.rdropWhile_concat_neg _ _ _ (by simpa using hc)]
      · simp [htokens, hpieces]

/-- The spaces at the end of a line make no tokens. -/
theorem tokens_rdropWhile (line : List Char) :
    tokens (line.rdropWhile (· == ' ')) = tokens line := by
  induction line using List.reverseRecOn with
  | nil => rfl
  | append_singleton line c ih =>
    by_cases hc : c = ' '
    · subst hc
      rw [List.rdropWhile_concat_pos _ _ _ rfl, ih, tokens_append_space]
    · rw [List.rdropWhile_concat_neg _ _ _ (by simpa using hc)]

theorem not_mem_space_of_mem_tokens {line token : List Char} (h : token ∈ tokens line) :
    ' ' ∉ token := by
  have hpiece : token ∈ Text.pieces (· == ' ') line :=
    (List.rdropWhile_prefix _ _).subset h
  intro hmem
  have := Text.not_sep_of_mem_pieces hpiece ' ' hmem
  simp at this

/-- The tokens of a text are those that make up its content. -/
theorem tokenized_content_iff {text : String} {words : List String} :
    Tokenized (content text) words ↔ (tokens text.toList).map String.ofList = words := by
  constructor
  · rintro ⟨htext, hspace, hlast⟩
    have htokens : tokens (content text).toList = tokens text.toList := by
      rw [content, String.toList_ofList, tokens_rdropWhile]
    rw [← htokens, htext, tokens_intercalate hspace hlast, List.map_map]
    simp
  · rintro rfl
    obtain ⟨hjoined, hlast⟩ := intercalate_tokens text.toList
    refine ⟨?_, ?_, ?_⟩
    · rw [← String.toList_inj, String.toList_intercalate, content, String.toList_ofList, ← hjoined,
        List.map_map]
      simp
    · simp only [List.forall_mem_map, String.toList_ofList]
      exact fun token htoken => not_mem_space_of_mem_tokens htoken
    · intro word hword
      rw [List.getLast?_map] at hword
      obtain ⟨token, htoken, rfl⟩ := Option.map_eq_some_iff.1 hword
      simpa using hlast token htoken

/-! ## What the tokens say -/

variable {kind : RecordKind} {words : List String} {r : Record} {fault : LineFault} {text : String}

/-- The tokens that spell a record. -/
inductive Spells : List String → Record → Prop
  | state {name x y : String} {position : Position}
      (hx : Text.WritesInt x.toList position.x.val) (hy : Text.WritesInt y.toList position.y.val) :
      Spells ["state", name, x, y] (.state name position)
  /-- A question mark is no label. -/
  | epsilon (source target : String) :
      Spells ["transition", source, "?", target] (.transition source none target)
  | transition {source label target : String} (hlabel : label ≠ "?") :
      Spells ["transition", source, label, target] (.transition source (some label) target)
  | initial (name : String) : Spells ["initial", name] (.initial name)
  | final (name : String) : Spells ["final", name] (.final name)

/-- The first thing that is wrong with tokens that spell no record. -/
inductive Misspells : List String → LineFault → Prop
  | unknownRecord {keyword : String} (rest : List String)
      (hkeyword : ∀ kind : RecordKind, keyword ≠ kind.keyword) :
      Misspells (keyword :: rest) (.unknownRecord keyword)
  | tokenCount {kind : RecordKind} {rest : List String} (hcount : rest.length + 1 ≠ kind.width) :
      Misspells (kind.keyword :: rest) (.tokenCount kind (rest.length + 1))
  | invalidX (name : String) {x : String} (y : String)
      (hx : ∀ c : Coordinate, ¬Text.WritesInt x.toList c.val) :
      Misspells ["state", name, x, y] (.invalidCoordinate x)
  | invalidY (name : String) {x y : String} {c : Coordinate} (hx : Text.WritesInt x.toList c.val)
      (hy : ∀ c : Coordinate, ¬Text.WritesInt y.toList c.val) :
      Misspells ["state", name, x, y] (.invalidCoordinate y)

theorem Spells.ofTokens_eq {keyword : String} {rest : List String}
    (h : Spells (keyword :: rest) r) : ofTokens keyword rest = .ok r := by
  cases h with
  | state hx hy =>
    simp [ofTokens, RecordKind.ofKeyword?, ofArguments, readState,
      Coordinate.parse?_eq_some_iff.2 hx, Coordinate.parse?_eq_some_iff.2 hy]
  | epsilon source target => rfl
  | @transition source label target hlabel =>
    have hlabel' : labelOfWord label = some label := if_neg hlabel
    simp [ofTokens, RecordKind.ofKeyword?, ofArguments, hlabel']
  | initial name => rfl
  | final name => rfl

/-- A record with the wrong number of tokens is refused for it. -/
theorem ofArguments_of_length_ne (h : words.length + 1 ≠ kind.width) :
    ofArguments kind words = .error (.tokenCount kind (words.length + 1)) := by
  unfold ofArguments
  split <;> first | rfl | exact absurd rfl h

theorem Misspells.ofTokens_eq {keyword : String} {rest : List String}
    (h : Misspells (keyword :: rest) fault) : ofTokens keyword rest = .error fault := by
  cases h with
  | unknownRecord rest hkeyword =>
    have hnone : RecordKind.ofKeyword? keyword = none :=
      Option.eq_none_iff_forall_ne_some.2 fun kind hkind =>
        hkeyword kind (RecordKind.ofKeyword?_eq_some_iff.1 hkind)
    rw [ofTokens, hnone]
  | tokenCount hcount =>
    rw [ofTokens, RecordKind.ofKeyword?_keyword]
    exact ofArguments_of_length_ne hcount
  | invalidX name y hx =>
    simp [ofTokens, RecordKind.ofKeyword?, ofArguments, readState,
      Coordinate.parse?_eq_none_iff.2 hx]
  | invalidY name hx hy =>
    simp [ofTokens, RecordKind.ofKeyword?, ofArguments, readState,
      Coordinate.parse?_eq_some_iff.2 hx, Coordinate.parse?_eq_none_iff.2 hy]

/-- Tokens either spell a record or are misspelt. -/
theorem spells_or_misspells (keyword : String) (rest : List String) :
    (∃ r, Spells (keyword :: rest) r) ∨ ∃ fault, Misspells (keyword :: rest) fault := by
  by_cases hkeyword : ∃ kind : RecordKind, keyword = kind.keyword
  · obtain ⟨kind, rfl⟩ := hkeyword
    by_cases hcount : rest.length + 1 = kind.width
    · cases kind with
      | state =>
        obtain ⟨name, x, y, rfl⟩ := List.length_eq_three.1 (Nat.succ.inj hcount)
        by_cases hx : ∃ c : Coordinate, Text.WritesInt x.toList c.val
        · obtain ⟨cx, hx⟩ := hx
          by_cases hy : ∃ c : Coordinate, Text.WritesInt y.toList c.val
          · obtain ⟨cy, hy⟩ := hy
            exact .inl ⟨.state name ⟨cx, cy⟩, .state hx hy⟩
          · exact .inr ⟨_, .invalidY name hx (not_exists.1 hy)⟩
        · exact .inr ⟨_, .invalidX name y (not_exists.1 hx)⟩
      | transition =>
        obtain ⟨source, label, target, rfl⟩ := List.length_eq_three.1 (Nat.succ.inj hcount)
        by_cases hlabel : label = "?"
        · subst hlabel
          exact .inl ⟨_, .epsilon source target⟩
        · exact .inl ⟨_, .transition hlabel⟩
      | initial =>
        obtain ⟨name, rfl⟩ := List.length_eq_one_iff.1 (Nat.succ.inj hcount)
        exact .inl ⟨_, .initial name⟩
      | final =>
        obtain ⟨name, rfl⟩ := List.length_eq_one_iff.1 (Nat.succ.inj hcount)
        exact .inl ⟨_, .final name⟩
    · exact .inr ⟨_, .tokenCount hcount⟩
  · exact .inr ⟨_, .unknownRecord rest (not_exists.1 hkeyword)⟩

theorem ofTokens_eq_ok_iff {keyword : String} {rest : List String} :
    ofTokens keyword rest = .ok r ↔ Spells (keyword :: rest) r := by
  refine ⟨fun h => ?_, Spells.ofTokens_eq⟩
  obtain ⟨s, hs⟩ | ⟨fault, hfault⟩ := spells_or_misspells keyword rest
  · rw [hs.ofTokens_eq] at h
    exact Except.ok.inj h ▸ hs
  · simp [hfault.ofTokens_eq] at h

theorem ofTokens_eq_error_iff {keyword : String} {rest : List String} :
    ofTokens keyword rest = .error fault ↔ Misspells (keyword :: rest) fault := by
  refine ⟨fun h => ?_, Misspells.ofTokens_eq⟩
  obtain ⟨s, hs⟩ | ⟨other, hother⟩ := spells_or_misspells keyword rest
  · simp [hs.ofTokens_eq] at h
  · rw [hother.ofTokens_eq] at h
    exact Except.error.inj h ▸ hother

/-! ## Reading a line -/

theorem content_eq_empty_iff : content text = "" ↔ tokens text.toList = [] := by
  constructor
  · intro h
    have hnone : Tokenized (content text) [] := ⟨h, by simp, by simp⟩
    exact List.map_eq_nil_iff.1 (tokenized_content_iff.1 hnone)
  · intro h
    exact (tokenized_content_iff.2 (List.map_eq_nil_iff.2 h)).text_eq

/-- A line whose first token is the keyword of a record is no comment. -/
theorem Tokenized.head?_ne (h : Tokenized (content text) (kind.keyword :: words)) :
    text.toList.head? ≠ some '#' := by
  have hhead := head?_intercalate_keyword kind words
  rw [← h.text_eq, content, String.toList_ofList] at hhead
  obtain ⟨spaces, hspaces⟩ := List.rdropWhile_prefix (· == ' ') text.toList
  cases hcontent : text.toList.rdropWhile (· == ' ') with
  | nil =>
    have hempty : content text = "" := by rw [content, hcontent]
    have hnone := tokenized_content_iff.1 h
    rw [content_eq_empty_iff.1 hempty] at hnone
    nomatch hnone
  | cons c rest =>
    rw [← hspaces, hcontent]
    rw [hcontent] at hhead
    exact hhead

theorem read_eq_record_iff :
    read text = .ok (some r) ↔ ∃ words, Tokenized (content text) words ∧ Spells words r := by
  rw [read_eq_ok_some_iff]
  constructor
  · rintro ⟨-, keyword, rest, htokens, hread⟩
    exact ⟨_, tokenized_content_iff.2 htokens, ofTokens_eq_ok_iff.1 hread⟩
  · rintro ⟨words, htokens, hspells⟩
    have hkeyword : ∃ rest, words = r.kind.keyword :: rest := by
      cases hspells <;> exact ⟨_, rfl⟩
    obtain ⟨rest, rfl⟩ := hkeyword
    exact ⟨htokens.head?_ne, _, rest, tokenized_content_iff.1 htokens, hspells.ofTokens_eq⟩

theorem read_eq_fault_iff : read text = .error fault ↔ text.toList.head? ≠ some '#' ∧
    ∃ words, Tokenized (content text) words ∧ Misspells words fault := by
  rw [read_eq_error_iff]
  constructor
  · rintro ⟨hcomment, keyword, rest, htokens, hread⟩
    exact ⟨hcomment, _, tokenized_content_iff.2 htokens, ofTokens_eq_error_iff.1 hread⟩
  · rintro ⟨hcomment, words, htokens, hmisspells⟩
    obtain ⟨keyword, rest, rfl⟩ : ∃ keyword rest, words = keyword :: rest := by
      cases hmisspells <;> exact ⟨_, _, rfl⟩
    exact ⟨hcomment, keyword, rest, tokenized_content_iff.1 htokens, hmisspells.ofTokens_eq⟩

/-- A space at the end of a line makes no difference to what is read. -/
theorem read_append_space (text : String) : read (text ++ " ") = read text := by
  have hhead : (text ++ " ").toList.head? = some '#' ↔ text.toList.head? = some '#' := by
    cases htext : text.toList <;> simp [htext]
  have htokens : tokens (text ++ " ").toList = tokens text.toList := by
    rw [String.toList_append]
    exact tokens_append_space text.toList
  by_cases hcomment : text.toList.head? = some '#'
  · rw [read_of_comment hcomment, read_of_comment (hhead.2 hcomment)]
  · cases hwords : (tokens text.toList).map String.ofList with
    | nil =>
      have hnil := List.map_eq_nil_iff.1 hwords
      rw [read_of_tokens_nil hnil, read_of_tokens_nil (htokens.trans hnil)]
    | cons keyword rest =>
      rw [read_of_tokens hcomment hwords,
        read_of_tokens (mt hhead.1 hcomment) (htokens ▸ hwords)]

/-! ## Writing and reading a line -/

/-- A record that some line spells: its texts hold no space, the last token is not empty, and no
label is written like the missing one. -/
def Writable : Record → Prop
  | state name _ => ' ' ∉ name.toList
  | transition source label target => ' ' ∉ source.toList ∧ (' ' ∉ target.toList ∧ target ≠ "") ∧
    ∀ word, label = some word → ' ' ∉ word.toList ∧ word ≠ "?"
  | initial name => ' ' ∉ name.toList ∧ name ≠ ""
  | final name => ' ' ∉ name.toList ∧ name ≠ ""

theorem Valid.writable (h : r.Valid) : r.Writable := by
  cases r with
  | state name position => exact (IsName.isToken h).spaceless
  | transition source label target =>
    obtain ⟨hsource, htarget, hlabel⟩ := h
    refine ⟨hsource.isToken.spaceless, ⟨htarget.isToken.spaceless, htarget.isToken.ne_empty⟩, ?_⟩
    intro word hword
    refine ⟨(hlabel word hword).isToken.spaceless, ?_⟩
    rintro rfl
    exact not_isLabel_epsilonSign (hlabel _ hword)
  | initial name => exact ⟨(IsName.isToken h).spaceless, (IsName.isToken h).ne_empty⟩
  | final name => exact ⟨(IsName.isToken h).spaceless, (IsName.isToken h).ne_empty⟩

theorem Writable.spells (h : r.Writable) : Spells r.toTokens r := by
  cases r with
  | state name position =>
    exact .state (Coordinate.parse?_eq_some_iff.1 position.x.parse?_render)
      (Coordinate.parse?_eq_some_iff.1 position.y.parse?_render)
  | transition source label target =>
    cases label with
    | none => exact .epsilon source target
    | some word => exact .transition (h.2.2 word rfl).2
  | initial name => exact .initial name
  | final name => exact .final name

theorem Writable.spaceless (h : r.Writable) : ∀ word ∈ r.toTokens, ' ' ∉ word.toList := by
  rw [toTokens_eq, List.forall_mem_cons]
  refine ⟨(isToken_keyword r.kind).spaceless, ?_⟩
  cases r with
  | state name position =>
    simp only [arguments, List.forall_mem_cons]
    exact ⟨h, position.x.isToken_render.spaceless, position.y.isToken_render.spaceless, by simp⟩
  | transition source label target =>
    obtain ⟨hsource, htarget, hlabel⟩ := h
    simp only [arguments, List.forall_mem_cons]
    refine ⟨hsource, ?_, htarget.1, by simp⟩
    cases label with
    | none => decide
    | some word => exact (hlabel word rfl).1
  | initial name => simpa [arguments] using h.1
  | final name => simpa [arguments] using h.1

theorem Writable.last_ne (h : r.Writable) : ∀ word ∈ r.toTokens.getLast?, word ≠ "" := by
  cases r with
  | state name position => simpa [toTokens] using position.y.isToken_render.ne_empty
  | transition source label target => simpa [toTokens] using h.2.1.2
  | initial name => simpa [toTokens] using h.2
  | final name => simpa [toTokens] using h.2

theorem Spells.writable (h : Spells words r) (hspace : ∀ word ∈ words, ' ' ∉ word.toList)
    (hlast : ∀ word ∈ words.getLast?, word ≠ "") : r.Writable := by
  cases h with
  | state hx hy => exact hspace _ (by simp)
  | epsilon source target =>
    exact ⟨hspace source (by simp), ⟨hspace target (by simp), hlast target rfl⟩, by simp⟩
  | @transition source label target hlabel =>
    refine ⟨hspace source (by simp), ⟨hspace target (by simp), hlast target rfl⟩, ?_⟩
    intro word hword
    obtain rfl := Option.some.inj hword
    exact ⟨hspace label (by simp), hlabel⟩
  | initial name => exact ⟨hspace name (by simp), hlast name rfl⟩
  | final name => exact ⟨hspace name (by simp), hlast name rfl⟩

/-- The records that are read back from what is written are those that some line spells. -/
theorem read_render_iff : read r.render = .ok (some r) ↔ r.Writable := by
  rw [read_eq_record_iff]
  constructor
  · rintro ⟨words, htokens, hspells⟩
    exact hspells.writable htokens.spaceless htokens.last_ne
  · intro h
    refine ⟨r.toTokens, tokenized_content_iff.2 ?_, h.spells⟩
    rw [render, tokens_intercalate h.spaceless h.last_ne, List.map_map]
    simp

theorem Valid.read_render (h : r.Valid) : read r.render = .ok (some r) :=
  read_render_iff.2 h.writable

/-- A line is ignored if it is a comment or holds nothing but spaces, it is a record if its tokens
spell one, and else it is refused, under its number, for the first thing that is wrong with them.  A
record that is read is read again from the line that is written for it, and so is every record that
any line spells. -/
theorem read_grammar (text : String) :
    (read text = .ok none ↔ text.toList.head? = some '#' ∨ content text = "") ∧
    (∀ r, read text = .ok (some r) ↔
      ∃ words, Tokenized (content text) words ∧ Spells words r) ∧
    (∀ fault, read text = .error fault ↔ text.toList.head? ≠ some '#' ∧
      ∃ words, Tokenized (content text) words ∧ Misspells words fault) ∧
    (∀ fault, read text = .error fault → ∀ (g : Graph) number later,
      g.readLines number (Document.encode text :: later) = .error (.line number fault)) ∧
    (∀ r, read text = .ok (some r) → read r.render = .ok (some r)) ∧
    ∀ r, read r.render = .ok (some r) ↔ r.Writable := by
  refine ⟨?_, fun r => read_eq_record_iff, fun fault => read_eq_fault_iff, ?_, ?_,
    fun r => read_render_iff⟩
  · rw [read_eq_ok_none_iff, content_eq_empty_iff]
  · intro fault hread g number later
    rw [Graph.readLines, Graph.readLine, Document.decodeLine_eq_some_iff.2 rfl]
    simp only [hread]
  · intro r hread
    obtain ⟨words, htokens, hspells⟩ := read_eq_record_iff.1 hread
    exact read_render_iff.2 (hspells.writable htokens.spaceless htokens.last_ne)

/-- A state whose coordinates have signs. -/
def signedState : Record := .state "a" ⟨⟨7, by decide, by decide⟩, ⟨-3, by decide, by decide⟩⟩

theorem read_grammar_signedState :
    (∃ words, Tokenized (content "state a +07 -3  ") words ∧ Spells words signedState) ∧
    read signedState.render = .ok (some signedState) ∧
    (∃ words, Tokenized (content "state a -  0") words ∧
      Misspells words (.tokenCount .state 5)) ∧
    ∀ (g : Graph) number later, g.readLines number (Document.encode "state a -  0" :: later) =
      .error (.line number (.tokenCount .state 5)) := by
  have hread : read "state a +07 -3  " = .ok (some signedState) := by decide +kernel
  have hfault : read "state a -  0" = .error (.tokenCount .state 5) := by decide +kernel
  obtain ⟨-, hspells, -, -, hagain, -⟩ := read_grammar "state a +07 -3  "
  obtain ⟨-, -, hmisspells, hline, -, -⟩ := read_grammar "state a -  0"
  exact ⟨(hspells _).1 hread, hagain _ hread, ((hmisspells _).1 hfault).2, hline _ hfault⟩

end Record

end NfaWorkbench
