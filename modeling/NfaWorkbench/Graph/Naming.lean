import NfaWorkbench.Text.Letter
import NfaWorkbench.Text.Numeral
set_option autoImplicit false

/-!
# Graph: names of states and labels of transitions

A state name is a letter followed by letters, numerals and underscores.  An event label is a
nonempty word of letters.  Letters and numerals are those of any script.
-/

namespace NfaWorkbench

/-- Why a text is not a state name. -/
inductive NameFault
  /-- The text is empty. -/
  | empty
  /-- The first character is not a letter. -/
  | badStart
  /-- A later character is no letter, no numeral and no underscore. -/
  | badCharacter
  deriving DecidableEq, Repr

/-- Why a text is not an event label. -/
inductive LabelFault
  /-- The text is empty. -/
  | empty
  /-- Some character is not a letter. -/
  | notLetters
  deriving DecidableEq, Repr

/-- The wording of a fault in a name. -/
def NameFault.message : NameFault → String
  | empty => "name is empty"
  | badStart => "name must begin with a letter"
  | badCharacter => "only letters, digits and underscores are allowed"

/-- The wording of a fault in a label. -/
def LabelFault.message : LabelFault → String
  | empty => "label is empty"
  | notLetters => "label must contain letters only"

/-- The characters that may follow the first letter of a name. -/
def isNameCharacter (c : Char) : Bool := Text.isLetter c || Text.isNumeral c || c = '_'

/-- What is wrong with a state name, `none` if nothing is. -/
def nameFault? (name : String) : Option NameFault :=
  match name.toList with
  | [] => some .empty
  | first :: rest =>
    if Text.isLetter first then
      if rest.all isNameCharacter then none else some .badCharacter
    else some .badStart

/-- What is wrong with an event label, `none` if nothing is. -/
def labelFault? (label : String) : Option LabelFault :=
  match label.toList with
  | [] => some .empty
  | letters => if letters.all Text.isLetter then none else some .notLetters

/-- The texts that are state names. -/
def IsName (name : String) : Prop :=
  ∃ first rest, name.toList = first :: rest ∧ Text.isLetter first = true ∧
    ∀ c ∈ rest, isNameCharacter c = true

/-- The texts that are event labels. -/
def IsLabel (label : String) : Prop :=
  label.toList ≠ [] ∧ ∀ c ∈ label.toList, Text.isLetter c = true

theorem nameFault?_eq_none_iff {name : String} : nameFault? name = none ↔ IsName name := by
  unfold nameFault? IsName
  cases name.toList with
  | nil => simp
  | cons first rest =>
    simp only [List.cons.injEq]
    constructor
    · intro h
      split at h
      · split at h
        · rename_i hf hr
          exact ⟨first, rest, ⟨rfl, rfl⟩, hf, by simpa using hr⟩
        · simp at h
      · simp at h
    · rintro ⟨_, _, ⟨rfl, rfl⟩, hf, hr⟩
      simp_all

theorem labelFault?_eq_none_iff {label : String} : labelFault? label = none ↔ IsLabel label := by
  unfold labelFault? IsLabel
  cases label.toList with
  | nil => simp
  | cons first rest => simp

end NfaWorkbench
