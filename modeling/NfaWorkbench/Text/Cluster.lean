import NfaWorkbench.Text.Cluster.Classes
set_option autoImplicit false

/-!
# Text: clusters

A text is cut into clusters, each of which a reader sees as one character, by the Unicode rules for
extended grapheme clusters.  Whether a character belongs to the cluster before it depends on that
cluster only through a few facts, which `State` keeps.

Main statement: no character is lost (`flatten_clusters`).
-/

namespace NfaWorkbench.Text

namespace Cluster

/-- How far a character that ends a cluster has got towards joining the next one. -/
inductive Progress
  /-- It joins nothing. -/
  | nothing
  /-- What can be joined has begun. -/
  | begun
  /-- The sign that joins has been read. -/
  | linked
  deriving DecidableEq, Repr

/-- What decides whether the next character belongs to a cluster. -/
structure State where
  /-- The class of the last character. -/
  last : CharacterClass
  /-- Whether the last character is the first letter of a flag. -/
  inFlag : Bool
  /-- A picture, the marks on it, and a joiner. -/
  pictures : Progress
  /-- A consonant, the marks on it, and a linker. -/
  consonants : Progress
  deriving DecidableEq, Repr

namespace State

/-- The state of a cluster with one character. -/
def start (c : Char) : State where
  last := classOf c
  inFlag := classOf c = .flagLetter
  pictures := if classOf c = .picture then .begun else .nothing
  consonants := if classOf c = .consonant then .begun else .nothing

/-- How far the joining of pictures has got after one more character. -/
def nextPictures (s : State) (c : Char) : Progress :=
  match classOf c, s.pictures with
  | .picture, _ => .begun
  | .mark, .begun => .begun
  | .joiner, .begun => .linked
  | _, _ => .nothing

/-- How far the joining of consonants has got after one more character. -/
def nextConsonants (s : State) (c : Char) : Progress :=
  if classOf c = .consonant then .begun
  else if s.consonants = .nothing then .nothing
  else if isLinker c then .linked
  else if isPassedOver c then s.consonants
  else .nothing

/-- The state of a cluster after one more character. -/
def next (s : State) (c : Char) : State where
  last := classOf c
  inFlag := classOf c = .flagLetter && !s.inFlag
  pictures := s.nextPictures c
  consonants := s.nextConsonants c

/-- Whether two neighbours belong to one syllable. -/
def joinsSyllable : CharacterClass → CharacterClass → Bool
  | .leadingJamo, .leadingJamo => true
  | .leadingJamo, .vowelJamo => true
  | .leadingJamo, .openSyllable => true
  | .leadingJamo, .closedSyllable => true
  | .openSyllable, .vowelJamo => true
  | .openSyllable, .trailingJamo => true
  | .vowelJamo, .vowelJamo => true
  | .vowelJamo, .trailingJamo => true
  | .closedSyllable, .trailingJamo => true
  | .trailingJamo, .trailingJamo => true
  | _, _ => false

/-- Whether a character that is no control character belongs to a cluster that does not end with
one. -/
def joinsVisible (s : State) (c : Char) : Bool :=
  match classOf c with
  | .mark => true
  | .joiner => true
  | .spacingMark => true
  | kind =>
    s.last = .prepended || joinsSyllable s.last kind
      || (kind = .flagLetter && s.inFlag)
      || (kind = .picture && s.pictures = .linked)
      || (kind = .consonant && s.consonants = .linked)

/-- Whether a character belongs to a cluster. -/
def joins (s : State) (c : Char) : Bool :=
  s.last ≠ .control && classOf c ≠ .control && s.joinsVisible c

end State

/-- The clusters of a text after a cluster that has begun. -/
def clustersFrom (s : State) (begun : List Char) : List Char → List (List Char)
  | [] => [begun]
  | c :: rest =>
    if s.joins c then clustersFrom (s.next c) (begun ++ [c]) rest
    else begun :: clustersFrom (.start c) [c] rest

theorem flatten_clustersFrom (s : State) (begun text : List Char) :
    (clustersFrom s begun text).flatten = begun ++ text := by
  induction text generalizing s begun with
  | nil => simp [clustersFrom]
  | cons c rest ih =>
    rw [clustersFrom]
    split
    · simp [ih]
    · simp [ih]

end Cluster

/-- The clusters of a text without line breaks. -/
def clusters : List Char → List (List Char)
  | [] => []
  | c :: rest => Cluster.clustersFrom (.start c) [c] rest

/-- No character is lost when a text is cut into clusters. -/
theorem flatten_clusters (text : List Char) : (clusters text).flatten = text := by
  cases text with
  | nil => rfl
  | cons c rest => simp [clusters, Cluster.flatten_clustersFrom]

example : clusters "ä́b".toList = ["ä́".toList, ['b']] := by decide +kernel
example : clusters "🇩🇪🇩".toList = [['🇩', '🇪'], ['🇩']] := by decide +kernel

end NfaWorkbench.Text
