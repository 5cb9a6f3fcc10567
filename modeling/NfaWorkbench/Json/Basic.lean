set_option autoImplicit false

/-!
# JSON: values

A JSON value as a tree.  Only what a snapshot needs is kept of the leaves: of a number its sign and
digits if it is written as an integer, of a string its text if it has one.  The members of an object
stay in the order in which they are written, and a key may occur more than once.
-/

namespace NfaWorkbench.Json

/-- A JSON number. -/
inductive Number
  /-- A number without fraction and exponent; a zero may carry a minus sign. -/
  | integer (negative : Bool) (magnitude : Nat)
  /-- A number with a fraction or an exponent, whose value is not kept. -/
  | decimal
  deriving DecidableEq, Repr

/-- A JSON value.  A string has no text if it holds half of a surrogate pair, which is no
character. -/
inductive Value
  | null
  | bool (value : Bool)
  | number (value : Number)
  | string (text : Option String)
  | array (items : List Value)
  | object (members : List (Option String × Value))
  deriving Repr

instance : Inhabited Value := ⟨.null⟩

/-- The number of an integer. -/
def Number.ofInt (n : Int) : Number := .integer (n < 0) n.natAbs

/-- The integer of a number; one with a fraction or an exponent is none, and neither is a zero with
a minus sign. -/
def Number.toInt? : Number → Option Int
  | .integer true 0 => none
  | .integer true magnitude => some (-Int.ofNat magnitude)
  | .integer false magnitude => some (Int.ofNat magnitude)
  | .decimal => none

@[simp]
theorem Number.toInt?_ofInt (n : Int) : (Number.ofInt n).toInt? = some n := by
  unfold ofInt toInt?
  split
  · rename_i h
    simp only [integer.injEq, decide_eq_true_eq, Int.natAbs_eq_zero] at h
    omega
  · rename_i h
    simp only [integer.injEq, decide_eq_true_eq] at h
    simp only [Option.some.injEq, Int.ofNat_eq_natCast]
    omega
  · rename_i h
    simp only [integer.injEq, decide_eq_false_iff_not] at h
    simp only [Option.some.injEq, Int.ofNat_eq_natCast]
    omega
  · rename_i h
    simp at h

end NfaWorkbench.Json
