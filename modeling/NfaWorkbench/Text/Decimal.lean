set_option autoImplicit false

/-!
# Text: decimal integers

An integer is written with a minus sign if it is negative and without leading zeros.  It is read
with more freedom: one sign of either kind, and any number of leading zeros.  Digits are the ASCII
digits only.  Main statement: what is written is read back.
-/

namespace NfaWorkbench.Text

/-- The natural number written by a nonempty list of ASCII digits. -/
def natural? (digits : List Char) : Option Nat :=
  if digits ≠ [] ∧ digits.all Char.isDigit then some (Nat.ofDigitChars 10 digits 0) else none

/-- The integer written by an optional sign and at least one digit. -/
def integer? : List Char → Option Int
  | '+' :: digits => (natural? digits).map Int.ofNat
  | '-' :: digits => (natural? digits).map fun n => -Int.ofNat n
  | digits => (natural? digits).map Int.ofNat

/-- The shortest decimal text of an integer. -/
def integerDigits (n : Int) : List Char :=
  if n < 0 then '-' :: Nat.toDigits 10 n.natAbs else Nat.toDigits 10 n.natAbs

theorem natural?_toDigits (n : Nat) : natural? (Nat.toDigits 10 n) = some n := by
  have all : (Nat.toDigits 10 n).all Char.isDigit = true :=
    List.all_eq_true.2 fun c hc => Nat.isDigit_of_mem_toDigits (by decide) (by decide) hc
  simp [natural?, all, Nat.toDigits_ne_nil, Nat.ofDigitChars_toDigits]

/-- A text that starts with a digit has no sign to read. -/
theorem integer?_of_isDigit {c : Char} {rest : List Char} (h : c.isDigit = true) :
    integer? (c :: rest) = (natural? (c :: rest)).map Int.ofNat := by
  unfold integer?
  split
  · simp_all
  · simp_all
  · rfl

/-- A written integer is read back. -/
theorem integer?_integerDigits (n : Int) : integer? (integerDigits n) = some n := by
  unfold integerDigits
  split
  · simp only [integer?, natural?_toDigits, Option.map_some, Option.some.injEq]
    simp only [Int.ofNat_eq_natCast]
    omega
  · match h : Nat.toDigits 10 n.natAbs with
    | [] => exact absurd h Nat.toDigits_ne_nil
    | c :: rest =>
      have hc : c.isDigit = true :=
        Nat.isDigit_of_mem_toDigits (b := 10) (n := n.natAbs) (by decide) (by decide) (by simp [h])
      rw [integer?_of_isDigit hc, ← h, natural?_toDigits]
      simp only [Option.map_some, Option.some.injEq, Int.ofNat_eq_natCast]
      omega

example : integer? "+007".toList = some 7 ∧ integer? "-0".toList = some 0 := by decide +kernel
example : integer? "1_0".toList = none ∧ integer? "+-1".toList = none ∧ integer? [] = none := by
  decide +kernel

end NfaWorkbench.Text
