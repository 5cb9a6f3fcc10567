set_option autoImplicit false

/-!
# Text: hexadecimal numbers

The digits are the ASCII digits and the letters `a` to `f` in either case.
-/

namespace NfaWorkbench.Text

/-- The value of a hexadecimal digit. -/
def hexDigit? (c : Char) : Option Nat :=
  if '0' ≤ c ∧ c ≤ '9' then some (c.toNat - '0'.toNat)
  else if 'a' ≤ c ∧ c ≤ 'f' then some (c.toNat - 'a'.toNat + 10)
  else if 'A' ≤ c ∧ c ≤ 'F' then some (c.toNat - 'A'.toNat + 10)
  else none

/-- The number written by hexadecimal digits that follow a number. -/
def hexNumberFrom? (value : Nat) : List Char → Option Nat
  | [] => some value
  | c :: rest => match hexDigit? c with
    | some digit => hexNumberFrom? (value * 16 + digit) rest
    | none => none

/-- The number written by hexadecimal digits. -/
def hexNumber? (digits : List Char) : Option Nat := hexNumberFrom? 0 digits

/-- The hexadecimal digit of a small number is read as that number. -/
theorem hexDigit?_digitChar : ∀ n, n < 16 → hexDigit? (Nat.digitChar n) = some n := by decide

example : hexNumber? ['0', '0', 'e', '9'] = some 233 ∧ hexNumber? ['g'] = none := by decide

end NfaWorkbench.Text
