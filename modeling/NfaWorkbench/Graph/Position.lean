import NfaWorkbench.Text.Decimal
set_option autoImplicit false

/-!
# Graph: coordinates and positions

A state has a position on the drawing plane.  Its coordinates are the integers that fit into 32
bits with a sign; a move that would leave that range stops at its border.
-/

namespace NfaWorkbench

/-- An integer between `-2³¹` and `2³¹ - 1`. -/
structure Coordinate where
  val : Int
  min_le : -2147483648 ≤ val
  le_max : val ≤ 2147483647
  deriving DecidableEq

namespace Coordinate

/-- The coordinate of an integer, if it is in range. -/
def ofInt? (n : Int) : Option Coordinate :=
  if h : -2147483648 ≤ n ∧ n ≤ 2147483647 then some ⟨n, h.1, h.2⟩ else none

/-- The coordinate nearest to an integer. -/
def clamp (n : Int) : Coordinate :=
  ⟨max (-2147483648) (min n 2147483647), by omega, by omega⟩

/-- The sum of two coordinates, or the border of the range that it would cross. -/
def add (a b : Coordinate) : Coordinate := clamp (a.val + b.val)

/-- The coordinate written by a text: an optional sign and at least one digit, in range. -/
def parse? (text : String) : Option Coordinate :=
  (Text.integer? text.toList).bind ofInt?

/-- The decimal text of a coordinate. -/
def render (c : Coordinate) : String := String.ofList (Text.integerDigits c.val)

instance : Inhabited Coordinate := ⟨⟨0, by decide, by decide⟩⟩

instance : Repr Coordinate := ⟨fun c _ => repr c.val⟩

@[simp]
theorem ofInt?_val (c : Coordinate) : ofInt? c.val = some c := by
  simp [ofInt?, c.min_le, c.le_max]

theorem ofInt?_eq_some_iff {n : Int} {c : Coordinate} : ofInt? n = some c ↔ c.val = n := by
  constructor
  · intro h
    unfold ofInt? at h
    split at h
    · simp only [Option.some.injEq] at h
      simp [← h]
    · simp at h
  · rintro rfl
    exact ofInt?_val c

/-- A written coordinate is read back. -/
theorem parse?_render (c : Coordinate) : parse? c.render = some c := by
  simp [parse?, render, Text.integer?_integerDigits]

end Coordinate

/-- A point of the drawing plane. -/
structure Position where
  x : Coordinate
  y : Coordinate
  deriving DecidableEq, Repr, Inhabited

/-- The position moved by `dx` and `dy`, each coordinate stopping at the border of its range. -/
def Position.moveBy (p : Position) (dx dy : Coordinate) : Position :=
  ⟨p.x.add dx, p.y.add dy⟩

end NfaWorkbench
