import BackOffice.Decimal.Basic
import Mathlib.Algebra.Order.Field.Rat
import Mathlib.Tactic.Positivity
import Mathlib.Tactic.NormNum

/-!
# Decimals as numbers

The number that a decimal denotes (`Decimal.number`). Decimals are the same, or in order, exactly if
their numbers are, so no comparison tells apart decimals that differ in scale alone. The stored form
of a decimal denotes the same number.
-/

namespace BackOffice

namespace Decimal

/-- The number that a decimal denotes. -/
def number (d : Decimal) : ℚ := d.mantissa / 10 ^ d.scale

theorem unitsPerOne_eq (d : Decimal) : d.unitsPerOne = 10 ^ d.scale := rfl

theorem same_iff {a b : Decimal} : a.Same b ↔ a.number = b.number := by
  rw [number, number, div_eq_div_iff (by positivity) (by positivity), Same, unitsPerOne_eq,
    unitsPerOne_eq]
  exact_mod_cast Iff.rfl

theorem lt_iff {a b : Decimal} : a < b ↔ a.number < b.number := by
  rw [number, number, div_lt_div_iff₀ (by positivity) (by positivity)]
  change a.mantissa * b.unitsPerOne < b.mantissa * a.unitsPerOne ↔ _
  rw [unitsPerOne_eq, unitsPerOne_eq]
  exact_mod_cast Iff.rfl

variable {a b c : Decimal}

theorem Same.refl (a : Decimal) : a.Same a := rfl

theorem Same.symm (same : a.Same b) : b.Same a :=
  Eq.symm same

theorem Same.trans (left : a.Same b) (right : b.Same c) : a.Same c := by
  rw [same_iff] at left right ⊢
  exact left.trans right

theorem Same.lt_iff_lt_left (same : a.Same b) (c : Decimal) : a < c ↔ b < c := by
  rw [lt_iff, lt_iff, same_iff.1 same]

theorem Same.lt_iff_lt_right (same : a.Same b) (c : Decimal) : c < a ↔ c < b := by
  rw [lt_iff, lt_iff, same_iff.1 same]

/-- The stored form of a decimal denotes the same number. -/
theorem same_stored (d : Decimal) : d.Same d.stored := by
  unfold stored
  split
  next none =>
    rw [same_iff]
    simp [number, mantissa, none, zero]
  next => exact .refl d

section Optional

variable {a b c : Option Decimal}

theorem rel_refl (a : Option Decimal) : Option.Rel Same a a := by
  cases a with
  | none => exact .none
  | some a => exact .some (.refl a)

theorem rel_symm (same : Option.Rel Same a b) : Option.Rel Same b a := by
  cases same with
  | none => exact .none
  | some same => exact .some same.symm

theorem rel_trans (left : Option.Rel Same a b) (right : Option.Rel Same b c) :
    Option.Rel Same a c := by
  cases left with
  | none => exact right
  | some left =>
    cases right with
    | some right => exact .some (left.trans right)

theorem rel_stored (a : Option Decimal) : Option.Rel Same a (a.map stored) := by
  cases a with
  | none => exact .none
  | some a => exact .some a.same_stored

end Optional

end Decimal

end BackOffice
