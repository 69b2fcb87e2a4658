/-!
# Decimal amounts

An amount of money or a percentage: a sign, and a whole number of units of `10 ^ -scale`. The scale
is part of the value, so `10.00` and `10` are different decimals that denote the same number
(`Same`); order looks at the number only. A zero can carry a minus sign: an amount that is rounded
away keeps the sign it had.
-/

namespace BackOffice

/-- A decimal number of at most 96 bits with at most 28 fractional digits. -/
structure Decimal where
  /-- Whether the decimal has a minus sign. -/
  negative : Bool := false
  /-- The number of units, without the sign. -/
  magnitude : Nat
  /-- How many digits stand after the point. -/
  scale : Nat := 0
  magnitude_lt : magnitude < Nat.pow 2 96 := by decide
  scale_le : scale ≤ 28 := by decide
deriving DecidableEq

namespace Decimal

/-- The decimal of a sign, a magnitude and a scale, if it is small enough. -/
def ofParts? (negative : Bool) (magnitude scale : Nat) : Option Decimal :=
  if h : magnitude < Nat.pow 2 96 ∧ scale ≤ 28 then
    some { negative, magnitude, scale, magnitude_lt := h.1, scale_le := h.2 }
  else none

/-- The decimal that digits write, if it is small enough. A zero that is written has no sign. -/
def ofDigits? (negative : Bool) (magnitude scale : Nat) : Option Decimal :=
  ofParts? (negative && magnitude != 0) magnitude scale

/-- The number of units, with the sign. -/
def mantissa (d : Decimal) : Int :=
  if d.negative then -(d.magnitude : Int) else d.magnitude

/-- How many units make one. -/
def unitsPerOne (d : Decimal) : Nat :=
  Nat.pow 10 d.scale

/-- No amount. -/
def zero : Decimal := { magnitude := 0 }

/-- One hundred, the whole of a price in percent. -/
def hundred : Decimal := { magnitude := 100 }

instance : Inhabited Decimal := ⟨zero⟩

/-- Both decimals denote the same number. -/
def Same (a b : Decimal) : Prop :=
  a.mantissa * b.unitsPerOne = b.mantissa * a.unitsPerOne

instance (a b : Decimal) : Decidable (Same a b) :=
  inferInstanceAs (Decidable (_ = _))

/-- Order of the numbers denoted. -/
instance : LT Decimal :=
  ⟨fun a b => a.mantissa * b.unitsPerOne < b.mantissa * a.unitsPerOne⟩

instance (a b : Decimal) : Decidable (a < b) :=
  inferInstanceAs (Decidable (a.mantissa * b.unitsPerOne < b.mantissa * a.unitsPerOne))

/-- The form in which tables keep a decimal: a zero loses its sign and its scale, all else stays. -/
def stored (d : Decimal) : Decimal :=
  if d.magnitude = 0 then zero else d

end Decimal

end BackOffice
