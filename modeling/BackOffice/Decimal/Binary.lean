/-!
# Binary fractions and their shortest decimals

A JSON number with a fraction is a binary64 number. `Binary64.nearest` rounds a fraction to the
nearest one (ties go to the even significand), and `Binary64.shortest` gives the fewest decimal
digits that round back to it, and among those the nearest, a tie upward. `Binary64.ofDecimal?` reads
a decimal significand with a power of ten the short way, where each step rounds.
-/

namespace BackOffice

/-- The number `significand * 2 ^ exponent`, not negative. -/
structure Binary64 where
  /-- At most 53 bits. -/
  significand : Nat
  /-- The power of two of the last bit. -/
  exponent : Int
deriving DecidableEq

namespace Binary64

/-- `a * 10 ^ e` as a fraction. -/
def scaleTen (a : Nat) (e : Int) : Nat × Nat :=
  if 0 ≤ e then (a * Nat.pow 10 e.toNat, 1) else (a, Nat.pow 10 (-e).toNat)

/-- `a * 2 ^ e` as a fraction. -/
def scaleTwo (a : Nat) (e : Int) : Nat × Nat :=
  if 0 ≤ e then (a <<< e.toNat, 1) else (a, 1 <<< (-e).toNat)

/-- `num / den` to the nearest whole number, a tie to the even one. -/
def roundEven (num den : Nat) : Nat :=
  let q := num / den
  let r := num % den
  if den < 2 * r || (2 * r == den && q % 2 == 1) then q + 1 else q

/-- `num / den` divided by `2 ^ e`, as a fraction. -/
def unscale (num den : Nat) (e : Int) : Nat × Nat :=
  if 0 ≤ e then (num, den <<< e.toNat) else (num <<< (-e).toNat, den)

/-- The number nearest to `num / den`, or nothing where that is beyond the largest. -/
def nearest (num den : Nat) : Option Binary64 :=
  if num = 0 then some ⟨0, 0⟩
  else
    let low : Int := (Nat.log2 num : Int) - Nat.log2 den - 53
    let fit (e : Int) : Bool := let f := unscale num den e; f.1 / f.2 < 1 <<< 53
    let e := max (if fit low then low else if fit (low + 1) then low + 1 else low + 2) (-1074)
    let f := unscale num den e
    let m := roundEven f.1 f.2
    let b : Binary64 := if m = 1 <<< 53 then ⟨1 <<< 52, e + 1⟩ else ⟨m, e⟩
    if b.exponent ≤ 971 then some b else none

/-- The product, rounded. -/
def mul? (a b : Binary64) : Option Binary64 :=
  let f := scaleTwo (a.significand * b.significand) (a.exponent + b.exponent)
  nearest f.1 f.2

/-- The quotient, rounded. -/
def div? (a b : Binary64) : Option Binary64 :=
  let f := scaleTwo a.significand (a.exponent - b.exponent)
  nearest f.1 (f.2 * b.significand)

/-- The number nearest to a power of ten. -/
def tenTo? (n : Nat) : Option Binary64 := nearest (Nat.pow 10 n) 1

/-- The last power of ten that is not beyond the largest number. -/
def lastTen : Nat := 308

/-- The quotient by a power of ten. A power beyond the last takes two steps; what is below `2 ^ 64`
leaves nothing after two full steps. -/
def divTen? (b : Binary64) (n : Nat) : Option Binary64 := do
  if n ≤ lastTen then b.div? (← tenTo? n)
  else if n ≤ 2 * lastTen then (← b.div? (← tenTo? lastTen)).div? (← tenTo? (n - lastTen))
  else return ⟨0, 0⟩

/-- The number that `significand * 10 ^ exponent` is read as, for a significand below `2 ^ 64`: the
significand and the power of ten are rounded, and so is their product or quotient. -/
def ofDecimal? (significand : Nat) (exponent : Int) : Option Binary64 := do
  let b ← nearest significand 1
  if significand = 0 then return b
  else if exponent < 0 then b.divTen? (-exponent).toNat
  else if exponent ≤ lastTen then b.mul? (← tenTo? exponent.toNat)
  else none

/-- The numerators and the common denominator of the lower end, the number itself and the upper end
of the reals that round to it. -/
def interval (b : Binary64) : Nat × Nat × Nat × Nat :=
  let m := b.significand
  let below := if m = 1 <<< 52 ∧ -1074 < b.exponent then 4 * m - 1 else 4 * m - 2
  let part (a : Nat) := scaleTwo a (b.exponent - 2)
  ((part below).1, (part (4 * m)).1, (part (4 * m + 2)).1, (part 0).2)

/-- The multiple of `10 ^ e` that rounds to the number, if there is one: of two, the nearer, and of
two as near, the greater. -/
def onGrid? (b : Binary64) (e : Int) : Option Nat :=
  let (low, mid, high, den) := b.interval
  let grid := scaleTen 1 e
  let point (c : Nat) := c * grid.1 * den
  let inside (c : Nat) : Bool :=
    let p := point c
    if b.significand % 2 = 0 then low * grid.2 ≤ p && p ≤ high * grid.2
    else low * grid.2 < p && p < high * grid.2
  let c := mid * grid.2 / (grid.1 * den)
  match inside c, inside (c + 1) with
  | true, true =>
    if mid * grid.2 - point c < point (c + 1) - mid * grid.2 then some c else some (c + 1)
  | true, false => some c
  | false, true => some (c + 1)
  | false, false => none

/-- How many digits the number has before its point; below one tenth the count is negative. -/
def magnitude (b : Binary64) : Int :=
  let f := scaleTwo b.significand b.exponent
  ((Nat.toDigits 10 (f.1 * Nat.pow 10 400 / f.2)).length : Int) - 400

/-- The fewest digits that round back to the number, with their power of ten. The coarsest grid
holds a power of ten just above the number; seventeen digits always suffice. -/
def shortest (b : Binary64) : Nat × Int :=
  if b.significand = 0 then (0, 0)
  else
    let found := (List.range 18).findSome? fun n =>
      let e := b.magnitude - Int.ofNat n
      (b.onGrid? e).map fun c => (c, e)
    found.getD (0, 0)

end Binary64

end BackOffice
