import BackOffice.Ident
import BackOffice.Store.Error

/-!
# Keys given out by the database

Each table with numeric keys has a sequence that gives them out: one, two, three and so on. A key
that was given out is never given out again, also when its row was not kept.
-/

namespace BackOffice

/-- The last key that a sequence gives out. -/
def Sequence.last : Nat := 2147483647

/-- The key that comes after `given` keys. -/
def Sequence.next {entity : Entity} (given : Nat) : Id entity := ⟨Int32.ofNat (given + 1)⟩

/-- The key that a sequence gives out after `given` keys. -/
def Sequence.key? {entity : Entity} (given : Nat) : Option (Id entity) :=
  if given < last then some (next given) else none

/-- A sequence gives out each key once. -/
theorem Sequence.next_inj {entity : Entity} {m n : Nat} (left : m < last) (left' : n < last)
    (same : (next m : Id entity) = next n) : m = n := by
  unfold last at left left'
  have values := congrArg (fun id : Id entity => id.key.toInt) same
  dsimp only [next] at values
  rw [Int32.toInt_ofNat_of_lt (by omega), Int32.toInt_ofNat_of_lt (by omega)] at values
  omega

end BackOffice
