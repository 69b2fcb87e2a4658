/-!
# Patches

What a partial update does to one field: a field that always has a value is left alone or set, which
an `Option` says; a field that may be empty is left alone, emptied or set (`Patch`).
-/

namespace BackOffice

/-- What an update does to a field that may be empty. -/
inductive Patch (α : Type) where
  | keep
  | clear
  | set (value : α)
deriving DecidableEq, Inhabited

namespace Patch

variable {α : Type}

/-- The field after the update. -/
def apply (field : Option α) : Patch α → Option α
  | .keep => field
  | .clear => none
  | .set a => some a

@[simp] theorem apply_keep (field : Option α) : keep.apply field = field := rfl

@[simp] theorem apply_clear (field : Option α) : clear.apply field = none := rfl

@[simp] theorem apply_set (field : Option α) (a : α) : (set a).apply field = some a := rfl

/-- The update that sets a field if there is a value for it. -/
def ofOption : Option α → Patch α
  | none => .keep
  | some a => .set a

/-- One update after another: the later counts where it does not leave the field alone. -/
def orElse (later earlier : Patch α) : Patch α :=
  match later with
  | .keep => earlier
  | p => p

theorem apply_orElse (later earlier : Patch α) (field : Option α) :
    (later.orElse earlier).apply field = later.apply (earlier.apply field) := by
  cases later <;> rfl

end Patch

end BackOffice
