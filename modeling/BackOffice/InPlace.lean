/-!
# Changes in place

An operation that changes a value in place comes to a result or to an error, and whichever of the
two it comes to, it leaves the value as it is by then. So what a refused operation has done to the
value is part of what the operation is.
-/

namespace BackOffice

/-- An operation that changes a value of type `σ` in place. -/
abbrev InPlace (σ ε α : Type) : Type := ExceptT ε (StateM σ) α

namespace InPlace

variable {σ ε α β : Type}

/-- The value that an operation leaves, whether it is refused or not. -/
def left (operation : InPlace σ ε α) (s : σ) : σ := (operation s).2

/-- The value that an operation leaves and its result, unless it is refused. -/
def outcome (operation : InPlace σ ε α) (s : σ) : Except ε (σ × α) :=
  match operation s with
  | (.ok a, s') => .ok (s', a)
  | (.error e, _) => .error e

/-- The outcome of a rule that an operation is held to. -/
def settle : Except ε α → InPlace σ ε α
  | .ok a => return a
  | .error e => throw e

theorem bind_apply (operation : InPlace σ ε α) (next : α → InPlace σ ε β) (s : σ) :
    (operation >>= next) s =
      match operation s with
      | (.ok a, s') => next a s'
      | (.error e, s') => (.error e, s') := by
  change ((ExceptT.bindCont next : Except ε α → StateM σ (Except ε β)) (operation s).1)
    (operation s).2 = _
  rcases operation s with ⟨_ | _, _⟩ <;> rfl

/-- A copy is worked on, and takes the place of the value unless it is refused. -/
theorem settle_set_apply (copy : Except ε σ) (s : σ) :
    (do set (← settle copy) : InPlace σ ε Unit) s =
      match copy with
      | .ok s' => (.ok (), s')
      | .error e => (.error e, s) := by
  rw [bind_apply]
  cases copy <;> rfl

variable {operation : InPlace σ ε α} {s s' : σ} {a : α} {e : ε}

theorem outcome_eq_ok_iff : operation.outcome s = .ok (s', a) ↔ operation s = (.ok a, s') := by
  unfold outcome
  rcases operation s with ⟨e | b, t⟩
  · exact ⟨nofun, nofun⟩
  · constructor
    · rintro ⟨⟩
      rfl
    · rintro ⟨⟩
      rfl

theorem outcome_eq_error_iff : operation.outcome s = .error e ↔ (operation s).1 = .error e := by
  unfold outcome
  rcases operation s with ⟨e' | b, t⟩
  · constructor
    · rintro ⟨⟩
      rfl
    · rintro ⟨⟩
      rfl
  · exact ⟨nofun, nofun⟩

end InPlace

end BackOffice
