import BackOffice.Store.Work
import Mathlib.Data.List.Forall2

/-!
# How work ends

What work comes to does not hang on what has been done before, which is only recorded. `Work.Ends`
says how work on a given store ends and which store it leaves, whatever the record; there is one
rule for each way to put work together. Two endings of the same work are equal
(`Work.Ends.unique`). Calls made one after another are answered by `serve`, and two ways to answer
them are compared call by call (`serve_related`).
-/

namespace BackOffice

/-- A bind that ends well has a first part that ends well. -/
theorem bind_eq_ok {ε α β : Type} {x : Except ε α} {f : α → Except ε β} {b : β}
    (done : x >>= f = .ok b) : ∃ a, x = .ok a ∧ f a = .ok b := by
  cases x with
  | error e => cases done
  | ok a => exact ⟨a, rfl, done⟩

section MapError

variable {ε ε' α : Type} {f : ε → ε'} {x : Except ε α}

theorem mapError_eq_ok_iff {a : α} : x.mapError f = .ok a ↔ x = .ok a := by
  cases x <;> simp [Except.mapError]

theorem mapError_eq_error_iff {e' : ε'} :
    x.mapError f = .error e' ↔ ∃ e, x = .error e ∧ f e = e' := by
  cases x <;> simp [Except.mapError]

end MapError

namespace Work

variable {σ ε ε' α β : Type}

/-- Started on the store `s`, the work ends with `r` and leaves the store `s'`. -/
def Ends (work : Work σ ε α) (s : σ) (r : Except ε α) (s' : σ) : Prop :=
  ∀ t, ∃ t', work ⟨s, t⟩ = (r, ⟨s', t'⟩)

variable {work : Work σ ε α} {next : α → Work σ ε β} {s s' s'' : σ} {r : Except ε α} {a : α} {e : ε}

theorem Ends.unique {r' : Except ε α} (left : work.Ends s r s') (right : work.Ends s r' s'') :
    r = r' ∧ s' = s'' := by
  obtain ⟨_, left⟩ := left {}
  obtain ⟨_, right⟩ := right {}
  obtain ⟨results, sessions⟩ := Prod.mk.inj (left.symm.trans right)
  exact ⟨results, (Session.mk.inj sessions).1⟩

/-- Work that ends is run in any session on the store. -/
theorem Ends.run (ends : work.Ends s r s') {w : Session σ} (here : w.store = s) :
    (work w).1 = r ∧ (work w).2.store = s' := by
  obtain ⟨_, ends⟩ := ends w.trace
  have same : w = ⟨s, w.trace⟩ := by rw [← here]
  rw [same, ends]
  exact ⟨rfl, rfl⟩

theorem ends_pure (a : α) (s : σ) : (pure a : Work σ ε α).Ends s (.ok a) s :=
  fun t => ⟨t, rfl⟩

theorem ends_throw (e : ε) (s : σ) : (throw e : Work σ ε α).Ends s (.error e) s :=
  fun t => ⟨t, rfl⟩

/-- What a rule comes to is what the work held to it ends with. -/
theorem ends_settle {check outcome : Except ε α} (checked : check = outcome) (s : σ) :
    Ends (InPlace.settle check) s outcome s := by
  subst checked
  cases check with
  | ok a => exact ends_pure a s
  | error e => exact ends_throw e s

theorem ends_store (s : σ) : (store : Work σ ε σ).Ends s (.ok s) s :=
  fun t => ⟨t, rfl⟩

theorem ends_setStore (s s' : σ) : (setStore s' : Work σ ε Unit).Ends s (.ok ()) s' :=
  fun t => ⟨t, rfl⟩

theorem ends_note (change : Change) (table : String) (s : σ) :
    (note change table : Work σ ε Unit).Ends s (.ok ()) s :=
  fun _ => ⟨_, rfl⟩

theorem ends_report (event : Event) (s : σ) : (report event : Work σ ε Unit).Ends s (.ok ()) s :=
  fun _ => ⟨_, rfl⟩

theorem Ends.bind {r : Except ε β} (first : work.Ends s (.ok a) s')
    (second : (next a).Ends s' r s'') : (work >>= next).Ends s r s'' := by
  intro t
  obtain ⟨t', first⟩ := first t
  obtain ⟨t'', second⟩ := second t'
  refine ⟨t'', ?_⟩
  rw [InPlace.bind_apply, first]
  exact second

theorem Ends.bind_error (first : work.Ends s (.error e) s') :
    (work >>= next).Ends s (.error e) s' := by
  intro t
  obtain ⟨t', first⟩ := first t
  exact ⟨t', by rw [InPlace.bind_apply, first]⟩

theorem Ends.map (f : α → β) (ends : work.Ends s r s') :
    (f <$> work).Ends s (r.map f) s' := by
  cases r with
  | ok a => exact ends.bind (ends_pure (f a) s')
  | error e => exact ends.bind_error

theorem Ends.mapError (f : ε → ε') (ends : work.Ends s r s') :
    (work.mapError f).Ends s (r.mapError f) s' := by
  intro t
  obtain ⟨t', ends⟩ := ends t
  refine ⟨t', ?_⟩
  change (fun p : Except ε α × Session σ => (p.1.mapError f, p.2)) (work ⟨s, t⟩) = _
  rw [ends]

theorem Ends.transaction [Transactional σ] (ends : work.Ends s (.ok a) s') :
    work.transaction.Ends s (.ok a) s' := by
  intro t
  obtain ⟨t', ends⟩ := ends t
  exact ⟨t', by rw [Work.transaction, ends]⟩

theorem Ends.transaction_error [Transactional σ] (ends : work.Ends s (.error e) s') :
    work.transaction.Ends s (.error e) (Transactional.rollback s s') := by
  intro t
  obtain ⟨t', ends⟩ := ends t
  exact ⟨t', by rw [Work.transaction, ends]⟩

/-- Work on each member of a list that leaves the store as it is, leaves it as it is. -/
theorem ends_forM {γ : Type} {step : γ → Work σ ε PUnit} {s : σ} (l : List γ)
    (each : ∀ c ∈ l, (step c).Ends s (.ok ⟨⟩) s) : (l.forM step).Ends s (.ok ⟨⟩) s := by
  induction l with
  | nil => exact ends_pure _ s
  | cons c l ih =>
    exact (each c List.mem_cons_self).bind (ih fun c later => each c (List.mem_cons_of_mem _ later))

section Yield

variable {P : α → Prop} {Q : β → Prop}

/-- If the work ends with a result, `P` is true of it. -/
def Yields (P : α → Prop) (work : Work σ ε α) : Prop :=
  ∀ w a, (work w).1 = .ok a → P a

theorem yields_pure (holds : P a) : (pure a : Work σ ε α).Yields P := by
  rintro w a' ⟨⟩
  exact holds

theorem yields_throw (e : ε) : (throw e : Work σ ε α).Yields P := by
  rintro w a ⟨⟩

theorem Yields.bind (first : work.Yields P) (rest : ∀ a, P a → (next a).Yields Q) :
    (work >>= next).Yields Q := by
  intro w b done
  rw [InPlace.bind_apply] at done
  rcases result : work w with ⟨e | a, w'⟩
  · rw [result] at done
    cases done
  · rw [result] at done
    exact rest a (first w a (congrArg Prod.fst result)) w' b done

/-- What is done last decides what is true of the result. -/
theorem yields_bind (rest : ∀ a, (next a).Yields Q) : (work >>= next).Yields Q :=
  Yields.bind (P := fun _ => True) (fun _ _ _ => trivial) fun a _ => rest a

theorem Yields.mapError (yields : work.Yields P) (f : ε → ε') : (work.mapError f).Yields P :=
  fun w a done => yields w a (mapError_eq_ok_iff.1 done)

theorem Yields.transaction [Transactional σ] (yields : work.Yields P) :
    work.transaction.Yields P := by
  intro w a done
  unfold Work.transaction at done
  split at done
  next a' w' result =>
    cases done
    exact yields w a (congrArg Prod.fst result)
  next e w' result => cases done

end Yield

end Work

/-- Two outcomes agree if both are the same error, or both are results and these are related. -/
inductive Agree {ε α β : Type} (R : α → β → Prop) : Except ε α → Except ε β → Prop
  | error (e : ε) : Agree R (.error e) (.error e)
  | ok {a : α} {b : β} (related : R a b) : Agree R (.ok a) (.ok b)

section Agree

variable {ε ε' α α' β β' : Type} {R : α → β → Prop} {S : α' → β' → Prop}

theorem Agree.error_left {e : ε} {y : Except ε β} (agree : Agree R (.error e) y) :
    y = .error e := by
  cases agree
  rfl

theorem Agree.error_right {x : Except ε α} {e : ε} (agree : Agree R x (.error e)) :
    x = .error e := by
  cases agree
  rfl

theorem Agree.ok_left {a : α} {y : Except ε β} (agree : Agree R (.ok a) y) :
    ∃ b, y = .ok b ∧ R a b := by
  cases agree with
  | ok related => exact ⟨_, rfl, related⟩

theorem Agree.ok_right {x : Except ε α} {b : β} (agree : Agree R x (.ok b)) :
    ∃ a, x = .ok a ∧ R a b := by
  cases agree with
  | ok related => exact ⟨_, rfl, related⟩

theorem Agree.of_eq {R : α → α → Prop} (refl : ∀ a, R a a) {x y : Except ε α} (same : x = y) :
    Agree R x y := by
  subst same
  cases x with
  | error e => exact .error e
  | ok a => exact .ok (refl a)

theorem Agree.bind {x : Except ε α} {y : Except ε β} {f : α → Except ε α'} {g : β → Except ε β'}
    (first : Agree R x y) (next : ∀ {a b}, R a b → Agree S (f a) (g b)) :
    Agree S (x >>= f) (y >>= g) := by
  cases first with
  | error e => exact .error e
  | ok related => exact next related

end Agree

section Serve

variable {γ ρ ρ' σ τ : Type}

/-- The answers to calls that are made one after another, and the state after them. -/
def serve (answer : γ → σ → ρ × σ) : List γ → σ → List ρ × σ
  | [], s => ([], s)
  | call :: calls, s =>
    let first := answer call s
    let rest := serve answer calls first.2
    (first.1 :: rest.1, rest.2)

/-- If one call after another gets answers that match from two states and leaves the states
related, then so do all. What relates the states may hang on the calls that are yet to come. -/
theorem serve_related {answer : γ → σ → ρ × σ} {answer' : γ → τ → ρ' × τ}
    {R : ρ → ρ' → Prop} {Related : List γ → σ → τ → Prop}
    (step : ∀ {call calls s t}, Related (call :: calls) s t →
      R (answer call s).1 (answer' call t).1 ∧
        Related calls (answer call s).2 (answer' call t).2)
    {calls coming : List γ} {s : σ} {t : τ} (related : Related (calls ++ coming) s t) :
    List.Forall₂ R (serve answer calls s).1 (serve answer' calls t).1 ∧
      Related coming (serve answer calls s).2 (serve answer' calls t).2 := by
  induction calls generalizing s t with
  | nil => exact ⟨.nil, related⟩
  | cons call calls ih =>
    obtain ⟨first, related⟩ := step related
    obtain ⟨rest, related⟩ := ih related
    exact ⟨.cons first rest, related⟩

end Serve

end BackOffice
