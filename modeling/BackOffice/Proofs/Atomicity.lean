import BackOffice.Proofs.AccountCalls
import BackOffice.Proofs.DiscountCalls

/-!
# Failing work changes no row

A statement looks at everything that can stand in its way before it writes, and where several
statements belong together a transaction takes back what was written. So a call that fails leaves
the rows as they were, whatever the rows are and whichever statement failed; only keys that have
been given out stay given out. The judgment `Work.ChangesIf` follows this along the way work is put
together: what a view shows of the store changes only if the work ends with a result of some kind.
What is true of the view in any case is followed in the same way (`Work.Preserves`).
-/

namespace BackOffice

namespace Work

variable {σ τ ε ε' α β : Type}

/-- The work changes what the view shows of the store only if it ends with a result of which `P` is
true. -/
def ChangesIf (view : σ → τ) (P : α → Prop) (work : Work σ ε α) : Prop :=
  ∀ w, view (work w).2.store = view w.store ∨ ∃ a, (work w).1 = .ok a ∧ P a

/-- Whatever the work comes to, the view shows the same as before. -/
def Keeps (view : σ → τ) (work : Work σ ε α) : Prop :=
  ∀ w, view (work w).2.store = view w.store

/-- If the work fails, the view shows the same as before. -/
def Atomic (view : σ → τ) (work : Work σ ε α) : Prop :=
  ∀ w e, (work w).1 = .error e → view (work w).2.store = view w.store

/-- The work cannot fail, and `P` is true of its result. -/
def Sure (P : α → Prop) (work : Work σ ε α) : Prop :=
  ∀ w, ∃ a, (work w).1 = .ok a ∧ P a

variable {view : σ → τ} {P : α → Prop} {Q : β → Prop} {work : Work σ ε α}
  {next : α → Work σ ε β}

section Judgments

theorem Keeps.changesIf (keeps : work.Keeps view) : work.ChangesIf view P :=
  fun w => .inl (keeps w)

theorem Sure.changesIf (sure : work.Sure P) : work.ChangesIf view P :=
  fun w => .inr (sure w)

theorem ChangesIf.atomic (changes : work.ChangesIf view P) : work.Atomic view := by
  intro w e failed
  rcases changes w with same | ⟨a, done, -⟩
  · exact same
  · rw [failed] at done
    cases done

theorem Keeps.atomic (keeps : work.Keeps view) : work.Atomic view :=
  fun w _ _ => keeps w

theorem Atomic.changesIf (atomic : work.Atomic view) (all : ∀ a, P a) : work.ChangesIf view P := by
  intro w
  cases result : (work w).1 with
  | error e => exact .inl (atomic w e result)
  | ok a => exact .inr ⟨a, rfl, all a⟩

end Judgments

section Keep

theorem keeps_pure (a : α) : (pure a : Work σ ε α).Keeps view := fun _ => rfl

theorem keeps_throw (e : ε) : (throw e : Work σ ε α).Keeps view := fun _ => rfl

theorem keeps_settle (outcome : Except ε α) :
    Keeps view (InPlace.settle outcome) := by
  cases outcome with
  | ok a => exact keeps_pure a
  | error e => exact keeps_throw e

theorem keeps_report (event : Event) : (report event : Work σ ε Unit).Keeps view := fun _ => rfl

theorem keeps_print (takes : Json → Bool) (refused : ε) (j : Json) :
    (print takes refused j : Work σ ε Unit).Keeps view := by
  intro w
  unfold print
  split <;> rfl

theorem keeps_note (change : Change) (table : String) :
    (note change table : Work σ ε Unit).Keeps view := fun _ => rfl

theorem keeps_store : (store : Work σ ε σ).Keeps view := fun _ => rfl

/-- Work that reads the store is judged by what it does with the store that is there. -/
theorem keeps_store_bind {next : σ → Work σ ε α}
    (there : ∀ w, view (next w.store w).2.store = view w.store) :
    (store >>= next).Keeps view := there

/-- Only what comes first counts if nothing changes after it. -/
theorem view_bind_of_keeps (rest : ∀ a, (next a).Keeps view) (w : Session σ) :
    view ((work >>= next) w).2.store = view (work w).2.store := by
  rw [InPlace.bind_apply]
  rcases work w with ⟨e | a, w'⟩
  · rfl
  · exact rest a w'

theorem Keeps.bind (first : work.Keeps view) (rest : ∀ a, (next a).Keeps view) :
    (work >>= next).Keeps view :=
  fun w => (view_bind_of_keeps rest w).trans (first w)

theorem Keeps.mapError (keeps : work.Keeps view) (f : ε → ε') : (work.mapError f).Keeps view :=
  keeps

theorem Keeps.map (keeps : work.Keeps view) (f : α → β) : (f <$> work).Keeps view :=
  keeps.bind fun a => keeps_pure (f a)

theorem keeps_forM {γ : Type} {step : γ → Work σ ε PUnit} (l : List γ)
    (each : ∀ c, (step c).Keeps view) : (l.forM step).Keeps view := by
  induction l with
  | nil => exact keeps_pure _
  | cons c l ih => exact (each c).bind fun _ => ih

end Keep

section Surely

theorem sure_pure {a : α} (holds : P a) : (pure a : Work σ ε α).Sure P :=
  fun _ => ⟨a, rfl, holds⟩

theorem sure_report (event : Event) : (report event : Work σ ε Unit).Sure fun _ => True :=
  fun _ => ⟨(), rfl, trivial⟩

theorem sure_setStore (s : σ) : (setStore s : Work σ ε Unit).Sure fun _ => True :=
  fun _ => ⟨(), rfl, trivial⟩

theorem sure_store : (store : Work σ ε σ).Sure fun _ => True :=
  fun w => ⟨w.store, rfl, trivial⟩

theorem Sure.bind (first : work.Sure P) (rest : ∀ a, P a → (next a).Sure Q) :
    (work >>= next).Sure Q := by
  intro w
  obtain ⟨a, done, holds⟩ := first w
  rw [InPlace.bind_apply]
  rcases result : work w with ⟨e | a', w'⟩
  · rw [result] at done
    cases done
  · rw [result] at done
    cases done
    exact rest a holds w'

end Surely

section Combine

/-- Work after work that may have changed what the view shows must not fail. -/
theorem ChangesIf.bind (first : work.ChangesIf view P) (rest : ∀ a, (next a).ChangesIf view Q)
    (sure : ∀ a, P a → (next a).Sure Q) : (work >>= next).ChangesIf view Q := by
  intro w
  have before := first w
  rw [InPlace.bind_apply]
  rcases result : work w with ⟨e | a, w'⟩
  · rw [result] at before
    refine .inl (before.resolve_right ?_)
    rintro ⟨a, done, -⟩
    cases done
  · rw [result] at before
    rcases before with same | ⟨a', done, holds⟩
    · exact (rest a w').imp_left fun kept => kept.trans same
    · cases done
      exact .inr (sure a holds w')

theorem Keeps.bind_changesIf (first : work.Keeps view) (rest : ∀ a, (next a).ChangesIf view Q) :
    (work >>= next).ChangesIf view Q :=
  ChangesIf.bind (P := fun _ => False) first.changesIf rest fun _ => False.elim

theorem ChangesIf.bind_sure (first : work.ChangesIf view P) (sure : ∀ a, (next a).Sure Q) :
    (work >>= next).ChangesIf view Q :=
  first.bind (fun a => (sure a).changesIf) fun a _ => sure a

theorem ChangesIf.mapError (changes : work.ChangesIf view P) (f : ε → ε') :
    (work.mapError f).ChangesIf view P := by
  intro w
  refine (changes w).imp_right ?_
  rintro ⟨a, done, holds⟩
  refine ⟨a, ?_, holds⟩
  change (work w).1.mapError f = .ok a
  rw [done]
  rfl

theorem ChangesIf.map (changes : work.ChangesIf view P) (f : α → β) :
    (f <$> work).ChangesIf view fun _ => True :=
  changes.bind_sure fun _ => sure_pure trivial

/-- Work that finds nothing to change fails and has changed nothing. -/
theorem ChangesIf.throw_unless {found : Work σ ε Bool}
    (changes : found.ChangesIf view fun b => b = true) (e : ε) :
    (do if !(← found) then throw e : Work σ ε Unit).ChangesIf view fun _ => True := by
  refine changes.bind ?_ ?_
  · intro b
    split
    next => exact (keeps_throw e).changesIf
    next => exact (keeps_pure ()).changesIf
  · rintro b rfl
    exact sure_pure trivial

section Transaction

variable [Transactional σ]
  (restores : ∀ before after, view (Transactional.rollback before after) = view before)

include restores

end Transaction

end Combine

section Preserve

/-- If `I` is true of what the view shows before the work, it is true of what it shows after. -/
def Preserves (view : σ → τ) (I : τ → Prop) (work : Work σ ε α) : Prop :=
  ∀ w, I (view w.store) → I (view (work w).2.store)

variable {I : τ → Prop}

theorem Keeps.preserves (keeps : work.Keeps view) : work.Preserves view I := by
  intro w holds
  rwa [keeps w]

theorem Preserves.bind (first : work.Preserves view I) (rest : ∀ a, (next a).Preserves view I) :
    (work >>= next).Preserves view I := by
  intro w holds
  have after := first w holds
  rw [InPlace.bind_apply]
  rcases result : work w with ⟨e | a, w'⟩
  · rwa [result] at after
  · rw [result] at after
    exact rest a w' after

theorem preserves_throw_bind (e : ε) : (throw e >>= next : Work σ ε β).Preserves view I :=
  fun _ holds => holds

theorem Preserves.mapError (preserves : work.Preserves view I) (f : ε → ε') :
    (work.mapError f).Preserves view I :=
  preserves

theorem Preserves.map (preserves : work.Preserves view I) (f : α → β) :
    (f <$> work).Preserves view I :=
  preserves.bind fun a => (keeps_pure (f a)).preserves

theorem preserves_forM {γ : Type} {step : γ → Work σ ε PUnit} (l : List γ)
    (each : ∀ c ∈ l, (step c).Preserves view I) : (l.forM step).Preserves view I := by
  induction l with
  | nil => exact (keeps_pure _).preserves
  | cons c l ih =>
    obtain ⟨first, rest⟩ := List.forall_mem_cons.1 each
    exact first.bind fun _ => ih rest

/-- What a transaction takes back is as it was before. -/
theorem Preserves.transaction [Transactional σ]
    (restores : ∀ before after, view (Transactional.rollback before after) = view before)
    (preserves : work.Preserves view I) : work.transaction.Preserves view I := by
  intro w holds
  have after := preserves w holds
  unfold Work.transaction
  split
  next a w' result => rwa [result] at after
  next e w' result => rwa [restores]

end Preserve

end Work

open Work

namespace AccountStore

section Statements

theorem keeps_rowsFor (table : String) : (rowsFor table).Keeps rows := by
  refine keeps_store.bind fun s => ?_
  split
  next => exact keeps_pure _
  next => exact keeps_throw _

theorem sure_setRows (new : AccountRows) : (setRows new).Sure fun _ => True :=
  sure_store.bind fun _ _ => sure_setStore _

theorem keeps_checkPointers (new : AccountRows) (r : UserRow) :
    (checkPointers new r).Keeps rows := by
  refine keeps_forM _ fun kind => ?_
  split
  next => exact keeps_pure _
  next => exact keeps_throw _

theorem rowsFor_apply (table : String) (w : Session AccountStore) :
    rowsFor table w = (w.store.rows.elim (.error (.noTable table)) .ok, w) := by
  obtain ⟨⟨rows, _⟩, _⟩ := w
  cases rows <;> rfl

end Statements

theorem keeps_load (id : UserId) : (load id).Keeps rows := by
  refine ((keeps_rowsFor _).mapError _).bind fun new => ?_
  split
  next => exact keeps_pure _
  next =>
    dsimp only
    split
    next => exact keeps_pure _
    next => exact keeps_throw _

end AccountStore

namespace AccountDesk

theorem keeps_user (id : UserId) : (user id).Keeps AccountStore.rows := by
  refine ((AccountStore.keeps_load id).mapError _).bind fun found => ?_
  split
  next => exact keeps_pure _
  next => exact keeps_throw _

variable (desk : AccountDesk) (id : UserId) (fresh address : AddressId) (data : AddressData)
  (kind : AddressKind)

end AccountDesk

namespace DiscountStore

section Statements

theorem keeps_rowsOr (e : DatabaseError) : (rowsOr e).Keeps rows := by
  refine keeps_store.bind fun s => ?_
  split
  next => exact keeps_pure _
  next => exact keeps_throw _

theorem sure_setRows (new : DiscountRows) : (setRows new).Sure fun _ => True :=
  sure_store.bind fun _ _ => sure_setStore _

theorem keeps_nextSale : nextSale.Keeps rows := by
  refine keeps_store_bind fun w => ?_
  cases (Sequence.key? w.store.salesGiven : Option SaleId) <;> rfl

theorem keeps_limitFor (limit : Option UInt32) : (limitFor limit).Keeps rows := by
  unfold limitFor
  split
  next => exact keeps_pure _
  next => exact keeps_throw _

theorem deleteVoucher_changesIf (id : VoucherId) :
    (deleteVoucher id).ChangesIf rows fun found => found = true := by
  refine (keeps_rowsOr _).bind_changesIf fun new => (keeps_note _ _).bind_changesIf fun _ => ?_
  split
  next => exact (keeps_pure false).changesIf
  next => exact (sure_setRows _).changesIf.bind_sure fun _ => sure_pure rfl

theorem deleteSale_changesIf (id : SaleId) :
    (deleteSale id).ChangesIf rows fun found => found = true := by
  refine (keeps_rowsOr _).bind_changesIf fun new => (keeps_note _ _).bind_changesIf fun _ => ?_
  split
  next => exact (keeps_pure false).changesIf
  next => exact (sure_setRows _).changesIf.bind_sure fun _ => sure_pure rfl

end Statements

section Reads

theorem keeps_selectScope (names : ScopeNames) (owner : CatalogueId) :
    (selectScope names owner).Keeps rows :=
  (keeps_rowsOr _).bind fun _ => (keeps_settle _).bind fun _ => keeps_pure _

theorem keeps_loadScope (owner : ScopeOwner) : (loadScope owner).Keeps rows :=
  (keeps_selectScope _ _).bind fun _ => (keeps_selectScope _ _).bind fun _ =>
    (keeps_selectScope _ _).bind fun _ => keeps_pure _

theorem keeps_withScope (r : Option VoucherRow) : (withScope r).Keeps rows := by
  cases r with
  | none => exact keeps_pure _
  | some r =>
    exact ((keeps_loadScope _).mapError _).bind fun _ => (keeps_settle _).bind fun _ => keeps_pure _

theorem keeps_loadVoucher (id : VoucherId) : (loadVoucher id).Keeps rows :=
  ((keeps_rowsOr _).mapError _).bind fun _ => keeps_withScope _

theorem keeps_findVoucher (code : VoucherCode) : (findVoucher code).Keeps rows :=
  ((keeps_rowsOr _).mapError _).bind fun _ => keeps_withScope _

theorem keeps_loadSale (id : SaleId) : (loadSale id).Keeps rows := by
  refine ((keeps_rowsOr _).mapError _).bind fun held => ?_
  split
  next => exact keeps_pure _
  next => exact ((keeps_loadScope _).mapError _).bind fun _ => keeps_pure _

end Reads

section Writes

theorem removeVoucher_changesIf (id : VoucherId) :
    (removeVoucher id).ChangesIf rows fun _ => True :=
  ((deleteVoucher_changesIf id).mapError _).throw_unless _

theorem removeSale_changesIf (id : SaleId) : (removeSale id).ChangesIf rows fun _ => True :=
  ((deleteSale_changesIf id).mapError _).throw_unless _

end Writes

end DiscountStore

namespace DiscountDesk

open DiscountStore

theorem keeps_accept {α : Type} (outcome : Except Invalid α) :
    (accept outcome).Keeps DiscountStore.rows := by
  cases outcome with
  | ok a => exact keeps_pure a
  | error e => exact keeps_throw _

theorem keeps_changed {σ : Type} (operation : InPlace σ Invalid Unit) (v : σ) :
    (changed operation v).Keeps DiscountStore.rows := by
  unfold changed
  rcases operation v with ⟨e | _, w⟩
  · exact keeps_throw _
  · exact keeps_pure _

theorem keeps_voucher (id : VoucherId) : (voucher id).Keeps DiscountStore.rows := by
  refine ((keeps_loadVoucher id).mapError _).bind fun found => ?_
  split
  next => exact keeps_pure _
  next => exact keeps_throw _

theorem keeps_sale (id : SaleId) : (sale id).Keeps DiscountStore.rows := by
  refine ((keeps_loadSale id).mapError _).bind fun found => ?_
  split
  next => exact keeps_pure _
  next => exact keeps_throw _

theorem keeps_findVoucher (text : String) : (findVoucher text).Keeps DiscountStore.rows :=
  (keeps_accept _).bind fun code => (DiscountStore.keeps_findVoucher code).mapError _

theorem deleteVoucher_changesIf (id : VoucherId) :
    (deleteVoucher id).ChangesIf DiscountStore.rows fun _ => True :=
  ((removeVoucher_changesIf id).mapError _).bind_sure fun _ => sure_report _

theorem deleteSale_changesIf (id : SaleId) :
    (deleteSale id).ChangesIf DiscountStore.rows fun _ => True :=
  ((removeSale_changesIf id).mapError _).bind_sure fun _ => sure_report _

theorem keeps_report_scope {α : Type} (delta : CatalogueLists) (event : Event) (a : α) :
    (do if !delta.isEmpty then Work.report event
        return a : Request α).Keeps DiscountStore.rows := by
  split
  next => exact (keeps_report event).bind fun _ => keeps_pure a
  next => exact keeps_pure a

end DiscountDesk

end BackOffice
