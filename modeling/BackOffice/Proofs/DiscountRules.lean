import BackOffice.Discount.Sale
import BackOffice.Discount.Voucher
import BackOffice.Proofs.DecimalNumbers
import BackOffice.Proofs.Outcome
import BackOffice.Proofs.ScopeSets

/-!
# The rules for discounts and numbers

Discounts that differ only in how their amounts are written (`Voucher.Same`, `Sale.Same`) are
treated alike by every rule: the same updates are refused for the same causes, and lead to
discounts that are again the same. Whatever is accepted as a new discount passes the check that a
changed one must pass.
-/

namespace BackOffice

open Discount

/-- The vouchers differ at most in how amounts are written. -/
structure Voucher.Same (v w : Voucher) : Prop where
  value : v.value.Same w.value
  minAmount : Option.Rel Decimal.Same v.minAmount w.minAmount
  rest : { v with value := w.value, minAmount := w.minAmount } = w

/-- The sales differ at most in how the value is written. -/
structure Sale.Same (s t : Sale) : Prop where
  value : s.value.Same t.value
  rest : { s with value := t.value } = t

namespace Discount

section Congruence

theorem checkValue_congr {a b : Decimal} (same : a.Same b) (field : String) (type : ValueType) :
    checkValue field type a = checkValue field type b := by
  simp only [checkValue, same.lt_iff_lt_left, same.lt_iff_lt_right]

theorem checkMinimum_congr {a b : Option Decimal} (same : Option.Rel Decimal.Same a b) :
    checkMinimum a = checkMinimum b := by
  cases same with
  | none => rfl
  | some same => simp only [checkMinimum, Option.any_some, same.lt_iff_lt_left]

end Congruence

theorem checkValue_ok {field : String} {type : ValueType} {a : Decimal}
    (passes : checkValue field type a = .ok ()) : ¬a < Decimal.zero := by
  intro negative
  simp [checkValue, negative] at passes

theorem checkWindow_ok {first : Date} {last : Option Date}
    (passes : checkWindow first last = .ok ()) : last.any (· < first) = false := by
  rw [Bool.eq_false_iff]
  intro early
  simp [checkWindow, early] at passes

theorem checkMinimum_ok {amount : Option Decimal} (passes : checkMinimum amount = .ok ()) :
    amount.any (· < Decimal.zero) = false := by
  rw [Bool.eq_false_iff]
  intro negative
  simp [checkMinimum, negative] at passes

end Discount

/-- What the update sets the field to. -/
def Patch.value? {α : Type} : Patch α → Option α
  | .set a => some a
  | .keep | .clear => none

namespace Voucher

variable {v w x : Voucher}

section Same

theorem Same.refl (v : Voucher) : v.Same v :=
  ⟨.refl _, Decimal.rel_refl _, rfl⟩

theorem Same.symm (same : v.Same w) : w.Same v :=
  ⟨same.value.symm, Decimal.rel_symm same.minAmount, by rw [← same.rest]⟩

theorem Same.trans (left : v.Same w) (right : w.Same x) : v.Same x :=
  ⟨left.value.trans right.value, Decimal.rel_trans left.minAmount right.minAmount,
    by rw [← right.rest, ← left.rest]⟩

theorem Same.id_eq (same : v.Same w) : v.id = w.id := by
  rw [← same.rest]

theorem Same.code_eq (same : v.Same w) : v.code = w.code := by
  rw [← same.rest]

theorem Same.usageLimit_eq (same : v.Same w) : v.usageLimit = w.usageLimit := by
  rw [← same.rest]

theorem Same.check (same : v.Same w) : v.check = w.check := by
  obtain ⟨value, minAmount, rest⟩ := same
  rw [← rest]
  simp only [Voucher.check, checkValue_congr value, checkMinimum_congr minAmount]

theorem Same.patched (same : v.Same w) (u : VoucherUpdate) :
    Agree Same (v.patched u) (w.patched u) := by
  obtain ⟨value, minAmount, rest⟩ := same
  rw [← rest]
  unfold Voucher.patched
  refine Agree.bind (R := Eq) (.of_eq (fun _ => rfl) rfl) ?_
  rintro code _ rfl
  refine Agree.bind (R := Eq) (.of_eq (fun _ => rfl) rfl) ?_
  rintro countries _ rfl
  refine .ok ⟨?_, ?_, rfl⟩
  · cases u.value with
    | none => exact value
    | some a => exact .refl a
  · cases u.minAmount with
    | keep => exact minAmount
    | clear => exact .none
    | set a => exact .some (.refl a)

/-- The same update of the same voucher is refused for the same cause or gives the same voucher. -/
theorem Same.update (same : v.Same w) (u : VoucherUpdate) :
    Agree Same (v.update u) (w.update u) := by
  refine (same.patched u).bind ?_
  intro next next' same'
  rw [same'.check]
  cases next'.check with
  | error e => exact .error e
  | ok _ => exact .ok same'

theorem Same.changeScope (same : v.Same w) (op : ScopeOp) (l : CatalogueLists) :
    (v.changeScope op l).1.Same (w.changeScope op l).1 ∧
      (v.changeScope op l).2 = (w.changeScope op l).2 := by
  obtain ⟨value, minAmount, rest⟩ := same
  rw [← rest]
  exact ⟨⟨value, minAmount, rfl⟩, rfl⟩

end Same

theorem id_changeScope (v : Voucher) (op : ScopeOp) (l : CatalogueLists) :
    (v.changeScope op l).1.id = v.id := rfl

/-- An accepted update keeps the key, the uses and the scope, and leads to a voucher that passes. -/
theorem update_ok {u : VoucherUpdate} (done : v.update u = .ok w) :
    w.id = v.id ∧ w.used = v.used ∧ w.scope = v.scope ∧ w.check = .ok () := by
  obtain ⟨next, patched, checked⟩ := bind_eq_ok done
  obtain ⟨_, passes, same⟩ := bind_eq_ok checked
  cases same
  obtain ⟨code, -, patched⟩ := bind_eq_ok patched
  obtain ⟨countries, -, patched⟩ := bind_eq_ok patched
  cases patched
  exact ⟨rfl, rfl, rfl, passes⟩

end Voucher

/-- What is accepted as a new voucher passes the check of vouchers. -/
theorem VoucherInput.validate_check {i : VoucherInput} {today : Date} {codeLength : Nat}
    {picks : VoucherCode.Picks} {n : NewVoucher}
    (accepted : i.validate today codeLength picks = .ok n) (id : VoucherId) :
    (n.withId id).check = .ok () := by
  obtain ⟨code, -, accepted⟩ := bind_eq_ok accepted
  obtain ⟨_, value, accepted⟩ := bind_eq_ok accepted
  obtain ⟨_, window, accepted⟩ := bind_eq_ok accepted
  obtain ⟨_, minimum, accepted⟩ := bind_eq_ok accepted
  obtain ⟨countries, -, accepted⟩ := bind_eq_ok accepted
  obtain ⟨_, scope, accepted⟩ := bind_eq_ok accepted
  cases accepted
  have scope : checkScope i.type (CatalogueScope.ofLists (CatalogueScope.empty.add i.catalogues).2)
      = .ok () := by
    rw [CatalogueScope.ofLists_added]
    exact scope
  simp only [Voucher.check, NewVoucher.withId, value, window, minimum]
  exact scope

namespace Sale

variable {s t r : Sale}

section Same

theorem Same.refl (s : Sale) : s.Same s :=
  ⟨.refl _, rfl⟩

theorem Same.symm (same : s.Same t) : t.Same s :=
  ⟨same.value.symm, by rw [← same.rest]⟩

theorem Same.trans (left : s.Same t) (right : t.Same r) : s.Same r :=
  ⟨left.value.trans right.value, by rw [← right.rest, ← left.rest]⟩

theorem Same.id_eq (same : s.Same t) : s.id = t.id := by
  rw [← same.rest]

theorem Same.check (same : s.Same t) : s.check = t.check := by
  obtain ⟨value, rest⟩ := same
  rw [← rest]
  simp only [Sale.check, checkValue_congr value]

theorem Same.patched (same : s.Same t) (u : SaleUpdate) :
    Agree Same (s.patched u) (t.patched u) := by
  obtain ⟨value, rest⟩ := same
  rw [← rest]
  unfold Sale.patched
  refine Agree.bind (R := Eq) (.of_eq (fun _ => rfl) rfl) ?_
  rintro name _ rfl
  refine .ok ⟨?_, rfl⟩
  cases u.value with
  | none => exact value
  | some a => exact .refl a

/-- The same update of the same sale is refused for the same cause or gives the same sale. -/
theorem Same.update (same : s.Same t) (u : SaleUpdate) : Agree Same (s.update u) (t.update u) := by
  refine (same.patched u).bind ?_
  intro next next' same'
  rw [same'.check]
  cases next'.check with
  | error e => exact .error e
  | ok _ => exact .ok same'

theorem Same.changeScope (same : s.Same t) (op : ScopeOp) (l : CatalogueLists) :
    (s.changeScope op l).1.Same (t.changeScope op l).1 ∧
      (s.changeScope op l).2 = (t.changeScope op l).2 := by
  obtain ⟨value, rest⟩ := same
  rw [← rest]
  exact ⟨⟨value, rfl⟩, rfl⟩

end Same

theorem id_changeScope (s : Sale) (op : ScopeOp) (l : CatalogueLists) :
    (s.changeScope op l).1.id = s.id := rfl

/-- An accepted update keeps the key and the scope, and leads to a sale that passes. -/
theorem update_ok {u : SaleUpdate} (done : s.update u = .ok t) :
    t.id = s.id ∧ t.scope = s.scope ∧ t.check = .ok () := by
  obtain ⟨next, patched, checked⟩ := bind_eq_ok done
  obtain ⟨_, passes, same⟩ := bind_eq_ok checked
  cases same
  obtain ⟨name, -, patched⟩ := bind_eq_ok patched
  cases patched
  exact ⟨rfl, rfl, passes⟩

end Sale

/-- What is accepted as a new sale passes the check of sales. -/
theorem SaleInput.validate_check {i : SaleInput} {today : Date} {n : NewSale}
    (accepted : i.validate today = .ok n) (id : SaleId) : (n.withId id).check = .ok () := by
  obtain ⟨name, -, accepted⟩ := bind_eq_ok accepted
  obtain ⟨_, value, accepted⟩ := bind_eq_ok accepted
  obtain ⟨_, window, accepted⟩ := bind_eq_ok accepted
  cases accepted
  simp only [Sale.check, NewSale.withId, value, window]
  rfl

end BackOffice
