import BackOffice.Proofs.DiscountValidity

/-!
# Updates of discounts, field by field

An accepted update turns a discount into another one field by field (`VoucherUpdate.Turns`,
`SaleUpdate.Turns`), and only the result is held to the rules, as a whole. So updates compose: of
two in a row the later one overrides the earlier (`VoucherUpdate.orElse`), and what is true of the
discount between them does not matter.
-/

namespace BackOffice

open BackOffice.Text Discount

namespace Patch

variable {α : Type}

theorem apply_apply (p : Patch α) (field : Option α) : p.apply (p.apply field) = p.apply field := by
  cases p <;> rfl

end Patch

theorem getD_again {α : Type} (given : Option α) (field : α) :
    given.getD (given.getD field) = given.getD field := by
  rw [← Option.getD_or, Option.or_self]

/-- What is made and then passes its check is what was made, and has passed. -/
theorem checked_eq_ok_iff {ε α : Type} {made : Except ε α} {check : α → Except ε Unit} {a : α} :
    (do let next ← made; check next; return next) = .ok a ↔ made = .ok a ∧ check a = .ok () := by
  constructor
  · intro done
    obtain ⟨next, made, done⟩ := bind_eq_ok done
    obtain ⟨_, passes, same⟩ := bind_eq_ok done
    cases same
    exact ⟨made, passes⟩
  · rintro ⟨rfl, passes⟩
    change (do check a; return a) = _
    rw [passes]
    rfl

/-- A field after an update whose text for it is read first; without a text it stays. -/
def readOr {α β : Type} (read : α → Except Invalid β) (field : β) : Option α → Except Invalid β
  | none => .ok field
  | some a => read a

section ReadOr

variable {α β : Type} {read : α → Except Invalid β} {field next last : β} {a b : Option α}

@[simp] theorem readOr_none : readOr read field none = .ok field := rfl

@[simp] theorem readOr_some (given : α) : readOr read field (some given) = read given := rfl

theorem eq_of_readOr_silent (done : readOr read field a = .ok next) (silent : a = none) :
    next = field := by
  rw [silent] at done
  exact (Except.ok.inj done).symm

/-- What was read once is read again, and a field that was left alone is left alone again. -/
theorem readOr_again (done : readOr read field a = .ok next) : readOr read next a = .ok next := by
  cases a with
  | none => rfl
  | some _ => exact done

/-- A later text counts, and else the earlier. -/
theorem readOr_or (first : readOr read field a = .ok next)
    (second : readOr read next b = .ok last) :
    readOr read field (b.or a) = .ok last := by
  cases b with
  | none =>
    cases second
    exact first
  | some _ => exact second

end ReadOr

namespace VoucherUpdate

theorem codeOr_eq (u : VoucherUpdate) (code : VoucherCode) :
    u.codeOr code = readOr VoucherCode.parse code u.code := by
  unfold codeOr
  split
  next silent => rw [silent, readOr_none]
  next text given => rw [given, readOr_some]

theorem countriesOr_eq (u : VoucherUpdate) (countries : List String) :
    u.countriesOr countries = readOr countryCodes countries u.countries := by
  unfold countriesOr
  split
  next silent => rw [silent, readOr_none]
  next texts given => rw [given, readOr_some]

/-- The voucher `w` is `v` with each field as the update sets it: a blank name is none, code and
countries are read, and no other field but those of an update is touched. -/
structure Turns (u : VoucherUpdate) (v w : Voucher) : Prop where
  id : w.id = v.id
  type : w.type = u.type.getD v.type
  name : w.name = (u.name.map nonBlank?).getD v.name
  code : readOr VoucherCode.parse v.code u.code = .ok w.code
  usageLimit : w.usageLimit = u.usageLimit.apply v.usageLimit
  used : w.used = v.used
  startDate : w.startDate = u.startDate.getD v.startDate
  endDate : w.endDate = u.endDate.apply v.endDate
  valueType : w.valueType = u.valueType.getD v.valueType
  value : w.value = u.value.getD v.value
  minAmount : w.minAmount = u.minAmount.apply v.minAmount
  countries : readOr countryCodes v.countries u.countries = .ok w.countries
  scope : w.scope = v.scope

/-- The vouchers agree in all that an update does not set. -/
structure Spares (u : VoucherUpdate) (v w : Voucher) : Prop where
  id : w.id = v.id
  used : w.used = v.used
  scope : w.scope = v.scope
  type : u.type = none → w.type = v.type
  name : u.name = none → w.name = v.name
  code : u.code = none → w.code = v.code
  usageLimit : u.usageLimit = .keep → w.usageLimit = v.usageLimit
  startDate : u.startDate = none → w.startDate = v.startDate
  endDate : u.endDate = .keep → w.endDate = v.endDate
  valueType : u.valueType = none → w.valueType = v.valueType
  value : u.value = none → w.value = v.value
  minAmount : u.minAmount = .keep → w.minAmount = v.minAmount
  countries : u.countries = none → w.countries = v.countries

/-- Two updates as one: each field is set as the later one sets it, or else as the earlier. -/
def orElse (later earlier : VoucherUpdate) : VoucherUpdate where
  type := later.type.or earlier.type
  name := later.name.or earlier.name
  code := later.code.or earlier.code
  usageLimit := later.usageLimit.orElse earlier.usageLimit
  startDate := later.startDate.or earlier.startDate
  endDate := later.endDate.orElse earlier.endDate
  valueType := later.valueType.or earlier.valueType
  value := later.value.or earlier.value
  minAmount := later.minAmount.orElse earlier.minAmount
  countries := later.countries.or earlier.countries

variable {u u' : VoucherUpdate} {v w x : Voucher}

theorem Turns.spares (turns : u.Turns v w) : u.Spares v w where
  id := turns.id
  used := turns.used
  scope := turns.scope
  type silent := by rw [turns.type, silent, Option.getD_none]
  name silent := by rw [turns.name, silent, Option.map_none, Option.getD_none]
  code := eq_of_readOr_silent turns.code
  usageLimit silent := by rw [turns.usageLimit, silent, Patch.apply_keep]
  startDate silent := by rw [turns.startDate, silent, Option.getD_none]
  endDate silent := by rw [turns.endDate, silent, Patch.apply_keep]
  valueType silent := by rw [turns.valueType, silent, Option.getD_none]
  value silent := by rw [turns.value, silent, Option.getD_none]
  minAmount silent := by rw [turns.minAmount, silent, Patch.apply_keep]
  countries := eq_of_readOr_silent turns.countries

/-- An update leads to one voucher only. -/
theorem Turns.unique (turns : u.Turns v w) (turns' : u.Turns v x) : w = x := by
  obtain ⟨⟩ := w
  obtain ⟨⟩ := x
  rw [Voucher.mk.injEq]
  exact ⟨turns.id.trans turns'.id.symm, turns.type.trans turns'.type.symm,
    turns.name.trans turns'.name.symm, Except.ok.inj (turns.code.symm.trans turns'.code),
    turns.usageLimit.trans turns'.usageLimit.symm, turns.used.trans turns'.used.symm,
    turns.startDate.trans turns'.startDate.symm, turns.endDate.trans turns'.endDate.symm,
    turns.valueType.trans turns'.valueType.symm, turns.value.trans turns'.value.symm,
    turns.minAmount.trans turns'.minAmount.symm,
    Except.ok.inj (turns.countries.symm.trans turns'.countries),
    turns.scope.trans turns'.scope.symm⟩

/-- An update that has been made can be made again, and changes nothing. -/
theorem Turns.again (turns : u.Turns v w) : u.Turns w w where
  id := rfl
  type := by rw [turns.type, getD_again]
  name := by rw [turns.name, getD_again]
  code := readOr_again turns.code
  usageLimit := by rw [turns.usageLimit, Patch.apply_apply]
  used := rfl
  startDate := by rw [turns.startDate, getD_again]
  endDate := by rw [turns.endDate, Patch.apply_apply]
  valueType := by rw [turns.valueType, getD_again]
  value := by rw [turns.value, getD_again]
  minAmount := by rw [turns.minAmount, Patch.apply_apply]
  countries := readOr_again turns.countries
  scope := rfl

/-- One update after another is the one of both, field by field. -/
theorem Turns.trans (first : u.Turns v w) (second : u'.Turns w x) : (u'.orElse u).Turns v x where
  id := second.id.trans first.id
  type := by rw [second.type, first.type, orElse, Option.getD_or]
  name := by rw [second.name, first.name, orElse, Option.map_or, Option.getD_or]
  code := readOr_or first.code second.code
  usageLimit := by rw [second.usageLimit, first.usageLimit, orElse, Patch.apply_orElse]
  used := second.used.trans first.used
  startDate := by rw [second.startDate, first.startDate, orElse, Option.getD_or]
  endDate := by rw [second.endDate, first.endDate, orElse, Patch.apply_orElse]
  valueType := by rw [second.valueType, first.valueType, orElse, Option.getD_or]
  value := by rw [second.value, first.value, orElse, Option.getD_or]
  minAmount := by rw [second.minAmount, first.minAmount, orElse, Patch.apply_orElse]
  countries := readOr_or first.countries second.countries
  scope := second.scope.trans first.scope

end VoucherUpdate

namespace Voucher

variable {v w : Voucher} {u : VoucherUpdate}

theorem turns_of_patched (done : v.patched u = .ok w) : u.Turns v w := by
  unfold patched at done
  rw [u.codeOr_eq, u.countriesOr_eq] at done
  obtain ⟨code, read, done⟩ := bind_eq_ok done
  obtain ⟨countries, listed, done⟩ := bind_eq_ok done
  cases done
  refine ⟨rfl, rfl, ?_, read, rfl, rfl, rfl, rfl, rfl, rfl, rfl, listed, rfl⟩
  dsimp only
  split
  next silent => rw [silent, Option.map_none, Option.getD_none]
  next text given => rw [given, Option.map_some, Option.getD_some]

theorem patched_eq_ok_iff : v.patched u = .ok w ↔ u.Turns v w := by
  refine ⟨turns_of_patched, fun turns => ?_⟩
  have done : ∃ x, v.patched u = .ok x := by
    unfold patched
    rw [u.codeOr_eq, u.countriesOr_eq, turns.code, turns.countries]
    exact ⟨_, rfl⟩
  obtain ⟨x, done⟩ := done
  rw [done, (turns_of_patched done).unique turns]

theorem update_eq_ok_iff : v.update u = .ok w ↔ u.Turns v w ∧ w.check = .ok () := by
  rw [update, checked_eq_ok_iff, patched_eq_ok_iff]

end Voucher

namespace SaleUpdate

theorem nameOr_eq (u : SaleUpdate) (name : String) :
    u.nameOr name = readOr requiredName name u.name := by
  unfold nameOr
  split
  next silent => rw [silent, readOr_none]
  next text given => rw [given, readOr_some]

/-- The sale `t` is `s` with each field as the update sets it. -/
structure Turns (u : SaleUpdate) (s t : Sale) : Prop where
  id : t.id = s.id
  name : readOr requiredName s.name u.name = .ok t.name
  valueType : t.valueType = u.valueType.getD s.valueType
  value : t.value = u.value.getD s.value
  startDate : t.startDate = u.startDate.getD s.startDate
  endDate : t.endDate = u.endDate.apply s.endDate
  scope : t.scope = s.scope

/-- The sales agree in all that an update does not set. -/
structure Spares (u : SaleUpdate) (s t : Sale) : Prop where
  id : t.id = s.id
  scope : t.scope = s.scope
  name : u.name = none → t.name = s.name
  valueType : u.valueType = none → t.valueType = s.valueType
  value : u.value = none → t.value = s.value
  startDate : u.startDate = none → t.startDate = s.startDate
  endDate : u.endDate = .keep → t.endDate = s.endDate

/-- Two updates as one: each field is set as the later one sets it, or else as the earlier. -/
def orElse (later earlier : SaleUpdate) : SaleUpdate where
  name := later.name.or earlier.name
  valueType := later.valueType.or earlier.valueType
  value := later.value.or earlier.value
  startDate := later.startDate.or earlier.startDate
  endDate := later.endDate.orElse earlier.endDate

variable {u u' : SaleUpdate} {s t r : Sale}

theorem Turns.spares (turns : u.Turns s t) : u.Spares s t where
  id := turns.id
  scope := turns.scope
  name := eq_of_readOr_silent turns.name
  valueType silent := by rw [turns.valueType, silent, Option.getD_none]
  value silent := by rw [turns.value, silent, Option.getD_none]
  startDate silent := by rw [turns.startDate, silent, Option.getD_none]
  endDate silent := by rw [turns.endDate, silent, Patch.apply_keep]

theorem Turns.unique (turns : u.Turns s t) (turns' : u.Turns s r) : t = r := by
  obtain ⟨⟩ := t
  obtain ⟨⟩ := r
  rw [Sale.mk.injEq]
  exact ⟨turns.id.trans turns'.id.symm, Except.ok.inj (turns.name.symm.trans turns'.name),
    turns.valueType.trans turns'.valueType.symm, turns.value.trans turns'.value.symm,
    turns.startDate.trans turns'.startDate.symm, turns.endDate.trans turns'.endDate.symm,
    turns.scope.trans turns'.scope.symm⟩

theorem Turns.again (turns : u.Turns s t) : u.Turns t t where
  id := rfl
  name := readOr_again turns.name
  valueType := by rw [turns.valueType, getD_again]
  value := by rw [turns.value, getD_again]
  startDate := by rw [turns.startDate, getD_again]
  endDate := by rw [turns.endDate, Patch.apply_apply]
  scope := rfl

theorem Turns.trans (first : u.Turns s t) (second : u'.Turns t r) : (u'.orElse u).Turns s r where
  id := second.id.trans first.id
  name := readOr_or first.name second.name
  valueType := by rw [second.valueType, first.valueType, orElse, Option.getD_or]
  value := by rw [second.value, first.value, orElse, Option.getD_or]
  startDate := by rw [second.startDate, first.startDate, orElse, Option.getD_or]
  endDate := by rw [second.endDate, first.endDate, orElse, Patch.apply_orElse]
  scope := second.scope.trans first.scope

end SaleUpdate

namespace Sale

variable {s t : Sale} {u : SaleUpdate}

theorem patched_eq_ok_iff : s.patched u = .ok t ↔ u.Turns s t := by
  unfold patched
  rw [u.nameOr_eq]
  constructor
  · intro done
    obtain ⟨name, read, done⟩ := bind_eq_ok done
    cases done
    exact ⟨rfl, read, rfl, rfl, rfl, rfl, rfl⟩
  · obtain ⟨⟩ := t
    rintro ⟨rfl, read, rfl, rfl, rfl, rfl, rfl⟩
    rw [read]
    rfl

theorem update_eq_ok_iff : s.update u = .ok t ↔ u.Turns s t ∧ t.check = .ok () := by
  rw [update, checked_eq_ok_iff, patched_eq_ok_iff]

end Sale

namespace Discount

/-- **Updates compose by overriding.** Whatever a discount is like, valid or not, an update that is
refused leaves it as it was. One that passes leaves alone the key, the uses, the scope and every
field that it does not set; made again it passes and changes nothing; and if another one then passes
as well, the update that sets each field as the later one does, or else as the earlier, passes on
the discount from before and leads to the same. -/
theorem updates_override :
    (∀ (v : Voucher) u,
      (∀ e, v.update u = .error e → v.happen (.update u) = v) ∧
      ∀ w, v.update u = .ok w →
        v.happen (.update u) = w ∧ u.Spares v w ∧ w.update u = .ok w ∧
        ∀ u' x, w.update u' = .ok x → v.update (u'.orElse u) = .ok x) ∧
    ∀ (s : Sale) u,
      (∀ e, s.update u = .error e → s.happen (.update u) = s) ∧
      ∀ t, s.update u = .ok t →
        s.happen (.update u) = t ∧ u.Spares s t ∧ t.update u = .ok t ∧
        ∀ u' r, t.update u' = .ok r → s.update (u'.orElse u) = .ok r := by
  constructor
  · intro v u
    refine ⟨fun e refused => by rw [Voucher.happen_update, refused], fun w done => ?_⟩
    obtain ⟨turns, passes⟩ := Voucher.update_eq_ok_iff.1 done
    refine ⟨by rw [Voucher.happen_update, done], turns.spares,
      Voucher.update_eq_ok_iff.2 ⟨turns.again, passes⟩, fun u' x later => ?_⟩
    -- What the result has to pass is what the later update was held to.
    obtain ⟨turns', passes'⟩ := Voucher.update_eq_ok_iff.1 later
    exact Voucher.update_eq_ok_iff.2 ⟨turns.trans turns', passes'⟩
  · intro s u
    refine ⟨fun e refused => by rw [Sale.happen_update, refused], fun t done => ?_⟩
    obtain ⟨turns, passes⟩ := Sale.update_eq_ok_iff.1 done
    refine ⟨by rw [Sale.happen_update, done], turns.spares,
      Sale.update_eq_ok_iff.2 ⟨turns.again, passes⟩, fun u' r later => ?_⟩
    obtain ⟨turns', passes'⟩ := Sale.update_eq_ok_iff.1 later
    exact Sale.update_eq_ok_iff.2 ⟨turns.trans turns', passes'⟩

/-- A voucher with too high a percentage, which nobody could save, is set right; then its name and
last day go and its code and countries change. Both updates in one do the same. A sale is first
given a last day and a name, and then another name and no last day. -/
theorem updates_override_for_one :
    let today : Date := { year := 2026, month := 2, day := 1 }
    let v : Voucher := {
      id := ⟨1⟩, type := .value, name := some "Spring", code := ⟨"ten"⟩, usageLimit := some 9
      used := 4, startDate := today, endDate := some today, valueType := .percentage
      value := { magnitude := 200 }, minAmount := none, countries := ["no"], scope := .empty }
    let u : VoucherUpdate := { value := some { magnitude := 20 }, code := some " abc " }
    let u' : VoucherUpdate := {
      name := some " ", code := some "x_1", endDate := .clear, countries := some ["no", " DE"] }
    let w : Voucher := { v with value := { magnitude := 20 }, code := ⟨"ABC"⟩ }
    let x : Voucher :=
      { w with name := none, code := ⟨"X_1"⟩, endDate := none, countries := ["DE", "NO"] }
    let s : Sale := {
      id := ⟨1⟩, name := "Winter", valueType := .fixed, value := .zero, startDate := today
      endDate := none, scope := .empty }
    let toSet : SaleUpdate := { name := some " Summer ", endDate := .set today }
    let toClear : SaleUpdate := { name := some "Autumn", endDate := .clear }
    v.update u = .ok w ∧ w.update u = .ok w ∧ w.update u' = .ok x ∧
      v.update (u'.orElse u) = .ok x ∧
      s.update (toClear.orElse toSet) = .ok { s with name := "Autumn" } := by
  intro today v u u' w x s toSet toClear
  obtain ⟨vouchers, sales⟩ := updates_override
  have first : v.update u = .ok w := by decide +kernel
  have second : w.update u' = .ok x := by decide +kernel
  have named : s.update toSet = .ok { s with name := "Summer", endDate := some today } := by
    decide +kernel
  have renamed : ({ s with name := "Summer", endDate := some today } : Sale).update toClear =
      .ok { s with name := "Autumn" } := by decide +kernel
  obtain ⟨-, -, again, both⟩ := (vouchers v u).2 w first
  obtain ⟨-, -, -, bothSales⟩ := (sales s toSet).2 _ named
  exact ⟨first, again, second, both u' x second, bothSales toClear _ renamed⟩

end Discount

end BackOffice
