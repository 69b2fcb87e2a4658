import BackOffice.Proofs.DiscountUpdates

/-!
# Creation and update

Creation looks at the fields of an input in another order than an update does, and treats blank and
missing texts and days in its own way. It still accepts what an update accepts that sets every field
(`VoucherInput.asUpdate`, `SaleInput.asUpdate`), and leads to the same discount
(`VoucherInput.update_asUpdate_eq_ok_iff`): on both sides the discount has the fields that were
asked for, as `VoucherInput.Gives` lists them, and passes the check as a whole.
-/

namespace BackOffice

open BackOffice.Text Discount

namespace Patch

variable {α : Type}

/-- The update that makes a field what is given, also if that is nothing. -/
def become : Option α → Patch α
  | none => .clear
  | some a => .set a

@[simp] theorem apply_become (given field : Option α) : (become given).apply field = given := by
  cases given <;> rfl

end Patch

namespace VoucherInput

/-- The new voucher `n` is what the input asks for, field by field. -/
structure Gives (i : VoucherInput) (today : Date) (codeLength : Nat) (picks : VoucherCode.Picks)
    (n : NewVoucher) : Prop where
  type : n.type = i.type
  name : n.name = i.name.bind nonBlank?
  code : i.codeFor codeLength picks = .ok n.code
  usageLimit : n.usageLimit = i.usageLimit
  startDate : n.startDate = i.startDate.getD today
  endDate : n.endDate = i.endDate
  valueType : n.valueType = i.valueType
  value : n.value = i.value
  minAmount : n.minAmount = i.minAmount
  countries : countryCodes i.countries = .ok n.countries
  scope : n.scope = (CatalogueScope.empty.add i.catalogues).2

/-- The update that sets every field to what the input asks for. -/
def asUpdate (i : VoucherInput) (today : Date) : VoucherUpdate where
  type := some i.type
  name := some (i.name.getD "")
  code := i.code
  usageLimit := .become i.usageLimit
  startDate := some (i.startDate.getD today)
  endDate := .become i.endDate
  valueType := some i.valueType
  value := some i.value
  minAmount := .become i.minAmount
  countries := some i.countries

variable {i : VoucherInput} {today : Date} {codeLength : Nat} {picks : VoucherCode.Picks}
  {n : NewVoucher} {v w : Voucher} {text : String}

theorem Gives.scope_withId (gives : i.Gives today codeLength picks n) (id : VoucherId) :
    (n.withId id).scope = .ofLists i.catalogues := by
  rw [← CatalogueScope.empty_add, ← CatalogueScope.ofLists_added, ← gives.scope]
  rfl

/-- What is accepted is what the input asks for, and passes as a voucher. -/
theorem validate_eq_ok_iff (id : VoucherId) :
    i.validate today codeLength picks = .ok n ↔
      i.Gives today codeLength picks n ∧ (n.withId id).check = .ok () := by
  constructor
  · intro accepted
    have passes := i.validate_check accepted id
    obtain ⟨code, read, accepted⟩ := bind_eq_ok accepted
    obtain ⟨_, -, accepted⟩ := bind_eq_ok accepted
    obtain ⟨_, -, accepted⟩ := bind_eq_ok accepted
    obtain ⟨_, -, accepted⟩ := bind_eq_ok accepted
    obtain ⟨countries, listed, accepted⟩ := bind_eq_ok accepted
    obtain ⟨_, -, accepted⟩ := bind_eq_ok accepted
    cases accepted
    exact ⟨⟨rfl, rfl, read, rfl, rfl, rfl, rfl, rfl, rfl, listed, rfl⟩, passes⟩
  · rintro ⟨gives, passes⟩
    simp only [Voucher.check, then_eq_ok_iff, gives.scope_withId id] at passes
    obtain ⟨value, window, minimum, scope⟩ := passes
    obtain ⟨⟩ := n
    obtain ⟨rfl, rfl, read, rfl, rfl, rfl, rfl, rfl, rfl, listed, rfl⟩ := gives
    rw [← CatalogueScope.empty_add] at scope
    simp only [NewVoucher.withId] at value window minimum scope
    rw [validate, read]
    simp only [listed, value, window, minimum, scope]
    rfl

theorem codeFor_of_given (given : i.code = some text) (visible : trim text ≠ "") :
    i.codeFor codeLength picks = VoucherCode.parse text := by
  have spelling : SameSpelling (trim text) text := congrArg upper (trim_trim text)
  have asked : i.code.bind nonBlank? = some (trim text) := by
    rw [given, Option.bind_some, nonBlank?_eq_some_iff]
    exact ⟨rfl, visible⟩
  unfold codeFor
  rw [asked]
  exact VoucherCode.parse_congr spelling

/-- An update reads a blank name as creation reads a missing one. -/
theorem name_asUpdate (i : VoucherInput) (today : Date) (name : Option String) :
    ((i.asUpdate today).name.map nonBlank?).getD name = i.name.bind nonBlank? := by
  cases given : i.name with
  | none =>
    have blank : nonBlank? "" = none := by decide
    simp only [asUpdate, given, Option.getD_none, Option.map_some, Option.getD_some, blank,
      Option.bind_none]
  | some text =>
    simp only [asUpdate, given, Option.getD_some, Option.map_some, Option.bind_some]

theorem code_asUpdate (given : i.code = some text) (visible : trim text ≠ "")
    (code : VoucherCode) :
    readOr VoucherCode.parse code (i.asUpdate today).code = i.codeFor codeLength picks := by
  rw [codeFor_of_given given visible, asUpdate]
  simp only [given, readOr_some]

/-- What a voucher with a code of its own is to be when it is created, it also becomes by setting
every field of a voucher with this scope. -/
theorem Gives.turns (gives : i.Gives today codeLength picks n) (given : i.code = some text)
    (visible : trim text ≠ "") (scope : v.scope = .ofLists i.catalogues) :
    (i.asUpdate today).Turns v { n.withId v.id with used := v.used } where
  id := rfl
  type := gives.type
  name := gives.name.trans (i.name_asUpdate today v.name).symm
  code := (code_asUpdate given visible v.code).trans gives.code
  usageLimit := gives.usageLimit.trans (Patch.apply_become _ _).symm
  used := rfl
  startDate := gives.startDate
  endDate := gives.endDate.trans (Patch.apply_become _ _).symm
  valueType := gives.valueType
  value := gives.value
  minAmount := gives.minAmount.trans (Patch.apply_become _ _).symm
  countries := (readOr_some i.countries).trans gives.countries
  scope := (gives.scope_withId v.id).trans scope.symm

theorem exists_gives_of_turns (codeLength : Nat) (picks : VoucherCode.Picks)
    (turns : (i.asUpdate today).Turns v w) (given : i.code = some text)
    (visible : trim text ≠ "") (scope : v.scope = .ofLists i.catalogues) :
    ∃ n, i.Gives today codeLength picks n ∧ w = { n.withId v.id with used := v.used } := by
  let n : NewVoucher := {
    type := i.type, name := i.name.bind nonBlank?, code := w.code, usageLimit := i.usageLimit
    startDate := i.startDate.getD today, endDate := i.endDate, valueType := i.valueType
    value := i.value, minAmount := i.minAmount, countries := w.countries
    scope := (CatalogueScope.empty.add i.catalogues).2 }
  have code : i.codeFor codeLength picks = .ok n.code :=
    (code_asUpdate given visible v.code).symm.trans turns.code
  have countries : countryCodes i.countries = .ok n.countries :=
    (readOr_some i.countries).symm.trans turns.countries
  have gives : i.Gives today codeLength picks n :=
    ⟨rfl, rfl, code, rfl, rfl, rfl, rfl, rfl, rfl, countries, rfl⟩
  exact ⟨n, gives, turns.unique (gives.turns given visible scope)⟩

/-- What is accepted for a new voucher with a code of its own is accepted for the fields of one
that is there, and leads to the same. -/
theorem update_asUpdate_eq_ok_iff (given : i.code = some text) (visible : trim text ≠ "")
    (scope : v.scope = .ofLists i.catalogues) :
    v.update (i.asUpdate today) = .ok w ↔
      ∃ n, i.validate today codeLength picks = .ok n ∧
        w = { n.withId v.id with used := v.used } := by
  simp only [Voucher.update_eq_ok_iff, validate_eq_ok_iff v.id]
  constructor
  · rintro ⟨turns, passes⟩
    obtain ⟨n, gives, rfl⟩ := exists_gives_of_turns codeLength picks turns given visible scope
    exact ⟨n, ⟨gives, passes⟩, rfl⟩
  · rintro ⟨n, ⟨gives, passes⟩, rfl⟩
    exact ⟨gives.turns given visible scope, passes⟩

end VoucherInput

namespace SaleInput

/-- The new sale `n` is what the input asks for, field by field. -/
structure Gives (i : SaleInput) (today : Date) (n : NewSale) : Prop where
  name : requiredName i.name = .ok n.name
  valueType : n.valueType = i.valueType
  value : n.value = i.value
  startDate : n.startDate = i.startDate.getD today
  endDate : n.endDate = i.endDate

/-- The update that sets every field to what the input asks for. -/
def asUpdate (i : SaleInput) (today : Date) : SaleUpdate where
  name := some i.name
  valueType := some i.valueType
  value := some i.value
  startDate := some (i.startDate.getD today)
  endDate := .become i.endDate

variable {i : SaleInput} {today : Date} {n : NewSale} {s t : Sale}

theorem validate_eq_ok_iff (id : SaleId) :
    i.validate today = .ok n ↔ i.Gives today n ∧ (n.withId id).check = .ok () := by
  constructor
  · intro accepted
    have passes := i.validate_check accepted id
    obtain ⟨name, given, accepted⟩ := bind_eq_ok accepted
    obtain ⟨_, -, accepted⟩ := bind_eq_ok accepted
    obtain ⟨_, -, accepted⟩ := bind_eq_ok accepted
    cases accepted
    exact ⟨⟨given, rfl, rfl, rfl, rfl⟩, passes⟩
  · rintro ⟨gives, passes⟩
    simp only [Sale.check, then_eq_ok_iff] at passes
    obtain ⟨value, window⟩ := passes
    obtain ⟨⟩ := n
    obtain ⟨given, rfl, rfl, rfl, rfl⟩ := gives
    simp only [NewSale.withId] at value window
    rw [validate, given]
    simp only [value, window]
    rfl

theorem Gives.turns (gives : i.Gives today n) (s : Sale) :
    (i.asUpdate today).Turns s { n.withId s.id with scope := s.scope } where
  id := rfl
  name := (readOr_some i.name).trans gives.name
  valueType := gives.valueType
  value := gives.value
  startDate := gives.startDate
  endDate := gives.endDate.trans (Patch.apply_become _ _).symm
  scope := rfl

theorem exists_gives_of_turns (turns : (i.asUpdate today).Turns s t) :
    ∃ n, i.Gives today n ∧ t = { n.withId s.id with scope := s.scope } := by
  let n : NewSale := {
    name := t.name, valueType := i.valueType, value := i.value
    startDate := i.startDate.getD today, endDate := i.endDate }
  have named : requiredName i.name = .ok n.name := (readOr_some i.name).symm.trans turns.name
  have gives : i.Gives today n := ⟨named, rfl, rfl, rfl, rfl⟩
  exact ⟨n, gives, turns.unique (gives.turns s)⟩

theorem update_asUpdate_eq_ok_iff :
    s.update (i.asUpdate today) = .ok t ↔
      ∃ n, i.validate today = .ok n ∧ t = { n.withId s.id with scope := s.scope } := by
  simp only [Sale.update_eq_ok_iff, validate_eq_ok_iff s.id]
  constructor
  · rintro ⟨turns, passes⟩
    obtain ⟨n, gives, rfl⟩ := exists_gives_of_turns turns
    exact ⟨n, ⟨gives, passes⟩, rfl⟩
  · rintro ⟨n, ⟨gives, passes⟩, rfl⟩
    exact ⟨gives.turns s, passes⟩

end SaleInput

namespace Discount

/-- **A new discount and a changed one are held to the same rules.** Take what staff ask for when
they create a voucher, with a code of its own, and any voucher that has these entities in scope.
Then creation accepts it exactly if the update that sets every field to it passes, and the updated
voucher is the new one, but for the uses it had. Likewise for a sale, which keeps its scope. -/
theorem creation_and_update_agree :
    (∀ (i : VoucherInput) text today codeLength picks (v : Voucher),
      i.code = some text → trim text ≠ "" → v.scope = .ofLists i.catalogues →
      ((∃ n, i.validate today codeLength picks = .ok n) ↔
        ∃ w, v.update (i.asUpdate today) = .ok w) ∧
      ∀ n, i.validate today codeLength picks = .ok n →
        v.update (i.asUpdate today) = .ok { n.withId v.id with used := v.used }) ∧
    ∀ (i : SaleInput) today (s : Sale),
      ((∃ n, i.validate today = .ok n) ↔ ∃ t, s.update (i.asUpdate today) = .ok t) ∧
      ∀ n, i.validate today = .ok n →
        s.update (i.asUpdate today) = .ok { n.withId s.id with scope := s.scope } := by
  constructor
  · intro i text today codeLength picks v given visible scope
    have leads (n : NewVoucher) (accepted : i.validate today codeLength picks = .ok n) :
        v.update (i.asUpdate today) = .ok { n.withId v.id with used := v.used } :=
      (VoucherInput.update_asUpdate_eq_ok_iff given visible scope).2 ⟨n, accepted, rfl⟩
    refine ⟨⟨fun ⟨n, accepted⟩ => ⟨_, leads n accepted⟩, fun ⟨w, done⟩ => ?_⟩, leads⟩
    obtain ⟨n, accepted, -⟩ :=
      (VoucherInput.update_asUpdate_eq_ok_iff given visible scope).1 done
    exact ⟨n, accepted⟩
  · intro i today s
    have leads (n : NewSale) (accepted : i.validate today = .ok n) :
        s.update (i.asUpdate today) = .ok { n.withId s.id with scope := s.scope } :=
      SaleInput.update_asUpdate_eq_ok_iff.2 ⟨n, accepted, rfl⟩
    refine ⟨⟨fun ⟨n, accepted⟩ => ⟨_, leads n accepted⟩, fun ⟨t, done⟩ => ?_⟩, leads⟩
    obtain ⟨n, accepted, -⟩ := SaleInput.update_asUpdate_eq_ok_iff.1 done
    exact ⟨n, accepted⟩

/-- A percentage on two products with a blank name, a code in small letters and without a first day:
a voucher for shipping with these products in scope becomes it. With a last day before the day of
creation neither passes. -/
theorem creation_and_update_agree_for_one :
    let today : Date := { year := 2026, month := 2, day := 1 }
    let early : Date := { year := 2026, month := 1, day := 31 }
    let picks : VoucherCode.Picks := fun i => ⟨i % 32, Nat.mod_lt _ (by decide)⟩
    let i : VoucherInput := {
      type := .product, name := some " ", code := some " ten ", valueType := .percentage
      value := { magnitude := 100 }, countries := ["no", " DE", "NO "]
      catalogues := ⟨[3, 1, 3], [], []⟩ }
    let v : Voucher := {
      id := ⟨7⟩, type := .shipping, name := some "Spring", code := ⟨"OLD"⟩, usageLimit := some 9
      used := 4, startDate := early, endDate := some early, valueType := .fixed, value := .zero
      minAmount := none, countries := [], scope := .ofLists ⟨[1, 3], [], []⟩ }
    let n : NewVoucher := {
      type := .product, name := none, code := ⟨"TEN"⟩, usageLimit := none, startDate := today
      endDate := none, valueType := .percentage, value := { magnitude := 100 }, minAmount := none
      countries := ["DE", "NO"], scope := ⟨[1, 3], [], []⟩ }
    i.validate today 12 picks = .ok n ∧
      v.update (i.asUpdate today) = .ok { n.withId ⟨7⟩ with used := 4 } ∧
      ¬∃ w, v.update ({ i with endDate := some early }.asUpdate today) = .ok w := by
  intro today early picks i v n
  obtain ⟨vouchers, -⟩ := creation_and_update_agree
  have scope : v.scope = .ofLists i.catalogues := by decide
  have visible : trim " ten " ≠ "" := by decide
  have accepted : i.validate today 12 picks = .ok n := by decide +kernel
  have refused : { i with endDate := some early }.validate today 12 picks =
      .error .endBeforeStart := by decide +kernel
  obtain ⟨-, leads⟩ := vouchers i " ten " today 12 picks v rfl visible scope
  obtain ⟨alike, -⟩ :=
    vouchers { i with endDate := some early } " ten " today 12 picks v rfl visible scope
  refine ⟨accepted, leads n accepted, fun done => ?_⟩
  obtain ⟨n', accepted'⟩ := alike.2 done
  rw [refused] at accepted'
  cases accepted'

end Discount

end BackOffice
