import BackOffice.Proofs.CodeSpelling

/-!
# Discounts stay valid

The rules for discounts, said of numbers, days and texts (`Voucher.Sound`, `Sale.Sound`), hold from
creation on, whatever then happens to the discount and however many updates are refused. The rule
that a voucher has something of the needed kind in scope (`Voucher.Scoped`) is looked at by
creation and by updates only. So a removal can break it, and nothing else can; an update that
leaves the type alone is then refused (`Voucher.update_of_not_scoped`).
-/

namespace BackOffice

open BackOffice.Text

namespace Discount

/-- The value's number is not negative, and as a percentage at most one hundred. -/
def InRange (type : ValueType) (value : Decimal) : Prop :=
  0 ≤ value.number ∧ (type = .percentage → value.number ≤ 100)

/-- The last day, if there is one, does not come before the first. -/
def InOrder (first : Date) (last : Option Date) : Prop := ∀ d ∈ last, first ≤ d

/-- The name stands trimmed, and something is left of it. -/
def IsName (s : String) : Prop := trim s = s ∧ s ≠ ""

section Checks

theorem lt_zero_iff {a : Decimal} : a < Decimal.zero ↔ a.number < 0 := by
  have zero : Decimal.zero.number = 0 := by simp [Decimal.number, Decimal.mantissa, Decimal.zero]
  rw [Decimal.lt_iff, zero]

theorem hundred_lt_iff {a : Decimal} : Decimal.hundred < a ↔ 100 < a.number := by
  have hundred : Decimal.hundred.number = 100 := by
    simp [Decimal.number, Decimal.mantissa, Decimal.hundred]
  rw [Decimal.lt_iff, hundred]

theorem checkValue_eq_ok_iff {field : String} {type : ValueType} {a : Decimal} :
    checkValue field type a = .ok () ↔ InRange type a := by
  simp only [checkValue, InRange, lt_zero_iff, hundred_lt_iff]
  split
  next negative => simp [negative]
  next nonneg =>
    split
    next above => simp [above.1, above.2]
    next within =>
      have least : 0 ≤ a.number := not_lt.1 nonneg
      have most : type = .percentage → a.number ≤ 100 := fun percentage =>
        not_lt.1 fun above => within ⟨percentage, above⟩
      exact iff_of_true rfl ⟨least, most⟩

theorem checkWindow_eq_ok_iff {first : Date} {last : Option Date} :
    checkWindow first last = .ok () ↔ InOrder first last := by
  have later : ∀ d : Date, ¬d < first ↔ first ≤ d := fun d => Int.not_lt
  cases last with
  | none => simp [checkWindow, InOrder]
  | some d => simp [checkWindow, InOrder, ← later]

theorem checkMinimum_eq_ok_iff {amount : Option Decimal} :
    checkMinimum amount = .ok () ↔ ∀ a ∈ amount, 0 ≤ a.number := by
  cases amount with
  | none => simp [checkMinimum]
  | some a => simp [checkMinimum, lt_zero_iff]

theorem checkScope_eq_ok_iff {type : VoucherType} {scope : CatalogueScope} :
    checkScope type scope = .ok () ↔ ∀ kind ∈ type.neededKind?, ∃ x, x ∈ scope.get kind := by
  unfold checkScope
  split
  next kind needed =>
    have empty : (scope.get kind).isEmpty = false ↔ ∃ x, x ∈ scope.get kind := by
      rw [SortedSet.isEmpty, List.isEmpty_eq_false_iff_exists_mem]
      exact Iff.rfl
    rw [needed]
    cases which : (scope.get kind).isEmpty with
    | false => simpa using empty.1 which
    | true => simpa [which] using empty
  next needed => simp [needed]

theorem isName_of_nonBlank? {s t : String} (given : nonBlank? s = some t) : IsName t := by
  obtain ⟨rfl, some⟩ := nonBlank?_eq_some_iff.1 given
  exact ⟨trim_trim s, some⟩

theorem isName_of_requiredName {s t : String} (given : requiredName s = .ok t) : IsName t := by
  unfold requiredName at given
  split at given
  next name there =>
    rw [← Except.ok.inj given]
    exact isName_of_nonBlank? there
  next => cases given

/-- Checks one after the other pass exactly if each does. -/
theorem then_eq_ok_iff {x y : Except Invalid Unit} :
    (do x; y) = .ok () ↔ x = .ok () ∧ y = .ok () := by
  cases x with
  | error e => exact iff_of_false nofun (fun both => nomatch both.1)
  | ok _ => exact (and_iff_right rfl).symm

end Checks

end Discount

open Discount

/-- What can happen to a voucher. -/
inductive VoucherEvent where
  /-- An update is asked for, which may be refused. -/
  | update (u : VoucherUpdate)
  | changeScope (op : ScopeOp) (l : CatalogueLists)
  /-- The count of its uses becomes another one. -/
  | use (used : UInt32)

namespace Voucher

/-- The voucher after an event; an update leaves it as it does, refused or not. -/
def happen (v : Voucher) : VoucherEvent → Voucher
  | .update u => (applyUpdate u).left v
  | .changeScope op l => (v.changeScope op l).1
  | .use used => { v with used }

theorem happen_update (v : Voucher) (u : VoucherUpdate) :
    v.happen (.update u) =
      match v.update u with
      | .ok w => w
      | .error _ => v := by
  rw [happen, InPlace.left, applyUpdate_apply]
  cases v.update u <;> rfl

/-- The voucher after a sequence of events. -/
def after (v : Voucher) (events : List VoucherEvent) : Voucher := events.foldl happen v

/-- What is true of a voucher whatever is in scope. -/
structure Sound (v : Voucher) : Prop where
  value : InRange v.valueType v.value
  window : InOrder v.startDate v.endDate
  minAmount : ∀ a ∈ v.minAmount, 0 ≤ a.number
  code : VoucherCode.parse v.code.text = .ok v.code
  name : ∀ s ∈ v.name, IsName s
  countries_increasing : v.countries.Pairwise (· < ·)
  countries_letters : ∀ c ∈ v.countries, c.length = 2 ∧ c.toList.all Char.isUpper = true

/-- Something of the kind that the type needs is in scope. -/
def Scoped (v : Voucher) : Prop := ∀ kind ∈ v.type.neededKind?, ∃ x, x ∈ v.scope.get kind

variable {v w : Voucher} {u : VoucherUpdate}

theorem check_eq_ok_iff :
    v.check = .ok () ↔ InRange v.valueType v.value ∧ InOrder v.startDate v.endDate ∧
      (∀ a ∈ v.minAmount, 0 ≤ a.number) ∧ v.Scoped := by
  simp only [check, then_eq_ok_iff, checkValue_eq_ok_iff, checkWindow_eq_ok_iff,
    checkMinimum_eq_ok_iff, checkScope_eq_ok_iff, Scoped]

/-- What an update sets is spelled as it is to be kept. -/
theorem Sound.patched (sound : v.Sound) (done : v.patched u = .ok w) :
    w.code.Canonical ∧ (∀ s ∈ w.name, IsName s) ∧ w.countries.Pairwise (· < ·) ∧
      ∀ c ∈ w.countries, c.length = 2 ∧ c.toList.all Char.isUpper = true := by
  obtain ⟨code, chosen, done⟩ := bind_eq_ok done
  obtain ⟨countries, listed, done⟩ := bind_eq_ok done
  cases done
  have codes : countries.Pairwise (· < ·) ∧
      ∀ c ∈ countries, c.length = 2 ∧ c.toList.all Char.isUpper = true := by
    unfold VoucherUpdate.countriesOr at listed
    split at listed
    next =>
      rw [← Except.ok.inj listed]
      exact ⟨sound.countries_increasing, sound.countries_letters⟩
    next => exact countryCodes_ok listed
  refine ⟨VoucherCode.canonical_of_codeOr sound.code chosen, ?_, codes⟩
  dsimp only
  split
  next => exact sound.name
  next text _ => exact fun s => isName_of_nonBlank?

theorem Sound.update (sound : v.Sound) (done : v.update u = .ok w) : w.Sound := by
  obtain ⟨next, patched, checked⟩ := bind_eq_ok done
  obtain ⟨_, passes, same⟩ := bind_eq_ok checked
  cases same
  obtain ⟨code, name, increasing, letters⟩ := sound.patched patched
  obtain ⟨value, window, minAmount, -⟩ := check_eq_ok_iff.1 passes
  exact ⟨value, window, minAmount, code, name, increasing, letters⟩

theorem scoped_of_update (done : v.update u = .ok w) : w.Scoped := by
  obtain ⟨-, -, -, passes⟩ := update_ok done
  exact (check_eq_ok_iff.1 passes).2.2.2

theorem type_of_update (done : v.update u = .ok w) : w.type = u.type.getD v.type := by
  obtain ⟨next, patched, checked⟩ := bind_eq_ok done
  obtain ⟨_, -, same⟩ := bind_eq_ok checked
  cases same
  obtain ⟨code, -, patched⟩ := bind_eq_ok patched
  obtain ⟨countries, -, patched⟩ := bind_eq_ok patched
  cases patched
  rfl

theorem Sound.happen (sound : v.Sound) (event : VoucherEvent) : (v.happen event).Sound := by
  cases event with
  | update u =>
    rw [happen_update]
    split
    next w done => exact sound.update done
    next => exact sound
  -- Scope and uses are not among the fields that the rules are about.
  | changeScope op l => exact { sound with }
  | use used => exact { sound with }

theorem Sound.after (sound : v.Sound) (events : List VoucherEvent) : (v.after events).Sound := by
  induction events generalizing v with
  | nil => exact sound
  | cons event events ih => exact ih (sound.happen event)

/-- What is in scope stays there through all that happens but a removal. -/
theorem Scoped.happen (inScope : v.Scoped) (event : VoucherEvent) :
    (v.happen event).Scoped ∨ ∃ l kind, event = .changeScope .remove l ∧
      v.type.neededKind? = some kind ∧ ∀ x, x ∉ (v.happen event).scope.get kind := by
  cases event with
  | update u =>
    refine .inl ?_
    rw [happen_update]
    split
    next w done => exact scoped_of_update done
    next => exact inScope
  | use used => exact .inl inScope
  | changeScope op l =>
    cases op with
    | add =>
      refine .inl fun kind needed => ?_
      obtain ⟨x, there⟩ := inScope kind needed
      have stays : ScopeOp.add.Leaves (x ∈ v.scope.get kind) (x ∈ l.get kind) := .inl there
      exact ⟨x, CatalogueScope.mem_apply.2 stays⟩
    | remove =>
      by_cases left : (v.happen (.changeScope .remove l)).Scoped
      · exact .inl left
      · simp only [Scoped, not_forall, not_exists] at left
        obtain ⟨kind, needed, emptied⟩ := left
        exact .inr ⟨l, kind, rfl, needed, emptied⟩

/-- While nothing of the needed kind is in scope, no update that leaves the type alone passes. -/
theorem update_of_not_scoped (broken : ¬v.Scoped) (kept : u.type.getD v.type = v.type) :
    ∃ e, v.update u = .error e := by
  cases done : v.update u with
  | error e => exact ⟨e, rfl⟩
  | ok w =>
    have inScope := scoped_of_update done
    obtain ⟨-, -, scope, -⟩ := update_ok done
    rw [Scoped, type_of_update done, kept, scope] at inScope
    exact (broken inScope).elim

end Voucher

/-- What is accepted as a new voucher is sound, and has in scope what its type needs. -/
theorem VoucherInput.validate_sound {i : VoucherInput} {today : Date} {codeLength : Nat}
    {picks : VoucherCode.Picks} {n : NewVoucher}
    (accepted : i.validate today codeLength picks = .ok n) (id : VoucherId) :
    (n.withId id).Sound ∧ (n.withId id).Scoped := by
  obtain ⟨value, window, minAmount, inScope⟩ :=
    Voucher.check_eq_ok_iff.1 (i.validate_check accepted id)
  obtain ⟨code, chosen, accepted⟩ := bind_eq_ok accepted
  obtain ⟨_, -, accepted⟩ := bind_eq_ok accepted
  obtain ⟨_, -, accepted⟩ := bind_eq_ok accepted
  obtain ⟨_, -, accepted⟩ := bind_eq_ok accepted
  obtain ⟨countries, listed, accepted⟩ := bind_eq_ok accepted
  obtain ⟨_, -, accepted⟩ := bind_eq_ok accepted
  cases accepted
  have name : ∀ s ∈ i.name.bind nonBlank?, IsName s := by
    intro s there
    obtain ⟨text, -, given⟩ := Option.bind_eq_some_iff.1 there
    exact isName_of_nonBlank? given
  obtain ⟨increasing, letters⟩ := countryCodes_ok listed
  exact ⟨⟨value, window, minAmount, VoucherCode.canonical_of_codeFor chosen, name, increasing,
    letters⟩, inScope⟩

/-- What can happen to a sale. -/
inductive SaleEvent where
  /-- An update is asked for, which may be refused. -/
  | update (u : SaleUpdate)
  | changeScope (op : ScopeOp) (l : CatalogueLists)

namespace Sale

/-- The sale after an event; an update leaves it as it does, refused or not. -/
def happen (s : Sale) : SaleEvent → Sale
  | .update u => (applyUpdate u).left s
  | .changeScope op l => (s.changeScope op l).1

theorem happen_update (s : Sale) (u : SaleUpdate) :
    s.happen (.update u) =
      match s.update u with
      | .ok t => t
      | .error _ => s := by
  rw [happen, InPlace.left, applyUpdate_apply]
  cases s.update u <;> rfl

/-- The sale after a sequence of events. -/
def after (s : Sale) (events : List SaleEvent) : Sale := events.foldl happen s

/-- What is true of a sale. -/
structure Sound (s : Sale) : Prop where
  value : InRange s.valueType s.value
  window : InOrder s.startDate s.endDate
  name : IsName s.name

variable {s t : Sale}

theorem check_eq_ok_iff :
    s.check = .ok () ↔ InRange s.valueType s.value ∧ InOrder s.startDate s.endDate := by
  simp only [check, then_eq_ok_iff, checkValue_eq_ok_iff, checkWindow_eq_ok_iff]

theorem Sound.update (sound : s.Sound) {u : SaleUpdate} (done : s.update u = .ok t) :
    t.Sound := by
  obtain ⟨next, patched, checked⟩ := bind_eq_ok done
  obtain ⟨_, passes, same⟩ := bind_eq_ok checked
  cases same
  obtain ⟨value, window⟩ := check_eq_ok_iff.1 passes
  obtain ⟨name, given, patched⟩ := bind_eq_ok patched
  cases patched
  refine ⟨value, window, ?_⟩
  change IsName name
  unfold SaleUpdate.nameOr at given
  split at given
  next =>
    rw [← Except.ok.inj given]
    exact sound.name
  next => exact isName_of_requiredName given

theorem Sound.happen (sound : s.Sound) (event : SaleEvent) : (s.happen event).Sound := by
  cases event with
  | update u =>
    rw [happen_update]
    split
    next t done => exact sound.update done
    next => exact sound
  | changeScope op l => exact { sound with }

theorem Sound.after (sound : s.Sound) (events : List SaleEvent) : (s.after events).Sound := by
  induction events generalizing s with
  | nil => exact sound
  | cons event events ih => exact ih (sound.happen event)

end Sale

theorem SaleInput.validate_sound {i : SaleInput} {today : Date} {n : NewSale}
    (accepted : i.validate today = .ok n) (id : SaleId) : (n.withId id).Sound := by
  obtain ⟨value, window⟩ := Sale.check_eq_ok_iff.1 (i.validate_check accepted id)
  obtain ⟨name, given, accepted⟩ := bind_eq_ok accepted
  obtain ⟨_, -, accepted⟩ := bind_eq_ok accepted
  obtain ⟨_, -, accepted⟩ := bind_eq_ok accepted
  cases accepted
  exact ⟨value, window, isName_of_requiredName given⟩

namespace Discount

/-- **Discounts stay valid for life.** From creation on, and whatever happens to it, an accepted
voucher has a value in range, a last day not before the first, a minimum that is not negative, a
code that is read off its own text, no name or a trimmed one, and countries in order, each two
upper-case letters. Something of the kind that its type needs is in scope after creation and after
each update that passes; a refused update changes nothing. It stays in scope through all that
happens but a removal that empties the kind, and while it is missing no update passes that leaves
the type alone. A sale is likewise valid for life. -/
theorem accepted_valid_for_life :
    (∀ (i : VoucherInput) today codeLength picks n, i.validate today codeLength picks = .ok n →
      ∀ id events, let v := (n.withId id).after events
        v.Sound ∧
        (n.withId id).Scoped ∧
        (∀ u w, v.update u = .ok w → v.happen (.update u) = w ∧ w.Scoped) ∧
        (∀ u e, v.update u = .error e → v.happen (.update u) = v) ∧
        (v.Scoped → ∀ l, (v.happen (.changeScope .add l)).Scoped) ∧
        (v.Scoped → ∀ event, ¬(v.happen event).Scoped →
          ∃ l kind, event = .changeScope .remove l ∧ v.type.neededKind? = some kind ∧
            ∀ x, x ∉ (v.happen event).scope.get kind) ∧
        (¬v.Scoped → ∀ u, u.type.getD v.type = v.type → ∃ e, v.update u = .error e)) ∧
    ∀ (i : SaleInput) today n, i.validate today = .ok n →
      ∀ id events, let s := (n.withId id).after events
        s.Sound ∧ ∀ u e, s.update u = .error e → s.happen (.update u) = s := by
  constructor
  · intro i today codeLength picks n accepted id events v
    obtain ⟨sound, inScope⟩ := i.validate_sound accepted id
    refine ⟨sound.after events, inScope, ?_, ?_, ?_, ?_, ?_⟩
    · intro u w done
      refine ⟨?_, Voucher.scoped_of_update done⟩
      rw [Voucher.happen_update, done]
    · intro u e refused
      rw [Voucher.happen_update, refused]
    · intro before l
      rcases before.happen (.changeScope .add l) with kept | ⟨_, _, removal, -⟩
      · exact kept
      · cases removal
    · intro before event broken
      exact (before.happen event).resolve_left broken
    · intro broken u kept
      exact Voucher.update_of_not_scoped broken kept
  · intro i today n accepted id events s
    refine ⟨(i.validate_sound accepted id).after events, ?_⟩
    intro u e refused
    rw [Sale.happen_update, refused]

/-- A percentage on two products, which is changed, loses both and cannot be changed until it is of
another type; and a sale. -/
theorem accepted_valid_for_life_of_one :
    let today : Date := { year := 2026, month := 2, day := 1 }
    let picks : VoucherCode.Picks := fun i => ⟨i % 32, Nat.mod_lt _ (by decide)⟩
    let i : VoucherInput := {
      type := .product, name := some " Spring ", valueType := .percentage,
      value := { magnitude := 100 }, countries := ["no", " DE", "NO "],
      catalogues := ⟨[⟨3⟩, ⟨1⟩, ⟨3⟩], [], []⟩ }
    let n : NewVoucher := {
      type := .product, name := some "Spring", code := ⟨"ABC"⟩, usageLimit := none,
      startDate := today, endDate := none, valueType := .percentage,
      value := { magnitude := 100 }, minAmount := none, countries := ["DE", "NO"],
      scope := ⟨[⟨1⟩, ⟨3⟩], [], []⟩ }
    let events : List VoucherEvent := [.update { code := some " new_code " }, .use 3,
      .changeScope .remove ⟨[⟨3⟩, ⟨1⟩], [], []⟩, .update { value := some { magnitude := 5 } },
      .update { type := some .shipping, endDate := .set today }]
    let sale : SaleInput := { name := " Summer " }
    let summer : NewSale :=
      { name := "Summer", valueType := .fixed, value := .zero, startDate := today, endDate := none }
    i.validate today 3 picks = .ok n ∧ ((n.withId ⟨1⟩).after events).Sound ∧
      ((n.withId ⟨1⟩).after events).type = .shipping ∧
      ((n.withId ⟨1⟩).after (events.take 3)).scope = .empty ∧
      (∃ e, ((n.withId ⟨1⟩).after (events.take 3)).update {} = .error e) ∧
      sale.validate today = .ok summer ∧
      ((summer.withId ⟨1⟩).after [.update { name := some " " }]).Sound := by
  intro today picks i n events sale summer
  obtain ⟨vouchers, sales⟩ := accepted_valid_for_life
  have accepted : i.validate today 3 picks = .ok n := by decide +kernel
  have offered : sale.validate today = .ok summer := by decide +kernel
  have emptied : ((n.withId ⟨1⟩).after (events.take 3)).scope = .empty := by decide +kernel
  have broken : ¬((n.withId ⟨1⟩).after (events.take 3)).Scoped := by
    intro inScope
    have type : ((n.withId ⟨1⟩).after (events.take 3)).type = .product := by decide +kernel
    obtain ⟨x, there⟩ := inScope .product (by rw [type]; rfl)
    rw [emptied] at there
    exact CatalogueScope.mem_empty there
  obtain ⟨sound, -⟩ := vouchers i today 3 picks n accepted ⟨1⟩ events
  obtain ⟨-, -, -, -, -, -, refused⟩ := vouchers i today 3 picks n accepted ⟨1⟩ (events.take 3)
  obtain ⟨soundSale, -⟩ := sales sale today summer offered ⟨1⟩ [.update { name := some " " }]
  exact ⟨accepted, sound, by decide +kernel, emptied, refused broken {} rfl, offered, soundSale⟩

end Discount

end BackOffice
