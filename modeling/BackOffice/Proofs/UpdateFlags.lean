import BackOffice.Command.Basic
import BackOffice.Proofs.DiscountUpdates

/-!
# What the flags of the update commands can say

Flags that do not contradict each other say of each field of an update whether it is set, and to
what, whether it is emptied, or whether it is left alone (`VoucherFlags.Asks`, `SaleFlags.Asks`).
Every update is asked for by exactly one such choice of flags, which can be read off it
(`VoucherFlags.ofUpdate`, `SaleFlags.ofUpdate`). The flags of a command line do not contradict each
other, since the forms of the update commands refuse those that do.
-/

namespace BackOffice

/-- Whether the update empties the field. -/
def Patch.empties {α : Type} : Patch α → Bool
  | .clear => true
  | .keep | .set _ => false

namespace Flags

section Meaning

variable {α : Type}

/-- One flag sets a field to its value, another empties it, and without either it is left alone. -/
structure Patches (value : Option α) (clear : Bool) (p : Patch α) : Prop where
  set : ∀ a, p = .set a ↔ value = some a
  empty : p = .clear ↔ clear = true
  keep : p = .keep ↔ value = none ∧ clear = false

/-- Each of two switches chooses how the value is read, and without either that is left alone. -/
structure Chooses (percentage fixed : Bool) (choice : Option ValueType) : Prop where
  toPercentage : choice = some .percentage ↔ percentage = true
  toFixed : choice = some .fixed ↔ fixed = true
  keep : choice = none ↔ percentage = false ∧ fixed = false

/-- Texts that are given become the list, a switch empties it, and without either it is left alone.
-/
structure Lists (texts : List String) (clear : Bool) (list : Option (List String)) : Prop where
  set : ∀ l, l ≠ [] → (list = some l ↔ texts = l)
  empty : list = some [] ↔ clear = true
  keep : list = none ↔ texts = [] ∧ clear = false

end Meaning

section Patch

variable {α : Type} {value : Option α} {clear : Bool}

theorem patches_patch (apart : ¬(clear = true ∧ value.isSome = true)) :
    Patches value clear (patch value clear) := by
  cases clear with
  | false => cases value <;> constructor <;> simp [patch, Patch.ofOption]
  | true =>
    cases value with
    | none => constructor <;> simp [patch]
    | some a => exact absurd ⟨rfl, rfl⟩ apart

theorem patch_value? (p : Patch α) : patch p.value? p.empties = p := by
  cases p <;> rfl

theorem apart_of_patch (p : Patch α) : ¬(p.empties = true ∧ p.value?.isSome = true) := by
  cases p <;> simp [Patch.empties, Patch.value?]

theorem value?_patch (apart : ¬(clear = true ∧ value.isSome = true)) :
    (patch value clear).value? = value := by
  cases clear with
  | false => cases value <;> rfl
  | true =>
    cases value with
    | none => rfl
    | some a => exact absurd ⟨rfl, rfl⟩ apart

theorem empties_patch (value : Option α) (clear : Bool) : (patch value clear).empties = clear := by
  cases clear with
  | false => cases value <;> rfl
  | true => rfl

end Patch

section Choice

variable {percentage fixed : Bool}

theorem chooses_valueType (apart : ¬(fixed = true ∧ percentage = true)) :
    Chooses percentage fixed (valueType percentage fixed) := by
  cases percentage with
  | false => cases fixed <;> constructor <;> simp [valueType]
  | true =>
    cases fixed with
    | false => constructor <;> simp [valueType]
    | true => exact absurd ⟨rfl, rfl⟩ apart

theorem valueType_switches (choice : Option ValueType) :
    valueType (choice == some .percentage) (choice == some .fixed) = choice := by
  rcases choice with _ | _ | _ <;> rfl

theorem apart_of_choice (choice : Option ValueType) :
    ¬((choice == some .fixed) = true ∧ (choice == some .percentage) = true) := by
  rcases choice with _ | _ | _ <;> decide

theorem percentage_valueType (percentage fixed : Bool) :
    (valueType percentage fixed == some .percentage) = percentage := by
  cases percentage <;> cases fixed <;> rfl

theorem fixed_valueType (apart : ¬(fixed = true ∧ percentage = true)) :
    (valueType percentage fixed == some .fixed) = fixed := by
  cases percentage with
  | false => cases fixed <;> rfl
  | true =>
    cases fixed with
    | false => rfl
    | true => exact absurd ⟨rfl, rfl⟩ apart

end Choice

section List

variable {texts : List String} {clear : Bool}

/-- The list that texts and a switch ask for. -/
def listing (texts : List String) (clear : Bool) : Option (List String) :=
  if clear || !texts.isEmpty then some texts else none

theorem lists_listing (apart : ¬(clear = true ∧ texts ≠ [])) :
    Lists texts clear (listing texts clear) := by
  cases clear with
  | false => cases texts <;> constructor <;> simp [listing, eq_comm]
  | true =>
    obtain rfl : texts = [] := by simpa using apart
    constructor <;> simp [listing, eq_comm]

theorem listing_getD (list : Option (List String)) :
    listing (list.getD []) (list == some []) = list := by
  rcases list with _ | _ | _ <;> rfl

theorem apart_of_listing (list : Option (List String)) :
    ¬((list == some []) = true ∧ list.getD [] ≠ []) := by
  rcases list with _ | _ | _ <;> simp

theorem getD_listing (texts : List String) (clear : Bool) :
    (listing texts clear).getD [] = texts := by
  cases clear <;> cases texts <;> rfl

theorem empty_listing (apart : ¬(clear = true ∧ texts ≠ [])) :
    (listing texts clear == some []) = clear := by
  cases clear with
  | false => cases texts <;> rfl
  | true =>
    obtain rfl : texts = [] := by simpa using apart
    rfl

end List

end Flags

namespace VoucherFlags

/-- The flags ask for the update: it sets exactly the fields with a flag, each to what its flag
says. -/
structure Asks (f : VoucherFlags) (u : VoucherUpdate) : Prop where
  type : u.type = f.type
  name : u.name = f.name
  code : u.code = f.code
  usageLimit : Flags.Patches f.usageLimit f.unlimited u.usageLimit
  startDate : u.startDate = f.startDate
  endDate : Flags.Patches f.endDate f.noEndDate u.endDate
  valueType : Flags.Chooses f.percentage f.fixed u.valueType
  value : u.value = f.value
  minAmount : Flags.Patches f.minAmount f.noMinAmount u.minAmount
  countries : Flags.Lists f.countries f.allCountries u.countries

/-- The flags for an update. -/
def ofUpdate (u : VoucherUpdate) : VoucherFlags where
  code := u.code
  name := u.name
  type := u.type
  value := u.value
  percentage := u.valueType == some .percentage
  fixed := u.valueType == some .fixed
  usageLimit := u.usageLimit.value?
  unlimited := u.usageLimit.empties
  startDate := u.startDate
  endDate := u.endDate.value?
  noEndDate := u.endDate.empties
  minAmount := u.minAmount.value?
  noMinAmount := u.minAmount.empties
  countries := u.countries.getD []
  allCountries := u.countries == some []

variable {f : VoucherFlags}

theorem Allowed.asks (allowed : f.Allowed) : f.Asks f.toUpdate where
  type := rfl
  name := rfl
  code := rfl
  usageLimit := Flags.patches_patch allowed.2.1
  startDate := rfl
  endDate := Flags.patches_patch allowed.2.2.1
  valueType := Flags.chooses_valueType allowed.1
  value := rfl
  minAmount := Flags.patches_patch allowed.2.2.2.1
  countries := Flags.lists_listing allowed.2.2.2.2

theorem allowed_ofUpdate (u : VoucherUpdate) : (ofUpdate u).Allowed :=
  ⟨Flags.apart_of_choice u.valueType, Flags.apart_of_patch u.usageLimit,
    Flags.apart_of_patch u.endDate, Flags.apart_of_patch u.minAmount,
    Flags.apart_of_listing u.countries⟩

theorem toUpdate_ofUpdate (u : VoucherUpdate) : (ofUpdate u).toUpdate = u := by
  obtain ⟨⟩ := u
  simp only [toUpdate, ofUpdate, VoucherUpdate.mk.injEq, true_and]
  exact ⟨Flags.patch_value? _, Flags.patch_value? _, Flags.valueType_switches _,
    Flags.patch_value? _, Flags.listing_getD _⟩

theorem Allowed.ofUpdate_toUpdate (allowed : f.Allowed) : ofUpdate f.toUpdate = f := by
  obtain ⟨switches, limit, lastDay, minimum, countries⟩ := allowed
  have listed : (f.toUpdate.countries) = Flags.listing f.countries f.allCountries := rfl
  rw [ofUpdate, listed, Flags.getD_listing, Flags.empty_listing countries]
  simp only [toUpdate, Flags.value?_patch limit, Flags.value?_patch lastDay,
    Flags.value?_patch minimum, Flags.empties_patch, Flags.percentage_valueType,
    Flags.fixed_valueType switches]

/-- Every update is asked for by exactly one choice of flags that is allowed. -/
theorem existsUnique_toUpdate (u : VoucherUpdate) :
    ∃! f : VoucherFlags, f.Allowed ∧ f.toUpdate = u := by
  refine ⟨ofUpdate u, ⟨allowed_ofUpdate u, toUpdate_ofUpdate u⟩, ?_⟩
  rintro f ⟨allowed, rfl⟩
  exact allowed.ofUpdate_toUpdate.symm

end VoucherFlags

namespace SaleFlags

/-- The flags ask for the update: it sets exactly the fields with a flag, each to what its flag
says. -/
structure Asks (f : SaleFlags) (u : SaleUpdate) : Prop where
  name : u.name = f.name
  valueType : Flags.Chooses f.percentage f.fixed u.valueType
  value : u.value = f.value
  startDate : u.startDate = f.startDate
  endDate : Flags.Patches f.endDate f.noEndDate u.endDate

/-- The flags for an update. -/
def ofUpdate (u : SaleUpdate) : SaleFlags where
  name := u.name
  value := u.value
  percentage := u.valueType == some .percentage
  fixed := u.valueType == some .fixed
  startDate := u.startDate
  endDate := u.endDate.value?
  noEndDate := u.endDate.empties

variable {f : SaleFlags}

theorem Allowed.asks (allowed : f.Allowed) : f.Asks f.toUpdate where
  name := rfl
  valueType := Flags.chooses_valueType allowed.1
  value := rfl
  startDate := rfl
  endDate := Flags.patches_patch allowed.2

theorem allowed_ofUpdate (u : SaleUpdate) : (ofUpdate u).Allowed :=
  ⟨Flags.apart_of_choice u.valueType, Flags.apart_of_patch u.endDate⟩

theorem toUpdate_ofUpdate (u : SaleUpdate) : (ofUpdate u).toUpdate = u := by
  obtain ⟨⟩ := u
  simp only [toUpdate, ofUpdate, SaleUpdate.mk.injEq, true_and]
  exact ⟨Flags.valueType_switches _, Flags.patch_value? _⟩

theorem Allowed.ofUpdate_toUpdate (allowed : f.Allowed) : ofUpdate f.toUpdate = f := by
  obtain ⟨switches, lastDay⟩ := allowed
  simp only [ofUpdate, toUpdate, Flags.value?_patch lastDay, Flags.empties_patch,
    Flags.percentage_valueType, Flags.fixed_valueType switches]

/-- Every update is asked for by exactly one choice of flags that is allowed. -/
theorem existsUnique_toUpdate (u : SaleUpdate) :
    ∃! f : SaleFlags, f.Allowed ∧ f.toUpdate = u := by
  refine ⟨ofUpdate u, ⟨allowed_ofUpdate u, toUpdate_ofUpdate u⟩, ?_⟩
  rintro f ⟨allowed, rfl⟩
  exact allowed.ofUpdate_toUpdate.symm

end SaleFlags

section Forms

namespace Filled

variable {α : Type} {filled : Filled} {name : String}

/-- An option with a value has been given. -/
theorem has_of_values (some : filled.values name ≠ []) : filled.has name = true := by
  obtain ⟨s, there⟩ := List.exists_mem_of_ne_nil _ some
  obtain ⟨e, entry, -⟩ := List.mem_flatMap.1 there
  obtain ⟨entry, named⟩ := List.mem_filter.1 entry
  exact List.any_eq_true.2 ⟨e, entry, named⟩

theorem has_of_optional {read : String → Option α} {x : Option α}
    (found : filled.optional name read = some x) (given : x.isSome = true) :
    filled.has name = true := by
  refine has_of_values fun none => ?_
  simp only [optional, none, Option.some.injEq] at found
  rw [← found] at given
  cases given

end Filled

namespace Form

variable {α : Type} {form : Form α} {filled : Filled} {words : List String} {a : α}

/-- What the words fill in, before it is looked at as a whole. -/
def fill (form : Form α) (words : List String) : Except UsageError Filled := do
  let r ← words.foldlM form.readWord { places := form.places }
  return (← r.settle).filled

/-- What is made of a form was filled in without a conflict. -/
theorem exists_of_read (read : form.read words = .ok a) :
    ∃ filled, form.fill words = .ok filled ∧ form.hasConflict filled = false ∧
      form.build filled = some a := by
  obtain ⟨r, unsettled, read⟩ := bind_eq_ok read
  obtain ⟨r', settled, read⟩ := bind_eq_ok read
  have filled : form.fill words = .ok r'.filled := by
    rw [fill, unsettled]
    change (do return (← r.settle).filled) = _
    rw [settled]
    rfl
  refine ⟨r'.filled, filled, ?_⟩
  cases conflict : form.hasConflict r'.filled with
  | true =>
    rw [conflict] at read
    cases read
  | false =>
    rw [conflict] at read
    cases lacking : form.lacks r'.filled with
    | true =>
      rw [lacking] at read
      cases read
    | false =>
      rw [lacking] at read
      cases built : form.build r'.filled with
      | none =>
        rw [built] at read
        cases read
      | some b =>
        rw [built] at read
        cases read
        exact ⟨rfl, rfl⟩

/-- A switch has not been given together with an option that it excludes. -/
theorem apart_of_switch {name other : String} (none : form.hasConflict filled = false)
    (there : Command.switch name [other] ∈ form.options) :
    ¬(filled.has name = true ∧ filled.has other = true) := by
  rintro ⟨given, too⟩
  refine Bool.false_ne_true (none.symm.trans (List.any_eq_true.2 ⟨_, there, ?_⟩))
  simp only [Command.switch, List.any_cons, given, too, Bool.true_or, Bool.and_self]

theorem apart_of_value {name other : String} (none : form.hasConflict filled = false)
    (there : Command.switch name [other] ∈ form.options) {β : Type} {read : String → Option β}
    {x : Option β} (found : filled.optional other read = some x) :
    ¬(filled.has name = true ∧ x.isSome = true) :=
  fun both => apart_of_switch none there ⟨both.1, Filled.has_of_optional found both.2⟩

end Form

/-- The flags of a form that has been filled in, if all values can be read. -/
def VoucherFlags.ofFilled? (filled : Filled) : Option VoucherFlags := do
  return {
    code := ← filled.optional "code" some
    name := ← filled.optional "name" some
    type := ← filled.optional "type" Command.readVoucherType?
    value := ← filled.optional "value" Decimal.ofText?
    percentage := filled.has "percentage"
    fixed := filled.has "fixed"
    usageLimit := ← filled.optional "usage-limit" ValueForm.readUInt32?
    unlimited := filled.has "unlimited"
    startDate := ← filled.optional "start-date" Date.ofText?
    endDate := ← filled.optional "end-date" Date.ofText?
    noEndDate := filled.has "no-end-date"
    minAmount := ← filled.optional "min-amount-spent" Decimal.ofText?
    noMinAmount := filled.has "no-min-amount"
    countries := filled.values "country"
    allCountries := filled.has "all-countries" }

theorem Command.build_updateVoucherForm (filled : Filled) :
    Command.updateVoucherForm.build filled = do
      let id ← filled.required "id" Command.readId?
      let f ← VoucherFlags.ofFilled? filled
      return .updateVoucher id f.toUpdate := by
  simp only [updateVoucherForm, VoucherFlags.ofFilled?, bind_assoc, pure_bind]

variable {filled : Filled}

/-- Flags that a form lets through do not contradict each other. -/
theorem VoucherFlags.allowed_of_ofFilled? {f : VoucherFlags}
    (none : Command.updateVoucherForm.hasConflict filled = false)
    (read : ofFilled? filled = some f) : f.Allowed := by
  obtain ⟨code, -, read⟩ := Option.bind_eq_some_iff.1 read
  obtain ⟨name, -, read⟩ := Option.bind_eq_some_iff.1 read
  obtain ⟨type, -, read⟩ := Option.bind_eq_some_iff.1 read
  obtain ⟨value, -, read⟩ := Option.bind_eq_some_iff.1 read
  obtain ⟨usageLimit, limit, read⟩ := Option.bind_eq_some_iff.1 read
  obtain ⟨startDate, -, read⟩ := Option.bind_eq_some_iff.1 read
  obtain ⟨endDate, lastDay, read⟩ := Option.bind_eq_some_iff.1 read
  obtain ⟨minAmount, minimum, read⟩ := Option.bind_eq_some_iff.1 read
  cases read
  refine ⟨Form.apart_of_switch none (by decide), Form.apart_of_value none (by decide) limit,
    Form.apart_of_value none (by decide) lastDay, Form.apart_of_value none (by decide) minimum, ?_⟩
  rintro ⟨everywhere, listed⟩
  exact Form.apart_of_switch none (by decide) ⟨everywhere, Filled.has_of_values listed⟩

/-- The flags of a form that has been filled in, if all values can be read. -/
def SaleFlags.ofFilled? (filled : Filled) : Option SaleFlags := do
  return {
    name := ← filled.optional "name" some
    value := ← filled.optional "value" Decimal.ofText?
    percentage := filled.has "percentage"
    fixed := filled.has "fixed"
    startDate := ← filled.optional "start-date" Date.ofText?
    endDate := ← filled.optional "end-date" Date.ofText?
    noEndDate := filled.has "no-end-date" }

theorem Command.build_updateSaleForm (filled : Filled) :
    Command.updateSaleForm.build filled = do
      let id ← filled.required "id" Command.readId?
      let f ← SaleFlags.ofFilled? filled
      return .updateSale id f.toUpdate := by
  simp only [updateSaleForm, SaleFlags.ofFilled?, bind_assoc, pure_bind]

/-- Flags that a form lets through do not contradict each other. -/
theorem SaleFlags.allowed_of_ofFilled? {f : SaleFlags}
    (none : Command.updateSaleForm.hasConflict filled = false)
    (read : ofFilled? filled = some f) : f.Allowed := by
  obtain ⟨name, -, read⟩ := Option.bind_eq_some_iff.1 read
  obtain ⟨value, -, read⟩ := Option.bind_eq_some_iff.1 read
  obtain ⟨startDate, -, read⟩ := Option.bind_eq_some_iff.1 read
  obtain ⟨endDate, lastDay, read⟩ := Option.bind_eq_some_iff.1 read
  cases read
  exact ⟨Form.apart_of_switch none (by decide), Form.apart_of_value none (by decide) lastDay⟩

end Forms

end BackOffice
