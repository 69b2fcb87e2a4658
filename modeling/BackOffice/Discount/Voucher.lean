import BackOffice.Discount.Code
import BackOffice.Discount.Patch
import BackOffice.InPlace

/-!
# Vouchers

A voucher is a discount that a customer redeems with a code. `VoucherInput.validate` turns what
staff ask for into a voucher that can be stored; `Voucher.applyUpdate` changes some of its fields
and holds the result as a whole to the same rules.
-/

namespace BackOffice

open BackOffice.Text Discount

/-- A voucher. -/
structure Voucher where
  id : VoucherId
  type : VoucherType
  name : Option String
  code : VoucherCode
  /-- How often it can be redeemed; without a limit, always. -/
  usageLimit : Option UInt32
  used : UInt32
  startDate : Date
  endDate : Option Date
  valueType : ValueType
  value : Decimal
  /-- The least amount of an order for which it can be redeemed. -/
  minAmount : Option Decimal
  /-- The countries where it is valid; if none is listed, everywhere. -/
  countries : List String
  scope : CatalogueScope
deriving DecidableEq

/-- What staff ask for when they create a voucher. -/
structure VoucherInput where
  type : VoucherType := .value
  /-- A label; a blank one is none. -/
  name : Option String := none
  /-- The code; without one, or with a blank one, the voucher gets a random code. -/
  code : Option String := none
  usageLimit : Option UInt32 := none
  /-- The first day; without one, the day of creation. -/
  startDate : Option Date := none
  endDate : Option Date := none
  valueType : ValueType := .fixed
  value : Decimal := .zero
  minAmount : Option Decimal := none
  /-- Country codes in any case and order. -/
  countries : List String := []
  catalogues : CatalogueLists := .empty
deriving DecidableEq

/-- A voucher that satisfies the rules and has no key yet. -/
structure NewVoucher where
  type : VoucherType
  name : Option String
  /-- The code, given or random. -/
  code : VoucherCode
  usageLimit : Option UInt32
  startDate : Date
  endDate : Option Date
  valueType : ValueType
  value : Decimal
  minAmount : Option Decimal
  /-- Country codes in order. -/
  countries : List String
  /-- What it applies to, as the delta from an empty scope. -/
  scope : CatalogueLists
deriving DecidableEq

namespace VoucherInput

/-- The code that is asked for, or a random one if none is. -/
def codeFor (i : VoucherInput) (codeLength : Nat) (picks : VoucherCode.Picks) :
    Except Invalid VoucherCode :=
  match i.code.bind nonBlank? with
  | none => .ok (.generate codeLength picks)
  | some code => VoucherCode.parse code

/-- Holds the input to the rules. The code is looked at first, the scope last. -/
def validate (i : VoucherInput) (today : Date) (codeLength : Nat) (picks : VoucherCode.Picks) :
    Except Invalid NewVoucher := do
  let code ← i.codeFor codeLength picks
  let startDate := i.startDate.getD today
  checkValue "discount_value" i.valueType i.value
  checkWindow startDate i.endDate
  checkMinimum i.minAmount
  let countries ← countryCodes i.countries
  let (scope, delta) := CatalogueScope.empty.add i.catalogues
  checkScope i.type scope
  return {
    type := i.type
    name := i.name.bind nonBlank?
    code := code
    usageLimit := i.usageLimit
    startDate := startDate
    endDate := i.endDate
    valueType := i.valueType
    value := i.value
    minAmount := i.minAmount
    countries := countries
    scope := delta }

end VoucherInput

/-- The voucher with its key, not redeemed yet. -/
def NewVoucher.withId (n : NewVoucher) (id : VoucherId) : Voucher where
  id := id
  type := n.type
  name := n.name
  code := n.code
  usageLimit := n.usageLimit
  used := 0
  startDate := n.startDate
  endDate := n.endDate
  valueType := n.valueType
  value := n.value
  minAmount := n.minAmount
  countries := n.countries
  scope := .ofLists n.scope

/-- A partial update of a voucher. -/
structure VoucherUpdate where
  /-- The type, which must fit the voucher's scope. -/
  type : Option VoucherType := none
  /-- The label; a blank one empties the field. -/
  name : Option String := none
  /-- The code, which cannot be blank. -/
  code : Option String := none
  usageLimit : Patch UInt32 := .keep
  startDate : Option Date := none
  endDate : Patch Date := .keep
  valueType : Option ValueType := none
  value : Option Decimal := none
  minAmount : Patch Decimal := .keep
  countries : Option (List String) := none
deriving DecidableEq

namespace VoucherUpdate

/-- The code that the update sets, or else the code so far. -/
def codeOr (u : VoucherUpdate) (code : VoucherCode) : Except Invalid VoucherCode :=
  match u.code with
  | none => .ok code
  | some text => VoucherCode.parse text

/-- The countries that the update sets, or else the countries so far. -/
def countriesOr (u : VoucherUpdate) (countries : List String) : Except Invalid (List String) :=
  match u.countries with
  | none => .ok countries
  | some texts => countryCodes texts

end VoucherUpdate

namespace Voucher

/-- Whether the voucher can be redeemed on a day. -/
def isActive (v : Voucher) (day : Date) : Bool :=
  Within v.startDate v.endDate day && v.usageLimit.all (v.used < ·)

/-- The voucher with the fields set that the update sets. Only code and countries are looked at. -/
def patched (v : Voucher) (u : VoucherUpdate) : Except Invalid Voucher := do
  let code ← u.codeOr v.code
  let countries ← u.countriesOr v.countries
  return { v with
    type := u.type.getD v.type
    name := match u.name with
      | none => v.name
      | some text => nonBlank? text
    code := code
    usageLimit := u.usageLimit.apply v.usageLimit
    startDate := u.startDate.getD v.startDate
    endDate := u.endDate.apply v.endDate
    valueType := u.valueType.getD v.valueType
    value := u.value.getD v.value
    minAmount := u.minAmount.apply v.minAmount
    countries := countries }

/-- Holds a voucher to the rules that can be read off its fields. -/
def check (v : Voucher) : Except Invalid Unit := do
  checkValue "discount_value" v.valueType v.value
  checkWindow v.startDate v.endDate
  checkMinimum v.minAmount
  checkScope v.type v.scope

/-- A copy of the voucher that is updated, if it satisfies the rules. -/
def update (v : Voucher) (u : VoucherUpdate) : Except Invalid Voucher := do
  let next ← v.patched u
  next.check
  return next

/-- Updates the voucher in place: the copy takes its place once it has satisfied the rules. -/
def applyUpdate (u : VoucherUpdate) : InPlace Voucher Invalid Unit := do
  let next ← InPlace.settle ((← get).update u)
  set next

/-- An update that is refused has not touched the voucher. -/
theorem applyUpdate_apply (u : VoucherUpdate) (v : Voucher) :
    applyUpdate u v =
      match v.update u with
      | .ok w => (.ok (), w)
      | .error e => (.error e, v) := by
  change (do set (← InPlace.settle (v.update u)) : InPlace Voucher Invalid Unit) v = _
  rw [InPlace.settle_set_apply]
  cases v.update u <;> rfl

/-- Changes the scope; the delta lists the keys that came or went. -/
def changeScope (v : Voucher) (op : ScopeOp) (l : CatalogueLists) : Voucher × CatalogueLists :=
  let (scope, delta) := v.scope.apply op l
  ({ v with scope }, delta)

end Voucher

end BackOffice
