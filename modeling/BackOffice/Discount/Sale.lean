import BackOffice.Discount.Patch
import BackOffice.Discount.Rules
import BackOffice.InPlace

/-!
# Sales

A sale is a discount that applies to everyone while it lasts, without a code. `SaleInput.validate`
and `Sale.applyUpdate` hold it to the rules for name, value and days.
-/

namespace BackOffice

open Discount

/-- A sale. -/
structure Sale where
  id : SaleId
  name : String
  valueType : ValueType
  value : Decimal
  startDate : Date
  endDate : Option Date
  scope : CatalogueScope
deriving DecidableEq

/-- What staff ask for when they create a sale. -/
structure SaleInput where
  name : String := ""
  valueType : ValueType := .fixed
  value : Decimal := .zero
  /-- The first day; without one, the day of creation. -/
  startDate : Option Date := none
  endDate : Option Date := none
deriving DecidableEq

/-- A sale that satisfies the rules and has no key yet. -/
structure NewSale where
  /-- The name, trimmed. -/
  name : String
  valueType : ValueType
  value : Decimal
  startDate : Date
  endDate : Option Date
deriving DecidableEq

/-- Holds the input to the rules. The name is looked at first. -/
def SaleInput.validate (i : SaleInput) (today : Date) : Except Invalid NewSale := do
  let name ← requiredName i.name
  let startDate := i.startDate.getD today
  checkValue "value" i.valueType i.value
  checkWindow startDate i.endDate
  return { name, valueType := i.valueType, value := i.value, startDate, endDate := i.endDate }

/-- The sale with its key and an empty scope. -/
def NewSale.withId (n : NewSale) (id : SaleId) : Sale where
  id := id
  name := n.name
  valueType := n.valueType
  value := n.value
  startDate := n.startDate
  endDate := n.endDate
  scope := .empty

/-- A partial update of a sale. -/
structure SaleUpdate where
  /-- The name, which cannot be blank. -/
  name : Option String := none
  valueType : Option ValueType := none
  value : Option Decimal := none
  startDate : Option Date := none
  endDate : Patch Date := .keep
deriving DecidableEq

/-- The name that the update sets, or else the name so far. -/
def SaleUpdate.nameOr (u : SaleUpdate) (name : String) : Except Invalid String :=
  match u.name with
  | none => .ok name
  | some text => requiredName text

namespace Sale

/-- Whether the sale applies on a day. -/
def isActive (s : Sale) (day : Date) : Bool :=
  Within s.startDate s.endDate day

/-- The sale with the fields set that the update sets. Only the name is looked at. -/
def patched (s : Sale) (u : SaleUpdate) : Except Invalid Sale := do
  let name ← u.nameOr s.name
  return { s with
    name := name
    valueType := u.valueType.getD s.valueType
    value := u.value.getD s.value
    startDate := u.startDate.getD s.startDate
    endDate := u.endDate.apply s.endDate }

/-- Holds a sale to the rules that can be read off its fields. -/
def check (s : Sale) : Except Invalid Unit := do
  checkValue "value" s.valueType s.value
  checkWindow s.startDate s.endDate

/-- A copy of the sale that is updated, if it satisfies the rules. -/
def update (s : Sale) (u : SaleUpdate) : Except Invalid Sale := do
  let next ← s.patched u
  next.check
  return next

/-- Updates the sale in place: the copy takes its place once it has satisfied the rules. -/
def applyUpdate (u : SaleUpdate) : InPlace Sale Invalid Unit := do
  let next ← InPlace.settle ((← get).update u)
  set next

/-- An update that is refused has not touched the sale. -/
theorem applyUpdate_apply (u : SaleUpdate) (s : Sale) :
    applyUpdate u s =
      match s.update u with
      | .ok t => (.ok (), t)
      | .error e => (.error e, s) := by
  change (do set (← InPlace.settle (s.update u)) : InPlace Sale Invalid Unit) s = _
  rw [InPlace.settle_set_apply]
  cases s.update u <;> rfl

/-- Changes the scope; the delta lists the keys that came or went. -/
def changeScope (s : Sale) (op : ScopeOp) (l : CatalogueLists) : Sale × CatalogueLists :=
  let (scope, delta) := s.scope.apply op l
  ({ s with scope }, delta)

end Sale

end BackOffice
