import BackOffice.Discount.Sale
import BackOffice.Discount.Voucher

/-!
# The flags of the update commands

An update is asked for with flags: one that sets a field, one that empties it, and switches that
choose how the value is read. `VoucherFlags.toUpdate` and `SaleFlags.toUpdate` say which update a
choice of flags means; flags that contradict each other are not allowed together.
-/

namespace BackOffice

namespace Flags

/-- A field that may be empty: one flag empties it, another sets it. -/
def patch {α : Type} (value : Option α) (clear : Bool) : Patch α :=
  if clear then .clear else .ofOption value

/-- How the value is read from now on. -/
def valueType (percentage fixed : Bool) : Option ValueType :=
  if percentage then some .percentage else if fixed then some .fixed else none

end Flags

/-- The flags for an update of a voucher. -/
structure VoucherFlags where
  code : Option String := none
  name : Option String := none
  type : Option VoucherType := none
  value : Option Decimal := none
  percentage : Bool := false
  fixed : Bool := false
  usageLimit : Option UInt32 := none
  unlimited : Bool := false
  startDate : Option Date := none
  endDate : Option Date := none
  noEndDate : Bool := false
  minAmount : Option Decimal := none
  noMinAmount : Bool := false
  countries : List String := []
  allCountries : Bool := false
deriving DecidableEq

namespace VoucherFlags

/-- No flag contradicts another. -/
def Allowed (f : VoucherFlags) : Prop :=
  ¬(f.fixed ∧ f.percentage) ∧ ¬(f.unlimited ∧ f.usageLimit.isSome) ∧
    ¬(f.noEndDate ∧ f.endDate.isSome) ∧ ¬(f.noMinAmount ∧ f.minAmount.isSome) ∧
    ¬(f.allCountries ∧ f.countries ≠ [])

/-- The update that the flags ask for. -/
def toUpdate (f : VoucherFlags) : VoucherUpdate where
  type := f.type
  name := f.name
  code := f.code
  usageLimit := Flags.patch f.usageLimit f.unlimited
  startDate := f.startDate
  endDate := Flags.patch f.endDate f.noEndDate
  valueType := Flags.valueType f.percentage f.fixed
  value := f.value
  minAmount := Flags.patch f.minAmount f.noMinAmount
  countries := if f.allCountries || !f.countries.isEmpty then some f.countries else none

end VoucherFlags

/-- The flags for an update of a sale. -/
structure SaleFlags where
  name : Option String := none
  value : Option Decimal := none
  percentage : Bool := false
  fixed : Bool := false
  startDate : Option Date := none
  endDate : Option Date := none
  noEndDate : Bool := false
deriving DecidableEq

namespace SaleFlags

/-- No flag contradicts another. -/
def Allowed (f : SaleFlags) : Prop :=
  ¬(f.fixed ∧ f.percentage) ∧ ¬(f.noEndDate ∧ f.endDate.isSome)

/-- The update that the flags ask for. -/
def toUpdate (f : SaleFlags) : SaleUpdate where
  name := f.name
  valueType := Flags.valueType f.percentage f.fixed
  value := f.value
  startDate := f.startDate
  endDate := Flags.patch f.endDate f.noEndDate

end SaleFlags

end BackOffice
