import BackOffice.Address.Basic
import BackOffice.Command.Arguments
import BackOffice.Command.Flags
import BackOffice.Half

/-!
# Commands

What staff can ask for on the command line, and the menu in which they ask: building the tables,
customers and their addresses, vouchers, and sales. `Command.parse` reads a command line.
-/

namespace BackOffice

/-- A command. -/
inductive Command where
  /-- Build the tables of some halves, in order. -/
  | migrate (halves : List Half)
  | createUser (firstName lastName : String)
  | showUser (id : UserId)
  /-- Add an address; `replace` makes it the default even if there is one. -/
  | addAddress (id : UserId) (kind : AddressKind) (replace : Bool) (data : AddressData)
  | setDefault (id : UserId) (address : AddressId) (kind : AddressKind)
  | deleteAddress (id : UserId) (address : AddressId)
  | createVoucher (input : VoucherInput)
  | showVoucher (id : VoucherId)
  | updateVoucher (id : VoucherId) (update : VoucherUpdate)
  | deleteVoucher (id : VoucherId)
  | changeVoucherScope (id : VoucherId) (op : ScopeOp) (entities : CatalogueLists)
  | createSale (input : SaleInput)
  | showSale (id : SaleId)
  | updateSale (id : SaleId) (update : SaleUpdate)
  | deleteSale (id : SaleId)
  | changeSaleScope (id : SaleId) (op : ScopeOp) (entities : CatalogueLists)

namespace Command

open ValueForm

def readId? {entity : Entity} (s : String) : Option (Id entity) := (readInt32? s).map (⟨·⟩)

/-- Reads the name of a voucher's type. -/
def readVoucherType? (s : String) : Option VoucherType :=
  VoucherType.all.find? fun t => t.name = s

/-- The place for the key of what a command is about. -/
def idPlace : Parameter := { name := "id", form := .int32, required := true }

/-- The place for the identifier of an address. -/
def addressPlace : Parameter := { name := "address", form := .addressId, required := true }

def textOption (name : String) : Parameter := { name }

/-- A switch that excludes other options. -/
def switch (name : String) (excludes : List String := []) : Parameter :=
  { name, arity := .switch, excludes }

def addressKindOption : Parameter where
  name := "type"
  form := .oneOf (AddressKind.all.map AddressKind.name)
  required := true

def voucherTypeOption : Parameter where
  name := "type"
  form := .oneOf (VoucherType.all.map VoucherType.name)

def valueOption (required : Bool) : Parameter := { name := "value", form := .decimal, required }

def dayOptions : List Parameter :=
  [{ name := "start-date", form := .date }, { name := "end-date", form := .date }]

def usageLimitOption : Parameter := { name := "usage-limit", form := .uint32 }

def minAmountOption : Parameter := { name := "min-amount-spent", form := .decimal }

def countryOption : Parameter := { name := "country", arity := .repeated }

def catalogueOptions : List Parameter :=
  CatalogueKind.all.map fun k => { name := k.singular, form := .int32, arity := .repeated }

def addressOptions : List Parameter :=
  ["first-name", "last-name", "company", "street", "street-2", "city", "city-area", "postal-code",
    "country", "country-area", "phone"].map textOption

/-- The address that the options spell out. -/
def addressOf (f : Filled) : AddressData where
  firstName := f.text "first-name"
  lastName := f.text "last-name"
  company := f.text "company"
  street1 := f.text "street"
  street2 := f.text "street-2"
  city := f.text "city"
  cityArea := f.text "city-area"
  postalCode := f.text "postal-code"
  country := f.text "country"
  countryArea := f.text "country-area"
  phone := f.text "phone"

/-- The catalogue entities that the options list. -/
def catalogueOf (f : Filled) : Option CatalogueLists := do
  let ids (k : CatalogueKind) := f.many k.singular readInt32?
  return ⟨← ids .product, ← ids .collection, ← ids .category⟩

def idForm {entity : Entity} (command : Id entity → Command) : Form Command where
  places := [idPlace]
  build f := return command (← f.required "id" readId?)

def createUserForm : Form Command where
  options := [
    { name := "first-name", letter := some 'f' },
    { name := "last-name", letter := some 'l' }]
  build f := some (.createUser (f.text "first-name") (f.text "last-name"))

def addAddressForm : Form Command where
  options := addressKindOption :: switch "default" :: addressOptions
  places := [idPlace]
  build f := do
    let id ← f.required "id" readId?
    let kind ← f.required "type" AddressKind.ofName?
    return .addAddress id kind (f.has "default") (addressOf f)

def setDefaultForm : Form Command where
  options := [addressKindOption]
  places := [idPlace, addressPlace]
  build f := do
    let id ← f.required "id" readId?
    let address ← f.required "address" AddressId.ofText?
    return .setDefault id address (← f.required "type" AddressKind.ofName?)

def deleteAddressForm : Form Command where
  places := [idPlace, addressPlace]
  build f := do
    let id ← f.required "id" readId?
    return .deleteAddress id (← f.required "address" AddressId.ofText?)

/-- How the value of a new discount is read. -/
def valueTypeOf (f : Filled) : ValueType :=
  if f.has "percentage" then .percentage else .fixed

def createVoucherForm : Form Command where
  options := [textOption "code", textOption "name", voucherTypeOption, valueOption true,
    switch "percentage", usageLimitOption] ++ dayOptions ++ [minAmountOption, countryOption] ++
    catalogueOptions
  build f := do
    return .createVoucher {
      type := (← f.optional "type" readVoucherType?).getD .value
      name := ← f.optional "name" some
      code := ← f.optional "code" some
      usageLimit := ← f.optional "usage-limit" readUInt32?
      startDate := ← f.optional "start-date" Date.ofText?
      endDate := ← f.optional "end-date" Date.ofText?
      valueType := valueTypeOf f
      value := ← f.required "value" Decimal.ofText?
      minAmount := ← f.optional "min-amount-spent" Decimal.ofText?
      countries := f.values "country"
      catalogues := ← catalogueOf f }

def updateVoucherForm : Form Command where
  options := [textOption "code", textOption "name", voucherTypeOption, valueOption false,
    switch "percentage", switch "fixed" ["percentage"], usageLimitOption,
    switch "unlimited" ["usage-limit"]] ++ dayOptions ++ [switch "no-end-date" ["end-date"],
    minAmountOption, switch "no-min-amount" ["min-amount-spent"], countryOption,
    switch "all-countries" ["country"]]
  places := [idPlace]
  build f := do
    let id ← f.required "id" readId?
    let flags : VoucherFlags := {
      code := ← f.optional "code" some
      name := ← f.optional "name" some
      type := ← f.optional "type" readVoucherType?
      value := ← f.optional "value" Decimal.ofText?
      percentage := f.has "percentage"
      fixed := f.has "fixed"
      usageLimit := ← f.optional "usage-limit" readUInt32?
      unlimited := f.has "unlimited"
      startDate := ← f.optional "start-date" Date.ofText?
      endDate := ← f.optional "end-date" Date.ofText?
      noEndDate := f.has "no-end-date"
      minAmount := ← f.optional "min-amount-spent" Decimal.ofText?
      noMinAmount := f.has "no-min-amount"
      countries := f.values "country"
      allCountries := f.has "all-countries" }
    return .updateVoucher id flags.toUpdate

def createSaleForm : Form Command where
  options := [{ name := "name", required := true }, valueOption true, switch "percentage"] ++
    dayOptions
  build f := do
    return .createSale {
      name := f.text "name"
      valueType := valueTypeOf f
      value := ← f.required "value" Decimal.ofText?
      startDate := ← f.optional "start-date" Date.ofText?
      endDate := ← f.optional "end-date" Date.ofText? }

def updateSaleForm : Form Command where
  options := [textOption "name", valueOption false, switch "percentage",
    switch "fixed" ["percentage"]] ++ dayOptions ++ [switch "no-end-date" ["end-date"]]
  places := [idPlace]
  build f := do
    let id ← f.required "id" readId?
    let flags : SaleFlags := {
      name := ← f.optional "name" some
      value := ← f.optional "value" Decimal.ofText?
      percentage := f.has "percentage"
      fixed := f.has "fixed"
      startDate := ← f.optional "start-date" Date.ofText?
      endDate := ← f.optional "end-date" Date.ofText?
      noEndDate := f.has "no-end-date" }
    return .updateSale id flags.toUpdate

def scopeForm {entity : Entity} (command : Id entity → CatalogueLists → Command) :
    Form Command where
  options := catalogueOptions
  places := [idPlace]
  build f := return command (← f.required "id" readId?) (← catalogueOf f)

def scopeMenu {entity : Entity} (command : Id entity → ScopeOp → CatalogueLists → Command) :
    Menu Command :=
  .choices [("add", .leaf (scopeForm (command · .add))),
    ("remove", .leaf (scopeForm (command · .remove)))]

/-- A form with nothing to fill in. -/
def plainForm (command : Command) : Menu Command := .leaf { build := fun _ => some command }

def menu : Menu Command :=
  .choices [
    ("migrate", .choices [
      ("storefront", plainForm (.migrate [.storefront])),
      ("admin", plainForm (.migrate [.admin])),
      ("all", plainForm (.migrate [.storefront, .admin]))]),
    ("user", .choices [
      ("create", .leaf createUserForm),
      ("show", .leaf (idForm .showUser)),
      ("address", .choices [
        ("add", .leaf addAddressForm),
        ("set-default", .leaf setDefaultForm),
        ("delete", .leaf deleteAddressForm)])]),
    ("voucher", .choices [
      ("create", .leaf createVoucherForm),
      ("show", .leaf (idForm .showVoucher)),
      ("update", .leaf updateVoucherForm),
      ("delete", .leaf (idForm .deleteVoucher)),
      ("scope", scopeMenu .changeVoucherScope)]),
    ("sale", .choices [
      ("create", .leaf createSaleForm),
      ("show", .leaf (idForm .showSale)),
      ("update", .leaf updateSaleForm),
      ("delete", .leaf (idForm .deleteSale)),
      ("scope", scopeMenu .changeSaleScope)])]

/-- Reads a command line, without the name of the program. -/
def parse (words : List String) : Except UsageError Command :=
  menu.read true words

end Command

end BackOffice
