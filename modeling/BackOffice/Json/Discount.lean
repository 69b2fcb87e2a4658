import BackOffice.Discount.Sale
import BackOffice.Discount.Voucher
import BackOffice.Decimal.Text
import BackOffice.Json.Account

/-!
# The JSON forms of discounts

Each type with its encoding and its decoder. What is stored must be complete; what staff ask for may
leave members out. An update is written with `null` for a field that it leaves alone and for one
that it empties, so reading never empties a field.
-/

namespace BackOffice

namespace Decimal

def toJson (d : Decimal) : Json := .str d.toText

/-- Reads a decimal from its text or from a number. -/
def ofJson? : Json → Option Decimal
  | .str s => ofText? s
  | .int n => ofDigits? (n < 0) n.natAbs 0
  | .real negative value => ofBinary? negative value
  | _ => none

end Decimal

namespace Date

def toJson (d : Date) : Json := .str d.toText

def ofJson? (j : Json) : Option Date := j.string?.bind ofText?

end Date

namespace VoucherType

def toJson (t : VoucherType) : Json := .str (Text.upper t.name)

def ofJson? : Json → Option VoucherType :=
  Json.choice? fun s => all.find? fun t => Text.upper t.name = s

end VoucherType

namespace ValueType

def toJson (t : ValueType) : Json := .str (Text.upper t.name)

/-- Reads the name of a value type. -/
def ofJson? : Json → Option ValueType :=
  Json.choice? fun s => all.find? fun t => Text.upper t.name = s

end ValueType

namespace ScopeOp

def toJson (op : ScopeOp) : Json := .str op.name

def ofJson? : Json → Option ScopeOp := Json.choice? ofName?

end ScopeOp

namespace VoucherCode

def toJson (c : VoucherCode) : Json := .str c.text

/-- Reads a code without a look at its characters. -/
def ofJson? (j : Json) : Option VoucherCode := j.string?.map (⟨·⟩)

end VoucherCode

namespace CatalogueLists

def keys : List String := CatalogueKind.all.map CatalogueKind.plural

/-- An object with a list for each kind. -/
def toJson (l : CatalogueLists) : Json :=
  .obj (CatalogueKind.all.map fun k => (k.plural, .list .ofInt32 (l.get k)))

/-- Reads a list for each kind; those that are missing are empty. -/
def ofJson? (j : Json) : Option CatalogueLists := do
  let r ← j.record? keys true
  let ids (k : CatalogueKind) := r.withDefault k.plural [] (Json.list? Json.int32?)
  return ⟨← ids .product, ← ids .collection, ← ids .category⟩

/-- Reads a list for each kind; none may be missing. -/
def ofFullJson? (j : Json) : Option CatalogueLists := do
  let r ← j.record? keys false
  let ids (k : CatalogueKind) := r.required k.plural (Json.list? Json.int32?)
  return ⟨← ids .product, ← ids .collection, ← ids .category⟩

end CatalogueLists

namespace CatalogueScope

/-- An object with the keys of each kind in order. -/
def toJson (s : CatalogueScope) : Json := CatalogueLists.toJson s.toLists

/-- Reads a set for each kind; none may be missing. -/
def ofJson? (j : Json) : Option CatalogueScope :=
  (CatalogueLists.ofFullJson? j).map ofLists

end CatalogueScope

namespace Json

def strings? : Json → Option (List String) := list? string?

end Json

namespace Voucher

def keys : List String :=
  ["id", "voucher_type", "name", "code", "usage_limit", "used", "start_date", "end_date",
    "discount_value_type", "discount_value", "min_amount_spent", "countries", "scope"]

def toJson (v : Voucher) : Json :=
  .obj [("id", v.id.toJson), ("voucher_type", v.type.toJson), ("name", .nullable .str v.name),
    ("code", v.code.toJson), ("usage_limit", .nullable .ofUInt32 v.usageLimit),
    ("used", .ofUInt32 v.used), ("start_date", v.startDate.toJson),
    ("end_date", .nullable Date.toJson v.endDate), ("discount_value_type", v.valueType.toJson),
    ("discount_value", v.value.toJson),
    ("min_amount_spent", .nullable Decimal.toJson v.minAmount),
    ("countries", .list .str v.countries), ("scope", CatalogueScope.toJson v.scope)]

/-- Reads a voucher without holding it to the rules. -/
def ofJson? (j : Json) : Option Voucher := do
  let r ← j.record? keys false
  return {
    id := ← r.required "id" Id.ofJson?
    type := ← r.required "voucher_type" VoucherType.ofJson?
    name := ← r.optional "name" Json.string?
    code := ← r.required "code" VoucherCode.ofJson?
    usageLimit := ← r.optional "usage_limit" Json.uint32?
    used := ← r.required "used" Json.uint32?
    startDate := ← r.required "start_date" Date.ofJson?
    endDate := ← r.optional "end_date" Date.ofJson?
    valueType := ← r.required "discount_value_type" ValueType.ofJson?
    value := ← r.required "discount_value" Decimal.ofJson?
    minAmount := ← r.optional "min_amount_spent" Decimal.ofJson?
    countries := ← r.required "countries" Json.strings?
    scope := ← r.required "scope" CatalogueScope.ofJson? }

end Voucher

namespace VoucherInput

def keys : List String :=
  ["voucher_type", "name", "code", "usage_limit", "start_date", "end_date", "discount_value_type",
    "discount_value", "min_amount_spent", "countries", "catalogues"]

def toJson (i : VoucherInput) : Json :=
  .obj [("voucher_type", i.type.toJson), ("name", .nullable .str i.name),
    ("code", .nullable .str i.code), ("usage_limit", .nullable .ofUInt32 i.usageLimit),
    ("start_date", .nullable Date.toJson i.startDate),
    ("end_date", .nullable Date.toJson i.endDate), ("discount_value_type", i.valueType.toJson),
    ("discount_value", i.value.toJson),
    ("min_amount_spent", .nullable Decimal.toJson i.minAmount),
    ("countries", .list .str i.countries), ("catalogues", CatalogueLists.toJson i.catalogues)]

/-- Reads an input; members that are missing have their defaults. -/
def ofJson? (j : Json) : Option VoucherInput := do
  let r ← j.record? keys true
  return {
    type := ← r.withDefault "voucher_type" .value VoucherType.ofJson?
    name := ← r.optional "name" Json.string?
    code := ← r.optional "code" Json.string?
    usageLimit := ← r.optional "usage_limit" Json.uint32?
    startDate := ← r.optional "start_date" Date.ofJson?
    endDate := ← r.optional "end_date" Date.ofJson?
    valueType := ← r.withDefault "discount_value_type" .fixed ValueType.ofJson?
    value := ← r.withDefault "discount_value" .zero Decimal.ofJson?
    minAmount := ← r.optional "min_amount_spent" Decimal.ofJson?
    countries := ← r.withDefault "countries" [] Json.strings?
    catalogues := ← r.withDefault "catalogues" .empty CatalogueLists.ofJson? }

end VoucherInput

/-- The fields of a voucher without a key. -/
def NewVoucher.members (n : NewVoucher) : List (String × Json) :=
  [("voucher_type", n.type.toJson), ("name", .nullable .str n.name), ("code", n.code.toJson),
    ("usage_limit", .nullable .ofUInt32 n.usageLimit), ("start_date", n.startDate.toJson),
    ("end_date", .nullable Date.toJson n.endDate), ("discount_value_type", n.valueType.toJson),
    ("discount_value", n.value.toJson),
    ("min_amount_spent", .nullable Decimal.toJson n.minAmount),
    ("countries", .list .str n.countries), ("scope", CatalogueLists.toJson n.scope)]

/-- A field of an update, if it is touched; emptying is written as `null`. -/
def Patch.toJson? {α : Type} (encode : α → Json) : Patch α → Option Json
  | .keep => none
  | .clear => some .null
  | .set a => some (encode a)

namespace VoucherUpdate

def keys : List String :=
  ["voucher_type", "name", "code", "usage_limit", "start_date", "end_date", "discount_value_type",
    "discount_value", "min_amount_spent", "countries"]

/-- Each field with what it is set to, if it is touched. -/
def fields (u : VoucherUpdate) : List (String × Option Json) :=
  [("voucher_type", u.type.map VoucherType.toJson), ("name", u.name.map .str),
    ("code", u.code.map .str), ("usage_limit", u.usageLimit.toJson? .ofUInt32),
    ("start_date", u.startDate.map Date.toJson), ("end_date", u.endDate.toJson? Date.toJson),
    ("discount_value_type", u.valueType.map ValueType.toJson),
    ("discount_value", u.value.map Decimal.toJson),
    ("min_amount_spent", u.minAmount.toJson? Decimal.toJson),
    ("countries", u.countries.map (.list .str))]

def toJson (u : VoucherUpdate) : Json := .obj (u.fields.map fun (k, v) => (k, v.getD .null))

/-- An object of the fields that are touched. -/
def touched (u : VoucherUpdate) : Json :=
  .obj (u.fields.filterMap fun (k, v) => v.map (k, ·))

/-- Reads an update; members that are missing or `null` leave their fields alone. -/
def ofJson? (j : Json) : Option VoucherUpdate := do
  let r ← j.record? keys true
  return {
    type := ← r.optional "voucher_type" VoucherType.ofJson?
    name := ← r.optional "name" Json.string?
    code := ← r.optional "code" Json.string?
    usageLimit := .ofOption (← r.optional "usage_limit" Json.uint32?)
    startDate := ← r.optional "start_date" Date.ofJson?
    endDate := .ofOption (← r.optional "end_date" Date.ofJson?)
    valueType := ← r.optional "discount_value_type" ValueType.ofJson?
    value := ← r.optional "discount_value" Decimal.ofJson?
    minAmount := .ofOption (← r.optional "min_amount_spent" Decimal.ofJson?)
    countries := ← r.optional "countries" Json.strings? }

end VoucherUpdate

namespace Sale

def keys : List String :=
  ["id", "name", "value_type", "value", "start_date", "end_date", "scope"]

def toJson (s : Sale) : Json :=
  .obj [("id", s.id.toJson), ("name", .str s.name), ("value_type", s.valueType.toJson),
    ("value", s.value.toJson), ("start_date", s.startDate.toJson),
    ("end_date", .nullable Date.toJson s.endDate), ("scope", CatalogueScope.toJson s.scope)]

/-- Reads a sale without holding it to the rules. -/
def ofJson? (j : Json) : Option Sale := do
  let r ← j.record? keys false
  return {
    id := ← r.required "id" Id.ofJson?
    name := ← r.required "name" Json.string?
    valueType := ← r.required "value_type" ValueType.ofJson?
    value := ← r.required "value" Decimal.ofJson?
    startDate := ← r.required "start_date" Date.ofJson?
    endDate := ← r.optional "end_date" Date.ofJson?
    scope := ← r.required "scope" CatalogueScope.ofJson? }

end Sale

namespace SaleInput

def keys : List String := ["name", "value_type", "value", "start_date", "end_date"]

def toJson (i : SaleInput) : Json :=
  .obj [("name", .str i.name), ("value_type", i.valueType.toJson), ("value", i.value.toJson),
    ("start_date", .nullable Date.toJson i.startDate),
    ("end_date", .nullable Date.toJson i.endDate)]

/-- Reads an input; members that are missing have their defaults. -/
def ofJson? (j : Json) : Option SaleInput := do
  let r ← j.record? keys true
  return {
    name := ← r.withDefault "name" "" Json.string?
    valueType := ← r.withDefault "value_type" .fixed ValueType.ofJson?
    value := ← r.withDefault "value" .zero Decimal.ofJson?
    startDate := ← r.optional "start_date" Date.ofJson?
    endDate := ← r.optional "end_date" Date.ofJson? }

end SaleInput

/-- The fields of a sale without a key. -/
def NewSale.members (n : NewSale) : List (String × Json) :=
  [("name", .str n.name), ("value_type", n.valueType.toJson), ("value", n.value.toJson),
    ("start_date", n.startDate.toJson), ("end_date", .nullable Date.toJson n.endDate)]

namespace SaleUpdate

def keys : List String := ["name", "value_type", "value", "start_date", "end_date"]

/-- Each field with what it is set to, if it is touched. -/
def fields (u : SaleUpdate) : List (String × Option Json) :=
  [("name", u.name.map .str), ("value_type", u.valueType.map ValueType.toJson),
    ("value", u.value.map Decimal.toJson), ("start_date", u.startDate.map Date.toJson),
    ("end_date", u.endDate.toJson? Date.toJson)]

def toJson (u : SaleUpdate) : Json := .obj (u.fields.map fun (k, v) => (k, v.getD .null))

/-- An object of the fields that are touched. -/
def touched (u : SaleUpdate) : Json :=
  .obj (u.fields.filterMap fun (k, v) => v.map (k, ·))

/-- Reads an update; members that are missing or `null` leave their fields alone. -/
def ofJson? (j : Json) : Option SaleUpdate := do
  let r ← j.record? keys true
  return {
    name := ← r.optional "name" Json.string?
    valueType := ← r.optional "value_type" ValueType.ofJson?
    value := ← r.optional "value" Decimal.ofJson?
    startDate := ← r.optional "start_date" Date.ofJson?
    endDate := .ofOption (← r.optional "end_date" Date.ofJson?) }

end SaleUpdate

end BackOffice
