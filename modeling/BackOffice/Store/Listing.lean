import BackOffice.Json.Discount
import BackOffice.Store.Site

/-!
# Rows as JSON

Rows of the discount tables are read from JSON by their columns, and the rows of all tables of a
site are listed, those of each table in the order of their keys.
-/

namespace BackOffice

namespace VoucherRow

def columns : List String := Voucher.keys.filter (· != "scope")

/-- Reads a row; its counts are signed, as in the table. -/
def ofJson? (j : Json) : Option VoucherRow := do
  let r ← j.record? columns false
  return {
    id := ← r.required "id" Id.ofJson?
    type := ← r.required "voucher_type" VoucherType.ofJson?
    name := ← r.optional "name" Json.string?
    code := ← r.required "code" Json.string?
    usageLimit := ← r.optional "usage_limit" Json.int32?
    used := ← r.required "used" Json.int32?
    startDate := ← r.required "start_date" Date.ofJson?
    endDate := ← r.optional "end_date" Date.ofJson?
    valueType := ← r.required "discount_value_type" ValueType.ofJson?
    value := ← r.required "discount_value" Decimal.ofJson?
    minAmount := ← r.optional "min_amount_spent" Decimal.ofJson?
    countries := ← r.required "countries" Json.strings? }

def listed (r : VoucherRow) : Json := .arr [r.id.toJson, .str r.code]

end VoucherRow

namespace SaleRow

def columns : List String := Sale.keys.filter (· != "scope")

def ofJson? (j : Json) : Option SaleRow := do
  let r ← j.record? columns false
  return {
    id := ← r.required "id" Id.ofJson?
    name := ← r.required "name" Json.string?
    valueType := ← r.required "value_type" ValueType.ofJson?
    value := ← r.required "value" Decimal.ofJson?
    startDate := ← r.required "start_date" Date.ofJson?
    endDate := ← r.optional "end_date" Date.ofJson? }

def listed (r : SaleRow) : Json := .arr [r.id.toJson, .str r.name]

end SaleRow

/-- The key, the names and the pointers. -/
def UserRow.listed (r : UserRow) : Json :=
  .arr [r.id.toJson, .str r.firstName, .str r.lastName, .nullable AddressId.toJson r.billing,
    .nullable AddressId.toJson r.shipping]

/-- The owner, the place and the identifier. -/
def AddressRow.listed (r : AddressRow) : Json :=
  .arr [r.owner.toJson, .str r.address.data.street1, .str r.address.data.city,
    r.address.id.toJson]

/-- The version and the description of a migration that has been run. -/
def Migration.listed (m : Migration) : Json :=
  .arr [.int m.version, .str m.description, .bool true]

/-- The rows of a table, ordered by a key. -/
def listRows {α : Type} (key : α → Int32) (listed : α → Json) (rows : List α) : Json :=
  .list listed (rows.mergeSort fun a b => key a ≤ key b)

/-- The rows of both tables of accounts. Those of one user's addresses keep their order. -/
def AccountRows.listing (rows : AccountRows) : List (String × Json) :=
  [(AccountStore.userTable, listRows (·.id.key) UserRow.listed rows.users),
    (AccountStore.addressTable, listRows (·.owner.key) AddressRow.listed rows.addresses)]

namespace DiscountRows

/-- The rows of one table of scope rows, by owner and then by entity. -/
def listScopes (rows : List ScopeRow) : Json :=
  let sorted := rows.mergeSort fun a b =>
    a.owner < b.owner || (a.owner == b.owner && a.entity ≤ b.entity)
  .list (fun r => .arr [.ofInt32 r.owner, .ofInt32 r.entity]) sorted

/-- The rows of all tables of discounts. -/
def listing (rows : DiscountRows) : List (String × Json) :=
  [(DiscountStore.voucherTable, listRows (·.id.key) VoucherRow.listed rows.vouchers),
    (DiscountStore.saleTable, listRows (·.id.key) SaleRow.listed rows.sales)] ++
    ScopeTable.all.map fun t => (t.fullName, listScopes (rows.scopes.get t))

end DiscountRows

/-- The rows of all tables that have been created. Of two tables that note migrations, the
administration's is listed. -/
def Site.listing (s : Site) : Json :=
  let accounts := (s.accounts.rows.map AccountRows.listing).getD []
  let discounts := (s.discounts.rows.map DiscountRows.listing).getD []
  let notes := ((s.notes .admin).or (s.notes .storefront)).map fun noted =>
    ("_sqlx_migrations", Json.list Migration.listed noted)
  .obj (accounts ++ discounts ++ notes.toList)

end BackOffice
