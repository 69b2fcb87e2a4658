import BackOffice.Discount.Sale
import BackOffice.Discount.Voucher
import BackOffice.Store.Key
import BackOffice.Store.ScopeTables
import BackOffice.Store.Work

/-!
# The tables of discounts

A table of vouchers and one of sales, and for each of them three tables of scope, one for each kind
of catalogue entity, with a row for each entity in scope. The database keeps keys and the codes of
vouchers unique, amounts and counts from falling below zero, and scope rows to owners that exist;
with a discount it deletes the scope. Statements on scope rows call their table and its columns by
name. Counts have signed columns, so a count from storage may be impossible.
-/

namespace BackOffice

/-- A row of the table of vouchers. -/
structure VoucherRow where
  id : VoucherId
  type : VoucherType
  name : Option String
  code : String
  usageLimit : Option Int32
  used : Int32 := 0
  startDate : Date
  endDate : Option Date
  valueType : ValueType
  value : Decimal
  minAmount : Option Decimal
  countries : List String
deriving DecidableEq

namespace VoucherRow

/-- A count from storage, unless it is negative; `what` is what it counts. -/
def readCount (id : VoucherId) (what : String) (count : Int32) : Except StoreError UInt32 :=
  if count < 0 then
    .error (.corrupt ("voucher " ++ id.toText ++ " has a negative " ++ what))
  else .ok count.toUInt32

/-- The voucher of a row and a scope. -/
def toVoucher (r : VoucherRow) (scope : CatalogueScope) : Except StoreError Voucher := do
  let usageLimit ← r.usageLimit.mapM (readCount r.id "usage limit")
  let used ← readCount r.id "use count" r.used
  return {
    id := r.id
    type := r.type
    name := r.name
    code := ⟨r.code⟩
    usageLimit := usageLimit
    used := used
    startDate := r.startDate
    endDate := r.endDate
    valueType := r.valueType
    value := r.value
    minAmount := r.minAmount
    countries := r.countries
    scope := scope }

/-- The row with the fields of a voucher; key and uses stay. -/
def withFields (r : VoucherRow) (v : Voucher) (usageLimit : Option Int32) : VoucherRow where
  id := r.id
  type := v.type
  name := v.name
  code := v.code.text
  usageLimit := usageLimit
  used := r.used
  startDate := v.startDate
  endDate := v.endDate
  valueType := v.valueType
  value := v.value.stored
  minAmount := v.minAmount.map Decimal.stored
  countries := v.countries

/-- The first rule, by name, that a row breaks. -/
def brokenRule? (r : VoucherRow) : Option String :=
  if r.endDate.any (· < r.startDate) then some "voucher_check"
  else if r.value < Decimal.zero then some "voucher_discount_value_check"
  else if r.minAmount.any (· < Decimal.zero) then some "voucher_min_amount_spent_check"
  else if r.usageLimit.any (· < 0) then some "voucher_usage_limit_check"
  else if r.used < 0 then some "voucher_used_check"
  else none

end VoucherRow

/-- A row of the table of sales. -/
structure SaleRow where
  id : SaleId
  name : String
  valueType : ValueType
  value : Decimal
  startDate : Date
  endDate : Option Date
deriving DecidableEq

namespace SaleRow

/-- The sale of a row and a scope. -/
def toSale (r : SaleRow) (scope : CatalogueScope) : Sale where
  id := r.id
  name := r.name
  valueType := r.valueType
  value := r.value
  startDate := r.startDate
  endDate := r.endDate
  scope := scope

/-- The first rule, by name, that a row breaks. -/
def brokenRule? (r : SaleRow) : Option String :=
  if r.endDate.any (· < r.startDate) then some "sale_check"
  else if r.value < Decimal.zero then some "sale_value_check"
  else none

end SaleRow

/-- The discount that scope rows belong to. -/
inductive ScopeOwner where
  | voucher (id : VoucherId)
  | sale (id : SaleId)
deriving DecidableEq

/-- The names of the tables for the scopes of one kind of discount, and of their column for its
key. -/
structure ScopeTableNames where
  ownerColumn : String
  tables : PerKind String

namespace ScopeOwner

def key : ScopeOwner → CatalogueId
  | .voucher id => id.key
  | .sale id => id.key

def tableNames : ScopeOwner → ScopeTableNames
  | .voucher _ => {
    ownerColumn := "voucher_id"
    tables := ⟨"admin.voucher_product", "admin.voucher_collection", "admin.voucher_category"⟩ }
  | .sale _ => {
    ownerColumn := "sale_id"
    tables := ⟨"admin.sale_product", "admin.sale_collection", "admin.sale_category"⟩ }

/-- The column for the owner's key. -/
def column (owner : ScopeOwner) : String :=
  owner.tableNames.ownerColumn

/-- The table of scope rows for a kind. -/
def table (owner : ScopeOwner) (kind : CatalogueKind) : String :=
  owner.tableNames.tables.get kind

end ScopeOwner

/-- The column for the key of an entity of a kind. -/
def CatalogueKind.column : CatalogueKind → String
  | .product => "product_id"
  | .collection => "collection_id"
  | .category => "category_id"

/-- What statements on an owner's scope rows of a kind write for the table and its columns. -/
def ScopeOwner.names (owner : ScopeOwner) (kind : CatalogueKind) : ScopeNames where
  table := owner.table kind
  ownerColumn := owner.column
  entityColumn := kind.column

/-- The discount that a row belongs to. -/
def ScopeTable.ownerOf (t : ScopeTable) (r : ScopeRow) : ScopeOwner :=
  match t.discount with
  | .voucher => .voucher ⟨r.owner⟩
  | .sale => .sale ⟨r.owner⟩

/-- The rows of all tables. -/
structure DiscountRows where
  vouchers : List VoucherRow := []
  sales : List SaleRow := []
  scopes : PerScopeTable (List ScopeRow) := ⟨⟨[], [], []⟩, ⟨[], [], []⟩⟩
deriving DecidableEq

namespace DiscountRows

def voucher? (rows : DiscountRows) (id : VoucherId) : Option VoucherRow :=
  rows.vouchers.find? fun r => r.id = id

def sale? (rows : DiscountRows) (id : SaleId) : Option SaleRow :=
  rows.sales.find? fun r => r.id = id

/-- Whether the owner of scope rows exists. -/
def hasOwner (rows : DiscountRows) : ScopeOwner → Bool
  | .voucher id => (rows.voucher? id).isSome
  | .sale id => (rows.sale? id).isSome

/-- Changes the rows of one table of scope rows. -/
def modifyScope (rows : DiscountRows) (t : ScopeTable) (f : List ScopeRow → List ScopeRow) :
    DiscountRows :=
  { rows with
    scopes := .ofFn fun t' => if t' = t then f (rows.scopes.get t') else rows.scopes.get t' }

/-- Adds scope rows to a table, except those that are there. -/
def addScopeRows (rows : DiscountRows) (t : ScopeTable) (new : List ScopeRow) : DiscountRows :=
  rows.modifyScope t fun l => ScopeRow.insertAll l new

/-- Takes the scope rows of some owner and some entities out of a table. -/
def removeScopeRows (rows : DiscountRows) (place : ScopePlace) (owner : CatalogueId)
    (ids : List CatalogueId) : DiscountRows :=
  rows.modifyScope place.table
    (·.filter fun r => !(r.get place.owner = owner && ids.contains (r.get place.entity)))

/-- Takes all scope rows of an owner away. -/
def clearScope (rows : DiscountRows) (owner : ScopeOwner) : DiscountRows :=
  { rows with
    scopes := .ofFn fun t => (rows.scopes.get t).filter fun r => t.ownerOf r ≠ owner }

end DiscountRows

/-- The tables of discounts, if they have been created, and the sequences of keys. -/
structure DiscountStore where
  rows : Option DiscountRows := some {}
  /-- How many voucher keys have been given out. -/
  vouchersGiven : Nat := 0
  /-- How many sale keys have been given out. -/
  salesGiven : Nat := 0
deriving DecidableEq

instance : Transactional DiscountStore where
  rollback before after := { after with rows := before.rows }

namespace DiscountStore

def schema : String := "admin"

/-- The name of the table of vouchers. -/
def voucherTable : String := "admin.voucher"

/-- The name of the table of sales. -/
def saleTable : String := "admin.sale"

/-- The largest count that a column holds. -/
def maxCount : Nat := 2147483647

/-- A count for its column, unless it is too large. -/
def toCount (count : UInt32) : Except DatabaseError Int32 :=
  if count.toNat ≤ maxCount then .ok count.toInt32 else .error .countTooLarge

abbrev Statement (α : Type) : Type := Work DiscountStore DatabaseError α

/-- The rows of the tables, or the error for a statement that needs them. -/
def rowsOr (error : DatabaseError) : Statement DiscountRows := do
  match (← Work.store).rows with
  | some rows => return rows
  | none => throw error

def setRows (rows : DiscountRows) : Statement Unit := do
  Work.setStore { ← Work.store with rows := some rows }

/-- Gives out a key for a voucher. -/
def nextVoucher : Statement VoucherId := do
  let s ← Work.store
  match Sequence.key? s.vouchersGiven with
  | none => throw (.noMoreKeys "voucher_id_seq")
  | some id =>
    Work.setStore { s with vouchersGiven := s.vouchersGiven + 1 }
    return id

/-- Gives out a key for a sale. -/
def nextSale : Statement SaleId := do
  let s ← Work.store
  match Sequence.key? s.salesGiven with
  | none => throw (.noMoreKeys "sale_id_seq")
  | some id =>
    Work.setStore { s with salesGiven := s.salesGiven + 1 }
    return id

/-- Refuses a voucher's row that breaks a rule, or that has the code of another row. -/
def checkVoucher (others : List VoucherRow) (r : VoucherRow) : Except DatabaseError Unit := do
  if let some rule := r.brokenRule? then throw (.brokenCheck "voucher" rule)
  if others.any fun other => other.code = r.code then throw (.duplicate "voucher_code_key")

/-- Changes the rows of a voucher one after the other, each held to the rules and to the codes of
all other rows as they are by then; `done` are the rows in front. -/
def changeVouchers (id : VoucherId) (f : VoucherRow → VoucherRow) (done : List VoucherRow) :
    List VoucherRow → Except DatabaseError (List VoucherRow)
  | [] => .ok done
  | r :: rest =>
    if r.id = id then do
      checkVoucher (done ++ rest) (f r)
      changeVouchers id f (done ++ [f r]) rest
    else changeVouchers id f (done ++ [r]) rest

/-- Inserts a voucher without scope and returns the key, which no row may have yet. -/
def insertVoucher (n : NewVoucher) (usageLimit : Option Int32) : Statement VoucherId := do
  let rows ← rowsOr (.noSchema schema)
  Work.note .insert voucherTable
  let id ← nextVoucher
  let row : VoucherRow := {
    id := id
    type := n.type
    name := n.name
    code := n.code.text
    usageLimit := usageLimit
    startDate := n.startDate
    endDate := n.endDate
    valueType := n.valueType
    value := n.value.stored
    minAmount := n.minAmount.map Decimal.stored
    countries := n.countries }
  InPlace.settle (checkVoucher rows.vouchers row)
  if (rows.voucher? id).isSome then throw (.duplicate "voucher_pkey")
  setRows { rows with vouchers := rows.vouchers ++ [row] }
  return id

/-- Sets the columns of a voucher, except the uses, if it is there. -/
def updateVoucher (v : Voucher) (usageLimit : Option Int32) : Statement Unit := do
  let rows ← rowsOr (.noSchema schema)
  Work.note .update voucherTable
  let vouchers ← InPlace.settle (changeVouchers v.id (·.withFields v usageLimit) [] rows.vouchers)
  setRows { rows with vouchers }

/-- Deletes a voucher and its scope; says whether it was there. -/
def deleteVoucher (id : VoucherId) : Statement Bool := do
  let rows ← rowsOr (.noTable voucherTable)
  Work.note .delete voucherTable
  if (rows.voucher? id).isNone then return false
  setRows ({ rows with vouchers := rows.vouchers.filter fun r => r.id ≠ id }.clearScope
    (.voucher id))
  return true

/-- Inserts a sale without scope and returns the key, which no row may have yet. -/
def insertSale (n : NewSale) : Statement SaleId := do
  let rows ← rowsOr (.noSchema schema)
  Work.note .insert saleTable
  let id ← nextSale
  let row : SaleRow := {
    id := id
    name := n.name
    valueType := n.valueType
    value := n.value.stored
    startDate := n.startDate
    endDate := n.endDate }
  if let some rule := row.brokenRule? then throw (.brokenCheck "sale" rule)
  if (rows.sale? id).isSome then throw (.duplicate "sale_pkey")
  setRows { rows with sales := rows.sales ++ [row] }
  return id

/-- Sets the columns of a sale, if it is there. -/
def updateSale (s : Sale) : Statement Unit := do
  let rows ← rowsOr (.noSchema schema)
  Work.note .update saleTable
  if (rows.sale? s.id).isSome then
    let row : SaleRow := {
      id := s.id
      name := s.name
      valueType := s.valueType
      value := s.value.stored
      startDate := s.startDate
      endDate := s.endDate }
    if let some rule := row.brokenRule? then throw (.brokenCheck "sale" rule)
    setRows { rows with sales := rows.sales.map fun r => if r.id = s.id then row else r }

/-- Deletes a sale and its scope; says whether it was there. -/
def deleteSale (id : SaleId) : Statement Bool := do
  let rows ← rowsOr (.noTable saleTable)
  Work.note .delete saleTable
  if (rows.sale? id).isNone then return false
  setRows ({ rows with sales := rows.sales.filter fun r => r.id ≠ id }.clearScope (.sale id))
  return true

/-- Refuses scope rows in which one column would have two values, and those of a discount that is
not there. -/
def checkScopeRows (rows : DiscountRows) (names : ScopeNames) (place : ScopePlace)
    (new : List ScopeRow) : Except DatabaseError Unit := do
  if place.owner = place.entity then throw (.repeatedColumn names.entityColumn)
  if !new.all fun r => rows.hasOwner (place.table.ownerOf r) then
    throw (.dangling place.table.name place.table.foreignKey)

/-- Inserts scope rows of an owner, except those that are there. Every row is given the owner's key
in the one column and an entity's in the other. -/
def insertScopeRows (names : ScopeNames) (owner : CatalogueId) (ids : List CatalogueId) :
    Statement Unit := do
  let rows ← rowsOr (.noTable names.table)
  Work.note .insert names.table
  let place ← InPlace.settle (names.resolve fun t column => .noColumnOf t.name column)
  let new := ids.map fun id => ScopeRow.ofFn fun c => if c = place.owner then owner else id
  InPlace.settle (checkScopeRows rows names place new)
  setRows (rows.addScopeRows place.table new)

/-- Deletes the scope rows that have the owner's key in the one column and one of the entities in
the other. -/
def deleteScopeRows (names : ScopeNames) (owner : CatalogueId) (ids : List CatalogueId) :
    Statement Unit := do
  let rows ← rowsOr (.noTable names.table)
  Work.note .delete names.table
  let place ← InPlace.settle (names.resolve fun _ column => .noColumn column)
  setRows (rows.removeScopeRows place owner ids)

/-- Reads the one column of the scope rows that have the owner's key in the other. -/
def selectScope (names : ScopeNames) (owner : CatalogueId) : Statement (List CatalogueId) := do
  let rows ← rowsOr (.noTable names.table)
  let place ← InPlace.settle (names.resolve fun _ column => .noColumn column)
  let mine := (rows.scopes.get place.table).filter fun r => r.get place.owner = owner
  return mine.map (·.get place.entity)

/-- Inserts scope rows of one kind, or deletes them. -/
def changeScopeRows (owner : ScopeOwner) (op : ScopeOp) (kind : CatalogueKind)
    (ids : List CatalogueId) : Statement Unit :=
  match op with
  | .add => insertScopeRows (owner.names kind) owner.key ids
  | .remove => deleteScopeRows (owner.names kind) owner.key ids

/-- Writes a delta down, one statement for each kind with entities in it. -/
def applyDelta (owner : ScopeOwner) (op : ScopeOp) (delta : CatalogueLists) : Statement Unit :=
  CatalogueKind.all.forM fun kind =>
    if (delta.get kind).isEmpty then pure ()
    else changeScopeRows owner op kind (delta.get kind)

/-- The scope of an owner, one statement for each kind. -/
def loadScope (owner : ScopeOwner) : Statement CatalogueScope := do
  let products ← selectScope (owner.names .product) owner.key
  let collections ← selectScope (owner.names .collection) owner.key
  let categories ← selectScope (owner.names .category) owner.key
  return .ofLists ⟨products, collections, categories⟩

/-- The voucher of a row, with its scope from the tables. -/
def withScope (r : Option VoucherRow) : Work DiscountStore StoreError (Option Voucher) :=
  match r with
  | none => return none
  | some r => do
    let scope ← (loadScope (.voucher r.id)).mapError .database
    let v ← InPlace.settle (r.toVoucher scope)
    return some v

def loadVoucher (id : VoucherId) : Work DiscountStore StoreError (Option Voucher) := do
  let rows ← (rowsOr (.noTable voucherTable)).mapError .database
  withScope (rows.voucher? id)

def findVoucher (code : VoucherCode) : Work DiscountStore StoreError (Option Voucher) := do
  let rows ← (rowsOr (.noTable voucherTable)).mapError .database
  withScope (rows.vouchers.find? fun r => r.code = code.text)

def loadSale (id : SaleId) : Work DiscountStore StoreError (Option Sale) := do
  let rows ← (rowsOr (.noTable saleTable)).mapError .database
  match rows.sale? id with
  | none => return none
  | some r => return some (r.toSale (← (loadScope (.sale r.id)).mapError .database))

/-- What a refusal means when a voucher's code is written. -/
def codeError (code : VoucherCode) : DatabaseError → StoreError :=
  .ofRefusal ("voucher code " ++ code.text ++ " already exists")

/-- A voucher's limit for its column. -/
def limitFor (limit : Option UInt32) : Work DiscountStore StoreError (Option Int32) :=
  match limit.mapM toCount with
  | .ok count => return count
  | .error e => throw (.database e)

/-- Adds a voucher with its scope, both or neither. -/
def createVoucher (n : NewVoucher) : Work DiscountStore StoreError Voucher := do
  let usageLimit ← limitFor n.usageLimit
  Work.transaction do
    let id ← (insertVoucher n usageLimit).mapError (codeError n.code)
    (applyDelta (.voucher id) .add n.scope).mapError .database
    return n.withId id

/-- Writes the fields of a voucher down, except uses and scope. -/
def saveVoucher (v : Voucher) : Work DiscountStore StoreError Unit := do
  let usageLimit ← limitFor v.usageLimit
  (updateVoucher v usageLimit).mapError (codeError v.code)

/-- Deletes a voucher that is there. -/
def removeVoucher (id : VoucherId) : Work DiscountStore StoreError Unit := do
  if !(← (deleteVoucher id).mapError .database) then throw .notFound

def createSale (n : NewSale) : Work DiscountStore StoreError Sale := do
  return n.withId (← (insertSale n).mapError .database)

/-- Writes the fields of a sale down, except the scope. -/
def saveSale (s : Sale) : Work DiscountStore StoreError Unit :=
  (updateSale s).mapError .database

/-- Deletes a sale that is there. -/
def removeSale (id : SaleId) : Work DiscountStore StoreError Unit := do
  if !(← (deleteSale id).mapError .database) then throw .notFound

/-- Puts a voucher into the table as given. -/
def seedVoucher (row : VoucherRow) : Statement Unit := do
  let rows ← rowsOr (.noSchema schema)
  let stored : VoucherRow := { row with
    value := row.value.stored
    minAmount := row.minAmount.map Decimal.stored }
  setRows { rows with vouchers := rows.vouchers ++ [stored] }

end DiscountStore

end BackOffice
