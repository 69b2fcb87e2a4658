import BackOffice.Discount.Scope
import BackOffice.Store.Error

/-!
# Tables of scope rows

The scopes of all discounts stand in six tables, one for each kind of discount and each kind of
catalogue entity. A table has a column for the key of a discount and one for the key of an entity,
and a row for each entity in scope (`ScopeRow`). Statements name a table and two columns of it;
what the names stand for is looked up among the tables that a migration builds
(`ScopeNames.resolve`).
-/

namespace BackOffice

/-- The kinds of discounts. -/
inductive DiscountKind where
  | voucher
  | sale
deriving DecidableEq, Repr

/-- The kinds in the order in which their tables are built. -/
def DiscountKind.all : List DiscountKind := [.voucher, .sale]

/-- The name of the table of discounts of a kind, without its schema. -/
def DiscountKind.name : DiscountKind → String
  | .voucher => "voucher"
  | .sale => "sale"

/-- The columns of a table of scope rows. -/
inductive ScopeColumn where
  /-- The key of a discount. -/
  | owner
  /-- The key of an entity. -/
  | entity
deriving DecidableEq, Repr

/-- A row of a table of scope rows. -/
structure ScopeRow where
  owner : CatalogueId
  entity : CatalogueId
deriving DecidableEq

namespace ScopeRow

def get (r : ScopeRow) : ScopeColumn → CatalogueId
  | .owner => r.owner
  | .entity => r.entity

/-- The row with a value in each column. -/
def ofFn (f : ScopeColumn → CatalogueId) : ScopeRow := ⟨f .owner, f .entity⟩

/-- The rows with new ones behind them, except those that are there. -/
def insertAll (l new : List ScopeRow) : List ScopeRow :=
  new.foldl (fun l r => if r ∈ l then l else l ++ [r]) l

end ScopeRow

/-- A table of scope rows: the scopes of one kind of discount in one kind of entity. -/
structure ScopeTable where
  discount : DiscountKind
  entity : CatalogueKind
deriving DecidableEq, Repr

namespace ScopeTable

/-- The tables in the order in which they are built. -/
def all : List ScopeTable :=
  DiscountKind.all.flatMap fun discount => CatalogueKind.all.map fun entity => ⟨discount, entity⟩

/-- The name of the table without its schema. -/
def name (t : ScopeTable) : String :=
  t.discount.name ++ "_" ++ t.entity.singular

def fullName (t : ScopeTable) : String :=
  "admin." ++ t.name

def columnName (t : ScopeTable) : ScopeColumn → String
  | .owner => t.discount.name ++ "_id"
  | .entity => t.entity.singular ++ "_id"

/-- The rule by which rows belong to a discount that exists. -/
def foreignKey (t : ScopeTable) : String :=
  t.name ++ "_" ++ t.columnName .owner ++ "_fkey"

/-- The statement that builds the table, in lines. -/
def definition (t : ScopeTable) : List String := [
  "CREATE TABLE " ++ t.fullName ++ " (",
  "    " ++ t.columnName .owner ++ " INTEGER NOT NULL REFERENCES admin." ++ t.discount.name ++
    " (id) ON DELETE CASCADE,",
  "    " ++ t.columnName .entity ++ " INTEGER NOT NULL,",
  "    PRIMARY KEY (" ++ t.columnName .owner ++ ", " ++ t.columnName .entity ++ ")",
  ");"]

/-- The table of a name, which has its schema in front. -/
def named (name : String) : Except DatabaseError ScopeTable :=
  match all.find? fun t => t.fullName = name with
  | some t => .ok t
  | none => .error (.noTable name)

/-- The column of a name; `missing` is the error if the table has none of that name. -/
def column (t : ScopeTable) (missing : ScopeTable → String → DatabaseError) (name : String) :
    Except DatabaseError ScopeColumn :=
  match [ScopeColumn.owner, .entity].find? fun c => t.columnName c = name with
  | some c => .ok c
  | none => .error (missing t name)

end ScopeTable

/-- What a statement on scope rows writes for its table, for the column of the discount and for the
column of the entity. -/
structure ScopeNames where
  table : String
  ownerColumn : String
  entityColumn : String
deriving DecidableEq

/-- What the names of a statement stand for. -/
structure ScopePlace where
  table : ScopeTable
  owner : ScopeColumn
  entity : ScopeColumn
deriving DecidableEq

/-- Looks the names of a statement up. -/
def ScopeNames.resolve (names : ScopeNames) (missing : ScopeTable → String → DatabaseError) :
    Except DatabaseError ScopePlace := do
  let table ← ScopeTable.named names.table
  let first ← table.column missing names.ownerColumn
  let second ← table.column missing names.entityColumn
  return ⟨table, first, second⟩

/-- Something for each table of scope rows. -/
structure PerScopeTable (α : Type) where
  vouchers : PerKind α
  sales : PerKind α
deriving DecidableEq

namespace PerScopeTable

variable {α : Type}

/-- What belongs to one table. -/
def get (p : PerScopeTable α) (t : ScopeTable) : α :=
  match t.discount with
  | .voucher => p.vouchers.get t.entity
  | .sale => p.sales.get t.entity

/-- The values of a function on the tables. -/
def ofFn (f : ScopeTable → α) : PerScopeTable α :=
  ⟨.ofFn fun entity => f ⟨.voucher, entity⟩, .ofFn fun entity => f ⟨.sale, entity⟩⟩

@[simp] theorem get_ofFn (f : ScopeTable → α) (t : ScopeTable) : (ofFn f).get t = f t := by
  obtain ⟨discount, entity⟩ := t
  cases discount <;> exact PerKind.get_ofFn _ entity

@[ext] theorem ext_get {p q : PerScopeTable α} (h : ∀ t, p.get t = q.get t) : p = q := by
  cases p
  cases q
  rw [mk.injEq]
  exact ⟨PerKind.ext_get fun entity => h ⟨.voucher, entity⟩,
    PerKind.ext_get fun entity => h ⟨.sale, entity⟩⟩

end PerScopeTable

end BackOffice
