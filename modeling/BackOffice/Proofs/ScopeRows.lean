import BackOffice.Proofs.KeyedRows
import BackOffice.Proofs.Outcome
import BackOffice.Proofs.ScopeSets
import BackOffice.Store.Discounts

/-!
# Scope rows

The names in a statement stand for the table and the columns that are built under these names
(`ScopeNames.resolve_eq_ok_iff`). Those that are written for an owner's scope rows stand for the
owner's table, the column of its key and that of the entities (`ScopeOwner.resolve_names`), so no
two owners share a table and a key (`ScopeOwner.eq_of_table`). The entities in an owner's scope are
those that this table has beside the owner's key (`DiscountRows.mem_scopeOf`), and changes of scope
rows are followed by membership alone (`DiscountRows.mem_scopeOf_rescoped`).
-/

namespace BackOffice

theorem CatalogueKind.mem_all (kind : CatalogueKind) : kind ∈ all := by
  cases kind <;> decide

theorem ScopeRow.mem_insertAll {l new : List ScopeRow} {r : ScopeRow} :
    r ∈ insertAll l new ↔ r ∈ l ∨ r ∈ new := by
  unfold insertAll
  induction new generalizing l with
  | nil => simp
  | cons first new ih =>
    rw [List.foldl_cons, ih]
    have head : r ∈ (if first ∈ l then l else l ++ [first]) ↔ r ∈ l ∨ r = first := by
      split
      next there =>
        rw [iff_self_or]
        rintro rfl
        exact there
      next => rw [List.mem_append, List.mem_singleton]
    rw [head, List.mem_cons, or_assoc]

/-- The rows of a table after some of an owner's are inserted or deleted; a row that is there is
not inserted again. -/
def ScopeOp.rewrite (owner : CatalogueId) (ids : List CatalogueId) (l : List ScopeRow) :
    ScopeOp → List ScopeRow
  | .add => ScopeRow.insertAll l (ids.map (ScopeRow.mk owner))
  | .remove => l.filter fun r => !(r.owner = owner && ids.contains r.entity)

namespace ScopeOp

variable {owner : CatalogueId} {ids : List CatalogueId} {l : List ScopeRow}

@[simp] theorem rewrite_nil (op : ScopeOp) : op.rewrite owner [] l = l := by
  cases op with
  | add => rfl
  | remove =>
    refine List.filter_eq_self.2 fun r _ => ?_
    rw [List.contains_nil, Bool.and_false, Bool.not_false]

/-- Of the rows with the owner's key, the operation leaves what it says; all others stay. -/
theorem mem_rewrite {op : ScopeOp} {r : ScopeRow} :
    r ∈ op.rewrite owner ids l ↔
      if r.owner = owner then op.Leaves (r ∈ l) (r.entity ∈ ids) else r ∈ l := by
  have listed : r ∈ ids.map (ScopeRow.mk owner) ↔ r.owner = owner ∧ r.entity ∈ ids := by
    obtain ⟨key, entity⟩ := r
    simp [eq_comm, and_comm]
  cases op with
  | add =>
    rw [rewrite, ScopeRow.mem_insertAll, listed]
    by_cases mine : r.owner = owner <;> simp [mine, Leaves]
  | remove =>
    rw [rewrite, List.mem_filter]
    by_cases mine : r.owner = owner <;> simp [mine, Leaves]

end ScopeOp

section Names

variable {t : ScopeTable} {name : String} {missing : ScopeTable → String → DatabaseError}

theorem ScopeTable.mem_all (t : ScopeTable) : t ∈ all :=
  List.mem_flatMap.2 ⟨t.discount, by cases t.discount <;> decide,
    List.mem_map.2 ⟨t.entity, t.entity.mem_all, rfl⟩⟩

/-- A table is found by its name alone: no two tables have one name. -/
theorem ScopeTable.named_eq_ok_iff : named name = .ok t ↔ t.fullName = name := by
  rw [← Keyed.find?_eq_some_iff fullName (by decide) mem_all, named]
  cases all.find? fun t => t.fullName = name <;> simp

/-- A column is found by its name alone: the two columns of a table have different names. -/
theorem ScopeTable.column_eq_ok_iff {c : ScopeColumn} :
    t.column missing name = .ok c ↔ t.columnName c = name := by
  have distinct : ([ScopeColumn.owner, .entity].map t.columnName).Nodup := by
    obtain ⟨discount, entity⟩ := t
    cases discount <;> cases entity <;> decide
  rw [← Keyed.find?_eq_some_iff t.columnName distinct fun c => by cases c <;> decide, column]
  cases [ScopeColumn.owner, .entity].find? fun c => t.columnName c = name <;> simp

/-- The names in a statement stand for the table and the columns that have these names. -/
theorem ScopeNames.resolve_eq_ok_iff {names : ScopeNames} {place : ScopePlace} :
    names.resolve missing = .ok place ↔
      place.table.fullName = names.table ∧
        place.table.columnName place.owner = names.ownerColumn ∧
        place.table.columnName place.entity = names.entityColumn := by
  constructor
  · intro found
    obtain ⟨t, table, found⟩ := bind_eq_ok found
    obtain ⟨first, owner, found⟩ := bind_eq_ok found
    obtain ⟨second, entity, found⟩ := bind_eq_ok found
    cases found
    exact ⟨ScopeTable.named_eq_ok_iff.1 table, ScopeTable.column_eq_ok_iff.1 owner,
      ScopeTable.column_eq_ok_iff.1 entity⟩
  · rintro ⟨table, owner, entity⟩
    rw [resolve, ScopeTable.named_eq_ok_iff.2 table]
    change (do
      let first ← place.table.column missing names.ownerColumn
      let second ← place.table.column missing names.entityColumn
      return ⟨place.table, first, second⟩ : Except DatabaseError ScopePlace) = _
    rw [ScopeTable.column_eq_ok_iff.2 owner, ScopeTable.column_eq_ok_iff.2 entity]
    rfl

end Names

def ScopeOwner.discount : ScopeOwner → DiscountKind
  | .voucher _ => .voucher
  | .sale _ => .sale

/-- The table that has an owner's entities of a kind. -/
def ScopeOwner.scopeTable (owner : ScopeOwner) (kind : CatalogueKind) : ScopeTable where
  discount := owner.discount
  entity := kind

/-- A row belongs to an owner if it stands in one of the owner's tables, beside the owner's key. -/
theorem ScopeTable.ownerOf_eq_iff {t : ScopeTable} {r : ScopeRow} {owner : ScopeOwner} :
    t.ownerOf r = owner ↔ t.discount = owner.discount ∧ r.owner = owner.key := by
  obtain ⟨discount, entity⟩ := t
  cases discount with
  | voucher =>
    rcases owner with ⟨⟨key⟩⟩ | ⟨⟨key⟩⟩ <;>
      simp [ownerOf, ScopeOwner.discount, ScopeOwner.key]
  | sale =>
    rcases owner with ⟨⟨key⟩⟩ | ⟨⟨key⟩⟩ <;>
      simp [ownerOf, ScopeOwner.discount, ScopeOwner.key]

namespace ScopeOwner

theorem fullName_scopeTable (owner : ScopeOwner) (kind : CatalogueKind) :
    (owner.scopeTable kind).fullName = owner.table kind := by
  cases owner <;> cases kind <;> rfl

/-- The names for an owner's scope rows stand for the owner's table, the column with the keys of
discounts and the column with those of entities, in this order. -/
theorem resolve_names (owner : ScopeOwner) (kind : CatalogueKind)
    (missing : ScopeTable → String → DatabaseError) :
    (owner.names kind).resolve missing = .ok ⟨owner.scopeTable kind, .owner, .entity⟩ := by
  refine ScopeNames.resolve_eq_ok_iff.2 ⟨owner.fullName_scopeTable kind, ?_, ?_⟩
  · cases owner <;> rfl
  · cases kind <;> rfl

theorem ownerOf_scopeTable (owner : ScopeOwner) (kind : CatalogueKind) (x : CatalogueId) :
    (owner.scopeTable kind).ownerOf ⟨owner.key, x⟩ = owner :=
  ScopeTable.ownerOf_eq_iff.2 ⟨rfl, rfl⟩

/-- Vouchers and sales keep their scopes in different tables, and each kind has its own. A row's
table and the owner's key in it therefore tell the owner and the kind. -/
theorem eq_of_table {owner owner' : ScopeOwner} {kind kind' : CatalogueKind}
    (table : owner.table kind = owner'.table kind') (key : owner.key = owner'.key) :
    owner = owner' ∧ kind = kind' := by
  have named := ScopeTable.named_eq_ok_iff.2 (owner.fullName_scopeTable kind)
  rw [table, ScopeTable.named_eq_ok_iff.2 (owner'.fullName_scopeTable kind')] at named
  have same : owner'.scopeTable kind' = owner.scopeTable kind := Except.ok.inj named
  refine ⟨?_, congrArg ScopeTable.entity same.symm⟩
  rw [← owner.ownerOf_scopeTable kind 0, ← same, key, ownerOf_scopeTable]

end ScopeOwner

namespace DiscountRows

variable {rows : DiscountRows} {owner : ScopeOwner} {kind : CatalogueKind} {x : CatalogueId}
  {t : ScopeTable} {r : ScopeRow}

theorem not_mem_scopes_empty (t : ScopeTable) (r : ScopeRow) :
    r ∉ ({} : DiscountRows).scopes.get t := by
  obtain ⟨discount, entity⟩ := t
  cases discount <;> cases entity <;> exact List.not_mem_nil

/-- The entities of a kind in the scope of an owner. -/
def scopeIds (rows : DiscountRows) (owner : ScopeOwner) (kind : CatalogueKind) :
    List CatalogueId :=
  ((rows.scopes.get (owner.scopeTable kind)).filter fun r => r.owner = owner.key).map (·.entity)

def scopeOf (rows : DiscountRows) (owner : ScopeOwner) : CatalogueScope :=
  CatalogueScope.ofLists (PerKind.ofFn (rows.scopeIds owner))

/-- An entity is in the scope of an owner if the owner's table has it beside the owner's key. -/
theorem mem_scopeOf :
    x ∈ (rows.scopeOf owner).get kind ↔
      ⟨owner.key, x⟩ ∈ rows.scopes.get (owner.scopeTable kind) := by
  rw [scopeOf, CatalogueScope.mem_ofLists, PerKind.get_ofFn, scopeIds, List.mem_map]
  constructor
  · rintro ⟨r, member, rfl⟩
    obtain ⟨there, mine⟩ := List.mem_filter.1 member
    rwa [← of_decide_eq_true mine]
  · intro there
    exact ⟨⟨owner.key, x⟩, List.mem_filter.2 ⟨there, by simp⟩, rfl⟩

/-- Changes the scope rows of one kind. -/
def changeScope (rows : DiscountRows) (owner : ScopeOwner) (kind : CatalogueKind)
    (ids : List CatalogueId) (op : ScopeOp) : DiscountRows :=
  rows.modifyScope (owner.scopeTable kind) fun l => op.rewrite owner.key ids l

/-- Changes the scope rows of all kinds by a delta. -/
def rescope (rows : DiscountRows) (owner : ScopeOwner) (op : ScopeOp) (delta : CatalogueLists)
    (kinds : List CatalogueKind) : DiscountRows :=
  kinds.foldl (fun rows kind =>
    if (delta.get kind).isEmpty then rows else rows.changeScope owner kind (delta.get kind) op) rows

theorem get_modifyScope (rows : DiscountRows) (t : ScopeTable) (f : List ScopeRow → List ScopeRow)
    (t' : ScopeTable) :
    (rows.modifyScope t f).scopes.get t' =
      if t' = t then f (rows.scopes.get t') else rows.scopes.get t' :=
  PerScopeTable.get_ofFn _ t'

/-- The kinds of a delta are written down independently, each once. -/
theorem get_scopes_rescope {op : ScopeOp} {delta : CatalogueLists} {kinds : List CatalogueKind}
    (distinct : kinds.Nodup) :
    (rows.rescope owner op delta kinds).scopes.get t =
      if t.discount = owner.discount ∧ t.entity ∈ kinds then
        op.rewrite owner.key (delta.get t.entity) (rows.scopes.get t)
      else rows.scopes.get t := by
  induction kinds generalizing rows with
  | nil => simp [rescope]
  | cons first kinds ih =>
    obtain ⟨new, distinct⟩ := List.nodup_cons.1 distinct
    -- A kind that is passed over because nothing is listed is rewritten to what it was.
    have head : (if (delta.get first).isEmpty then rows
        else rows.changeScope owner first (delta.get first) op).scopes.get t =
          if t = owner.scopeTable first then
            op.rewrite owner.key (delta.get t.entity) (rows.scopes.get t)
          else rows.scopes.get t := by
      split
      next none =>
        split
        next here =>
          have entity : t.entity = first := congrArg ScopeTable.entity here
          rw [entity, List.isEmpty_iff.1 none, ScopeOp.rewrite_nil]
        next => rfl
      next =>
        rw [changeScope, get_modifyScope]
        split
        next here => rw [here, ScopeOwner.scopeTable]
        next => rfl
    rw [rescope, List.foldl_cons, ← rescope, ih distinct, head]
    have here : t = owner.scopeTable first ↔ t.discount = owner.discount ∧ t.entity = first := by
      rw [ScopeOwner.scopeTable, ScopeTable.mk.injEq]
    by_cases first' : t.entity = first
    · simp [here, first', new]
    · simp [here, first']

/-- The rows after the whole of a delta. -/
def rescoped (rows : DiscountRows) (owner : ScopeOwner) (op : ScopeOp) (delta : CatalogueLists) :
    DiscountRows :=
  rows.rescope owner op delta CatalogueKind.all

theorem get_scopes_rescoped (rows : DiscountRows) (owner : ScopeOwner) (op : ScopeOp)
    (delta : CatalogueLists) (t : ScopeTable) :
    (rows.rescoped owner op delta).scopes.get t =
      if t.discount = owner.discount then
        op.rewrite owner.key (delta.get t.entity) (rows.scopes.get t)
      else rows.scopes.get t := by
  rw [rescoped, get_scopes_rescope (by decide)]
  simp only [t.entity.mem_all, and_true]

theorem mem_rescoped {op : ScopeOp} {delta : CatalogueLists} :
    r ∈ (rows.rescoped owner op delta).scopes.get t ↔
      if t.ownerOf r = owner then op.Leaves (r ∈ rows.scopes.get t) (r.entity ∈ delta.get t.entity)
      else r ∈ rows.scopes.get t := by
  rw [get_scopes_rescoped]
  by_cases mine : t.discount = owner.discount
  · rw [if_pos mine, ScopeOp.mem_rewrite]
    simp only [ScopeTable.ownerOf_eq_iff, mine, true_and]
  · rw [if_neg mine, if_neg fun belongs => mine (ScopeTable.ownerOf_eq_iff.1 belongs).1]

theorem mem_scopeOf_rescoped {op : ScopeOp} {delta : CatalogueLists} {owner' : ScopeOwner} :
    x ∈ ((rows.rescoped owner op delta).scopeOf owner').get kind ↔
      if owner' = owner then op.Leaves (x ∈ (rows.scopeOf owner').get kind) (x ∈ delta.get kind)
      else x ∈ (rows.scopeOf owner').get kind := by
  rw [mem_scopeOf, mem_rescoped, mem_scopeOf, ScopeOwner.ownerOf_scopeTable]
  rfl

/-- The delta of a change gives the owner the scope that the change leads to. -/
theorem scopeOf_rescoped_delta (rows : DiscountRows) (owner : ScopeOwner) (op : ScopeOp)
    (l : CatalogueLists) :
    (rows.rescoped owner op ((rows.scopeOf owner).apply op l).2).scopeOf owner =
      ((rows.scopeOf owner).apply op l).1 := by
  apply CatalogueScope.ext_mem
  intro kind x
  rw [mem_scopeOf_rescoped, if_pos rfl]
  exact CatalogueScope.leaves_delta _ _ _

/-- What is added to an owner without a scope becomes its scope. -/
theorem scopeOf_rescoped_of_empty (empty : rows.scopeOf owner = .empty) (l : CatalogueLists) :
    (rows.rescoped owner .add l).scopeOf owner = .ofLists l := by
  apply CatalogueScope.ext_mem
  intro kind x
  rw [mem_scopeOf_rescoped, if_pos rfl, empty, CatalogueScope.mem_ofLists]
  exact or_iff_right CatalogueScope.mem_empty

theorem scopeOf_rescoped_of_ne {owner' : ScopeOwner} (other : owner' ≠ owner) (op : ScopeOp)
    (delta : CatalogueLists) :
    (rows.rescoped owner op delta).scopeOf owner' = rows.scopeOf owner' := by
  apply CatalogueScope.ext_mem
  intro kind x
  rw [mem_scopeOf_rescoped, if_neg other]

theorem mem_clearScope :
    r ∈ (rows.clearScope owner).scopes.get t ↔ r ∈ rows.scopes.get t ∧ t.ownerOf r ≠ owner := by
  rw [clearScope, PerScopeTable.get_ofFn, List.mem_filter, decide_eq_true_eq]

theorem scopeOf_clearScope_of_ne {owner' : ScopeOwner} (other : owner' ≠ owner) :
    (rows.clearScope owner).scopeOf owner' = rows.scopeOf owner' := by
  apply CatalogueScope.ext_mem
  intro kind x
  rw [mem_scopeOf, mem_scopeOf, mem_clearScope, ScopeOwner.ownerOf_scopeTable,
    and_iff_left other]

theorem rows_rescope (rows : DiscountRows) (owner : ScopeOwner) (op : ScopeOp)
    (delta : CatalogueLists) (kinds : List CatalogueKind) :
    (rows.rescope owner op delta kinds).vouchers = rows.vouchers ∧
      (rows.rescope owner op delta kinds).sales = rows.sales := by
  induction kinds generalizing rows with
  | nil => exact ⟨rfl, rfl⟩
  | cons kind kinds ih =>
    obtain ⟨vouchers, sales⟩ := ih (if (delta.get kind).isEmpty then rows
      else rows.changeScope owner kind (delta.get kind) op)
    rw [rescope, List.foldl_cons, ← rescope, vouchers, sales]
    split <;> exact ⟨rfl, rfl⟩

theorem hasOwner_congr {rows rows' : DiscountRows} (vouchers : rows'.vouchers = rows.vouchers)
    (sales : rows'.sales = rows.sales) (owner : ScopeOwner) :
    rows'.hasOwner owner = rows.hasOwner owner := by
  cases owner with
  | voucher id => rw [hasOwner, voucher?, vouchers]; rfl
  | sale id => rw [hasOwner, sale?, sales]; rfl

theorem hasOwner_changeScope (rows : DiscountRows) (owner : ScopeOwner) (kind : CatalogueKind)
    (ids : List CatalogueId) (op : ScopeOp) (owner' : ScopeOwner) :
    (rows.changeScope owner kind ids op).hasOwner owner' = rows.hasOwner owner' :=
  hasOwner_congr rfl rfl owner'

theorem vouchers_rescoped (rows : DiscountRows) (owner : ScopeOwner) (op : ScopeOp)
    (delta : CatalogueLists) : (rows.rescoped owner op delta).vouchers = rows.vouchers :=
  (rows.rows_rescope owner op delta CatalogueKind.all).1

theorem sales_rescoped (rows : DiscountRows) (owner : ScopeOwner) (op : ScopeOp)
    (delta : CatalogueLists) : (rows.rescoped owner op delta).sales = rows.sales :=
  (rows.rows_rescope owner op delta CatalogueKind.all).2

theorem hasOwner_rescoped (rows : DiscountRows) (owner : ScopeOwner) (op : ScopeOp)
    (delta : CatalogueLists) (owner' : ScopeOwner) :
    (rows.rescoped owner op delta).hasOwner owner' = rows.hasOwner owner' :=
  hasOwner_congr (rows.vouchers_rescoped owner op delta) (rows.sales_rescoped owner op delta) owner'

end DiscountRows

end BackOffice
