import BackOffice.Proofs.DiscountWrites

/-!
# Deltas of scopes in the tables

Vouchers and sales share their numbers, and the three kinds of entities share theirs, but each
owner of a scope has a table of its own for each kind, which statements call by its name
(`DiscountRows.mem_joinTable`). Writing a delta down adds rows to the owner's tables or takes rows
out of them, for each kind on its own (`DiscountRows.get_scopes_rescoped`). It unites the owner's
scope with the delta or takes the delta out of it, repeats nothing when it is written again, and
leaves all other owners alone (`DiscountStore.delta_changes_scope_as_sets`).
-/

namespace BackOffice

namespace DiscountRows

variable {rows : DiscountRows} {owner : ScopeOwner} {kind : CatalogueKind} {x : CatalogueId}

/-- The rows of the table of scope rows with a name. -/
def joinTable (rows : DiscountRows) (table : String) : List ScopeRow :=
  match ScopeTable.named table with
  | .ok t => rows.scopes.get t
  | .error _ => []

/-- An entity is in scope if the owner's table for its kind has it beside the owner's key. -/
theorem mem_joinTable :
    ⟨owner.key, x⟩ ∈ rows.joinTable (owner.table kind) ↔ x ∈ (rows.scopeOf owner).get kind := by
  rw [mem_scopeOf, joinTable, ScopeTable.named_eq_ok_iff.2 (owner.fullName_scopeTable kind)]

end DiscountRows

/-- Inserting rows that are all there changes nothing. -/
theorem ScopeRow.insertAll_of_present {l new : List ScopeRow} (present : ∀ r ∈ new, r ∈ l) :
    insertAll l new = l := by
  unfold insertAll
  induction new with
  | nil => rfl
  | cons r new ih =>
    obtain ⟨here, later⟩ := List.forall_mem_cons.1 present
    rw [List.foldl_cons, if_pos here]
    exact ih later

namespace ScopeOp

variable {owner : CatalogueId} {ids : List CatalogueId} {l : List ScopeRow}

/-- Rows that have been inserted or deleted are not inserted or deleted again. -/
theorem rewrite_rewrite (op : ScopeOp) :
    op.rewrite owner ids (op.rewrite owner ids l) = op.rewrite owner ids l := by
  cases op with
  | add => exact ScopeRow.insertAll_of_present fun r new => ScopeRow.mem_insertAll.2 (.inr new)
  | remove =>
    rw [rewrite, rewrite, List.filter_filter]
    simp only [Bool.and_self]

/-- The rows with other keys stay, in their order. -/
theorem filter_rewrite (op : ScopeOp) :
    (op.rewrite owner ids l).filter (fun r => r.owner ≠ owner) =
      l.filter fun r => r.owner ≠ owner := by
  cases op with
  | add =>
    rw [rewrite, ScopeRow.insertAll]
    induction ids generalizing l with
    | nil => rfl
    | cons id ids ih =>
      rw [List.map_cons, List.foldl_cons, ih]
      split
      next => rfl
      next =>
        rw [List.filter_append, List.filter_singleton]
        simp only [ne_eq, not_true_eq_false, decide_false, cond_false, List.append_nil]
  | remove =>
    rw [rewrite, List.filter_filter]
    refine List.filter_congr fun r _ => ?_
    by_cases mine : r.owner = owner <;> simp [mine]

end ScopeOp

namespace DiscountRows

/-- The rows that belong to other owners stay, in their order. -/
theorem filter_rescoped (rows : DiscountRows) (owner : ScopeOwner) (op : ScopeOp)
    (delta : CatalogueLists) (t : ScopeTable) :
    ((rows.rescoped owner op delta).scopes.get t).filter (fun r => t.ownerOf r ≠ owner) =
      (rows.scopes.get t).filter fun r => t.ownerOf r ≠ owner := by
  rw [get_scopes_rescoped]
  split
  next mine =>
    have other (r : ScopeRow) : t.ownerOf r ≠ owner ↔ r.owner ≠ owner.key := by
      rw [Ne, ScopeTable.ownerOf_eq_iff, and_iff_right mine]
    simp only [other]
    exact op.filter_rewrite
  next => rfl

/-- A delta that is written down again changes no row. -/
theorem rescoped_rescoped (rows : DiscountRows) (owner : ScopeOwner) (op : ScopeOp)
    (delta : CatalogueLists) :
    (rows.rescoped owner op delta).rescoped owner op delta = rows.rescoped owner op delta := by
  have scopes : ((rows.rescoped owner op delta).rescoped owner op delta).scopes =
      (rows.rescoped owner op delta).scopes := by
    apply PerScopeTable.ext_get
    intro t
    rw [get_scopes_rescoped, get_scopes_rescoped]
    split
    · exact op.rewrite_rewrite
    · rfl
  rw [DiscountRows.mk.injEq]
  exact ⟨vouchers_rescoped .., sales_rescoped .., scopes⟩

end DiscountRows

namespace DiscountStore

open Work

variable {s : DiscountStore} {rows : DiscountRows} {owner : ScopeOwner}

/-- How a change of scope alters rows. -/
def scopeChange : ScopeOp → Change
  | .add => .insert
  | .remove => .delete

/-- A statement on scope rows is noted for the owner's table of the kind. -/
theorem changeScopeRows_run (there : s.rows = some rows) (owned : rows.hasOwner owner = true)
    (op : ScopeOp) (kind : CatalogueKind) (ids : List CatalogueId) (t : Trace) :
    changeScopeRows owner op kind ids ⟨s, t⟩ =
      (.ok (), ⟨{ s with rows := some (rows.changeScope owner kind ids op) },
        { t with writes := t.writes ++ [⟨scopeChange op, owner.table kind⟩] }⟩) := by
  cases op with
  | add =>
    change insertScopeRows (owner.names kind) owner.key ids ⟨s, t⟩ = _
    rw [insertScopeRows, InPlace.bind_apply, rowsOr_apply, there, owner.resolve_names]
    change (InPlace.settle (checkScopeRows rows (owner.names kind)
      ⟨owner.scopeTable kind, .owner, .entity⟩ (ids.map (ScopeRow.mk owner.key))) >>= fun _ =>
        setRows (rows.changeScope owner kind ids .add) : Statement Unit) _ = _
    rw [checkScopeRows_of_owned owned]
    rfl
  | remove =>
    change deleteScopeRows (owner.names kind) owner.key ids ⟨s, t⟩ = _
    rw [deleteScopeRows, InPlace.bind_apply, rowsOr_apply, there, owner.resolve_names]
    rfl

/-- The statements that write a delta down go to the owner's own tables, one for each kind that
the delta lists something of. -/
theorem writes_applyDelta (there : s.rows = some rows) (owned : rows.hasOwner owner = true)
    (op : ScopeOp) (delta : CatalogueLists) (t : Trace) :
    (applyDelta owner op delta ⟨s, t⟩).2.trace.writes =
      t.writes ++ (CatalogueKind.all.filter fun kind => !(delta.get kind).isEmpty).map fun kind =>
        ⟨scopeChange op, owner.table kind⟩ := by
  unfold applyDelta
  induction CatalogueKind.all generalizing s rows t with
  | nil => exact (List.append_nil _).symm
  | cons kind kinds ih =>
    rw [List.forM, InPlace.bind_apply]
    by_cases none : (delta.get kind).isEmpty = true
    · rw [if_pos none, List.filter_cons_of_neg (by simp [none])]
      exact ih there owned t
    · rw [if_neg none, List.filter_cons_of_pos (by simp [none]), changeScopeRows_run there owned]
      have still : (rows.changeScope owner kind (delta.get kind) op).hasOwner owner = true := by
        rwa [DiscountRows.hasOwner_changeScope]
      exact (ih (s := { s with rows := some _ }) rfl still _).trans (List.append_assoc _ _ _)

/-- **A delta is written down as union or difference, can be replayed, and stays with its owner.**
Whatever an owner's scope and whatever the delta lists, in any order and with repetitions, writing
it down succeeds and leaves in the owner's scope what was there or is listed, or what was there
and is not listed, for each kind on its own. Writing the same delta down once more succeeds and
leaves every row as it is. No other owner's scope changes, in particular not that of the sale with
a voucher's number; no other owner's row is touched, and neither is any voucher or sale. The
statements go to the owner's tables, one for each kind that the delta lists something of; an owner's
scope is what the tables of these names have beside its key, and it is what is read there by the
names of the columns. -/
theorem delta_changes_scope_as_sets (there : s.rows = some rows)
    (owned : rows.hasOwner owner = true) (op : ScopeOp) (delta : CatalogueLists) :
    ∃ rows' : DiscountRows,
      (applyDelta owner op delta).Ends s (.ok ()) { s with rows := some rows' } ∧
      (∀ kind x, x ∈ (rows'.scopeOf owner).get kind ↔
        match op with
        | .add => x ∈ (rows.scopeOf owner).get kind ∨ x ∈ delta.get kind
        | .remove => x ∈ (rows.scopeOf owner).get kind ∧ x ∉ delta.get kind) ∧
      (applyDelta owner op delta).Ends { s with rows := some rows' } (.ok ())
        { s with rows := some rows' } ∧
      (∀ other, other ≠ owner → rows'.scopeOf other = rows.scopeOf other) ∧
      (∀ t : ScopeTable, (rows'.scopes.get t).filter (fun r => t.ownerOf r ≠ owner) =
        (rows.scopes.get t).filter fun r => t.ownerOf r ≠ owner) ∧
      (∀ t, (applyDelta owner op delta ⟨s, t⟩).2.trace.writes =
        t.writes ++ (CatalogueKind.all.filter fun kind => !(delta.get kind).isEmpty).map fun kind =>
          ⟨scopeChange op, owner.table kind⟩) ∧
      (∀ (other : ScopeOwner) kind x, x ∈ (rows'.scopeOf other).get kind ↔
        ⟨other.key, x⟩ ∈ rows'.joinTable (other.table kind)) ∧
      (∀ other, (loadScope other).Ends s (.ok (rows.scopeOf other)) s) ∧
      (∀ other, (loadScope other).Ends { s with rows := some rows' } (.ok (rows'.scopeOf other))
        { s with rows := some rows' }) ∧
      rows'.vouchers = rows.vouchers ∧ rows'.sales = rows.sales := by
  refine ⟨rows.rescoped owner op delta, ends_applyDelta there owned op delta, ?_, ?_, ?_,
    rows.filter_rescoped owner op delta, writes_applyDelta there owned op delta,
    fun other kind x => DiscountRows.mem_joinTable.symm, ends_loadScope there,
    ends_loadScope rfl, rows.vouchers_rescoped owner op delta, rows.sales_rescoped owner op delta⟩
  · intro kind x
    rw [DiscountRows.mem_scopeOf_rescoped, if_pos rfl]
    cases op <;> exact Iff.rfl
  · have still : (rows.rescoped owner op delta).hasOwner owner = true := by
      rwa [DiscountRows.hasOwner_rescoped]
    have again := ends_applyDelta (s := { s with rows := some (rows.rescoped owner op delta) })
      rfl still op delta
    rwa [DiscountRows.rescoped_rescoped] at again
  · exact fun other distinct => DiscountRows.scopeOf_rescoped_of_ne distinct op delta

/-- A voucher and a sale of one number have the same product in scope. A delta that lists it twice
takes it out of the voucher's scope and leaves it in the sale's. -/
theorem delta_changes_scope_as_sets_of_twins :
    let day : Date := { year := 2026, month := 2, day := 1 }
    let voucher : VoucherRow :=
      ⟨⟨1⟩, .value, none, "TEN", none, 0, day, none, .fixed, .zero, none, []⟩
    let rows : DiscountRows := {
      vouchers := [voucher]
      sales := [⟨⟨1⟩, "Winter", .fixed, .zero, day, none⟩]
      scopes := ⟨⟨[⟨1, 7⟩, ⟨1, 8⟩], [], []⟩, ⟨[⟨1, 7⟩], [], []⟩⟩ }
    let s : DiscountStore := { rows := some rows }
    ∃ rows' : DiscountRows,
      (applyDelta (.voucher ⟨1⟩) .remove ⟨[7, 5, 7], [], [7]⟩).Ends s (.ok ())
        { s with rows := some rows' } ∧
      7 ∉ (rows'.scopeOf (.voucher ⟨1⟩)).products ∧ 8 ∈ (rows'.scopeOf (.voucher ⟨1⟩)).products ∧
      7 ∈ (rows'.scopeOf (.sale ⟨1⟩)).products := by
  intro day voucher rows s
  have there : s.rows = some rows := rfl
  have owned : rows.hasOwner (.voucher ⟨1⟩) = true := by decide
  obtain ⟨rows', ends, scope, -, others, -⟩ :=
    delta_changes_scope_as_sets there owned .remove ⟨[7, 5, 7], [], [7]⟩
  refine ⟨rows', ends, ?_, (scope .product 8).2 (by decide), ?_⟩
  · intro still
    exact ((scope .product 7).1 still).2 (by decide)
  · rw [others (.sale ⟨1⟩) (by decide)]
    decide

end DiscountStore

end BackOffice
