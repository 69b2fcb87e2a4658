import BackOffice.Proofs.DiscountRules
import BackOffice.Proofs.KeyedRows
import BackOffice.Proofs.ScopeRows

/-!
# What the tables of discounts hold

The rows that keep the database's rules (`DiscountRows.Kept`) hold a voucher for each voucher's
key and a sale for each sale's (`DiscountRows.voucherAt?`, `DiscountRows.saleAt?`), each with the
entities in its scope. For each way in which the rows are changed there is one equation for what
they hold afterwards.
-/

namespace BackOffice

open Discount

section Rows

/-- The row that keeps a voucher, with its uses as the column holds them. -/
def Voucher.row (v : Voucher) (used : Int32) : VoucherRow where
  id := v.id
  type := v.type
  name := v.name
  code := v.code.text
  usageLimit := v.usageLimit.map UInt32.toInt32
  used := used
  startDate := v.startDate
  endDate := v.endDate
  valueType := v.valueType
  value := v.value.stored
  minAmount := v.minAmount.map Decimal.stored
  countries := v.countries

/-- The row that keeps a sale. -/
def Sale.row (s : Sale) : SaleRow where
  id := s.id
  name := s.name
  valueType := s.valueType
  value := s.value.stored
  startDate := s.startDate
  endDate := s.endDate

/-- The counts of a row can be read. -/
structure VoucherRow.Countable (r : VoucherRow) : Prop where
  usageLimit : r.usageLimit.any (· < 0) = false
  used : ¬r.used < 0

/-- The voucher of a row whose counts can be read. -/
def VoucherRow.voucher (r : VoucherRow) (scope : CatalogueScope) : Voucher where
  id := r.id
  type := r.type
  name := r.name
  code := ⟨r.code⟩
  usageLimit := r.usageLimit.map Int32.toUInt32
  used := r.used.toUInt32
  startDate := r.startDate
  endDate := r.endDate
  valueType := r.valueType
  value := r.value
  minAmount := r.minAmount
  countries := r.countries
  scope := scope

theorem VoucherRow.Countable.toVoucher {r : VoucherRow} (countable : r.Countable)
    (scope : CatalogueScope) : r.toVoucher scope = .ok (r.voucher scope) := by
  have used : readCount r.id "use count" r.used = .ok r.used.toUInt32 := if_neg countable.used
  have limit : r.usageLimit.mapM (readCount r.id "usage limit") =
      .ok (r.usageLimit.map Int32.toUInt32) := by
    cases known : r.usageLimit with
    | none => rfl
    | some n =>
      have nonneg := countable.usageLimit
      rw [known, Option.any_some, decide_eq_false_iff_not] at nonneg
      simp only [Option.mapM_some, readCount, if_neg nonneg]
      rfl
  rw [VoucherRow.toVoucher, limit, used]
  rfl

/-- A voucher is read back from its row as the same voucher. -/
theorem Voucher.same_row (v : Voucher) (used : Int32) (scope : CatalogueScope) :
    ({ v with used := used.toUInt32, scope } : Voucher).Same ((v.row used).voucher scope) := by
  have limit : (v.usageLimit.map UInt32.toInt32).map Int32.toUInt32 = v.usageLimit := by
    cases v.usageLimit <;> rfl
  refine ⟨v.value.same_stored, Decimal.rel_stored v.minAmount, ?_⟩
  simp only [Voucher.row, VoucherRow.voucher, limit]

theorem Sale.same_row (s : Sale) (scope : CatalogueScope) :
    ({ s with scope } : Sale).Same (s.row.toSale scope) :=
  ⟨s.value.same_stored, rfl⟩

/-- A count that fits its column is read back as not negative. -/
theorem toInt32_nonneg {count : UInt32} (fits : count.toNat ≤ DiscountStore.maxCount) :
    ¬count.toInt32 < 0 := by
  unfold DiscountStore.maxCount at fits
  have value : count.toInt32.toInt = count.toNat := by
    rw [Int32.toInt, UInt32.toInt32, BitVec.toInt_eq_toNat_of_lt]
    · rfl
    · change 2 * count.toNat < _
      omega
  rw [Int32.lt_iff_toInt_lt, value]
  exact Int.not_lt.2 (Int.natCast_nonneg _)

/-- The voucher's limit fits its column. -/
def Voucher.Fits (v : Voucher) : Prop :=
  v.usageLimit.all (·.toNat ≤ DiscountStore.maxCount) = true

instance (v : Voucher) : Decidable v.Fits :=
  inferInstanceAs (Decidable (_ = _))

theorem Voucher.Fits.countable {v : Voucher} (fits : v.Fits) {used : Int32} (nonneg : ¬used < 0) :
    (v.row used).Countable := by
  refine ⟨?_, nonneg⟩
  rw [Voucher.row]
  cases known : v.usageLimit with
  | none => rfl
  | some n =>
    rw [Voucher.Fits, known, Option.all_some, decide_eq_true_eq] at fits
    simpa using toInt32_nonneg fits

/-- The row of a voucher that passes the rules breaks none of the table's. -/
theorem Voucher.brokenRule?_row {v : Voucher} (passes : v.check = .ok ()) {used : Int32}
    (countable : (v.row used).Countable) : (v.row used).brokenRule? = none := by
  obtain ⟨_, value, passes⟩ := bind_eq_ok passes
  obtain ⟨_, window, passes⟩ := bind_eq_ok passes
  obtain ⟨_, minimum, -⟩ := bind_eq_ok passes
  rw [checkValue_congr v.value.same_stored] at value
  rw [checkMinimum_congr (Decimal.rel_stored v.minAmount)] at minimum
  have window : (v.row used).endDate.any (· < (v.row used).startDate) = false :=
    checkWindow_ok window
  have value : ¬(v.row used).value < Decimal.zero := checkValue_ok value
  have minimum : (v.row used).minAmount.any (· < Decimal.zero) = false := checkMinimum_ok minimum
  simp only [VoucherRow.brokenRule?, window, value, minimum, countable.usageLimit, countable.used,
    Bool.false_eq_true, ↓reduceIte]

theorem Sale.brokenRule?_row {s : Sale} (passes : s.check = .ok ()) :
    s.row.brokenRule? = none := by
  obtain ⟨_, value, window⟩ := bind_eq_ok passes
  rw [checkValue_congr s.value.same_stored] at value
  have window : s.row.endDate.any (· < s.row.startDate) = false := checkWindow_ok window
  have value : ¬s.row.value < Decimal.zero := checkValue_ok value
  simp only [SaleRow.brokenRule?, window, value, Bool.false_eq_true, ↓reduceIte]

end Rows

namespace DiscountRows

variable {rows : DiscountRows}

/-- The voucher that the rows hold for a key. -/
def voucherAt? (rows : DiscountRows) (id : VoucherId) : Option Voucher :=
  (rows.voucher? id).map fun r => r.voucher (rows.scopeOf (.voucher id))

/-- The sale that the rows hold for a key. -/
def saleAt? (rows : DiscountRows) (id : SaleId) : Option Sale :=
  (rows.sale? id).map fun r => r.toSale (rows.scopeOf (.sale id))

/-- Whether a voucher of another key has a code. -/
def codeTaken (rows : DiscountRows) (id : VoucherId) (code : String) : Bool :=
  rows.vouchers.any fun r => r.id ≠ id ∧ r.code = code

/-- What keys, unique codes, checks and foreign keys keep true of the rows. -/
structure Kept (rows : DiscountRows) : Prop where
  vouchers_distinct : (rows.vouchers.map (·.id)).Nodup
  codes_distinct : (rows.vouchers.map (·.code)).Nodup
  countable : ∀ r ∈ rows.vouchers, r.Countable
  owner_exists : ∀ t, ∀ r ∈ rows.scopes.get t, rows.hasOwner (t.ownerOf r) = true

theorem kept_empty : ({} : DiscountRows).Kept where
  vouchers_distinct := List.nodup_nil
  codes_distinct := List.nodup_nil
  countable _ there := by cases there
  owner_exists t r there := (not_mem_scopes_empty t r there).elim

theorem voucherAt?_empty (id : VoucherId) : ({} : DiscountRows).voucherAt? id = none := rfl

theorem saleAt?_empty (id : SaleId) : ({} : DiscountRows).saleAt? id = none := rfl

theorem id_of_voucher? {id : VoucherId} {r : VoucherRow} (found : rows.voucher? id = some r) :
    r.id = id :=
  Keyed.key_of_find? VoucherRow.id found

theorem id_of_sale? {id : SaleId} {r : SaleRow} (found : rows.sale? id = some r) : r.id = id :=
  Keyed.key_of_find? SaleRow.id found

theorem id_of_voucherAt? {id : VoucherId} {v : Voucher} (found : rows.voucherAt? id = some v) :
    v.id = id := by
  obtain ⟨r, row, rfl⟩ := Option.map_eq_some_iff.1 found
  exact id_of_voucher? row

theorem id_of_saleAt? {id : SaleId} {s : Sale} (found : rows.saleAt? id = some s) : s.id = id := by
  obtain ⟨r, row, rfl⟩ := Option.map_eq_some_iff.1 found
  exact id_of_sale? row

theorem voucherAt?_eq_none_iff {id : VoucherId} :
    rows.voucherAt? id = none ↔ rows.voucher? id = none :=
  Option.map_eq_none_iff

theorem saleAt?_eq_none_iff {id : SaleId} : rows.saleAt? id = none ↔ rows.sale? id = none :=
  Option.map_eq_none_iff

section Scope

variable {owner : ScopeOwner}

/-- An owner that does not exist has an empty scope. -/
theorem Kept.scopeOf_of_absent (kept : rows.Kept) (absent : rows.hasOwner owner = false) :
    rows.scopeOf owner = .empty := by
  apply CatalogueScope.ext_mem
  intro kind x
  rw [mem_scopeOf, iff_false_right CatalogueScope.mem_empty]
  intro there
  have owned := kept.owner_exists _ _ there
  rw [ScopeOwner.ownerOf_scopeTable, absent] at owned
  cases owned

/-- Owners stay there as long as vouchers and sales do. -/
theorem hasOwner_mono (rows rows' : DiscountRows)
    (vouchers : ∀ id, (rows.voucher? id).isSome → (rows'.voucher? id).isSome)
    (sales : ∀ id, (rows.sale? id).isSome → (rows'.sale? id).isSome) {owner : ScopeOwner}
    (owned : rows.hasOwner owner = true) : rows'.hasOwner owner = true := by
  cases owner with
  | voucher id => exact vouchers id owned
  | sale id => exact sales id owned

/-- A change of an owner's scope keeps the rules if the owner is there. -/
theorem Kept.rescoped (kept : rows.Kept) (there : rows.hasOwner owner = true) (op : ScopeOp)
    (delta : CatalogueLists) : (rows.rescoped owner op delta).Kept where
  vouchers_distinct := by
    rw [vouchers_rescoped]
    exact kept.vouchers_distinct
  codes_distinct := by
    rw [vouchers_rescoped]
    exact kept.codes_distinct
  countable := by
    rw [vouchers_rescoped]
    exact kept.countable
  owner_exists t r member := by
    rw [hasOwner_rescoped]
    rw [mem_rescoped] at member
    split at member
    next here => rwa [here]
    next => exact kept.owner_exists t r member

theorem voucherAt?_rescoped (op : ScopeOp) (delta : CatalogueLists) (id : VoucherId) :
    (rows.rescoped owner op delta).voucherAt? id =
      (rows.voucher? id).map fun r =>
        r.voucher ((rows.rescoped owner op delta).scopeOf (.voucher id)) := by
  rw [voucherAt?, voucher?, vouchers_rescoped]
  rfl

theorem saleAt?_rescoped (op : ScopeOp) (delta : CatalogueLists) (id : SaleId) :
    (rows.rescoped owner op delta).saleAt? id =
      (rows.sale? id).map fun r =>
        r.toSale ((rows.rescoped owner op delta).scopeOf (.sale id)) := by
  rw [saleAt?, sale?, sales_rescoped]
  rfl

theorem voucherAt?_rescoped_of_ne {id : VoucherId} (other : ScopeOwner.voucher id ≠ owner)
    (op : ScopeOp) (delta : CatalogueLists) :
    (rows.rescoped owner op delta).voucherAt? id = rows.voucherAt? id := by
  rw [voucherAt?_rescoped, scopeOf_rescoped_of_ne other]
  rfl

theorem saleAt?_rescoped_of_ne {id : SaleId} (other : ScopeOwner.sale id ≠ owner) (op : ScopeOp)
    (delta : CatalogueLists) :
    (rows.rescoped owner op delta).saleAt? id = rows.saleAt? id := by
  rw [saleAt?_rescoped, scopeOf_rescoped_of_ne other]
  rfl

/-- Writing the delta of a change down changes the voucher that the rows hold, and no other. -/
theorem voucherAt?_rescoped_delta {id : VoucherId} {v : Voucher}
    (found : rows.voucherAt? id = some v) (op : ScopeOp) (l : CatalogueLists) (id' : VoucherId) :
    (rows.rescoped (.voucher id) op (v.changeScope op l).2).voucherAt? id' =
      if id' = id then some (v.changeScope op l).1 else rows.voucherAt? id' := by
  obtain ⟨r, row, rfl⟩ := Option.map_eq_some_iff.1 found
  by_cases same : id' = id
  · have scope := rows.scopeOf_rescoped_delta (.voucher id) op l
    rw [if_pos same, same, voucherAt?_rescoped, row, Option.map_some]
    exact congrArg (fun scope => some (r.voucher scope)) scope
  · rw [if_neg same]
    exact voucherAt?_rescoped_of_ne (by simpa using same) op _

theorem saleAt?_rescoped_delta {id : SaleId} {s : Sale} (found : rows.saleAt? id = some s)
    (op : ScopeOp) (l : CatalogueLists) (id' : SaleId) :
    (rows.rescoped (.sale id) op (s.changeScope op l).2).saleAt? id' =
      if id' = id then some (s.changeScope op l).1 else rows.saleAt? id' := by
  obtain ⟨r, row, rfl⟩ := Option.map_eq_some_iff.1 found
  by_cases same : id' = id
  · have scope := rows.scopeOf_rescoped_delta (.sale id) op l
    rw [if_pos same, same, saleAt?_rescoped, row, Option.map_some]
    exact congrArg (fun scope => some (r.toSale scope)) scope
  · rw [if_neg same]
    exact saleAt?_rescoped_of_ne (by simpa using same) op _

end Scope

section Codes

theorem Kept.voucherAt?_of_mem (kept : rows.Kept) {r : VoucherRow} (member : r ∈ rows.vouchers) :
    rows.voucherAt? r.id = some (r.voucher (rows.scopeOf (.voucher r.id))) := by
  rw [voucherAt?, voucher?,
    Keyed.find?_of_mem VoucherRow.id kept.vouchers_distinct member, Option.map_some]

theorem Kept.codeTaken_iff (kept : rows.Kept) {id : VoucherId} {code : VoucherCode} :
    rows.codeTaken id code.text = true ↔
      ∃ id' v, rows.voucherAt? id' = some v ∧ id' ≠ id ∧ v.code = code := by
  rw [codeTaken, List.any_eq_true]
  constructor
  · rintro ⟨r, member, taken⟩
    obtain ⟨other, same⟩ := of_decide_eq_true taken
    exact ⟨r.id, _, kept.voucherAt?_of_mem member, other, congrArg VoucherCode.mk same⟩
  · rintro ⟨id', v, found, other, rfl⟩
    obtain ⟨r, row, rfl⟩ := Option.map_eq_some_iff.1 found
    rw [← id_of_voucher? row] at other
    exact ⟨r, List.mem_of_find?_eq_some row, decide_eq_true ⟨other, rfl⟩⟩

/-- A code names one voucher. -/
theorem Kept.id_eq_of_code (kept : rows.Kept) {id id' : VoucherId} {v v' : Voucher}
    (found : rows.voucherAt? id = some v) (found' : rows.voucherAt? id' = some v')
    (same : v.code = v'.code) : id = id' := by
  obtain ⟨r, row, rfl⟩ := Option.map_eq_some_iff.1 found
  obtain ⟨r', row', rfl⟩ := Option.map_eq_some_iff.1 found'
  have rows_eq : r = r' := List.inj_on_of_nodup_map kept.codes_distinct
    (List.mem_of_find?_eq_some row) (List.mem_of_find?_eq_some row')
    (congrArg VoucherCode.text same)
  rw [← id_of_voucher? row, ← id_of_voucher? row', rows_eq]

end Codes

section Vouchers

/-- The rows with another voucher, which has no scope. -/
def addVoucher (rows : DiscountRows) (r : VoucherRow) : DiscountRows :=
  { rows with vouchers := rows.vouchers ++ [r] }

/-- The rows with a voucher's row put in place of the one with its key. -/
def putVoucher (rows : DiscountRows) (r : VoucherRow) : DiscountRows :=
  { rows with vouchers := rows.vouchers.map fun old => if old.id = r.id then r else old }

/-- The rows without a voucher and its scope. -/
def dropVoucher (rows : DiscountRows) (id : VoucherId) : DiscountRows :=
  { rows with vouchers := rows.vouchers.filter fun r => r.id ≠ id }.clearScope (.voucher id)

variable {r : VoucherRow}

theorem voucher?_addVoucher (new : rows.voucher? r.id = none) (id : VoucherId) :
    (rows.addVoucher r).voucher? id = if id = r.id then some r else rows.voucher? id :=
  Keyed.find?_append VoucherRow.id new id

theorem voucher?_putVoucher (rows : DiscountRows) (r : VoucherRow) (id : VoucherId) :
    (rows.putVoucher r).voucher? id =
      if id = r.id then (rows.voucher? r.id).map fun _ => r else rows.voucher? id :=
  Keyed.find?_modify VoucherRow.id rows.vouchers r.id (f := fun _ => r) (fun _ _ => rfl) id

theorem voucher?_dropVoucher (rows : DiscountRows) (id id' : VoucherId) :
    (rows.dropVoucher id).voucher? id' = if id' = id then none else rows.voucher? id' :=
  Keyed.find?_filter_ne VoucherRow.id rows.vouchers id id'

theorem voucherAt?_addVoucher (new : rows.voucher? r.id = none) (id : VoucherId) :
    (rows.addVoucher r).voucherAt? id =
      if id = r.id then some (r.voucher (rows.scopeOf (.voucher r.id)))
      else rows.voucherAt? id := by
  rw [voucherAt?, voucher?_addVoucher new]
  split
  next same => rw [same]; rfl
  next => rfl

theorem voucherAt?_putVoucher (there : (rows.voucher? r.id).isSome) (id : VoucherId) :
    (rows.putVoucher r).voucherAt? id =
      if id = r.id then some (r.voucher (rows.scopeOf (.voucher r.id)))
      else rows.voucherAt? id := by
  obtain ⟨old, row⟩ := Option.isSome_iff_exists.1 there
  rw [voucherAt?, voucher?_putVoucher]
  split
  next same => rw [same, row]; rfl
  next => rfl

theorem voucherAt?_dropVoucher (rows : DiscountRows) (id id' : VoucherId) :
    (rows.dropVoucher id).voucherAt? id' = if id' = id then none else rows.voucherAt? id' := by
  rw [voucherAt?, voucher?_dropVoucher]
  split
  next => rfl
  next other =>
    rw [dropVoucher, scopeOf_clearScope_of_ne (by simpa using other)]
    rfl

theorem saleAt?_dropVoucher (rows : DiscountRows) (id : VoucherId) (id' : SaleId) :
    (rows.dropVoucher id).saleAt? id' = rows.saleAt? id' := by
  rw [saleAt?, dropVoucher, scopeOf_clearScope_of_ne (by simp)]
  rfl

theorem codeTaken_eq_false_iff {id : VoucherId} {code : String} :
    rows.codeTaken id code = false ↔ ∀ r ∈ rows.vouchers, r.code = code → r.id = id := by
  rw [codeTaken, List.any_eq_false]
  refine forall₂_congr fun r _ => ?_
  rw [decide_eq_true_eq, not_and_or, ne_eq, Decidable.not_not, ← imp_iff_or_not]

/-- A new voucher whose code is free keeps the rules. -/
theorem Kept.addVoucher (kept : rows.Kept) (new : rows.voucher? r.id = none)
    (countable : r.Countable) (free : rows.codeTaken r.id r.code = false) :
    (rows.addVoucher r).Kept where
  vouchers_distinct := by
    rw [DiscountRows.addVoucher, List.map_append, List.map_singleton]
    refine kept.vouchers_distinct.append (List.nodup_singleton _) ?_
    rw [List.disjoint_singleton]
    exact (Keyed.find?_eq_none_iff VoucherRow.id).1 new
  codes_distinct := by
    rw [DiscountRows.addVoucher, List.map_append, List.map_singleton]
    refine kept.codes_distinct.append (List.nodup_singleton _) ?_
    rw [List.disjoint_singleton]
    intro repeated
    obtain ⟨other, there, same⟩ := List.mem_map.1 repeated
    have id := codeTaken_eq_false_iff.1 free other there same
    exact (Keyed.find?_eq_none_iff VoucherRow.id).1 new (List.mem_map.2 ⟨other, there, id⟩)
  countable r' member := by
    rcases List.mem_append.1 member with before | here
    · exact kept.countable r' before
    · rwa [List.mem_singleton.1 here]
  owner_exists t e member := by
    refine hasOwner_mono rows (rows.addVoucher r) (fun id there => ?_) (fun _ => id)
      (kept.owner_exists t e member)
    rw [voucher?_addVoucher new]
    split
    · rfl
    · exact there

/-- A changed voucher whose code no other voucher has keeps the rules. -/
theorem Kept.putVoucher (kept : rows.Kept) (countable : r.Countable)
    (free : rows.codeTaken r.id r.code = false) : (rows.putVoucher r).Kept where
  vouchers_distinct := by
    rw [DiscountRows.putVoucher, Keyed.map_modify VoucherRow.id rows.vouchers
      (f := fun _ => r) fun _ _ => rfl]
    exact kept.vouchers_distinct
  codes_distinct := by
    rw [DiscountRows.putVoucher, List.map_map]
    refine kept.vouchers_distinct.of_map.map_on ?_
    intro first there second there' same
    have free := codeTaken_eq_false_iff.1 free
    simp only [Function.comp_apply] at same
    by_cases here : first.id = r.id
    · by_cases here' : second.id = r.id
      · exact List.inj_on_of_nodup_map kept.vouchers_distinct there there' (here.trans here'.symm)
      · rw [if_pos here, if_neg here'] at same
        exact (here' (free second there' same.symm)).elim
    · by_cases here' : second.id = r.id
      · rw [if_neg here, if_pos here'] at same
        exact (here (free first there same)).elim
      · rw [if_neg here, if_neg here'] at same
        exact List.inj_on_of_nodup_map kept.codes_distinct there there' same
  countable r' member := by
    obtain ⟨old, there, here⟩ := List.mem_map.1 member
    rw [← here]
    split
    · exact countable
    · exact kept.countable old there
  owner_exists t e member := by
    refine hasOwner_mono rows (rows.putVoucher r) (fun id there => ?_) (fun _ => id)
      (kept.owner_exists t e member)
    rw [voucher?_putVoucher]
    split
    next same => rwa [Option.isSome_map, ← same]
    next => exact there

theorem Kept.dropVoucher (kept : rows.Kept) (id : VoucherId) : (rows.dropVoucher id).Kept where
  vouchers_distinct := kept.vouchers_distinct.sublist (List.filter_sublist.map _)
  codes_distinct := kept.codes_distinct.sublist (List.filter_sublist.map _)
  countable r member := kept.countable r (List.mem_filter.1 member).1
  owner_exists t e member := by
    obtain ⟨before, other⟩ := mem_clearScope.1 member
    have owned := kept.owner_exists t e before
    cases owner : t.ownerOf e with
    | voucher id' =>
      rw [owner] at owned other
      rw [hasOwner, voucher?_dropVoucher, if_neg (by simpa using other)]
      exact owned
    | sale id' =>
      rw [owner] at owned
      exact owned

theorem hasOwner_addVoucher (new : rows.voucher? r.id = none) :
    (rows.addVoucher r).hasOwner (.voucher r.id) = true := by
  rw [hasOwner, voucher?_addVoucher new, if_pos rfl, Option.isSome_some]

/-- Adding a voucher's row and its scope makes the rows hold the voucher. -/
theorem Kept.exists_voucherAt?_new (kept : rows.Kept) {n : NewVoucher} {id : VoucherId}
    (new : rows.voucher? id = none) :
    ∃ w, w.Same (n.withId id) ∧ ∀ id',
      ((rows.addVoucher ((n.withId id).row 0)).rescoped (.voucher id) .add n.scope).voucherAt? id' =
        if id' = id then some w else rows.voucherAt? id' := by
  have same : (n.withId id).Same (((n.withId id).row 0).voucher (.ofLists n.scope)) :=
    (n.withId id).same_row 0 (.ofLists n.scope)
  have absent : rows.hasOwner (.voucher id) = false := by rw [hasOwner, new]; rfl
  have empty : (rows.addVoucher ((n.withId id).row 0)).scopeOf (.voucher id) = .empty :=
    kept.scopeOf_of_absent absent
  have scope := scopeOf_rescoped_of_empty empty n.scope
  refine ⟨_, same.symm, fun id' => ?_⟩
  by_cases here : id' = id
  · rw [if_pos here, here, voucherAt?_rescoped, scope, voucher?_addVoucher new]
    simp only [Voucher.row, NewVoucher.withId, ↓reduceIte, Option.map_some]
  · rw [if_neg here, voucherAt?_rescoped_of_ne (by simpa using here), voucherAt?_addVoucher new]
    exact if_neg here

/-- Saving a voucher's row makes the rows hold the voucher, if its uses and scope are those there.
-/
theorem exists_voucherAt?_putVoucher {v : Voucher} {old : VoucherRow}
    (row : rows.voucher? v.id = some old) (used : v.used = old.used.toUInt32)
    (scope : v.scope = rows.scopeOf (.voucher v.id)) :
    ∃ w, w.Same v ∧ ∀ id, (rows.putVoucher (v.row old.used)).voucherAt? id =
      if id = v.id then some w else rows.voucherAt? id := by
  have same := v.same_row old.used (rows.scopeOf (.voucher v.id))
  rw [← used, ← scope] at same
  have there : (rows.voucher? (v.row old.used).id).isSome := by
    rw [Voucher.row, row, Option.isSome_some]
  refine ⟨_, same.symm, fun id => ?_⟩
  rw [voucherAt?_putVoucher there, scope]
  rfl

end Vouchers

section Sales

/-- The rows with another sale, which has no scope. -/
def addSale (rows : DiscountRows) (r : SaleRow) : DiscountRows :=
  { rows with sales := rows.sales ++ [r] }

/-- The rows with a sale's row put in place of the one with its key. -/
def putSale (rows : DiscountRows) (r : SaleRow) : DiscountRows :=
  { rows with sales := rows.sales.map fun old => if old.id = r.id then r else old }

/-- The rows without a sale and its scope. -/
def dropSale (rows : DiscountRows) (id : SaleId) : DiscountRows :=
  { rows with sales := rows.sales.filter fun r => r.id ≠ id }.clearScope (.sale id)

variable {r : SaleRow}

theorem sale?_addSale (new : rows.sale? r.id = none) (id : SaleId) :
    (rows.addSale r).sale? id = if id = r.id then some r else rows.sale? id :=
  Keyed.find?_append SaleRow.id new id

theorem sale?_putSale (rows : DiscountRows) (r : SaleRow) (id : SaleId) :
    (rows.putSale r).sale? id =
      if id = r.id then (rows.sale? r.id).map fun _ => r else rows.sale? id :=
  Keyed.find?_modify SaleRow.id rows.sales r.id (f := fun _ => r) (fun _ _ => rfl) id

theorem sale?_dropSale (rows : DiscountRows) (id id' : SaleId) :
    (rows.dropSale id).sale? id' = if id' = id then none else rows.sale? id' :=
  Keyed.find?_filter_ne SaleRow.id rows.sales id id'

theorem saleAt?_addSale (new : rows.sale? r.id = none) (id : SaleId) :
    (rows.addSale r).saleAt? id =
      if id = r.id then some (r.toSale (rows.scopeOf (.sale r.id))) else rows.saleAt? id := by
  rw [saleAt?, sale?_addSale new]
  split
  next same => rw [same]; rfl
  next => rfl

theorem saleAt?_putSale (there : (rows.sale? r.id).isSome) (id : SaleId) :
    (rows.putSale r).saleAt? id =
      if id = r.id then some (r.toSale (rows.scopeOf (.sale r.id))) else rows.saleAt? id := by
  obtain ⟨old, row⟩ := Option.isSome_iff_exists.1 there
  rw [saleAt?, sale?_putSale]
  split
  next same => rw [same, row]; rfl
  next => rfl

theorem saleAt?_dropSale (rows : DiscountRows) (id id' : SaleId) :
    (rows.dropSale id).saleAt? id' = if id' = id then none else rows.saleAt? id' := by
  rw [saleAt?, sale?_dropSale]
  split
  next => rfl
  next other =>
    rw [dropSale, scopeOf_clearScope_of_ne (by simpa using other)]
    rfl

theorem voucherAt?_dropSale (rows : DiscountRows) (id : SaleId) (id' : VoucherId) :
    (rows.dropSale id).voucherAt? id' = rows.voucherAt? id' := by
  rw [voucherAt?, dropSale, scopeOf_clearScope_of_ne (by simp)]
  rfl

/-- Adding a sale's row makes the rows hold the sale. -/
theorem Kept.exists_saleAt?_new (kept : rows.Kept) {n : NewSale} {id : SaleId}
    (new : rows.sale? id = none) :
    ∃ t, t.Same (n.withId id) ∧ ∀ id', (rows.addSale (n.withId id).row).saleAt? id' =
      if id' = id then some t else rows.saleAt? id' := by
  have absent : rows.hasOwner (.sale id) = false := by rw [hasOwner, new]; rfl
  have same : (n.withId id).Same ((n.withId id).row.toSale (rows.scopeOf (.sale id))) := by
    rw [kept.scopeOf_of_absent absent]
    exact (n.withId id).same_row .empty
  exact ⟨_, same.symm, saleAt?_addSale new⟩

/-- Saving a sale's row makes the rows hold the sale, if its scope is the one there. -/
theorem exists_saleAt?_putSale {s : Sale} (there : (rows.sale? s.id).isSome)
    (scope : s.scope = rows.scopeOf (.sale s.id)) :
    ∃ t, t.Same s ∧ ∀ id, (rows.putSale s.row).saleAt? id =
      if id = s.id then some t else rows.saleAt? id := by
  have same := s.same_row (rows.scopeOf (.sale s.id))
  rw [← scope] at same
  refine ⟨_, same.symm, fun id => ?_⟩
  rw [saleAt?_putSale (r := s.row) there, scope]
  rfl

theorem Kept.addSale (kept : rows.Kept) (new : rows.sale? r.id = none) : (rows.addSale r).Kept where
  vouchers_distinct := kept.vouchers_distinct
  codes_distinct := kept.codes_distinct
  countable := kept.countable
  owner_exists t e member := by
    refine hasOwner_mono rows (rows.addSale r) (fun _ => id) (fun id there => ?_)
      (kept.owner_exists t e member)
    rw [sale?_addSale new]
    split
    · rfl
    · exact there

theorem Kept.putSale (kept : rows.Kept) (r : SaleRow) : (rows.putSale r).Kept where
  vouchers_distinct := kept.vouchers_distinct
  codes_distinct := kept.codes_distinct
  countable := kept.countable
  owner_exists t e member := by
    refine hasOwner_mono rows (rows.putSale r) (fun _ => id) (fun id there => ?_)
      (kept.owner_exists t e member)
    rw [sale?_putSale]
    split
    next same => rwa [Option.isSome_map, ← same]
    next => exact there

theorem Kept.dropSale (kept : rows.Kept) (id : SaleId) : (rows.dropSale id).Kept where
  vouchers_distinct := kept.vouchers_distinct
  codes_distinct := kept.codes_distinct
  countable := kept.countable
  owner_exists t e member := by
    obtain ⟨before, other⟩ := mem_clearScope.1 member
    have owned := kept.owner_exists t e before
    cases owner : t.ownerOf e with
    | voucher id' =>
      rw [owner] at owned
      exact owned
    | sale id' =>
      rw [owner] at owned other
      rw [hasOwner, sale?_dropSale, if_neg (by simpa using other)]
      exact owned

end Sales

end DiscountRows

end BackOffice
