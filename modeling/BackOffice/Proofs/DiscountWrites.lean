import BackOffice.Proofs.DiscountTables

/-!
# Writing discounts down and reading them back

Each operation of the store of discounts has its rules, which say how it ends on rows that keep the
database's own rules: what it leaves there when nothing stands in the way, and for which cause it is
refused otherwise. A limit is put into its column before anything is written, and a code is compared
with those of all other vouchers.
-/

namespace BackOffice

namespace DiscountStore

open Work

variable {s : DiscountStore} {rows : DiscountRows}

section Statements

theorem rowsOr_apply (e : DatabaseError) (w : Session DiscountStore) :
    rowsOr e w = (w.store.rows.elim (.error e) .ok, w) := by
  obtain ⟨⟨rows, _, _⟩, _⟩ := w
  cases rows <;> rfl

theorem ends_rowsOr (there : s.rows = some rows) (e : DatabaseError) :
    (rowsOr e).Ends s (.ok rows) s := by
  refine (ends_store s).bind ?_
  rw [there]
  exact ends_pure rows s

theorem ends_setRows (s : DiscountStore) (rows : DiscountRows) :
    (setRows rows).Ends s (.ok ()) { s with rows := some rows } :=
  (ends_store s).bind (ends_setStore _ _)

theorem ends_nextVoucher (left : s.vouchersGiven < Sequence.last) :
    nextVoucher.Ends s (.ok (Sequence.next s.vouchersGiven))
      { s with vouchersGiven := s.vouchersGiven + 1 } := by
  refine (ends_store s).bind ?_
  rw [Sequence.key?, if_pos left]
  exact (ends_setStore _ _).bind (ends_pure _ _)

theorem ends_nextSale (left : s.salesGiven < Sequence.last) :
    nextSale.Ends s (.ok (Sequence.next s.salesGiven))
      { s with salesGiven := s.salesGiven + 1 } := by
  refine (ends_store s).bind ?_
  rw [Sequence.key?, if_pos left]
  exact (ends_setStore _ _).bind (ends_pure _ _)

/-- A limit that fits its column is put there. -/
theorem ends_limitFor {limit : Option UInt32} (fits : limit.all (·.toNat ≤ maxCount) = true)
    (s : DiscountStore) : (limitFor limit).Ends s (.ok (limit.map UInt32.toInt32)) s := by
  cases limit with
  | none => exact ends_pure none s
  | some n =>
    have count : (some n).mapM toCount = .ok (some n.toInt32) := by
      rw [Option.all_some, decide_eq_true_eq] at fits
      simp only [Option.mapM_some, toCount, if_pos fits]
      rfl
    rw [limitFor, count]
    exact ends_pure _ s

theorem ends_limitFor_of_large {limit : Option UInt32}
    (large : limit.all (·.toNat ≤ maxCount) = false) (s : DiscountStore) :
    (limitFor limit).Ends s (.error (.database .countTooLarge)) s := by
  cases limit with
  | none => cases large
  | some n =>
    have count : (some n).mapM toCount = .error .countTooLarge := by
      rw [Option.all_some, decide_eq_false_iff_not] at large
      simp only [Option.mapM_some, toCount, if_neg large]
      rfl
    rw [limitFor, count]
    exact ends_throw _ s

/-- Rows for an owner that is there may stand in the owner's tables. -/
theorem checkScopeRows_of_owned {owner : ScopeOwner} (owned : rows.hasOwner owner = true)
    (names : ScopeNames) (kind : CatalogueKind) (ids : List CatalogueId) :
    checkScopeRows rows names ⟨owner.scopeTable kind, .owner, .entity⟩
      (ids.map (ScopeRow.mk owner.key)) = .ok () := by
  have all : (ids.map (ScopeRow.mk owner.key)).all
      (fun r => rows.hasOwner ((owner.scopeTable kind).ownerOf r)) = true := by
    rw [List.all_map, List.all_eq_true]
    intro id _
    rwa [Function.comp_apply, owner.ownerOf_scopeTable]
  rw [checkScopeRows, if_neg nofun, all]
  rfl

theorem ends_insertScopeRows (there : s.rows = some rows) {owner : ScopeOwner}
    (owned : rows.hasOwner owner = true) (kind : CatalogueKind) (ids : List CatalogueId) :
    (insertScopeRows (owner.names kind) owner.key ids).Ends s (.ok ())
      { s with rows := some (rows.changeScope owner kind ids .add) } :=
  (ends_rowsOr there _).bind ((ends_note _ _ s).bind
    ((ends_settle (owner.resolve_names kind _) s).bind
      ((ends_settle (checkScopeRows_of_owned owned _ kind ids) s).bind (ends_setRows s _))))

theorem ends_deleteScopeRows (there : s.rows = some rows) (owner : ScopeOwner)
    (kind : CatalogueKind) (ids : List CatalogueId) :
    (deleteScopeRows (owner.names kind) owner.key ids).Ends s (.ok ())
      { s with rows := some (rows.changeScope owner kind ids .remove) } :=
  (ends_rowsOr there _).bind ((ends_note _ _ s).bind
    ((ends_settle (owner.resolve_names kind _) s).bind (ends_setRows s _)))

/-- An owner's entities of a kind are read from the owner's table. -/
theorem ends_selectScope (there : s.rows = some rows) (owner : ScopeOwner) (kind : CatalogueKind) :
    (selectScope (owner.names kind) owner.key).Ends s (.ok (rows.scopeIds owner kind)) s :=
  (ends_rowsOr there _).bind ((ends_settle (owner.resolve_names kind _) s).bind (ends_pure _ s))

theorem ends_loadScope (there : s.rows = some rows) (owner : ScopeOwner) :
    (loadScope owner).Ends s (.ok (rows.scopeOf owner)) s :=
  (ends_selectScope there owner .product).bind ((ends_selectScope there owner .collection).bind
    ((ends_selectScope there owner .category).bind (ends_pure _ s)))

theorem ends_changeScopeRows (there : s.rows = some rows) {owner : ScopeOwner}
    (owned : rows.hasOwner owner = true) (op : ScopeOp) (kind : CatalogueKind)
    (ids : List CatalogueId) :
    (changeScopeRows owner op kind ids).Ends s (.ok ())
      { s with rows := some (rows.changeScope owner kind ids op) } := by
  cases op with
  | add => exact ends_insertScopeRows there owned kind ids
  | remove => exact ends_deleteScopeRows there owner kind ids

/-- A delta is written down if its owner is there. -/
theorem ends_applyDelta (there : s.rows = some rows) {owner : ScopeOwner}
    (owned : rows.hasOwner owner = true) (op : ScopeOp) (delta : CatalogueLists) :
    (applyDelta owner op delta).Ends s (.ok ())
      { s with rows := some (rows.rescoped owner op delta) } := by
  unfold applyDelta DiscountRows.rescoped
  induction CatalogueKind.all generalizing s rows with
  | nil =>
    rw [DiscountRows.rescope, List.foldl_nil, ← there]
    exact ends_pure _ s
  | cons kind kinds ih =>
    rw [DiscountRows.rescope, List.foldl_cons, ← DiscountRows.rescope, List.forM]
    by_cases none : (delta.get kind).isEmpty = true
    · rw [if_pos none, if_pos none]
      exact (ends_pure _ s).bind (ih there owned)
    · rw [if_neg none, if_neg none]
      have still : (rows.changeScope owner kind (delta.get kind) op).hasOwner owner = true := by
        rwa [DiscountRows.hasOwner_changeScope]
      exact (ends_changeScopeRows there owned op kind _).bind (ih rfl still)

end Statements

section CheckVoucher

/-- Past the rules of the table, a voucher is refused only for its code. -/
theorem checkVoucher_eq {others : List VoucherRow} {r : VoucherRow}
    (passes : r.brokenRule? = none) : checkVoucher others r =
      if others.any fun other => other.code = r.code then .error (.duplicate "voucher_code_key")
      else .ok () := by
  rw [checkVoucher, passes]
  rfl

theorem changeVouchers_of_absent {id : VoucherId} {rest : List VoucherRow}
    (absent : id ∉ rest.map (·.id)) (f : VoucherRow → VoucherRow) (done : List VoucherRow) :
    changeVouchers id f done rest = .ok (done ++ rest) := by
  induction rest generalizing done with
  | nil => rw [changeVouchers, List.append_nil]
  | cons r rest ih =>
    obtain ⟨other, later⟩ := not_or.1 (mt List.mem_cons.2 absent)
    rw [changeVouchers, if_neg (Ne.symm other), ih later, List.append_assoc, List.singleton_append]

/-- The rows in front of the one that changes are left as they are. -/
theorem changeVouchers_append {id : VoucherId} {before : List VoucherRow}
    (absent : id ∉ before.map (·.id)) (f : VoucherRow → VoucherRow)
    (done rest : List VoucherRow) :
    changeVouchers id f done (before ++ rest) = changeVouchers id f (done ++ before) rest := by
  induction before generalizing done with
  | nil => rw [List.nil_append, List.append_nil]
  | cons r before ih =>
    obtain ⟨other, later⟩ := not_or.1 (mt List.mem_cons.2 absent)
    rw [List.cons_append, changeVouchers, if_neg (Ne.symm other), ih later, List.append_assoc,
      List.singleton_append]

/-- The rows around that of a voucher are those of the other vouchers. -/
theorem any_code_others {id : VoucherId} {before after : List VoucherRow} {old : VoucherRow}
    (split : rows.vouchers = before ++ old :: after) (here : old.id = id)
    (inFront : id ∉ before.map (·.id)) (behind : id ∉ after.map (·.id)) (code : String) :
    ((before ++ after).any fun other => other.code = code) = rows.codeTaken id code := by
  rw [DiscountRows.codeTaken, split, Bool.eq_iff_iff, List.any_eq_true, List.any_eq_true]
  simp only [decide_eq_true_eq]
  constructor
  · rintro ⟨r, there, coded⟩
    have other : r.id ≠ id := by
      intro repeated
      rcases List.mem_append.1 there with there | there
      · exact inFront (List.mem_map.2 ⟨r, there, repeated⟩)
      · exact behind (List.mem_map.2 ⟨r, there, repeated⟩)
    have among := ((List.sublist_append_right [old] after).append_left before).mem there
    exact ⟨r, among, other, coded⟩
  · rintro ⟨r, there, other, coded⟩
    refine ⟨r, ?_, coded⟩
    rcases List.mem_append.1 there with there | there
    · exact List.mem_append_left _ there
    · rcases List.mem_cons.1 there with rfl | there
      · exact (other here).elim
      · exact List.mem_append_right _ there

/-- The one row of a voucher is changed if no other voucher has its new code. -/
theorem changeVouchers_eq (kept : rows.Kept) {id : VoucherId} {old : VoucherRow}
    (row : rows.voucher? id = some old) {f : VoucherRow → VoucherRow} {new : VoucherRow}
    (change : f old = new) (same : new.id = id) (passes : new.brokenRule? = none) :
    changeVouchers id f [] rows.vouchers =
      if rows.codeTaken id new.code then .error (.duplicate "voucher_code_key")
      else .ok (rows.putVoucher new).vouchers := by
  obtain ⟨before, after, split⟩ := List.append_of_mem (List.mem_of_find?_eq_some row)
  have here : old.id = id := DiscountRows.id_of_voucher? row
  have distinct := kept.vouchers_distinct
  rw [split, List.map_append, List.map_cons, List.nodup_middle, List.nodup_cons, here,
    List.mem_append, not_or] at distinct
  obtain ⟨⟨inFront, behind⟩, -⟩ := distinct
  rw [split, changeVouchers_append inFront, List.nil_append, changeVouchers, if_pos here, change,
    checkVoucher_eq passes, any_code_others split here inFront behind]
  split
  · rfl
  · change changeVouchers id f (before ++ [new]) after = _
    have put : (rows.putVoucher new).vouchers = before ++ [new] ++ after := by
      rw [DiscountRows.putVoucher, split, List.map_append, List.map_cons, same,
        Keyed.modify_of_absent VoucherRow.id inFront,
        Keyed.modify_of_absent VoucherRow.id behind, if_pos here, List.append_assoc,
        List.singleton_append]
    rw [changeVouchers_of_absent behind, put]

/-- For a key that no voucher has, every voucher with a code is one of another key. -/
theorem any_code_eq {id : VoucherId} (absent : rows.voucher? id = none) (code : String) :
    (rows.vouchers.any fun other => other.code = code) = rows.codeTaken id code := by
  have none := (Keyed.find?_eq_none_iff VoucherRow.id).1 absent
  rw [DiscountRows.codeTaken, Bool.eq_iff_iff, List.any_eq_true, List.any_eq_true]
  refine exists_congr fun r => and_congr_right fun there => ?_
  rw [decide_eq_true_eq, decide_eq_true_eq, iff_and_self]
  intro _ same
  exact none (List.mem_map.2 ⟨r, there, same⟩)

end CheckVoucher

/-- The key that the next voucher gets. -/
def voucherKey (s : DiscountStore) : VoucherId := Sequence.next s.vouchersGiven

/-- The key that the next sale gets. -/
def saleKey (s : DiscountStore) : SaleId := Sequence.next s.salesGiven

section Vouchers

variable {n : NewVoucher} {v : Voucher} {id : VoucherId} {old : VoucherRow}

section Insert

variable (there : s.rows = some rows) (left : s.vouchersGiven < Sequence.last)
  (new : rows.voucher? s.voucherKey = none)
  (passes : ((n.withId s.voucherKey).row 0).brokenRule? = none)

include new passes in
theorem checkVoucher_new :
    checkVoucher rows.vouchers ((n.withId s.voucherKey).row 0) =
      if rows.codeTaken s.voucherKey n.code.text then .error (.duplicate "voucher_code_key")
      else .ok () := by
  rw [checkVoucher_eq passes, ← any_code_eq new]
  rfl

include there left new passes

/-- A voucher is inserted if its key is new and its code is free. -/
theorem ends_insertVoucher (free : rows.codeTaken s.voucherKey n.code.text = false) :
    (insertVoucher n (n.usageLimit.map UInt32.toInt32)).Ends s (.ok s.voucherKey)
      { s with
        rows := some (rows.addVoucher ((n.withId s.voucherKey).row 0))
        vouchersGiven := s.vouchersGiven + 1 } := by
  refine (ends_rowsOr there _).bind ((ends_note _ _ s).bind ((ends_nextVoucher left).bind ?_))
  have checked := checkVoucher_new new passes
  rw [free] at checked
  refine (ends_settle checked _).bind ?_
  change Ends (if (rows.voucher? s.voucherKey).isSome then _ else _) _ _ _
  rw [new]
  exact (ends_setRows _ _).bind (ends_pure _ _)

/-- A voucher with the code of another is not inserted, but it has used up its key. -/
theorem ends_insertVoucher_of_taken (taken : rows.codeTaken s.voucherKey n.code.text = true) :
    (insertVoucher n (n.usageLimit.map UInt32.toInt32)).Ends s
      (.error (.duplicate "voucher_code_key"))
      { s with vouchersGiven := s.vouchersGiven + 1 } := by
  refine (ends_rowsOr there _).bind ((ends_note _ _ s).bind ((ends_nextVoucher left).bind ?_))
  have checked := checkVoucher_new new passes
  rw [taken] at checked
  exact (ends_settle checked _).bind_error

end Insert

/-- What the store makes of a code that another voucher has. -/
def codeConflict (code : VoucherCode) : StoreError :=
  .conflict ("voucher code " ++ code.text ++ " already exists")

section Create

/-- A voucher that passes the rules is added with its scope. -/
theorem ends_createVoucher (there : s.rows = some rows) (left : s.vouchersGiven < Sequence.last)
    (new : rows.voucher? s.voucherKey = none) (fits : (n.withId s.voucherKey).Fits)
    (passes : (n.withId s.voucherKey).check = .ok ())
    (free : rows.codeTaken s.voucherKey n.code.text = false) :
    (createVoucher n).Ends s (.ok (n.withId s.voucherKey))
      { s with
        rows := some ((rows.addVoucher ((n.withId s.voucherKey).row 0)).rescoped
          (.voucher s.voucherKey) .add n.scope)
        vouchersGiven := s.vouchersGiven + 1 } := by
  have countable : ((n.withId s.voucherKey).row 0).Countable := fits.countable (by decide)
  have rules := Voucher.brokenRule?_row passes countable
  have owned : (rows.addVoucher ((n.withId s.voucherKey).row 0)).hasOwner
      (.voucher s.voucherKey) = true := DiscountRows.hasOwner_addVoucher new
  refine (ends_limitFor fits s).bind (Ends.transaction ?_)
  exact ((ends_insertVoucher there left new rules free).mapError _).bind
    (((ends_applyDelta rfl owned .add n.scope).mapError _).bind (ends_pure _ _))

theorem ends_createVoucher_of_large (large : ¬(n.withId s.voucherKey).Fits) :
    (createVoucher n).Ends s (.error (.database .countTooLarge)) s :=
  (ends_limitFor_of_large (Bool.eq_false_iff.2 large) s).bind_error

theorem ends_createVoucher_of_taken (there : s.rows = some rows)
    (left : s.vouchersGiven < Sequence.last) (new : rows.voucher? s.voucherKey = none)
    (fits : (n.withId s.voucherKey).Fits) (passes : (n.withId s.voucherKey).check = .ok ())
    (taken : rows.codeTaken s.voucherKey n.code.text = true) :
    (createVoucher n).Ends s (.error (codeConflict n.code))
      { s with vouchersGiven := s.vouchersGiven + 1 } := by
  have countable : ((n.withId s.voucherKey).row 0).Countable := fits.countable (by decide)
  have rules := Voucher.brokenRule?_row passes countable
  refine (ends_limitFor fits s).bind ?_
  exact ((ends_insertVoucher_of_taken there left new rules taken).mapError _).bind_error
    |>.transaction_error

end Create

section Save

/-- Saving a voucher puts its row in place of the old one, unless its code is taken. -/
theorem changeVouchers_row (kept : rows.Kept) (row : rows.voucher? v.id = some old) (fits : v.Fits)
    (passes : v.check = .ok ()) :
    changeVouchers v.id (·.withFields v (v.usageLimit.map UInt32.toInt32)) [] rows.vouchers =
      if rows.codeTaken v.id v.code.text then .error (.duplicate "voucher_code_key")
      else .ok (rows.putVoucher (v.row old.used)).vouchers := by
  have countable := fits.countable (kept.countable old (List.mem_of_find?_eq_some row)).used
  have same : old.id = v.id := DiscountRows.id_of_voucher? row
  refine changeVouchers_eq kept row ?_ rfl (Voucher.brokenRule?_row passes countable)
  rw [VoucherRow.withFields, same]
  rfl

/-- A voucher that passes the rules is saved, except its uses and its scope. -/
theorem ends_saveVoucher (there : s.rows = some rows) (kept : rows.Kept)
    (row : rows.voucher? v.id = some old) (fits : v.Fits) (passes : v.check = .ok ())
    (free : rows.codeTaken v.id v.code.text = false) :
    (saveVoucher v).Ends s (.ok ()) { s with rows := some (rows.putVoucher (v.row old.used)) } := by
  have changed := changeVouchers_row kept row fits passes
  rw [free] at changed
  have updated : (updateVoucher v (v.usageLimit.map UInt32.toInt32)).Ends s (.ok ())
      { s with rows := some (rows.putVoucher (v.row old.used)) } :=
    (ends_rowsOr there _).bind ((ends_note _ _ s).bind
      ((ends_settle changed s).bind (ends_setRows s _)))
  exact (ends_limitFor fits s).bind (updated.mapError _)

theorem ends_saveVoucher_of_large (large : ¬v.Fits) :
    (saveVoucher v).Ends s (.error (.database .countTooLarge)) s :=
  (ends_limitFor_of_large (Bool.eq_false_iff.2 large) s).bind_error

theorem ends_saveVoucher_of_taken (there : s.rows = some rows) (kept : rows.Kept)
    (row : rows.voucher? v.id = some old) (fits : v.Fits) (passes : v.check = .ok ())
    (taken : rows.codeTaken v.id v.code.text = true) :
    (saveVoucher v).Ends s (.error (codeConflict v.code)) s := by
  have changed := changeVouchers_row kept row fits passes
  rw [taken] at changed
  have refused : (updateVoucher v (v.usageLimit.map UInt32.toInt32)).Ends s
      (.error (.duplicate "voucher_code_key")) s :=
    (ends_rowsOr there _).bind ((ends_note _ _ s).bind (ends_settle changed s).bind_error)
  exact (ends_limitFor fits s).bind (refused.mapError _)

end Save

theorem ends_removeVoucher (there : s.rows = some rows) (row : rows.voucher? id = some old) :
    (removeVoucher id).Ends s (.ok ()) { s with rows := some (rows.dropVoucher id) } := by
  have deleted : (deleteVoucher id).Ends s (.ok true)
      { s with rows := some (rows.dropVoucher id) } := by
    refine (ends_rowsOr there _).bind ((ends_note _ _ s).bind ?_)
    rw [row]
    exact (ends_setRows s _).bind (ends_pure _ _)
  exact (deleted.mapError _).bind (ends_pure _ _)

theorem ends_removeVoucher_of_absent (there : s.rows = some rows)
    (absent : rows.voucher? id = none) : (removeVoucher id).Ends s (.error .notFound) s := by
  have none : (deleteVoucher id).Ends s (.ok false) s := by
    refine (ends_rowsOr there _).bind ((ends_note _ _ s).bind ?_)
    rw [absent]
    exact ends_pure _ _
  exact (none.mapError _).bind (ends_throw _ _)

theorem ends_withScope (there : s.rows = some rows) (kept : rows.Kept) (row : Option VoucherRow)
    (held : ∀ r ∈ row, r ∈ rows.vouchers) :
    (withScope row).Ends s
      (.ok (row.map fun r => r.voucher (rows.scopeOf (.voucher r.id)))) s := by
  cases row with
  | none => exact ends_pure _ s
  | some r =>
    refine ((ends_loadScope there (.voucher r.id)).mapError _).bind ?_
    exact (ends_settle ((kept.countable r (held r rfl)).toVoucher _) s).bind (ends_pure _ s)

/-- The store reads the voucher that its rows hold. -/
theorem ends_loadVoucher (there : s.rows = some rows) (kept : rows.Kept) (id : VoucherId) :
    (loadVoucher id).Ends s (.ok (rows.voucherAt? id)) s := by
  have read := ends_withScope there kept (rows.voucher? id)
    fun r found => List.mem_of_find?_eq_some found
  have same : ((rows.voucher? id).map fun r => r.voucher (rows.scopeOf (.voucher r.id))) =
      rows.voucherAt? id := by
    refine Option.map_congr fun r found => ?_
    rw [DiscountRows.id_of_voucher? found]
  rw [same] at read
  exact ((ends_rowsOr there _).mapError _).bind read

/-- The voucher that the rows hold for a code. -/
theorem ends_findVoucher (there : s.rows = some rows) (kept : rows.Kept) (code : VoucherCode) :
    (findVoucher code).Ends s
      (.ok ((rows.vouchers.find? fun r => r.code = code.text).map fun r =>
        r.voucher (rows.scopeOf (.voucher r.id)))) s :=
  ((ends_rowsOr there _).mapError _).bind
    (ends_withScope there kept _ fun _ found => List.mem_of_find?_eq_some found)

end Vouchers

section Sales

variable {n : NewSale} {sale : Sale} {id : SaleId} {old : SaleRow}

/-- A sale that passes the rules is added, if no row has its key. -/
theorem ends_createSale (there : s.rows = some rows) (left : s.salesGiven < Sequence.last)
    (new : rows.sale? s.saleKey = none) (passes : (n.withId s.saleKey).check = .ok ()) :
    (createSale n).Ends s (.ok (n.withId s.saleKey))
      { s with
        rows := some (rows.addSale (n.withId s.saleKey).row)
        salesGiven := s.salesGiven + 1 } := by
  have rules : (n.withId s.saleKey).row.brokenRule? = none := Sale.brokenRule?_row passes
  have inserted : (insertSale n).Ends s (.ok s.saleKey)
      { s with
        rows := some (rows.addSale (n.withId s.saleKey).row)
        salesGiven := s.salesGiven + 1 } := by
    refine (ends_rowsOr there _).bind ((ends_note _ _ s).bind ((ends_nextSale left).bind ?_))
    dsimp only [NewSale.withId, Sale.row, saleKey] at rules new ⊢
    rw [rules, new]
    exact (ends_setRows _ _).bind (ends_pure _ _)
  exact (inserted.mapError _).bind (ends_pure _ _)

/-- A sale that passes the rules is saved, except its scope. -/
theorem ends_saveSale (there : s.rows = some rows) (row : rows.sale? sale.id = some old)
    (passes : sale.check = .ok ()) :
    (saveSale sale).Ends s (.ok ()) { s with rows := some (rows.putSale sale.row) } := by
  have rules : sale.row.brokenRule? = none := Sale.brokenRule?_row passes
  have updated : (updateSale sale).Ends s (.ok ())
      { s with rows := some (rows.putSale sale.row) } := by
    refine (ends_rowsOr there _).bind ((ends_note _ _ s).bind ?_)
    rw [row, Option.isSome_some]
    dsimp only [Sale.row] at rules ⊢
    rw [if_pos rfl, rules]
    exact ends_setRows _ _
  exact updated.mapError _

theorem ends_removeSale (there : s.rows = some rows) (row : rows.sale? id = some old) :
    (removeSale id).Ends s (.ok ()) { s with rows := some (rows.dropSale id) } := by
  have deleted : (deleteSale id).Ends s (.ok true) { s with rows := some (rows.dropSale id) } := by
    refine (ends_rowsOr there _).bind ((ends_note _ _ s).bind ?_)
    rw [row]
    exact (ends_setRows s _).bind (ends_pure _ _)
  exact (deleted.mapError _).bind (ends_pure _ _)

theorem ends_removeSale_of_absent (there : s.rows = some rows) (absent : rows.sale? id = none) :
    (removeSale id).Ends s (.error .notFound) s := by
  have none : (deleteSale id).Ends s (.ok false) s := by
    refine (ends_rowsOr there _).bind ((ends_note _ _ s).bind ?_)
    rw [absent]
    exact ends_pure _ _
  exact (none.mapError _).bind (ends_throw _ _)

/-- The store reads the sale that its rows hold. -/
theorem ends_loadSale (there : s.rows = some rows) (id : SaleId) :
    (loadSale id).Ends s (.ok (rows.saleAt? id)) s := by
  refine ((ends_rowsOr there _).mapError _).bind ?_
  rw [DiscountRows.saleAt?]
  cases row : rows.sale? id with
  | none => exact ends_pure none s
  | some r =>
    rw [← DiscountRows.id_of_sale? row]
    exact ((ends_loadScope there (.sale r.id)).mapError _).bind (ends_pure _ s)

end Sales

end DiscountStore

end BackOffice
