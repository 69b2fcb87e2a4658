import BackOffice.Proofs.Atomicity
import BackOffice.Proofs.DiscountTables

/-!
# Amounts as tables keep them

A table keeps an amount in a form of its own, in which a zero has neither sign nor scale. What is
kept in this form stays as it is when it is written again, and whatever is asked at the discount
desk, the tables hold no amounts in any other form (`DiscountCall.preserves_plain`).
-/

namespace BackOffice

theorem Decimal.stored_stored (d : Decimal) : d.stored.stored = d.stored := by
  by_cases none : d.magnitude = 0
  · have vanishes : d.stored = zero := if_pos none
    rw [vanishes]
    rfl
  · have stays : d.stored = d := if_neg none
    rw [stays, stays]

theorem Decimal.map_stored_stored (amount : Option Decimal) :
    (amount.map stored).map stored = amount.map stored := by
  rw [Option.map_map]
  exact Option.map_congr fun a _ => a.stored_stored

/-- The voucher with its amounts as tables keep them. -/
def Voucher.tabled (v : Voucher) : Voucher :=
  { v with value := v.value.stored, minAmount := v.minAmount.map Decimal.stored }

/-- The sale with its value as tables keep it. -/
def Sale.tabled (s : Sale) : Sale :=
  { s with value := s.value.stored }

/-- The amounts of the row are as the table keeps them. -/
def VoucherRow.Plain (r : VoucherRow) : Prop :=
  r.value.stored = r.value ∧ r.minAmount.map Decimal.stored = r.minAmount

def SaleRow.Plain (r : SaleRow) : Prop := r.value.stored = r.value

theorem VoucherRow.plain_withFields (r : VoucherRow) (v : Voucher) (usageLimit : Option Int32) :
    (r.withFields v usageLimit).Plain :=
  ⟨v.value.stored_stored, Decimal.map_stored_stored v.minAmount⟩

theorem Voucher.tabled_of_plain {r : VoucherRow} (plain : r.Plain) (scope : CatalogueScope) :
    (r.voucher scope).tabled = r.voucher scope := by
  simp only [tabled, VoucherRow.voucher, plain.1, plain.2]

theorem Sale.tabled_of_plain {r : SaleRow} (plain : r.Plain) (scope : CatalogueScope) :
    (r.toSale scope).tabled = r.toSale scope := by
  simp only [tabled, SaleRow.toSale, show r.value.stored = r.value from plain]

namespace DiscountRows

/-- All amounts are as the tables keep them. -/
structure Plain (rows : DiscountRows) : Prop where
  vouchers : ∀ r ∈ rows.vouchers, r.Plain
  sales : ∀ r ∈ rows.sales, r.Plain

variable {rows : DiscountRows}

theorem plain_empty : ({} : DiscountRows).Plain where
  vouchers _ there := by cases there
  sales _ there := by cases there

theorem Plain.tabled_voucherAt? (plain : rows.Plain) {id : VoucherId} {v : Voucher}
    (found : rows.voucherAt? id = some v) : v.tabled = v := by
  obtain ⟨r, row, rfl⟩ := Option.map_eq_some_iff.1 found
  exact Voucher.tabled_of_plain (plain.vouchers r (List.mem_of_find?_eq_some row)) _

theorem Plain.tabled_saleAt? (plain : rows.Plain) {id : SaleId} {s : Sale}
    (found : rows.saleAt? id = some s) : s.tabled = s := by
  obtain ⟨r, row, rfl⟩ := Option.map_eq_some_iff.1 found
  exact Sale.tabled_of_plain (plain.sales r (List.mem_of_find?_eq_some row)) _

end DiscountRows

open Work

namespace DiscountStore

/-- The amounts in the tables, if they have been created, are as tables keep them. -/
def HoldsPlain (rows : Option DiscountRows) : Prop := ∀ r ∈ rows, r.Plain

variable {α : Type}

/-- A statement that needs the rows begins with them as they are. -/
theorem preserves_rowsOr_bind {e : DatabaseError} {next : DiscountRows → Statement α}
    (rest : ∀ held, held.Plain → (next held).Preserves rows HoldsPlain) :
    (rowsOr e >>= next).Preserves rows HoldsPlain := by
  intro w before
  rw [InPlace.bind_apply, rowsOr_apply]
  cases there : w.store.rows with
  | none => exact before
  | some held => exact rest held (before held there) w before

theorem preserves_setRows {new : DiscountRows} (plain : new.Plain) :
    (setRows new).Preserves rows HoldsPlain := by
  rintro w - r ⟨⟩
  exact plain

theorem keeps_nextVoucher : nextVoucher.Keeps rows := by
  refine keeps_store_bind fun w => ?_
  cases (Sequence.key? w.store.vouchersGiven : Option VoucherId) <;> rfl

theorem insertVoucher_preserves (n : NewVoucher) (usageLimit : Option Int32) :
    (insertVoucher n usageLimit).Preserves rows HoldsPlain := by
  refine preserves_rowsOr_bind fun held plain => (keeps_note _ _).preserves.bind fun _ => ?_
  refine keeps_nextVoucher.preserves.bind fun id => (keeps_settle _).preserves.bind fun _ => ?_
  split
  next => exact (keeps_throw _).preserves
  next =>
    refine (preserves_setRows ?_).bind fun _ => (keeps_pure _).preserves
    refine ⟨?_, plain.sales⟩
    refine List.forall_mem_append.2 ⟨plain.vouchers, List.forall_mem_singleton.2 ?_⟩
    exact ⟨n.value.stored_stored, Decimal.map_stored_stored n.minAmount⟩

/-- What is true of every row and of every changed row is true of the rows after a change. -/
theorem forall_mem_changeVouchers {P : VoucherRow → Prop} {id : VoucherId}
    {f : VoucherRow → VoucherRow} (changed : ∀ r, P (f r)) {before after l : List VoucherRow}
    (done : changeVouchers id f before after = .ok l) (first : ∀ r ∈ before, P r)
    (rest : ∀ r ∈ after, P r) : ∀ r ∈ l, P r := by
  induction after generalizing before with
  | nil =>
    cases done
    exact first
  | cons r after ih =>
    obtain ⟨here, rest⟩ := List.forall_mem_cons.1 rest
    rw [changeVouchers] at done
    split at done
    next =>
      obtain ⟨_, -, done⟩ := bind_eq_ok done
      exact ih done (List.forall_mem_append.2 ⟨first, List.forall_mem_singleton.2 (changed r)⟩) rest
    next =>
      exact ih done (List.forall_mem_append.2 ⟨first, List.forall_mem_singleton.2 here⟩) rest

theorem updateVoucher_preserves (v : Voucher) (usageLimit : Option Int32) :
    (updateVoucher v usageLimit).Preserves rows HoldsPlain := by
  refine preserves_rowsOr_bind fun held plain => (keeps_note _ _).preserves.bind fun _ => ?_
  cases changed : changeVouchers v.id (·.withFields v usageLimit) [] held.vouchers with
  | error e => exact (keeps_throw _).preserves
  | ok l =>
    refine preserves_setRows ⟨?_, plain.sales⟩
    exact forall_mem_changeVouchers (fun r => r.plain_withFields v usageLimit) changed
      (List.forall_mem_nil _) plain.vouchers

theorem deleteVoucher_preserves (id : VoucherId) :
    (deleteVoucher id).Preserves rows HoldsPlain := by
  refine preserves_rowsOr_bind fun held plain => (keeps_note _ _).preserves.bind fun _ => ?_
  split
  next => exact (keeps_pure _).preserves
  next =>
    refine (preserves_setRows ?_).bind fun _ => (keeps_pure _).preserves
    exact ⟨fun r there => plain.vouchers r (List.mem_filter.1 there).1, plain.sales⟩

theorem insertSale_preserves (n : NewSale) : (insertSale n).Preserves rows HoldsPlain := by
  refine preserves_rowsOr_bind fun held plain => (keeps_note _ _).preserves.bind fun _ => ?_
  refine keeps_nextSale.preserves.bind fun id => ?_
  dsimp only
  split
  next => exact (keeps_throw _).preserves
  next =>
    split
    next => exact (keeps_throw _).preserves
    next =>
      refine (preserves_setRows ?_).bind fun _ => (keeps_pure _).preserves
      refine ⟨plain.vouchers, ?_⟩
      exact List.forall_mem_append.2
        ⟨plain.sales, List.forall_mem_singleton.2 n.value.stored_stored⟩

theorem updateSale_preserves (s : Sale) : (updateSale s).Preserves rows HoldsPlain := by
  refine preserves_rowsOr_bind fun held plain => (keeps_note _ _).preserves.bind fun _ => ?_
  split
  next =>
    dsimp only
    split
    next => exact (keeps_throw _).preserves
    next =>
      refine preserves_setRows ⟨plain.vouchers, fun r there => ?_⟩
      obtain ⟨old, member, rfl⟩ := List.mem_map.1 there
      split
      next => exact s.value.stored_stored
      next => exact plain.sales old member
  next => exact (keeps_pure _).preserves

theorem deleteSale_preserves (id : SaleId) : (deleteSale id).Preserves rows HoldsPlain := by
  refine preserves_rowsOr_bind fun held plain => (keeps_note _ _).preserves.bind fun _ => ?_
  split
  next => exact (keeps_pure _).preserves
  next =>
    refine (preserves_setRows ?_).bind fun _ => (keeps_pure _).preserves
    exact ⟨plain.vouchers, fun r there => plain.sales r (List.mem_filter.1 there).1⟩

theorem insertScopeRows_preserves (names : ScopeNames) (owner : CatalogueId)
    (ids : List CatalogueId) : (insertScopeRows names owner ids).Preserves rows HoldsPlain :=
  preserves_rowsOr_bind fun _ plain => (keeps_note _ _).preserves.bind fun _ =>
    (keeps_settle _).preserves.bind fun _ => (keeps_settle _).preserves.bind fun _ =>
      preserves_setRows ⟨plain.vouchers, plain.sales⟩

theorem deleteScopeRows_preserves (names : ScopeNames) (owner : CatalogueId)
    (ids : List CatalogueId) : (deleteScopeRows names owner ids).Preserves rows HoldsPlain :=
  preserves_rowsOr_bind fun _ plain => (keeps_note _ _).preserves.bind fun _ =>
    (keeps_settle _).preserves.bind fun _ => preserves_setRows ⟨plain.vouchers, plain.sales⟩

theorem changeScopeRows_preserves (owner : ScopeOwner) (op : ScopeOp) (kind : CatalogueKind)
    (ids : List CatalogueId) : (changeScopeRows owner op kind ids).Preserves rows HoldsPlain := by
  cases op with
  | add => exact insertScopeRows_preserves _ _ _
  | remove => exact deleteScopeRows_preserves _ _ _

theorem applyDelta_preserves (owner : ScopeOwner) (op : ScopeOp) (delta : CatalogueLists) :
    (applyDelta owner op delta).Preserves rows HoldsPlain := by
  refine preserves_forM _ fun kind _ => ?_
  split
  next => exact (keeps_pure _).preserves
  next => exact changeScopeRows_preserves owner op kind _

theorem createVoucher_preserves (n : NewVoucher) : (createVoucher n).Preserves rows HoldsPlain :=
  (keeps_limitFor _).preserves.bind fun limit =>
    Preserves.transaction (fun _ _ => rfl) <|
      ((insertVoucher_preserves n limit).mapError _).bind fun id =>
        ((applyDelta_preserves (.voucher id) .add n.scope).mapError _).bind fun _ =>
          (keeps_pure _).preserves

theorem saveVoucher_preserves (v : Voucher) : (saveVoucher v).Preserves rows HoldsPlain :=
  (keeps_limitFor _).preserves.bind fun limit => (updateVoucher_preserves v limit).mapError _

theorem removeVoucher_preserves (id : VoucherId) :
    (removeVoucher id).Preserves rows HoldsPlain := by
  refine ((deleteVoucher_preserves id).mapError _).bind fun found => ?_
  split
  next => exact (keeps_throw _).preserves
  next => exact (keeps_pure _).preserves

theorem createSale_preserves (n : NewSale) : (createSale n).Preserves rows HoldsPlain :=
  ((insertSale_preserves n).mapError _).bind fun _ => (keeps_pure _).preserves

theorem removeSale_preserves (id : SaleId) : (removeSale id).Preserves rows HoldsPlain := by
  refine ((deleteSale_preserves id).mapError _).bind fun found => ?_
  split
  next => exact (keeps_throw _).preserves
  next => exact (keeps_pure _).preserves

end DiscountStore

namespace DiscountDesk

open DiscountStore

/-- A discount is loaded, changed and written back, and the change is reported. -/
theorem preserves_transaction {α β γ : Type} {load : Request α} {write : α → Request β}
    {next : β → Request γ} (loads : load.Keeps DiscountStore.rows)
    (writes : ∀ a, (write a).Preserves DiscountStore.rows HoldsPlain)
    (rest : ∀ b, (next b).Keeps DiscountStore.rows) :
    ((load >>= write).transaction >>= next).Preserves DiscountStore.rows HoldsPlain :=
  (Preserves.transaction (fun _ _ => rfl) (loads.preserves.bind writes)).bind fun b =>
    (rest b).preserves

theorem keeps_report_return {α : Type} (event : Event) (a : α) :
    (do Work.report event; return a : Request α).Keeps DiscountStore.rows :=
  (keeps_report event).bind fun _ => keeps_pure a

end DiscountDesk

/-- Whatever is asked at the discount desk, the tables hold amounts in their own form only. -/
theorem DiscountCall.preserves_plain (call : DiscountCall) :
    call.atStore.Preserves DiscountStore.rows DiscountStore.HoldsPlain := by
  open DiscountDesk DiscountStore in
  cases call with
  | createVoucher desk input picks =>
    refine Preserves.map ((keeps_accept _).preserves.bind fun n => ?_) _
    exact ((createVoucher_preserves n).mapError _).bind fun v => (keeps_report_return _ v).preserves
  | voucher id => exact ((keeps_voucher id).map _).preserves
  | findVoucher text => exact ((DiscountDesk.keeps_findVoucher text).map _).preserves
  | updateVoucher id update =>
    refine Preserves.map (preserves_transaction (keeps_voucher id) (fun v => ?_)
      (keeps_report_return _)) _
    refine (keeps_changed _ _).preserves.bind fun v => ?_
    exact ((saveVoucher_preserves v).mapError _).bind fun _ => (keeps_pure v).preserves
  | deleteVoucher id =>
    refine Preserves.map (((removeVoucher_preserves id).mapError _).bind fun _ => ?_) _
    exact (keeps_report _).preserves
  | changeVoucherScope id op l =>
    refine Preserves.map (preserves_transaction (keeps_voucher id) (fun v => ?_)
      fun _ => keeps_report_scope _ _ _) _
    exact ((applyDelta_preserves _ op _).mapError _).bind fun _ => (keeps_pure _).preserves
  | createSale desk input =>
    refine Preserves.map ((keeps_accept _).preserves.bind fun n => ?_) _
    exact ((createSale_preserves n).mapError _).bind fun s => (keeps_report_return _ s).preserves
  | sale id => exact ((keeps_sale id).map _).preserves
  | updateSale id update =>
    refine Preserves.map (preserves_transaction (keeps_sale id) (fun s => ?_)
      (keeps_report_return _)) _
    refine (keeps_changed _ _).preserves.bind fun s => ?_
    exact (((updateSale_preserves s).mapError _).mapError _).bind fun _ => (keeps_pure s).preserves
  | deleteSale id =>
    refine Preserves.map (((removeSale_preserves id).mapError _).bind fun _ => ?_) _
    exact (keeps_report _).preserves
  | changeSaleScope id op l =>
    refine Preserves.map (preserves_transaction (keeps_sale id) (fun s => ?_)
      fun _ => keeps_report_scope _ _ _) _
    exact ((applyDelta_preserves _ op _).mapError _).bind fun _ => (keeps_pure _).preserves

/-- After any calls the tables hold amounts in their own form only. -/
theorem DiscountStore.holdsPlain_serve (calls : List DiscountCall) {w : Session DiscountStore}
    (plain : HoldsPlain w.store.rows) :
    HoldsPlain (serve DiscountCall.atStore calls w).2.store.rows := by
  induction calls generalizing w with
  | nil => exact plain
  | cons call calls ih => exact ih (call.preserves_plain w plain)

end BackOffice
