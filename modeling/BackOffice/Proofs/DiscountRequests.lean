import BackOffice.Desk.Discounts
import BackOffice.Proofs.DiscountWrites

/-!
# What the discount desk does

For each request at the discount desk there are rules that say how it ends, given how its parts
end: the loading of a discount, the rules for discounts, and the writing of what changed. A
request that is refused leaves the rows as they were.
-/

namespace BackOffice

namespace DiscountDesk

open Work DiscountStore

variable {s s' : DiscountStore} {rows : DiscountRows}

theorem ends_accept {α : Type} {outcome : Except Invalid α} {a : α} (accepted : outcome = .ok a)
    (s : DiscountStore) : (accept outcome).Ends s (.ok a) s := by
  rw [accepted]
  exact ends_pure a s

theorem ends_accept_of_invalid {α : Type} {outcome : Except Invalid α} {e : Invalid}
    (refused : outcome = .error e) (s : DiscountStore) :
    (accept outcome).Ends s (.error (.invalid e)) s := by
  rw [refused]
  exact ends_throw _ s

section Changed

variable {σ : Type} {operation : InPlace σ Invalid Unit} {v w : σ}

theorem ends_changed (done : operation v = (.ok (), w)) (s : DiscountStore) :
    (changed operation v).Ends s (.ok w) s := by
  unfold changed
  rw [done]
  exact ends_pure w s

theorem ends_changed_of_invalid {e : Invalid} (refused : operation v = (.error e, w))
    (s : DiscountStore) : (changed operation v).Ends s (.error (.invalid e)) s := by
  unfold changed
  rw [refused]
  exact ends_throw _ s

end Changed

/-- Whether or not there is a change to report, the store stays as it is. -/
theorem ends_report_scope {α : Type} (delta : CatalogueLists) (event : Event) (a : α)
    (s : DiscountStore) :
    (do if !delta.isEmpty then Work.report event
        return a : Request α).Ends s (.ok a) s := by
  by_cases none : delta.isEmpty = true
  · simp only [none, Bool.not_true, Bool.false_eq_true, ↓reduceIte]
    exact ends_pure a s
  · simp only [none, Bool.not_false, ↓reduceIte]
    exact (ends_report event s).bind (ends_pure a s)

section Vouchers

variable {id : VoucherId} {v w : Voucher}

theorem ends_voucher (there : s.rows = some rows) (kept : rows.Kept)
    (found : rows.voucherAt? id = some v) : (voucher id).Ends s (.ok v) s := by
  refine ((ends_loadVoucher there kept id).mapError _).bind ?_
  rw [found]
  exact ends_pure v s

theorem ends_voucher_of_absent (there : s.rows = some rows) (kept : rows.Kept)
    (absent : rows.voucherAt? id = none) :
    (voucher id).Ends s (.error (.voucherNotFound id)) s := by
  refine ((ends_loadVoucher there kept id).mapError _).bind ?_
  rw [absent]
  exact ends_throw _ s

theorem ends_createVoucher {desk : DiscountDesk} {input : VoucherInput}
    {picks : VoucherCode.Picks} {n : NewVoucher}
    (accepted : input.validate desk.today desk.codeLength picks = .ok n)
    {r : Except StoreError Voucher} (created : (DiscountStore.createVoucher n).Ends s r s') :
    (desk.createVoucher input picks).Ends s (r.mapError (.ofCode n.code.text)) s' := by
  refine (ends_accept accepted s).bind ?_
  cases r with
  | ok v => exact (created.mapError _).bind ((ends_report _ _).bind (ends_pure v _))
  | error e => exact (created.mapError _).bind_error

theorem ends_createVoucher_of_invalid {desk : DiscountDesk} {input : VoucherInput}
    {picks : VoucherCode.Picks} {e : Invalid}
    (refused : input.validate desk.today desk.codeLength picks = .error e) (s : DiscountStore) :
    (desk.createVoucher input picks).Ends s (.error (.invalid e)) s :=
  (ends_accept_of_invalid refused s).bind_error

theorem ends_updateVoucher (loaded : (voucher id).Ends s (.ok v) s) {update : VoucherUpdate}
    (accepted : v.update update = .ok w) (saved : (saveVoucher w).Ends s (.ok ()) s') :
    (updateVoucher id update).Ends s (.ok w) s' := by
  have updated : Voucher.applyUpdate update v = (.ok (), w) := by
    rw [Voucher.applyUpdate_apply, accepted]
  exact (loaded.bind ((ends_changed updated s).bind
    ((saved.mapError _).bind (ends_pure w _)))).transaction.bind
      ((ends_report _ _).bind (ends_pure w _))

theorem ends_updateVoucher_of_unsaved (loaded : (voucher id).Ends s (.ok v) s)
    {update : VoucherUpdate} (accepted : v.update update = .ok w) {e : StoreError}
    (unsaved : (saveVoucher w).Ends s (.error e) s) :
    (updateVoucher id update).Ends s (.error (.ofCode w.code.text e)) s := by
  have updated : Voucher.applyUpdate update v = (.ok (), w) := by
    rw [Voucher.applyUpdate_apply, accepted]
  exact (loaded.bind ((ends_changed updated s).bind
    (unsaved.mapError _).bind_error)).transaction_error.bind_error

theorem ends_updateVoucher_of_invalid (loaded : (voucher id).Ends s (.ok v) s)
    {update : VoucherUpdate} {e : Invalid} (refused : v.update update = .error e) :
    (updateVoucher id update).Ends s (.error (.invalid e)) s := by
  have kept : Voucher.applyUpdate update v = (.error e, v) := by
    rw [Voucher.applyUpdate_apply, refused]
  exact (loaded.bind (ends_changed_of_invalid kept s).bind_error).transaction_error.bind_error

theorem ends_changeVoucherScope (loaded : (voucher id).Ends s (.ok v) s) {op : ScopeOp}
    {l : CatalogueLists}
    (written : (applyDelta (.voucher id) op (v.changeScope op l).2).Ends s (.ok ()) s') :
    (changeVoucherScope id op l).Ends s (.ok (v.changeScope op l).1) s' := by
  refine Ends.bind (a := v.changeScope op l) (loaded.bind ?_).transaction
    (ends_report_scope _ _ _ s')
  exact (written.mapError _).bind (ends_pure (v.changeScope op l) s')

theorem ends_deleteVoucher (removed : (removeVoucher id).Ends s (.ok ()) s') :
    (deleteVoucher id).Ends s (.ok ()) s' :=
  (removed.mapError _).bind (ends_report _ _)

theorem ends_deleteVoucher_of_absent (absent : (removeVoucher id).Ends s (.error .notFound) s) :
    (deleteVoucher id).Ends s (.error (.voucherNotFound id)) s :=
  (absent.mapError _).bind_error

theorem ends_findVoucher (there : s.rows = some rows) (kept : rows.Kept) {text : String}
    {code : VoucherCode} (parsed : VoucherCode.parse text = .ok code) :
    (findVoucher text).Ends s
      (.ok ((rows.vouchers.find? fun r => r.code = code.text).map fun r =>
        r.voucher (rows.scopeOf (.voucher r.id)))) s :=
  (ends_accept parsed s).bind ((DiscountStore.ends_findVoucher there kept code).mapError _)

theorem ends_findVoucher_of_invalid {text : String} {e : Invalid}
    (refused : VoucherCode.parse text = .error e) (s : DiscountStore) :
    (findVoucher text).Ends s (.error (.invalid e)) s :=
  (ends_accept_of_invalid refused s).bind_error

end Vouchers

section Sales

variable {id : SaleId} {v w : Sale}

theorem ends_sale (there : s.rows = some rows) (found : rows.saleAt? id = some v) :
    (sale id).Ends s (.ok v) s := by
  refine ((ends_loadSale there id).mapError _).bind ?_
  rw [found]
  exact ends_pure v s

theorem ends_sale_of_absent (there : s.rows = some rows) (absent : rows.saleAt? id = none) :
    (sale id).Ends s (.error (.saleNotFound id)) s := by
  refine ((ends_loadSale there id).mapError _).bind ?_
  rw [absent]
  exact ends_throw _ s

theorem ends_createSale {desk : DiscountDesk} {input : SaleInput} {n : NewSale}
    (accepted : input.validate desk.today = .ok n)
    (created : (DiscountStore.createSale n).Ends s (.ok v) s') :
    (desk.createSale input).Ends s (.ok v) s' :=
  (ends_accept accepted s).bind
    ((created.mapError _).bind ((ends_report _ _).bind (ends_pure v _)))

theorem ends_createSale_of_invalid {desk : DiscountDesk} {input : SaleInput} {e : Invalid}
    (refused : input.validate desk.today = .error e) (s : DiscountStore) :
    (desk.createSale input).Ends s (.error (.invalid e)) s :=
  (ends_accept_of_invalid refused s).bind_error

theorem ends_updateSale (loaded : (sale id).Ends s (.ok v) s) {update : SaleUpdate}
    (accepted : v.update update = .ok w) (saved : (saveSale w).Ends s (.ok ()) s') :
    (updateSale id update).Ends s (.ok w) s' := by
  have updated : Sale.applyUpdate update v = (.ok (), w) := by rw [Sale.applyUpdate_apply, accepted]
  exact (loaded.bind ((ends_changed updated s).bind
    ((saved.mapError _).bind (ends_pure w _)))).transaction.bind
      ((ends_report _ _).bind (ends_pure w _))

theorem ends_updateSale_of_invalid (loaded : (sale id).Ends s (.ok v) s) {update : SaleUpdate}
    {e : Invalid} (refused : v.update update = .error e) :
    (updateSale id update).Ends s (.error (.invalid e)) s := by
  have kept : Sale.applyUpdate update v = (.error e, v) := by rw [Sale.applyUpdate_apply, refused]
  exact (loaded.bind (ends_changed_of_invalid kept s).bind_error).transaction_error.bind_error

theorem ends_changeSaleScope (loaded : (sale id).Ends s (.ok v) s) {op : ScopeOp}
    {l : CatalogueLists}
    (written : (applyDelta (.sale id) op (v.changeScope op l).2).Ends s (.ok ()) s') :
    (changeSaleScope id op l).Ends s (.ok (v.changeScope op l).1) s' := by
  refine Ends.bind (a := v.changeScope op l) (loaded.bind ?_).transaction
    (ends_report_scope _ _ _ s')
  exact (written.mapError _).bind (ends_pure (v.changeScope op l) s')

theorem ends_deleteSale (removed : (removeSale id).Ends s (.ok ()) s') :
    (deleteSale id).Ends s (.ok ()) s' :=
  (removed.mapError _).bind (ends_report _ _)

theorem ends_deleteSale_of_absent (absent : (removeSale id).Ends s (.error .notFound) s) :
    (deleteSale id).Ends s (.error (.saleNotFound id)) s :=
  (absent.mapError _).bind_error

end Sales

end DiscountDesk

end BackOffice
