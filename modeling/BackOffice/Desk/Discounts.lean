import BackOffice.Store.Discounts

/-!
# The discount desk

What staff can ask for about vouchers and sales. A change loads the discount, lets the rules decide
and writes down what changed, in one transaction: a request that fails leaves the tables as they
were.
-/

namespace BackOffice

/-- Why the discount desk refuses a request. -/
inductive DiscountDeskError where
  | voucherNotFound (id : VoucherId)
  | saleNotFound (id : SaleId)
  | codeTaken (code : String)
  | invalid (cause : Invalid)
  | store (cause : StoreError)
deriving DecidableEq

namespace DiscountDeskError

def message : DiscountDeskError → String
  | .voucherNotFound id => "voucher " ++ id.toText ++ " not found"
  | .saleNotFound id => "sale " ++ id.toText ++ " not found"
  | .codeTaken code => "voucher code " ++ code ++ " is already in use"
  | .invalid cause => cause.message
  | .store cause => "repository error: " ++ cause.message

/-- What an error of the store means when a voucher's code is written: a conflict is about the
code. -/
def ofCode (code : String) : StoreError → DiscountDeskError
  | .conflict _ => .codeTaken code
  | cause => .store cause

end DiscountDeskError

/-- The desk, with what it takes from its shop and its day. -/
structure DiscountDesk where
  codeLength : Nat := 12
  /-- The day on which requests are made. -/
  today : Date

namespace DiscountDesk

abbrev Request (α : Type) : Type := Work DiscountStore DiscountDeskError α

/-- The outcome of a rule, as a request. -/
def accept {α : Type} : Except Invalid α → Request α
  | .ok a => return a
  | .error e => throw (.invalid e)

/-- A discount as an operation leaves it. -/
def changed {σ : Type} (operation : InPlace σ Invalid Unit) (s : σ) : Request σ :=
  match operation s with
  | (.ok (), s') => return s'
  | (.error e, _) => throw (.invalid e)

/-- A voucher that must be there. -/
def voucher (id : VoucherId) : Request Voucher := do
  match ← (DiscountStore.loadVoucher id).mapError .store with
  | some v => return v
  | none => throw (.voucherNotFound id)

/-- The voucher with a code that a customer typed. -/
def findVoucher (text : String) : Request (Option Voucher) := do
  let code ← accept (VoucherCode.parse text)
  (DiscountStore.findVoucher code).mapError .store

/-- Creates a voucher; without a code of its own it gets one from the picks. -/
def createVoucher (desk : DiscountDesk) (input : VoucherInput) (picks : VoucherCode.Picks) :
    Request Voucher := do
  let new ← accept (input.validate desk.today desk.codeLength picks)
  let v ← (DiscountStore.createVoucher new).mapError (.ofCode new.code.text)
  Work.report (.voucherCreated v.id v.code.text)
  return v

def updateVoucher (id : VoucherId) (update : VoucherUpdate) : Request Voucher := do
  let v ← Work.transaction do
    let v ← changed (Voucher.applyUpdate update) (← voucher id)
    (DiscountStore.saveVoucher v).mapError (.ofCode v.code.text)
    return v
  Work.report .voucherUpdated
  return v

/-- Deletes a voucher with its scope. -/
def deleteVoucher (id : VoucherId) : Request Unit := do
  (DiscountStore.removeVoucher id).mapError fun
    | .notFound => .voucherNotFound id
    | cause => .store cause
  Work.report .voucherDeleted

/-- Changes the scope of a voucher. Nothing is written or reported if nothing changes. -/
def changeVoucherScope (id : VoucherId) (op : ScopeOp) (l : CatalogueLists) : Request Voucher := do
  let (v, delta) ← Work.transaction do
    let (v, delta) := (← voucher id).changeScope op l
    (DiscountStore.applyDelta (.voucher id) op delta).mapError fun e => .store (.database e)
    return (v, delta)
  if !delta.isEmpty then Work.report (.voucherScopeUpdated delta.size)
  return v

/-- A sale that must be there. -/
def sale (id : SaleId) : Request Sale := do
  match ← (DiscountStore.loadSale id).mapError .store with
  | some s => return s
  | none => throw (.saleNotFound id)

def createSale (desk : DiscountDesk) (input : SaleInput) : Request Sale := do
  let new ← accept (input.validate desk.today)
  let s ← (DiscountStore.createSale new).mapError .store
  Work.report (.saleCreated s.id s.name)
  return s

def updateSale (id : SaleId) (update : SaleUpdate) : Request Sale := do
  let s ← Work.transaction do
    let s ← changed (Sale.applyUpdate update) (← sale id)
    (DiscountStore.saveSale s).mapError .store
    return s
  Work.report .saleUpdated
  return s

/-- Deletes a sale with its scope. -/
def deleteSale (id : SaleId) : Request Unit := do
  (DiscountStore.removeSale id).mapError fun
    | .notFound => .saleNotFound id
    | cause => .store cause
  Work.report .saleDeleted

/-- Changes the scope of a sale. Nothing is written or reported if nothing changes. -/
def changeSaleScope (id : SaleId) (op : ScopeOp) (l : CatalogueLists) : Request Sale := do
  let (s, delta) ← Work.transaction do
    let (s, delta) := (← sale id).changeScope op l
    (DiscountStore.applyDelta (.sale id) op delta).mapError fun e => .store (.database e)
    return (s, delta)
  if !delta.isEmpty then Work.report (.saleScopeUpdated delta.size)
  return s

end DiscountDesk

end BackOffice
