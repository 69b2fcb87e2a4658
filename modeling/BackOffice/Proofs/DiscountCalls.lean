import BackOffice.Proofs.DiscountRequests

/-!
# Discounts in the tables and in memory

The administration answers calls from its tables (`DiscountCall.atStore`). The same calls can be
answered from maps of vouchers and sales in memory (`DiscountMemory.answer`), to which the rules for
discounts are applied as they stand. Where the tables hold what is in memory, a call gets the same
answer from both, and afterwards the tables hold again what is in memory; amounts count as numbers.
-/

namespace BackOffice

/-- A call to the administration. -/
inductive DiscountCall where
  | createVoucher (desk : DiscountDesk) (input : VoucherInput) (picks : VoucherCode.Picks)
  | voucher (id : VoucherId)
  | findVoucher (text : String)
  | updateVoucher (id : VoucherId) (update : VoucherUpdate)
  | deleteVoucher (id : VoucherId)
  | changeVoucherScope (id : VoucherId) (op : ScopeOp) (l : CatalogueLists)
  | createSale (desk : DiscountDesk) (input : SaleInput)
  | sale (id : SaleId)
  | updateSale (id : SaleId) (update : SaleUpdate)
  | deleteSale (id : SaleId)
  | changeSaleScope (id : SaleId) (op : ScopeOp) (l : CatalogueLists)

/-- What a call returns. -/
inductive DiscountAnswer where
  | voucher (v : Voucher)
  | sale (s : Sale)
  /-- The voucher with a code, if there is one. -/
  | found (v : Option Voucher)
  | done

/-- The answers differ at most in how amounts are written. -/
inductive DiscountAnswer.Same : DiscountAnswer → DiscountAnswer → Prop
  | voucher {v w : Voucher} (same : v.Same w) : Same (.voucher v) (.voucher w)
  | sale {s t : Sale} (same : s.Same t) : Same (.sale s) (.sale t)
  | found {v w : Option Voucher} (same : Option.Rel Voucher.Same v w) : Same (.found v) (.found w)
  | done : Same .done .done

namespace DiscountCall

/-- Answers a call from the tables. -/
def atStore : DiscountCall → DiscountDesk.Request DiscountAnswer
  | .createVoucher desk input picks => .voucher <$> desk.createVoucher input picks
  | .voucher id => .voucher <$> DiscountDesk.voucher id
  | .findVoucher text => .found <$> DiscountDesk.findVoucher text
  | .updateVoucher id update => .voucher <$> DiscountDesk.updateVoucher id update
  | .deleteVoucher id => (fun _ => .done) <$> DiscountDesk.deleteVoucher id
  | .changeVoucherScope id op l => .voucher <$> DiscountDesk.changeVoucherScope id op l
  | .createSale desk input => .sale <$> desk.createSale input
  | .sale id => .sale <$> DiscountDesk.sale id
  | .updateSale id update => .sale <$> DiscountDesk.updateSale id update
  | .deleteSale id => (fun _ => .done) <$> DiscountDesk.deleteSale id
  | .changeSaleScope id op l => .sale <$> DiscountDesk.changeSaleScope id op l

/-- How many keys of vouchers a call takes at most. -/
def voucherKeys : DiscountCall → Nat
  | .createVoucher .. => 1
  | _ => 0

/-- How many keys of sales a call takes at most. -/
def saleKeys : DiscountCall → Nat
  | .createSale .. => 1
  | _ => 0

end DiscountCall

/-- Discounts in memory. -/
structure DiscountMemory where
  vouchers : Assoc VoucherId Voucher := .empty
  sales : Assoc SaleId Sale := .empty
  /-- How many keys of vouchers have been used up. -/
  vouchersGiven : Nat := 0
  /-- How many keys of sales have been used up. -/
  salesGiven : Nat := 0

namespace DiscountMemory

/-- Whether a voucher of another key has a code. -/
def codeTaken (m : DiscountMemory) (id : VoucherId) (code : VoucherCode) : Bool :=
  m.vouchers.entries.any fun e => e.1 ≠ id ∧ e.2.code = code

/-- Why a voucher that satisfies the rules cannot be kept, if it cannot: its limit is too large to
be stored, or another voucher has its code. -/
def obstacle? (m : DiscountMemory) (v : Voucher) : Option DiscountDeskError :=
  if ¬v.Fits then some (.store (.database .countTooLarge))
  else if m.codeTaken v.id v.code then some (.codeTaken v.code.text)
  else none

/-- Answers a call from memory. A voucher that is refused for its code has used up a key. -/
def answer (call : DiscountCall) (m : DiscountMemory) :
    Except DiscountDeskError DiscountAnswer × DiscountMemory :=
  match call with
  | .createVoucher desk input picks =>
    match input.validate desk.today desk.codeLength picks with
    | .error e => (.error (.invalid e), m)
    | .ok n =>
      let v := n.withId (Sequence.next m.vouchersGiven)
      let m' := if v.Fits then { m with vouchersGiven := m.vouchersGiven + 1 } else m
      match m.obstacle? v with
      | some e => (.error e, m')
      | none => (.ok (.voucher v), { m' with vouchers := m.vouchers.put v.id v })
  | .voucher id =>
    match m.vouchers.get? id with
    | none => (.error (.voucherNotFound id), m)
    | some v => (.ok (.voucher v), m)
  | .findVoucher text =>
    match VoucherCode.parse text with
    | .error e => (.error (.invalid e), m)
    | .ok code => (.ok (.found ((m.vouchers.entries.find? fun e => e.2.code = code).map (·.2))), m)
  | .updateVoucher id update =>
    match m.vouchers.get? id with
    | none => (.error (.voucherNotFound id), m)
    | some v =>
      match v.update update with
      | .error e => (.error (.invalid e), m)
      | .ok w =>
        match m.obstacle? w with
        | some e => (.error e, m)
        | none => (.ok (.voucher w), { m with vouchers := m.vouchers.put id w })
  | .deleteVoucher id =>
    match m.vouchers.get? id with
    | none => (.error (.voucherNotFound id), m)
    | some _ => (.ok .done, { m with vouchers := m.vouchers.erase id })
  | .changeVoucherScope id op l =>
    match m.vouchers.get? id with
    | none => (.error (.voucherNotFound id), m)
    | some v =>
      let w := (v.changeScope op l).1
      (.ok (.voucher w), { m with vouchers := m.vouchers.put id w })
  | .createSale desk input =>
    match input.validate desk.today with
    | .error e => (.error (.invalid e), m)
    | .ok n =>
      let s := n.withId (Sequence.next m.salesGiven)
      (.ok (.sale s), { m with sales := m.sales.put s.id s, salesGiven := m.salesGiven + 1 })
  | .sale id =>
    match m.sales.get? id with
    | none => (.error (.saleNotFound id), m)
    | some s => (.ok (.sale s), m)
  | .updateSale id update =>
    match m.sales.get? id with
    | none => (.error (.saleNotFound id), m)
    | some s =>
      match s.update update with
      | .error e => (.error (.invalid e), m)
      | .ok t => (.ok (.sale t), { m with sales := m.sales.put id t })
  | .deleteSale id =>
    match m.sales.get? id with
    | none => (.error (.saleNotFound id), m)
    | some _ => (.ok .done, { m with sales := m.sales.erase id })
  | .changeSaleScope id op l =>
    match m.sales.get? id with
    | none => (.error (.saleNotFound id), m)
    | some s =>
      let t := (s.changeScope op l).1
      (.ok (.sale t), { m with sales := m.sales.put id t })

section Keys

theorem vouchersGiven_answer_le (m : DiscountMemory) (call : DiscountCall) :
    (m.answer call).2.vouchersGiven ≤ m.vouchersGiven + call.voucherKeys := by
  cases call <;> simp only [answer, DiscountCall.voucherKeys] <;> repeat' split
  all_goals simp

theorem salesGiven_answer_le (m : DiscountMemory) (call : DiscountCall) :
    (m.answer call).2.salesGiven ≤ m.salesGiven + call.saleKeys := by
  cases call <;> simp only [answer, DiscountCall.saleKeys] <;> repeat' split
  all_goals simp

end Keys

/-- The tables hold the discounts in memory, and have given out the same keys. -/
structure HeldBy (m : DiscountMemory) (s : DiscountStore) (rows : DiscountRows) : Prop where
  there : s.rows = some rows
  kept : rows.Kept
  vouchers : ∀ id, Option.Rel Voucher.Same (rows.voucherAt? id) (m.vouchers.get? id)
  sales : ∀ id, Option.Rel Sale.Same (rows.saleAt? id) (m.sales.get? id)
  vouchersGiven : s.vouchersGiven = m.vouchersGiven
  salesGiven : s.salesGiven = m.salesGiven
  vouchersNumbered : m.vouchers.Numbered m.vouchersGiven
  salesNumbered : m.sales.Numbered m.salesGiven

/-- A call is answered from the tables as from memory, and the tables then hold what is in memory.
-/
def Answered (m : DiscountMemory) (s : DiscountStore) (call : DiscountCall) : Prop :=
  ∃ s' rows' r, call.atStore.Ends s r s' ∧ Agree DiscountAnswer.Same r (m.answer call).1 ∧
    (m.answer call).2.HeldBy s' rows'

variable {m : DiscountMemory} {s : DiscountStore} {rows : DiscountRows}

section Lookups

theorem rel_cases {α β : Type} {R : α → β → Prop} {x : Option α} {y : Option β}
    (related : Option.Rel R x y) :
    (x = none ∧ y = none) ∨ ∃ a b, x = some a ∧ y = some b ∧ R a b := by
  cases related with
  | none => exact .inl ⟨rfl, rfl⟩
  | some same => exact .inr ⟨_, _, rfl, rfl, same⟩

theorem codeTaken_iff {id : VoucherId} {code : VoucherCode} :
    m.codeTaken id code = true ↔
      ∃ id' v, m.vouchers.get? id' = some v ∧ id' ≠ id ∧ v.code = code := by
  rw [codeTaken, List.any_eq_true]
  constructor
  · rintro ⟨⟨id', v⟩, member, taken⟩
    exact ⟨id', v, Assoc.get?_eq_some_iff.2 member, of_decide_eq_true taken⟩
  · rintro ⟨id', v, found, taken⟩
    exact ⟨(id', v), Assoc.get?_eq_some_iff.1 found, decide_eq_true taken⟩

/-- A code is taken in the tables exactly if it is in memory. -/
theorem HeldBy.codeTaken_eq (held : m.HeldBy s rows) (id : VoucherId) (code : VoucherCode) :
    rows.codeTaken id code.text = m.codeTaken id code := by
  rw [Bool.eq_iff_iff, held.kept.codeTaken_iff, codeTaken_iff]
  refine exists_congr fun id' => ?_
  rcases rel_cases (held.vouchers id') with ⟨absent, none⟩ | ⟨v, w, found, inMemory, same⟩
  · simp [absent, none]
  · simp [found, inMemory, same.code_eq]

/-- The same obstacles stand in the way of a voucher in the tables and in memory. -/
theorem HeldBy.obstacle_cases (held : m.HeldBy s rows) {v w : Voucher} (same : v.Same w) :
    (¬v.Fits ∧ m.obstacle? w = some (.store (.database .countTooLarge))) ∨
      (v.Fits ∧ rows.codeTaken v.id v.code.text = true ∧
        m.obstacle? w = some (.codeTaken v.code.text)) ∨
      (v.Fits ∧ rows.codeTaken v.id v.code.text = false ∧ m.obstacle? w = none) := by
  have fits_iff : v.Fits ↔ w.Fits := by rw [Voucher.Fits, Voucher.Fits, same.usageLimit_eq]
  rw [held.codeTaken_eq, same.id_eq, same.code_eq, fits_iff, obstacle?]
  by_cases fits : w.Fits
  · cases taken : m.codeTaken w.id w.code <;> simp [fits]
  · simp [fits]

/-- The next keys are those of no discount. -/
theorem HeldBy.next_new (held : m.HeldBy s rows) (left : m.vouchersGiven < Sequence.last) :
    rows.voucher? s.voucherKey = none := by
  have absent := held.vouchersNumbered.next_new left
  have same := held.vouchers (Sequence.next m.vouchersGiven)
  rw [absent] at same
  rw [DiscountStore.voucherKey, held.vouchersGiven, ← DiscountRows.voucherAt?_eq_none_iff]
  rcases rel_cases same with ⟨none, -⟩ | ⟨_, _, _, some, _⟩
  · exact none
  · cases some

theorem HeldBy.next_sale_new (held : m.HeldBy s rows) (left : m.salesGiven < Sequence.last) :
    rows.sale? s.saleKey = none := by
  have absent := held.salesNumbered.next_new left
  have same := held.sales (Sequence.next m.salesGiven)
  rw [absent] at same
  rw [DiscountStore.saleKey, held.salesGiven, ← DiscountRows.saleAt?_eq_none_iff]
  rcases rel_cases same with ⟨none, -⟩ | ⟨_, _, _, some, _⟩
  · exact none
  · cases some

theorem HeldBy.voucherAt?_of_entry (held : m.HeldBy s rows) {e : VoucherId × Voucher}
    (member : e ∈ m.vouchers.entries) : ∃ v, rows.voucherAt? e.1 = some v ∧ v.Same e.2 := by
  have inMemory := Assoc.get?_eq_some_iff.2 member
  have same := held.vouchers e.1
  rw [inMemory] at same
  rcases rel_cases same with ⟨-, none⟩ | ⟨v, w, found, some, same⟩
  · cases none
  · cases some
    exact ⟨v, found, same⟩

/-- In memory, too, a code names one voucher. -/
theorem HeldBy.find?_entry (held : m.HeldBy s rows) {id : VoucherId} {w : Voucher}
    (inMemory : m.vouchers.get? id = some w) :
    m.vouchers.entries.find? (fun e => e.2.code = w.code) = some (id, w) := by
  have member := Assoc.get?_eq_some_iff.1 inMemory
  have some : (m.vouchers.entries.find? fun e => e.2.code = w.code).isSome := by
    rw [List.find?_isSome]
    exact ⟨(id, w), member, by simp⟩
  obtain ⟨e, found⟩ := Option.isSome_iff_exists.1 some
  have there := List.mem_of_find?_eq_some found
  have coded : e.2.code = w.code := by simpa using List.find?_some found
  obtain ⟨v, here, same⟩ := held.voucherAt?_of_entry member
  obtain ⟨v', here', same'⟩ := held.voucherAt?_of_entry there
  have id_eq : e.1 = id := held.kept.id_eq_of_code here' here
    (by rw [same'.code_eq, same.code_eq, coded])
  have value := Assoc.get?_eq_some_iff.2 there
  rw [id_eq, inMemory] at value
  rw [found, ← id_eq, Option.some.inj value]

/-- A code finds the same voucher in the tables and in memory. -/
theorem HeldBy.find_code (held : m.HeldBy s rows) (code : VoucherCode) :
    Option.Rel Voucher.Same
      ((rows.vouchers.find? fun r => r.code = code.text).map fun r =>
        r.voucher (rows.scopeOf (.voucher r.id)))
      ((m.vouchers.entries.find? fun e => e.2.code = code).map (·.2)) := by
  cases row : rows.vouchers.find? fun r => r.code = code.text with
  | none =>
    have none : m.vouchers.entries.find? (fun e => e.2.code = code) = none := by
      rw [List.find?_eq_none]
      intro e member coded
      obtain ⟨v, found, same⟩ := held.voucherAt?_of_entry member
      obtain ⟨r, there, rfl⟩ := Option.map_eq_some_iff.1 found
      have code_eq := same.code_eq.trans (of_decide_eq_true coded)
      exact List.find?_eq_none.1 row r (List.mem_of_find?_eq_some there)
        (decide_eq_true (congrArg VoucherCode.text code_eq))
    rw [none]
    exact .none
  | some r =>
    have found := held.kept.voucherAt?_of_mem (List.mem_of_find?_eq_some row)
    have coded : r.code = code.text := by simpa using List.find?_some row
    have same := held.vouchers r.id
    rw [found] at same
    rcases rel_cases same with ⟨none, -⟩ | ⟨v, w, here, inMemory, same⟩
    · cases none
    · cases here
      have code_eq : w.code = code := same.code_eq.symm.trans (congrArg VoucherCode.mk coded)
      have entry := held.find?_entry inMemory
      rw [code_eq] at entry
      rw [entry]
      exact .some same

end Lookups

section Steps

theorem HeldBy.put_voucher (held : m.HeldBy s rows) {rows' : DiscountRows} (kept : rows'.Kept)
    {id : VoucherId} {old v w : Voucher} (there : m.vouchers.get? id = some old) (same : v.Same w)
    (vouchers : ∀ id', rows'.voucherAt? id' = if id' = id then some v else rows.voucherAt? id')
    (sales : ∀ id', rows'.saleAt? id' = rows.saleAt? id') :
    ({ m with vouchers := m.vouchers.put id w } : DiscountMemory).HeldBy
      { s with rows := some rows' } rows' :=
  { held with
    there := rfl
    kept := kept
    vouchers := Assoc.rel_put held.vouchers same vouchers
    sales := fun id' => by rw [sales]; exact held.sales id'
    vouchersNumbered := held.vouchersNumbered.put there w }

theorem HeldBy.add_voucher (held : m.HeldBy s rows) {rows' : DiscountRows} (kept : rows'.Kept)
    {id : VoucherId} {v w : Voucher} (next : id = Sequence.next m.vouchersGiven) (same : v.Same w)
    (vouchers : ∀ id', rows'.voucherAt? id' = if id' = id then some v else rows.voucherAt? id')
    (sales : ∀ id', rows'.saleAt? id' = rows.saleAt? id') :
    ({ m with
      vouchers := m.vouchers.put id w
      vouchersGiven := m.vouchersGiven + 1 } : DiscountMemory).HeldBy
      { s with rows := some rows', vouchersGiven := s.vouchersGiven + 1 } rows' :=
  { held with
    there := rfl
    kept := kept
    vouchers := Assoc.rel_put held.vouchers same vouchers
    sales := fun id' => by rw [sales]; exact held.sales id'
    vouchersGiven := congrArg (· + 1) held.vouchersGiven
    vouchersNumbered := next ▸ held.vouchersNumbered.put_next w }

theorem HeldBy.put_sale (held : m.HeldBy s rows) {rows' : DiscountRows} (kept : rows'.Kept)
    {id : SaleId} {old v w : Sale} (there : m.sales.get? id = some old) (same : v.Same w)
    (sales : ∀ id', rows'.saleAt? id' = if id' = id then some v else rows.saleAt? id')
    (vouchers : ∀ id', rows'.voucherAt? id' = rows.voucherAt? id') :
    ({ m with sales := m.sales.put id w } : DiscountMemory).HeldBy
      { s with rows := some rows' } rows' :=
  { held with
    there := rfl
    kept := kept
    sales := Assoc.rel_put held.sales same sales
    vouchers := fun id' => by rw [vouchers]; exact held.vouchers id'
    salesNumbered := held.salesNumbered.put there w }

theorem HeldBy.add_sale (held : m.HeldBy s rows) {rows' : DiscountRows} (kept : rows'.Kept)
    {id : SaleId} {v w : Sale} (next : id = Sequence.next m.salesGiven) (same : v.Same w)
    (sales : ∀ id', rows'.saleAt? id' = if id' = id then some v else rows.saleAt? id')
    (vouchers : ∀ id', rows'.voucherAt? id' = rows.voucherAt? id') :
    ({ m with
      sales := m.sales.put id w
      salesGiven := m.salesGiven + 1 } : DiscountMemory).HeldBy
      { s with rows := some rows', salesGiven := s.salesGiven + 1 } rows' :=
  { held with
    there := rfl
    kept := kept
    sales := Assoc.rel_put held.sales same sales
    vouchers := fun id' => by rw [vouchers]; exact held.vouchers id'
    salesGiven := congrArg (· + 1) held.salesGiven
    salesNumbered := next ▸ held.salesNumbered.put_next w }

theorem HeldBy.answered_voucher (held : m.HeldBy s rows) (id : VoucherId) :
    m.Answered s (.voucher id) := by
  rcases rel_cases (held.vouchers id) with ⟨absent, none⟩ | ⟨v, w, found, inMemory, same⟩
  · have ends := DiscountDesk.ends_voucher_of_absent held.there held.kept absent
    simp only [Answered, answer, none]
    exact ⟨s, rows, _, ends.map DiscountAnswer.voucher, .error _, held⟩
  · have ends := DiscountDesk.ends_voucher held.there held.kept found
    simp only [Answered, answer, inMemory]
    exact ⟨s, rows, _, ends.map DiscountAnswer.voucher, .ok (.voucher same), held⟩

theorem HeldBy.answered_findVoucher (held : m.HeldBy s rows) (text : String) :
    m.Answered s (.findVoucher text) := by
  cases parsed : VoucherCode.parse text with
  | error e =>
    have ends := DiscountDesk.ends_findVoucher_of_invalid parsed s
    simp only [Answered, answer, parsed]
    exact ⟨s, rows, _, ends.map DiscountAnswer.found, .error _, held⟩
  | ok code =>
    have ends := DiscountDesk.ends_findVoucher held.there held.kept parsed
    simp only [Answered, answer, parsed]
    exact ⟨s, rows, _, ends.map DiscountAnswer.found, .ok (.found (held.find_code code)), held⟩

theorem HeldBy.answered_deleteVoucher (held : m.HeldBy s rows) (id : VoucherId) :
    m.Answered s (.deleteVoucher id) := by
  rcases rel_cases (held.vouchers id) with ⟨absent, none⟩ | ⟨v, w, found, inMemory, same⟩
  · have ends := DiscountDesk.ends_deleteVoucher_of_absent
      (DiscountStore.ends_removeVoucher_of_absent held.there
        (DiscountRows.voucherAt?_eq_none_iff.1 absent))
    simp only [Answered, answer, none]
    exact ⟨s, rows, _, ends.map fun _ => DiscountAnswer.done, .error _, held⟩
  · obtain ⟨r, row, -⟩ := Option.map_eq_some_iff.1 found
    have ends := DiscountDesk.ends_deleteVoucher (DiscountStore.ends_removeVoucher held.there row)
    simp only [Answered, answer, inMemory]
    refine ⟨_, rows.dropVoucher id, _, ends.map fun _ => DiscountAnswer.done, .ok .done, ?_⟩
    exact { held with
      there := rfl
      kept := held.kept.dropVoucher id
      vouchers := Assoc.rel_erase held.vouchers (rows.voucherAt?_dropVoucher id)
      sales := fun id' => by rw [rows.saleAt?_dropVoucher]; exact held.sales id'
      vouchersNumbered := held.vouchersNumbered.erase id }

theorem HeldBy.answered_changeVoucherScope (held : m.HeldBy s rows) (id : VoucherId)
    (op : ScopeOp) (l : CatalogueLists) : m.Answered s (.changeVoucherScope id op l) := by
  rcases rel_cases (held.vouchers id) with ⟨absent, none⟩ | ⟨v, w, found, inMemory, same⟩
  · have loaded := DiscountDesk.ends_voucher_of_absent held.there held.kept absent
    simp only [Answered, answer, none]
    exact ⟨s, rows, _, loaded.bind_error.transaction_error.bind_error.map DiscountAnswer.voucher,
      .error _, held⟩
  · obtain ⟨r, row, read⟩ := Option.map_eq_some_iff.1 found
    have owned : rows.hasOwner (.voucher id) = true := by rw [DiscountRows.hasOwner, row]; rfl
    have ends := DiscountDesk.ends_changeVoucherScope
      (DiscountDesk.ends_voucher held.there held.kept found)
      (DiscountStore.ends_applyDelta held.there owned op (v.changeScope op l).2)
    obtain ⟨changed, -⟩ := same.changeScope op l
    simp only [Answered, answer, inMemory]
    refine ⟨_, _, _, ends.map DiscountAnswer.voucher, .ok (.voucher changed),
      held.put_voucher (held.kept.rescoped owned op _) inMemory changed
        (DiscountRows.voucherAt?_rescoped_delta found op l) ?_⟩
    exact fun id' => DiscountRows.saleAt?_rescoped_of_ne (by simp) op _

theorem HeldBy.answered_updateVoucher (held : m.HeldBy s rows) (id : VoucherId)
    (update : VoucherUpdate) : m.Answered s (.updateVoucher id update) := by
  rcases rel_cases (held.vouchers id) with ⟨absent, none⟩ | ⟨v, w, found, inMemory, same⟩
  · have loaded := DiscountDesk.ends_voucher_of_absent held.there held.kept absent
    simp only [Answered, answer, none]
    exact ⟨s, rows, _, loaded.bind_error.transaction_error.bind_error.map DiscountAnswer.voucher,
      .error _, held⟩
  have loaded := DiscountDesk.ends_voucher held.there held.kept found
  have agree := same.update update
  cases updated : v.update update with
  | error e =>
    rw [updated] at agree
    have ends := DiscountDesk.ends_updateVoucher_of_invalid loaded updated
    simp only [Answered, answer, inMemory, agree.error_left]
    exact ⟨s, rows, _, ends.map DiscountAnswer.voucher, .error _, held⟩
  | ok v' =>
    rw [updated] at agree
    obtain ⟨w', inMemory', same'⟩ := agree.ok_left
    obtain ⟨id_eq, used_eq, scope_eq, passes⟩ := Voucher.update_ok updated
    obtain ⟨old, row, read⟩ := Option.map_eq_some_iff.1 found
    rw [DiscountRows.id_of_voucherAt? found] at id_eq
    rw [← id_eq] at row
    simp only [Answered, answer, inMemory, inMemory']
    rcases held.obstacle_cases same' with ⟨large, obstacle⟩ | ⟨fits, taken, obstacle⟩ |
      ⟨fits, free, obstacle⟩
    · have ends := DiscountDesk.ends_updateVoucher_of_unsaved loaded updated
        (DiscountStore.ends_saveVoucher_of_large large)
      rw [obstacle]
      exact ⟨s, rows, _, ends.map DiscountAnswer.voucher, .error _, held⟩
    · have ends := DiscountDesk.ends_updateVoucher_of_unsaved loaded updated
        (DiscountStore.ends_saveVoucher_of_taken held.there held.kept row fits passes taken)
      rw [obstacle]
      exact ⟨s, rows, _, ends.map DiscountAnswer.voucher, .error _, held⟩
    · have ends := DiscountDesk.ends_updateVoucher loaded updated
        (DiscountStore.ends_saveVoucher held.there held.kept row fits passes free)
      have countable := fits.countable
        (held.kept.countable old (List.mem_of_find?_eq_some row)).used
      obtain ⟨x, saved, vouchers⟩ := DiscountRows.exists_voucherAt?_putVoucher row
        (by rw [used_eq, ← read]; rfl) (by rw [scope_eq, ← read, id_eq]; rfl)
      rw [obstacle]
      rw [id_eq] at vouchers
      exact ⟨_, _, _, ends.map DiscountAnswer.voucher, .ok (.voucher same'),
        held.put_voucher (held.kept.putVoucher countable free) inMemory (saved.trans same') vouchers
          fun _ => rfl⟩

theorem HeldBy.answered_createVoucher (held : m.HeldBy s rows)
    (left : m.vouchersGiven < Sequence.last) (desk : DiscountDesk) (input : VoucherInput)
    (picks : VoucherCode.Picks) : m.Answered s (.createVoucher desk input picks) := by
  cases accepted : input.validate desk.today desk.codeLength picks with
  | error e =>
    have ends := DiscountDesk.ends_createVoucher_of_invalid accepted s
    simp only [Answered, answer, accepted]
    exact ⟨s, rows, _, ends.map DiscountAnswer.voucher, .error _, held⟩
  | ok n =>
    have key : Sequence.next m.vouchersGiven = s.voucherKey := by
      rw [DiscountStore.voucherKey, held.vouchersGiven]
    have new := held.next_new left
    have passes := VoucherInput.validate_check accepted s.voucherKey
    rw [← held.vouchersGiven] at left
    simp only [Answered, answer, accepted, key]
    rcases held.obstacle_cases (.refl (n.withId s.voucherKey)) with ⟨large, obstacle⟩ |
      ⟨fits, taken, obstacle⟩ | ⟨fits, free, obstacle⟩
    · have ends := DiscountDesk.ends_createVoucher accepted
        (DiscountStore.ends_createVoucher_of_large large)
      rw [obstacle, if_neg large]
      exact ⟨s, rows, _, ends.map DiscountAnswer.voucher, .error _, held⟩
    · have ends := DiscountDesk.ends_createVoucher accepted
        (DiscountStore.ends_createVoucher_of_taken held.there left new fits passes taken)
      rw [obstacle, if_pos fits]
      refine ⟨_, rows, _, ends.map DiscountAnswer.voucher, .error _, ?_⟩
      exact { held with
        vouchersGiven := congrArg (· + 1) held.vouchersGiven
        vouchersNumbered := held.vouchersNumbered.succ }
    · have ends := DiscountDesk.ends_createVoucher accepted
        (DiscountStore.ends_createVoucher held.there left new fits passes free)
      have countable : ((n.withId s.voucherKey).row 0).Countable := fits.countable (by decide)
      obtain ⟨x, same, vouchers⟩ := held.kept.exists_voucherAt?_new (n := n) new
      rw [obstacle, if_pos fits]
      have kept := (held.kept.addVoucher new countable free).rescoped
        (DiscountRows.hasOwner_addVoucher new) .add n.scope
      have sales : ∀ id, ((rows.addVoucher ((n.withId s.voucherKey).row 0)).rescoped
          (.voucher s.voucherKey) .add n.scope).saleAt? id = rows.saleAt? id :=
        fun _ => DiscountRows.saleAt?_rescoped_of_ne (by simp) _ _
      exact ⟨_, _, _, ends.map DiscountAnswer.voucher, .ok (.voucher (.refl _)),
        held.add_voucher kept key.symm same vouchers sales⟩

theorem HeldBy.answered_sale (held : m.HeldBy s rows) (id : SaleId) : m.Answered s (.sale id) := by
  rcases rel_cases (held.sales id) with ⟨absent, none⟩ | ⟨v, w, found, inMemory, same⟩
  · have ends := DiscountDesk.ends_sale_of_absent held.there absent
    simp only [Answered, answer, none]
    exact ⟨s, rows, _, ends.map DiscountAnswer.sale, .error _, held⟩
  · have ends := DiscountDesk.ends_sale held.there found
    simp only [Answered, answer, inMemory]
    exact ⟨s, rows, _, ends.map DiscountAnswer.sale, .ok (.sale same), held⟩

theorem HeldBy.answered_deleteSale (held : m.HeldBy s rows) (id : SaleId) :
    m.Answered s (.deleteSale id) := by
  rcases rel_cases (held.sales id) with ⟨absent, none⟩ | ⟨v, w, found, inMemory, same⟩
  · have ends := DiscountDesk.ends_deleteSale_of_absent
      (DiscountStore.ends_removeSale_of_absent held.there
        (DiscountRows.saleAt?_eq_none_iff.1 absent))
    simp only [Answered, answer, none]
    exact ⟨s, rows, _, ends.map fun _ => DiscountAnswer.done, .error _, held⟩
  · obtain ⟨r, row, -⟩ := Option.map_eq_some_iff.1 found
    have ends := DiscountDesk.ends_deleteSale (DiscountStore.ends_removeSale held.there row)
    simp only [Answered, answer, inMemory]
    refine ⟨_, rows.dropSale id, _, ends.map fun _ => DiscountAnswer.done, .ok .done, ?_⟩
    exact { held with
      there := rfl
      kept := held.kept.dropSale id
      sales := Assoc.rel_erase held.sales (rows.saleAt?_dropSale id)
      vouchers := fun id' => by rw [rows.voucherAt?_dropSale]; exact held.vouchers id'
      salesNumbered := held.salesNumbered.erase id }

theorem HeldBy.answered_changeSaleScope (held : m.HeldBy s rows) (id : SaleId) (op : ScopeOp)
    (l : CatalogueLists) : m.Answered s (.changeSaleScope id op l) := by
  rcases rel_cases (held.sales id) with ⟨absent, none⟩ | ⟨v, w, found, inMemory, same⟩
  · have loaded := DiscountDesk.ends_sale_of_absent held.there absent
    simp only [Answered, answer, none]
    exact ⟨s, rows, _, loaded.bind_error.transaction_error.bind_error.map DiscountAnswer.sale,
      .error _, held⟩
  · obtain ⟨r, row, read⟩ := Option.map_eq_some_iff.1 found
    have owned : rows.hasOwner (.sale id) = true := by rw [DiscountRows.hasOwner, row]; rfl
    have ends := DiscountDesk.ends_changeSaleScope (DiscountDesk.ends_sale held.there found)
      (DiscountStore.ends_applyDelta held.there owned op (v.changeScope op l).2)
    obtain ⟨changed, -⟩ := same.changeScope op l
    simp only [Answered, answer, inMemory]
    refine ⟨_, _, _, ends.map DiscountAnswer.sale, .ok (.sale changed),
      held.put_sale (held.kept.rescoped owned op _) inMemory changed
        (DiscountRows.saleAt?_rescoped_delta found op l) ?_⟩
    exact fun id' => DiscountRows.voucherAt?_rescoped_of_ne (by simp) op _

theorem HeldBy.answered_updateSale (held : m.HeldBy s rows) (id : SaleId) (update : SaleUpdate) :
    m.Answered s (.updateSale id update) := by
  rcases rel_cases (held.sales id) with ⟨absent, none⟩ | ⟨v, w, found, inMemory, same⟩
  · have loaded := DiscountDesk.ends_sale_of_absent held.there absent
    simp only [Answered, answer, none]
    exact ⟨s, rows, _, loaded.bind_error.transaction_error.bind_error.map DiscountAnswer.sale,
      .error _, held⟩
  have loaded := DiscountDesk.ends_sale held.there found
  have agree := same.update update
  cases updated : v.update update with
  | error e =>
    rw [updated] at agree
    have ends := DiscountDesk.ends_updateSale_of_invalid loaded updated
    simp only [Answered, answer, inMemory, agree.error_left]
    exact ⟨s, rows, _, ends.map DiscountAnswer.sale, .error _, held⟩
  | ok v' =>
    rw [updated] at agree
    obtain ⟨w', inMemory', same'⟩ := agree.ok_left
    obtain ⟨id_eq, scope_eq, passes⟩ := Sale.update_ok updated
    obtain ⟨old, row, read⟩ := Option.map_eq_some_iff.1 found
    rw [DiscountRows.id_of_saleAt? found] at id_eq
    rw [← id_eq] at row
    have ends := DiscountDesk.ends_updateSale loaded updated
      (DiscountStore.ends_saveSale held.there row passes)
    have present : (rows.sale? v'.id).isSome := by rw [row]; rfl
    have scope : v'.scope = rows.scopeOf (.sale v'.id) := by rw [scope_eq, ← read, id_eq]; rfl
    obtain ⟨x, saved, sales⟩ := DiscountRows.exists_saleAt?_putSale present scope
    rw [id_eq] at sales
    simp only [Answered, answer, inMemory, inMemory']
    exact ⟨_, _, _, ends.map DiscountAnswer.sale, .ok (.sale same'),
      held.put_sale (held.kept.putSale _) inMemory (saved.trans same') sales fun _ => rfl⟩

theorem HeldBy.answered_createSale (held : m.HeldBy s rows) (left : m.salesGiven < Sequence.last)
    (desk : DiscountDesk) (input : SaleInput) : m.Answered s (.createSale desk input) := by
  cases accepted : input.validate desk.today with
  | error e =>
    have ends := DiscountDesk.ends_createSale_of_invalid accepted s
    simp only [Answered, answer, accepted]
    exact ⟨s, rows, _, ends.map DiscountAnswer.sale, .error _, held⟩
  | ok n =>
    have key : Sequence.next m.salesGiven = s.saleKey := by
      rw [DiscountStore.saleKey, held.salesGiven]
    have new := held.next_sale_new left
    have passes := SaleInput.validate_check accepted s.saleKey
    rw [← held.salesGiven] at left
    have ends := DiscountDesk.ends_createSale accepted
      (DiscountStore.ends_createSale held.there left new passes)
    obtain ⟨x, same, sales⟩ := held.kept.exists_saleAt?_new (n := n) new
    simp only [Answered, answer, accepted, key]
    exact ⟨_, _, _, ends.map DiscountAnswer.sale, .ok (.sale (.refl _)),
      held.add_sale (held.kept.addSale new) key.symm same sales fun _ => rfl⟩

/-- **One call is answered from the tables as from memory**, as long as there are keys. -/
theorem HeldBy.answered (held : m.HeldBy s rows) (call : DiscountCall)
    (enough : m.vouchersGiven + call.voucherKeys ≤ Sequence.last)
    (enough' : m.salesGiven + call.saleKeys ≤ Sequence.last) : m.Answered s call := by
  cases call with
  | createVoucher desk input picks => exact held.answered_createVoucher enough desk input picks
  | voucher id => exact held.answered_voucher id
  | findVoucher text => exact held.answered_findVoucher text
  | updateVoucher id update => exact held.answered_updateVoucher id update
  | deleteVoucher id => exact held.answered_deleteVoucher id
  | changeVoucherScope id op l => exact held.answered_changeVoucherScope id op l
  | createSale desk input => exact held.answered_createSale enough' desk input
  | sale id => exact held.answered_sale id
  | updateSale id update => exact held.answered_updateSale id update
  | deleteSale id => exact held.answered_deleteSale id
  | changeSaleScope id op l => exact held.answered_changeSaleScope id op l

end Steps

end DiscountMemory

end BackOffice
