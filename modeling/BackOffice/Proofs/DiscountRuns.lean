import BackOffice.Proofs.DiscountCalls
import BackOffice.Store.Site

/-!
# Runs of the administration

The administration starts from tables that the migrations have built and gets calls one after
another. Whatever the calls, the tables and the memory give the same answers and hold the same
discounts (`DiscountMemory.discounts_answered_as_memory`). Which calls are refused, and for which
cause if there are several, is read off the memory (`DiscountMemory.refusal?`).
-/

namespace BackOffice

/-- What a rule refuses. -/
def Discount.refused? {α : Type} : Except Invalid α → Option DiscountDeskError
  | .error e => some (.invalid e)
  | .ok _ => none

namespace DiscountMemory

variable {m : DiscountMemory} {s : DiscountStore} {rows : DiscountRows}

section Refusals

/-- Why a voucher that comes from the rules is not kept, if it is not: the rules refuse it, or
else its limit is too large, or else another voucher has its code. -/
def voucherRefusal? (m : DiscountMemory) : Except Invalid Voucher → Option DiscountDeskError
  | .error e => some (.invalid e)
  | .ok v => m.obstacle? v

/-- Why a call about a voucher is refused if it only has to be there. -/
def absentVoucher? (m : DiscountMemory) (id : VoucherId) : Option DiscountDeskError :=
  if (m.vouchers.get? id).isSome then none else some (.voucherNotFound id)

/-- Why a call about a sale is refused if it only has to be there. -/
def absentSale? (m : DiscountMemory) (id : SaleId) : Option DiscountDeskError :=
  if (m.sales.get? id).isSome then none else some (.saleNotFound id)

/-- Why a call is refused, if it is. -/
def refusal? (m : DiscountMemory) : DiscountCall → Option DiscountDeskError
  | .createVoucher desk input picks =>
    m.voucherRefusal? ((input.validate desk.today desk.codeLength picks).map
      (·.withId (Sequence.next m.vouchersGiven)))
  | .voucher id | .deleteVoucher id | .changeVoucherScope id _ _ => m.absentVoucher? id
  | .findVoucher text => Discount.refused? (VoucherCode.parse text)
  | .updateVoucher id update =>
    match m.vouchers.get? id with
    | none => some (.voucherNotFound id)
    | some v => m.voucherRefusal? (v.update update)
  | .createSale desk input => Discount.refused? (input.validate desk.today)
  | .sale id | .deleteSale id | .changeSaleScope id _ _ => m.absentSale? id
  | .updateSale id update =>
    match m.sales.get? id with
    | none => some (.saleNotFound id)
    | some s => Discount.refused? (s.update update)

/-- **A call is refused exactly for the cause that the memory has**, if it has one, and then no
discount changes. -/
theorem answer_by_refusal (m : DiscountMemory) (call : DiscountCall) :
    match m.refusal? call with
    | some e => (m.answer call).1 = .error e ∧ (m.answer call).2.vouchers = m.vouchers ∧
        (m.answer call).2.sales = m.sales
    | none => ∃ a, (m.answer call).1 = .ok a := by
  cases call with
  | createVoucher desk input picks =>
    cases accepted : input.validate desk.today desk.codeLength picks with
    | error e => simp [refusal?, voucherRefusal?, answer, accepted, Except.map]
    | ok n =>
      simp only [refusal?, voucherRefusal?, answer, accepted, Except.map]
      cases m.obstacle? (n.withId (Sequence.next m.vouchersGiven)) with
      | some e => by_cases fits : (n.withId (Sequence.next m.vouchersGiven)).Fits <;> simp [fits]
      | none => exact ⟨_, rfl⟩
  | voucher id | deleteVoucher id | changeVoucherScope id op l =>
    cases found : m.vouchers.get? id with
    | none => simp [refusal?, absentVoucher?, answer, found]
    | some v => simp [refusal?, absentVoucher?, answer, found]
  | findVoucher text =>
    cases parsed : VoucherCode.parse text with
    | error e => simp [refusal?, Discount.refused?, answer, parsed]
    | ok code => simp [refusal?, Discount.refused?, answer, parsed]
  | updateVoucher id update =>
    cases found : m.vouchers.get? id with
    | none => simp [refusal?, answer, found]
    | some v =>
      cases updated : v.update update with
      | error e => simp [refusal?, voucherRefusal?, answer, found, updated]
      | ok w =>
        simp only [refusal?, voucherRefusal?, answer, found, updated]
        cases m.obstacle? w with
        | some e => exact ⟨rfl, rfl, rfl⟩
        | none => exact ⟨_, rfl⟩
  | createSale desk input =>
    cases accepted : input.validate desk.today with
    | error e => simp [refusal?, Discount.refused?, answer, accepted]
    | ok n => simp [refusal?, Discount.refused?, answer, accepted]
  | sale id | deleteSale id | changeSaleScope id op l =>
    cases found : m.sales.get? id with
    | none => simp [refusal?, absentSale?, answer, found]
    | some s => simp [refusal?, absentSale?, answer, found]
  | updateSale id update =>
    cases found : m.sales.get? id with
    | none => simp [refusal?, answer, found]
    | some s =>
      cases updated : s.update update with
      | error e => simp [refusal?, Discount.refused?, answer, found, updated]
      | ok t => simp [refusal?, Discount.refused?, answer, found, updated]

end Refusals

/-- The discount that an answer names, if it names one, is the one in memory. -/
def Has (m : DiscountMemory) : DiscountAnswer → Prop
  | .voucher v | .found (some v) => m.vouchers.get? v.id = some v
  | .sale s => m.sales.get? s.id = some s
  | .found none | .done => True

section Returned

theorem HeldBy.id_of_voucher (held : m.HeldBy s rows) {id : VoucherId} {v : Voucher}
    (inMemory : m.vouchers.get? id = some v) : v.id = id := by
  rcases rel_cases (held.vouchers id) with ⟨-, none⟩ | ⟨w, v', found, inMemory', same⟩
  · rw [none] at inMemory
    cases inMemory
  · cases inMemory.symm.trans inMemory'
    rw [← same.id_eq, DiscountRows.id_of_voucherAt? found]

theorem HeldBy.id_of_sale (held : m.HeldBy s rows) {id : SaleId} {t : Sale}
    (inMemory : m.sales.get? id = some t) : t.id = id := by
  rcases rel_cases (held.sales id) with ⟨-, none⟩ | ⟨r, t', found, inMemory', same⟩
  · rw [none] at inMemory
    cases inMemory
  · cases inMemory.symm.trans inMemory'
    rw [← same.id_eq, DiscountRows.id_of_saleAt? found]

/-- What a call returns is what is then in memory. -/
theorem HeldBy.has_answer (held : m.HeldBy s rows) {call : DiscountCall} {a : DiscountAnswer}
    (answered : (m.answer call).1 = .ok a) : (m.answer call).2.Has a := by
  cases call with
  | createVoucher desk input picks =>
    cases accepted : input.validate desk.today desk.codeLength picks with
    | error e => simp [answer, accepted] at answered
    | ok n =>
      cases obstacle : m.obstacle? (n.withId (Sequence.next m.vouchersGiven)) with
      | some e => simp [answer, accepted, obstacle] at answered
      | none =>
        simp only [answer, accepted, obstacle] at answered ⊢
        cases answered
        exact Assoc.get?_put_self _ _ _
  | voucher id =>
    cases found : m.vouchers.get? id with
    | none => simp [answer, found] at answered
    | some v =>
      simp only [answer, found] at answered ⊢
      cases answered
      rw [Has, held.id_of_voucher found, found]
  | findVoucher text =>
    cases parsed : VoucherCode.parse text with
    | error e => simp [answer, parsed] at answered
    | ok code =>
      simp only [answer, parsed] at answered ⊢
      cases entry : m.vouchers.entries.find? fun e => e.2.code = code with
      | none =>
        rw [entry] at answered
        cases answered
        trivial
      | some e =>
        rw [entry] at answered
        cases answered
        have found := Assoc.get?_eq_some_iff.2 (List.mem_of_find?_eq_some entry)
        change m.vouchers.get? e.2.id = some e.2
        rw [held.id_of_voucher found, found]
  | updateVoucher id update =>
    cases found : m.vouchers.get? id with
    | none => simp [answer, found] at answered
    | some v =>
      cases updated : v.update update with
      | error e => simp [answer, found, updated] at answered
      | ok w =>
        cases obstacle : m.obstacle? w with
        | some e => simp [answer, found, updated, obstacle] at answered
        | none =>
          simp only [answer, found, updated, obstacle] at answered ⊢
          cases answered
          have id_eq := (Voucher.update_ok updated).1.trans (held.id_of_voucher found)
          rw [Has, id_eq, Assoc.get?_put_self]
  | deleteVoucher id =>
    cases found : m.vouchers.get? id with
    | none => simp [answer, found] at answered
    | some v =>
      simp only [answer, found] at answered ⊢
      cases answered
      trivial
  | changeVoucherScope id op l =>
    cases found : m.vouchers.get? id with
    | none => simp [answer, found] at answered
    | some v =>
      simp only [answer, found] at answered ⊢
      cases answered
      have id_eq := (v.id_changeScope op l).trans (held.id_of_voucher found)
      rw [Has, id_eq, Assoc.get?_put_self]
  | createSale desk input =>
    cases accepted : input.validate desk.today with
    | error e => simp [answer, accepted] at answered
    | ok n =>
      simp only [answer, accepted] at answered ⊢
      cases answered
      exact Assoc.get?_put_self _ _ _
  | sale id =>
    cases found : m.sales.get? id with
    | none => simp [answer, found] at answered
    | some s =>
      simp only [answer, found] at answered ⊢
      cases answered
      rw [Has, held.id_of_sale found, found]
  | updateSale id update =>
    cases found : m.sales.get? id with
    | none => simp [answer, found] at answered
    | some s =>
      cases updated : s.update update with
      | error e => simp [answer, found, updated] at answered
      | ok t =>
        simp only [answer, found, updated] at answered ⊢
        cases answered
        have id_eq := (Sale.update_ok updated).1.trans (held.id_of_sale found)
        rw [Has, id_eq, Assoc.get?_put_self]
  | deleteSale id =>
    cases found : m.sales.get? id with
    | none => simp [answer, found] at answered
    | some s =>
      simp only [answer, found] at answered ⊢
      cases answered
      trivial
  | changeSaleScope id op l =>
    cases found : m.sales.get? id with
    | none => simp [answer, found] at answered
    | some s =>
      simp only [answer, found] at answered ⊢
      cases answered
      have id_eq := (s.id_changeScope op l).trans (held.id_of_sale found)
      rw [Has, id_eq, Assoc.get?_put_self]

end Returned

end DiscountMemory

/-- The tables of discounts as the migrations build them. -/
theorem Site.discounts_migrate (shared : Bool) :
    ((Site.migrate .admin).start (Site.blank shared)).2.store.discounts = {} := by
  cases shared <;> rfl

/-- The discount that an answer names, if it names one, is what the desk then finds. -/
def DiscountAnswer.FoundAgain (w : Session DiscountStore) : DiscountAnswer → Prop
  | .voucher v | .found (some v) => ∃ v', (DiscountDesk.voucher v.id w).1 = .ok v' ∧ v'.Same v
  | .sale s => ∃ s', (DiscountDesk.sale s.id w).1 = .ok s' ∧ s'.Same s
  | .found none | .done => True

namespace DiscountMemory

variable {m : DiscountMemory} {s : DiscountStore} {rows : DiscountRows} {w : Session DiscountStore}

/-- The desk finds the voucher that is in memory. -/
theorem HeldBy.find_voucher (held : m.HeldBy w.store rows) (id : VoucherId) :
    Agree Voucher.Same (DiscountDesk.voucher id w).1
      ((m.vouchers.get? id).elim (.error (.voucherNotFound id)) .ok) := by
  rcases rel_cases (held.vouchers id) with ⟨absent, none⟩ | ⟨v, v', found, inMemory, same⟩
  · rw [((DiscountDesk.ends_voucher_of_absent held.there held.kept absent).run rfl).1, none]
    exact .error _
  · rw [((DiscountDesk.ends_voucher held.there held.kept found).run rfl).1, inMemory]
    exact .ok same

theorem HeldBy.find_sale (held : m.HeldBy w.store rows) (id : SaleId) :
    Agree Sale.Same (DiscountDesk.sale id w).1
      ((m.sales.get? id).elim (.error (.saleNotFound id)) .ok) := by
  rcases rel_cases (held.sales id) with ⟨absent, none⟩ | ⟨t, t', found, inMemory, same⟩
  · rw [((DiscountDesk.ends_sale_of_absent held.there absent).run rfl).1, none]
    exact .error _
  · rw [((DiscountDesk.ends_sale held.there found).run rfl).1, inMemory]
    exact .ok same

theorem HeldBy.find_same_voucher (held : m.HeldBy w.store rows) {v v' : Voucher} (same : v.Same v')
    (inMemory : m.vouchers.get? v'.id = some v') :
    ∃ x, (DiscountDesk.voucher v.id w).1 = .ok x ∧ x.Same v := by
  have agree := held.find_voucher v.id
  rw [same.id_eq, inMemory] at agree
  obtain ⟨x, found, same'⟩ := agree.ok_right
  exact ⟨x, same.id_eq ▸ found, same'.trans same.symm⟩

theorem HeldBy.find_same_sale (held : m.HeldBy w.store rows) {t t' : Sale} (same : t.Same t')
    (inMemory : m.sales.get? t'.id = some t') :
    ∃ x, (DiscountDesk.sale t.id w).1 = .ok x ∧ x.Same t := by
  have agree := held.find_sale t.id
  rw [same.id_eq, inMemory] at agree
  obtain ⟨x, found, same'⟩ := agree.ok_right
  exact ⟨x, same.id_eq ▸ found, same'.trans same.symm⟩

/-- What is the same as a discount in memory is found again by the desk. -/
theorem HeldBy.foundAgain (held : m.HeldBy w.store rows) {a b : DiscountAnswer} (same : a.Same b)
    (has : m.Has b) : a.FoundAgain w := by
  cases same with
  | voucher same => exact held.find_same_voucher same has
  | sale same => exact held.find_same_sale same has
  | found same =>
    cases same with
    | none => trivial
    | some same => exact held.find_same_voucher same has
  | done => trivial

/-- The tables hold what is in memory, and there are keys for the calls that are yet to come. -/
def Ready (coming : List DiscountCall) (w : Session DiscountStore) (m : DiscountMemory) : Prop :=
  ∃ rows, m.HeldBy w.store rows ∧
    m.vouchersGiven + (coming.map DiscountCall.voucherKeys).sum ≤ Sequence.last ∧
    m.salesGiven + (coming.map DiscountCall.saleKeys).sum ≤ Sequence.last

theorem heldBy_empty : ({} : DiscountMemory).HeldBy {} {} where
  there := rfl
  kept := DiscountRows.kept_empty
  vouchers id := by rw [DiscountRows.voucherAt?_empty]; exact .none
  sales id := by rw [DiscountRows.saleAt?_empty]; exact .none
  vouchersGiven := rfl
  salesGiven := rfl
  vouchersNumbered := Assoc.numbered_empty 0
  salesNumbered := Assoc.numbered_empty 0

theorem ready_empty {calls : List DiscountCall}
    (vouchers : (calls.map DiscountCall.voucherKeys).sum ≤ Sequence.last)
    (sales : (calls.map DiscountCall.saleKeys).sum ≤ Sequence.last) :
    Ready calls { store := {} } {} := by
  refine ⟨{}, heldBy_empty, ?_, ?_⟩
  · rwa [Nat.zero_add]
  · rwa [Nat.zero_add]

theorem Ready.step {call : DiscountCall} {calls : List DiscountCall}
    (ready : Ready (call :: calls) w m) :
    Agree DiscountAnswer.Same (call.atStore w).1 (m.answer call).1 ∧
      Ready calls (call.atStore w).2 (m.answer call).2 := by
  obtain ⟨rows, held, vouchers, sales⟩ := ready
  rw [List.map_cons, List.sum_cons, ← Nat.add_assoc] at vouchers sales
  obtain ⟨s', rows', r, ends, agree, held'⟩ := held.answered call
    (Nat.le_trans (Nat.le_add_right _ _) vouchers) (Nat.le_trans (Nat.le_add_right _ _) sales)
  obtain ⟨result, store⟩ := ends.run rfl
  refine ⟨result ▸ agree, rows', store ▸ held', ?_, ?_⟩
  · exact Nat.le_trans (Nat.add_le_add_right (m.vouchersGiven_answer_le call) _) vouchers
  · exact Nat.le_trans (Nat.add_le_add_right (m.salesGiven_answer_le call) _) sales

/-- **The tables answer the administration as the memory does.** Let the tables of the
administration be built by the migrations, and let any calls come to it one after another, where
the sequences of keys are not used up. Then each call gets the answer that it gets from discounts
in memory, and in the end the desk finds for every key the voucher and the sale that are in
memory, where amounts count as numbers. Every call among them is refused exactly for the cause
that the memory has; otherwise a discount that it returns is the one that the desk then finds. -/
theorem discounts_answered_as_memory (shared : Bool) (calls : List DiscountCall)
    (vouchers : (calls.map DiscountCall.voucherKeys).sum ≤ Sequence.last)
    (sales : (calls.map DiscountCall.saleKeys).sum ≤ Sequence.last) :
    let built : Session DiscountStore :=
      { store := ((Site.migrate .admin).start (Site.blank shared)).2.store.discounts }
    let stored := serve DiscountCall.atStore calls built
    let held := serve answer calls {}
    List.Forall₂ (Agree DiscountAnswer.Same) stored.1 held.1 ∧
    (∀ id, Agree Voucher.Same (DiscountDesk.voucher id stored.2).1
      ((held.2.vouchers.get? id).elim (.error (.voucherNotFound id)) .ok)) ∧
    (∀ id, Agree Sale.Same (DiscountDesk.sale id stored.2).1
      ((held.2.sales.get? id).elim (.error (.saleNotFound id)) .ok)) ∧
    ∀ before call after, calls = before ++ call :: after →
      let w := (serve DiscountCall.atStore before built).2
      let m := (serve answer before {}).2
      match m.refusal? call with
      | some e => (call.atStore w).1 = .error e ∧ (m.answer call).2.vouchers = m.vouchers ∧
          (m.answer call).2.sales = m.sales
      | none => ∃ a, (call.atStore w).1 = .ok a ∧ a.FoundAgain (call.atStore w).2 := by
  intro built stored held
  have start : Ready (calls ++ []) built {} := by
    simp only [built, Site.discounts_migrate, List.append_nil]
    exact ready_empty vouchers sales
  obtain ⟨answers, rows, holds, -, -⟩ := serve_related Ready.step start
  refine ⟨answers, holds.find_voucher, holds.find_sale, ?_⟩
  intro before call after split w m
  rw [List.append_nil, split] at start
  obtain ⟨-, ready⟩ := serve_related Ready.step start
  obtain ⟨agree, rows', after', -, -⟩ := ready.step
  obtain ⟨rows, holds, -, -⟩ := ready
  have judged := m.answer_by_refusal call
  cases refused : m.refusal? call with
  | some e =>
    simp only [refused] at judged ⊢
    rw [judged.1] at agree
    exact ⟨agree.error_right, judged.2⟩
  | none =>
    simp only [refused] at judged ⊢
    obtain ⟨b, answered⟩ := judged
    rw [answered] at agree
    obtain ⟨a, result, same⟩ := agree.ok_right
    exact ⟨a, result, after'.foundAgain same (holds.has_answer answered)⟩

/-- A voucher, another with its code, one with a limit that cannot be stored, changes to the first
and to a voucher that is not there, and a sale that goes again. -/
theorem discounts_answered_as_memory_for_one :
    let desk : DiscountDesk := { today := { year := 2026, month := 2, day := 1 } }
    let picks : VoucherCode.Picks := fun _ => ⟨0, by decide⟩
    let calls : List DiscountCall := [
      .createVoucher desk { code := some "ten", value := { magnitude := 100, scale := 1 } } picks,
      .createVoucher desk { code := some " TEN" } picks,
      .createVoucher desk { code := some "all", usageLimit := some 4294967295 } picks,
      .updateVoucher ⟨1⟩ { value := some { magnitude := 10 }, usageLimit := .set 5 },
      .changeVoucherScope ⟨1⟩ .add ⟨[⟨7⟩, ⟨7⟩], [], []⟩, .findVoucher "Ten", .updateVoucher ⟨2⟩ {},
      .createSale desk { name := "Spring" }, .deleteSale ⟨1⟩, .sale ⟨1⟩]
    let built : Session DiscountStore :=
      { store := ((Site.migrate .admin).start (Site.blank false)).2.store.discounts }
    (calls.map DiscountCall.voucherKeys).sum ≤ Sequence.last ∧
    (calls.map DiscountCall.saleKeys).sum ≤ Sequence.last ∧
    List.Forall₂ (Agree DiscountAnswer.Same) (serve DiscountCall.atStore calls built).1
      (serve answer calls {}).1 := by
  intro desk picks calls built
  have vouchers : (calls.map DiscountCall.voucherKeys).sum ≤ Sequence.last := by decide
  have sales : (calls.map DiscountCall.saleKeys).sum ≤ Sequence.last := by decide
  exact ⟨vouchers, sales, (discounts_answered_as_memory false calls vouchers sales).1⟩

end DiscountMemory

end BackOffice
