import BackOffice.Proofs.CommandAtomicity
import BackOffice.Proofs.StoredAmounts
import BackOffice.Proofs.UpdateFlags

/-!
# What the update commands leave alone

A command that updates a discount and succeeds has found the discount in the tables, and puts it
back with the fields changed that its flags ask for, its amounts as tables keep them. Fields without
a flag, the key, the uses, the scope and all other discounts stay as they were.
-/

namespace BackOffice

section LeftAlone

/-- The voucher `w` is `v` in all for which there is no flag. -/
structure VoucherFlags.LeavesAlone (f : VoucherFlags) (v w : Voucher) : Prop where
  id : w.id = v.id
  used : w.used = v.used
  scope : w.scope = v.scope
  type : f.type = none → w.type = v.type
  name : f.name = none → w.name = v.name
  code : f.code = none → w.code = v.code
  usageLimit : f.usageLimit = none → f.unlimited = false → w.usageLimit = v.usageLimit
  startDate : f.startDate = none → w.startDate = v.startDate
  endDate : f.endDate = none → f.noEndDate = false → w.endDate = v.endDate
  valueType : f.percentage = false → f.fixed = false → w.valueType = v.valueType
  value : f.value = none → w.value = v.value
  minAmount : f.minAmount = none → f.noMinAmount = false → w.minAmount = v.minAmount
  countries : f.countries = [] → f.allCountries = false → w.countries = v.countries

/-- The sale `t` is `s` in all for which there is no flag. -/
structure SaleFlags.LeavesAlone (f : SaleFlags) (s t : Sale) : Prop where
  id : t.id = s.id
  scope : t.scope = s.scope
  name : f.name = none → t.name = s.name
  valueType : f.percentage = false → f.fixed = false → t.valueType = s.valueType
  value : f.value = none → t.value = s.value
  startDate : f.startDate = none → t.startDate = s.startDate
  endDate : f.endDate = none → f.noEndDate = false → t.endDate = s.endDate

theorem VoucherFlags.Allowed.leavesAlone {f : VoucherFlags} (allowed : f.Allowed) {v w : Voucher}
    (spares : f.toUpdate.Spares v w) : f.LeavesAlone v.tabled w.tabled where
  id := spares.id
  used := spares.used
  scope := spares.scope
  type := spares.type
  name := spares.name
  code := spares.code
  usageLimit unset kept := spares.usageLimit (allowed.asks.usageLimit.keep.2 ⟨unset, kept⟩)
  startDate := spares.startDate
  endDate unset kept := spares.endDate (allowed.asks.endDate.keep.2 ⟨unset, kept⟩)
  valueType unset unset' := spares.valueType (allowed.asks.valueType.keep.2 ⟨unset, unset'⟩)
  value unset := congrArg Decimal.stored (spares.value unset)
  minAmount unset kept :=
    congrArg (Option.map Decimal.stored)
      (spares.minAmount (allowed.asks.minAmount.keep.2 ⟨unset, kept⟩))
  countries unset kept := spares.countries (allowed.asks.countries.keep.2 ⟨unset, kept⟩)

theorem SaleFlags.Allowed.leavesAlone {f : SaleFlags} (allowed : f.Allowed) {s t : Sale}
    (spares : f.toUpdate.Spares s t) : f.LeavesAlone s.tabled t.tabled where
  id := spares.id
  scope := spares.scope
  name := spares.name
  valueType unset unset' := spares.valueType (allowed.asks.valueType.keep.2 ⟨unset, unset'⟩)
  value unset := congrArg Decimal.stored (spares.value unset)
  startDate := spares.startDate
  endDate unset kept := spares.endDate (allowed.asks.endDate.keep.2 ⟨unset, kept⟩)

end LeftAlone

section Rows

/-- A voucher is read back from its row with its amounts as tables keep them. -/
theorem Voucher.voucher_row {v : Voucher} {used : Int32} (same : v.used = used.toUInt32)
    (scope : CatalogueScope) :
    (v.row used).voucher scope = { v.tabled with scope } := by
  have limit : (v.usageLimit.map UInt32.toInt32).map Int32.toUInt32 = v.usageLimit := by
    cases v.usageLimit <;> rfl
  simp only [row, VoucherRow.voucher, tabled, limit, ← same]

namespace DiscountRows

variable {rows rows' : DiscountRows}

/-- The later rows hold the voucher for its key, and everything else as before. -/
structure WithVoucher (rows : DiscountRows) (v : Voucher) (rows' : DiscountRows) : Prop where
  vouchers : ∀ id, rows'.voucherAt? id = if id = v.id then some v else rows.voucherAt? id
  sales : ∀ id, rows'.saleAt? id = rows.saleAt? id

/-- The later rows hold the sale for its key, and everything else as before. -/
structure WithSale (rows : DiscountRows) (s : Sale) (rows' : DiscountRows) : Prop where
  sales : ∀ id, rows'.saleAt? id = if id = s.id then some s else rows.saleAt? id
  vouchers : ∀ id, rows'.voucherAt? id = rows.voucherAt? id

/-- Saving a voucher's row makes the rows hold the voucher as tables keep it. -/
theorem withVoucher_putVoucher {v : Voucher} {old : VoucherRow}
    (row : rows.voucher? v.id = some old) (used : v.used = old.used.toUInt32)
    (scope : v.scope = rows.scopeOf (.voucher v.id)) :
    rows.WithVoucher v.tabled (rows.putVoucher (v.row old.used)) where
  vouchers id := by
    have there : (rows.voucher? (v.row old.used).id).isSome := by
      rw [Voucher.row, row, Option.isSome_some]
    rw [voucherAt?_putVoucher there, Voucher.voucher_row used]
    simp only [Voucher.row, ← scope]
    rfl
  sales _ := rfl

theorem withSale_putSale {s : Sale} (there : (rows.sale? s.id).isSome)
    (scope : s.scope = rows.scopeOf (.sale s.id)) :
    rows.WithSale s.tabled (rows.putSale s.row) where
  sales id := by
    rw [saleAt?_putSale (r := s.row) there]
    simp only [Sale.row, SaleRow.toSale, ← scope]
    rfl
  vouchers _ := rfl

end DiscountRows

end Rows

namespace DiscountDesk

open Work DiscountStore

variable {w : Session DiscountStore} {rows : DiscountRows}

/-- An update that succeeds has found the voucher, and has put the updated one in its place. -/
theorem updateVoucher_done (there : w.store.rows = some rows) (kept : rows.Kept) {id : VoucherId}
    {u : VoucherUpdate} {next : Voucher} (done : (updateVoucher id u w).1 = .ok next) :
    ∃ v, rows.voucherAt? id = some v ∧ v.update u = .ok next ∧
      ∃ rows', (updateVoucher id u w).2.store.rows = some rows' ∧
        rows.WithVoucher next.tabled rows' := by
  cases found : rows.voucherAt? id with
  | none =>
    have ends : (updateVoucher id u).Ends w.store _ _ :=
      (ends_voucher_of_absent there kept found).bind_error.transaction_error.bind_error
    cases done.symm.trans (ends.run rfl).1
  | some v =>
    have loaded := ends_voucher there kept found
    cases updated : v.update u with
    | error e =>
      have ends := ends_updateVoucher_of_invalid loaded updated
      cases done.symm.trans (ends.run rfl).1
    | ok v' =>
      obtain ⟨id_eq, used_eq, scope_eq, passes⟩ := Voucher.update_ok updated
      obtain ⟨old, row, read⟩ := Option.map_eq_some_iff.1 found
      rw [DiscountRows.id_of_voucherAt? found] at id_eq
      rw [← id_eq] at row
      by_cases fits : v'.Fits
      · cases taken : rows.codeTaken v'.id v'.code.text with
        | true =>
          have ends := ends_updateVoucher_of_unsaved loaded updated
            (ends_saveVoucher_of_taken there kept row fits passes taken)
          cases done.symm.trans (ends.run rfl).1
        | false =>
          have ends := ends_updateVoucher loaded updated
            (ends_saveVoucher there kept row fits passes taken)
          obtain ⟨result, after⟩ := ends.run rfl
          cases done.symm.trans result
          refine ⟨v, rfl, updated, _, congrArg DiscountStore.rows after, ?_⟩
          exact DiscountRows.withVoucher_putVoucher row (by rw [used_eq, ← read]; rfl)
            (by rw [scope_eq, ← read, id_eq]; rfl)
      · have ends := ends_updateVoucher_of_unsaved loaded updated (ends_saveVoucher_of_large fits)
        cases done.symm.trans (ends.run rfl).1

/-- An update that succeeds has found the sale, and has put the updated one in its place. -/
theorem updateSale_done (there : w.store.rows = some rows) {id : SaleId} {u : SaleUpdate}
    {next : Sale} (done : (updateSale id u w).1 = .ok next) :
    ∃ s, rows.saleAt? id = some s ∧ s.update u = .ok next ∧
      ∃ rows', (updateSale id u w).2.store.rows = some rows' ∧
        rows.WithSale next.tabled rows' := by
  cases found : rows.saleAt? id with
  | none =>
    have ends : (updateSale id u).Ends w.store _ _ :=
      (ends_sale_of_absent there found).bind_error.transaction_error.bind_error
    cases done.symm.trans (ends.run rfl).1
  | some s =>
    have loaded := ends_sale there found
    cases updated : s.update u with
    | error e =>
      have ends := ends_updateSale_of_invalid loaded updated
      cases done.symm.trans (ends.run rfl).1
    | ok s' =>
      obtain ⟨id_eq, scope_eq, passes⟩ := Sale.update_ok updated
      obtain ⟨old, row, read⟩ := Option.map_eq_some_iff.1 found
      rw [DiscountRows.id_of_saleAt? found] at id_eq
      rw [← id_eq] at row
      have ends := ends_updateSale loaded updated (ends_saveSale there row passes)
      obtain ⟨result, after⟩ := ends.run rfl
      cases done.symm.trans result
      refine ⟨s, rfl, updated, _, congrArg DiscountStore.rows after, ?_⟩
      exact DiscountRows.withSale_putSale (by rw [row]; rfl) (by rw [scope_eq, ← read, id_eq]; rfl)

end DiscountDesk

namespace Menu

variable {α : Type} {top : Bool} {words : List String}

theorem read_leaf (form : Form α) : (leaf form).read top words = form.read words := by
  rw [read]

theorem read_choice {menu : List (String × Menu α)} {word : String} {next : Menu α}
    (found : menu.lookup word = some next) :
    (choices menu).read top (word :: words) = next.read false words := by
  simp only [read, found]

end Menu

namespace Command

variable {α : Type} {s : Surroundings} {w : Session Site}

/-- A request at the discount desk succeeds only at a desk, and changes what it changes there. -/
theorem atDiscounts_done {request : DiscountDesk → DiscountDesk.Request α} {a : α}
    (done : (atDiscounts s request w).1 = .ok a) :
    ∃ desk, (request desk ⟨w.store.discounts, w.trace⟩).1 = .ok a ∧
      (atDiscounts s request w).2.store.discounts =
        (request desk ⟨w.store.discounts, w.trace⟩).2.store := by
  unfold atDiscounts at done ⊢
  rcases connectAdmin_bind s.env _ with ⟨e, stops⟩ | ⟨settings, goes⟩
  · rw [stops] at done
    cases done
  · rw [goes] at done ⊢
    exact ⟨_, mapError_eq_ok_iff.1 done, rfl⟩

/-- What is printed has been answered at a desk, and the tables are those that it has left. -/
theorem printed_atDiscounts_done {request : DiscountDesk → DiscountDesk.Request α} {f : α → Json}
    (done : (printed s f (atDiscounts s request) w).1 = .ok ()) :
    ∃ desk a, (request desk ⟨w.store.discounts, w.trace⟩).1 = .ok a ∧
      (printed s f (atDiscounts s request) w).2.store.discounts.rows =
        (request desk ⟨w.store.discounts, w.trace⟩).2.store.rows := by
  obtain ⟨a, asked⟩ := exists_of_printed_done done
  obtain ⟨desk, answered, changed⟩ := atDiscounts_done asked
  exact ⟨desk, a, answered,
    (congrArg (·.2.1) tables_printed).trans (congrArg DiscountStore.rows changed)⟩

theorem parse_updateVoucher (words : List String) :
    parse ("voucher" :: "update" :: words) = updateVoucherForm.read words :=
  (Menu.read_choice rfl).trans ((Menu.read_choice rfl).trans (Menu.read_leaf _))

theorem parse_updateSale (words : List String) :
    parse ("sale" :: "update" :: words) = updateSaleForm.read words :=
  (Menu.read_choice rfl).trans ((Menu.read_choice rfl).trans (Menu.read_leaf _))

end Command

namespace Program

variable {words : List String} {s : Surroundings} {site : Site} {rows : DiscountRows}

/-- The program is done if the command line is understood and its command succeeds. -/
theorem exists_of_run_done (done : (run words s site).1 = .done) :
    ∃ command, Command.parse words = .ok command ∧ ((command.run s).start site).1 = .ok () ∧
      (run words s site).2 = ((command.run s).start site).2 := by
  unfold run at done ⊢
  cases parsed : Command.parse words with
  | error e =>
    rw [parsed] at done
    cases done
  | ok command =>
    rw [parsed] at done
    refine ⟨command, rfl, ?_⟩
    dsimp only at done ⊢
    rcases result : (command.run s).start site with ⟨(e | _) | _, w⟩
    · rw [result] at done
      cases done
    · rw [result] at done
      cases done
    · exact ⟨rfl, rfl⟩

/-- An update of a voucher that succeeds leaves alone what the command line has no flag for. -/
theorem updateVoucher_leaves_alone (there : site.discounts.rows = some rows) (kept : rows.Kept)
    (done : (run ("voucher" :: "update" :: words) s site).1 = .done) :
    ∃ filled id f v next rows', Command.updateVoucherForm.fill words = .ok filled ∧
      filled.required "id" Command.readId? = some id ∧ VoucherFlags.ofFilled? filled = some f ∧
      f.Allowed ∧ rows.voucherAt? id = some v ∧ v.update f.toUpdate = .ok next ∧
      f.LeavesAlone v.tabled next.tabled ∧
      (run ("voucher" :: "update" :: words) s site).2.store.discounts.rows = some rows' ∧
      rows.WithVoucher next.tabled rows' := by
  obtain ⟨command, parsed, succeeded, after⟩ := exists_of_run_done done
  rw [Command.parse_updateVoucher] at parsed
  obtain ⟨filled, filledIn, free, built⟩ := Form.exists_of_read parsed
  rw [Command.build_updateVoucherForm] at built
  obtain ⟨id, key, built⟩ := Option.bind_eq_some_iff.1 built
  obtain ⟨f, flags, built⟩ := Option.bind_eq_some_iff.1 built
  cases built
  have allowed := VoucherFlags.allowed_of_ofFilled? free flags
  obtain ⟨desk, next, updated, changed⟩ := Command.printed_atDiscounts_done succeeded
  obtain ⟨v, found, update, rows', here, replaced⟩ :=
    DiscountDesk.updateVoucher_done there kept updated
  refine ⟨filled, id, f, v, next, rows', filledIn, key, flags, allowed, found, update,
    allowed.leavesAlone (Voucher.update_eq_ok_iff.1 update).1.spares, ?_, replaced⟩
  rw [after]
  exact changed.trans here

/-- An update of a sale that succeeds leaves alone what the command line has no flag for. -/
theorem updateSale_leaves_alone (there : site.discounts.rows = some rows)
    (done : (run ("sale" :: "update" :: words) s site).1 = .done) :
    ∃ filled id f t next rows', Command.updateSaleForm.fill words = .ok filled ∧
      filled.required "id" Command.readId? = some id ∧ SaleFlags.ofFilled? filled = some f ∧
      f.Allowed ∧ rows.saleAt? id = some t ∧ t.update f.toUpdate = .ok next ∧
      f.LeavesAlone t.tabled next.tabled ∧
      (run ("sale" :: "update" :: words) s site).2.store.discounts.rows = some rows' ∧
      rows.WithSale next.tabled rows' := by
  obtain ⟨command, parsed, succeeded, after⟩ := exists_of_run_done done
  rw [Command.parse_updateSale] at parsed
  obtain ⟨filled, filledIn, free, built⟩ := Form.exists_of_read parsed
  rw [Command.build_updateSaleForm] at built
  obtain ⟨id, key, built⟩ := Option.bind_eq_some_iff.1 built
  obtain ⟨f, flags, built⟩ := Option.bind_eq_some_iff.1 built
  cases built
  have allowed := SaleFlags.allowed_of_ofFilled? free flags
  obtain ⟨desk, next, updated, changed⟩ := Command.printed_atDiscounts_done succeeded
  obtain ⟨t, found, update, rows', here, replaced⟩ := DiscountDesk.updateSale_done there updated
  refine ⟨filled, id, f, t, next, rows', filledIn, key, flags, allowed, found, update,
    allowed.leavesAlone (Sale.update_eq_ok_iff.1 update).1.spares, ?_, replaced⟩
  rw [after]
  exact changed.trans here

/-- **Flags say exactly what they patch, and can say everything.** Flags that do not contradict each
other ask for the update that sets exactly the fields with a flag, each to its value or to nothing,
and every update is asked for by exactly one such choice of flags. Where the tables keep the
database's rules, a command line that updates a voucher or a sale and succeeds has such flags; the
discount that was there under its key becomes what its update makes of it, and keeps, as tables keep
amounts, all fields without a flag, its key, its uses and its scope, while no other discount
changes. Tables in which all amounts are in their own form, as empty ones are, stay so whatever is
asked at the desk, so a discount from them keeps those fields exactly. -/
theorem flags_say_what_is_patched :
    (∀ f : VoucherFlags, f.Allowed → f.Asks f.toUpdate) ∧
    (∀ u : VoucherUpdate, ∃! f : VoucherFlags, f.Allowed ∧ f.toUpdate = u) ∧
    (∀ f : SaleFlags, f.Allowed → f.Asks f.toUpdate) ∧
    (∀ u : SaleUpdate, ∃! f : SaleFlags, f.Allowed ∧ f.toUpdate = u) ∧
    (∀ words s site rows, site.discounts.rows = some rows → rows.Kept →
      let after := run ("voucher" :: "update" :: words) s site
      after.1 = .done → ∃ filled id f v next rows',
        Command.updateVoucherForm.fill words = .ok filled ∧
        filled.required "id" Command.readId? = some id ∧
        VoucherFlags.ofFilled? filled = some f ∧ f.Allowed ∧
        rows.voucherAt? id = some v ∧ v.update f.toUpdate = .ok next ∧
        f.LeavesAlone v.tabled next.tabled ∧
        after.2.store.discounts.rows = some rows' ∧ rows.WithVoucher next.tabled rows') ∧
    (∀ words s site rows, site.discounts.rows = some rows →
      let after := run ("sale" :: "update" :: words) s site
      after.1 = .done → ∃ filled id f t next rows',
        Command.updateSaleForm.fill words = .ok filled ∧
        filled.required "id" Command.readId? = some id ∧
        SaleFlags.ofFilled? filled = some f ∧ f.Allowed ∧
        rows.saleAt? id = some t ∧ t.update f.toUpdate = .ok next ∧
        f.LeavesAlone t.tabled next.tabled ∧
        after.2.store.discounts.rows = some rows' ∧ rows.WithSale next.tabled rows') ∧
    DiscountStore.HoldsPlain (some {}) ∧
    ∀ calls w, DiscountStore.HoldsPlain w.store.rows → ∀ rows,
      (serve DiscountCall.atStore calls w).2.store.rows = some rows →
      (∀ id v, rows.voucherAt? id = some v → v.tabled = v) ∧
      ∀ id t, rows.saleAt? id = some t → t.tabled = t := by
  refine ⟨fun _ allowed => allowed.asks, VoucherFlags.existsUnique_toUpdate,
    fun _ allowed => allowed.asks, SaleFlags.existsUnique_toUpdate,
    fun _ _ _ _ => updateVoucher_leaves_alone, fun _ _ _ _ => updateSale_leaves_alone, ?_, ?_⟩
  · rintro rows ⟨⟩
    exact DiscountRows.plain_empty
  · intro calls w plain rows there
    have plain := DiscountStore.holdsPlain_serve calls plain rows there
    exact ⟨fun _ _ => plain.tabled_voucherAt?, fun _ _ => plain.tabled_saleAt?⟩

/-- Flags that set, empty and list; a voucher that has been redeemed loses its last day and is read
as a percentage from then on; and a sale gets another name. -/
theorem flags_say_what_is_patched_for_one :
    let today : Date := { year := 2026, month := 2, day := 1 }
    let s : Surroundings := {
      env := fun name => if name = "DATABASE_URL" then some "postgres:".toUTF8 else none
      today := today
      fresh := ⟨3, by decide⟩
      picks := fun i => ⟨i % 32, Nat.mod_lt _ (by decide)⟩ }
    let spring : VoucherRow := {
      id := ⟨1⟩, type := .value, name := some "Spring", code := "SPRING", usageLimit := some 9,
      used := 4, startDate := today, endDate := some today, valueType := .fixed,
      value := { magnitude := 20 }, minAmount := none, countries := ["NO"] }
    let winter : SaleRow := {
      id := ⟨1⟩, name := "Winter", valueType := .fixed, value := .zero, startDate := today
      endDate := none }
    let site : Site := { discounts.rows := some { vouchers := [spring], sales := [winter] } }
    let opened := run ["voucher", "update", "1", "--no-end-date", "--percentage"] s site
    let renamed := run ["sale", "update", "1", "--name", "Frost"] s site
    let asked : VoucherFlags := { usageLimit := some 5, noEndDate := true, countries := ["se"] }
    let cleared : VoucherUpdate := { usageLimit := .clear, countries := some [] }
    asked.Asks asked.toUpdate ∧ (∃! f : VoucherFlags, f.Allowed ∧ f.toUpdate = cleared) ∧
      opened.1 = .done ∧
      (∃ rows w, opened.2.store.discounts.rows = some rows ∧ rows.voucherAt? ⟨1⟩ = some w ∧
        w.code = ⟨"SPRING"⟩ ∧ w.used = 4 ∧ w.countries = ["NO"]) ∧
      renamed.1 = .done ∧
      ∃ rows t, renamed.2.store.discounts.rows = some rows ∧ rows.saleAt? ⟨1⟩ = some t ∧
        t.valueType = .fixed ∧ t.startDate = today := by
  intro today s spring winter site opened renamed asked cleared
  obtain ⟨asks, all, -, -, vouchers, sales, -⟩ := flags_say_what_is_patched
  have allowed : asked.Allowed := ⟨by decide, by decide, by decide, by decide, by decide⟩
  have opens : opened.1 = .done := rfl
  have renames : renamed.1 = .done := rfl
  have kept : ({ vouchers := [spring], sales := [winter] } : DiscountRows).Kept := {
    vouchers_distinct := by decide
    codes_distinct := by decide
    countable := List.forall_mem_singleton.2 ⟨by decide, by decide⟩
    owner_exists := fun t r there => (DiscountRows.not_mem_scopes_empty t r there).elim }
  refine ⟨asks asked allowed, all cleared, opens, ?_, renames, ?_⟩
  · obtain ⟨filled, id, f, v, next, rows, filledIn, key, flags, -, found, -, alone, here,
        replaced⟩ := vouchers ["1", "--no-end-date", "--percentage"] s site _ rfl kept opens
    have fills : Command.updateVoucherForm.fill ["1", "--no-end-date", "--percentage"] =
        .ok [("id", ["1"]), ("no-end-date", []), ("percentage", [])] := by decide +kernel
    cases fills.symm.trans filledIn
    cases key
    cases flags
    cases found
    have same : (⟨1⟩ : VoucherId) = next.tabled.id := alone.id.symm
    exact ⟨rows, next.tabled, here, (replaced.vouchers _).trans (if_pos same), alone.code rfl,
      alone.used, alone.countries rfl rfl⟩
  · obtain ⟨filled, id, f, t, next, rows, filledIn, key, flags, -, found, -, alone, here,
        replaced⟩ := sales ["1", "--name", "Frost"] s site _ rfl renames
    have fills : Command.updateSaleForm.fill ["1", "--name", "Frost"] =
        .ok [("id", ["1"]), ("name", ["Frost"])] := by decide +kernel
    cases fills.symm.trans filledIn
    cases key
    cases flags
    cases found
    have same : (⟨1⟩ : SaleId) = next.tabled.id := alone.id.symm
    exact ⟨rows, next.tabled, here, (replaced.sales _).trans (if_pos same),
      alone.valueType rfl rfl, alone.startDate rfl⟩

end Program

end BackOffice
