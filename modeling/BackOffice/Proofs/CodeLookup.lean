import BackOffice.Proofs.DiscountRuns
import BackOffice.Proofs.DiscountValidity

/-!
# Vouchers are found by their codes

The database tells codes apart as texts. That it also tells them apart as spellings rests on every
writer and every reader of codes: what is kept is canonical, as it is in sound vouchers, and a
code that a person types is brought into the same form. This holds after any calls from the tables
that the migrations build (`DiscountStore.Settled`), also when the keys have been used up.
-/

namespace BackOffice

open BackOffice.Text Work

namespace DiscountStore

variable {s : DiscountStore} {rows : DiscountRows}

section UsedUp

theorem ends_nextVoucher_of_usedUp (usedUp : Sequence.last ≤ s.vouchersGiven) :
    nextVoucher.Ends s (.error (.noMoreKeys "voucher_id_seq")) s := by
  refine (ends_store s).bind ?_
  rw [Sequence.key?, if_neg (Nat.not_lt.2 usedUp)]
  exact ends_throw _ s

theorem ends_nextSale_of_usedUp (usedUp : Sequence.last ≤ s.salesGiven) :
    nextSale.Ends s (.error (.noMoreKeys "sale_id_seq")) s := by
  refine (ends_store s).bind ?_
  rw [Sequence.key?, if_neg (Nat.not_lt.2 usedUp)]
  exact ends_throw _ s

/-- Without a key left, no voucher is added, whether or not its limit would fit. -/
theorem ends_createVoucher_of_usedUp (there : s.rows = some rows)
    (usedUp : Sequence.last ≤ s.vouchersGiven) (n : NewVoucher) :
    ∃ e, (createVoucher n).Ends s (.error e) s := by
  by_cases fits : (n.withId s.voucherKey).Fits
  · have refused : ∀ limit, (insertVoucher n limit).Ends s
        (.error (.noMoreKeys "voucher_id_seq")) s := fun _ =>
      (ends_rowsOr there _).bind ((ends_note _ _ s).bind
        (ends_nextVoucher_of_usedUp usedUp).bind_error)
    exact ⟨_, (ends_limitFor fits s).bind
      ((refused _).mapError _).bind_error.transaction_error⟩
  · exact ⟨_, ends_createVoucher_of_large fits⟩

theorem ends_createSale_of_usedUp (there : s.rows = some rows)
    (usedUp : Sequence.last ≤ s.salesGiven) (n : NewSale) :
    ∃ e, (createSale n).Ends s (.error e) s := by
  have refused : (insertSale n).Ends s (.error (.noMoreKeys "sale_id_seq")) s :=
    (ends_rowsOr there _).bind ((ends_note _ _ s).bind (ends_nextSale_of_usedUp usedUp).bind_error)
  exact ⟨_, (refused.mapError _).bind_error⟩

end UsedUp

end DiscountStore

namespace DiscountDesk

variable {s : DiscountStore} {rows : DiscountRows}

theorem ends_createVoucher_of_usedUp (there : s.rows = some rows)
    (usedUp : Sequence.last ≤ s.vouchersGiven) (desk : DiscountDesk) (input : VoucherInput)
    (picks : VoucherCode.Picks) : ∃ e, (desk.createVoucher input picks).Ends s (.error e) s := by
  cases accepted : input.validate desk.today desk.codeLength picks with
  | error e => exact ⟨_, ends_createVoucher_of_invalid accepted s⟩
  | ok n =>
    obtain ⟨e, refused⟩ := DiscountStore.ends_createVoucher_of_usedUp there usedUp n
    exact ⟨_, ends_createVoucher accepted refused⟩

theorem ends_createSale_of_usedUp (there : s.rows = some rows)
    (usedUp : Sequence.last ≤ s.salesGiven) (desk : DiscountDesk) (input : SaleInput) :
    ∃ e, (desk.createSale input).Ends s (.error e) s := by
  cases accepted : input.validate desk.today with
  | error e => exact ⟨_, ends_createSale_of_invalid accepted s⟩
  | ok n =>
    obtain ⟨e, refused⟩ := DiscountStore.ends_createSale_of_usedUp there usedUp n
    exact ⟨_, (ends_accept accepted s).bind (refused.mapError _).bind_error⟩

/-- The desk finds under a key exactly the voucher that the rows hold there. -/
theorem voucher_eq_ok_iff {w : Session DiscountStore} (there : w.store.rows = some rows)
    (kept : rows.Kept) {id : VoucherId} {v : Voucher} :
    (voucher id w).1 = .ok v ↔ rows.voucherAt? id = some v := by
  cases found : rows.voucherAt? id with
  | none =>
    rw [((ends_voucher_of_absent there kept found).run rfl).1]
    exact iff_of_false nofun nofun
  | some v' =>
    rw [((ends_voucher there kept found).run rfl).1, Except.ok.injEq, Option.some.injEq]

end DiscountDesk

/-- The voucher that rows hold for a code is the one of them that has it. -/
theorem DiscountRows.Kept.find?_code_eq_some_iff {rows : DiscountRows} (kept : rows.Kept)
    {text : String} {v : Voucher} :
    ((rows.vouchers.find? fun r => r.code = text).map fun r =>
        r.voucher (rows.scopeOf (.voucher r.id))) = some v ↔
      (∃ id, rows.voucherAt? id = some v) ∧ v.code.text = text := by
  rw [Option.map_eq_some_iff]
  constructor
  · rintro ⟨r, found, rfl⟩
    have coded : r.code = text := by simpa using List.find?_some found
    exact ⟨⟨r.id, kept.voucherAt?_of_mem (List.mem_of_find?_eq_some found)⟩, coded⟩
  · rintro ⟨⟨id, held⟩, rfl⟩
    obtain ⟨r, row, rfl⟩ := Option.map_eq_some_iff.1 held
    have member := List.mem_of_find?_eq_some row
    have key : r.id = id := id_of_voucher? row
    exact ⟨r, Keyed.find?_of_mem VoucherRow.code kept.codes_distinct member, by rw [key]⟩

namespace DiscountMemory

/-- Every voucher in memory is sound. -/
def AllSound (m : DiscountMemory) : Prop := ∀ id v, m.vouchers.get? id = some v → v.Sound

variable {m : DiscountMemory}

theorem AllSound.put (sound : m.AllSound) {v : Voucher} (new : v.Sound) (id : VoucherId)
    (given : Nat) :
    AllSound { m with vouchers := m.vouchers.put id v, vouchersGiven := given } := by
  intro id' w held
  rw [Assoc.get?_put] at held
  split at held
  next => exact Option.some.inj held ▸ new
  next => exact sound id' w held

/-- What the rules let into memory is sound, and no call changes it without asking them. -/
theorem AllSound.answer (sound : m.AllSound) (call : DiscountCall) :
    (m.answer call).2.AllSound := by
  cases call with
  | createVoucher desk input picks =>
    cases accepted : input.validate desk.today desk.codeLength picks with
    | error e => simpa only [DiscountMemory.answer, accepted] using sound
    | ok n =>
      obtain ⟨new, -⟩ := input.validate_sound accepted (Sequence.next m.vouchersGiven)
      simp only [DiscountMemory.answer, accepted]
      split
      -- A key may be given out for a voucher that is then refused.
      next => split <;> exact sound
      next => exact sound.put new _ m.vouchersGiven
  | updateVoucher id update =>
    cases found : m.vouchers.get? id with
    | none => simpa only [DiscountMemory.answer, found] using sound
    | some v =>
      cases updated : v.update update with
      | error e => simpa only [DiscountMemory.answer, found, updated] using sound
      | ok w =>
        simp only [DiscountMemory.answer, found, updated]
        split
        next => exact sound
        next => exact sound.put ((sound id v found).update updated) id _
  | deleteVoucher id =>
    cases found : m.vouchers.get? id with
    | none => simpa only [DiscountMemory.answer, found] using sound
    | some v =>
      simp only [DiscountMemory.answer, found]
      intro id' w held
      rw [Assoc.get?_erase] at held
      split at held
      next => cases held
      next => exact sound id' w held
  | changeVoucherScope id op l =>
    cases found : m.vouchers.get? id with
    | none => simpa only [DiscountMemory.answer, found] using sound
    | some v =>
      simp only [DiscountMemory.answer, found]
      exact sound.put ((sound id v found).happen (.changeScope op l)) id _
  | voucher id | findVoucher text | createSale desk input | sale id | updateSale id update
  | deleteSale id | changeSaleScope id op l =>
    simp only [DiscountMemory.answer]
    repeat' split
    all_goals exact sound

end DiscountMemory

namespace DiscountStore

/-- The tables are there and hold what calls have put into memory, which is sound. -/
structure Settled (s : DiscountStore) (m : DiscountMemory) (rows : DiscountRows) : Prop where
  held : m.HeldBy s rows
  sound : m.AllSound
  vouchersGiven_le : m.vouchersGiven ≤ Sequence.last
  salesGiven_le : m.salesGiven ≤ Sequence.last

variable {s : DiscountStore} {m : DiscountMemory} {rows : DiscountRows} {w : Session DiscountStore}

/-- A call that there are keys for does what it does in memory. -/
theorem Settled.step_of_enough (settled : w.store.Settled m rows) {call : DiscountCall}
    (enough : m.vouchersGiven + call.voucherKeys ≤ Sequence.last)
    (enough' : m.salesGiven + call.saleKeys ≤ Sequence.last) :
    ∃ m' rows', (call.atStore w).2.store.Settled m' rows' := by
  obtain ⟨s', rows', r, ends, -, held⟩ := settled.held.answered call enough enough'
  rw [← (ends.run rfl).2] at held
  exact ⟨_, rows', held, settled.sound.answer call,
    (m.vouchersGiven_answer_le call).trans enough, (m.salesGiven_answer_le call).trans enough'⟩

theorem Settled.step_of_refused (settled : w.store.Settled m rows) {call : DiscountCall}
    {r : Except DiscountDeskError DiscountAnswer} (ends : call.atStore.Ends w.store r w.store) :
    ∃ m' rows', (call.atStore w).2.store.Settled m' rows' := by
  rw [(ends.run rfl).2]
  exact ⟨m, rows, settled⟩

theorem Settled.step (settled : w.store.Settled m rows) (call : DiscountCall) :
    ∃ m' rows', (call.atStore w).2.store.Settled m' rows' := by
  have there := settled.held.there
  cases call with
  | createVoucher desk input picks =>
    by_cases left : m.vouchersGiven < Sequence.last
    · exact settled.step_of_enough left settled.salesGiven_le
    · rw [← settled.held.vouchersGiven, Nat.not_lt] at left
      obtain ⟨e, refused⟩ := DiscountDesk.ends_createVoucher_of_usedUp there left desk input picks
      exact settled.step_of_refused (refused.map DiscountAnswer.voucher)
  | createSale desk input =>
    by_cases left : m.salesGiven < Sequence.last
    · exact settled.step_of_enough settled.vouchersGiven_le left
    · rw [← settled.held.salesGiven, Nat.not_lt] at left
      obtain ⟨e, refused⟩ := DiscountDesk.ends_createSale_of_usedUp there left desk input
      exact settled.step_of_refused (refused.map DiscountAnswer.sale)
  | voucher | findVoucher | updateVoucher | deleteVoucher | changeVoucherScope | sale | updateSale
  | deleteSale | changeSaleScope =>
    exact settled.step_of_enough settled.vouchersGiven_le settled.salesGiven_le

theorem Settled.serve (settled : w.store.Settled m rows) (calls : List DiscountCall) :
    ∃ m' rows', (serve DiscountCall.atStore calls w).2.store.Settled m' rows' := by
  induction calls generalizing w m rows with
  | nil => exact ⟨m, rows, settled⟩
  | cons call calls ih =>
    obtain ⟨m', rows', next⟩ := settled.step call
    exact ih next

theorem settled_empty : ({} : DiscountStore).Settled {} {} where
  held := DiscountMemory.heldBy_empty
  sound _ _ held := by cases held
  vouchersGiven_le := Nat.zero_le _
  salesGiven_le := Nat.zero_le _

/-- Every code in the tables is canonical, as those of the vouchers in memory are. -/
theorem Settled.canonical (settled : s.Settled m rows) {r : VoucherRow}
    (member : r ∈ rows.vouchers) : VoucherCode.Canonical ⟨r.code⟩ := by
  have found := settled.held.kept.voucherAt?_of_mem member
  have same := settled.held.vouchers r.id
  rw [found] at same
  rcases DiscountMemory.rel_cases same with ⟨none, -⟩ | ⟨v, w, here, inMemory, same⟩
  · cases none
  · cases here
    have coded : (⟨r.code⟩ : VoucherCode) = w.code := same.code_eq
    rw [coded]
    exact (settled.sound r.id w inMemory).code

/-- Codes of one spelling are one code, and so are their vouchers. -/
theorem Settled.eq_of_sameSpelling (settled : s.Settled m rows) {r r' : VoucherRow}
    (member : r ∈ rows.vouchers) (member' : r' ∈ rows.vouchers)
    (same : SameSpelling r.code r'.code) : r = r' := by
  have spelled : upper (trim r.code) = r.code := (settled.canonical member).upper_trim
  have spelled' : upper (trim r'.code) = r'.code := (settled.canonical member').upper_trim
  have codes : r.code = r'.code := by rw [← spelled, ← spelled', same]
  exact List.inj_on_of_nodup_map settled.held.kept.codes_distinct member member' codes

end DiscountStore

namespace DiscountDesk

variable {m : DiscountMemory} {rows : DiscountRows} {w : Session DiscountStore}

/-- A text that is a code finds the one voucher whose code it spells, or none. -/
theorem findVoucher_of_parse (settled : w.store.Settled m rows) {text : String}
    {code : VoucherCode} (read : VoucherCode.parse text = .ok code) :
    ∃ found, (findVoucher text w).1 = .ok found ∧ ∀ v, found = some v ↔
      (∃ id, (voucher id w).1 = .ok v) ∧ v.code.text = upper (trim text) := by
  have ends := ends_findVoucher settled.held.there settled.held.kept read
  refine ⟨_, (ends.run rfl).1, fun v => ?_⟩
  simp only [voucher_eq_ok_iff settled.held.there settled.held.kept]
  rw [settled.held.kept.find?_code_eq_some_iff, VoucherCode.text_of_parse read]

theorem findVoucher_of_invalid {text : String} {e : Invalid}
    (refused : VoucherCode.parse text = .error e) :
    (findVoucher text w).1 = .error (.invalid e) :=
  ((ends_findVoucher_of_invalid refused w.store).run rfl).1

/-- Every spelling of the code of a voucher finds the voucher. -/
theorem findVoucher_of_sameSpelling (settled : w.store.Settled m rows) {id : VoucherId}
    {v : Voucher} (stored : (voucher id w).1 = .ok v) {text : String}
    (same : SameSpelling text v.code.text) : (findVoucher text w).1 = .ok (some v) := by
  have held := (voucher_eq_ok_iff settled.held.there settled.held.kept).1 stored
  obtain ⟨r, row, rfl⟩ := Option.map_eq_some_iff.1 held
  have canonical := settled.canonical (List.mem_of_find?_eq_some row)
  obtain ⟨found, answer, exactly⟩ := findVoucher_of_parse settled (canonical.parse_eq_ok_iff.2 same)
  have coded : upper (trim text) = r.code := by
    rw [show upper (trim text) = upper (trim r.code) from same]
    exact canonical.upper_trim
  rw [answer, (exactly _).2 ⟨⟨id, stored⟩, coded.symm⟩]

/-- **Codes identify vouchers, however they are spelled.** Let any calls come one after another to
the tables that the migrations build. Then every code in the tables is read off its own text, and
no two vouchers have codes that differ only in case and in blanks around them. A text is refused
exactly if no code can be read off it; otherwise it finds the one voucher whose code is the trimmed
text in upper case, or none if there is none. So every spelling of a stored code, given or random,
finds exactly the voucher that has it. -/
theorem codes_identify_vouchers (shared : Bool) (calls : List DiscountCall) :
    let built : Session DiscountStore :=
      { store := ((Site.migrate .admin).start (Site.blank shared)).2.store.discounts }
    let w := (serve DiscountCall.atStore calls built).2
    ∃ rows, w.store.rows = some rows ∧
      (∀ r ∈ rows.vouchers, VoucherCode.parse r.code = .ok ⟨r.code⟩) ∧
      (∀ r ∈ rows.vouchers, ∀ r' ∈ rows.vouchers, SameSpelling r.code r'.code → r = r') ∧
      (∀ text, (∃ e, (findVoucher text w).1 = .error (.invalid e)) ↔
        ∃ e, VoucherCode.parse text = .error e) ∧
      (∀ text code, VoucherCode.parse text = .ok code →
        ∃ found, (findVoucher text w).1 = .ok found ∧ ∀ v, found = some v ↔
          (∃ id, (voucher id w).1 = .ok v) ∧ v.code.text = upper (trim text)) ∧
      ∀ id v text, (voucher id w).1 = .ok v → SameSpelling text v.code.text →
        (findVoucher text w).1 = .ok (some v) := by
  intro built w
  have start : built.store.Settled {} {} := by
    simp only [built, Site.discounts_migrate]
    exact DiscountStore.settled_empty
  obtain ⟨m, rows, settled⟩ := start.serve calls
  refine ⟨rows, settled.held.there, fun r => settled.canonical,
    fun r member r' member' => settled.eq_of_sameSpelling member member', ?_,
    fun text code => findVoucher_of_parse settled,
    fun id v text stored => findVoucher_of_sameSpelling settled stored⟩
  intro text
  cases read : VoucherCode.parse text with
  | error e => exact iff_of_true ⟨e, findVoucher_of_invalid read⟩ ⟨e, rfl⟩
  | ok code =>
    obtain ⟨found, answer, -⟩ := findVoucher_of_parse settled read
    rw [answer]
    exact iff_of_false (fun ⟨_, refused⟩ => nomatch refused) nofun

/-- Two vouchers, of a given and of a random code; the first gets another code, and one more is
refused for the spelling of it. -/
theorem codes_identify_vouchers_of_two :
    let desk : DiscountDesk := { codeLength := 4, today := { year := 2026, month := 2, day := 1 } }
    let picks : VoucherCode.Picks := fun i => ⟨i % 32, Nat.mod_lt _ (by decide)⟩
    let calls : List DiscountCall := [.createVoucher desk { code := some " ten " } picks,
      .createVoucher desk {} picks, .updateVoucher ⟨1⟩ { code := some "Ten_off\t" },
      .createVoucher desk { code := some "TEN_OFF" } picks]
    let built : Session DiscountStore :=
      { store := ((Site.migrate .admin).start (Site.blank true)).2.store.discounts }
    let w := (serve DiscountCall.atStore calls built).2
    ∃ v v', (voucher ⟨1⟩ w).1 = .ok v ∧ (voucher ⟨2⟩ w).1 = .ok v' ∧
      (findVoucher " ten_OFF" w).1 = .ok (some v) ∧ (findVoucher "abcd" w).1 = .ok (some v') ∧
      (findVoucher "ten" w).1 = .ok none ∧ ∃ e, (findVoucher "10 %" w).1 = .error (.invalid e) := by
  intro desk picks calls built w
  obtain ⟨rows, -, -, -, refused, finds, spelled⟩ := codes_identify_vouchers true calls
  have of_code : ∀ {id text}, (voucher id w).1.map (·.code.text) = .ok text →
      ∃ v, (voucher id w).1 = .ok v ∧ v.code.text = text := by
    intro id text coded
    cases found : (voucher id w).1 with
    | error e =>
      rw [found] at coded
      cases coded
    | ok v =>
      rw [found] at coded
      exact ⟨v, rfl, Except.ok.inj coded⟩
  obtain ⟨v, stored, code⟩ : ∃ v, (voucher ⟨1⟩ w).1 = .ok v ∧ v.code.text = "TEN_OFF" :=
    of_code (by decide +kernel)
  obtain ⟨v', stored', code'⟩ : ∃ v, (voucher ⟨2⟩ w).1 = .ok v ∧ v.code.text = "ABCD" :=
    of_code (by decide +kernel)
  refine ⟨v, v', stored, stored', spelled _ v _ stored ?_, spelled _ v' _ stored' ?_,
    by decide +kernel, (refused "10 %").2 ⟨.codeCharacter, by decide +kernel⟩⟩
  · rw [code]
    decide +kernel
  · rw [code']
    decide +kernel

end DiscountDesk

end BackOffice
