import BackOffice.Proofs.Atomicity
import BackOffice.Proofs.MaskedText

/-!
# Stores that mask

A desk that masks keeps no address as it is given. Whatever the tables hold at first and whatever
is asked of the desk, the table of addresses holds afterwards some of the rows from before and rows
that the calls brought, each of them masked (`AccountDesk.addresses_after`). Every statement is
judged alone for what it leaves in the table; work put together of such statements, failing work
and work that is taken back included, leaves what they leave (`Work.Preserves`).
-/

namespace BackOffice

open Work

/-- The later rows are some of the earlier ones, in their order, and new ones of which `P` is
true. -/
def GrownBy {α : Type} (P : α → Prop) (before after : List α) : Prop :=
  ∃ kept new, after = kept ++ new ∧ kept.Sublist before ∧ ∀ r ∈ new, P r

namespace GrownBy

variable {α : Type} {P : α → Prop} {before after : List α}

theorem refl (P : α → Prop) (l : List α) : GrownBy P l l :=
  ⟨l, [], (List.append_nil l).symm, .refl l, nofun⟩

theorem append (grown : GrownBy P before after) {r : α} (holds : P r) :
    GrownBy P before (after ++ [r]) := by
  obtain ⟨kept, new, rfl, among, all⟩ := grown
  refine ⟨kept, new ++ [r], List.append_assoc _ _ _, among, ?_⟩
  intro r' member
  rcases List.mem_append.1 member with earlier | last
  · exact all r' earlier
  · rwa [List.mem_singleton.1 last]

theorem filter (grown : GrownBy P before after) (p : α → Bool) :
    GrownBy P before (after.filter p) := by
  obtain ⟨kept, new, rfl, among, all⟩ := grown
  refine ⟨kept.filter p, new.filter p, List.filter_append _ _, ?_, ?_⟩
  · exact List.filter_sublist.trans among
  · exact fun r member => all r (List.mem_of_mem_filter member)

theorem of_new (grown : GrownBy P before after) {r : α} (there : r ∈ after) (new : r ∉ before) :
    P r := by
  obtain ⟨kept, added, rfl, among, all⟩ := grown
  rcases List.mem_append.1 there with old | added
  · exact (new (among.mem old)).elim
  · exact all r added

end GrownBy

namespace AccountStore

/-- The addresses of tables that may not be there. -/
def addressesIn (rows : Option AccountRows) : List AddressRow :=
  rows.elim [] (·.addresses)

/-- The rows of the table of addresses, none if there is no table. -/
def addresses (s : AccountStore) : List AddressRow :=
  addressesIn s.rows

variable {P : AddressRow → Prop} {before : List AddressRow}

/-- The table of addresses has grown by rows of which `P` is true. -/
def HasGrown (P : AddressRow → Prop) (before : List AddressRow) (rows : Option AccountRows) :
    Prop :=
  GrownBy P before (addressesIn rows)

theorem preserves_setRows {I : Option AccountRows → Prop} {new : AccountRows}
    (holds : I (some new)) : (setRows new).Preserves rows I :=
  fun _ _ => holds

/-- A statement is judged on the rows that it reads. -/
theorem preserves_rowsFor_bind {α : Type} {I : Option AccountRows → Prop}
    {next : AccountRows → Statement α} (table : String)
    (there : ∀ new, I (some new) → (next new).Preserves rows I) :
    (rowsFor table >>= next).Preserves rows I := by
  intro w holds
  rw [InPlace.bind_apply, rowsFor_apply]
  cases found : w.store.rows with
  | none => exact holds
  | some new =>
    rw [found] at holds
    exact there new holds w (found ▸ holds)

/-- An insertion brings its row or fails. -/
theorem insertAddress_preserves {owner : UserId} {address : Address} (holds : P ⟨address, owner⟩) :
    (insertAddress owner address).Preserves rows (HasGrown P before) := by
  refine preserves_rowsFor_bind _ fun new grown => ?_
  have written : HasGrown P before
      (some { new with addresses := new.addresses ++ [{ address, owner }] }) :=
    GrownBy.append grown holds
  refine (keeps_note _ _).preserves.bind fun _ => ?_
  dsimp only
  split
  next => exact preserves_throw_bind _
  next =>
    split
    next => exact preserves_throw_bind _
    next =>
      split
      next => exact preserves_throw_bind _
      next => exact preserves_setRows written

theorem deleteAddress_preserves (owner : UserId) (address : AddressId) :
    (deleteAddress owner address).Preserves rows (HasGrown P before) := by
  refine preserves_rowsFor_bind _ fun new grown => (keeps_note _ _).preserves.bind fun _ => ?_
  refine preserves_setRows ?_
  unfold AccountRows.deleteAddress
  dsimp only
  split
  next => exact GrownBy.filter grown _
  next => exact grown

theorem updateUser_preserves (id : UserId) (f : UserRow → UserRow) :
    (updateUser id f).Preserves rows (HasGrown P before) := by
  refine preserves_rowsFor_bind _ fun new grown => (keeps_note _ _).preserves.bind fun _ => ?_
  have still : HasGrown P before (some (new.modifyUser id f)) := grown
  refine (keeps_forM _ (keeps_checkPointers _)).preserves.bind fun _ => ?_
  exact (preserves_setRows still).bind fun _ => (keeps_pure _).preserves

/-- Changes of an account bring the rows of the addresses that they create. -/
theorem applyChanges_preserves {id : UserId} {changes : List AccountChange}
    (created : ∀ a, .addressCreated a ∈ changes → P ⟨a, id⟩) :
    (applyChanges id changes).Preserves rows (HasGrown P before) := by
  refine preserves_forM changes fun c member => ?_
  cases c with
  | addressCreated a => exact (insertAddress_preserves (created a member)).mapError _
  | addressDeleted a => exact (deleteAddress_preserves id a).mapError _
  | defaultSet kind a =>
    exact ((updateUser_preserves id _).bind fun _ => (keeps_pure _).preserves).mapError _

end AccountStore

namespace User

variable {u v : User} {changes : List AccountChange} {a : Address}

theorem not_mem_of_created_eq_nil (none : changes.filterMap AccountChange.created? = []) :
    .addressCreated a ∉ changes := by
  intro created
  have listed : a.id ∈ changes.filterMap AccountChange.created? :=
    List.mem_filterMap.2 ⟨_, created, rfl⟩
  rw [none] at listed
  cases listed

theorem created_insert {fresh : AddressId} {data : AddressData}
    (created : .addressCreated a ∈ (u.insert fresh data).2.2.2) : a = ⟨fresh, data.normalized⟩ := by
  cases found : u.book.find? data.normalized with
  | some id =>
    rw [insert_of_find? found] at created
    cases created
  | none =>
    rw [insert_of_missing found, List.mem_singleton] at created
    exact AccountChange.addressCreated.inj created

/-- An operation creates no address but the one that it adds to the book. -/
theorem bookOp?_of_created {op : AccountOp} (done : u.apply op = .ok (v, changes))
    (created : .addressCreated a ∈ changes) : op.bookOp? = some (.getOrInsert a.id a.data) := by
  cases op with
  | store fresh data kind =>
    obtain ⟨-, rfl⟩ := Prod.mk.inj (Except.ok.inj done)
    rw [(storeAddress_eq_pointAt u fresh data kind).2] at created
    rcases List.mem_append.1 created with inserted | pointed
    · rw [created_insert inserted]
      rfl
    · split at pointed
      next => exact (not_mem_of_created_eq_nil (created_pointAt _ _ _) pointed).elim
      next => cases pointed
  | change fresh data kind =>
    obtain ⟨-, rfl⟩ := Prod.mk.inj (Except.ok.inj done)
    rw [changes_changeDefault] at created
    rcases List.mem_append.1 created with inserted | pointed
    · rw [created_insert inserted]
      rfl
    · exact (not_mem_of_created_eq_nil (created_pointAt _ _ _) pointed).elim
  | setDefault address kind =>
    exact (not_mem_of_created_eq_nil (created_setDefault done) created).elim
  | delete address => exact (not_mem_of_created_eq_nil (created_deleteAddress done) created).elim

end User

/-- An operation inserts only an address that it is given, as it is prepared. -/
theorem AccountOp.of_inserts {op : AccountOp} {mask : Bool} {fresh : AddressId} {d : AddressData}
    (inserts : (op.prepared mask).bookOp? = some (.getOrInsert fresh d)) :
    ∃ data kind, d = data.prepared mask ∧
      (op = .store fresh data kind ∨ op = .change fresh data kind) := by
  cases op with
  | store fresh' data kind =>
    rw [AccountOp.prepared, AccountOp.bookOp?, data.normalized_prepared, Option.some.injEq,
      BookOp.getOrInsert.injEq] at inserts
    exact ⟨data, kind, inserts.2.symm, .inl (by rw [inserts.1])⟩
  | change fresh' data kind =>
    rw [AccountOp.prepared, AccountOp.bookOp?, data.normalized_prepared, Option.some.injEq,
      BookOp.getOrInsert.injEq] at inserts
    exact ⟨data, kind, inserts.2.symm, .inr (by rw [inserts.1])⟩
  | setDefault _ _ | delete _ => cases inserts

/-- A call to the account desk. -/
inductive DeskCall where
  | user (id : UserId)
  | displayName (id : UserId)
  | ask (id : UserId) (op : AccountOp)
deriving DecidableEq

/-- What the account desk returns. -/
inductive DeskAnswer where
  | user (u : User)
  | displayName (name : DisplayName)
  | asked (answer : AccountAnswer)
deriving DecidableEq

namespace DeskCall

/-- The desk answers a call. -/
def atDesk (desk : AccountDesk) : DeskCall → AccountDesk.Request DeskAnswer
  | .user id => .user <$> AccountDesk.user id
  | .displayName id => .displayName <$> AccountDesk.displayName id
  | .ask id op => .asked <$> desk.ask id op

/-- The call brings an address with this value, for which this is the row where it is masked. -/
inductive Brings (data : AddressData) : DeskCall → AddressRow → Prop
  | stored (id : UserId) (fresh : AddressId) (kind : AddressKind) :
    Brings data (.ask id (.store fresh data kind)) ⟨⟨fresh, data.prepared true⟩, id⟩
  | changed (id : UserId) (fresh : AddressId) (kind : AddressKind) :
    Brings data (.ask id (.change fresh data kind)) ⟨⟨fresh, data.prepared true⟩, id⟩

/-- The call is for an operation that inserts the address of this row, masked or not. -/
inductive Inserts (mask : Bool) : DeskCall → AddressRow → Prop
  | of_op {id : UserId} {op : AccountOp} {fresh : AddressId} {d : AddressData}
    (inserts : (op.prepared mask).bookOp? = some (.getOrInsert fresh d)) :
    Inserts mask (.ask id op) ⟨⟨fresh, d⟩, id⟩

variable {mask : Bool} {call : DeskCall} {r : AddressRow}

/-- What is inserted is what an address of the call is prepared to. -/
theorem Inserts.exists_prepared (inserts : call.Inserts mask r) :
    ∃ data : AddressData, r.address.data = data.prepared mask := by
  cases inserts with
  | of_op inserts =>
    obtain ⟨data, -, same, -⟩ := AccountOp.of_inserts inserts
    exact ⟨data, same⟩

/-- What is inserted at a desk that masks is brought by the call. -/
theorem Inserts.exists_brings (inserts : call.Inserts true r) : ∃ data, Brings data call r := by
  cases inserts with
  | @of_op id op fresh d inserts =>
    obtain ⟨data, kind, rfl, rfl | rfl⟩ := AccountOp.of_inserts inserts
    · exact ⟨data, .stored id fresh kind⟩
    · exact ⟨data, .changed id fresh kind⟩

end DeskCall

namespace AccountDesk

open AccountStore

variable {P : AddressRow → Prop} {before : List AddressRow} {id : UserId}

/-- An operation brings the rows of the addresses that it creates, or fails and brings none. -/
theorem withUser_preserves {α : Type}
    {operation : InPlace User AccountError (α × List AccountChange)}
    (created : ∀ u b changes a, (operation u).1 = .ok (b, changes) →
      .addressCreated a ∈ changes → P ⟨a, id⟩) :
    (withUser id operation).Preserves rows (HasGrown P before) := by
  refine Preserves.transaction (fun _ _ => rfl) ((keeps_user id).preserves.bind fun u => ?_)
  split
  next => exact (keeps_throw _).preserves
  next b changes done =>
    refine ((applyChanges_preserves fun a member => ?_).mapError _).bind fun _ =>
      (keeps_pure _).preserves
    exact created u b changes a done member

/-- A request inserts only the rows of its call. -/
theorem ask_preserves (desk : AccountDesk) {op : AccountOp}
    (inserts : ∀ r, DeskCall.Inserts desk.mask (.ask id op) r → P r) :
    (desk.ask id op).Preserves rows (HasGrown P before) := by
  -- All that matters of a request is that its changes are those of the prepared operation.
  have whole {α : Type} {operation : InPlace User AccountError (α × List AccountChange)}
      (decides : ∀ u b changes, (operation u).1 = .ok (b, changes) →
        ∃ v, u.apply (op.prepared desk.mask) = .ok (v, changes)) :
      (withUser id operation).Preserves rows (HasGrown P before) := by
    refine withUser_preserves fun u b changes a done created => ?_
    obtain ⟨v, applied⟩ := decides u b changes done
    exact inserts _ (.of_op (User.bookOp?_of_created applied created))
  cases op with
  | store fresh data kind =>
    refine ((whole fun u b changes done => ?_).bind fun _ => ?_).map _
    · obtain ⟨-, rfl⟩ := Prod.mk.inj (Except.ok.inj done)
      exact ⟨_, rfl⟩
    · exact (keeps_report _).preserves.bind fun _ => (keeps_pure _).preserves
  | change fresh data kind =>
    refine ((whole fun u b changes done => ?_).bind fun _ => ?_).map _
    · obtain ⟨-, rfl⟩ := Prod.mk.inj (Except.ok.inj done)
      exact ⟨_, rfl⟩
    · exact (keeps_report _).preserves.bind fun _ => (keeps_pure _).preserves
  | setDefault address kind =>
    refine ((whole fun u b changes => ?_).bind fun _ => (keeps_report _).preserves).map _
    exact exists_of_silently
  | delete address =>
    refine ((whole fun u b changes => ?_).bind fun _ => (keeps_report _).preserves).map _
    exact exists_of_silently

/-- A call inserts its own rows into the table of addresses, and no others. -/
theorem answer_preserves (desk : AccountDesk) {call : DeskCall}
    (inserts : ∀ r, call.Inserts desk.mask r → P r) :
    (call.atDesk desk).Preserves rows (HasGrown P before) := by
  cases call with
  | user id => exact ((keeps_user id).map _).preserves
  | displayName id => exact (((keeps_user id).bind fun _ => keeps_pure _).map _).preserves
  | ask id op => exact (ask_preserves desk inserts).map _

theorem serve_preserves (desk : AccountDesk) {calls : List DeskCall}
    (inserts : ∀ call ∈ calls, ∀ r, call.Inserts desk.mask r → P r)
    {w : Session AccountStore} (grown : HasGrown P before w.store.rows) :
    HasGrown P before (serve (DeskCall.atDesk desk) calls w).2.store.rows := by
  induction calls generalizing w with
  | nil => exact grown
  | cons call calls ih =>
    obtain ⟨first, rest⟩ := List.forall_mem_cons.1 inserts
    exact ih rest (answer_preserves desk first w grown)

/-- Whatever is asked of a desk, the table of addresses holds afterwards some of the rows from
before, in their order, and behind them rows that the calls inserted. -/
theorem addresses_inserted (desk : AccountDesk) (calls : List DeskCall)
    (w : Session AccountStore) :
    GrownBy (fun r => ∃ call ∈ calls, call.Inserts desk.mask r) w.store.addresses
      (serve (DeskCall.atDesk desk) calls w).2.store.addresses :=
  serve_preserves desk (fun call member _ inserts => ⟨call, member, inserts⟩) (.refl _ _)

/-- At a desk that masks the calls brought these rows. -/
theorem addresses_after (calls : List DeskCall) (w : Session AccountStore) :
    GrownBy (fun r => ∃ call ∈ calls, ∃ data, DeskCall.Brings data call r) w.store.addresses
      (serve (DeskCall.atDesk { mask := true }) calls w).2.store.addresses := by
  refine serve_preserves { mask := true } (fun call member r inserts => ?_) (.refl _ _)
  exact ⟨call, member, inserts.exists_brings⟩

/-- **A store that masks keeps nobody's particulars.** Whatever the tables hold at first, and
whatever calls a desk that masks is asked to answer, each row of the table of addresses that was
not there at first has been brought by one of the calls. Preparing its address again changes
nothing, so it is normalized. Its names, company, street lines and phone show of each word the
first character and points for the others, with one space between two words; its place is that of
the address which the call brought, normalized. -/
theorem masked_store_hides_people (calls : List DeskCall) (w : Session AccountStore) :
    ∀ r ∈ (serve (DeskCall.atDesk { mask := true }) calls w).2.store.addresses,
      r ∉ w.store.addresses →
      ∃ call ∈ calls, ∃ data, DeskCall.Brings data call r ∧
        r.address.data.prepared true = r.address.data ∧
        r.address.data.normalized = r.address.data ∧
        (∀ field ∈ r.address.data.personal, AddressData.ShowsInitials field) ∧
        r.address.data.place = data.normalized.place := by
  intro r there new
  obtain ⟨call, member, data, brings⟩ := (addresses_after calls w).of_new there new
  have masked : r.address.data = data.prepared true := by cases brings <;> rfl
  refine ⟨call, member, data, brings, ?_⟩
  rw [masked]
  exact ⟨data.prepared_prepared true, data.normalized_prepared true,
    fun _ => AddressData.showsInitials_of_prepared, data.place_prepared true⟩

/-- A table holds an address in clear text, and the same address is stored by a desk that masks. -/
theorem masked_store_hides_people_of_one :
    let clear : AddressData := { firstName := "Ada Maria", phone := "555", city := "Paris" }
    let hidden : AddressData := { firstName := "A.. M....", phone := "5..", city := "Paris" }
    let given : AddressData :=
      { firstName := "\u2003Ada\t Maria ", phone := "555", city := " Paris" }
    let w : Session AccountStore := { store := { rows := some {
      users := [{ id := ⟨1⟩, firstName := "", lastName := "" }]
      addresses := [⟨⟨⟨1, by decide⟩, clear⟩, ⟨1⟩⟩] } } }
    let calls : List DeskCall := [.ask ⟨1⟩ (.store ⟨2, by decide⟩ given .billing), .user ⟨1⟩]
    (serve (DeskCall.atDesk { mask := true }) calls w).2.store.addresses =
        [⟨⟨⟨1, by decide⟩, clear⟩, ⟨1⟩⟩, ⟨⟨⟨2, by decide⟩, hidden⟩, ⟨1⟩⟩] ∧
      hidden.prepared true = hidden ∧ AddressData.ShowsInitials "A.. M...." := by
  intro clear hidden given w calls
  have after : (serve (DeskCall.atDesk { mask := true }) calls w).2.store.addresses =
      [⟨⟨⟨1, by decide⟩, clear⟩, ⟨1⟩⟩, ⟨⟨⟨2, by decide⟩, hidden⟩, ⟨1⟩⟩] := by
    decide +kernel
  obtain ⟨-, -, -, -, fixed, -, initials, -⟩ := masked_store_hides_people calls w
    ⟨⟨⟨2, by decide⟩, hidden⟩, ⟨1⟩⟩ (by rw [after]; simp) (by decide)
  exact ⟨after, fixed, initials "A.. M...." List.mem_cons_self⟩

end AccountDesk

end BackOffice
