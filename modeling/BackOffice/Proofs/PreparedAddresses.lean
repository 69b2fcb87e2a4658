import BackOffice.Proofs.AccountMoves
import BackOffice.Proofs.MaskedStores

/-!
# Prepared addresses

An address is prepared where it comes in, and the account normalizes it once more before it looks
for its value. Neither does harm: preparing twice is preparing once, masked if either asks for it
(`AddressData.prepared_or`). So a prepared address enters the book as it is
(`User.puts_storeAddress`, `AddressData.normalized_prepared`), a desk treats it as a desk that also
masks treats the address it was made of (`AccountDesk.ask_prepared`), and what a desk has put into
its tables it would prepare to itself (`AccountDesk.prepared_of_inserted`).
-/

namespace BackOffice

namespace User

/-- Exactly this value is looked for in the book, added if it is missing, and reported. -/
structure Puts (u : User) (fresh : AddressId) (d : AddressData) (stored : Stored) : Prop where
  book : stored.user.book = (u.book.getOrInsert fresh d).1
  address : stored.address = (u.book.getOrInsert fresh d).2.1
  created : stored.created = (u.book.getOrInsert fresh d).2.2
  reported : ∀ a, .addressCreated a ∈ stored.changes → a = ⟨fresh, d⟩

/-- All that an operation on the account creates is what it inserts. -/
theorem eq_of_created {u v : User} {op : AccountOp} {changes : List AccountChange}
    {fresh : AddressId} {d : AddressData} {a : Address}
    (inserts : op.bookOp? = some (.getOrInsert fresh d)) (done : u.apply op = .ok (v, changes))
    (created : .addressCreated a ∈ changes) : a = ⟨fresh, d⟩ := by
  rw [bookOp?_of_created done created] at inserts
  obtain ⟨id, value⟩ := BookOp.getOrInsert.inj (Option.some.inj inserts)
  rw [← id, ← value]

variable (u : User) (fresh : AddressId) (data : AddressData) (kind : AddressKind)

theorem puts_storeAddress : u.Puts fresh data.normalized (u.storeAddress fresh data kind) where
  book := (u.book_storeAddress fresh data kind).1
  address := (u.book_storeAddress fresh data kind).2
  created := created_storeAddress u fresh data kind
  reported _ created :=
    have done : u.apply (.store fresh data kind) = .ok ((u.storeAddress fresh data kind).user,
      (u.storeAddress fresh data kind).changes) := rfl
    eq_of_created rfl done created

theorem puts_changeDefault : u.Puts fresh data.normalized (u.changeDefault fresh data kind) where
  book := (u.book_changeDefault fresh data kind).1
  address := (u.book_changeDefault fresh data kind).2
  created := created_changeDefault u fresh data kind
  reported _ created :=
    have done : u.apply (.change fresh data kind) = .ok ((u.changeDefault fresh data kind).user,
      (u.changeDefault fresh data kind).changes) := rfl
    eq_of_created rfl done created

end User

namespace AccountDesk

/-- A desk that is given a prepared address does what a desk does with the address as it was, if it
masks where either has masked. -/
theorem ask_prepared (desk : AccountDesk) (id : UserId) (op : AccountOp) (mask : Bool) :
    desk.ask id (op.prepared mask) = ask { mask := mask || desk.mask } id op := by
  cases op with
  | store fresh data kind | change fresh data kind =>
    simp only [AccountOp.prepared, ask, storeAddress, changeDefault, AddressData.prepared_or]
  | setDefault address kind | delete address => rfl

/-- What a desk inserts it would prepare to itself, and so would a desk that does not mask. -/
theorem prepared_of_inserted {mask : Bool} {call : DeskCall} {r : AddressRow}
    (inserts : call.Inserts mask r) (again : Bool) :
    r.address.data.prepared (mask && again) = r.address.data := by
  obtain ⟨data, same⟩ := inserts.exists_prepared
  have no_more : (mask || (mask && again)) = mask := by cases mask <;> rfl
  rw [same, AddressData.prepared_or, no_more]

/-- **To prepare an address is to prepare it once and for all.** Preparing it twice is preparing it
once, masked if either asks for it; normalizing and masking can change places, and each done again
changes nothing. So the account that normalizes a prepared address puts it into the book as it is,
whether it is stored or made the default, and a desk that is given a prepared address does what it
would do with the address before. Whatever the tables hold and whatever is asked of a desk, a row of
the table of addresses that was not there at first holds what this desk would prepare to itself, as
would one that does not mask. -/
theorem preparing_composes :
    (∀ (d : AddressData) a b, (d.prepared a).prepared b = d.prepared (a || b)) ∧
    (∀ d : AddressData, d.normalized.masked = d.masked.normalized ∧
      d.normalized.normalized = d.normalized ∧ d.masked.masked = d.masked) ∧
    (∀ (u : User) fresh (d : AddressData) mask kind,
      (d.prepared mask).normalized = d.prepared mask ∧
      u.Puts fresh (d.prepared mask) (u.storeAddress fresh (d.prepared mask) kind) ∧
      u.Puts fresh (d.prepared mask) (u.changeDefault fresh (d.prepared mask) kind)) ∧
    (∀ (desk : AccountDesk) id op mask,
      desk.ask id (op.prepared mask) = ask { mask := mask || desk.mask } id op) ∧
    ∀ (desk : AccountDesk) calls (w : Session AccountStore),
      ∀ r ∈ (serve (DeskCall.atDesk desk) calls w).2.store.addresses, r ∉ w.store.addresses →
        ∀ again, r.address.data.prepared (desk.mask && again) = r.address.data := by
  refine ⟨AddressData.prepared_or, ?_, ?_, ask_prepared, ?_⟩
  · intro d
    exact ⟨d.normalized_masked.symm, d.normalized_normalized, d.masked_masked⟩
  · intro u fresh d mask kind
    have still := d.normalized_prepared mask
    have stored := u.puts_storeAddress fresh (d.prepared mask) kind
    have changed := u.puts_changeDefault fresh (d.prepared mask) kind
    rw [still] at stored changed
    exact ⟨still, stored, changed⟩
  · intro desk calls w r there new again
    obtain ⟨call, -, inserts⟩ := (addresses_inserted desk calls w).of_new there new
    exact prepared_of_inserted inserts again

/-- A desk that masks stores an address with blanks of several kinds; given the row again, it would
keep it as it is. -/
theorem preparing_composes_for_one :
    let given : AddressData :=
      { firstName := "\u2003Ada\t Maria ", phone := "\u00a0555", country := " fr\n" }
    let kept : AddressData := { firstName := "A.. M....", phone := "5..", country := "FR" }
    let desk : AccountDesk := { mask := true }
    let w : Session AccountStore := { store := { rows := some {
      users := [{ id := ⟨1⟩, firstName := "", lastName := "" }] } } }
    let calls : List DeskCall := [.ask ⟨1⟩ (.change ⟨2, by decide⟩ given .billing)]
    let r : AddressRow := ⟨⟨⟨2, by decide⟩, kept⟩, ⟨1⟩⟩
    (given.prepared false).prepared true = kept ∧ given.masked.normalized = kept ∧
      r ∈ (serve (DeskCall.atDesk desk) calls w).2.store.addresses ∧ r ∉ w.store.addresses ∧
      kept.prepared true = kept ∧ kept.prepared false = kept := by
  intro given kept desk w calls r
  obtain ⟨twice, parts, -, -, rows⟩ := preparing_composes
  have prepared : given.prepared true = kept := by decide +kernel
  have there : r ∈ (serve (DeskCall.atDesk desk) calls w).2.store.addresses := by decide +kernel
  have new : r ∉ w.store.addresses := List.not_mem_nil
  refine ⟨(twice given false true).trans prepared, (parts given).1.symm.trans prepared, there, new,
    rows desk calls w r there new true, rows desk calls w r there new false⟩

end AccountDesk

end BackOffice
