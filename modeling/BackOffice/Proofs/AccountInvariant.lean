import BackOffice.Proofs.AccountChanges
import BackOffice.Proofs.TrimmedText

/-!
# What every account keeps

An account begins without addresses or is put together from stored records (`User.Started`). What
an operation does to the address book is one operation of the book (`User.book_perform`), so what
is true of its entries is followed along the book alone: distinct values stay distinct and
normalized values stay normalized. With the defaults, of which none ever dangles, this is what a
run of operations keeps (`User.run_keeps_account`).
-/

namespace BackOffice

open BackOffice.Text

theorem AddressData.normalized_normalized (d : AddressData) :
    d.normalized.normalized = d.normalized := by
  simp only [normalized, trim_trim, trim_upper, upper_upper]

namespace AddressBook

/-- No value is that of two addresses. -/
def Distinct (b : AddressBook) : Prop :=
  ∀ ⦃i j d⦄, b.get? i = some d → b.get? j = some d → i = j

/-- Every value stands as normalization leaves it. -/
def Normalized (b : AddressBook) : Prop :=
  ∀ ⦃i d⦄, b.get? i = some d → d.normalized = d

variable {b : AddressBook}

/-- In a book of distinct and normalized values, addresses that normalization makes equal are one
address. -/
theorem Distinct.eq_of_normalized (distinct : b.Distinct) (normalized : b.Normalized)
    {i j : AddressId} {d e : AddressData} (first : b.get? i = some d) (second : b.get? j = some e)
    (same : d.normalized = e.normalized) : i = j := by
  rw [normalized first, normalized second] at same
  subst same
  exact distinct first second

theorem Distinct.apply (distinct : b.Distinct) (indexed : b.Indexed) (op : BookOp) :
    (b.apply op).Distinct := by
  intro i j d first second
  cases op with
  | remove id =>
    simp only [AddressBook.apply, get?_remove] at first second
    split at first
    next => cases first
    next =>
      split at second
      next => cases second
      next => exact distinct first second
  | getOrInsert fresh e =>
    simp only [AddressBook.apply, get?_getOrInsert] at first second
    -- An address is added only if no other has its value, so it is no twin of an older one.
    have alone : b.find? e = none → ∀ k, b.get? k ≠ some e := fun missing =>
      (indexed.find?_eq_none_iff e).1 missing
    split at first
    next new =>
      cases first
      split at second
      next new' => rw [new.2, new'.2]
      next => exact (alone new.1 j second).elim
    next =>
      split at second
      next new' =>
        cases second
        exact (alone new'.1 i first).elim
      next => exact distinct first second

theorem Normalized.apply (normalized : b.Normalized) {op : BookOp}
    (inserted : ∀ fresh d, op = .getOrInsert fresh d → d.normalized = d) :
    (b.apply op).Normalized := by
  intro i d there
  cases op with
  | remove id =>
    simp only [AddressBook.apply, get?_remove] at there
    split at there
    next => cases there
    next => exact normalized there
  | getOrInsert fresh e =>
    simp only [AddressBook.apply, get?_getOrInsert] at there
    split at there
    next =>
      cases there
      exact inserted fresh d rfl
    next => exact normalized there

theorem Distinct.after {ops : List BookOp} (distinct : b.Distinct) (indexed : b.Indexed)
    (new : b.MintsAllNew ops) : (b.after ops).Distinct := by
  induction ops generalizing b with
  | nil => exact distinct
  | cons op ops ih => exact ih (distinct.apply indexed op) (indexed.apply new.1) new.2

theorem Normalized.after {ops : List BookOp} (normalized : b.Normalized)
    (inserted : ∀ fresh d, .getOrInsert fresh d ∈ ops → d.normalized = d) :
    (b.after ops).Normalized := by
  induction ops generalizing b with
  | nil => exact normalized
  | cons op ops ih =>
    have first : ∀ fresh d, op = .getOrInsert fresh d → d.normalized = d := by
      rintro fresh d rfl
      exact inserted fresh d List.mem_cons_self
    exact ih (normalized.apply first) fun fresh d later =>
      inserted fresh d (List.mem_cons_of_mem _ later)

end AddressBook

/-- What an operation on an account does to the book. -/
def AccountOp.bookOp? : AccountOp → Option BookOp
  | .store fresh data _ | .change fresh data _ => some (.getOrInsert fresh data.normalized)
  | .setDefault _ _ => none
  | .delete address => some (.remove address)

theorem AccountOp.inserted_normalized {op : AccountOp} {fresh : AddressId} {d : AddressData}
    (inserts : op.bookOp? = some (.getOrInsert fresh d)) : d.normalized = d := by
  cases op with
  | store _ data _ | change _ data _ =>
    cases inserts
    exact data.normalized_normalized
  | setDefault _ _ | delete _ => cases inserts

namespace User

section Book

theorem book_storeAddress (u : User) (fresh : AddressId) (data : AddressData)
    (kind : AddressKind) :
    (u.storeAddress fresh data kind).user.book =
        (u.book.getOrInsert fresh data.normalized).1 ∧
      (u.storeAddress fresh data kind).address =
        (u.book.getOrInsert fresh data.normalized).2.1 := by
  by_cases unset : ((u.insert fresh data).1.default? kind).isNone = true
  · simp only [storeAddress, unset, ↓reduceIte, book_withDefault]
    exact ⟨rfl, rfl⟩
  · simp only [storeAddress, unset, Bool.false_eq_true, ↓reduceIte]
    exact ⟨rfl, rfl⟩

theorem book_changeDefault (u : User) (fresh : AddressId) (data : AddressData)
    (kind : AddressKind) :
    (u.changeDefault fresh data kind).user.book =
        (u.book.getOrInsert fresh data.normalized).1 ∧
      (u.changeDefault fresh data kind).address =
        (u.book.getOrInsert fresh data.normalized).2.1 :=
  ⟨book_pointAt .., rfl⟩

/-- The book after an operation, whether it is refused or not. -/
theorem book_perform (u : User) (op : AccountOp) :
    (u.perform op).1.book = u.book.after op.bookOp?.toList := by
  cases op with
  | store fresh data kind => exact (u.book_storeAddress fresh data kind).1
  | change fresh data kind => exact (u.book_changeDefault fresh data kind).1
  | setDefault address kind =>
    by_cases there : u.book.contains address = true
    · simp only [perform_eq, apply_setDefault, setDefault_eq, there, ↓reduceIte]
      exact book_pointAt u kind address
    · simp only [perform_eq, apply_setDefault, setDefault_eq, there, Bool.false_eq_true,
        ↓reduceIte]
      rfl
  | delete address =>
    by_cases there : u.book.contains address = true
    · obtain ⟨changes, v, cleared, -, book, -⟩ := foldl_unpoint address AddressKind.all u []
      simp only [perform_eq, apply_delete, deleteAddress_eq, there, ↓reduceIte, cleared, book]
      rfl
    · have absent : u.book.get? address = none := by
        simpa [AddressBook.contains] using there
      simp only [perform_eq, apply_delete, deleteAddress_of_not_contains there]
      exact (AddressBook.remove_of_absent absent).symm

theorem book_performAll (u : User) (ops : List AccountOp) :
    (u.performAll ops).1.book = u.book.after (ops.filterMap AccountOp.bookOp?) := by
  induction ops generalizing u with
  | nil => rfl
  | cons op ops ih =>
    have split : (op :: ops).filterMap AccountOp.bookOp? =
        op.bookOp?.toList ++ ops.filterMap AccountOp.bookOp? := by
      cases which : op.bookOp? <;> simp [which]
    rw [performAll, ih, book_perform, split, AddressBook.after, AddressBook.after,
      AddressBook.after, List.foldl_append]

/-- What is new to the account as it is by then is new to the book as it is by then. -/
theorem MintsAllNew.book {u : User} {ops : List AccountOp} (new : u.MintsAllNew ops) :
    u.book.MintsAllNew (ops.filterMap AccountOp.bookOp?) := by
  induction ops generalizing u with
  | nil => trivial
  | cons op ops ih =>
    have later := ih new.2
    rw [book_perform] at later
    cases op with
    | store fresh data kind => exact ⟨new.1, later⟩
    | change fresh data kind => exact ⟨new.1, later⟩
    | setDefault address kind => exact later
    | delete address => exact ⟨trivial, later⟩

end Book

section OfParts

variable {id : UserId} {firstName lastName : String} {book : AddressBook}
  {billing shipping : Option AddressId}

theorem ofParts_of_contains (billingThere : ∀ a ∈ billing, book.contains a = true)
    (shippingThere : ∀ a ∈ shipping, book.contains a = true) :
    ofParts id firstName lastName book billing shipping =
      .ok { id, firstName, lastName, book, billing, shipping } := by
  cases billing <;> cases shipping <;> simp_all [ofParts] <;> rfl

theorem ofParts_of_dangling_billing {a : AddressId} (dangles : book.contains a = false) :
    ofParts id firstName lastName book (some a) shipping =
      .error (.danglingDefault id .billing a) := by
  simp [ofParts, dangles]
  rfl

theorem ofParts_of_dangling_shipping (billingThere : ∀ a ∈ billing, book.contains a = true)
    {a : AddressId} (dangles : book.contains a = false) :
    ofParts id firstName lastName book billing (some a) =
      .error (.danglingDefault id .shipping a) := by
  cases billing with
  | none =>
    simp [ofParts, dangles]
    rfl
  | some b =>
    have there := billingThere b rfl
    simp [ofParts, dangles, there]
    rfl

theorem ofParts_eq_ok_iff {u : User} :
    ofParts id firstName lastName book billing shipping = .ok u ↔
      ((∀ a ∈ billing, book.contains a = true) ∧ ∀ a ∈ shipping, book.contains a = true) ∧
        u = { id, firstName, lastName, book, billing, shipping } := by
  constructor
  · intro put
    have billingThere : ∀ a ∈ billing, book.contains a = true := by
      rintro a rfl
      by_contra dangles
      rw [ofParts_of_dangling_billing (Bool.eq_false_iff.2 dangles)] at put
      cases put
    have shippingThere : ∀ a ∈ shipping, book.contains a = true := by
      rintro a rfl
      by_contra dangles
      rw [ofParts_of_dangling_shipping billingThere (Bool.eq_false_iff.2 dangles)] at put
      cases put
    rw [ofParts_of_contains billingThere shippingThere] at put
    exact ⟨⟨billingThere, shippingThere⟩, (Except.ok.inj put).symm⟩
  · rintro ⟨⟨billingThere, shippingThere⟩, rfl⟩
    exact ofParts_of_contains billingThere shippingThere

end OfParts

/-- How an account begins: without anything, or put together from stored records whose
identifiers are distinct. -/
inductive Started : User → Prop
  | new (id : UserId) : Started { id }
  | loaded {id : UserId} {firstName lastName : String} {records : List Address}
      {billing shipping : Option AddressId} {u : User}
      (distinct : (records.map (·.id)).Nodup)
      (put : ofParts id firstName lastName (.ofAddresses records) billing shipping = .ok u) :
      Started u

theorem Started.valid {u : User} (started : u.Started) : u.Valid := by
  cases started with
  | new id =>
    refine ⟨AddressBook.indexed_empty, ?_⟩
    intro kind a points
    cases kind <;> cases points
  | @loaded id firstName lastName records billing shipping u distinct put =>
    obtain ⟨there, parts⟩ := ofParts_eq_ok_iff.1 put
    subst parts
    refine ⟨AddressBook.indexed_ofAddresses distinct, ?_⟩
    intro kind a points
    cases kind with
    | billing => exact there.1 a points
    | shipping => exact there.2 a points

theorem setDefault_eq_error_iff {u : User} {a : AddressId} {kind : AddressKind}
    {e : AccountError} :
    u.setDefault a kind = .error e ↔ u.book.contains a = false ∧ e = .notInBook u.id a := by
  by_cases there : u.book.contains a = true
  · simp [setDefault_eq, there]
  · simp [setDefault_eq, there, eq_comm]

theorem deleteAddress_eq_error_iff {u : User} {a : AddressId} {e : AccountError} :
    u.deleteAddress a = .error e ↔ u.book.contains a = false ∧ e = .notInBook u.id a := by
  by_cases there : u.book.contains a = true
  · simp [deleteAddress_eq, there]
  · simp [deleteAddress_of_not_contains there, there, eq_comm]

/-- The operations that can be refused name an address, and are refused exactly if it is not in
the book. -/
theorem apply_eq_error_iff {u : User} {op : AccountOp} {e : AccountError} :
    u.apply op = .error e ↔
      ∃ a, (op = .delete a ∨ ∃ kind, op = .setDefault a kind) ∧ u.book.contains a = false ∧
        e = .notInBook u.id a := by
  cases op with
  | store fresh data kind => simp [apply_store]
  | change fresh data kind => simp [apply_change]
  | setDefault a kind => simp [apply_setDefault, setDefault_eq_error_iff]
  | delete a => simp [apply_delete, deleteAddress_eq_error_iff]

theorem perform_of_error {u : User} {op : AccountOp} {e : AccountError}
    (refused : u.apply op = .error e) : u.perform op = (u, []) := by
  simp only [perform_eq, refused]

/-- **No run of operations makes an account inconsistent.** Stored parts are put together exactly
if each default is in the book; otherwise the default for billing is reported, if it dangles, and
else the one for shipping. However an account begins and whatever is done to it, refused or not,
no default dangles. If no two addresses had the same value, none get it, and if all values were
normalized, they stay so: then addresses that normalization makes equal are one address, and what
is stored stands in the book as normalization leaves it. An operation is refused exactly if it
names an address outside the book, and then nothing changes. -/
theorem run_keeps_account :
    (∀ id firstName lastName records billing shipping,
      let book := AddressBook.ofAddresses records
      let put := ofParts id firstName lastName book billing shipping
      ((∃ u, put = .ok u) ↔
        (∀ a ∈ billing, book.contains a = true) ∧ ∀ a ∈ shipping, book.contains a = true) ∧
      (∀ u, put = .ok u → u = { id, firstName, lastName, book, billing, shipping }) ∧
      (∀ a ∈ billing, book.contains a = false → put = .error (.danglingDefault id .billing a)) ∧
      ((∀ a ∈ billing, book.contains a = true) → ∀ a ∈ shipping, book.contains a = false →
        put = .error (.danglingDefault id .shipping a))) ∧
    ∀ u : User, u.Started → ∀ ops, u.MintsAllNew ops →
      let v := (u.performAll ops).1
      (∀ kind a, v.default? kind = some a → v.book.contains a = true) ∧
      (u.book.Distinct → v.book.Distinct) ∧
      (u.book.Normalized → v.book.Normalized) ∧
      (u.book.Distinct → u.book.Normalized → ∀ i j d e, v.book.get? i = some d →
        v.book.get? j = some e → d.normalized = e.normalized → i = j) ∧
      (∀ fresh data kind,
        let stored := v.storeAddress fresh data kind
        let changed := v.changeDefault fresh data kind
        stored.user.book.get? stored.address = some data.normalized ∧
        changed.user.book.get? changed.address = some data.normalized) ∧
      ∀ op e, (v.apply op = .error e ↔
          ∃ a, (op = .delete a ∨ ∃ kind, op = .setDefault a kind) ∧
            v.book.contains a = false ∧ e = .notInBook v.id a) ∧
        (v.apply op = .error e → v.perform op = (v, [])) := by
  constructor
  · intro id firstName lastName records billing shipping book put
    refine ⟨?_, fun u done => (ofParts_eq_ok_iff.1 done).2, ?_, ?_⟩
    · constructor
      · rintro ⟨u, done⟩
        exact (ofParts_eq_ok_iff.1 done).1
      · rintro ⟨billingThere, shippingThere⟩
        exact ⟨_, ofParts_of_contains billingThere shippingThere⟩
    · rintro a rfl dangles
      exact ofParts_of_dangling_billing dangles
    · rintro billingThere a rfl dangles
      exact ofParts_of_dangling_shipping billingThere dangles
  · intro u started ops new v
    have valid : v.Valid := (started.valid.performAll_becomes new).valid started.valid
    have book : v.book = u.book.after (ops.filterMap AccountOp.bookOp?) := u.book_performAll ops
    have distinct : u.book.Distinct → v.book.Distinct := by
      intro before
      rw [book]
      exact before.after started.valid.indexed new.book
    have normalized : u.book.Normalized → v.book.Normalized := by
      intro before
      rw [book]
      apply before.after
      intro fresh d there
      obtain ⟨op, -, inserts⟩ := List.mem_filterMap.1 there
      exact AccountOp.inserted_normalized inserts
    refine ⟨fun kind a => valid.default_mem, distinct, normalized, ?_, ?_, ?_⟩
    · intro apart clean i j d e
      exact (distinct apart).eq_of_normalized (normalized clean)
    · intro fresh data kind stored changed
      have inserted := valid.indexed.get?_getOrInsert_self fresh data.normalized
      obtain ⟨storedBook, storedAt⟩ := v.book_storeAddress fresh data kind
      obtain ⟨changedBook, changedAt⟩ := v.book_changeDefault fresh data kind
      constructor
      · rw [storedBook, storedAt, inserted]
      · rw [changedBook, changedAt, inserted]
    · intro op e
      exact ⟨apply_eq_error_iff, perform_of_error⟩

/-- A loaded account with both defaults on one address: the address goes, its value comes back
with blanks around it, and two requests name addresses outside the book. -/
theorem run_keeps_account_of_one :
    let home : AddressData := { city := "Oslo", country := "NO" }
    let first : AddressId := ⟨1, by decide⟩
    let records : List Address := [⟨first, home⟩]
    let u : User := { id := ⟨1⟩, book := .ofAddresses records, billing := some first,
                      shipping := some first }
    let ops : List AccountOp := [
      .store ⟨2, by decide⟩ { city := " Oslo ", country := "no" } .billing, .delete first,
      .setDefault first .billing,
      .store ⟨3, by decide⟩ { city := "Oslo ", country := "No" } .shipping, .delete first]
    let v := (u.performAll ops).1
    u.Started ∧ u.MintsAllNew ops ∧ v.default? .shipping = some ⟨3, by decide⟩ ∧
      v.book.contains ⟨3, by decide⟩ = true ∧ v.book.Distinct ∧ v.book.Normalized ∧
      v.apply (.delete first) = .error (.notInBook v.id first) ∧
      v.perform (.delete first) = (v, []) := by
  intro home first records u ops v
  obtain ⟨parts, runs⟩ := run_keeps_account
  have put : ofParts u.id "" "" (.ofAddresses records) (some first) (some first) = .ok u := by
    have there : (AddressBook.ofAddresses records).contains first = true := by decide +kernel
    obtain ⟨loads, made, -, -⟩ := parts u.id "" "" records (some first) (some first)
    obtain ⟨w, done⟩ := loads.2 ⟨fun a here => Option.some.inj here ▸ there,
      fun a here => Option.some.inj here ▸ there⟩
    rw [done, made w done]
  have started : u.Started := .loaded (by decide) put
  have new : u.MintsAllNew ops := by decide +kernel
  have points : v.default? .shipping = some ⟨3, by decide⟩ := by decide +kernel
  have sole : ∀ {i d}, u.book.get? i = some d → i = first ∧ d = home := by
    intro i d there
    have held := Assoc.get?_eq_some_iff.1 there
    have entries : u.book.entries.entries = [(first, home)] := by decide +kernel
    rw [entries, List.mem_singleton] at held
    cases held
    exact ⟨rfl, rfl⟩
  have apart : u.book.Distinct := fun i j d here here' => (sole here).1.trans (sole here').1.symm
  have clean : u.book.Normalized := by
    intro i d there
    rw [(sole there).2]
    decide +kernel
  obtain ⟨defaults, distinct, normalized, -, -, refused⟩ := runs u started ops new
  have gone : v.apply (.delete first) = .error (.notInBook v.id first) :=
    (refused _ _).1.2 ⟨first, .inl rfl, by decide +kernel, rfl⟩
  exact ⟨started, new, points, defaults .shipping _ points, distinct apart, normalized clean, gone,
    (refused _ _).2 gone⟩

end User

end BackOffice
