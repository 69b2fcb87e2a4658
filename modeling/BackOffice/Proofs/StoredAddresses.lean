import BackOffice.Proofs.AccountMoves

/-!
# Storing, storing again and taking back

How the operations that add an address fit together. To change a default is to store an address and
then to make it the default (`User.change_eq_store_then_set`). An address that has been stored is
found again by every spelling of it, so to store it again adds nothing
(`User.storeAddress_of_find?`); and since a new address stands behind all others and nothing else
names it, its deletion restores the account as it was (`User.Valid.delete_stored`).
-/

namespace BackOffice

theorem Assoc.erase_append {κ α : Type} [DecidableEq κ] {m : Assoc κ α} {k : κ} (a : α)
    (new : k ∉ m.keys) : (m.append k a new).erase k = m := by
  have others : m.entries.filter (fun e => e.1 ≠ k) = m.entries := by
    rw [List.filter_eq_self]
    intro e there
    rw [decide_eq_true_eq]
    rintro rfl
    exact new (mem_keys.2 ⟨e.2, there⟩)
  apply Assoc.ext
  rw [entries_erase, entries_append, List.filter_append, others]
  simp

namespace AddressBook

/-- What has been inserted is found by its value. -/
theorem find?_getOrInsert_self (b : AddressBook) (fresh : AddressId) (d : AddressData) :
    (b.getOrInsert fresh d).1.find? d = some (b.getOrInsert fresh d).2.1 := by
  cases found : b.find? d with
  | some id => rw [getOrInsert_of_find? found, found]
  | none => simp [getOrInsert_of_missing found, find?_record, found]

/-- The removal of an address that was new, and whose value was, restores the book. -/
theorem Indexed.remove_recorded {b : AddressBook} (indexed : b.Indexed) {a : Address}
    (missing : b.find? a.data = none) (new : b.get? a.id = none) :
    ((b.record a).remove a.id).1 = b := by
  have entries : (b.record a).entries.erase a.id = b.entries := by
    rw [AddressBook.record, Assoc.put_eq_append _ new, Assoc.erase_append]
  have index : (b.record a).index.erase a.data = b.index := by
    rw [AddressBook.record, Assoc.putNew_eq_append _ missing, Assoc.erase_append]
  have there : (b.record a).get? a.id = some a.data := by rw [get?_record, if_pos rfl]
  have named : (b.record a).index.get? a.data = some a.id := by
    have found := find?_record b a a.data
    rwa [missing, Option.none_or, if_pos rfl] at found
  -- Another address with this value would have been found before.
  have alone : smallest? b.entries a.data = none := by
    by_contra some
    obtain ⟨other, found⟩ := Option.ne_none_iff_exists'.1 some
    exact (indexed.find?_eq_none_iff a.data).1 missing other (get?_of_smallest? found)
  simp only [AddressBook.remove, there, entries, reindex, named, alone, index, ↓reduceIte]

end AddressBook

namespace User

variable {u : User} {fresh id : AddressId} {data : AddressData} {kind : AddressKind}

section Store

/-- While there is no default, to store an address is to change the default. -/
theorem storeAddress_of_unset (unset : u.default? kind = none) (fresh : AddressId)
    (data : AddressData) : u.storeAddress fresh data kind = u.changeDefault fresh data kind := by
  have still : (u.insert fresh data).1.default? kind = none := by rw [default?_insert, unset]
  have other : (u.insert fresh data).1.default? kind ≠ some (u.insert fresh data).2.1 := by
    rw [still]
    exact nofun
  have pointed : (u.insert fresh data).1.pointAt kind (u.insert fresh data).2.1 =
      ((u.insert fresh data).1.withDefault kind (some (u.insert fresh data).2.1),
        [.defaultSet kind (some (u.insert fresh data).2.1)]) := if_neg other
  simp only [storeAddress, changeDefault, still, pointed, Option.isNone_none, ↓reduceIte]

/-- While there is a default, to store an address is to insert it. -/
theorem storeAddress_of_set (set : u.default? kind ≠ none) (fresh : AddressId)
    (data : AddressData) :
    let inserted := u.insert fresh data
    u.storeAddress fresh data kind =
      { user := inserted.1, address := inserted.2.1, created := inserted.2.2.1,
        changes := inserted.2.2.2 } := by
  have still : (u.insert fresh data).1.default? kind ≠ none := by rwa [default?_insert]
  simp only [storeAddress, Option.isNone_iff_eq_none, still, ↓reduceIte]

/-- What has been stored is found by its value. -/
theorem find?_storeAddress (u : User) (fresh : AddressId) (data : AddressData)
    (kind : AddressKind) :
    (u.storeAddress fresh data kind).user.book.find? data.normalized =
      some (u.storeAddress fresh data kind).address := by
  obtain ⟨book, address⟩ := u.book_storeAddress fresh data kind
  rw [book, address, AddressBook.find?_getOrInsert_self]

/-- What has been stored is in the book. -/
theorem contains_storeAddress (indexed : u.book.Indexed) (fresh : AddressId) (data : AddressData)
    (kind : AddressKind) :
    (u.storeAddress fresh data kind).user.book.contains
      (u.storeAddress fresh data kind).address = true := by
  obtain ⟨book, address⟩ := u.book_storeAddress fresh data kind
  rw [AddressBook.contains, book, address, indexed.get?_getOrInsert_self, Option.isSome_some]

end Store

section Change

theorem pointAt_of_names (names : u.default? kind = some id) : u.pointAt kind id = (u, []) :=
  if_pos names

/-- **To change a default is to store an address and make it the default.** In every account with an
indexed book, after the address has been stored it can be made the default; this leads to the same
account as changing the default at once, with the same answer, and to the same changes in the same
order. -/
theorem change_eq_store_then_set (indexed : u.book.Indexed) (fresh : AddressId)
    (data : AddressData) (kind : AddressKind) :
    let stored := u.storeAddress fresh data kind
    ∃ v changes, stored.user.setDefault stored.address kind = .ok (v, changes) ∧
      u.changeDefault fresh data kind =
        { user := v, address := stored.address, created := stored.created,
          changes := stored.changes ++ changes } := by
  intro stored
  have set : stored.user.setDefault stored.address kind =
      .ok (stored.user.pointAt kind stored.address) := by
    rw [setDefault_eq, if_pos (contains_storeAddress indexed fresh data kind)]
  refine ⟨(stored.user.pointAt kind stored.address).1,
    (stored.user.pointAt kind stored.address).2, set, ?_⟩
  by_cases unset : u.default? kind = none
  · have same : stored = u.changeDefault fresh data kind := storeAddress_of_unset unset fresh data
    have names : stored.user.default? kind = some stored.address := by
      rw [same, default?_changeDefault, if_pos rfl]
    rw [pointAt_of_names names, List.append_nil, same]
  · have inserted := storeAddress_of_set unset fresh data
    simp only [stored, inserted]
    rfl

/-- A new address takes the place of the default for billing, which stays in the book. -/
theorem change_eq_store_then_set_of_other :
    let first : AddressId := ⟨1, by decide⟩
    let second : AddressId := ⟨2, by decide⟩
    let book := AddressBook.ofAddresses [⟨first, { city := "Oslo" }⟩]
    let u : User := { id := ⟨1⟩, book, billing := some first }
    let data : AddressData := { city := " Bergen" }
    let stored := u.storeAddress second data .billing
    u.book.Indexed ∧ stored.changes = [.addressCreated ⟨second, { city := "Bergen" }⟩] ∧
      ∃ v, stored.user.setDefault second .billing = .ok (v, [.defaultSet .billing (some second)]) ∧
        u.changeDefault second data .billing =
          { user := v, address := second, created := true,
            changes := stored.changes ++ [.defaultSet .billing (some second)] } := by
  intro first second book u data stored
  have indexed : u.book.Indexed := AddressBook.indexed_ofAddresses (by decide)
  have reported : stored.changes = [.addressCreated ⟨second, { city := "Bergen" }⟩] := by
    decide +kernel
  have address : stored.address = second := by decide +kernel
  have created : stored.created = true := by decide +kernel
  obtain ⟨v, changes, set, same⟩ := change_eq_store_then_set indexed second data .billing
  have moved : (stored.user.setDefault stored.address .billing).map Prod.snd =
      .ok [.defaultSet .billing (some second)] := by decide +kernel
  rw [set] at moved
  cases Except.ok.inj moved
  refine ⟨indexed, reported, v, ?_, ?_⟩
  · rw [← set, address]
  · rw [same, address, created]

end Change

section Again

/-- A value that is in the book already is not added. -/
theorem storeAddress_of_find? (found : u.book.find? data.normalized = some id)
    (fresh : AddressId) (kind : AddressKind) :
    u.storeAddress fresh data kind =
      if u.default? kind = none then
        { user := u.withDefault kind (some id), address := id, created := false,
          changes := [.defaultSet kind (some id)] }
      else { user := u, address := id, created := false, changes := [] } := by
  simp only [storeAddress, insert_of_find? found, Option.isNone_iff_eq_none, List.nil_append]

theorem storeAddress_of_missing (missing : u.book.find? data.normalized = none)
    (fresh : AddressId) (kind : AddressKind) :
    let new : AccountChange := .addressCreated ⟨fresh, data.normalized⟩
    u.storeAddress fresh data kind =
      if u.default? kind = none then
        { user := (u.after new).withDefault kind (some fresh), address := fresh, created := true,
          changes := [new, .defaultSet kind (some fresh)] }
      else { user := u.after new, address := fresh, created := true, changes := [new] } := by
  have still : (u.after (.addressCreated ⟨fresh, data.normalized⟩)).default? kind =
      u.default? kind := by cases kind <;> rfl
  simp only [storeAddress, insert_of_missing missing, Option.isNone_iff_eq_none, still,
    List.singleton_append]

end Again

section Delete

variable {a : AddressId}

theorem withDefault_default? (u : User) (kind : AddressKind) :
    u.withDefault kind (u.default? kind) = u := by
  cases kind <;> rfl

/-- No default is cleared if none names the address that goes. -/
theorem deleteAddress_of_unnamed (there : u.book.contains a = true)
    (unnamed : ∀ kind, u.default? kind ≠ some a) :
    u.deleteAddress a =
      .ok ({ u with book := (u.book.remove a).1 }, [.addressDeleted a]) := by
  have kept (kind : AddressKind) : unpoint a (u, []) kind = (u, []) := if_neg (unnamed kind)
  simp only [deleteAddress_eq, there, AddressKind.all, List.foldl_cons, List.foldl_nil, kept,
    List.nil_append, ↓reduceIte]

/-- One default is cleared if it alone names the address that goes. -/
theorem deleteAddress_withDefault (there : u.book.contains a = true)
    (unnamed : ∀ kind, u.default? kind ≠ some a) (kind : AddressKind) :
    (u.withDefault kind (some a)).deleteAddress a =
      .ok ({ u.withDefault kind none with book := (u.book.remove a).1 },
        [.defaultSet kind none, .addressDeleted a]) := by
  have billing : u.billing ≠ some a := unnamed .billing
  have shipping : u.shipping ≠ some a := unnamed .shipping
  cases kind <;>
    simp [deleteAddress_eq, AddressKind.all, unpoint, default?, withDefault, there, billing,
      shipping]

/-- No default names an address that is new. -/
theorem Valid.unnamed_of_new (valid : u.Valid) (new : u.book.get? a = none) (kind : AddressKind) :
    u.default? kind ≠ some a := by
  intro names
  have there := valid.default_mem names
  rw [AddressBook.contains, new] at there
  cases there

/-- The deletion of an address that has just been added restores the account, with its defaults and
the index of its book. -/
theorem Valid.delete_stored (valid : u.Valid)
    (new : u.book.MintsNew (.getOrInsert fresh data.normalized)) {stored : Stored}
    (done : u.storeAddress fresh data kind = stored) (created : stored.created = true) :
    stored.user.deleteAddress stored.address =
      .ok (u, (if u.default? kind = none then [.defaultSet kind none] else []) ++
        [.addressDeleted stored.address]) := by
  subst done
  have missing : u.book.find? data.normalized = none := by
    rwa [created_storeAddress, AddressBook.getOrInsert_created] at created
  let v := u.after (.addressCreated ⟨fresh, data.normalized⟩)
  have there : v.book.contains fresh = true := by
    simp [v, User.after, AddressBook.contains, AddressBook.get?_record]
  have unnamed : ∀ kind, v.default? kind ≠ some fresh := valid.unnamed_of_new (new missing)
  have restored : { v with book := (v.book.remove fresh).1 } = u := by
    have book : (v.book.remove fresh).1 = u.book :=
      valid.indexed.remove_recorded missing (new missing)
    rw [book]
    rfl
  rw [storeAddress_of_missing missing]
  by_cases unset : u.default? kind = none
  · have cleared : v.withDefault kind none = v := by
      rw [← show v.default? kind = none from unset, withDefault_default?]
    rw [if_pos unset, if_pos unset, deleteAddress_withDefault there unnamed, cleared, restored]
    rfl
  · rw [if_neg unset, if_neg unset, deleteAddress_of_unnamed there unnamed, restored]
    rfl

end Delete

/-- **To store an address again adds nothing, and to delete it undoes the storing.** After an
address has been stored in a valid account, storing it once more, in any spelling that normalization
makes the same and as an address of either kind, returns the same address and leaves the book as it
is; the only change is the default of that kind, if there was none yet. And if the address was new,
its deletion leads back to the account as it was before, with both defaults and the index of the
book. -/
theorem store_again_or_undo (valid : u.Valid)
    (new : u.book.MintsNew (.getOrInsert fresh data.normalized)) (kind : AddressKind) :
    let stored := u.storeAddress fresh data kind
    (∀ fresh' data' kind', data'.normalized = data.normalized →
      let again := stored.user.storeAddress fresh' data' kind'
      again.address = stored.address ∧ again.created = false ∧
      again.user.book = stored.user.book ∧
      (stored.user.default? kind' ≠ none → again.changes = [] ∧ again.user = stored.user) ∧
      (stored.user.default? kind' = none →
        again.changes = [.defaultSet kind' (some stored.address)] ∧
        again.user = stored.user.withDefault kind' (some stored.address))) ∧
    (stored.created = true → ∃ changes,
      stored.user.deleteAddress stored.address = .ok (u, changes)) := by
  intro stored
  constructor
  · intro fresh' data' kind' same again
    have found : stored.user.book.find? data'.normalized = some stored.address := by
      rw [same]
      exact u.find?_storeAddress fresh data kind
    have repeated := storeAddress_of_find? found fresh' kind'
    by_cases unset : stored.user.default? kind' = none
    · rw [if_pos unset] at repeated
      simp [again, repeated, unset]
    · rw [if_neg unset] at repeated
      simp [again, repeated, unset]
  · intro created
    exact ⟨_, valid.delete_stored new rfl created⟩

/-- Beside a default for shipping that has a twin, an address is stored for billing, and then either
stored again in another spelling or deleted. -/
theorem store_again_or_undo_beside_twins :
    let home : AddressData := { city := "Oslo", country := "NO" }
    let first : AddressId := ⟨1, by decide⟩
    let fresh : AddressId := ⟨3, by decide⟩
    let book := AddressBook.ofAddresses [⟨first, home⟩, ⟨⟨2, by decide⟩, home⟩]
    let u : User := { id := ⟨1⟩, book, shipping := some first }
    let data : AddressData := { city := "Bergen ", country := "no" }
    let data' : AddressData := { city := "\u2003Bergen", country := "No" }
    let stored := u.storeAddress fresh data .billing
    let again := stored.user.storeAddress ⟨4, by decide⟩ data' .shipping
    u.Valid ∧ u.book.MintsNew (.getOrInsert fresh data.normalized) ∧
      data'.normalized = data.normalized ∧ again.address = fresh ∧ again.created = false ∧
      again.changes = [] ∧ again.user = stored.user ∧
      ∃ changes, stored.user.deleteAddress fresh = .ok (u, changes) := by
  intro home first fresh book u data data' stored again
  have valid : u.Valid := {
    indexed := AddressBook.indexed_ofAddresses (by decide)
    default_mem := by
      intro kind id points
      cases kind <;> cases points
      decide }
  have new : u.book.MintsNew (.getOrInsert fresh data.normalized) := by decide +kernel
  have same : data'.normalized = data.normalized := by decide +kernel
  have address : stored.address = fresh := by decide +kernel
  obtain ⟨repeats, undone⟩ := store_again_or_undo valid new .billing
  obtain ⟨found, kept, -, quiet, -⟩ := repeats ⟨4, by decide⟩ data' .shipping same
  obtain ⟨nothing, still⟩ := quiet (by decide +kernel)
  obtain ⟨changes, gone⟩ := undone (by decide +kernel)
  exact ⟨valid, new, same, found.trans address, kept, nothing, still, changes,
    address ▸ gone⟩

end User

end BackOffice
