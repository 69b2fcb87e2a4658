import BackOffice.Desk.Accounts
import BackOffice.Proofs.AccountWrites

/-!
# What the account desk does

For each request at the account desk there is a rule that says how it ends and which account it
leaves in the tables. All go through `withUser`: the account is loaded, one of its operations is
carried out on it, and the changes that this names are written. A request that is refused leaves
the rows as they were.
-/

namespace BackOffice

section Minted

/-- Clearing defaults creates no address. -/
theorem User.created_foldl_unpoint (id : AddressId) (kinds : List AddressKind)
    (s : User × List AccountChange) :
    (kinds.foldl (User.unpoint id) s).2.filterMap AccountChange.created? =
      s.2.filterMap AccountChange.created? := by
  induction kinds generalizing s with
  | nil => rfl
  | cons kind kinds ih =>
    rw [List.foldl_cons, ih, User.unpoint]
    split <;> simp [AccountChange.created?]

theorem User.created_pointAt (u : User) (kind : AddressKind) (id : AddressId) :
    (u.pointAt kind id).2.filterMap AccountChange.created? = [] := by
  unfold User.pointAt
  split <;> simp [AccountChange.created?]

theorem User.created_insert_sublist (u : User) (fresh : AddressId) (data : AddressData) :
    ((u.insert fresh data).2.2.2.filterMap AccountChange.created?).Sublist [fresh] := by
  cases found : u.book.find? data.normalized with
  | some id => simp [User.insert_of_find? found]
  | none => simp [User.insert_of_missing found, AccountChange.created?]

theorem User.created_storeAddress_sublist (u : User) (fresh : AddressId) (data : AddressData)
    (kind : AddressKind) :
    ((u.storeAddress fresh data kind).changes.filterMap AccountChange.created?).Sublist
      [fresh] := by
  have inserted := u.created_insert_sublist fresh data
  rw [(User.storeAddress_eq_pointAt u fresh data kind).2, List.filterMap_append]
  split
  next => rwa [User.created_pointAt, List.append_nil]
  next => rwa [List.filterMap_nil, List.append_nil]

theorem User.created_changeDefault_sublist (u : User) (fresh : AddressId) (data : AddressData)
    (kind : AddressKind) :
    ((u.changeDefault fresh data kind).changes.filterMap AccountChange.created?).Sublist
      [fresh] := by
  rw [User.changes_changeDefault, List.filterMap_append, User.created_pointAt, List.append_nil]
  exact u.created_insert_sublist fresh data

theorem User.created_setDefault {u v : User} {id : AddressId} {kind : AddressKind}
    {changes : List AccountChange} (done : u.setDefault id kind = .ok (v, changes)) :
    changes.filterMap AccountChange.created? = [] := by
  rw [User.setDefault_eq] at done
  split at done
  next =>
    have created := u.created_pointAt kind id
    rwa [Except.ok.inj done] at created
  next => cases done

theorem User.created_deleteAddress {u v : User} {id : AddressId} {changes : List AccountChange}
    (done : u.deleteAddress id = .ok (v, changes)) :
    changes.filterMap AccountChange.created? = [] := by
  rw [User.deleteAddress_eq] at done
  split at done
  next =>
    have cleared := User.created_foldl_unpoint id AddressKind.all (u, [])
    generalize AddressKind.all.foldl (User.unpoint id) (u, []) = result at done cleared
    cases done
    rw [List.filterMap_append, cleared]
    rfl
  next => cases done

end Minted

/-- Identifiers that are new to the table of addresses are new to every book. -/
theorem AccountRows.mintsNew {rows : AccountRows} {id : UserId} {u : User} {fresh : AddressId}
    (found : rows.account? id = some u) (new : (rows.addressIds ++ [fresh]).Nodup)
    (data : AddressData) : u.book.MintsNew (.getOrInsert fresh data) := by
  intro _
  obtain ⟨r, row, rfl⟩ := Option.map_eq_some_iff.1 found
  have absent : (rows.book id).contains fresh = false := by
    rw [AccountRows.book, AddressBook.contains_ofAddresses, List.any_eq_false]
    intro a member same
    have there := (rows.addressesOf_ids_sublist id).mem (List.mem_map.2 ⟨a, member, rfl⟩)
    rw [of_decide_eq_true same] at there
    exact (List.nodup_append.1 new).2.2 _ there _ (List.mem_singleton_self _) rfl
  simpa [AddressBook.contains, UserRow.account] using absent

namespace AccountDesk

open Work

variable {s : AccountStore} {rows : AccountRows} {id : UserId} {u v : User}

theorem ends_user (there : s.rows = some rows) (kept : rows.Kept)
    (found : rows.account? id = some u) : (user id).Ends s (.ok u) s := by
  refine ((AccountStore.ends_load there kept id).mapError _).bind ?_
  rw [found]
  exact ends_pure u s

theorem ends_user_of_absent (there : s.rows = some rows) (kept : rows.Kept)
    (absent : rows.account? id = none) : (user id).Ends s (.error (.userNotFound id)) s := by
  refine ((AccountStore.ends_load there kept id).mapError _).bind ?_
  rw [absent]
  exact ends_throw _ s

section WithUser

variable {α : Type} {operation : InPlace User AccountError (α × List AccountChange)}

theorem ends_withUser_of_absent (there : s.rows = some rows) (kept : rows.Kept)
    (absent : rows.account? id = none) :
    (withUser id operation).Ends s (.error (.userNotFound id)) s :=
  (ends_user_of_absent there kept absent).bind_error.transaction_error

theorem ends_withUser_of_refused (there : s.rows = some rows) (kept : rows.Kept)
    (found : rows.account? id = some u) {e : AccountError}
    (refused : (operation u).1 = .error e) :
    (withUser id operation).Ends s (.error (.account e)) s := by
  refine ((ends_user there kept found).bind ?_).transaction_error
  rw [refused]
  exact ends_throw _ s

/-- An operation whose changes lead to another account leaves the tables with that account. -/
theorem ends_withUser (there : s.rows = some rows) (kept : rows.Kept)
    (found : rows.account? id = some u)
    (operation : InPlace User AccountError (α × List AccountChange)) {a : α}
    {changes : List AccountChange} (done : (operation u).1 = .ok (a, changes))
    (becomes : u.Becomes changes v) (minted : List AddressId)
    (new : (rows.addressIds ++ minted).Nodup)
    (created : (changes.filterMap AccountChange.created?).Sublist minted) :
    ∃ rows', (withUser id operation).Ends s (.ok a) { s with rows := some rows' } ∧
      rows.Rewritten id v minted rows' := by
  obtain ⟨rows', written, rewritten⟩ := AccountStore.ends_applyChanges there kept found becomes
    (new.sublist (created.append_left _))
  refine ⟨rows', ((ends_user there kept found).bind ?_).transaction, rewritten.mono created⟩
  rw [done]
  exact (written.mapError _).bind (ends_pure a _)

end WithUser

section Requests

variable {operation : InPlace User AccountError (List AccountChange)}

theorem fst_silently (operation : InPlace User AccountError (List AccountChange)) (u : User) :
    (silently operation u).1 = (operation u).1.map fun changes => ((), changes) := by
  rw [silently, InPlace.bind_apply]
  rcases operation u with ⟨_ | _, _⟩ <;> rfl

theorem silently_of_done {changes : List AccountChange}
    (done : operation.outcome u = .ok (v, changes)) :
    (silently operation u).1 = .ok ((), changes) := by
  rw [fst_silently, InPlace.outcome_eq_ok_iff.1 done]
  rfl

theorem silently_of_refused {e : AccountError} (refused : operation.outcome u = .error e) :
    (silently operation u).1 = .error e := by
  rw [fst_silently, InPlace.outcome_eq_error_iff.1 refused]
  rfl

/-- What is reported silently is what the operation comes to. -/
theorem exists_of_silently {b : Unit} {changes : List AccountChange}
    (done : (silently operation u).1 = .ok (b, changes)) :
    ∃ v, operation.outcome u = .ok (v, changes) := by
  rw [fst_silently] at done
  rcases result : operation u with ⟨e | c, v⟩
  · rw [result] at done
    cases done
  · rw [result] at done
    cases done
    exact ⟨v, InPlace.outcome_eq_ok_iff.2 result⟩

theorem ends_storeAddress (there : s.rows = some rows) (kept : rows.Kept)
    (found : rows.account? id = some u) (desk : AccountDesk) {fresh : AddressId}
    (new : (rows.addressIds ++ [fresh]).Nodup) (data : AddressData) (kind : AddressKind) :
    let stored := u.storeAddress fresh (data.prepared desk.mask) kind
    ∃ rows', (desk.storeAddress id fresh data kind).Ends s (.ok stored.address)
        { s with rows := some rows' } ∧ rows.Rewritten id stored.user [fresh] rows' := by
  intro stored
  have becomes := (kept.valid found).storeAddress_becomes
    (AccountRows.mintsNew found new (data.prepared desk.mask).normalized) kind
  obtain ⟨rows', ends, rewritten⟩ := ends_withUser there kept found
    (do let stored ← User.storeInPlace fresh (data.prepared desk.mask) kind
        return ((stored.address, stored.created), stored.changes))
    rfl becomes [fresh] new (u.created_storeAddress_sublist ..)
  exact ⟨rows', ends.bind ((ends_report _ _).bind (ends_pure _ _)), rewritten⟩

theorem ends_changeDefault (there : s.rows = some rows) (kept : rows.Kept)
    (found : rows.account? id = some u) (desk : AccountDesk) {fresh : AddressId}
    (new : (rows.addressIds ++ [fresh]).Nodup) (data : AddressData) (kind : AddressKind) :
    let stored := u.changeDefault fresh (data.prepared desk.mask) kind
    ∃ rows', (desk.changeDefault id fresh data kind).Ends s (.ok stored.address)
        { s with rows := some rows' } ∧ rows.Rewritten id stored.user [fresh] rows' := by
  intro stored
  have becomes := (kept.valid found).changeDefault_becomes
    (AccountRows.mintsNew found new (data.prepared desk.mask).normalized) kind
  obtain ⟨rows', ends, rewritten⟩ := ends_withUser there kept found
    (do let stored ← User.changeInPlace fresh (data.prepared desk.mask) kind
        return (stored.address, stored.changes))
    rfl becomes [fresh] new (u.created_changeDefault_sublist ..)
  exact ⟨rows', ends.bind ((ends_report _ _).bind (ends_pure _ _)), rewritten⟩

theorem ends_setDefault (there : s.rows = some rows) (kept : rows.Kept)
    (found : rows.account? id = some u) {address : AddressId} {kind : AddressKind}
    {changes : List AccountChange} (done : u.setDefault address kind = .ok (v, changes)) :
    ∃ rows', (setDefault id address kind).Ends s (.ok ()) { s with rows := some rows' } ∧
      rows.Rewritten id v [] rows' := by
  obtain ⟨rows', ends, rewritten⟩ := ends_withUser there kept found
    (silently (User.setDefaultInPlace address kind)) (silently_of_done done)
    (User.setDefault_becomes done) []
    (by rw [List.append_nil]; exact kept.addresses_distinct)
    (by rw [User.created_setDefault done])
  exact ⟨rows', ends.bind (ends_report _ _), rewritten⟩

theorem ends_deleteAddress (there : s.rows = some rows) (kept : rows.Kept)
    (found : rows.account? id = some u) {address : AddressId}
    {changes : List AccountChange} (done : u.deleteAddress address = .ok (v, changes)) :
    ∃ rows', (deleteAddress id address).Ends s (.ok ()) { s with rows := some rows' } ∧
      rows.Rewritten id v [] rows' := by
  obtain ⟨rows', ends, rewritten⟩ := ends_withUser there kept found
    (silently (User.deleteInPlace address)) (silently_of_done done)
    (User.deleteAddress_becomes done) []
    (by rw [List.append_nil]; exact kept.addresses_distinct)
    (by rw [User.created_deleteAddress done])
  exact ⟨rows', ends.bind (ends_report _ _), rewritten⟩

end Requests

end AccountDesk

end BackOffice
