import BackOffice.Proofs.AccountChanges
import BackOffice.Proofs.KeyedRows
import BackOffice.Proofs.Outcome
import BackOffice.Store.Accounts

/-!
# What the tables of accounts hold

The rows that keep the database's rules (`AccountRows.Kept`) hold an account for each user, put
together by `AccountRows.account?`. Every change that an account permits passes the rules when it
is written, and leaves rows that hold the changed account and, for every other user, the account
from before (`AccountStore.ends_applyChanges`).
-/

namespace BackOffice

/-- The identifier of an address that a change adds. -/
def AccountChange.created? : AccountChange → Option AddressId
  | .addressCreated address => some address.id
  | .addressDeleted _ | .defaultSet _ _ => none

/-- The account that a user's row and a book make up. -/
def UserRow.account (r : UserRow) (book : AddressBook) : User where
  id := r.id
  firstName := r.firstName
  lastName := r.lastName
  book := book
  billing := r.billing
  shipping := r.shipping

theorem UserRow.default?_account (r : UserRow) (book : AddressBook) (kind : AddressKind) :
    (r.account book).default? kind = r.pointer kind := by
  cases kind <;> rfl

theorem UserRow.account_withPointer (r : UserRow) (book : AddressBook) (kind : AddressKind)
    (target : Option AddressId) :
    (r.withPointer kind target).account book = (r.account book).withDefault kind target := by
  cases kind <;> rfl

@[simp] theorem UserRow.id_withPointer (r : UserRow) (kind : AddressKind)
    (target : Option AddressId) : (r.withPointer kind target).id = r.id := by
  cases kind <;> rfl

/-- Clearing pointers to an address that none of them names changes nothing. -/
theorem UserRow.unpointed_of_ne {r : UserRow} {id : AddressId}
    (other : ∀ kind, r.pointer kind ≠ some id) : r.unpointed id = r := by
  simp [UserRow.unpointed, AddressKind.all, other]

namespace AccountRows

variable {rows : AccountRows}

/-- The book of a user's addresses. -/
def book (rows : AccountRows) (owner : UserId) : AddressBook :=
  .ofAddresses (rows.addressesOf owner)

/-- The identifiers of all addresses. -/
def addressIds (rows : AccountRows) : List AddressId := rows.addresses.map (·.address.id)

/-- The account that the rows hold for a user. -/
def account? (rows : AccountRows) (id : UserId) : Option User :=
  (rows.user? id).map fun r => r.account (rows.book id)

/-- What keys, unique indexes and foreign keys keep true of the rows. -/
structure Kept (rows : AccountRows) : Prop where
  users_distinct : (rows.users.map (·.id)).Nodup
  addresses_distinct : rows.addressIds.Nodup
  values_distinct : ∀ owner, ((rows.addressesOf owner).map (·.data)).Nodup
  owner_exists : ∀ r ∈ rows.addresses, (rows.user? r.owner).isSome
  target_exists : ∀ r ∈ rows.users, ∀ kind, rows.hasTarget r.id (r.pointer kind) = true

theorem kept_empty : ({} : AccountRows).Kept where
  users_distinct := List.nodup_nil
  addresses_distinct := List.nodup_nil
  values_distinct _ := List.nodup_nil
  owner_exists := nofun
  target_exists := nofun

section Users

theorem id_of_user? {id : UserId} {r : UserRow} (found : rows.user? id = some r) : r.id = id :=
  Keyed.key_of_find? UserRow.id found

theorem mem_of_user? {id : UserId} {r : UserRow} (found : rows.user? id = some r) :
    r ∈ rows.users :=
  List.mem_of_find?_eq_some found

theorem user?_of_mem (distinct : (rows.users.map (·.id)).Nodup) {r : UserRow}
    (member : r ∈ rows.users) : rows.user? r.id = some r :=
  Keyed.find?_of_mem UserRow.id distinct member

theorem user?_eq_none_iff {id : UserId} : rows.user? id = none ↔ id ∉ rows.users.map (·.id) :=
  Keyed.find?_eq_none_iff UserRow.id

theorem user?_modifyUser (rows : AccountRows) (id : UserId) {f : UserRow → UserRow}
    (same : ∀ r, (f r).id = r.id) (id' : UserId) :
    (rows.modifyUser id f).user? id' =
      if id' = id then (rows.user? id).map f else rows.user? id' :=
  Keyed.find?_modify UserRow.id rows.users id (fun r here => (same r).trans here) id'

theorem users_modifyUser_ids (rows : AccountRows) (id : UserId) {f : UserRow → UserRow}
    (same : ∀ r, (f r).id = r.id) :
    (rows.modifyUser id f).users.map (·.id) = rows.users.map (·.id) :=
  Keyed.map_modify UserRow.id rows.users fun r here => (same r).trans here

theorem modifyUser_of_absent {id : UserId} (absent : rows.user? id = none)
    (f : UserRow → UserRow) : rows.modifyUser id f = rows := by
  rw [modifyUser, Keyed.modify_of_absent UserRow.id (user?_eq_none_iff.1 absent)]

@[simp] theorem addressesOf_modifyUser (rows : AccountRows) (id : UserId)
    (f : UserRow → UserRow) (owner : UserId) :
    (rows.modifyUser id f).addressesOf owner = rows.addressesOf owner := rfl

end Users

/-- A pointer has a target exactly if it names nothing or an address of the user's book. -/
theorem hasTarget_iff {owner : UserId} {target : Option AddressId} :
    rows.hasTarget owner target = true ↔
      ∀ a, target = some a → (rows.book owner).contains a = true := by
  cases target with
  | none => simp [hasTarget]
  | some a => simp [hasTarget, book, AddressBook.contains_ofAddresses]

theorem addressesOf_ids_sublist (rows : AccountRows) (owner : UserId) :
    ((rows.addressesOf owner).map (·.id)).Sublist rows.addressIds := by
  rw [addressesOf, List.map_map]
  exact List.filter_sublist.map _

theorem Kept.ids_distinct (kept : rows.Kept) (owner : UserId) :
    ((rows.addressesOf owner).map (·.id)).Nodup :=
  kept.addresses_distinct.sublist (rows.addressesOf_ids_sublist owner)

/-- The rows hold valid accounts only. -/
theorem Kept.valid (kept : rows.Kept) {id : UserId} {u : User} (found : rows.account? id = some u) :
    u.Valid := by
  obtain ⟨r, row, rfl⟩ := Option.map_eq_some_iff.1 found
  refine ⟨AddressBook.indexed_ofAddresses (kept.ids_distinct id), ?_⟩
  intro kind a points
  rw [UserRow.default?_account] at points
  have target := kept.target_exists r (mem_of_user? row) kind
  rw [id_of_user? row] at target
  exact hasTarget_iff.1 target a points

theorem id_of_account? {id : UserId} {u : User} (found : rows.account? id = some u) :
    u.id = id := by
  obtain ⟨r, row, rfl⟩ := Option.map_eq_some_iff.1 found
  exact id_of_user? row

/-- The rows after one change of a user's account has been written. -/
def written (rows : AccountRows) (owner : UserId) : AccountChange → AccountRows
  | .addressCreated address => { rows with addresses := rows.addresses ++ [{ address, owner }] }
  | .addressDeleted id => rows.deleteAddress owner id
  | .defaultSet kind target => rows.modifyUser owner (·.withPointer kind target)

section Written

variable {owner : UserId} {u : User} {c : AccountChange}

/-- Once no default names an address of the user, deleting it deletes its row and nothing else. -/
theorem Kept.deleteAddress_of_permits (kept : rows.Kept) (found : rows.account? owner = some u)
    {id : AddressId} (permits : u.Permits (.addressDeleted id)) :
    rows.deleteAddress owner id =
      { rows with
        addresses := rows.addresses.filter fun r =>
          !decide (r.address.id = id ∧ r.owner = owner) } := by
  obtain ⟨r, row, rfl⟩ := Option.map_eq_some_iff.1 found
  have there : rows.addresses.any fun r => decide (r.address.id = id ∧ r.owner = owner) := by
    have contains : (rows.book owner).contains id = true := permits.1
    rw [book, AddressBook.contains_ofAddresses, addressesOf, List.any_map, List.any_filter]
      at contains
    simpa [and_comm] using contains
  have unchanged : (rows.users.map fun r => if r.id = owner then r.unpointed id else r) =
      rows.users := by
    conv_rhs => rw [← List.map_id rows.users]
    apply List.map_congr_left
    intro r' member
    by_cases same : r'.id = owner
    · have found' := user?_of_mem kept.users_distinct member
      rw [same, row] at found'
      cases found'
      have other : ∀ kind, r.pointer kind ≠ some id := by
        intro kind
        rw [← r.default?_account (rows.book owner)]
        exact permits.2 kind
      simp [same, UserRow.unpointed_of_ne other]
    · simp [same]
  rw [deleteAddress, if_pos there, modifyUser, unchanged]

theorem user?_written (kept : rows.Kept) (found : rows.account? owner = some u)
    (permits : u.Permits c) (id : UserId) :
    (rows.written owner c).user? id =
      match c with
      | .defaultSet kind target =>
        if id = owner then (rows.user? owner).map (·.withPointer kind target) else rows.user? id
      | .addressCreated _ | .addressDeleted _ => rows.user? id := by
  cases c with
  | addressCreated address => rfl
  | addressDeleted gone => rw [written, kept.deleteAddress_of_permits found permits]; rfl
  | defaultSet kind target =>
    exact rows.user?_modifyUser owner (fun r => r.id_withPointer kind target) id

theorem addressesOf_written (kept : rows.Kept) (found : rows.account? owner = some u)
    (permits : u.Permits c) (id : UserId) :
    (rows.written owner c).addressesOf id =
      if id = owner then
        match c with
        | .addressCreated address => rows.addressesOf owner ++ [address]
        | .addressDeleted gone => (rows.addressesOf owner).filter fun a => a.id ≠ gone
        | .defaultSet _ _ => rows.addressesOf owner
      else rows.addressesOf id := by
  cases c with
  | addressCreated address =>
    by_cases same : id = owner
    · simp [written, addressesOf, same]
    · simp [written, addressesOf, same, Ne.symm same]
  | addressDeleted gone =>
    rw [written, kept.deleteAddress_of_permits found permits]
    by_cases same : id = owner
    · simp only [addressesOf, same, ↓reduceIte, List.filter_map, List.filter_filter]
      congr 1
      apply List.filter_congr
      intro r _
      by_cases mine : r.owner = owner <;> simp [mine]
    · simp only [addressesOf, same, ↓reduceIte, List.filter_filter]
      congr 1
      apply List.filter_congr
      intro r _
      by_cases mine : r.owner = id
      · simp [mine, same]
      · simp [mine]
  | defaultSet kind target =>
    by_cases same : id = owner <;> simp [written, same]

/-- Writing a permitted change changes the user's book as the change does, and no other book. -/
theorem book_written (kept : rows.Kept) (found : rows.account? owner = some u)
    (permits : u.Permits c) (id : UserId) :
    (rows.written owner c).book id = if id = owner then (u.after c).book else rows.book id := by
  obtain ⟨r, row, rfl⟩ := Option.map_eq_some_iff.1 found
  rw [book, addressesOf_written kept found permits]
  by_cases same : id = owner
  · simp only [same, ↓reduceIte]
    cases c with
    | addressCreated address =>
      exact List.foldl_append
    | addressDeleted gone =>
      exact (AddressBook.remove_ofAddresses (kept.ids_distinct owner) (kept.values_distinct owner)
        gone).symm
    | defaultSet kind target => simp [User.after, UserRow.account, book]
  · rw [if_neg same, if_neg same, book]

/-- Writing a permitted change turns the user's account into the changed one, and keeps all
others. -/
theorem account?_written (kept : rows.Kept) (found : rows.account? owner = some u)
    (permits : u.Permits c) (id : UserId) :
    (rows.written owner c).account? id =
      if id = owner then some (u.after c) else rows.account? id := by
  rw [account?, user?_written kept found permits, book_written kept found permits]
  obtain ⟨r, row, rfl⟩ := Option.map_eq_some_iff.1 found
  by_cases same : id = owner
  · simp only [same, ↓reduceIte, row, Option.map_some]
    cases c with
    | addressCreated address => rfl
    | addressDeleted gone => rfl
    | defaultSet kind target =>
      simp only [Option.map_some, UserRow.account_withPointer, User.after, User.book_withDefault]
      rfl
  · simp only [same, ↓reduceIte]
    cases c <;> rfl

/-- The only identifier that writing a change adds is that of an address that the change adds. -/
theorem addressIds_written_sublist (kept : rows.Kept) (found : rows.account? owner = some u)
    (permits : u.Permits c) :
    (rows.written owner c).addressIds.Sublist (rows.addressIds ++ c.created?.toList) := by
  cases c with
  | addressCreated address => simp [written, addressIds, AccountChange.created?]
  | addressDeleted gone =>
    rw [written, kept.deleteAddress_of_permits found permits]
    exact (List.filter_sublist.map _).trans (List.sublist_append_left _ _)
  | defaultSet kind target =>
    exact List.sublist_append_left _ _

theorem users_written_ids (kept : rows.Kept) (found : rows.account? owner = some u)
    (permits : u.Permits c) :
    (rows.written owner c).users.map (·.id) = rows.users.map (·.id) := by
  cases c with
  | addressCreated address => rfl
  | addressDeleted gone => rw [written, kept.deleteAddress_of_permits found permits]
  | defaultSet kind target =>
    exact rows.users_modifyUser_ids owner fun r => r.id_withPointer kind target

theorem user?_written_isSome (kept : rows.Kept) (found : rows.account? owner = some u)
    (permits : u.Permits c) (id : UserId) :
    ((rows.written owner c).user? id).isSome = (rows.user? id).isSome := by
  rw [user?_written kept found permits]
  cases c with
  | addressCreated address => rfl
  | addressDeleted gone => rfl
  | defaultSet kind target =>
    by_cases same : id = owner <;> simp [same]

/-- A permitted address has a value that no address of the user has. -/
theorem values_written (kept : rows.Kept) (found : rows.account? owner = some u)
    (permits : u.Permits c) (id : UserId) :
    (((rows.written owner c).addressesOf id).map (·.data)).Nodup := by
  rw [addressesOf_written kept found permits]
  split
  next same =>
    cases c with
    | addressCreated address =>
      obtain ⟨r, row, rfl⟩ := Option.map_eq_some_iff.1 found
      have missing : (rows.book owner).find? address.data = none := permits.1
      rw [book, AddressBook.find?_ofAddresses, Option.map_eq_none_iff] at missing
      rw [List.map_append, List.map_singleton]
      refine (kept.values_distinct owner).append (List.nodup_singleton _) ?_
      rw [List.disjoint_singleton]
      intro repeated
      obtain ⟨a, there, same⟩ := List.mem_map.1 repeated
      simpa [same] using List.find?_eq_none.1 missing a there
    | addressDeleted gone =>
      exact (kept.values_distinct owner).sublist (List.filter_sublist.map _)
    | defaultSet kind target => exact kept.values_distinct owner
  next => exact kept.values_distinct id

theorem owners_written (kept : rows.Kept) (found : rows.account? owner = some u)
    (permits : u.Permits c) :
    ∀ r ∈ (rows.written owner c).addresses, ((rows.written owner c).user? r.owner).isSome := by
  intro r member
  rw [user?_written_isSome kept found permits]
  cases c with
  | addressCreated address =>
    rcases List.mem_append.1 member with before | here
    · exact kept.owner_exists r before
    · rw [List.mem_singleton.1 here]
      obtain ⟨row, found, _⟩ := Option.map_eq_some_iff.1 found
      rw [found, Option.isSome_some]
  | addressDeleted gone =>
    rw [written, kept.deleteAddress_of_permits found permits] at member
    exact kept.owner_exists r (List.mem_filter.1 member).1
  | defaultSet kind target => exact kept.owner_exists r member

/-- A permitted change keeps the database's rules, if the identifier of an address that it adds is
new to the whole table. -/
theorem Kept.written (kept : rows.Kept) (found : rows.account? owner = some u)
    (permits : u.Permits c) (fresh : (rows.addressIds ++ c.created?.toList).Nodup) :
    (rows.written owner c).Kept := by
  have users : ((rows.written owner c).users.map (·.id)).Nodup := by
    rw [users_written_ids kept found permits]
    exact kept.users_distinct
  refine ⟨users, fresh.sublist (addressIds_written_sublist kept found permits),
    values_written kept found permits, owners_written kept found permits, ?_⟩
  intro r member kind
  -- A pointer is that of the account it belongs to, and all accounts are valid.
  have held : (rows.written owner c).account? r.id =
      some (r.account ((rows.written owner c).book r.id)) := by
    rw [account?, user?_of_mem users member, Option.map_some]
  have valid : (r.account ((rows.written owner c).book r.id)).Valid := by
    rw [account?_written kept found permits] at held
    split at held
    next => exact Option.some.inj held ▸ (kept.valid found).after permits
    next => exact kept.valid held
  rw [hasTarget_iff]
  intro a points
  exact valid.default_mem (by rw [UserRow.default?_account]; exact points)

end Written

section Names

theorem account?_eq_none_iff {id : UserId} : rows.account? id = none ↔ rows.user? id = none :=
  Option.map_eq_none_iff

/-- The rows with another user, who has no addresses. -/
def withUser (rows : AccountRows) (id : UserId) (firstName lastName : String) : AccountRows :=
  { rows with users := rows.users ++ [{ id, firstName, lastName }] }

theorem user?_withUser {id : UserId} (new : rows.user? id = none) (firstName lastName : String)
    (id' : UserId) :
    (rows.withUser id firstName lastName).user? id' =
      if id' = id then some { id, firstName, lastName } else rows.user? id' :=
  Keyed.find?_append UserRow.id (r := { id, firstName, lastName }) new id'

/-- A user who is not in the rows has no addresses there. -/
theorem Kept.addressesOf_of_absent (kept : rows.Kept) {id : UserId}
    (absent : rows.user? id = none) : rows.addressesOf id = [] := by
  rw [addressesOf, List.map_eq_nil_iff, List.filter_eq_nil_iff]
  intro r member mine
  have owned := kept.owner_exists r member
  rw [of_decide_eq_true mine, absent] at owned
  cases owned

theorem Kept.account?_withUser (kept : rows.Kept) {id : UserId} (new : rows.user? id = none)
    (firstName lastName : String) (id' : UserId) :
    (rows.withUser id firstName lastName).account? id' =
      if id' = id then some { id, firstName, lastName } else rows.account? id' := by
  have book : (rows.withUser id firstName lastName).book id' = rows.book id' := rfl
  rw [account?, user?_withUser new, book]
  by_cases same : id' = id
  · simp only [same, ↓reduceIte, Option.map_some, AccountRows.book, kept.addressesOf_of_absent new]
    rfl
  · simp only [same, ↓reduceIte, account?]

theorem Kept.withUser (kept : rows.Kept) {id : UserId} (new : rows.user? id = none)
    (firstName lastName : String) : (rows.withUser id firstName lastName).Kept where
  users_distinct := by
    rw [AccountRows.withUser, List.map_append, List.map_singleton, List.nodup_append]
    refine ⟨kept.users_distinct, List.nodup_singleton _, ?_⟩
    intro id' there id'' here same
    cases List.mem_singleton.1 here
    cases same
    exact user?_eq_none_iff.1 new there
  addresses_distinct := kept.addresses_distinct
  values_distinct := kept.values_distinct
  owner_exists r member := by
    rw [user?_withUser new]
    split
    · rfl
    · exact kept.owner_exists r member
  target_exists r member kind := by
    rcases List.mem_append.1 member with before | here
    · exact kept.target_exists r before kind
    · rw [List.mem_singleton.1 here]
      cases kind <;> rfl

/-- The rows with other names for a user. -/
def renamed (rows : AccountRows) (id : UserId) (firstName lastName : String) : AccountRows :=
  rows.modifyUser id fun r => { r with firstName, lastName }

theorem user?_renamed (rows : AccountRows) (id : UserId) (firstName lastName : String)
    (id' : UserId) :
    (rows.renamed id firstName lastName).user? id' =
      if id' = id then (rows.user? id).map fun r => { r with firstName, lastName }
      else rows.user? id' :=
  rows.user?_modifyUser id (f := fun r => { r with firstName, lastName }) (fun _ => rfl) id'

theorem users_renamed_ids (rows : AccountRows) (id : UserId) (firstName lastName : String) :
    (rows.renamed id firstName lastName).users.map (·.id) = rows.users.map (·.id) :=
  rows.users_modifyUser_ids id (f := fun r => { r with firstName, lastName }) fun _ => rfl

theorem account?_renamed (rows : AccountRows) (id : UserId) (firstName lastName : String)
    (id' : UserId) :
    (rows.renamed id firstName lastName).account? id' =
      if id' = id then (rows.account? id).map fun u => { u with firstName, lastName }
      else rows.account? id' := by
  have book : (rows.renamed id firstName lastName).book id' = rows.book id' := rfl
  rw [account?, user?_renamed, book]
  by_cases same : id' = id
  · simp only [same, ↓reduceIte, account?, Option.map_map]
    rfl
  · simp only [same, ↓reduceIte, account?]

theorem Kept.renamed (kept : rows.Kept) (id : UserId) (firstName lastName : String) :
    (rows.renamed id firstName lastName).Kept where
  users_distinct := by
    rw [users_renamed_ids]
    exact kept.users_distinct
  addresses_distinct := kept.addresses_distinct
  values_distinct := kept.values_distinct
  owner_exists r member := by
    have owned := kept.owner_exists r member
    rw [user?_renamed]
    split
    next same => rwa [Option.isSome_map, ← same]
    next => exact owned
  target_exists r member kind := by
    obtain ⟨before, there, here⟩ := List.mem_map.1 member
    have target := kept.target_exists before there kind
    rw [← here]
    split
    · cases kind <;> exact target
    · exact target

end Names

end AccountRows

end BackOffice
