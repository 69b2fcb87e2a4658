import BackOffice.Proofs.AccountTables

/-!
# Writing accounts down and reading them back

Each statement on the tables of accounts has one rule that says how it ends. From these rules, the
changes that lead from one account to another are written without being refused
(`AccountStore.ends_applyChanges`), and an account is read back as the one the rows hold
(`AccountStore.ends_load`).
-/

namespace BackOffice

/-- The parts of a valid account make it up again. -/
theorem User.Valid.ofParts {u : User} (valid : u.Valid) :
    User.ofParts u.id u.firstName u.lastName u.book u.billing u.shipping = .ok u := by
  have there : ∀ kind a, u.default? kind = some a → u.book.contains a = true :=
    fun _ _ points => valid.default_mem points
  have billing : ∀ a, u.billing = some a → u.book.contains a = true := there .billing
  have shipping : ∀ a, u.shipping = some a → u.book.contains a = true := there .shipping
  obtain ⟨id, firstName, lastName, book, billingAddress, shippingAddress⟩ := u
  cases billingAddress <;> cases shippingAddress <;>
    simp_all [User.ofParts, pure, Except.pure, bind, Except.bind]

namespace AccountStore

open Work

variable {s : AccountStore} {rows : AccountRows}

section Statements

theorem ends_rowsFor (there : s.rows = some rows) (table : String) :
    (rowsFor table).Ends s (.ok rows) s := by
  refine (ends_store s).bind ?_
  rw [there]
  exact ends_pure rows s

theorem ends_setRows (s : AccountStore) (rows : AccountRows) :
    (setRows rows).Ends s (.ok ()) { s with rows := some rows } :=
  (ends_store s).bind (ends_setStore _ _)

theorem ends_checkPointers {r : UserRow}
    (targets : ∀ kind, rows.hasTarget r.id (r.pointer kind) = true) (s : AccountStore) :
    (checkPointers rows r).Ends s (.ok ()) s := by
  apply ends_forM
  intro kind _
  rw [if_pos (targets kind)]
  exact ends_pure _ _

/-- A user's row is changed if the pointers of the new row have their targets. -/
theorem ends_updateUser (there : s.rows = some rows) {id : UserId} {f : UserRow → UserRow}
    (targets : ∀ r ∈ (rows.modifyUser id f).users, ∀ kind,
      (rows.modifyUser id f).hasTarget r.id (r.pointer kind) = true) :
    (updateUser id f).Ends s (.ok (rows.user? id).isSome)
      { s with rows := some (rows.modifyUser id f) } := by
  refine (ends_rowsFor there _).bind ((ends_note _ _ s).bind ?_)
  refine Ends.bind (ends_forM _ ?_) ((ends_setRows s _).bind (ends_pure _ _))
  intro r member
  exact ends_checkPointers (targets r (List.mem_filter.1 member).1) s

theorem ends_updatePointer (there : s.rows = some rows) {id : UserId} {kind : AddressKind}
    {target : Option AddressId}
    (targets : ∀ r ∈ (rows.modifyUser id (·.withPointer kind target)).users, ∀ kind',
      (rows.modifyUser id (·.withPointer kind target)).hasTarget r.id (r.pointer kind') = true) :
    (updatePointer id kind target).Ends s (.ok ())
      { s with rows := some (rows.modifyUser id (·.withPointer kind target)) } :=
  (ends_updateUser there targets).bind (ends_pure _ _)

/-- An address is inserted if its identifier is new to the table, its value is new to the owner, and
the owner is there. -/
theorem ends_insertAddress (there : s.rows = some rows) {owner : UserId} {address : Address}
    (newId : address.id ∉ rows.addressIds)
    (newValue : address.data ∉ (rows.addressesOf owner).map (·.data))
    (owned : (rows.user? owner).isSome) :
    (insertAddress owner address).Ends s (.ok ())
      { s with
        rows := some { rows with addresses := rows.addresses ++ [{ address, owner }] } } := by
  have noId : (rows.addresses.any fun r => r.address.id = address.id) = false := by
    rw [List.any_eq_false]
    intro r member same
    exact newId (List.mem_map.2 ⟨r, member, of_decide_eq_true same⟩)
  have noValue : ((rows.addressesOf owner).any fun own => own.data = address.data) = false := by
    rw [List.any_eq_false]
    intro own member same
    exact newValue (List.mem_map.2 ⟨own, member, of_decide_eq_true same⟩)
  have known : (rows.user? owner).isNone = false := by
    rw [Option.isNone_eq_false_iff]
    exact owned
  refine (ends_rowsFor there _).bind ((ends_note _ _ s).bind ?_)
  simp only [noId, noValue, known, Bool.false_eq_true, ↓reduceIte]
  exact ends_setRows s _

theorem ends_deleteAddress (there : s.rows = some rows) (owner : UserId) (id : AddressId) :
    (deleteAddress owner id).Ends s (.ok ())
      { s with rows := some (rows.deleteAddress owner id) } :=
  (ends_rowsFor there _).bind ((ends_note _ _ s).bind (ends_setRows s _))

end Statements

section Changes

variable {owner : UserId} {u v : User} {c : AccountChange} {changes : List AccountChange}

/-- A change that the account permits is written without being refused. -/
theorem ends_applyChange (there : s.rows = some rows) (kept : rows.Kept)
    (found : rows.account? owner = some u) (permits : u.Permits c)
    (fresh : (rows.addressIds ++ c.created?.toList).Nodup) :
    (applyChange owner c).Ends s (.ok ()) { s with rows := some (rows.written owner c) } := by
  have after : (rows.written owner c).Kept := kept.written found permits fresh
  obtain ⟨r, row, rfl⟩ := Option.map_eq_some_iff.1 found
  have owned : (rows.user? owner).isSome := by rw [row, Option.isSome_some]
  cases c with
  | addressCreated address =>
    have newId : address.id ∉ rows.addressIds := by
      rw [AccountChange.created?, Option.toList_some, List.nodup_append] at fresh
      intro repeated
      exact fresh.2.2 _ repeated _ (List.mem_singleton_self _) rfl
    have newValue : address.data ∉ (rows.addressesOf owner).map (·.data) := by
      have missing : (rows.book owner).find? address.data = none := permits.1
      rw [AccountRows.book, AddressBook.find?_ofAddresses, Option.map_eq_none_iff] at missing
      intro repeated
      obtain ⟨a, there, same⟩ := List.mem_map.1 repeated
      simpa [same] using List.find?_eq_none.1 missing a there
    exact (ends_insertAddress there newId newValue owned).mapError _
  | addressDeleted id => exact (ends_deleteAddress there owner id).mapError _
  | defaultSet kind target =>
    exact (ends_updatePointer there after.target_exists).mapError _

end Changes

end AccountStore

/-- What rows have become once the account of one user, and no other, has been written anew. Among
the identifiers of addresses there is none but those from before and those `created`. -/
structure AccountRows.Rewritten (rows : AccountRows) (owner : UserId) (v : User)
    (created : List AddressId) (rows' : AccountRows) : Prop where
  kept : rows'.Kept
  account? : ∀ id, rows'.account? id = if id = owner then some v else rows.account? id
  addressIds : rows'.addressIds.Sublist (rows.addressIds ++ created)

theorem AccountRows.Rewritten.mono {rows rows' : AccountRows} {owner : UserId} {v : User}
    {created more : List AddressId} (rewritten : rows.Rewritten owner v created rows')
    (fewer : created.Sublist more) : rows.Rewritten owner v more rows' :=
  { rewritten with addressIds := rewritten.addressIds.trans (fewer.append_left _) }

namespace AccountStore

open Work

variable {s : AccountStore} {rows : AccountRows} {owner : UserId} {u v : User}

/-- **Changes that lead from one account to another are written without being refused**, and leave
the changed account for their user and the same account for every other, provided that the
identifiers they create are new to the whole table of addresses. -/
theorem ends_applyChanges {changes : List AccountChange} (there : s.rows = some rows)
    (kept : rows.Kept) (found : rows.account? owner = some u) (becomes : u.Becomes changes v)
    (fresh : (rows.addressIds ++ changes.filterMap AccountChange.created?).Nodup) :
    ∃ rows', (applyChanges owner changes).Ends s (.ok ()) { s with rows := some rows' } ∧
      rows.Rewritten owner v (changes.filterMap AccountChange.created?) rows' := by
  induction becomes generalizing s rows with
  | refl u =>
    refine ⟨rows, ?_, kept, ?_, ?_⟩
    · rw [← there]
      exact ends_pure _ s
    · intro id
      split
      next same => rw [same, found]
      next => rfl
    · simp
  | @step u v c changes permits becomes ih =>
    have split : (c :: changes).filterMap AccountChange.created? =
        c.created?.toList ++ changes.filterMap AccountChange.created? := by
      cases created : c.created? <;> simp [created]
    rw [split, ← List.append_assoc] at fresh
    have first := fresh.sublist (List.sublist_append_left _ _)
    have ids := AccountRows.addressIds_written_sublist kept found permits
    have account? := AccountRows.account?_written kept found permits
    obtain ⟨rows', ends, rewritten⟩ := ih (s := { s with rows := some (rows.written owner c) })
      rfl (kept.written found permits first) (by rw [account? owner, if_pos rfl])
      (fresh.sublist (ids.append_right _))
    refine ⟨rows', (ends_applyChange there kept found permits first).bind ends, rewritten.kept,
      ?_, ?_⟩
    · intro id
      rw [rewritten.account?, account?]
      split <;> rfl
    · rw [split, ← List.append_assoc]
      exact rewritten.addressIds.trans (ids.append_right _)

/-- The store reads the account that its rows hold. -/
theorem ends_load (there : s.rows = some rows) (kept : rows.Kept) (id : UserId) :
    (load id).Ends s (.ok (rows.account? id)) s := by
  refine ((ends_rowsFor there _).mapError _).bind ?_
  cases row : rows.user? id with
  | none =>
    rw [AccountRows.account?, row]
    exact ends_pure _ s
  | some r =>
    have found : rows.account? id = some (r.account (rows.book id)) := by
      rw [AccountRows.account?, row, Option.map_some]
    have parts := (kept.valid found).ofParts
    dsimp only [UserRow.account, AccountRows.book] at parts ⊢
    rw [parts, found]
    exact ends_pure _ s

/-- A key that no user has passes. -/
theorem ends_checkUserKey {id : UserId} (new : rows.user? id = none) (s : AccountStore) :
    (checkUserKey rows id).Ends s (.ok ()) s := by
  refine (ends_store s).bind ?_
  rw [new, Option.isSome_none, Bool.and_false]
  exact ends_pure _ s

/-- As long as there are keys, the next user gets the next one, if nobody has it. -/
theorem ends_create (there : s.rows = some rows) (left : s.usersGiven < Sequence.last)
    (new : rows.user? (Sequence.next s.usersGiven) = none) (firstName lastName : String) :
    let id : UserId := Sequence.next s.usersGiven
    (create firstName lastName).Ends s (.ok { id, firstName, lastName })
      { s with
        rows := some (rows.withUser id firstName lastName)
        usersGiven := s.usersGiven + 1 } := by
  intro id
  have key : nextUser.Ends s (.ok id) { s with usersGiven := s.usersGiven + 1 } := by
    refine (ends_store s).bind ?_
    rw [Sequence.key?, if_pos left]
    exact (ends_setStore _ _).bind (ends_pure _ _)
  have inserted : (insertUser firstName lastName).Ends s (.ok id)
      { s with
        rows := some (rows.withUser id firstName lastName)
        usersGiven := s.usersGiven + 1 } :=
    (ends_rowsFor there _).bind ((ends_note _ _ s).bind
      (key.bind ((ends_checkUserKey new _).bind ((ends_setRows _ _).bind (ends_pure _ _)))))
  exact (inserted.mapError _).bind (ends_pure _ _)

theorem ends_updateNames (there : s.rows = some rows) (kept : rows.Kept) (id : UserId)
    (firstName lastName : String) :
    (updateNames id firstName lastName).Ends s (.ok (rows.user? id).isSome)
      { s with rows := some (rows.renamed id firstName lastName) } :=
  ends_updateUser there (kept.renamed id firstName lastName).target_exists

theorem ends_rename_of_present (there : s.rows = some rows) (kept : rows.Kept) {id : UserId}
    (present : (rows.user? id).isSome) (firstName lastName : String) :
    (rename id firstName lastName).Ends s (.ok ())
      { s with rows := some (rows.renamed id firstName lastName) } := by
  refine ((ends_updateNames there kept id firstName lastName).mapError _).bind ?_
  rw [present]
  exact ends_pure _ _

theorem ends_rename_of_absent (there : s.rows = some rows) (kept : rows.Kept) {id : UserId}
    (absent : rows.user? id = none) (firstName lastName : String) :
    (rename id firstName lastName).Ends s (.error .notFound) s := by
  have updated := ends_updateNames there kept id firstName lastName
  have same :
      ({ s with rows := some (rows.renamed id firstName lastName) } : AccountStore) = s := by
    rw [AccountRows.renamed, AccountRows.modifyUser_of_absent absent, ← there]
  rw [absent, same] at updated
  exact (updated.mapError _).bind (ends_throw _ s)

end AccountStore

end BackOffice
