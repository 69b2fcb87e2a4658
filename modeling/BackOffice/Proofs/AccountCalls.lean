import BackOffice.Proofs.AccountRequests

/-!
# Accounts in the tables and in memory

A shop answers calls from its tables (`AccountCall.atStore`). The same calls can be answered from
a map of accounts in memory (`AccountMemory.answer`), where each account follows its own rules and
nothing is refused but what these rules refuse. Where the tables hold the accounts in memory, a
call gets the same answer from both, and afterwards the tables hold again what is in memory.
-/

namespace BackOffice

/-- The operation with its address as it is kept. -/
def AccountOp.prepared (mask : Bool) : AccountOp → AccountOp
  | .store fresh data kind => .store fresh (data.prepared mask) kind
  | .change fresh data kind => .change fresh (data.prepared mask) kind
  | op => op

/-- The identifier that an operation has at hand for a new address. -/
def AccountOp.minted : AccountOp → List AddressId
  | .store fresh _ _ | .change fresh _ _ => [fresh]
  | .setDefault _ _ | .delete _ => []

/-- A call to the storefront. -/
inductive AccountCall where
  | create (firstName lastName : String)
  | rename (id : UserId) (firstName lastName : String)
  /-- Asks the desk for an operation on a user's account, with addresses masked or not. -/
  | ask (mask : Bool) (id : UserId) (op : AccountOp)
deriving DecidableEq

/-- What a call returns. -/
inductive AccountAnswer where
  | user (u : User)
  | address (id : AddressId)
  | done
deriving DecidableEq

/-- Why a call fails. -/
inductive AccountRefusal where
  | store (cause : StoreError)
  | desk (cause : AccountDeskError)
deriving DecidableEq

/-- Asks the desk for an operation. -/
def AccountDesk.ask (desk : AccountDesk) (id : UserId) :
    AccountOp → AccountDesk.Request AccountAnswer
  | .store fresh data kind => .address <$> desk.storeAddress id fresh data kind
  | .change fresh data kind => .address <$> desk.changeDefault id fresh data kind
  | .setDefault address kind => (fun _ => .done) <$> AccountDesk.setDefault id address kind
  | .delete address => (fun _ => .done) <$> AccountDesk.deleteAddress id address

namespace AccountCall

/-- The identifiers that a call has at hand for new addresses. -/
def minted : AccountCall → List AddressId
  | .create _ _ | .rename _ _ _ => []
  | .ask _ _ op => op.minted

/-- How many keys of users a call takes. -/
def keys : AccountCall → Nat
  | .create _ _ => 1
  | .rename _ _ _ | .ask _ _ _ => 0

/-- Answers a call from the tables. -/
def atStore : AccountCall → Work AccountStore AccountRefusal AccountAnswer
  | .create firstName lastName => (.user <$> AccountStore.create firstName lastName).mapError .store
  | .rename id firstName lastName =>
    ((fun _ => .done) <$> AccountStore.rename id firstName lastName).mapError .store
  | .ask mask id op => (AccountDesk.ask { mask } id op).mapError .desk

end AccountCall

/-- What an operation returns and the account after it, or why it is refused. -/
def User.respond (u : User) : AccountOp → Except AccountError (AccountAnswer × User)
  | .store fresh data kind =>
    .ok (.address (u.storeAddress fresh data kind).address, (u.storeAddress fresh data kind).user)
  | .change fresh data kind =>
    .ok (.address (u.changeDefault fresh data kind).address, (u.changeDefault fresh data kind).user)
  | .setDefault address kind => (u.setDefault address kind).map fun (v, _) => (.done, v)
  | .delete address => (u.deleteAddress address).map fun (v, _) => (.done, v)

/-- Accounts in memory. -/
structure AccountMemory where
  users : Assoc UserId User := .empty
  given : Nat := 0

namespace AccountMemory

/-- Answers a call from memory; a call that fails leaves the memory as it is. -/
def answer (call : AccountCall) (m : AccountMemory) :
    Except AccountRefusal AccountAnswer × AccountMemory :=
  match call with
  | .create firstName lastName =>
    let u : User := { id := Sequence.next m.given, firstName, lastName }
    (.ok (.user u), { users := m.users.put u.id u, given := m.given + 1 })
  | .rename id firstName lastName =>
    match m.users.get? id with
    | none => (.error (.store .notFound), m)
    | some u => (.ok .done, { m with users := m.users.put id { u with firstName, lastName } })
  | .ask mask id op =>
    match m.users.get? id with
    | none => (.error (.desk (.userNotFound id)), m)
    | some u =>
      match u.respond (op.prepared mask) with
      | .error e => (.error (.desk (.account e)), m)
      | .ok (a, v) => (.ok a, { m with users := m.users.put id v })

end AccountMemory

namespace AccountDesk

open Work

variable {s : AccountStore} {rows : AccountRows} {id : UserId} {u v : User}

/-- The desk answers as the account's own rules do, and leaves the account that they lead to. -/
theorem ends_ask (there : s.rows = some rows) (kept : rows.Kept) (found : rows.account? id = some u)
    {mask : Bool} {op : AccountOp} (new : (rows.addressIds ++ op.minted).Nodup)
    {a : AccountAnswer} (done : u.respond (op.prepared mask) = .ok (a, v)) :
    ∃ rows', (ask { mask } id op).Ends s (.ok a) { s with rows := some rows' } ∧
      rows.Rewritten id v op.minted rows' := by
  cases op with
  | store fresh data kind =>
    cases done
    obtain ⟨rows', ends, rewritten⟩ := ends_storeAddress there kept found { mask } new data kind
    exact ⟨rows', Ends.map AccountAnswer.address ends, rewritten⟩
  | change fresh data kind =>
    cases done
    obtain ⟨rows', ends, rewritten⟩ := ends_changeDefault there kept found { mask } new data kind
    exact ⟨rows', Ends.map AccountAnswer.address ends, rewritten⟩
  | setDefault address kind =>
    cases result : u.setDefault address kind with
    | error e => simp [User.respond, AccountOp.prepared, result, Except.map] at done
    | ok after =>
      simp only [User.respond, AccountOp.prepared, result, Except.map] at done
      cases done
      obtain ⟨rows', ends, rewritten⟩ := ends_setDefault there kept found result
      exact ⟨rows', Ends.map (fun _ => AccountAnswer.done) ends, rewritten⟩
  | delete address =>
    cases result : u.deleteAddress address with
    | error e => simp [User.respond, AccountOp.prepared, result, Except.map] at done
    | ok after =>
      simp only [User.respond, AccountOp.prepared, result, Except.map] at done
      cases done
      obtain ⟨rows', ends, rewritten⟩ := ends_deleteAddress there kept found result
      exact ⟨rows', Ends.map (fun _ => AccountAnswer.done) ends, rewritten⟩

theorem ends_ask_of_absent (there : s.rows = some rows) (kept : rows.Kept)
    (absent : rows.account? id = none) (desk : AccountDesk) (op : AccountOp) :
    (desk.ask id op).Ends s (.error (.userNotFound id)) s := by
  cases op with
  | store fresh data kind =>
    exact Ends.map AccountAnswer.address (ends_withUser_of_absent there kept absent).bind_error
  | change fresh data kind =>
    exact Ends.map AccountAnswer.address (ends_withUser_of_absent there kept absent).bind_error
  | setDefault address kind =>
    exact Ends.map (fun _ => AccountAnswer.done)
      (ends_withUser_of_absent there kept absent).bind_error
  | delete address =>
    exact Ends.map (fun _ => AccountAnswer.done)
      (ends_withUser_of_absent there kept absent).bind_error

theorem ends_ask_of_refused (there : s.rows = some rows) (kept : rows.Kept)
    (found : rows.account? id = some u) {mask : Bool} {op : AccountOp} {e : AccountError}
    (refused : u.respond (op.prepared mask) = .error e) :
    (ask { mask } id op).Ends s (.error (.account e)) s := by
  cases op with
  | store fresh data kind => cases refused
  | change fresh data kind => cases refused
  | setDefault address kind =>
    cases result : u.setDefault address kind with
    | ok after => simp [User.respond, AccountOp.prepared, result, Except.map] at refused
    | error cause =>
      simp only [User.respond, AccountOp.prepared, result, Except.map] at refused
      cases refused
      exact Ends.map (fun _ => AccountAnswer.done)
        (ends_withUser_of_refused there kept found (silently_of_refused result)).bind_error
  | delete address =>
    cases result : u.deleteAddress address with
    | ok after => simp [User.respond, AccountOp.prepared, result, Except.map] at refused
    | error cause =>
      simp only [User.respond, AccountOp.prepared, result, Except.map] at refused
      cases refused
      exact Ends.map (fun _ => AccountAnswer.done)
        (ends_withUser_of_refused there kept found (silently_of_refused result)).bind_error

end AccountDesk

namespace AccountMemory

/-- The tables hold the accounts in memory, and have given out the same keys. -/
structure HeldBy (m : AccountMemory) (s : AccountStore) (rows : AccountRows) : Prop where
  there : s.rows = some rows
  kept : rows.Kept
  accounts : ∀ id, rows.account? id = m.users.get? id
  given : s.usersGiven = m.given
  numbered : m.users.Numbered m.given

variable {m : AccountMemory} {s : AccountStore} {rows : AccountRows}

theorem HeldBy.get?_eq_none_iff (held : m.HeldBy s rows) {id : UserId} :
    m.users.get? id = none ↔ rows.user? id = none := by
  rw [← held.accounts, AccountRows.account?_eq_none_iff]

/-- The next key is that of no user. -/
theorem HeldBy.next_new (held : m.HeldBy s rows) (left : m.given < Sequence.last) :
    rows.user? (Sequence.next m.given) = none :=
  held.get?_eq_none_iff.1 (held.numbered.next_new left)

theorem HeldBy.of_rewritten (held : m.HeldBy s rows) {id : UserId} {u v : User}
    (found : m.users.get? id = some u) {created : List AddressId} {rows' : AccountRows}
    (rewritten : rows.Rewritten id v created rows') :
    ({ m with users := m.users.put id v } : AccountMemory).HeldBy { s with rows := some rows' }
      rows' where
  there := rfl
  kept := rewritten.kept
  accounts id' := by rw [rewritten.account?, Assoc.get?_put, held.accounts]
  given := held.given
  numbered := held.numbered.put found v

theorem HeldBy.create (held : m.HeldBy s rows) (left : m.given < Sequence.last)
    (firstName lastName : String) :
    ∃ s' rows', (AccountCall.create firstName lastName).atStore.Ends s
        (m.answer (.create firstName lastName)).1 s' ∧
      (m.answer (.create firstName lastName)).2.HeldBy s' rows' ∧
      rows'.addressIds = rows.addressIds := by
  have new := held.next_new left
  have ends := AccountStore.ends_create held.there (by rw [held.given]; exact left)
    (by rw [held.given]; exact new) firstName lastName
  simp only [held.given] at ends
  refine ⟨_, rows.withUser (Sequence.next m.given) firstName lastName,
    (ends.map AccountAnswer.user).mapError AccountRefusal.store, ?_, rfl⟩
  refine ⟨rfl, held.kept.withUser new firstName lastName, ?_, rfl, held.numbered.put_next _⟩
  intro id
  rw [held.kept.account?_withUser new, held.accounts]
  exact (m.users.get?_put _ _ id).symm

theorem HeldBy.rename (held : m.HeldBy s rows) (id : UserId) (firstName lastName : String) :
    ∃ s' rows', (AccountCall.rename id firstName lastName).atStore.Ends s
        (m.answer (.rename id firstName lastName)).1 s' ∧
      (m.answer (.rename id firstName lastName)).2.HeldBy s' rows' ∧
      rows'.addressIds = rows.addressIds := by
  cases found : m.users.get? id with
  | none =>
    have ends := AccountStore.ends_rename_of_absent held.there held.kept
      (held.get?_eq_none_iff.1 found) firstName lastName
    simp only [answer, found]
    exact ⟨s, rows, (ends.map fun _ => AccountAnswer.done).mapError AccountRefusal.store, held, rfl⟩
  | some u =>
    have present : (rows.user? id).isSome := by
      rw [← Option.ne_none_iff_isSome, ne_eq, ← held.get?_eq_none_iff, found]
      exact Option.some_ne_none u
    have ends := AccountStore.ends_rename_of_present held.there held.kept present firstName
      lastName
    simp only [answer, found]
    refine ⟨_, rows.renamed id firstName lastName,
      (ends.map fun _ => AccountAnswer.done).mapError AccountRefusal.store, ?_, rfl⟩
    refine ⟨rfl, held.kept.renamed id firstName lastName, ?_, held.given,
      held.numbered.put found _⟩
    intro id'
    rw [AccountRows.account?_renamed, held.accounts, held.accounts, found, Option.map_some,
      Assoc.get?_put]

theorem HeldBy.ask (held : m.HeldBy s rows) (mask : Bool) (id : UserId) {op : AccountOp}
    (new : (rows.addressIds ++ op.minted).Nodup) :
    ∃ s' rows', (AccountCall.ask mask id op).atStore.Ends s (m.answer (.ask mask id op)).1 s' ∧
      (m.answer (.ask mask id op)).2.HeldBy s' rows' ∧
      rows'.addressIds.Sublist (rows.addressIds ++ op.minted) := by
  have kept := List.sublist_append_left rows.addressIds op.minted
  have account := held.accounts id
  cases found : m.users.get? id with
  | none =>
    rw [found] at account
    have ends := AccountDesk.ends_ask_of_absent held.there held.kept account { mask } op
    simp only [answer, found]
    exact ⟨s, rows, ends.mapError AccountRefusal.desk, held, kept⟩
  | some u =>
    rw [found] at account
    cases result : u.respond (op.prepared mask) with
    | error e =>
      have ends := AccountDesk.ends_ask_of_refused held.there held.kept account result
      simp only [answer, found, result]
      exact ⟨s, rows, ends.mapError AccountRefusal.desk, held, kept⟩
    | ok after =>
      obtain ⟨rows', ends, rewritten⟩ :=
        AccountDesk.ends_ask held.there held.kept account new result
      simp only [answer, found, result]
      exact ⟨_, rows', ends.mapError AccountRefusal.desk, held.of_rewritten found rewritten,
        rewritten.addressIds⟩

/-- **One call is answered from the tables as from memory**, and afterwards the tables hold what
is in memory. -/
theorem HeldBy.answer (held : m.HeldBy s rows) {call : AccountCall}
    (new : (rows.addressIds ++ call.minted).Nodup) (enough : m.given + call.keys ≤ Sequence.last) :
    ∃ s' rows', call.atStore.Ends s (m.answer call).1 s' ∧ (m.answer call).2.HeldBy s' rows' ∧
      rows'.addressIds.Sublist (rows.addressIds ++ call.minted) := by
  cases call with
  | create firstName lastName =>
    obtain ⟨s', rows', ends, held', ids⟩ := held.create enough firstName lastName
    exact ⟨s', rows', ends, held', by rw [ids]; exact List.sublist_append_left _ _⟩
  | rename id firstName lastName =>
    obtain ⟨s', rows', ends, held', ids⟩ := held.rename id firstName lastName
    exact ⟨s', rows', ends, held', by rw [ids]; exact List.sublist_append_left _ _⟩
  | ask mask id op => exact held.ask mask id new

end AccountMemory

end BackOffice
