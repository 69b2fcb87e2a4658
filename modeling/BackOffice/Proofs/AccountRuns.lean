import BackOffice.Proofs.AccountCalls
import BackOffice.Store.Site
import Mathlib.Algebra.GroupWithZero.Nat

/-!
# Runs of a shop

A shop starts from tables that the migrations have built and gets calls one after another.
Whatever the calls, the tables answer as the memory does and hold the same accounts
(`AccountMemory.tables_answer_as_memory`). Which calls are refused, and for which cause, is read
off the memory (`AccountMemory.refusal?`).
-/

namespace BackOffice

/-- The address that an operation names, which must be in the book. -/
def AccountOp.named? : AccountOp → Option AddressId
  | .store _ _ _ | .change _ _ _ => none
  | .setDefault address _ | .delete address => some address

theorem AccountOp.named?_prepared (op : AccountOp) (mask : Bool) :
    (op.prepared mask).named? = op.named? := by
  cases op <;> rfl

/-- An operation that names an address outside the book is refused. -/
theorem User.respond_of_named (u : User) {op : AccountOp} {a : AddressId}
    (named : op.named? = some a) (absent : u.book.contains a = false) :
    u.respond op = .error (.notInBook u.id a) := by
  cases op with
  | store fresh data kind => cases named
  | change fresh data kind => cases named
  | setDefault address kind =>
    cases named
    simp [User.respond, User.setDefault_eq, absent, Except.map]
  | delete address =>
    cases named
    simp [User.respond, User.deleteAddress_eq, absent, Except.map]

/-- An operation that names no address, or one of the book, is not refused. -/
theorem User.respond_of_contains (u : User) (op : AccountOp)
    (there : ∀ a, op.named? = some a → u.book.contains a = true) :
    ∃ a v, u.respond op = .ok (a, v) := by
  cases op with
  | store fresh data kind => exact ⟨_, _, rfl⟩
  | change fresh data kind => exact ⟨_, _, rfl⟩
  | setDefault address kind =>
    simp [User.respond, User.setDefault_eq, there address rfl, Except.map]
  | delete address =>
    simp [User.respond, User.deleteAddress_eq, there address rfl, Except.map]

namespace AccountMemory

/-- Why a call fails, if it does: the user is not there, or the address that is named is not in the
user's book. -/
def refusal? (m : AccountMemory) : AccountCall → Option AccountRefusal
  | .create _ _ => none
  | .rename id _ _ => if (m.users.get? id).isSome then none else some (.store .notFound)
  | .ask _ id op =>
    match m.users.get? id with
    | none => some (.desk (.userNotFound id))
    | some u =>
      (op.named?.filter fun a => !u.book.contains a).map fun a => .desk (.account (.notInBook id a))

variable {m : AccountMemory} {s : AccountStore} {rows : AccountRows}

/-- A call that the memory has a reason to refuse is refused for it, and leaves the memory as it
is. -/
theorem HeldBy.answer_of_refusal (held : m.HeldBy s rows) {call : AccountCall}
    {e : AccountRefusal} (refused : m.refusal? call = some e) : m.answer call = (.error e, m) := by
  cases call with
  | create firstName lastName => cases refused
  | rename id firstName lastName =>
    cases found : m.users.get? id with
    | none =>
      simp only [refusal?, found, Option.isSome_none, Bool.false_eq_true, ↓reduceIte] at refused
      simp only [AccountMemory.answer, found, Option.some.inj refused]
    | some u => simp [refusal?, found] at refused
  | ask mask id op =>
    cases found : m.users.get? id with
    | none =>
      simp only [refusal?, found] at refused
      simp only [AccountMemory.answer, found, Option.some.inj refused]
    | some u =>
      simp only [refusal?, found, Option.map_eq_some_iff, Option.filter_eq_some_iff] at refused
      obtain ⟨a, ⟨named, absent⟩, rfl⟩ := refused
      have id_eq : u.id = id := AccountRows.id_of_account? ((held.accounts id).trans found)
      have response := u.respond_of_named (op.named?_prepared mask ▸ named)
        (by simpa using absent)
      simp only [AccountMemory.answer, found, response, id_eq]

/-- A call that the memory has no reason to refuse gets an answer. -/
theorem answer_of_no_refusal {m : AccountMemory} {call : AccountCall}
    (allowed : m.refusal? call = none) : ∃ a, (m.answer call).1 = .ok a := by
  cases call with
  | create firstName lastName => exact ⟨_, rfl⟩
  | rename id firstName lastName =>
    cases found : m.users.get? id with
    | none => simp [refusal?, found] at allowed
    | some u => exact ⟨.done, by simp only [AccountMemory.answer, found]⟩
  | ask mask id op =>
    cases found : m.users.get? id with
    | none => simp [refusal?, found] at allowed
    | some u =>
      simp only [refusal?, found, Option.map_eq_none_iff, Option.filter_eq_none_iff] at allowed
      obtain ⟨a, v, response⟩ := u.respond_of_contains (op.prepared mask)
        (by simpa [op.named?_prepared mask] using allowed)
      exact ⟨a, by simp only [AccountMemory.answer, found, response]⟩

theorem given_answer (m : AccountMemory) (call : AccountCall) :
    (m.answer call).2.given = m.given + call.keys := by
  cases call with
  | create firstName lastName => rfl
  | rename id firstName lastName =>
    simp only [answer]
    split <;> rfl
  | ask mask id op =>
    simp only [answer]
    split
    · rfl
    · split <;> rfl

end AccountMemory

/-- The tables of accounts as the migrations build them. -/
theorem Site.accounts_migrate (shared : Bool) :
    ((Site.migrate .storefront).start (Site.blank shared)).2.store.accounts = {} := by
  cases shared <;> rfl

namespace AccountMemory

/-- The tables hold what is in memory, and the calls that are yet to come have new identifiers for
their addresses and keys for their users. -/
def Ready (coming : List AccountCall) (w : Session AccountStore) (m : AccountMemory) : Prop :=
  ∃ rows, m.HeldBy w.store rows ∧
    (rows.addressIds ++ coming.flatMap AccountCall.minted).Nodup ∧
    m.given + (coming.map AccountCall.keys).sum ≤ Sequence.last

theorem ready_empty {calls : List AccountCall} (new : (calls.flatMap AccountCall.minted).Nodup)
    (enough : (calls.map AccountCall.keys).sum ≤ Sequence.last) :
    Ready calls { store := {} } {} := by
  refine ⟨{}, ⟨rfl, AccountRows.kept_empty, fun _ => rfl, rfl, Assoc.numbered_empty 0⟩, new, ?_⟩
  rwa [Nat.zero_add]

theorem Ready.step {call : AccountCall} {calls : List AccountCall} {w : Session AccountStore}
    {m : AccountMemory} (ready : Ready (call :: calls) w m) :
    (call.atStore w).1 = (m.answer call).1 ∧ Ready calls (call.atStore w).2 (m.answer call).2 := by
  obtain ⟨rows, held, new, enough⟩ := ready
  rw [List.flatMap_cons, ← List.append_assoc] at new
  rw [List.map_cons, List.sum_cons, ← Nat.add_assoc] at enough
  obtain ⟨s', rows', ends, held', ids⟩ := held.answer (new.sublist (List.sublist_append_left _ _))
    (Nat.le_trans (Nat.le_add_right _ _) enough)
  obtain ⟨result, store⟩ := ends.run rfl
  refine ⟨result, rows', ?_, new.sublist (ids.append_right _), ?_⟩
  · rw [store]
    exact held'
  · rw [given_answer]
    exact enough

/-- **The tables answer as the memory does.** Let a shop's tables be built by the migrations, and
let any calls come to them one after another, where every identifier minted for an address is new
and the sequence of keys is not used up. Then each call gets the answer that it gets from accounts
in memory, and in the end the desk finds for every user the account that is in memory, with its
defaults and the index of its book. Every call among them is refused exactly if its user is not
there, or it names an address that is not in the user's book. -/
theorem tables_answer_as_memory (shared : Bool) (calls : List AccountCall)
    (new : (calls.flatMap AccountCall.minted).Nodup)
    (enough : (calls.map AccountCall.keys).sum ≤ Sequence.last) :
    let built : Session AccountStore :=
      { store := ((Site.migrate .storefront).start (Site.blank shared)).2.store.accounts }
    let stored := serve AccountCall.atStore calls built
    let held := serve answer calls {}
    stored.1 = held.1 ∧
    (∀ id, (AccountDesk.user id stored.2).1 =
      (held.2.users.get? id).elim (.error (.userNotFound id)) .ok) ∧
    ∀ before call after, calls = before ++ call :: after →
      let w := (serve AccountCall.atStore before built).2
      let m := (serve answer before {}).2
      match m.refusal? call with
      | some e => (call.atStore w).1 = .error e ∧ (m.answer call).2 = m
      | none => ∃ a, (call.atStore w).1 = .ok a := by
  intro built stored held
  have start : Ready (calls ++ []) built {} := by
    simp only [built, Site.accounts_migrate, List.append_nil]
    exact ready_empty new enough
  obtain ⟨answers, rows, holds, -, -⟩ := serve_related (R := Eq) Ready.step start
  refine ⟨List.forall₂_eq_eq_eq ▸ answers, ?_, ?_⟩
  · intro id
    have account := holds.accounts id
    cases found : held.2.users.get? id with
    | none =>
      rw [found] at account
      exact ((AccountDesk.ends_user_of_absent holds.there holds.kept account).run rfl).1
    | some u =>
      rw [found] at account
      exact ((AccountDesk.ends_user holds.there holds.kept account).run rfl).1
  · intro before call after split w m
    rw [List.append_nil, split] at start
    obtain ⟨-, ready⟩ := serve_related (R := Eq) Ready.step start
    obtain ⟨result, -⟩ := ready.step
    obtain ⟨rows, holds, -, -⟩ := ready
    split
    next e refused =>
      rw [result, holds.answer_of_refusal refused]
      exact ⟨rfl, rfl⟩
    next allowed =>
      rw [result]
      exact answer_of_no_refusal allowed

/-- Two users, who store the same value, move a default and name an address of the other; a name is
changed of a user who is not there; and an address goes while it is a default. -/
theorem tables_answer_as_memory_for_two :
    let home : AddressData := { firstName := "Ada Byron", city := " Oslo" }
    let calls : List AccountCall := [.create "Ada" "", .create "" "",
      .ask true ⟨1⟩ (.store ⟨1, by decide⟩ home .billing),
      .ask false ⟨2⟩ (.store ⟨2, by decide⟩ home .billing),
      .ask false ⟨1⟩ (.change ⟨3, by decide⟩ home .shipping),
      .ask false ⟨2⟩ (.setDefault ⟨1, by decide⟩ .shipping), .rename ⟨3⟩ "Eve" "",
      .ask false ⟨1⟩ (.delete ⟨1, by decide⟩)]
    let built : Session AccountStore :=
      { store := ((Site.migrate .storefront).start (Site.blank false)).2.store.accounts }
    (calls.flatMap AccountCall.minted).Nodup ∧
    (calls.map AccountCall.keys).sum ≤ Sequence.last ∧
    (serve AccountCall.atStore calls built).1 = (serve answer calls {}).1 ∧
    ∀ id, (AccountDesk.user id (serve AccountCall.atStore calls built).2).1 =
      ((serve answer calls {}).2.users.get? id).elim (.error (.userNotFound id)) .ok := by
  intro home calls built
  have new : (calls.flatMap AccountCall.minted).Nodup := by decide
  have enough : (calls.map AccountCall.keys).sum ≤ Sequence.last := by decide
  obtain ⟨answers, accounts, -⟩ := tables_answer_as_memory false calls new enough
  exact ⟨new, enough, answers, accounts⟩

/-- A user who is not there cannot be renamed, but the refusal is the store's and does not name the
user. -/
theorem rename_of_absent_not_userNotFound :
    let built : Session AccountStore :=
      { store := ((Site.migrate .storefront).start (Site.blank false)).2.store.accounts }
    ((AccountCall.rename ⟨1⟩ "A" "B").atStore built).1 = .error (.store .notFound) ∧
      ((AccountCall.rename ⟨1⟩ "A" "B").atStore built).1 ≠ .error (.desk (.userNotFound ⟨1⟩)) := by
  have result : ((AccountCall.rename ⟨1⟩ "A" "B").atStore
      { store := ((Site.migrate .storefront).start (Site.blank false)).2.store.accounts }).1 =
        .error (.store .notFound) := rfl
  exact ⟨result, by rw [result]; exact nofun⟩

end AccountMemory

end BackOffice
