import BackOffice.Account.User
import BackOffice.Proofs.BookIndex
import Mathlib.Logic.Function.Basic

/-!
# What an account's changes amount to

Whoever keeps an account sees nothing of an operation but the list of its changes. A change that
an account *permits* (`User.Permits`) makes a difference and breaks nothing, and the list that an
operation returns leads through permitted changes from the account before to the account after
(`User.Valid.perform_becomes`). Read on what is kept of an account, which is its addresses and its
defaults (`AccountImage`), such a list rebuilds the later state from the earlier one, every prefix
of it leaves no default dangling, and no change in it is idle.
-/

namespace BackOffice

/-- What can be done to an account. -/
inductive AccountOp where
  /-- Adds an address, which becomes the default of a kind that has none. -/
  | store (fresh : AddressId) (data : AddressData) (kind : AddressKind)
  /-- Adds an address and makes it the default of a kind. -/
  | change (fresh : AddressId) (data : AddressData) (kind : AddressKind)
  /-- Makes an address of the book the default of a kind. -/
  | setDefault (address : AddressId) (kind : AddressKind)
  /-- Takes an address from the book. -/
  | delete (address : AddressId)
deriving DecidableEq

/-- Carries an operation out on an account, in place. -/
def AccountOp.inPlace : AccountOp → InPlace User AccountError (List AccountChange)
  | .store fresh data kind => return (← User.storeInPlace fresh data kind).changes
  | .change fresh data kind => return (← User.changeInPlace fresh data kind).changes
  | .setDefault address kind => User.setDefaultInPlace address kind
  | .delete address => User.deleteInPlace address

namespace User

/-- The account after an operation and its changes, or why it is refused. -/
def apply (u : User) (op : AccountOp) : Except AccountError (User × List AccountChange) :=
  op.inPlace.outcome u

/-- The account as an operation leaves it, refused or not, and the changes that it reports. -/
def perform (u : User) (op : AccountOp) : User × List AccountChange :=
  (op.inPlace.left u, (op.inPlace u).1.toOption.getD [])

/-- The account after a sequence of operations, and their changes one after the other. -/
def performAll (u : User) : List AccountOp → User × List AccountChange
  | [] => (u, [])
  | op :: ops =>
    let first := u.perform op
    let rest := first.1.performAll ops
    (rest.1, first.2 ++ rest.2)

/-- An identifier that the operation mints is not yet in the book. -/
def MintsNew (u : User) : AccountOp → Prop
  | .store fresh data _ | .change fresh data _ =>
    u.book.MintsNew (.getOrInsert fresh data.normalized)
  | .setDefault _ _ | .delete _ => True

instance (u : User) : (op : AccountOp) → Decidable (u.MintsNew op)
  | .store fresh data _ | .change fresh data _ =>
    inferInstanceAs (Decidable (u.book.MintsNew (.getOrInsert fresh data.normalized)))
  | .setDefault _ _ | .delete _ => inferInstanceAs (Decidable True)

/-- Every identifier minted in a sequence of operations is new to the book as it is by then. -/
def MintsAllNew (u : User) : List AccountOp → Prop
  | [] => True
  | op :: ops => u.MintsNew op ∧ (u.perform op).1.MintsAllNew ops

instance (u : User) : (ops : List AccountOp) → Decidable (u.MintsAllNew ops)
  | [] => inferInstanceAs (Decidable True)
  | op :: ops =>
    have := instDecidableMintsAllNew (u.perform op).1 ops
    inferInstanceAs (Decidable (_ ∧ _))

/-- The book is indexed, and each default names an address of it. -/
structure Valid (u : User) : Prop where
  indexed : u.book.Indexed
  default_mem : ∀ {kind id}, u.default? kind = some id → u.book.contains id = true

/-- The account after one change. -/
def after (u : User) : AccountChange → User
  | .addressCreated address => { u with book := u.book.record address }
  | .addressDeleted id => { u with book := (u.book.remove id).1 }
  | .defaultSet kind id => u.withDefault kind id

/-- The change can be made, leaves no default dangling, and makes a difference. -/
def Permits (u : User) : AccountChange → Prop
  | .addressCreated address => u.book.find? address.data = none ∧ u.book.get? address.id = none
  | .addressDeleted id => u.book.contains id = true ∧ ∀ kind, u.default? kind ≠ some id
  | .defaultSet kind id => u.default? kind ≠ id ∧ ∀ a ∈ id, u.book.contains a = true

/-- Changes that lead from one account to another, each permitted at its point. -/
inductive Becomes : User → List AccountChange → User → Prop
  | refl (u : User) : Becomes u [] u
  | step {u v : User} {c : AccountChange} {changes : List AccountChange} (permits : u.Permits c)
      (rest : Becomes (u.after c) changes v) : Becomes u (c :: changes) v

theorem Becomes.single {u : User} {c : AccountChange} (permits : u.Permits c) :
    Becomes u [c] (u.after c) :=
  .step permits (.refl _)

theorem Becomes.trans {u v w : User} {first second : List AccountChange}
    (left : Becomes u first v) (right : Becomes v second w) : Becomes u (first ++ second) w := by
  induction left with
  | refl => exact right
  | step permits _ ih => exact .step permits (ih right)

section InPlace

theorem ensureOwned_apply (address : AddressId) (u : User) :
    ensureOwned address u =
      (if u.book.contains address then .ok () else .error (.notInBook u.id address), u) := by
  change (if !u.book.contains address then _ else _ : InPlace User AccountError Unit) u = _
  cases u.book.contains address <;> rfl

theorem setDefaultInPlace_apply (address : AddressId) (kind : AddressKind) (u : User) :
    setDefaultInPlace address kind u =
      if u.book.contains address then (.ok (u.pointAt kind address).2, (u.pointAt kind address).1)
      else (.error (.notInBook u.id address), u) := by
  rw [setDefaultInPlace, InPlace.bind_apply, ensureOwned_apply]
  cases u.book.contains address <;> rfl

theorem deleteInPlace_apply (address : AddressId) (u : User) :
    deleteInPlace address u =
      if u.book.contains address then
        let (v, changes) := AddressKind.all.foldl (unpoint address) (u, [])
        (.ok (changes ++ [.addressDeleted address]), { v with book := (v.book.remove address).1 })
      else (.error (.notInBook u.id address), u) := by
  rw [deleteInPlace, InPlace.bind_apply, ensureOwned_apply]
  cases u.book.contains address <;> rfl

theorem setDefault_eq (u : User) (address : AddressId) (kind : AddressKind) :
    u.setDefault address kind =
      if u.book.contains address then .ok (u.pointAt kind address)
      else .error (.notInBook u.id address) := by
  rw [setDefault, InPlace.outcome, setDefaultInPlace_apply]
  cases u.book.contains address <;> rfl

theorem deleteAddress_eq (u : User) (address : AddressId) :
    u.deleteAddress address =
      if u.book.contains address then
        let (v, changes) := AddressKind.all.foldl (unpoint address) (u, [])
        .ok ({ v with book := (v.book.remove address).1 }, changes ++ [.addressDeleted address])
      else .error (.notInBook u.id address) := by
  rw [deleteAddress, InPlace.outcome, deleteInPlace_apply]
  cases u.book.contains address <;> rfl

theorem apply_store (u : User) (fresh : AddressId) (data : AddressData) (kind : AddressKind) :
    u.apply (.store fresh data kind) =
      .ok ((u.storeAddress fresh data kind).user, (u.storeAddress fresh data kind).changes) := rfl

theorem apply_change (u : User) (fresh : AddressId) (data : AddressData) (kind : AddressKind) :
    u.apply (.change fresh data kind) =
      .ok ((u.changeDefault fresh data kind).user, (u.changeDefault fresh data kind).changes) := rfl

theorem apply_setDefault (u : User) (address : AddressId) (kind : AddressKind) :
    u.apply (.setDefault address kind) = u.setDefault address kind := rfl

theorem apply_delete (u : User) (address : AddressId) :
    u.apply (.delete address) = u.deleteAddress address := rfl

/-- **An operation that is refused has not touched the account.** What it looks at comes before all
that it changes. -/
theorem left_of_refused {u : User} {op : AccountOp} {e : AccountError}
    (refused : (op.inPlace u).1 = .error e) : op.inPlace.left u = u := by
  cases op with
  | store fresh data kind => cases refused
  | change fresh data kind => cases refused
  | setDefault address kind =>
    rw [AccountOp.inPlace, setDefaultInPlace_apply] at refused
    rw [InPlace.left, AccountOp.inPlace, setDefaultInPlace_apply]
    cases there : u.book.contains address with
    | true =>
      rw [there] at refused
      cases refused
    | false => rfl
  | delete address =>
    rw [AccountOp.inPlace, deleteInPlace_apply] at refused
    rw [InPlace.left, AccountOp.inPlace, deleteInPlace_apply]
    cases there : u.book.contains address with
    | true =>
      rw [there] at refused
      cases refused
    | false => rfl

/-- What is performed is the operation, if it is not refused. -/
theorem perform_eq (u : User) (op : AccountOp) :
    u.perform op =
      match u.apply op with
      | .ok after => after
      | .error _ => (u, []) := by
  cases done : u.apply op with
  | error e =>
    have refused := InPlace.outcome_eq_error_iff.1 done
    rw [perform, left_of_refused refused, refused]
    rfl
  | ok after =>
    rw [perform, InPlace.left, InPlace.outcome_eq_ok_iff.1 done]
    rfl

end InPlace

section Defaults

@[simp] theorem book_withDefault (u : User) (kind : AddressKind) (id : Option AddressId) :
    (u.withDefault kind id).book = u.book := by
  cases kind <;> rfl

theorem default?_withDefault (u : User) (kind : AddressKind) (id : Option AddressId)
    (kind' : AddressKind) :
    (u.withDefault kind id).default? kind' = if kind' = kind then id else u.default? kind' := by
  cases kind <;> cases kind' <;> rfl

end Defaults

/-- A permitted change keeps an account valid. -/
theorem Valid.after {u : User} (valid : u.Valid) {c : AccountChange} (permits : u.Permits c) :
    (u.after c).Valid := by
  cases c with
  | addressCreated address =>
    refine ⟨valid.indexed.record permits.2, ?_⟩
    intro kind id points
    have there := valid.default_mem (points : u.default? kind = some id)
    simp only [User.after, AddressBook.contains, AddressBook.get?_record] at there ⊢
    split
    · rfl
    · exact there
  | addressDeleted gone =>
    refine ⟨valid.indexed.remove gone, ?_⟩
    intro kind id points
    have there := valid.default_mem (points : u.default? kind = some id)
    have other : id ≠ gone := by
      rintro rfl
      exact permits.2 kind points
    simp only [User.after, AddressBook.contains, AddressBook.get?_remove] at there ⊢
    rw [if_neg other]
    exact there
  | defaultSet kind target =>
    refine ⟨by simpa [User.after] using valid.indexed, ?_⟩
    intro kind' id points
    simp only [User.after, default?_withDefault, book_withDefault] at points ⊢
    split at points
    next => exact permits.2 id points
    next => exact valid.default_mem points

theorem Becomes.valid {u v : User} {changes : List AccountChange} (becomes : Becomes u changes v)
    (valid : u.Valid) : v.Valid := by
  induction becomes with
  | refl => exact valid
  | step permits _ ih => exact ih (valid.after permits)

section Operations

theorem insert_of_find? {u : User} {data : AddressData} {id : AddressId}
    (found : u.book.find? data.normalized = some id) (fresh : AddressId) :
    u.insert fresh data = (u, id, false, []) := by
  simp only [insert, AddressBook.getOrInsert_of_find? found, Bool.false_eq_true, ↓reduceIte]

theorem insert_of_missing {u : User} {data : AddressData}
    (missing : u.book.find? data.normalized = none) (fresh : AddressId) :
    u.insert fresh data = (u.after (.addressCreated ⟨fresh, data.normalized⟩), fresh, true,
      [.addressCreated ⟨fresh, data.normalized⟩]) := by
  simp only [insert, AddressBook.getOrInsert_of_missing missing, ↓reduceIte, User.after]

/-- An insertion reports exactly what it does, and returns an address of the book. -/
theorem Valid.insert_becomes {u : User} (valid : u.Valid) {fresh : AddressId}
    {data : AddressData} (new : u.book.MintsNew (.getOrInsert fresh data.normalized)) :
    u.Becomes (u.insert fresh data).2.2.2 (u.insert fresh data).1 ∧
      (u.insert fresh data).1.book.contains (u.insert fresh data).2.1 = true := by
  cases found : u.book.find? data.normalized with
  | some id =>
    rw [insert_of_find? found]
    refine ⟨.refl u, ?_⟩
    rw [AddressBook.contains, valid.indexed.get?_of_find? found, Option.isSome_some]
  | none =>
    rw [insert_of_missing found]
    refine ⟨.single ⟨found, new found⟩, ?_⟩
    simp [User.after, AddressBook.contains, AddressBook.get?_record]

/-- Setting a default reports exactly what it does. -/
theorem pointAt_becomes {u : User} {id : AddressId} (there : u.book.contains id = true)
    (kind : AddressKind) : u.Becomes (u.pointAt kind id).2 (u.pointAt kind id).1 := by
  unfold pointAt
  split
  next => exact .refl u
  next other =>
    refine .single (c := .defaultSet kind (some id)) ⟨other, ?_⟩
    intro a here
    rwa [← Option.some.inj here]

/-- A default that was unset is set just as one that named another address. -/
theorem storeAddress_eq_pointAt (u : User) (fresh : AddressId) (data : AddressData)
    (kind : AddressKind) :
    let inserted := u.insert fresh data
    let pointed :=
      if (inserted.1.default? kind).isNone then inserted.1.pointAt kind inserted.2.1
      else (inserted.1, [])
    (u.storeAddress fresh data kind).user = pointed.1 ∧
      (u.storeAddress fresh data kind).changes = inserted.2.2.2 ++ pointed.2 := by
  intro inserted pointed
  by_cases unset : (inserted.1.default? kind).isNone = true
  · have other : inserted.1.default? kind ≠ some inserted.2.1 := by
      rw [Option.isNone_iff_eq_none.1 unset]
      exact nofun
    simp only [storeAddress, pointed, inserted, unset, pointAt, other, ↓reduceIte, and_self]
  · simp only [storeAddress, pointed, inserted, unset, Bool.false_eq_true, ↓reduceIte,
      List.append_nil, and_self]

theorem Valid.storeAddress_becomes {u : User} (valid : u.Valid) {fresh : AddressId}
    {data : AddressData} (new : u.book.MintsNew (.getOrInsert fresh data.normalized))
    (kind : AddressKind) :
    u.Becomes (u.storeAddress fresh data kind).changes (u.storeAddress fresh data kind).user := by
  obtain ⟨user, changes⟩ := storeAddress_eq_pointAt u fresh data kind
  obtain ⟨inserted, there⟩ := valid.insert_becomes new
  rw [user, changes]
  refine inserted.trans ?_
  split
  next => exact pointAt_becomes there kind
  next => exact .refl _

theorem changes_changeDefault (u : User) (fresh : AddressId) (data : AddressData)
    (kind : AddressKind) :
    (u.changeDefault fresh data kind).changes =
      (u.insert fresh data).2.2.2 ++
        ((u.insert fresh data).1.pointAt kind (u.insert fresh data).2.1).2 := rfl

theorem Valid.changeDefault_becomes {u : User} (valid : u.Valid) {fresh : AddressId}
    {data : AddressData} (new : u.book.MintsNew (.getOrInsert fresh data.normalized))
    (kind : AddressKind) :
    u.Becomes (u.changeDefault fresh data kind).changes
      (u.changeDefault fresh data kind).user := by
  obtain ⟨inserted, there⟩ := valid.insert_becomes new
  exact inserted.trans (pointAt_becomes there kind)

theorem setDefault_becomes {u v : User} {id : AddressId} {kind : AddressKind}
    {changes : List AccountChange} (done : u.setDefault id kind = .ok (v, changes)) :
    u.Becomes changes v := by
  rw [setDefault_eq] at done
  split at done
  next there =>
    have pointed := Except.ok.inj done
    have becomes := pointAt_becomes there kind
    rwa [pointed] at becomes
  next => cases done

/-- Clearing the defaults of some kinds that name an address reports exactly what it does, keeps the
book, and leaves no default of these kinds that names the address. -/
theorem foldl_unpoint (id : AddressId) (kinds : List AddressKind) (u : User)
    (before : List AccountChange) :
    ∃ changes v, kinds.foldl (unpoint id) (u, before) = (v, before ++ changes) ∧
      u.Becomes changes v ∧ v.book = u.book ∧
      ∀ kind, v.default? kind = some id → u.default? kind = some id ∧ kind ∉ kinds := by
  induction kinds generalizing u before with
  | nil => exact ⟨[], u, by simp, .refl u, rfl, fun kind points => ⟨points, List.not_mem_nil⟩⟩
  | cons kind kinds ih =>
    rw [List.foldl_cons]
    by_cases points : u.default? kind = some id
    · obtain ⟨changes, v, result, becomes, book, cleared⟩ :=
        ih (u.withDefault kind none) (before ++ [.defaultSet kind none])
      have permits : u.Permits (.defaultSet kind none) :=
        ⟨by rw [points]; exact nofun, fun a here => by cases here⟩
      refine ⟨.defaultSet kind none :: changes, v, ?_, .step permits becomes, ?_, ?_⟩
      · simpa [unpoint, points] using result
      · rw [book, book_withDefault]
      · intro kind' points'
        obtain ⟨still, other⟩ := cleared kind' points'
        rw [default?_withDefault] at still
        split at still
        next => cases still
        next different => exact ⟨still, by simp [different, other]⟩
    · obtain ⟨changes, v, result, becomes, book, cleared⟩ := ih u before
      refine ⟨changes, v, by simpa [unpoint, points] using result, becomes, book, ?_⟩
      intro kind' points'
      obtain ⟨still, other⟩ := cleared kind' points'
      have different : kind' ≠ kind := by
        rintro rfl
        exact points still
      exact ⟨still, by simp [different, other]⟩

/-- Deleting an address of the book clears the defaults that name it and then takes it away. -/
theorem deleteAddress_of_contains {u : User} {id : AddressId}
    (there : u.book.contains id = true) :
    ∃ cleared v, u.deleteAddress id =
        .ok (v.after (.addressDeleted id), cleared ++ [.addressDeleted id]) ∧
      u.Becomes cleared v ∧ v.Permits (.addressDeleted id) := by
  obtain ⟨cleared, v, result, becomes, book, gone⟩ := foldl_unpoint id AddressKind.all u []
  refine ⟨cleared, v, ?_, becomes, by rw [book]; exact there, ?_⟩
  · simp only [deleteAddress_eq, there, ↓reduceIte, result, List.nil_append, after]
  · intro kind points
    exact (gone kind points).2 kind.mem_all

theorem deleteAddress_of_not_contains {u : User} {id : AddressId}
    (absent : ¬u.book.contains id = true) :
    u.deleteAddress id = .error (.notInBook u.id id) := by
  rw [deleteAddress_eq, if_neg absent]

theorem deleteAddress_becomes {u v : User} {id : AddressId} {changes : List AccountChange}
    (done : u.deleteAddress id = .ok (v, changes)) : u.Becomes changes v := by
  by_cases there : u.book.contains id = true
  · obtain ⟨cleared, w, result, becomes, permits⟩ := deleteAddress_of_contains there
    rw [result] at done
    cases done
    exact becomes.trans (.single permits)
  · rw [deleteAddress_of_not_contains there] at done
    cases done

/-- **The changes of an operation lead from the account before to the account after.** -/
theorem Valid.perform_becomes {u : User} (valid : u.Valid) {op : AccountOp}
    (new : u.MintsNew op) : u.Becomes (u.perform op).2 (u.perform op).1 := by
  cases done : u.apply op with
  | error e =>
    simp only [perform_eq, done]
    exact .refl u
  | ok result =>
    simp only [perform_eq, done]
    cases op with
    | store fresh data kind =>
      cases done
      exact valid.storeAddress_becomes new kind
    | change fresh data kind =>
      cases done
      exact valid.changeDefault_becomes new kind
    | setDefault id kind => exact setDefault_becomes done
    | delete id => exact deleteAddress_becomes done

theorem Valid.performAll_becomes {u : User} (valid : u.Valid) {ops : List AccountOp}
    (new : u.MintsAllNew ops) : u.Becomes (u.performAll ops).2 (u.performAll ops).1 := by
  induction ops generalizing u with
  | nil => exact .refl u
  | cons op ops ih =>
    have first := valid.perform_becomes new.1
    exact first.trans (ih (first.valid valid) new.2)

end Operations

end User

/-- What is kept of an account besides names: the values of its addresses and its defaults. -/
@[ext] structure AccountImage where
  /-- The value of each address. -/
  entry? : AddressId → Option AddressData
  /-- The default of each kind. -/
  default? : AddressKind → Option AddressId

/-- What is kept of an account. -/
def User.image (u : User) : AccountImage where
  entry? := u.book.get?
  default? := u.default?

namespace AccountImage

/-- Writes one change down. -/
def replay (v : AccountImage) : AccountChange → AccountImage
  | .addressCreated address =>
    { v with entry? := Function.update v.entry? address.id (some address.data) }
  | .addressDeleted id => { v with entry? := Function.update v.entry? id none }
  | .defaultSet kind id => { v with default? := Function.update v.default? kind id }

/-- Each default names an address that is there. -/
def Safe (v : AccountImage) : Prop :=
  ∀ kind id, v.default? kind = some id → (v.entry? id).isSome

/-- An address that is added is not there yet, and one that is taken away is there. -/
def Fits (v : AccountImage) : AccountChange → Prop
  | .addressCreated address => v.entry? address.id = none
  | .addressDeleted id => (v.entry? id).isSome
  | .defaultSet _ _ => True

end AccountImage

namespace User

/-- Writing a change down keeps what is kept in step with the account. -/
theorem image_after (u : User) (c : AccountChange) : (u.after c).image = u.image.replay c := by
  cases c with
  | addressCreated address =>
    refine AccountImage.ext (funext fun id => ?_) rfl
    simp [image, AccountImage.replay, User.after, AddressBook.get?_record, Function.update_apply]
  | addressDeleted gone =>
    refine AccountImage.ext (funext fun id => ?_) rfl
    simp [image, AccountImage.replay, User.after, AddressBook.get?_remove, Function.update_apply]
  | defaultSet kind target =>
    refine AccountImage.ext ?_ (funext fun kind' => ?_)
    · simp [image, AccountImage.replay, User.after]
    · simp [image, AccountImage.replay, User.after, default?_withDefault, Function.update_apply]

theorem Valid.image_safe {u : User} (valid : u.Valid) : u.image.Safe :=
  fun _ _ points => valid.default_mem points

theorem Permits.fits {u : User} {c : AccountChange} (permits : u.Permits c) : u.image.Fits c := by
  cases c with
  | addressCreated address => exact permits.2
  | addressDeleted id => exact permits.1
  | defaultSet kind id => trivial

/-- A permitted change is not idle. -/
theorem Permits.replay_ne {u : User} {c : AccountChange} (permits : u.Permits c) :
    u.image.replay c ≠ u.image := by
  intro idle
  cases c with
  | addressCreated address =>
    have same := congrFun (congrArg AccountImage.entry? idle) address.id
    simp [AccountImage.replay, image, permits.2] at same
  | addressDeleted id =>
    have same := congrFun (congrArg AccountImage.entry? idle) id
    have there := permits.1
    simp only [AccountImage.replay, image, Function.update_self] at same
    simp [AddressBook.contains, ← same] at there
  | defaultSet kind id =>
    have same := congrFun (congrArg AccountImage.default? idle) kind
    simp only [AccountImage.replay, image, Function.update_self] at same
    exact permits.1 same.symm

theorem Becomes.replay {u v : User} {changes : List AccountChange}
    (becomes : Becomes u changes v) : changes.foldl AccountImage.replay u.image = v.image := by
  induction becomes with
  | refl => rfl
  | step _ _ ih => rw [List.foldl_cons, ← image_after, ih]

/-- At every point of a replay no default dangles, and the next change fits and is not idle. -/
theorem Becomes.replay_prefix {u v : User} {changes : List AccountChange}
    (becomes : Becomes u changes v) (valid : u.Valid) {before rest : List AccountChange}
    (split : changes = before ++ rest) :
    (before.foldl AccountImage.replay u.image).Safe ∧
      ∀ c ∈ rest.head?, (before.foldl AccountImage.replay u.image).Fits c ∧
        (before.foldl AccountImage.replay u.image).replay c ≠
          before.foldl AccountImage.replay u.image := by
  induction becomes generalizing before with
  | refl u =>
    obtain ⟨rfl, rfl⟩ := List.append_eq_nil_iff.1 split.symm
    exact ⟨valid.image_safe, nofun⟩
  | @step u v c changes permits _ ih =>
    cases before with
    | nil =>
      refine ⟨valid.image_safe, ?_⟩
      intro next here
      rw [List.nil_append] at split
      rw [← split] at here
      cases Option.some.inj here
      exact ⟨permits.fits, permits.replay_ne⟩
    | cons first before =>
      obtain ⟨rfl, later⟩ := List.cons.inj split
      rw [List.foldl_cons, ← image_after]
      exact ih (valid.after permits) later

theorem Becomes.eq_of_nil {u v : User} (becomes : Becomes u [] v) : v = u := by
  cases becomes
  rfl

/-- A list of at most one change is empty if nothing comes of it. -/
theorem Becomes.nil_of_image_eq {u v : User} {changes : List AccountChange}
    (becomes : Becomes u changes v) (short : changes.length ≤ 1) (same : v.image = u.image) :
    changes = [] := by
  cases becomes with
  | refl => rfl
  | @step _ _ c rest permits becomes =>
    have none : rest = [] := List.eq_nil_of_length_eq_zero (by simpa using short)
    subst none
    rw [becomes.eq_of_nil, image_after] at same
    exact (permits.replay_ne same).elim

theorem length_pointAt_le (u : User) (kind : AddressKind) (id : AddressId) :
    (u.pointAt kind id).2.length ≤ 1 := by
  unfold pointAt
  split <;> simp

theorem book_pointAt (u : User) (kind : AddressKind) (id : AddressId) :
    (u.pointAt kind id).1.book = u.book := by
  unfold pointAt
  split <;> simp

/-- An insertion with at most one change after it, of a default, reports nothing only if nothing
comes of it. -/
theorem Valid.nil_of_insert_image_eq {u v : User} {fresh : AddressId} {data : AddressData}
    (new : u.book.MintsNew (.getOrInsert fresh data.normalized)) {more : List AccountChange}
    (becomes : (u.insert fresh data).1.Becomes more v) (short : more.length ≤ 1)
    (book : v.book = (u.insert fresh data).1.book) (same : v.image = u.image) :
    (u.insert fresh data).2.2.2 ++ more = [] := by
  cases found : u.book.find? data.normalized with
  | some id =>
    rw [insert_of_find? found] at becomes ⊢
    exact becomes.nil_of_image_eq short same
  | none =>
    have kept := congrFun (congrArg AccountImage.entry? same) fresh
    rw [insert_of_missing found] at book
    simp [image, book, User.after, AddressBook.get?_record, new found] at kept

/-- An operation reports no change exactly if what is kept of the account stays the same. -/
theorem Valid.perform_eq_nil_iff {u : User} (valid : u.Valid) {op : AccountOp}
    (new : u.MintsNew op) : (u.perform op).2 = [] ↔ (u.perform op).1.image = u.image := by
  have becomes := valid.perform_becomes new
  constructor
  · intro nothing
    rw [nothing] at becomes
    rw [becomes.eq_of_nil]
  · intro same
    cases op with
    | store fresh data kind =>
      obtain ⟨user, changes⟩ := storeAddress_eq_pointAt u fresh data kind
      obtain ⟨-, there⟩ := valid.insert_becomes new
      change (u.storeAddress fresh data kind).user.image = u.image at same
      change (u.storeAddress fresh data kind).changes = []
      rw [user] at same
      rw [changes]
      refine nil_of_insert_image_eq new ?_ ?_ ?_ same
      · split
        next => exact pointAt_becomes there kind
        next => exact .refl _
      · split
        next => exact length_pointAt_le ..
        next => simp
      · split
        next => exact book_pointAt ..
        next => rfl
    | change fresh data kind =>
      obtain ⟨-, there⟩ := valid.insert_becomes new
      exact nil_of_insert_image_eq new (pointAt_becomes there kind) (length_pointAt_le ..)
        (book_pointAt ..) same
    | setDefault id kind =>
      refine becomes.nil_of_image_eq ?_ same
      rw [perform_eq, apply_setDefault, setDefault_eq]
      by_cases there : u.book.contains id = true
      · simpa only [there, ↓reduceIte] using length_pointAt_le u kind id
      · simp [there]
    | delete id =>
      by_cases there : u.book.contains id = true
      · obtain ⟨cleared, v, done, -, -⟩ := deleteAddress_of_contains there
        have kept := congrFun (congrArg AccountImage.entry? same) id
        simp only [perform_eq, apply_delete, done, image, User.after, AddressBook.get?_remove,
          ↓reduceIte] at kept
        simp [AddressBook.contains, ← kept] at there
      · simp only [perform_eq, apply_delete, deleteAddress_of_not_contains there]

/-- **The list of an account's changes is exact, safe and without idle changes.** For every
operation on a valid account, replaying the list on what was kept of the account gives what is to
be kept of it; at every point of the replay no default dangles, an address that is added is not
there yet, one that is taken away is there, and the next change alters something. The list is
empty exactly if the account stays as it was. So the lists of any run, one after the other,
rebuild its final state. -/
theorem changes_rebuild_account (u : User) (valid : u.Valid) :
    (∀ op, u.MintsNew op →
      (u.perform op).2.foldl AccountImage.replay u.image = (u.perform op).1.image ∧
      (∀ before rest, (u.perform op).2 = before ++ rest →
        let v := before.foldl AccountImage.replay u.image
        v.Safe ∧ ∀ c ∈ rest.head?, v.Fits c ∧ v.replay c ≠ v) ∧
      ((u.perform op).2 = [] ↔ (u.perform op).1 = u) ∧
      ((u.perform op).2 = [] ↔ (u.perform op).1.image = u.image)) ∧
    ∀ ops, u.MintsAllNew ops →
      (u.performAll ops).2.foldl AccountImage.replay u.image = (u.performAll ops).1.image := by
  constructor
  · intro op new
    have becomes := valid.perform_becomes new
    have idle := valid.perform_eq_nil_iff new
    refine ⟨becomes.replay, fun before rest => becomes.replay_prefix valid, ?_, idle⟩
    constructor
    · intro nothing
      rw [nothing] at becomes
      exact becomes.eq_of_nil
    · intro same
      exact idle.2 (congrArg image same)
  · intro ops new
    exact (valid.performAll_becomes new).replay

/-- An address that is the default of both kinds and has a twin goes; then its value is stored again
with blanks around it, and both defaults move to a new address and back. -/
theorem changes_rebuild_account_with_twins :
    let home : AddressData := { city := "Oslo" }
    let first : AddressId := ⟨1, by decide⟩
    let book := AddressBook.ofAddresses [⟨first, home⟩, ⟨⟨2, by decide⟩, home⟩]
    let u : User := { id := ⟨1⟩, book, billing := some first, shipping := some first }
    let ops : List AccountOp := [.delete first,
      .store ⟨3, by decide⟩ { city := " Oslo " } .billing,
      .change first { city := "Bergen" } .shipping, .setDefault first .billing,
      .setDefault ⟨3, by decide⟩ .billing]
    u.Valid ∧ u.MintsAllNew ops ∧
      ((u.perform (.delete first)).2 = [] ↔ (u.perform (.delete first)).1 = u) ∧
      (u.performAll ops).2.foldl AccountImage.replay u.image = (u.performAll ops).1.image := by
  intro home first book u ops
  have valid : u.Valid := {
    indexed := AddressBook.indexed_ofAddresses (by decide)
    default_mem := by
      intro kind id points
      cases kind <;> cases points <;> decide }
  have new : u.MintsAllNew ops := by decide +kernel
  obtain ⟨each, all⟩ := changes_rebuild_account u valid
  exact ⟨valid, new, (each _ new.1).2.2.1, all ops new⟩

end User

end BackOffice
