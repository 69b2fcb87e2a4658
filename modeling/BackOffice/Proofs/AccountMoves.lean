import BackOffice.Proofs.AccountInvariant

/-!
# What moves in an account

An operation moves a default only where it asks for this (`User.Moves`) and adds an address only
where it reports a new one (`User.Creates`); all else in the account stays as it is. So along a run
of operations an address keeps its value until it is deleted, a default stays where it is until an
operation of its own kind moves it or its address goes, and one that is set is unset only together
with its address (`User.account_changes_as_asked`).
-/

namespace BackOffice

namespace AccountOp

/-- The kind of default that an operation is about; a deletion is about no kind. -/
def kind? : AccountOp → Option AddressKind
  | .store _ _ kind | .change _ _ kind | .setDefault _ kind => some kind
  | .delete _ => none

/-- The operation can move a default of a kind while it names an address. -/
def Touches (kind : AddressKind) (a : AddressId) : AccountOp → Prop
  | .store _ _ _ => False
  | .change _ _ kind' | .setDefault _ kind' => kind' = kind
  | .delete a' => a' = a

end AccountOp

namespace User

/-- The operation asks for the default of a kind to name `target`, and is not refused. -/
inductive Moves (u : User) (kind : AddressKind) : AccountOp → Option AddressId → Prop
  /-- An address is stored while there is no default. -/
  | stored (fresh : AddressId) (data : AddressData) (unset : u.default? kind = none) :
    Moves u kind (.store fresh data kind) (some (u.storeAddress fresh data kind).address)
  | changed (fresh : AddressId) (data : AddressData) :
    Moves u kind (.change fresh data kind) (some (u.changeDefault fresh data kind).address)
  | set (a : AddressId) (there : u.book.contains a = true) :
    Moves u kind (.setDefault a kind) (some a)
  /-- The address goes that the default names. -/
  | deleted (a : AddressId) (names : u.default? kind = some a)
    (there : u.book.contains a = true) : Moves u kind (.delete a) none

/-- The operation returns the identifier of a new address, which has this value. -/
inductive Creates (u : User) : AccountOp → AddressId → AddressData → Prop
  | stored (fresh : AddressId) (data : AddressData) (kind : AddressKind)
    (created : (u.storeAddress fresh data kind).created = true) :
    Creates u (.store fresh data kind) (u.storeAddress fresh data kind).address data.normalized
  | changed (fresh : AddressId) (data : AddressData) (kind : AddressKind)
    (created : (u.changeDefault fresh data kind).created = true) :
    Creates u (.change fresh data kind) (u.changeDefault fresh data kind).address data.normalized

section Defaults

variable (u : User) (fresh a : AddressId) (data : AddressData) (kind kind' : AddressKind)

theorem default?_insert : (u.insert fresh data).1.default? kind = u.default? kind := by
  cases kind <;> rfl

theorem default?_pointAt :
    (u.pointAt kind a).1.default? kind' = if kind' = kind then some a else u.default? kind' := by
  unfold pointAt
  split
  next names =>
    split
    next same => rw [same, names]
    next => rfl
  next => exact default?_withDefault u kind (some a) kind'

/-- Storing an address sets the default of its kind if there is none. -/
theorem default?_storeAddress :
    (u.storeAddress fresh data kind).user.default? kind' =
      if kind' = kind ∧ u.default? kind = none then some (u.storeAddress fresh data kind).address
      else u.default? kind' := by
  have address : (u.storeAddress fresh data kind).address = (u.insert fresh data).2.1 :=
    (u.book_storeAddress fresh data kind).2
  rw [(storeAddress_eq_pointAt u fresh data kind).1, address]
  simp only [default?_insert, Option.isNone_iff_eq_none]
  by_cases unset : u.default? kind = none
  · simp only [unset, ↓reduceIte, default?_pointAt, default?_insert, and_true]
  · simp only [unset, ↓reduceIte, default?_insert, and_false]

theorem default?_changeDefault :
    (u.changeDefault fresh data kind).user.default? kind' =
      if kind' = kind then some (u.changeDefault fresh data kind).address
      else u.default? kind' := by
  have pointed := default?_pointAt (u.insert fresh data).1 (u.insert fresh data).2.1 kind kind'
  rwa [default?_insert] at pointed

/-- Clearing the defaults of some kinds that name an address leaves all other defaults. -/
theorem default?_foldl_unpoint (kinds : List AddressKind) (before : List AccountChange) :
    (kinds.foldl (unpoint a) (u, before)).1.default? kind =
      if kind ∈ kinds ∧ u.default? kind = some a then none else u.default? kind := by
  induction kinds generalizing u before with
  | nil => simp
  | cons first kinds ih =>
    by_cases points : u.default? first = some a
    · have cleared : unpoint a (u, before) first =
          (u.withDefault first none, before ++ [.defaultSet first none]) := if_pos points
      rw [List.foldl_cons, cleared, ih, default?_withDefault]
      by_cases same : kind = first
      · simp [same, points]
      · simp [same]
    · have kept : unpoint a (u, before) first = (u, before) := if_neg points
      rw [List.foldl_cons, kept, ih]
      by_cases same : kind = first
      · simp [same, points]
      · simp [same]

theorem default?_delete :
    (u.perform (.delete a)).1.default? kind =
      if u.default? kind = some a ∧ u.book.contains a = true then none else u.default? kind := by
  by_cases there : u.book.contains a = true
  · have cleared := default?_foldl_unpoint u a kind AddressKind.all []
    simp only [kind.mem_all, true_and] at cleared
    simp only [perform_eq, apply_delete, deleteAddress_eq, there, ↓reduceIte, and_true]
    rw [← cleared]
    cases kind <;> rfl
  · have refused : u.apply (.delete a) = .error (.notInBook u.id a) :=
      deleteAddress_of_not_contains there
    rw [perform_of_error refused, if_neg fun both => there both.2]

theorem default?_set :
    (u.perform (.setDefault a kind)).1.default? kind' =
      if kind' = kind ∧ u.book.contains a = true then some a else u.default? kind' := by
  by_cases there : u.book.contains a = true
  · simp only [perform_eq, apply_setDefault, setDefault_eq, there, ↓reduceIte, and_true]
    exact default?_pointAt u a kind kind'
  · have refused : u.apply (.setDefault a kind) = .error (.notInBook u.id a) :=
      setDefault_eq_error_iff.2 ⟨Bool.eq_false_iff.2 there, rfl⟩
    rw [perform_of_error refused, if_neg fun both => there both.2]

end Defaults

variable {u : User} {op : AccountOp} {kind : AddressKind} {target : Option AddressId}
  {a id : AddressId} {d : AddressData}

/-- A default that an operation asks to move is moved. -/
theorem Moves.default? (moves : u.Moves kind op target) :
    (u.perform op).1.default? kind = target := by
  cases moves with
  | stored fresh data unset =>
    exact (default?_storeAddress u fresh data kind kind).trans (if_pos ⟨rfl, unset⟩)
  | changed fresh data =>
    exact (default?_changeDefault u fresh data kind kind).trans (if_pos rfl)
  | set a there => rw [default?_set, if_pos ⟨rfl, there⟩]
  | deleted a names there => rw [default?_delete, if_pos ⟨names, there⟩]

/-- All other defaults stay where they are. -/
theorem default?_perform_of_still (still : ∀ target, ¬u.Moves kind op target) :
    (u.perform op).1.default? kind = u.default? kind := by
  cases op with
  | store fresh data kind' =>
    refine (default?_storeAddress u fresh data kind' kind).trans (if_neg ?_)
    rintro ⟨rfl, unset⟩
    exact still _ (.stored fresh data unset)
  | change fresh data kind' =>
    refine (default?_changeDefault u fresh data kind' kind).trans (if_neg ?_)
    rintro rfl
    exact still _ (.changed fresh data)
  | setDefault a kind' =>
    rw [default?_set, if_neg]
    rintro ⟨rfl, there⟩
    exact still _ (.set a there)
  | delete a =>
    rw [default?_delete, if_neg]
    rintro ⟨names, there⟩
    exact still _ (.deleted a names there)

/-- A default that moves away from where it was has been asked to. -/
theorem moves_of_ne (moved : (u.perform op).1.default? kind ≠ u.default? kind) :
    u.Moves kind op ((u.perform op).1.default? kind) := by
  by_contra still
  apply moved
  apply default?_perform_of_still
  intro target moves
  rw [moves.default?] at still
  exact still moves

/-- A default that is set is unset only by the deletion of the address that it names. -/
theorem eq_delete_of_unset (set : u.default? kind = some a)
    (unset : (u.perform op).1.default? kind = none) : op = .delete a := by
  have moved : (u.perform op).1.default? kind ≠ u.default? kind := by
    rw [set, unset]
    exact nofun
  have moves := moves_of_ne moved
  rw [unset] at moves
  cases moves with
  | deleted a' names there => rw [Option.some.inj (set.symm.trans names)]

section Entries

theorem created_storeAddress (u : User) (fresh : AddressId) (data : AddressData)
    (kind : AddressKind) :
    (u.storeAddress fresh data kind).created = (u.book.getOrInsert fresh data.normalized).2.2 := by
  unfold storeAddress
  dsimp only
  split <;> rfl

theorem created_changeDefault (u : User) (fresh : AddressId) (data : AddressData)
    (kind : AddressKind) :
    (u.changeDefault fresh data kind).created =
      (u.book.getOrInsert fresh data.normalized).2.2 := rfl

/-- What an insertion reports as created is new to the book and is there afterwards. -/
theorem get?_of_created {b : AddressBook} {fresh : AddressId}
    (new : b.MintsNew (.getOrInsert fresh d)) (created : (b.getOrInsert fresh d).2.2 = true) :
    b.get? (b.getOrInsert fresh d).2.1 = none ∧
      (b.getOrInsert fresh d).1.get? (b.getOrInsert fresh d).2.1 = some d := by
  have missing := (b.getOrInsert_created fresh d).1 created
  rw [AddressBook.getOrInsert_of_missing missing]
  exact ⟨new missing, by rw [AddressBook.get?_record, if_pos rfl]⟩

/-- Whatever is in the book after an insertion was there before or is reported as created. -/
theorem get?_getOrInsert_cases {b : AddressBook} {fresh : AddressId} {e : AddressData}
    (there : (b.getOrInsert fresh e).1.get? id = some d) :
    b.get? id = some d ∨
      (b.getOrInsert fresh e).2 = (id, true) ∧ d = e := by
  cases found : b.find? e with
  | some other =>
    rw [AddressBook.getOrInsert_of_find? found] at there
    exact .inl there
  | none =>
    rw [AddressBook.getOrInsert_of_missing found] at there ⊢
    rw [AddressBook.get?_record] at there
    split at there
    next same => exact .inr ⟨by rw [same], (Option.some.inj there).symm⟩
    next => exact .inl there

/-- An address enters the book exactly if an operation reports it as created. -/
theorem creates_iff (new : u.MintsNew op) :
    u.Creates op id d ↔ u.book.get? id = none ∧ (u.perform op).1.book.get? id = some d := by
  constructor
  · intro creates
    cases creates with
    | stored fresh data kind created =>
      obtain ⟨book, address⟩ := u.book_storeAddress fresh data kind
      rw [created_storeAddress] at created
      rw [address]
      change _ ∧ (u.storeAddress fresh data kind).user.book.get? _ = _
      rw [book]
      exact get?_of_created new created
    | changed fresh data kind created =>
      obtain ⟨book, address⟩ := u.book_changeDefault fresh data kind
      rw [created_changeDefault] at created
      rw [address]
      change _ ∧ (u.changeDefault fresh data kind).user.book.get? _ = _
      rw [book]
      exact get?_of_created new created
  · rintro ⟨absent, there⟩
    rw [book_perform] at there
    cases op with
    | store fresh data kind =>
      rcases get?_getOrInsert_cases there with before | ⟨created, rfl⟩
      · rw [absent] at before
        cases before
      · have stored := Creates.stored (u := u) fresh data kind (by
          rw [created_storeAddress, created])
        rwa [(u.book_storeAddress fresh data kind).2, created] at stored
    | change fresh data kind =>
      rcases get?_getOrInsert_cases there with before | ⟨created, rfl⟩
      · rw [absent] at before
        cases before
      · have changed := Creates.changed (u := u) fresh data kind (by
          rw [created_changeDefault, created])
        rwa [(u.book_changeDefault fresh data kind).2, created] at changed
    | setDefault a kind =>
      have before : u.book.get? id = some d := there
      rw [absent] at before
      cases before
    | delete a =>
      have left : (u.book.remove a).1.get? id = some d := there
      rw [AddressBook.get?_remove] at left
      split at left
      next => cases left
      next =>
        rw [absent] at left
        cases left

/-- An address that is not deleted keeps its value. -/
theorem get?_perform_of_ne (new : u.MintsNew op) (there : u.book.get? id = some d)
    (other : op ≠ .delete id) : (u.perform op).1.book.get? id = some d := by
  rw [book_perform]
  cases op with
  | store fresh data kind | change fresh data kind =>
    refine (u.book.get?_getOrInsert fresh data.normalized id).trans ?_
    rw [if_neg, there]
    rintro ⟨missing, rfl⟩
    have absent := new missing
    rw [there] at absent
    cases absent
  | setDefault a kind => exact there
  | delete a =>
    refine (u.book.get?_remove a id).trans ?_
    rw [if_neg, there]
    rintro rfl
    exact other rfl

theorem get?_delete (u : User) (id : AddressId) :
    (u.perform (.delete id)).1.book.get? id = none := by
  rw [book_perform]
  exact (u.book.get?_remove id id).trans (if_pos rfl)

end Entries

section Runs

theorem mintsAllNew_append {first second : List AccountOp} :
    u.MintsAllNew (first ++ second) ↔
      u.MintsAllNew first ∧ (u.performAll first).1.MintsAllNew second := by
  induction first generalizing u with
  | nil => exact (iff_of_eq (true_and _)).symm
  | cons op first ih => exact (and_congr_right fun _ => ih).trans and_assoc.symm

/-- Along a run an address keeps its value as long as it is not deleted. -/
theorem get?_performAll_of_not_mem {ops : List AccountOp} (new : u.MintsAllNew ops)
    (there : u.book.get? id = some d) (kept : .delete id ∉ ops) :
    (u.performAll ops).1.book.get? id = some d := by
  induction ops generalizing u with
  | nil => exact there
  | cons op ops ih =>
    obtain ⟨other, later⟩ := not_or.1 (mt List.mem_cons.2 kept)
    exact ih new.2 (get?_perform_of_ne new.1 there (Ne.symm other)) later

/-- Along a run a default that is set stays where it is as long as nothing touches it. -/
theorem default?_performAll_of_untouched {ops : List AccountOp} (set : u.default? kind = some a)
    (untouched : ∀ op ∈ ops, ¬op.Touches kind a) :
    (u.performAll ops).1.default? kind = some a := by
  induction ops generalizing u with
  | nil => exact set
  | cons op ops ih =>
    refine ih ?_ fun op' later => untouched op' (List.mem_cons_of_mem _ later)
    rw [← set]
    apply default?_perform_of_still
    intro target moves
    apply untouched op List.mem_cons_self
    cases moves with
    | stored fresh data unset =>
      rw [set] at unset
      cases unset
    | changed fresh data => rfl
    | set a' there => rfl
    | deleted a' names there => exact Option.some.inj (names.symm.trans set)

/-- A default that is set at first and unset in the end was unset at a point of the run where the
address went that it named by then. -/
theorem exists_delete_of_unset {ops : List AccountOp} (set : (u.default? kind).isSome)
    (unset : (u.performAll ops).1.default? kind = none) :
    ∃ front a back, ops = front ++ .delete a :: back ∧
      (u.performAll front).1.default? kind = some a := by
  induction ops generalizing u with
  | nil =>
    have still : u.default? kind = none := unset
    rw [still] at set
    cases set
  | cons op ops ih =>
    obtain ⟨a, names⟩ := Option.isSome_iff_exists.1 set
    cases next : (u.perform op).1.default? kind with
    | none =>
      obtain rfl := eq_delete_of_unset names next
      exact ⟨[], a, ops, rfl, names⟩
    | some a' =>
      obtain ⟨front, a'', back, split, named⟩ := ih (by rw [next]; rfl) unset
      exact ⟨op :: front, a'', back, by rw [split]; rfl, named⟩

end Runs

/-- An operation on the default of one kind never moves that of another. -/
theorem default?_perform_of_other_kind {kind' : AddressKind} (about : op.kind? = some kind')
    (other : kind' ≠ kind) : (u.perform op).1.default? kind = u.default? kind := by
  apply default?_perform_of_still
  intro target moves
  cases moves with
  | deleted a names there => cases about
  | _ => exact other (Option.some.inj about).symm

/-- **Defaults and addresses change only as asked.** At every point of a run, whatever account it
began with, the next operation moves the default of a kind if it asks for this, and then to where
it asks, and it leaves every other default where it is; so it never moves the default of a kind that
it is not about, and it unsets a default only by deleting the address that this names. An address
enters the book exactly if the operation reports it as created, under the identifier and with the
value that it reports, keeps its value as long as it is there, and leaves only by its deletion. A
refused operation moves nothing. So over every stretch of a run an address that is not deleted
keeps its value, a default that nothing touches stays where it is, and one that is unset in the end
lost the address that it named by then. -/
theorem account_changes_as_asked (u : User) (ops : List AccountOp) (new : u.MintsAllNew ops) :
    (∀ before op after, ops = before ++ op :: after →
      let v := (u.performAll before).1
      let w := (v.perform op).1
      (∀ kind, (∀ target, v.Moves kind op target → w.default? kind = target) ∧
        ((∀ target, ¬v.Moves kind op target) → w.default? kind = v.default? kind)) ∧
      (∀ kind kind', op.kind? = some kind' → kind' ≠ kind →
        w.default? kind = v.default? kind) ∧
      (∀ kind a, v.default? kind = some a → w.default? kind = none → op = .delete a) ∧
      (∀ id d, v.Creates op id d ↔ v.book.get? id = none ∧ w.book.get? id = some d) ∧
      (∀ id d, v.book.get? id = some d →
        (w.book.get? id = none ↔ op = .delete id) ∧ ∀ e, w.book.get? id = some e → e = d) ∧
      ∀ e, v.apply op = .error e → w = v) ∧
    ∀ before middle after, ops = before ++ (middle ++ after) →
      let v := (u.performAll before).1
      let w := (v.performAll middle).1
      (∀ id d, v.book.get? id = some d → .delete id ∉ middle → w.book.get? id = some d) ∧
      (∀ kind a, v.default? kind = some a → (∀ op ∈ middle, ¬op.Touches kind a) →
        w.default? kind = some a) ∧
      ∀ kind, (v.default? kind).isSome → w.default? kind = none →
        ∃ front a back, middle = front ++ .delete a :: back ∧
          (v.performAll front).1.default? kind = some a := by
  constructor
  · intro before op after split v w
    rw [split, mintsAllNew_append] at new
    have mints : v.MintsNew op := new.2.1
    refine ⟨fun kind => ⟨fun target => Moves.default?, default?_perform_of_still⟩,
      fun kind kind' => default?_perform_of_other_kind, fun kind a => eq_delete_of_unset,
      fun id d => creates_iff mints, ?_, ?_⟩
    · intro id d there
      by_cases gone : op = .delete id
      · have left : w.book.get? id = none := by
          rw [← v.get?_delete id, ← gone]
        rw [left]
        exact ⟨iff_of_true rfl gone, nofun⟩
      · have kept : w.book.get? id = some d := get?_perform_of_ne mints there gone
        rw [kept]
        exact ⟨iff_of_false nofun gone, fun e same => (Option.some.inj same).symm⟩
    · intro e refused
      have kept : v.perform op = (v, []) := perform_of_error refused
      exact (congrArg Prod.fst kept).trans rfl
  · intro before middle after split v w
    rw [split, mintsAllNew_append, mintsAllNew_append] at new
    exact ⟨fun id d => get?_performAll_of_not_mem new.2.1,
      fun kind a => default?_performAll_of_untouched, fun kind => exists_delete_of_unset⟩

/-- An address is stored and becomes the default for billing, a new one takes its place, the first
becomes the default for shipping and then goes; the default for billing stays throughout the
rest. -/
theorem account_changes_as_asked_for_one :
    let first : AddressId := ⟨1, by decide⟩
    let second : AddressId := ⟨2, by decide⟩
    let u : User := { id := ⟨1⟩ }
    let before : List AccountOp := [.store first { city := "Oslo" } .billing,
      .change second { city := "Bergen" } .billing]
    let middle : List AccountOp := [.setDefault first .shipping,
      .store ⟨3, by decide⟩ { city := " Bergen" } .shipping]
    let v := (u.performAll before).1
    u.MintsAllNew (before ++ (middle ++ [.delete first])) ∧
      v.default? .billing = some second ∧ v.book.get? first = some { city := "Oslo" } ∧
      (v.performAll middle).1.default? .billing = some second ∧
      (v.performAll middle).1.book.get? first = some { city := "Oslo" } ∧
      ((u.performAll (before ++ middle)).1.perform (.delete first)).1.default? .shipping =
        none := by
  intro first second u before middle v
  have new : u.MintsAllNew (before ++ (middle ++ [.delete first])) := by decide +kernel
  have set : v.default? .billing = some second := by decide +kernel
  have there : v.book.get? first = some { city := "Oslo" } := by decide +kernel
  obtain ⟨steps, stretches⟩ :=
    account_changes_as_asked u (before ++ (middle ++ [.delete first])) new
  obtain ⟨values, defaults, -⟩ := stretches before middle [.delete first] rfl
  obtain ⟨moves, -⟩ := steps (before ++ middle) (.delete first) [] rfl
  have untouched : ∀ op ∈ middle, ¬op.Touches .billing second := by
    intro op member
    rcases List.mem_cons.1 member with rfl | member
    · exact nofun
    · rw [List.mem_singleton.1 member]
      exact fun touches => touches
  refine ⟨new, set, there, defaults .billing second set untouched,
    values first _ there (by decide +kernel), (moves .shipping).1 none ?_⟩
  exact .deleted first (by decide +kernel) (by decide +kernel)

end User

end BackOffice
