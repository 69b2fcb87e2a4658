import BackOffice.Proofs.AccountMoves

/-!
# Names to show

Each part of the name to show is a user's own or, where that is empty, the one on the default
address for billing. So the name depends on the user's names and on that address alone
(`User.displayName_congr`). No operation changes the user's names, and most of them leave the
default address for billing what it is (`User.SparesBilling`); along a run of these the name to show
stays (`User.displayName_performAll_of_spared`).
-/

namespace BackOffice

/-- The parts that are there, with single spaces between them. -/
theorem DisplayName.fullName?_eq (n : DisplayName) :
    n.fullName? =
      if n.first = none ∧ n.last = none then none
      else some (" ".intercalate [n.first, n.last].reduceOption) := by
  obtain ⟨first, last⟩ := n
  cases first <;> cases last <;> rfl

namespace User

section Parts

variable {own s : String} {fallback : Option String}

theorem nameOr_eq_some_iff :
    nameOr own fallback = some s ↔
      own ≠ "" ∧ s = own ∨ own = "" ∧ s ≠ "" ∧ fallback = some s := by
  unfold nameOr
  split
  next given => simp [given, eq_comm]
  next none =>
    rw [Option.filter_eq_some_iff, decide_eq_true_eq]
    simp only [not_not.1 none, ne_eq, not_true, false_and, true_and, false_or]
    exact and_comm

theorem nameOr_ne_empty : nameOr own fallback ≠ some "" := by
  intro empty
  rcases nameOr_eq_some_iff.1 empty with ⟨given, rfl⟩ | ⟨-, visible, -⟩
  · exact given rfl
  · exact visible rfl

end Parts

variable {u v : User} {op : AccountOp} {kind : AddressKind} {d : AddressData}

/-- With no names of its own, a user is shown as the address names its recipient. -/
theorem fullName?_displayName_of_unnamed (first : u.firstName = "") (last : u.lastName = "")
    (billing : u.defaultAddress? .billing = some d) :
    u.displayName.fullName? = d.fullName? := by
  have part (name : String) : nameOr "" (some name) = if name = "" then none else some name := by
    by_cases empty : name = "" <;> simp [nameOr, empty]
  simp only [displayName, first, last, billing, Option.map_some, part, AddressData.fullName?]
  by_cases first : d.firstName = "" <;> by_cases last : d.lastName = "" <;>
    simp [DisplayName.fullName?, first, last]

theorem displayName_congr (first : v.firstName = u.firstName) (last : v.lastName = u.lastName)
    (billing : v.defaultAddress? .billing = u.defaultAddress? .billing) :
    v.displayName = u.displayName := by
  rw [displayName, displayName, first, last, billing]

section Steps

/-- No change of an account is one of the user's names. -/
theorem Becomes.names {changes : List AccountChange} (becomes : u.Becomes changes v) :
    v.firstName = u.firstName ∧ v.lastName = u.lastName := by
  induction becomes with
  | refl => exact ⟨rfl, rfl⟩
  | @step u _ c _ _ _ ih =>
    have same : (u.after c).firstName = u.firstName ∧ (u.after c).lastName = u.lastName := by
      cases c with
      | addressCreated _ | addressDeleted _ => exact ⟨rfl, rfl⟩
      | defaultSet kind _ => cases kind <;> exact ⟨rfl, rfl⟩
    exact ⟨ih.1.trans same.1, ih.2.trans same.2⟩

/-- Where a default stays, the address that it names stays what it is. -/
theorem Valid.defaultAddress?_perform_of_still (valid : u.Valid) (new : u.MintsNew op)
    (still : ∀ target, ¬u.Moves kind op target) :
    (u.perform op).1.defaultAddress? kind = u.defaultAddress? kind := by
  rw [defaultAddress?, defaultAddress?, default?_perform_of_still still]
  cases names : u.default? kind with
  | none => rfl
  | some a =>
    have there := valid.default_mem names
    obtain ⟨d, here⟩ := Option.isSome_iff_exists.1 there
    have kept : op ≠ .delete a := by
      rintro rfl
      exact still none (.deleted a names there)
    rw [Option.bind_some, Option.bind_some, here]
    exact get?_perform_of_ne new here kept

/-- Operations that leave the default address for billing what it is. -/
inductive SparesBilling (u : User) : AccountOp → Prop
  | shipping {op : AccountOp} (about : op.kind? = some .shipping) : SparesBilling u op
  /-- An address is stored while there is a default. -/
  | stored (fresh : AddressId) (data : AddressData) (set : u.default? .billing ≠ none) :
    SparesBilling u (.store fresh data .billing)
  | refused {op : AccountOp} {e : AccountError} (refused : u.apply op = .error e) :
    SparesBilling u op
  /-- Another address goes. -/
  | deleted (a : AddressId) (other : u.default? .billing ≠ some a) : SparesBilling u (.delete a)

/-- Every operation of a run leaves the default address for billing what it is by then. -/
def SparesBillingAll (u : User) : List AccountOp → Prop
  | [] => True
  | op :: ops => u.SparesBilling op ∧ (u.perform op).1.SparesBillingAll ops

theorem SparesBilling.still (spares : u.SparesBilling op) (target : Option AddressId) :
    ¬u.Moves .billing op target := by
  intro moves
  cases spares with
  | shipping about => cases moves <;> cases about
  | stored fresh data set =>
    cases moves with
    | stored _ _ unset => exact set unset
  | refused refused =>
    obtain ⟨a, which, absent, -⟩ := apply_eq_error_iff.1 refused
    -- What names an address and moves a default finds the address in the book.
    rcases which with rfl | ⟨kind, rfl⟩
    · cases moves with
      | deleted _ _ there => exact Bool.false_ne_true (absent.symm.trans there)
    · cases moves with
      | set _ there => exact Bool.false_ne_true (absent.symm.trans there)
  | deleted a other =>
    cases moves with
    | deleted _ names _ => exact other names

theorem Valid.displayName_perform (valid : u.Valid) (new : u.MintsNew op)
    (spares : u.SparesBilling op) : (u.perform op).1.displayName = u.displayName := by
  obtain ⟨first, last⟩ := (valid.perform_becomes new).names
  exact displayName_congr first last (valid.defaultAddress?_perform_of_still new spares.still)

/-- Along a run of operations that spare the default address for billing the name to show stays. -/
theorem Valid.displayName_performAll_of_spared {ops : List AccountOp} (valid : u.Valid)
    (new : u.MintsAllNew ops) (spares : u.SparesBillingAll ops) :
    (u.performAll ops).1.displayName = u.displayName := by
  induction ops generalizing u with
  | nil => rfl
  | cons op ops ih =>
    have later := ih ((valid.perform_becomes new.1).valid valid) new.2 spares.2
    exact later.trans (valid.displayName_perform new.1 spares.1)

end Steps

/-- **The name to show comes from the user or from the default address for billing.** In a valid
account each part of it is the user's own unless that is empty, else the one on the default address
for billing, if there is one and it is not empty, and else missing; so no part is empty. The whole
is missing if both parts are, and otherwise it is the parts that are there, with one space between
two. If the user has no name of its own, the whole is the one that the address gives its recipient.
Nothing but the user's names and the address counts, so over a run of operations the name stays as
long as each is about the default for shipping, stores an address while there is a default for
billing, is refused, or deletes an address other than that default. -/
theorem names_shown_own_or_billing (u : User) (valid : u.Valid) :
    let n := u.displayName
    let billing := u.defaultAddress? .billing
    (∀ s, n.first = some s ↔ u.firstName ≠ "" ∧ s = u.firstName ∨
      u.firstName = "" ∧ s ≠ "" ∧ ∃ d, billing = some d ∧ d.firstName = s) ∧
    (∀ s, n.last = some s ↔ u.lastName ≠ "" ∧ s = u.lastName ∨
      u.lastName = "" ∧ s ≠ "" ∧ ∃ d, billing = some d ∧ d.lastName = s) ∧
    n.first ≠ some "" ∧ n.last ≠ some "" ∧
    (n.fullName? = none ↔ n.first = none ∧ n.last = none) ∧
    (∀ s, n.fullName? = some s → s = " ".intercalate [n.first, n.last].reduceOption) ∧
    (∀ a, u.billing = some a → ∃ d, u.book.get? a = some d ∧ billing = some d ∧
      (u.firstName = "" → u.lastName = "" → n.fullName? = d.fullName?)) ∧
    (∀ v : User, v.firstName = u.firstName → v.lastName = u.lastName →
      v.defaultAddress? .billing = billing → v.displayName = n) ∧
    ∀ ops, u.MintsAllNew ops →
      (∀ before op after, ops = before ++ op :: after →
        let v := (u.performAll before).1
        v.SparesBilling op → (v.perform op).1.displayName = v.displayName) ∧
      ∀ before middle after, ops = before ++ (middle ++ after) →
        let v := (u.performAll before).1
        v.SparesBillingAll middle → (v.performAll middle).1.displayName = v.displayName := by
  intro n billing
  refine ⟨fun s => ?_, fun s => ?_, nameOr_ne_empty, nameOr_ne_empty, ?_, fun s whole => ?_,
    fun a names => ?_, fun v => displayName_congr, fun ops new => ⟨?_, ?_⟩⟩
  · exact nameOr_eq_some_iff.trans (by rw [Option.map_eq_some_iff])
  · exact nameOr_eq_some_iff.trans (by rw [Option.map_eq_some_iff])
  · rw [n.fullName?_eq, ite_eq_left_iff]
    simp only [reduceCtorEq, imp_false, not_not]
  · rw [n.fullName?_eq] at whole
    split at whole
    next => cases whole
    next => exact (Option.some.inj whole).symm
  · have default : u.default? .billing = some a := names
    obtain ⟨d, here⟩ := Option.isSome_iff_exists.1 (valid.default_mem default)
    have address : billing = some d := (congrArg (Option.bind · u.book.get?) names).trans here
    exact ⟨d, here, address, fun first last =>
      fullName?_displayName_of_unnamed first last address⟩
  · intro before op after split v spares
    rw [split, mintsAllNew_append] at new
    have valid' : v.Valid := (valid.performAll_becomes new.1).valid valid
    exact valid'.displayName_perform new.2.1 spares
  · intro before middle after split v spared
    rw [split, mintsAllNew_append, mintsAllNew_append] at new
    have valid' : v.Valid := (valid.performAll_becomes new.1).valid valid
    exact valid'.displayName_performAll_of_spared new.2.1 spared

/-- A user with a last name alone, whose first name is on the default address for billing: another
address is stored and becomes the default for shipping, one that is not there is to go, and one
that is no default goes. -/
theorem names_shown_own_or_billing_for_one :
    let home : AddressData := { firstName := "Ada", lastName := "King", city := "Oslo" }
    let first : AddressId := ⟨1, by decide⟩
    let second : AddressId := ⟨2, by decide⟩
    let u : User := { id := ⟨1⟩, lastName := "Lovelace", book := .ofAddresses [⟨first, home⟩],
                      billing := some first }
    let ops : List AccountOp := [.store second { city := "Bergen" } .billing,
      .setDefault second .shipping, .delete ⟨3, by decide⟩, .delete second]
    u.Valid ∧ u.MintsAllNew ops ∧ u.displayName.first = some "Ada" ∧
      u.displayName.last = some "Lovelace" ∧ u.displayName.fullName? = some "Ada Lovelace" ∧
      (u.performAll ops).1.displayName = u.displayName := by
  intro home first second u ops
  have valid : u.Valid := {
    indexed := AddressBook.indexed_ofAddresses (by decide)
    default_mem := by
      intro kind id points
      cases kind <;> cases points
      decide }
  have new : u.MintsAllNew ops := by decide +kernel
  obtain ⟨firsts, lasts, -, -, -, -, -, -, runs⟩ := names_shown_own_or_billing u valid
  obtain ⟨-, stays⟩ := runs ops new
  refine ⟨valid, new, (firsts "Ada").2 (.inr ⟨rfl, by decide, home, by decide +kernel, rfl⟩),
    (lasts "Lovelace").2 (.inl ⟨by decide, rfl⟩), by decide +kernel, ?_⟩
  refine stays [] ops [] (List.append_nil ops).symm ⟨?_, .shipping rfl, ?_, ?_, trivial⟩
  · exact .stored second { city := "Bergen" } nofun
  · exact .refused (apply_eq_error_iff.2 ⟨⟨3, by decide⟩, .inl rfl, by decide +kernel, rfl⟩)
  · exact .deleted second (by decide +kernel)

end User

end BackOffice
