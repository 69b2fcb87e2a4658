import BackOffice.Json.Discount
import BackOffice.Proofs.AccountForms
import BackOffice.Proofs.DiscountRules

/-!
# The JSON forms of discounts lose only what updates clear

Discounts and what staff ask for are read back from their JSON forms as they were, whatever order
the members are in and whatever else is said: scopes as sets, whichever way their entities are
listed, and amounts as numbers, since a zero can lose its sign. An update is written with `null`
both for a field that it leaves alone and for one that it empties, so what it empties is left alone
by the update that is read.
-/

namespace BackOffice

open Json

section Atoms

theorem readsAs_ofInt32 (n : Int32) : ReadsAs int32? (.ofInt32 n) n := by
  have within : -2147483648 ≤ n.toInt ∧ n.toInt < 2147483648 := ⟨n.le_toInt, n.toInt_lt⟩
  refine readsAs_of_isAtom trivial ?_
  rw [Json.ofInt32, int32?, if_pos within, Int32.ofInt_toInt]

theorem readsAs_ofUInt32 (n : UInt32) : ReadsAs uint32? (.ofUInt32 n) n := by
  have within : (0 : Int) ≤ (n.toNat : Int) ∧ (n.toNat : Int) < 4294967296 := by
    have := n.toNat_lt
    omega
  refine readsAs_of_isAtom trivial ?_
  rw [Json.ofUInt32, uint32?, if_pos within, Int.toNat_natCast, UInt32.ofNat_toNat]

theorem Id.readsAs {entity : Entity} (id : Id entity) : ReadsAs ofJson? id.toJson id :=
  (readsAs_ofInt32 id.key).map _

theorem Date.readsAs (d : Date) : ReadsAs ofJson? d.toJson d := by
  refine readsAs_of_isAtom trivial ?_
  rw [ofJson?, toJson, string?, Option.bind_some, ofText?_toText]

theorem Decimal.readsAs (d : Decimal) : ReadsAs ofJson? d.toJson d.reread := by
  refine readsAs_of_isAtom trivial ?_
  rw [toJson, ofJson?, ofText?_toText]

theorem Decimal.rel_reread (a : Option Decimal) : Option.Rel Same (a.map reread) a := by
  cases a with
  | none => exact .none
  | some a => exact .some a.same_reread

theorem VoucherType.readsAs (type : VoucherType) : ReadsAs ofJson? type.toJson type :=
  readsAs_of_isAtom trivial (by cases type <;> decide)

theorem ValueType.readsAs (type : ValueType) : ReadsAs ofJson? type.toJson type :=
  readsAs_of_isAtom trivial (by cases type <;> decide)

theorem VoucherCode.readsAs (code : VoucherCode) : ReadsAs ofJson? code.toJson code :=
  (readsAs_string code.text).map _

theorem readsAs_strings (l : List String) : ReadsAs strings? (.list .str l) l := by
  have read := readsAs_list readsAs_string l
  rwa [List.map_id'] at read

end Atoms

section Scopes

theorem readsAs_ids (ids : List CatalogueId) : ReadsAs (list? int32?) (.list .ofInt32 ids) ids := by
  have read := readsAs_list readsAs_ofInt32 ids
  rwa [List.map_id'] at read

namespace CatalogueLists

/-- The members that list the entities are read by the names of the kinds. -/
theorem exists_record {l : CatalogueLists} {j : Json} (extends' : l.toJson.Extends j)
    (partly : Bool) : ∃ r, j.record? keys partly = some r ∧
      ∀ kind : CatalogueKind, r.Has kind.plural (.list .ofInt32 (l.get kind)) := by
  obtain ⟨r, read, holds⟩ := extends'.record? (show keys.Nodup by decide) keys partly
  refine ⟨r, read, fun kind => holds _ (List.mem_map.2 ⟨kind, ?_, rfl⟩)⟩
  cases kind <;> decide

theorem readsAs (l : CatalogueLists) : ReadsAs ofJson? l.toJson l := by
  intro j extends'
  obtain ⟨r, read, has⟩ := exists_record extends' true
  have ids (kind : CatalogueKind) := (has kind).withDefault [] (readsAs_ids (l.get kind))
  rw [ofJson?, read]
  simp only [Option.bind_eq_bind, Option.bind_some, ids]
  rfl

theorem readsAs_full (l : CatalogueLists) : ReadsAs ofFullJson? l.toJson l := by
  intro j extends'
  obtain ⟨r, read, has⟩ := exists_record extends' false
  have ids (kind : CatalogueKind) := (has kind).required (readsAs_ids (l.get kind))
  rw [ofFullJson?, read]
  simp only [Option.bind_eq_bind, Option.bind_some, ids]
  rfl

end CatalogueLists

namespace CatalogueScope

/-- A JSON form of the scope. Its entities may be listed in any order. -/
def Form (s : CatalogueScope) (j : Json) : Prop :=
  ∃ l, ofLists l = s ∧ j = l.toJson

theorem form_toJson (s : CatalogueScope) : s.Form s.toJson := by
  refine ⟨s.toLists, ext_mem fun kind x => ?_, rfl⟩
  rw [mem_ofLists, toLists, PerKind.map, PerKind.get_ofFn]
  rfl

theorem readsAs {s : CatalogueScope} {form : Json} (is : s.Form form) : ReadsAs ofJson? form s := by
  obtain ⟨l, rfl, rfl⟩ := is
  exact l.readsAs_full.map ofLists

end CatalogueScope

/-- The object with another value for one of its members. -/
def Json.withMember (j : Json) (name : String) (value : Json) : Json :=
  match j with
  | .obj members => .obj (members.map fun m => if m.1 = name then (name, value) else m)
  | j => j

end Scopes

namespace Voucher

/-- A JSON form of the voucher. The entities in its scope may be listed in any order. -/
def Form (v : Voucher) (j : Json) : Prop :=
  ∃ scope, v.scope.Form scope ∧ j = v.toJson.withMember "scope" scope

theorem form_toJson (v : Voucher) : v.Form v.toJson :=
  ⟨v.scope.toJson, v.scope.form_toJson, by simp [Json.withMember, toJson]⟩

/-- The voucher as it is read from its JSON form. -/
def reread (v : Voucher) : Voucher :=
  { v with value := v.value.reread, minAmount := v.minAmount.map Decimal.reread }

theorem same_reread (v : Voucher) : v.reread.Same v :=
  ⟨v.value.same_reread, Decimal.rel_reread v.minAmount, rfl⟩

theorem readsAs {v : Voucher} {form : Json} (is : v.Form form) : ReadsAs ofJson? form v.reread := by
  obtain ⟨scopeForm, listed, rfl⟩ := is
  intro j extends'
  obtain ⟨r, read, holds⟩ := extends'.record? (show keys.Nodup by decide) keys false
  simp only [Record.Holds, List.map_cons, List.map_nil, List.forall_mem_cons, String.reduceEq,
    ↓reduceIte] at holds
  obtain ⟨id, type, name, code, usageLimit, used, startDate, endDate, valueType, value, minAmount,
    countries, scope, -⟩ := holds
  rw [ofJson?, read]
  -- Members are read from the first to the last, so each step is taken before what follows it.
  simp only [↓Option.bind_eq_bind, ↓Option.bind_some, ↓id.required v.id.readsAs,
    ↓type.required v.type.readsAs, ↓name.optional readsAs_string rfl,
    ↓code.required v.code.readsAs, ↓usageLimit.optional readsAs_ofUInt32 rfl,
    ↓used.required (readsAs_ofUInt32 v.used), ↓startDate.required v.startDate.readsAs,
    ↓endDate.optional Date.readsAs rfl, ↓valueType.required v.valueType.readsAs,
    ↓value.required v.value.readsAs, ↓minAmount.optional Decimal.readsAs rfl,
    ↓countries.required (readsAs_strings v.countries),
    ↓scope.required (CatalogueScope.readsAs listed), Option.map_id']
  rfl

end Voucher

namespace VoucherInput

/-- The inputs differ at most in how amounts are written. -/
structure Same (i k : VoucherInput) : Prop where
  value : i.value.Same k.value
  minAmount : Option.Rel Decimal.Same i.minAmount k.minAmount
  rest : { i with value := k.value, minAmount := k.minAmount } = k

/-- The input as it is read from its JSON form. -/
def reread (i : VoucherInput) : VoucherInput :=
  { i with value := i.value.reread, minAmount := i.minAmount.map Decimal.reread }

theorem same_reread (i : VoucherInput) : i.reread.Same i :=
  ⟨i.value.same_reread, Decimal.rel_reread i.minAmount, rfl⟩

theorem readsAs (i : VoucherInput) : ReadsAs ofJson? i.toJson i.reread := by
  intro j extends'
  obtain ⟨r, read, holds⟩ := extends'.record? (show keys.Nodup by decide) keys true
  simp only [Record.Holds, List.forall_mem_cons] at holds
  obtain ⟨type, name, code, usageLimit, startDate, endDate, valueType, value, minAmount, countries,
    catalogues, -⟩ := holds
  rw [ofJson?, read]
  simp only [↓Option.bind_eq_bind, ↓Option.bind_some, ↓type.withDefault .value i.type.readsAs,
    ↓name.optional readsAs_string rfl, ↓code.optional readsAs_string rfl,
    ↓usageLimit.optional readsAs_ofUInt32 rfl, ↓startDate.optional Date.readsAs rfl,
    ↓endDate.optional Date.readsAs rfl, ↓valueType.withDefault .fixed i.valueType.readsAs,
    ↓value.withDefault .zero i.value.readsAs, ↓minAmount.optional Decimal.readsAs rfl,
    ↓countries.withDefault [] (readsAs_strings i.countries),
    ↓catalogues.withDefault .empty i.catalogues.readsAs, Option.map_id']
  rfl

end VoucherInput

namespace Sale

/-- A JSON form of the sale. The entities in its scope may be listed in any order. -/
def Form (s : Sale) (j : Json) : Prop :=
  ∃ scope, s.scope.Form scope ∧ j = s.toJson.withMember "scope" scope

theorem form_toJson (s : Sale) : s.Form s.toJson :=
  ⟨s.scope.toJson, s.scope.form_toJson, by simp [Json.withMember, toJson]⟩

/-- The sale as it is read from its JSON form. -/
def reread (s : Sale) : Sale :=
  { s with value := s.value.reread }

theorem same_reread (s : Sale) : s.reread.Same s :=
  ⟨s.value.same_reread, rfl⟩

theorem readsAs {s : Sale} {form : Json} (is : s.Form form) : ReadsAs ofJson? form s.reread := by
  obtain ⟨scopeForm, listed, rfl⟩ := is
  intro j extends'
  obtain ⟨r, read, holds⟩ := extends'.record? (show keys.Nodup by decide) keys false
  simp only [Record.Holds, List.map_cons, List.map_nil, List.forall_mem_cons, String.reduceEq,
    ↓reduceIte] at holds
  obtain ⟨id, name, valueType, value, startDate, endDate, scope, -⟩ := holds
  rw [ofJson?, read]
  simp only [↓Option.bind_eq_bind, ↓Option.bind_some, ↓id.required s.id.readsAs,
    ↓name.required (readsAs_string s.name), ↓valueType.required s.valueType.readsAs,
    ↓value.required s.value.readsAs, ↓startDate.required s.startDate.readsAs,
    ↓endDate.optional Date.readsAs rfl, ↓scope.required (CatalogueScope.readsAs listed),
    Option.map_id']
  rfl

end Sale

namespace SaleInput

/-- The inputs differ at most in how the value is written. -/
structure Same (i k : SaleInput) : Prop where
  value : i.value.Same k.value
  rest : { i with value := k.value } = k

/-- The input as it is read from its JSON form. -/
def reread (i : SaleInput) : SaleInput :=
  { i with value := i.value.reread }

theorem same_reread (i : SaleInput) : i.reread.Same i :=
  ⟨i.value.same_reread, rfl⟩

theorem readsAs (i : SaleInput) : ReadsAs ofJson? i.toJson i.reread := by
  intro j extends'
  obtain ⟨r, read, holds⟩ := extends'.record? (show keys.Nodup by decide) keys true
  simp only [Record.Holds, List.forall_mem_cons] at holds
  obtain ⟨name, valueType, value, startDate, endDate, -⟩ := holds
  rw [ofJson?, read]
  simp only [↓Option.bind_eq_bind, ↓Option.bind_some,
    ↓name.withDefault "" (readsAs_string i.name),
    ↓valueType.withDefault .fixed i.valueType.readsAs,
    ↓value.withDefault .zero i.value.readsAs, ↓startDate.optional Date.readsAs rfl,
    ↓endDate.optional Date.readsAs rfl, Option.map_id']
  rfl

end SaleInput

section Updates

namespace Patch

variable {α : Type}

/-- The update with nothing emptied: where it empties the field, it leaves it alone. -/
def unclear : Patch α → Patch α
  | .clear => .keep
  | p => p

theorem ofOption_value? (p : Patch α) : ofOption p.value? = p.unclear := by
  cases p <;> rfl

theorem unclear_eq_self_iff {p : Patch α} : p.unclear = p ↔ p ≠ .clear := by
  cases p <;> simp [unclear]

/-- The updates do alike, with related values. -/
inductive Rel {β : Type} (R : α → β → Prop) : Patch α → Patch β → Prop
  | keep : Rel R .keep .keep
  | clear : Rel R .clear .clear
  | set {a : α} {b : β} (related : R a b) : Rel R (.set a) (.set b)

/-- What is left alone and what is emptied are both written as `null`. -/
theorem getD_toJson? (encode : α → Json) (p : Patch α) :
    (p.toJson? encode).getD .null = nullable encode p.value? := by
  cases p <;> rfl

end Patch

theorem Json.getD_map_null {α : Type} (encode : α → Json) (a : Option α) :
    (a.map encode).getD .null = nullable encode a := by
  cases a <;> rfl

namespace VoucherUpdate

/-- The updates differ at most in how amounts are written. -/
structure Same (u w : VoucherUpdate) : Prop where
  value : Option.Rel Decimal.Same u.value w.value
  minAmount : Patch.Rel Decimal.Same u.minAmount w.minAmount
  rest : { u with value := w.value, minAmount := w.minAmount } = w

/-- The update empties a field. -/
def Clears (u : VoucherUpdate) : Prop :=
  u.usageLimit = .clear ∨ u.endDate = .clear ∨ u.minAmount = .clear

/-- The update that leaves alone what the update empties, and is like it otherwise. -/
def unclear (u : VoucherUpdate) : VoucherUpdate :=
  { u with
    usageLimit := u.usageLimit.unclear
    endDate := u.endDate.unclear
    minAmount := u.minAmount.unclear }

/-- The update as it is read from its JSON form. -/
def reread (u : VoucherUpdate) : VoucherUpdate :=
  { u.unclear with
    value := u.value.map Decimal.reread
    minAmount := .ofOption (u.minAmount.value?.map Decimal.reread) }

theorem same_reread (u : VoucherUpdate) : u.reread.Same u.unclear := by
  refine ⟨Decimal.rel_reread u.value, ?_, rfl⟩
  rw [reread, unclear]
  cases u.minAmount with
  | keep | clear => exact .keep
  | set a => exact .set a.same_reread

theorem readsAs (u : VoucherUpdate) : ReadsAs ofJson? u.toJson u.reread := by
  intro j extends'
  obtain ⟨r, read, holds⟩ := extends'.record? (show keys.Nodup by decide) keys true
  simp only [Record.Holds, fields, List.map_cons, List.forall_mem_cons, getD_map_null,
    Patch.getD_toJson?] at holds
  obtain ⟨type, name, code, usageLimit, startDate, endDate, valueType, value, minAmount, countries,
    -⟩ := holds
  rw [ofJson?, read]
  simp only [↓Option.bind_eq_bind, ↓Option.bind_some, ↓type.optional VoucherType.readsAs rfl,
    ↓name.optional readsAs_string rfl, ↓code.optional readsAs_string rfl,
    ↓usageLimit.optional readsAs_ofUInt32 rfl, ↓startDate.optional Date.readsAs rfl,
    ↓endDate.optional Date.readsAs rfl, ↓valueType.optional ValueType.readsAs rfl,
    ↓value.optional Decimal.readsAs rfl, ↓minAmount.optional Decimal.readsAs rfl,
    ↓countries.optional readsAs_strings rfl, Option.map_id', Patch.ofOption_value?]
  rfl

/-- The update that is read is like the one that was written if that empties nothing. -/
theorem same_reread_iff {u : VoucherUpdate} : u.reread.Same u ↔ ¬u.Clears := by
  constructor
  · rintro ⟨-, minAmount, rest⟩ clears
    rcases clears with clears | clears | clears
    · have limit := congrArg VoucherUpdate.usageLimit rest
      exact Patch.unclear_eq_self_iff.1 limit clears
    · have last := congrArg VoucherUpdate.endDate rest
      exact Patch.unclear_eq_self_iff.1 last clears
    · rw [reread, clears] at minAmount
      cases minAmount
  · intro keeps
    obtain ⟨limit, last, least⟩ : u.usageLimit ≠ .clear ∧ u.endDate ≠ .clear ∧
        u.minAmount ≠ .clear := by simpa only [Clears, not_or] using keeps
    have unclear : u.unclear = u := by
      rw [VoucherUpdate.unclear, Patch.unclear_eq_self_iff.2 limit,
        Patch.unclear_eq_self_iff.2 last, Patch.unclear_eq_self_iff.2 least]
    have same := u.same_reread
    rwa [unclear] at same

end VoucherUpdate

namespace SaleUpdate

/-- The updates differ at most in how the value is written. -/
structure Same (u w : SaleUpdate) : Prop where
  value : Option.Rel Decimal.Same u.value w.value
  rest : { u with value := w.value } = w

/-- The update empties a field. -/
def Clears (u : SaleUpdate) : Prop :=
  u.endDate = .clear

/-- The update that leaves alone what the update empties, and is like it otherwise. -/
def unclear (u : SaleUpdate) : SaleUpdate :=
  { u with endDate := u.endDate.unclear }

/-- The update as it is read from its JSON form. -/
def reread (u : SaleUpdate) : SaleUpdate :=
  { u.unclear with value := u.value.map Decimal.reread }

theorem same_reread (u : SaleUpdate) : u.reread.Same u.unclear :=
  ⟨Decimal.rel_reread u.value, rfl⟩

theorem readsAs (u : SaleUpdate) : ReadsAs ofJson? u.toJson u.reread := by
  intro j extends'
  obtain ⟨r, read, holds⟩ := extends'.record? (show keys.Nodup by decide) keys true
  simp only [Record.Holds, fields, List.map_cons, List.forall_mem_cons, getD_map_null,
    Patch.getD_toJson?] at holds
  obtain ⟨name, valueType, value, startDate, endDate, -⟩ := holds
  rw [ofJson?, read]
  simp only [↓Option.bind_eq_bind, ↓Option.bind_some, ↓name.optional readsAs_string rfl,
    ↓valueType.optional ValueType.readsAs rfl, ↓value.optional Decimal.readsAs rfl,
    ↓startDate.optional Date.readsAs rfl, ↓endDate.optional Date.readsAs rfl, Option.map_id',
    Patch.ofOption_value?]
  rfl

/-- The update that is read is like the one that was written if that empties nothing. -/
theorem same_reread_iff {u : SaleUpdate} : u.reread.Same u ↔ ¬u.Clears := by
  constructor
  · rintro ⟨-, rest⟩ clears
    have last := congrArg SaleUpdate.endDate rest
    exact Patch.unclear_eq_self_iff.1 last clears
  · intro keeps
    have unclear : u.unclear = u := by
      rw [SaleUpdate.unclear, Patch.unclear_eq_self_iff.2 keeps]
    have same := u.same_reread
    rwa [unclear] at same

end SaleUpdate

end Updates

namespace Json

/-- Whatever else is said besides, what the decoder makes of the value is like `a`. -/
def Restores {α : Type} (decode : Json → Option α) (Like : α → α → Prop) (j : Json) (a : α) :
    Prop :=
  ∀ j', j.Extends j' → ∃ b, decode j' = some b ∧ Like b a

section Restores

variable {α : Type} {decode : Json → Option α} {Like : α → α → Prop} {j j' : Json} {a b : α}

theorem ReadsAs.restores (reads : ReadsAs decode j b) (like : Like b a) :
    Restores decode Like j a :=
  fun j' extends' => ⟨b, reads j' extends', like⟩

theorem ReadsAs.exists_iff {P : α → Prop} (reads : ReadsAs decode j b) (extends' : j.Extends j') :
    (∃ w, decode j' = some w ∧ P w) ↔ P b := by
  simp only [reads j' extends', Option.some.injEq, exists_eq_left']

end Restores

/-- **The JSON forms lose nothing but what updates empty.** Each value is read back from its JSON
form, also after the members of the form's objects have been put in another order and others have
come in: discounts and inputs for them with the same numbers as amounts, and with their scopes in
whatever order these are listed; scopes, deltas, addresses, changes of accounts and names to show
exactly. An update is read back as the one that leaves alone what it empties, so it comes back if
and only if it empties nothing. -/
theorem forms_lose_only_clears :
    (∀ v : Voucher, v.Form v.toJson ∧
      ∀ form, v.Form form → Restores Voucher.ofJson? Voucher.Same form v) ∧
    (∀ s : Sale, s.Form s.toJson ∧
      ∀ form, s.Form form → Restores Sale.ofJson? Sale.Same form s) ∧
    (∀ s : CatalogueScope, s.Form s.toJson ∧
      ∀ form, s.Form form → Restores CatalogueScope.ofJson? Eq form s) ∧
    (∀ delta : CatalogueLists, Restores CatalogueLists.ofFullJson? Eq delta.toJson delta) ∧
    (∀ l : CatalogueLists, Restores CatalogueLists.ofJson? Eq l.toJson l) ∧
    (∀ i : VoucherInput, Restores VoucherInput.ofJson? VoucherInput.Same i.toJson i) ∧
    (∀ i : SaleInput, Restores SaleInput.ofJson? SaleInput.Same i.toJson i) ∧
    (∀ d : AddressData, Restores AddressData.ofJson? Eq d.toJson d) ∧
    (∀ a : Address, Restores Address.ofJson? Eq a.toJson a) ∧
    (∀ c : AccountChange, Restores AccountChange.ofJson? Eq c.toJson c) ∧
    (∀ n : DisplayName, Restores DisplayName.ofJson? Eq n.toJson n) ∧
    (∀ u : VoucherUpdate,
      Restores VoucherUpdate.ofJson? VoucherUpdate.Same u.toJson u.unclear ∧
      ∀ j, u.toJson.Extends j →
        ((∃ w, VoucherUpdate.ofJson? j = some w ∧ w.Same u) ↔ ¬u.Clears)) ∧
    (∀ u : SaleUpdate,
      Restores SaleUpdate.ofJson? SaleUpdate.Same u.toJson u.unclear ∧
      ∀ j, u.toJson.Extends j →
        ((∃ w, SaleUpdate.ofJson? j = some w ∧ w.Same u) ↔ ¬u.Clears)) := by
  refine ⟨?_, ?_, ?_, ?_, ?_, ?_, ?_, ?_, ?_, ?_, ?_, ?_, ?_⟩
  · exact fun v => ⟨v.form_toJson, fun form is => (Voucher.readsAs is).restores v.same_reread⟩
  · exact fun s => ⟨s.form_toJson, fun form is => (Sale.readsAs is).restores s.same_reread⟩
  · exact fun s => ⟨s.form_toJson, fun form is => (CatalogueScope.readsAs is).restores rfl⟩
  · exact fun delta => delta.readsAs_full.restores rfl
  · exact fun l => l.readsAs.restores rfl
  · exact fun i => i.readsAs.restores i.same_reread
  · exact fun i => i.readsAs.restores i.same_reread
  · exact fun d => d.readsAs.restores rfl
  · exact fun a => a.readsAs.restores rfl
  · exact fun c => c.readsAs.restores rfl
  · exact fun n => n.readsAs.restores rfl
  · intro u
    refine ⟨u.readsAs.restores u.same_reread, fun j extends' => ?_⟩
    rw [u.readsAs.exists_iff extends', VoucherUpdate.same_reread_iff]
  · intro u
    refine ⟨u.readsAs.restores u.same_reread, fun j extends' => ?_⟩
    rw [u.readsAs.exists_iff extends', SaleUpdate.same_reread_iff]

/-- A sale whose form has been turned around and has a new member, and an update that empties a
field. -/
theorem forms_lose_only_clears_for_sale :
    let listed : CatalogueLists := ⟨[3, 1], [], [2]⟩
    let sale : Sale := {
      id := ⟨7⟩
      name := "Winter"
      valueType := .percentage
      value := { magnitude := 1250, scale := 2 }
      startDate := { year := 12026, month := 2, day := 1 }
      endDate := none
      scope := .ofLists listed }
    let form : List (String × Json) := [("id", .int 7), ("name", .str "Winter"),
      ("value_type", .str "PERCENTAGE"), ("value", .str "12.50"),
      ("start_date", .str "+12026-02-01"), ("end_date", .null), ("scope", listed.toJson)]
    let update : SaleUpdate := { name := some "Spring", endDate := .clear }
    (∃ s, Sale.ofJson? (.obj (("note", .bool true) :: form.reverse)) = some s ∧ s.Same sale) ∧
      ¬∃ w, SaleUpdate.ofJson? update.toJson = some w ∧ w.Same update := by
  intro listed sale form update
  have type : Text.upper ValueType.percentage.name = "PERCENTAGE" := by decide +kernel
  have value : sale.value.toText = "12.50" := by decide +kernel
  have first : sale.startDate.toText = "+12026-02-01" := by decide +kernel
  have is : sale.Form (.obj form) := by
    refine ⟨listed.toJson, ⟨listed, rfl, rfl⟩, ?_⟩
    simp only [form, ← value, ← first, ← type, Sale.toJson, Json.withMember, List.map_cons,
      List.map_nil, String.reduceEq, ↓reduceIte]
    rfl
  have extends' : (Json.obj form).Extends (.obj (("note", .bool true) :: form.reverse)) := by
    have unknown : ∀ m ∈ [("note", Json.bool true)], m.1 ∉ form.map Prod.fst := by
      rintro _ (_ | ⟨_, ⟨⟩⟩)
      exact show "note" ∉ Sale.keys by decide
    refine .of_perm (show Sale.keys.Nodup by decide) unknown ?_
    exact ((List.reverse_perm form).cons _).trans (List.perm_append_singleton _ form).symm
  obtain ⟨-, sales, -, -, -, -, -, -, -, -, -, -, updates⟩ := forms_lose_only_clears
  exact ⟨(sales sale).2 _ is _ extends',
    fun survives => ((updates update).2 _ (.same _)).1 survives rfl⟩

end Json

end BackOffice
