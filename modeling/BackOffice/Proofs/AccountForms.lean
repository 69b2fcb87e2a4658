import BackOffice.Json.Account
import BackOffice.Proofs.JsonForms
import BackOffice.Proofs.NumeralTexts

/-!
# The JSON forms of accounts lose nothing

Addresses, changes of accounts and names to show are read back from their JSON forms as they were,
whatever order the members are in and whatever else is said. Where the fields of an address are
spread over an object of several things, each thing is read from the members that are its own.
-/

namespace BackOffice

open Json

theorem readsAs_string (s : String) : ReadsAs string? (.str s) s :=
  readsAs_of_isAtom trivial rfl

theorem AddressId.readsAs (id : AddressId) : ReadsAs ofJson? id.toJson id := by
  refine readsAs_of_isAtom trivial ?_
  rw [ofJson?, toJson, string?, Option.bind_some, ofText?_toText]

theorem AddressKind.ofName?_name (kind : AddressKind) : ofName? kind.name = some kind := by
  cases kind <;> decide

theorem AddressKind.readsAs (kind : AddressKind) : ReadsAs ofJson? kind.toJson kind :=
  readsAs_of_isAtom trivial kind.ofName?_name

namespace AddressData

theorem members_distinct (d : AddressData) : (d.members.map Prod.fst).Nodup :=
  show keys.Nodup by decide

/-- An address is read from any record that has its fields. -/
theorem ofRecord?_of_holds {d : AddressData} {r : Record} (holds : r.Holds d.members) :
    ofRecord? r = some d := by
  have text {name value : String} (has : r.Has name (.str value)) :
      r.withDefault name "" string? = some value := has.withDefault "" (readsAs_string value)
  simp only [Record.Holds, members, keys, fields, List.map_cons, List.map_nil,
    List.zip_cons_cons, List.zip_nil_left, List.forall_mem_cons] at holds
  obtain ⟨firstName, lastName, company, street1, street2, city, cityArea, postalCode, country,
    countryArea, phone, -⟩ := holds
  simp only [ofRecord?, text firstName, text lastName, text company, text street1, text street2,
    text city, text cityArea, text postalCode, text country, text countryArea, text phone]
  rfl

theorem readsAs (d : AddressData) : ReadsAs ofJson? d.toJson d := by
  intro j extends'
  obtain ⟨r, read, holds⟩ := extends'.record? d.members_distinct keys true
  rw [ofJson?, read]
  exact ofRecord?_of_holds holds

end AddressData

namespace Address

theorem members_distinct (a : Address) : (a.members.map Prod.fst).Nodup :=
  show ("id" :: AddressData.keys).Nodup by decide

/-- An address is read from any object that has its identifier and its fields. -/
theorem ofJson?_of_holds {a : Address} {members : List (String × Json)}
    (holds : Record.Holds (fun name => members.lookup name) a.members) :
    ofJson? (.obj members) = some a := by
  obtain ⟨id, data⟩ := List.forall_mem_cons.1 holds
  rw [ofJson?]
  simp only [id.required a.id.readsAs, AddressData.ofRecord?_of_holds data]
  rfl

theorem readsAs (a : Address) : ReadsAs ofJson? a.toJson a := by
  intro j extends'
  obtain ⟨members, rfl, holds⟩ := extends'.exists_members a.members_distinct
  exact ofJson?_of_holds holds

end Address

namespace AccountChange

theorem members_distinct (c : AccountChange) :
    ((("change", Json.str c.tag) :: c.details).map Prod.fst).Nodup := by
  cases c with
  | addressCreated a => exact show ("change" :: "id" :: AddressData.keys).Nodup by decide
  | addressDeleted a => exact show ["change", "address_id"].Nodup by decide
  | defaultSet kind a => exact show ["change", "address_type", "address_id"].Nodup by decide

theorem kind_readsAs (kind : AddressKind) : ReadsAs kindOfJson? kind.toJson kind :=
  readsAs_of_isAtom trivial kind.ofName?_name

theorem readsAs (c : AccountChange) : ReadsAs ofJson? c.toJson c := by
  intro j extends'
  obtain ⟨members, rfl, holds⟩ := extends'.exists_members c.members_distinct
  obtain ⟨change, details⟩ := List.forall_mem_cons.1 holds
  have named := change.required (readsAs_string c.tag)
  rw [ofJson?]
  simp only [named, Option.bind_eq_bind, Option.bind_some]
  cases c with
  | addressCreated a =>
    simp only [Address.ofJson?_of_holds details]
    rfl
  | addressDeleted a =>
    have address := (details _ List.mem_cons_self).required a.readsAs
    simp only [ofDetails?, address]
    rfl
  | defaultSet kind a =>
    obtain ⟨about, address⟩ := List.forall_mem_cons.1 details
    have about := about.required (kind_readsAs kind)
    have address := (address _ List.mem_cons_self).optional AddressId.readsAs rfl
    simp only [ofDetails?, about, address, Option.map_id']
    rfl

end AccountChange

namespace DisplayName

theorem readsAs (n : DisplayName) : ReadsAs ofJson? n.toJson n := by
  intro j extends'
  obtain ⟨r, read, holds⟩ := extends'.record? (show ["first_name", "last_name"].Nodup by decide)
    ["first_name", "last_name"] false
  simp only [Record.Holds, List.forall_mem_cons] at holds
  obtain ⟨first, last, -⟩ := holds
  rw [ofJson?, read]
  simp only [Option.bind_eq_bind, Option.bind_some, first.optional readsAs_string rfl,
    last.optional readsAs_string rfl, Option.map_id']
  rfl

end DisplayName

end BackOffice
