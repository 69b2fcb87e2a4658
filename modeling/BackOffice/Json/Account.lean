import BackOffice.Account.User
import BackOffice.Json.Basic

/-!
# The JSON forms of addresses and accounts

Each type with its encoding and its decoder. An address value may leave fields out; an address with
an identifier, and a change of an account, spread the fields over one object. A change that holds no
address may also be an array of its name and its details.
-/

namespace BackOffice

def Id.toJson {entity : Entity} (id : Id entity) : Json := .ofInt32 id.key

def Id.ofJson? {entity : Entity} (j : Json) : Option (Id entity) := j.int32?.map (⟨·⟩)

namespace AddressId

def toJson (id : AddressId) : Json := .str id.toText

/-- Reads an identifier from any of its texts. -/
def ofJson? (j : Json) : Option AddressId := j.string?.bind ofText?

end AddressId

namespace AddressKind

def toJson (k : AddressKind) : Json := .str k.name

def ofJson? : Json → Option AddressKind := Json.choice? ofName?

end AddressKind

namespace AddressData

/-- The names of the fields in order. -/
def keys : List String :=
  ["first_name", "last_name", "company_name", "street_address_1", "street_address_2", "city",
    "city_area", "postal_code", "country", "country_area", "phone"]

/-- The fields with their names. -/
def members (d : AddressData) : List (String × Json) :=
  keys.zip (d.fields.map .str)

def toJson (d : AddressData) : Json := .obj d.members

/-- Reads the fields of a record; those that are missing are empty. -/
def ofRecord? (r : Json.Record) : Option AddressData := do
  let text (key : String) : Option String := r.withDefault key "" Json.string?
  return {
    firstName := ← text "first_name"
    lastName := ← text "last_name"
    company := ← text "company_name"
    street1 := ← text "street_address_1"
    street2 := ← text "street_address_2"
    city := ← text "city"
    cityArea := ← text "city_area"
    postalCode := ← text "postal_code"
    country := ← text "country"
    countryArea := ← text "country_area"
    phone := ← text "phone" }

def ofJson? (j : Json) : Option AddressData :=
  (j.record? keys true).bind ofRecord?

end AddressData

namespace Address

/-- The identifier and the fields with their names. -/
def members (a : Address) : List (String × Json) :=
  ("id", a.id.toJson) :: a.data.members

/-- One object of the identifier and the fields. -/
def toJson (a : Address) : Json := .obj a.members

def ofJson? (j : Json) : Option Address := do
  let .obj members := j | none
  let r : Json.Record := fun key => members.lookup key
  return ⟨← r.required "id" AddressId.ofJson?, ← AddressData.ofRecord? r⟩

end Address

namespace AccountChange

def tag : AccountChange → String
  | .addressCreated _ => "address_created"
  | .addressDeleted _ => "address_deleted"
  | .defaultSet .. => "default_address_set"

/-- What the change says besides its name. -/
def details : AccountChange → List (String × Json)
  | .addressCreated address => address.members
  | .addressDeleted address => [("address_id", address.toJson)]
  | .defaultSet kind address =>
    [("address_type", kind.toJson), ("address_id", .nullable AddressId.toJson address)]

/-- One object of the name and the details. -/
def toJson (c : AccountChange) : Json := .obj (("change", .str c.tag) :: c.details)

/-- The names of the details of a change in which no address is spread out. -/
def keys? : String → Option (List String)
  | "address_deleted" => some ["address_id"]
  | "default_address_set" => some ["address_type", "address_id"]
  | _ => none

/-- Reads the kind of address that a change is about. Within a change, the object that names a kind
may also hold an empty object. -/
def kindOfJson? : Json → Option AddressKind
  | .obj [(name, .obj [])] => AddressKind.ofName? name
  | j => AddressKind.ofJson? j

/-- Reads a change in which no address is spread out from its details. -/
def ofDetails? (tag : String) (r : Json.Record) : Option AccountChange := do
  match tag with
  | "address_deleted" => return .addressDeleted (← r.required "address_id" AddressId.ofJson?)
  | "default_address_set" =>
    let kind ← r.required "address_type" kindOfJson?
    return .defaultSet kind (← r.optional "address_id" AddressId.ofJson?)
  | _ => none

/-- Reads a change from an object, or from an array of its name and its details. -/
def ofJson? : Json → Option AccountChange
  | .obj members => do
    let r : Json.Record := fun key => members.lookup key
    match ← r.required "change" Json.string? with
    | "address_created" => return .addressCreated (← Address.ofJson? (.obj members))
    | tag => ofDetails? tag r
  | .arr (.str tag :: details) => do
    let r ← (Json.arr details).record? (← keys? tag) false
    ofDetails? tag r
  | _ => none

end AccountChange

namespace DisplayName

def toJson (n : DisplayName) : Json :=
  .obj [("first_name", .nullable .str n.first), ("last_name", .nullable .str n.last)]

/-- Reads a name whose parts may be missing. -/
def ofJson? (j : Json) : Option DisplayName := do
  let r ← j.record? ["first_name", "last_name"] false
  return ⟨← r.optional "first_name" Json.string?, ← r.optional "last_name" Json.string?⟩

end DisplayName

/-- A customer as shown to staff: the name, the defaults and the addresses in the given order. -/
def User.view (u : User) (addresses : List Address) : Json :=
  .obj [("id", u.id.toJson), ("display_name", u.displayName.toJson),
    ("default_billing_address_id", .nullable AddressId.toJson u.billing),
    ("default_shipping_address_id", .nullable AddressId.toJson u.shipping),
    ("addresses", .list Address.toJson addresses)]

end BackOffice
