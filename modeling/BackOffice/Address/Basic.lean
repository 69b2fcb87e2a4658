import BackOffice.Ident
import BackOffice.Text.Blank

/-!
# Addresses

An address is a value of eleven text fields, where an empty text means "not given"; once it stands
in an address book it also has an identifier (`Address`). Two operations prepare an address for
keeping: `AddressData.normalized` takes away differences that are only cosmetic, and
`AddressData.masked` hides who lives there but keeps where it is.
-/

namespace BackOffice

open BackOffice.Text

/-- The two uses an address can be the default of. -/
inductive AddressKind where
  /-- Invoices go there. -/
  | billing
  /-- Goods go there. -/
  | shipping
deriving DecidableEq, Repr

namespace AddressKind

/-- Both kinds, in the order in which they are gone through. -/
def all : List AddressKind := [.billing, .shipping]

theorem mem_all (kind : AddressKind) : kind ∈ all := by
  cases kind <;> decide

def name : AddressKind → String
  | .billing => "billing"
  | .shipping => "shipping"

/-- The kind of exactly this name. -/
def ofName? (s : String) : Option AddressKind :=
  all.find? fun k => k.name = s

/-- The kind that a person names, in any case and with blanks around it. -/
def ofText? (s : String) : Option AddressKind :=
  ofName? (lower (trim s))

/-- The wording for a text that names no kind. -/
def refusal (s : String) : String :=
  "invalid address type: " ++ s

end AddressKind

/-- The fields of an address. -/
structure AddressData where
  firstName : String := ""
  lastName : String := ""
  company : String := ""
  street1 : String := ""
  street2 : String := ""
  city : String := ""
  cityArea : String := ""
  postalCode : String := ""
  country : String := ""
  countryArea : String := ""
  phone : String := ""
deriving DecidableEq, Inhabited, Repr

namespace AddressData

def fields (d : AddressData) : List String :=
  [d.firstName, d.lastName, d.company, d.street1, d.street2, d.city, d.cityArea, d.postalCode,
    d.country, d.countryArea, d.phone]

/-- Orders addresses by their first field that differs, and texts by their code points. -/
def order (a b : AddressData) : Ordering :=
  compare a.fields b.fields

/-- The address with every field trimmed and the country in upper case. -/
def normalized (d : AddressData) : AddressData where
  firstName := trim d.firstName
  lastName := trim d.lastName
  company := trim d.company
  street1 := trim d.street1
  street2 := trim d.street2
  city := trim d.city
  cityArea := trim d.cityArea
  postalCode := trim d.postalCode
  country := upper (trim d.country)
  countryArea := trim d.countryArea
  phone := trim d.phone

/-- A word with all but its first character replaced by points. -/
def maskWord : List Char → List Char
  | [] => []
  | c :: cs => c :: cs.map fun _ => '.'

/-- Puts single spaces between words. -/
def joinWords : List (List Char) → List Char
  | [] => []
  | [w] => w
  | w :: ws => w ++ ' ' :: joinWords ws

/-- A text with each of its words masked and single spaces between them. -/
def maskText (s : String) : String :=
  String.ofList (joinWords ((chunks s.toList).map maskWord))

/-- The address with the fields masked that tell who lives there: names, company, street lines and
phone. -/
def masked (d : AddressData) : AddressData :=
  { d with
    firstName := maskText d.firstName
    lastName := maskText d.lastName
    company := maskText d.company
    street1 := maskText d.street1
    street2 := maskText d.street2
    phone := maskText d.phone }

/-- The address as it is kept: normalized, and masked where the store asks for it. -/
def prepared (mask : Bool) (d : AddressData) : AddressData :=
  if mask then d.normalized.masked else d.normalized

/-- The recipient's names that are given, with a space between two. -/
def fullName? (d : AddressData) : Option String :=
  if d.firstName = "" then if d.lastName = "" then none else some d.lastName
  else if d.lastName = "" then some d.firstName
  else some (d.firstName ++ " " ++ d.lastName)

end AddressData

/-- An address in an address book. -/
structure Address where
  id : AddressId
  data : AddressData
deriving DecidableEq

end BackOffice
