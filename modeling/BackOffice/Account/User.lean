import BackOffice.Address.Book
import BackOffice.InPlace

/-!
# Users and what changes in their accounts

A user has names, an address book and, for each kind of address, at most one default, which is the
identifier of an address in the book. An operation changes an account in place and returns the list
of its changes; whoever keeps the account writes exactly these.
-/

namespace BackOffice

/-- Why an operation on an account is refused. -/
inductive AccountError where
  | notInBook (user : UserId) (address : AddressId)
  /-- A default from storage names an address that is not in the user's book. -/
  | danglingDefault (user : UserId) (kind : AddressKind) (address : AddressId)
deriving DecidableEq

def AccountError.message : AccountError → String
  | .notInBook user address =>
    "address " ++ address.toText ++ " does not belong to user " ++ user.toText
  | .danglingDefault user kind address =>
    "default " ++ kind.name ++ " address " ++ address.toText ++ " of user " ++ user.toText ++
      " is not in the address book"

/-- One change of an account. -/
inductive AccountChange where
  | addressCreated (address : Address)
  | addressDeleted (address : AddressId)
  | defaultSet (kind : AddressKind) (address : Option AddressId)
deriving DecidableEq

/-- The name to show for a user; either part may be missing. -/
structure DisplayName where
  first : Option String := none
  last : Option String := none
deriving DecidableEq, Repr

/-- The parts that are there, with a space between two. -/
def DisplayName.fullName? (n : DisplayName) : Option String :=
  match n.first, n.last with
  | some first, some last => some (first ++ " " ++ last)
  | some first, none => some first
  | none, last => last

/-- A customer's account. -/
structure User where
  id : UserId
  /-- The user's own first name, possibly empty. -/
  firstName : String := ""
  /-- The user's own last name, possibly empty. -/
  lastName : String := ""
  book : AddressBook := {}
  billing : Option AddressId := none
  shipping : Option AddressId := none
deriving DecidableEq

/-- What storing an address comes to. -/
structure Stored where
  user : User
  /-- The address in the book that has the value, new or not. -/
  address : AddressId
  created : Bool
  changes : List AccountChange
deriving DecidableEq

namespace User

def default? (u : User) : AddressKind → Option AddressId
  | .billing => u.billing
  | .shipping => u.shipping

/-- The value of the default of a kind. -/
def defaultAddress? (u : User) (kind : AddressKind) : Option AddressData :=
  (u.default? kind).bind u.book.get?

/-- The user with the default of a kind set or cleared. -/
def withDefault (u : User) : AddressKind → Option AddressId → User
  | .billing, address => { u with billing := address }
  | .shipping, address => { u with shipping := address }

/-- Puts a user together from stored parts. A default must name an address of the book. -/
def ofParts (id : UserId) (firstName lastName : String) (book : AddressBook)
    (billing shipping : Option AddressId) : Except AccountError User := do
  for (kind, pointer) in [(AddressKind.billing, billing), (AddressKind.shipping, shipping)] do
    if let some address := pointer then
      if !book.contains address then throw (.danglingDefault id kind address)
  return { id, firstName, lastName, book, billing, shipping }

/-- Sets the default of a kind and reports it, if it names another address so far. -/
def pointAt (u : User) (kind : AddressKind) (address : AddressId) : User × List AccountChange :=
  if u.default? kind = some address then (u, [])
  else (u.withDefault kind (some address), [.defaultSet kind (some address)])

/-- Adds the normalized address to the book unless its value is there, and reports an addition. -/
def insert (u : User) (fresh : AddressId) (data : AddressData) :
    User × AddressId × Bool × List AccountChange :=
  let data := data.normalized
  let (book, address, created) := u.book.getOrInsert fresh data
  ({ u with book }, address, created, if created then [.addressCreated ⟨address, data⟩] else [])

/-- Adds an address and makes it the default of a kind that has none yet. -/
def storeAddress (u : User) (fresh : AddressId) (data : AddressData) (kind : AddressKind) :
    Stored :=
  let (u', address, created, changes) := u.insert fresh data
  if (u'.default? kind).isNone then
    { user := u'.withDefault kind (some address), address, created,
      changes := changes ++ [.defaultSet kind (some address)] }
  else { user := u', address, created, changes }

/-- Adds an address and makes it the default of a kind. The default so far stays in the book. -/
def changeDefault (u : User) (fresh : AddressId) (data : AddressData) (kind : AddressKind) :
    Stored :=
  let (u', address, created, changes) := u.insert fresh data
  let (u'', more) := u'.pointAt kind address
  { user := u'', address, created, changes := changes ++ more }

/-- Refuses an address that is not in the book. -/
def ensureOwned (address : AddressId) : InPlace User AccountError Unit := do
  let u ← get
  if !u.book.contains address then throw (.notInBook u.id address)

/-- Adds an address in place. -/
def storeInPlace (fresh : AddressId) (data : AddressData) (kind : AddressKind) :
    InPlace User AccountError Stored := do
  let stored := (← get).storeAddress fresh data kind
  set stored.user
  return stored

/-- Adds an address in place and makes it the default of a kind. -/
def changeInPlace (fresh : AddressId) (data : AddressData) (kind : AddressKind) :
    InPlace User AccountError Stored := do
  let stored := (← get).changeDefault fresh data kind
  set stored.user
  return stored

/-- Makes an address of the book the default of a kind, in place. -/
def setDefaultInPlace (address : AddressId) (kind : AddressKind) :
    InPlace User AccountError (List AccountChange) := do
  ensureOwned address
  let (u, changes) := (← get).pointAt kind address
  set u
  return changes

/-- Clears the default of a kind and reports it, if it names the address. -/
def unpoint (address : AddressId) (s : User × List AccountChange) (kind : AddressKind) :
    User × List AccountChange :=
  if s.1.default? kind = some address then
    (s.1.withDefault kind none, s.2 ++ [.defaultSet kind none])
  else s

/-- Takes an address from the book in place, after clearing each default that names it. -/
def deleteInPlace (address : AddressId) : InPlace User AccountError (List AccountChange) := do
  ensureOwned address
  let (u, changes) := AddressKind.all.foldl (unpoint address) (← get, [])
  set { u with book := (u.book.remove address).1 }
  return changes ++ [.addressDeleted address]

/-- The account with an address of its book as the default of a kind, and the changes. -/
def setDefault (u : User) (address : AddressId) (kind : AddressKind) :
    Except AccountError (User × List AccountChange) :=
  (setDefaultInPlace address kind).outcome u

/-- The account without an address of its book, and the changes. -/
def deleteAddress (u : User) (address : AddressId) :
    Except AccountError (User × List AccountChange) :=
  (deleteInPlace address).outcome u

/-- A user's own name, or else the name on an address, unless that is empty too. -/
def nameOr (own : String) (fallback : Option String) : Option String :=
  if own ≠ "" then some own else fallback.filter (· ≠ "")

/-- The name to show: each part is the user's own or else that of the default billing address. -/
def displayName (u : User) : DisplayName :=
  let billing := u.defaultAddress? .billing
  { first := nameOr u.firstName (billing.map (·.firstName))
    last := nameOr u.lastName (billing.map (·.lastName)) }

end User

end BackOffice
