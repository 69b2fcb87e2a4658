import BackOffice.Store.Accounts

/-!
# The account desk

What can be asked for a customer's account. Each request loads the account, lets the account's own
rules decide, and writes down what changed, all in one transaction: a request that fails leaves the
tables as they were.
-/

namespace BackOffice

/-- Why the account desk refuses a request. -/
inductive AccountDeskError where
  | userNotFound (id : UserId)
  | account (cause : AccountError)
  | store (cause : StoreError)
deriving DecidableEq

def AccountDeskError.message : AccountDeskError → String
  | .userNotFound id => "user " ++ id.toText ++ " not found"
  | .account cause => cause.message
  | .store cause => "repository error: " ++ cause.message

/-- The desk, with the one choice that its shop makes. -/
structure AccountDesk where
  /-- Whether addresses are masked before they are kept. -/
  mask : Bool := false

namespace AccountDesk

abbrev Request (α : Type) : Type := Work AccountStore AccountDeskError α

/-- A user that must be there. -/
def user (id : UserId) : Request User := do
  match ← (AccountStore.load id).mapError .store with
  | some u => return u
  | none => throw (.userNotFound id)

/-- Lets an operation change a user's account, and writes down the changes that it reports. -/
def withUser {α : Type} (id : UserId)
    (operation : InPlace User AccountError (α × List AccountChange)) : Request α :=
  Work.transaction do
    let u ← user id
    match (operation u).1 with
    | .error e => throw (.account e)
    | .ok (a, changes) =>
      (AccountStore.applyChanges id changes).mapError .store
      return a

/-- Adds an address, which becomes the default of a kind that has none; returns the address in the
book that has the value. -/
def storeAddress (desk : AccountDesk) (id : UserId) (fresh : AddressId) (data : AddressData)
    (kind : AddressKind) : Request AddressId := do
  let (address, created) ← withUser id do
    let stored ← User.storeInPlace fresh (data.prepared desk.mask) kind
    return ((stored.address, stored.created), stored.changes)
  Work.report (.addressStored address created)
  return address

/-- Adds an address and makes it the default of a kind. -/
def changeDefault (desk : AccountDesk) (id : UserId) (fresh : AddressId) (data : AddressData)
    (kind : AddressKind) : Request AddressId := do
  let address ← withUser id do
    let stored ← User.changeInPlace fresh (data.prepared desk.mask) kind
    return (stored.address, stored.changes)
  Work.report (.defaultChanged address)
  return address

/-- An operation of which only the changes count. -/
def silently (operation : InPlace User AccountError (List AccountChange)) :
    InPlace User AccountError (Unit × List AccountChange) :=
  return ((), ← operation)

/-- Makes an address of the book the default of a kind. -/
def setDefault (id : UserId) (address : AddressId) (kind : AddressKind) : Request Unit := do
  withUser id (silently (User.setDefaultInPlace address kind))
  Work.report .defaultSet

/-- Takes an address from the book and clears the defaults that name it. -/
def deleteAddress (id : UserId) (address : AddressId) : Request Unit := do
  withUser id (silently (User.deleteInPlace address))
  Work.report .addressDeleted

/-- The name to show for a user. -/
def displayName (id : UserId) : Request DisplayName :=
  return (← user id).displayName

end AccountDesk

end BackOffice
