import BackOffice.Account.User
import BackOffice.Store.Key
import BackOffice.Store.Work

/-!
# The tables of accounts

Two tables: users, with pointers to their default addresses, and addresses, each with its owner. The
database keeps users unique by their keys and addresses by identifier, and by value within a user;
an address has an owner, and a user's row that is written has pointers to addresses of that same
user only.
`AccountStore.load` puts a user together from the tables, and `AccountStore.applyChanges` writes
down what has changed in an account.
-/

namespace BackOffice

/-- A row of the table of users. -/
structure UserRow where
  id : UserId
  firstName : String
  lastName : String
  billing : Option AddressId := none
  shipping : Option AddressId := none
deriving DecidableEq

namespace UserRow

def pointer (r : UserRow) : AddressKind → Option AddressId
  | .billing => r.billing
  | .shipping => r.shipping

/-- The row with the pointer of a kind set. -/
def withPointer (r : UserRow) : AddressKind → Option AddressId → UserRow
  | .billing, address => { r with billing := address }
  | .shipping, address => { r with shipping := address }

/-- The row with its pointers to an address cleared. -/
def unpointed (r : UserRow) (address : AddressId) : UserRow :=
  AddressKind.all.foldl
    (fun r k => if r.pointer k = some address then r.withPointer k none else r) r

end UserRow

/-- A row of the table of addresses. -/
structure AddressRow where
  address : Address
  /-- The user whose address it is. -/
  owner : UserId
deriving DecidableEq

/-- The rows of both tables. -/
structure AccountRows where
  users : List UserRow := []
  /-- The addresses, in the order in which they were inserted. -/
  addresses : List AddressRow := []
deriving DecidableEq

namespace AccountRows

def user? (rows : AccountRows) (id : UserId) : Option UserRow :=
  rows.users.find? fun r => r.id = id

def addressesOf (rows : AccountRows) (owner : UserId) : List Address :=
  (rows.addresses.filter fun r => r.owner = owner).map (·.address)

/-- Whether a pointer names an address of a user, if it names one at all. -/
def hasTarget (rows : AccountRows) (owner : UserId) (address : Option AddressId) : Bool :=
  address.all fun a => (rows.addressesOf owner).any fun own => own.id = a

/-- Changes the rows of a user. -/
def modifyUser (rows : AccountRows) (id : UserId) (f : UserRow → UserRow) : AccountRows :=
  { rows with users := rows.users.map fun r => if r.id = id then f r else r }

/-- Takes an address of a user away and clears the user's pointers to it. -/
def deleteAddress (rows : AccountRows) (owner : UserId) (address : AddressId) : AccountRows :=
  let isIt (r : AddressRow) : Bool := r.address.id = address ∧ r.owner = owner
  if rows.addresses.any isIt then
    { rows with addresses := rows.addresses.filter fun r => !isIt r }.modifyUser owner
      (·.unpointed address)
  else rows

end AccountRows

/-- The tables of accounts, if they have been created, and the sequence of user keys. -/
structure AccountStore where
  rows : Option AccountRows := some {}
  /-- How many user keys have been given out. -/
  usersGiven : Nat := 0
  /-- Whether the table of users has the primary key that the migrations give it. -/
  userKeysUnique : Bool := true
deriving DecidableEq

instance : Transactional AccountStore where
  rollback before after := { after with rows := before.rows }

namespace AccountStore

/-- The name of the table of users. -/
def userTable : String := "storefront.user"

/-- The name of the table of addresses. -/
def addressTable : String := "storefront.address"

/-- The rule that a pointer of a kind keeps. -/
def pointerRule : AddressKind → String
  | .billing => "user_default_billing_fk"
  | .shipping => "user_default_shipping_fk"

abbrev Statement (α : Type) : Type := Work AccountStore DatabaseError α

/-- The rows of the tables, for a statement on one of them. -/
def rowsFor (table : String) : Statement AccountRows := do
  match (← Work.store).rows with
  | some rows => return rows
  | none => throw (.noTable table)

def setRows (rows : AccountRows) : Statement Unit := do
  Work.setStore { ← Work.store with rows := some rows }

/-- Gives out a key for a user. -/
def nextUser : Statement UserId := do
  let s ← Work.store
  match Sequence.key? s.usersGiven with
  | none => throw (.noMoreKeys "user_id_seq")
  | some id =>
    Work.setStore { s with usersGiven := s.usersGiven + 1 }
    return id

/-- Refuses a key that a user has already. -/
def checkUserKey (rows : AccountRows) (id : UserId) : Statement Unit := do
  let s ← Work.store
  if s.userKeysUnique && (rows.user? id).isSome then throw (.duplicate "user_pkey")

/-- Inserts a user without addresses and returns the key, which no row may have yet. -/
def insertUser (firstName lastName : String) : Statement UserId := do
  let rows ← rowsFor userTable
  Work.note .insert userTable
  let id ← nextUser
  checkUserKey rows id
  setRows { rows with users := rows.users ++ [{ id, firstName, lastName }] }
  return id

/-- Refuses a user's row with a pointer to anything but an address of that user. -/
def checkPointers (rows : AccountRows) (r : UserRow) : Statement Unit :=
  AddressKind.all.forM fun kind =>
    if rows.hasTarget r.id (r.pointer kind) then pure ()
    else throw (.dangling "user" (pointerRule kind))

/-- Changes the rows of a user; says whether there is one. -/
def updateUser (id : UserId) (f : UserRow → UserRow) : Statement Bool := do
  let rows ← rowsFor userTable
  Work.note .update userTable
  let changed := rows.modifyUser id f
  (changed.users.filter fun r => r.id = id).forM (checkPointers changed)
  setRows changed
  return (rows.user? id).isSome

/-- Sets the names of a user; says whether there is one. -/
def updateNames (id : UserId) (firstName lastName : String) : Statement Bool :=
  updateUser id fun r => { r with firstName, lastName }

/-- Sets a pointer of a user, if there is one. -/
def updatePointer (id : UserId) (kind : AddressKind) (address : Option AddressId) :
    Statement Unit := do
  let _ ← updateUser id (·.withPointer kind address)

def insertAddress (owner : UserId) (address : Address) : Statement Unit := do
  let rows ← rowsFor addressTable
  Work.note .insert addressTable
  if rows.addresses.any fun r => r.address.id = address.id then throw (.duplicate "address_pkey")
  if (rows.addressesOf owner).any fun own => own.data = address.data then
    throw (.duplicate "address_user_value_idx")
  if (rows.user? owner).isNone then throw (.dangling "address" "address_user_id_fkey")
  setRows { rows with addresses := rows.addresses ++ [{ address, owner }] }

/-- Deletes an address of a user, if it is there. -/
def deleteAddress (owner : UserId) (address : AddressId) : Statement Unit := do
  let rows ← rowsFor addressTable
  Work.note .delete addressTable
  setRows (rows.deleteAddress owner address)

/-- A user with the address book, put together from the tables. -/
def load (id : UserId) : Work AccountStore StoreError (Option User) := do
  let rows ← (rowsFor userTable).mapError .database
  match rows.user? id with
  | none => return none
  | some r =>
    let book := AddressBook.ofAddresses (rows.addressesOf id)
    match User.ofParts r.id r.firstName r.lastName book r.billing r.shipping with
    | .ok user => return some user
    | .error e => throw (.corrupt e.message)

def create (firstName lastName : String) : Work AccountStore StoreError User := do
  let id ← (insertUser firstName lastName).mapError .database
  return { id, firstName, lastName }

def rename (id : UserId) (firstName lastName : String) : Work AccountStore StoreError Unit := do
  if !(← (updateNames id firstName lastName).mapError .database) then throw .notFound

/-- Writes one change of an account down. -/
def applyChange (id : UserId) : AccountChange → Work AccountStore StoreError Unit
  | .addressCreated address =>
    (insertAddress id address).mapError (.ofRefusal "address already in address book")
  | .addressDeleted address => (deleteAddress id address).mapError .database
  | .defaultSet kind address => (updatePointer id kind address).mapError .database

/-- Writes changes of an account down, in order. -/
def applyChanges (id : UserId) (changes : List AccountChange) :
    Work AccountStore StoreError Unit :=
  changes.forM (applyChange id)

/-- Puts a user into the table as given. -/
def seedUser (row : UserRow) : Statement Unit := do
  let rows ← rowsFor userTable
  setRows { rows with users := rows.users ++ [row] }

/-- Puts an address into the table as given. -/
def seedAddress (row : AddressRow) : Statement Unit := do
  let rows ← rowsFor addressTable
  setRows { rows with addresses := rows.addresses ++ [row] }

end AccountStore

end BackOffice
