import BackOffice.Address.Basic
import BackOffice.Assoc

/-!
# Address books

An address book holds addresses by identifier and an index from each value to one address that has
it. Records from storage may repeat a value; then the index names the first of them, and when that
one is removed, the one with the smallest identifier that is left. `AddressBook.getOrInsert` adds an
address only if its value is new.
-/

namespace BackOffice

/-- A user's addresses. -/
@[ext] structure AddressBook where
  /-- The addresses, in the order in which they came. -/
  entries : Assoc AddressId AddressData := .empty
  /-- The address that a look-up by value finds. -/
  index : Assoc AddressData AddressId := .empty
deriving DecidableEq

namespace AddressBook

def empty : AddressBook := {}

/-- Adds a record from storage. It becomes the one found by its value if no other was before. -/
def record (b : AddressBook) (a : Address) : AddressBook where
  entries := b.entries.put a.id a.data
  index := b.index.putNew a.data a.id

/-- The book of a list of records. -/
def ofAddresses (records : List Address) : AddressBook :=
  records.foldl record empty

def size (b : AddressBook) : Nat := b.entries.size

def isEmpty (b : AddressBook) : Bool := b.entries.entries.isEmpty

/-- The value of an address. -/
def get? (b : AddressBook) (id : AddressId) : Option AddressData :=
  b.entries.get? id

/-- Whether an identifier names an address of the book. -/
def contains (b : AddressBook) (id : AddressId) : Bool :=
  (b.get? id).isSome

def find? (b : AddressBook) (d : AddressData) : Option AddressId :=
  b.index.get? d

/-- The addresses, ordered by identifier. -/
def sorted (b : AddressBook) : List Address :=
  (b.entries.entries.map fun e => Address.mk e.1 e.2).mergeSort fun a c => a.id.val ≤ c.id.val

/-- Of the best address so far and an entry, the one with the value and the smaller identifier. -/
def smaller (d : AddressData) (best : Option AddressId) (e : AddressId × AddressData) :
    Option AddressId :=
  if e.2 ≠ d then best
  else
    match best with
    | none => some e.1
    | some id => if e.1.val < id.val then some e.1 else best

/-- The address with this value and the smallest identifier. -/
def smallest? (entries : Assoc AddressId AddressData) (d : AddressData) : Option AddressId :=
  entries.entries.foldl (smaller d) none

/-- The address with this value, added under the fresh identifier if there is none. The last part of
the answer says whether it was added. -/
def getOrInsert (b : AddressBook) (fresh : AddressId) (d : AddressData) :
    AddressBook × AddressId × Bool :=
  match b.find? d with
  | some id => (b, id, false)
  | none =>
    ({ entries := b.entries.put fresh d, index := b.index.put d fresh }, fresh, true)

/-- The index after an address has been taken from the entries: where it named that address, it now
names another of the same value, if there is one. -/
def reindex (index : Assoc AddressData AddressId) (rest : Assoc AddressId AddressData)
    (id : AddressId) (d : AddressData) : Assoc AddressData AddressId :=
  if index.get? d = some id then
    match smallest? rest d with
    | none => index.erase d
    | some other => (index.erase d).put d other
  else index

/-- Takes an address out of the book and returns its value, if it was there. -/
def remove (b : AddressBook) (id : AddressId) : AddressBook × Option AddressData :=
  match b.get? id with
  | none => (b, none)
  | some d =>
    let rest := b.entries.erase id
    ({ entries := rest, index := reindex b.index rest id d }, some d)

end AddressBook

end BackOffice
