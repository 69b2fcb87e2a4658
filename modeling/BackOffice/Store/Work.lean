import BackOffice.Half
import BackOffice.InPlace
import BackOffice.Json.Account

/-!
# Work on a store

A piece of work reads and changes a store, keeps a record of what it did, and ends with a result or
an error (`Work`). The record holds the statements that were meant to change rows, the events that
the program reports, and the documents that it prints. `Work.transaction` takes the changes of
failing work back.
-/

namespace BackOffice

/-- How a statement is meant to change the rows of a table. -/
inductive Change where
  | insert
  | update
  | delete
deriving DecidableEq, Repr

def Change.keyword : Change → String
  | .insert => "INSERT"
  | .update => "UPDATE"
  | .delete => "DELETE"

/-- A statement that is meant to change the rows of a table, whether it succeeds or not. -/
structure Write where
  change : Change
  table : String
deriving DecidableEq, Repr

def Write.toText (w : Write) : String :=
  w.change.keyword ++ " " ++ w.table

/-- What the program reports while it runs. -/
inductive Event where
  | customerCreated (user : UserId)
  | addressStored (address : AddressId) (created : Bool)
  | defaultSet
  | defaultChanged (address : AddressId)
  | addressDeleted
  | voucherCreated (voucher : VoucherId) (code : String)
  | voucherUpdated
  | voucherDeleted
  | voucherScopeUpdated (changed : Nat)
  | saleCreated (sale : SaleId) (name : String)
  | saleUpdated
  | saleDeleted
  | saleScopeUpdated (changed : Nat)
  | connecting (half : Half)
  | migrating (half : Half)
  | migrated (half : Half)
  | commandFailed (text : String)
deriving DecidableEq

namespace Event

/-- How serious an event is. -/
def level : Event → String
  | .commandFailed _ => "ERROR"
  | _ => "INFO"

def message : Event → String
  | .customerCreated _ => "Customer created"
  | .addressStored .. => "Address stored"
  | .defaultSet => "Default address set"
  | .defaultChanged _ => "Default address changed"
  | .addressDeleted => "Address deleted"
  | .voucherCreated .. => "Voucher created"
  | .voucherUpdated => "Voucher updated"
  | .voucherDeleted => "Voucher deleted"
  | .voucherScopeUpdated _ => "Voucher scope updated"
  | .saleCreated .. => "Sale created"
  | .saleUpdated => "Sale updated"
  | .saleDeleted => "Sale deleted"
  | .saleScopeUpdated _ => "Sale scope updated"
  | .connecting half => "Connecting to " ++ half.name ++ " database..."
  | .migrating half => "Running " ++ half.name ++ " migrations..."
  | .migrated half => half.title ++ " migrations complete!"
  | .commandFailed text => "Command failed: " ++ text

/-- What an event says besides its wording. -/
def details : Event → List (String × Json)
  | .customerCreated user => [("user_id", .str user.toText)]
  | .addressStored address created =>
    [("address_id", address.toJson), ("created", .bool created)]
  | .defaultChanged address => [("address_id", address.toJson)]
  | .voucherCreated voucher code => [("voucher_id", .str voucher.toText), ("code", .str code)]
  | .voucherScopeUpdated changed | .saleScopeUpdated changed => [("changed", .int changed)]
  | .saleCreated sale name => [("sale_id", .str sale.toText), ("name", .str name)]
  | _ => []

/-- The record of an event in a log. -/
def toJson (e : Event) : Json :=
  .obj ([("level", .str e.level), ("message", .str e.message)] ++ e.details)

end Event

/-- What a piece of work has done besides changing the store. -/
structure Trace where
  /-- The statements that were meant to change rows. -/
  writes : List Write := []
  events : List Event := []
  printed : List Json := []

/-- A store together with what the work on it has done so far. -/
structure Session (σ : Type) where
  /-- The store as it is now. -/
  store : σ
  trace : Trace := {}

/-- Work on a store of type `σ`, ending with a result or an error. -/
abbrev Work (σ ε α : Type) : Type := InPlace (Session σ) ε α

/-- A store whose rows can be put back to what they were. -/
class Transactional (σ : Type) where
  /-- The later store with the rows of the earlier one. Keys given out in between stay given out. -/
  rollback (before after : σ) : σ

namespace Work

variable {σ τ ε ε' α : Type}

def store : Work σ ε σ := return (← get).store

def setStore (s : σ) : Work σ ε Unit := modify fun w => { w with store := s }

/-- Notes a statement that is meant to change rows. -/
def note (change : Change) (table : String) : Work σ ε Unit :=
  modify fun w => { w with trace.writes := w.trace.writes ++ [⟨change, table⟩] }

def report (e : Event) : Work σ ε Unit :=
  modify fun w => { w with trace.events := w.trace.events ++ [e] }

/-- Prints a document if standard output takes it, and stops otherwise. -/
def print (takes : Json → Bool) (refused : ε) (j : Json) : Work σ ε Unit :=
  if takes j then modify fun w => { w with trace.printed := w.trace.printed ++ [j] }
  else throw refused

/-- The work with its error put in other terms. -/
def mapError (f : ε → ε') (work : Work σ ε α) : Work σ ε' α := ExceptT.adapt f work

/-- Work whose changes of rows are taken back if it fails. -/
def transaction [Transactional σ] (work : Work σ ε α) : Work σ ε α := fun w =>
  match work w with
  | (.ok a, w') => (.ok a, w')
  | (.error e, w') =>
    (.error e, { w' with store := Transactional.rollback w.store w'.store })

/-- Work on a part of a store. -/
def onPart (part : σ → τ) (replace : σ → τ → σ) (work : Work τ ε α) : Work σ ε α := fun w =>
  let (r, w') := work { store := part w.store, trace := w.trace }
  (r, { store := replace w.store w'.store, trace := w'.trace })

/-- Runs work on a store from an empty trace. -/
def start (work : Work σ ε α) (s : σ) : Except ε α × Session σ := work { store := s }

end Work

end BackOffice
