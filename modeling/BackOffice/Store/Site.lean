import BackOffice.Store.Accounts
import BackOffice.Store.Discounts
import BackOffice.Store.Migration

/-!
# Sites

A site is what one shop keeps: the tables of both halves, in one database or in two, and the notes
of which migrations each database has run. `Site.migrate` brings the tables of a half up to date,
unless they were built without a note of it.
-/

namespace BackOffice

/-- The databases of a shop. -/
structure Site where
  /-- Whether both halves are in one database. -/
  shared : Bool := false
  accounts : AccountStore := {}
  discounts : DiscountStore := {}
  /-- The migrations noted by the database of the storefront, once it has run one. -/
  storefrontNotes : Option (List Migration) := none
  /-- The migrations noted by the administration's own database. -/
  adminNotes : Option (List Migration) := none

/-- A step that fails while the tables of a half are built. -/
structure MigrationError where
  step : Migration
  cause : DatabaseError
deriving DecidableEq, Repr

def MigrationError.message (e : MigrationError) : String :=
  "while executing migration " ++ toString e.step.version ++ ": " ++ e.cause.message

namespace Site

/-- A site whose databases are empty. -/
def blank (shared : Bool) : Site where
  shared := shared
  accounts := { rows := none }
  discounts := { rows := none }

/-- The migrations noted by the database of a half. -/
def notes (s : Site) : Half → Option (List Migration)
  | .storefront => s.storefrontNotes
  | .admin => if s.shared then s.storefrontNotes else s.adminNotes

/-- Notes migrations in the database of a half. -/
def withNotes (s : Site) (half : Half) (notes : List Migration) : Site :=
  match half, s.shared with
  | .admin, false => { s with adminNotes := some notes }
  | _, _ => { s with storefrontNotes := some notes }

/-- The migrations of a half that are not among those noted. -/
def missing (noted : List Migration) (half : Half) : List Migration :=
  (Migration.steps half).filter fun m => !noted.any fun n => n.version = m.version

/-- Migrations added to those noted, in the order of their versions. -/
def extended (noted steps : List Migration) : List Migration :=
  (noted ++ steps).mergeSort fun m n => m.version ≤ n.version

/-- Whether the tables of a half are there. -/
def hasTables (s : Site) : Half → Bool
  | .storefront => s.accounts.rows.isSome
  | .admin => s.discounts.rows.isSome

/-- Creates the tables of a half. -/
def createTables (s : Site) : Half → Site
  | .storefront => { s with accounts.rows := some {} }
  | .admin => { s with discounts.rows := some {} }

/-- Runs the migrations of a half that its database has not noted. The first of them builds a table
and fails if that is there; the database can note migrations from then on. -/
def migrate (half : Half) : Work Site MigrationError Unit := do
  let s ← Work.store
  let noted := (s.notes half).getD []
  match missing noted half with
  | [] => return
  | first :: rest =>
    if s.hasTables half then
      Work.setStore (s.withNotes half noted)
      throw { step := first, cause := .tableExists (Migration.firstTable half) }
    else Work.setStore ((s.withNotes half (extended noted (first :: rest))).createTables half)

/-- Work on the tables of the storefront. -/
def onAccounts {ε α : Type} (work : Work AccountStore ε α) : Work Site ε α :=
  work.onPart Site.accounts fun s accounts => { s with accounts }

/-- Work on the tables of the administration. -/
def onDiscounts {ε α : Type} (work : Work DiscountStore ε α) : Work Site ε α :=
  work.onPart Site.discounts fun s discounts => { s with discounts }

end Site

end BackOffice
