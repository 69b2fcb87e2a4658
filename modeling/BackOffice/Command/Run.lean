import BackOffice.Command.Basic
import BackOffice.Desk.Accounts
import BackOffice.Desk.Discounts
import BackOffice.Json.Discount
import BackOffice.Settings
import BackOffice.Store.Site

/-!
# Running commands

A command reads the settings of the half it is about, connects to that half's database, does its
work at a desk and prints what came of it. `Command.run` is that work; `Program.run` reads a command
line, runs the command and says with which code the program ends: zero for success, one for a
command that failed, two for a command line that was not understood. A program whose document
standard output does not take breaks off with a code of its own.
-/

namespace BackOffice

/-- What a command takes from outside the shop. -/
structure Surroundings where
  env : Environment
  today : Date
  /-- An identifier that no address has yet. -/
  fresh : AddressId
  picks : VoucherCode.Picks
  /-- Whether standard output takes a document. It does not when its reader has gone away, say, or
  its disk is full. -/
  prints : Json → Bool := fun _ => true

/-- Why a command fails. -/
inductive CommandError where
  /-- The settings cannot be read. -/
  | settings (cause : SettingsError)
  /-- There is no connection to the database. -/
  | connection (cause : DatabaseError)
  /-- The settings for building the tables of a half cannot be read. -/
  | migrationSettings (half : Half) (cause : SettingsError)
  /-- There is no connection to the database whose tables are to be built. -/
  | migrationConnection (cause : DatabaseError)
  /-- The tables of a half cannot be built. -/
  | migration (cause : MigrationError)
  | store (cause : StoreError)
  | account (cause : AccountDeskError)
  | discount (cause : DiscountDeskError)

def CommandError.message : CommandError → String
  | .settings cause => "Configuration error: " ++ cause.message
  | .connection cause => "Database connection error: " ++ cause.message
  | .migrationSettings half cause => half.title ++ " configuration error: " ++ cause.message
  | .migrationConnection cause => "Database error: " ++ cause.message
  | .migration cause => "Migration error: " ++ cause.message
  | .store cause => cause.message
  | .account cause => cause.message
  | .discount cause => cause.message

/-- Why a command does not come to its end. -/
inductive Stop where
  /-- It fails and says so. -/
  | failed (cause : CommandError)
  /-- Standard output does not take its document, and the program breaks off. -/
  | cutOff

/-- Whether a database can be connected to. The database itself is always there. -/
def Connection.check (address : String) (maxConnections : Nat) : Except DatabaseError Unit :=
  match Connection.fault? address with
  | some cause => .error (.badAddress cause)
  | none => if maxConnections = 0 then .error .noConnection else .ok ()

namespace Command

/-- The outcome of something that does not need a store. -/
def settle {ε ε' α : Type} (f : ε → ε') : Except ε α → Work Site ε' α
  | .ok a => return a
  | .error e => throw (f e)

/-- Connects to the storefront's database. -/
def connectStorefront (env : Environment) : Work Site CommandError StorefrontSettings := do
  let s ← settle .settings (StorefrontSettings.ofEnvironment env)
  settle .connection (Connection.check s.databaseUrl s.maxConnections)
  return s

/-- Connects to the administration's database. -/
def connectAdmin (env : Environment) : Work Site CommandError AdminSettings := do
  let s ← settle .settings (AdminSettings.ofEnvironment env)
  settle .connection (Connection.check s.databaseUrl s.maxConnections)
  return s

/-- Where the database of a half is, and how many connections it may have. -/
def databaseOf (env : Environment) : Half → Except SettingsError (String × Nat)
  | .storefront =>
    (StorefrontSettings.ofEnvironment env).map fun s => (s.databaseUrl, s.maxConnections)
  | .admin => (AdminSettings.ofEnvironment env).map fun s => (s.databaseUrl, s.maxConnections)

def runMigrations (env : Environment) (half : Half) : Work Site CommandError Unit := do
  let (url, maxConnections) ← settle (.migrationSettings half) (databaseOf env half)
  Work.report (.connecting half)
  settle .migrationConnection (Connection.check url maxConnections)
  Work.report (.migrating half)
  (Site.migrate half).mapError .migration
  Work.report (.migrated half)

/-- A request at the account desk. -/
def atAccounts {α : Type} (env : Environment) (request : AccountDesk → AccountDesk.Request α) :
    Work Site CommandError α := do
  let s ← connectStorefront env
  Site.onAccounts ((request { mask := s.maskAddresses }).mapError .account)

/-- A request at the discount desk. -/
def atDiscounts {α : Type} (s : Surroundings) (request : DiscountDesk → DiscountDesk.Request α) :
    Work Site CommandError α := do
  let settings ← connectAdmin s.env
  Site.onDiscounts
    ((request { codeLength := settings.codeLength, today := s.today }).mapError .discount)

def addUser (env : Environment) (firstName lastName : String) : Work Site CommandError User := do
  let _ ← connectStorefront env
  let u ← Site.onAccounts ((AccountStore.create firstName lastName).mapError .store)
  Work.report (.customerCreated u.id)
  return u

/-- A command that prints nothing. -/
def silent (work : Work Site CommandError Unit) : Work Site Stop Unit := work.mapError .failed

/-- A command that prints what its work comes to. The work is over by then, and stays done if the
document is not taken. -/
def printed {α : Type} (s : Surroundings) (document : α → Json) (work : Work Site CommandError α) :
    Work Site Stop Unit := do
  Work.print s.prints .cutOff (document (← work.mapError .failed))

def userDocument (u : User) : Json := u.view u.book.sorted

def run (s : Surroundings) : Command → Work Site Stop Unit
  | .migrate halves => silent (halves.forM (runMigrations s.env))
  | .createUser firstName lastName => printed s userDocument (addUser s.env firstName lastName)
  | .showUser id => printed s userDocument (atAccounts s.env fun _ => AccountDesk.user id)
  | .addAddress id kind replace data =>
    printed s AddressId.toJson (atAccounts s.env fun desk =>
      if replace then desk.changeDefault id s.fresh data kind
      else desk.storeAddress id s.fresh data kind)
  | .setDefault id address kind =>
    silent (atAccounts s.env fun _ => AccountDesk.setDefault id address kind)
  | .deleteAddress id address =>
    silent (atAccounts s.env fun _ => AccountDesk.deleteAddress id address)
  | .createVoucher input =>
    printed s Voucher.toJson (atDiscounts s fun desk => desk.createVoucher input s.picks)
  | .showVoucher id => printed s Voucher.toJson (atDiscounts s fun _ => DiscountDesk.voucher id)
  | .updateVoucher id update =>
    printed s Voucher.toJson (atDiscounts s fun _ => DiscountDesk.updateVoucher id update)
  | .deleteVoucher id => silent (atDiscounts s fun _ => DiscountDesk.deleteVoucher id)
  | .changeVoucherScope id op entities =>
    printed s Voucher.toJson
      (atDiscounts s fun _ => DiscountDesk.changeVoucherScope id op entities)
  | .createSale input => printed s Sale.toJson (atDiscounts s fun desk => desk.createSale input)
  | .showSale id => printed s Sale.toJson (atDiscounts s fun _ => DiscountDesk.sale id)
  | .updateSale id update =>
    printed s Sale.toJson (atDiscounts s fun _ => DiscountDesk.updateSale id update)
  | .deleteSale id => silent (atDiscounts s fun _ => DiscountDesk.deleteSale id)
  | .changeSaleScope id op entities =>
    printed s Sale.toJson (atDiscounts s fun _ => DiscountDesk.changeSaleScope id op entities)

end Command

/-- How the program ends. -/
inductive Ending where
  | done
  | failed (cause : CommandError)
  /-- The program breaks off when its document is not taken. -/
  | cutOff
  | notRun (cause : UsageError)

namespace Ending

/-- The code with which the program ends. Help and version that were asked for are no failure. -/
def exitCode : Ending → Nat
  | .done => 0
  | .failed _ => 1
  | .cutOff => 101
  | .notRun .help | .notRun .version => 0
  | .notRun _ => 2

end Ending

namespace Program

def name : String := "sk-cli"

/-- The name and the version of the program. -/
def versionText : String := name ++ " 0.1.0"

/-- Whether events are written as JSON. -/
def logsJson (env : Environment) : Bool :=
  env.text? "LOG_FORMAT" == some "json"

/-- Reads a command line and runs the command on a site. A command that fails is reported. -/
def run (words : List String) (s : Surroundings) (site : Site) : Ending × Session Site :=
  match Command.parse words with
  | .error e => (.notRun e, { store := site })
  | .ok command =>
    match (command.run s).start site with
    | (.ok (), w) => (.done, w)
    | (.error .cutOff, w) => (.cutOff, w)
    | (.error (.failed e), w) =>
      (.failed e,
        { w with trace.events := w.trace.events ++ [.commandFailed e.message] })

end Program

end BackOffice
