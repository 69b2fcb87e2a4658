import BackOffice.Text.Blank
import BackOffice.Text.Numeral

/-!
# Settings

The settings of the two halves of the shop, read from environment variables: where the database is,
how many connections there may be, whether addresses are masked before they are kept, and how long
random voucher codes are. A variable whose bytes are not UTF-8 counts as unset. The environment is
the one that a process has after it has loaded its `.env` file, if there is one: what the file says
of a variable that is already set does not count.
-/

namespace BackOffice

open BackOffice.Text

/-- The variables of an environment with their bytes. -/
abbrev Environment := String → Option ByteArray

def Environment.text? (env : Environment) (name : String) : Option String :=
  (env name).bind String.fromUTF8?

/-- Why settings cannot be read. -/
inductive SettingsError where
  /-- A variable must be set and is not. -/
  | missing (name : String)
  /-- The text of a variable is no number, or too large a one. -/
  | numeral (name : String) (cause : NumeralError)
  | length (name : String) (least most n : Nat)
  /-- The text of a variable is neither a yes nor a no. -/
  | truth (name : String) (text : String)
deriving DecidableEq, Repr

namespace SettingsError

/-- The variable that is at fault. -/
def variableName : SettingsError → String
  | .missing name | .numeral name _ | .length name .. | .truth name _ => name

def message : SettingsError → String
  | .missing name => "Missing environment variable: " ++ name
  | .numeral name cause => invalid name cause.message
  | .length name least most n =>
    invalid name ("must be between " ++ toString least ++ " and " ++ toString most ++ ", got " ++
      toString n)
  | .truth name text => invalid name ("expected a boolean, got '" ++ text ++ "'")
where
  /-- The wording for a variable with an unfit text. -/
  invalid (name reason : String) : String :=
    "Invalid environment variable " ++ name ++ ": " ++ reason

end SettingsError

namespace Settings

/-- The address of a database: its own variable or else the common one. -/
def databaseUrl (env : Environment) (name : String) : Except SettingsError String :=
  match (env.text? name).or (env.text? "DATABASE_URL") with
  | some url => .ok url
  | none => .error (.missing name)

/-- The most connections, ten unless set. The text is not trimmed. -/
def connections (env : Environment) (name : String) : Except SettingsError Nat :=
  match env.text? name with
  | none => .ok 10
  | some s => (readNatural UInt32.size s).mapError (.numeral name)

/-- A yes or a no, in one of several words and any case; no words at all are a no. -/
def truth (env : Environment) (name : String) : Except SettingsError Bool :=
  let word := lower (trim ((env.text? name).getD ""))
  if ["true", "1", "yes", "on"].contains word then .ok true
  else if ["false", "0", "no", "off", ""].contains word then .ok false
  else .error (.truth name word)

def leastCodeLength : Nat := 6

def mostCodeLength : Nat := 32

/-- The length of random codes, twelve unless set. The text is trimmed. -/
def codeLength (env : Environment) (name : String) : Except SettingsError Nat :=
  match env.text? name with
  | none => .ok 12
  | some s => do
    let length ← (readNatural UInt64.size (trim s)).mapError (.numeral name)
    if leastCodeLength ≤ length ∧ length ≤ mostCodeLength then return length
    else throw (.length name leastCodeLength mostCodeLength length)

end Settings

/-- The settings of the storefront, where customers keep their addresses. -/
structure StorefrontSettings where
  databaseUrl : String
  maxConnections : Nat
  /-- Whether addresses are masked before they are kept. -/
  maskAddresses : Bool
deriving DecidableEq, Repr

/-- Reads the storefront's settings off the environment as it is once the `.env` file has been
loaded; the first variable that is unfit is reported. -/
def StorefrontSettings.ofEnvironment (env : Environment) :
    Except SettingsError StorefrontSettings := do
  let databaseUrl ← Settings.databaseUrl env "STOREFRONT_DATABASE_URL"
  let maxConnections ← Settings.connections env "STOREFRONT_DB_MAX_CONNECTIONS"
  let maskAddresses ← Settings.truth env "STOREFRONT_OBFUSCATE_ADDRESSES"
  return { databaseUrl, maxConnections, maskAddresses }

/-- The settings of the administration, where staff manage discounts. -/
structure AdminSettings where
  databaseUrl : String
  maxConnections : Nat
  codeLength : Nat
deriving DecidableEq, Repr

/-- Reads the administration's settings off the environment as it is once the `.env` file has been
loaded; the first variable that is unfit is reported. -/
def AdminSettings.ofEnvironment (env : Environment) : Except SettingsError AdminSettings := do
  let databaseUrl ← Settings.databaseUrl env "ADMIN_DATABASE_URL"
  let maxConnections ← Settings.connections env "ADMIN_DB_MAX_CONNECTIONS"
  let codeLength ← Settings.codeLength env "ADMIN_VOUCHER_CODE_LENGTH"
  return { databaseUrl, maxConnections, codeLength }

/-- The variables that the settings and the program's log are read from. -/
def Settings.variableNames : List String :=
  ["STOREFRONT_DATABASE_URL", "STOREFRONT_DB_MAX_CONNECTIONS", "STOREFRONT_OBFUSCATE_ADDRESSES",
    "ADMIN_DATABASE_URL", "ADMIN_DB_MAX_CONNECTIONS", "ADMIN_VOUCHER_CODE_LENGTH", "DATABASE_URL",
    "LOG_FORMAT"]

end BackOffice
