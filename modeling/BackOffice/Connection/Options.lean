import BackOffice.Connection.Url
import BackOffice.Text.Blank
import BackOffice.Text.Quoted

/-!
# Options of a connection

What a connection takes from the address of its database: the parts of the URL, percent-decoded,
and the pairs of its query. `Connection.fault?` says what is wrong with an address. The database
itself is not part of the address here: any address without a fault is taken to lead to it.
-/

namespace BackOffice

open BackOffice.Text

/-- Why the address of a database cannot be used. -/
inductive ConnectionFault where
  /-- It is no URL. -/
  | url (cause : UrlFault)
  /-- A part of it is not UTF-8. -/
  | encoding (cause : Utf8Fault)
  /-- It asks for an unknown use of encryption. -/
  | encryption (value : String)
  | numeral (cause : NumeralError)
  /-- The number of a host in its query is malformed. -/
  | hostNumber
deriving DecidableEq, Repr

/-- The wording of any fault of configuration. -/
def ConnectionFault.wording (reason : String) : String :=
  "error with configuration: " ++ reason

/-- The wording of a fault. Encryption is configured on its own, and says so. -/
def ConnectionFault.message : ConnectionFault → String
  | .url cause => wording cause.message
  | .encoding cause => wording cause.message
  | .encryption value => wording (wording ("unknown value " ++ quoted value ++ " for `ssl_mode`"))
  | .numeral cause => wording cause.message
  | .hostNumber => wording "invalid IP address syntax"

namespace Connection

/-- The uses of encryption that can be asked for. -/
def encryptionModes : List String :=
  ["disable", "allow", "prefer", "require", "verify-ca", "verify-full"]

/-- What is wrong with a part of a URL. -/
def partFault? (part : List Char) : Option ConnectionFault :=
  (Utf8.fault? (percentDecode part)).map .encoding

/-- What is wrong with a host. Only one that names a socket by its path is decoded. -/
def hostFault? (host : List Char) : Option ConnectionFault :=
  if (percentDecode host).head? == some 0x2f then partFault? host else none

/-- What is wrong with a number below a limit. -/
def numeralFault? (limit : Nat) (value : String) : Option ConnectionFault :=
  match readNatural limit value with
  | .ok _ => none
  | .error cause => some (.numeral cause)

/-- What is wrong with a pair of the query. Unknown names do not count. -/
def pairFault? (pair : String × String) : Option ConnectionFault :=
  let (name, value) := pair
  match name with
  | "sslmode" | "ssl-mode" =>
    if encryptionModes.contains (lower value) then none else some (.encryption value)
  | "statement-cache-capacity" => numeralFault? UInt64.size value
  | "port" => numeralFault? UInt16.size value
  | "hostaddr" => if Host.isAddress value.toList then none else some .hostNumber
  | _ => none

/-- What is wrong with the address of a database: the first fault, in the order of its parts. -/
def fault? (address : String) : Option ConnectionFault :=
  match Url.ofText? address with
  | .error cause => some (.url cause)
  | .ok u =>
    (hostFault? u.host).or <| (partFault? u.user).or <| (partFault? u.password).or <|
      (partFault? u.path).or <| (formPairs u.query).findSome? pairFault?

end Connection

end BackOffice
