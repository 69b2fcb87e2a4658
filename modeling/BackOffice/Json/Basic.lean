import BackOffice.Decimal.Binary

/-!
# JSON values

The values that the library reads and writes as JSON, and how a record is read from one: from an
object by its members' names, or from an array of its members in order (`Json.record?`). Members
that a record does not know are passed over, and the order of an object's members does not matter.
-/

namespace BackOffice

/-- A JSON value. -/
inductive Json where
  | null
  | bool (value : Bool)
  /-- A whole number that fits a signed or an unsigned 64-bit word. -/
  | int (value : Int)
  /-- Any other number, with its sign, which a zero can have too. -/
  | real (negative : Bool) (value : Binary64)
  | str (value : String)
  | arr (items : List Json)
  | obj (members : List (String × Json))
deriving Inhabited

namespace Json

/-- The value or `null`. -/
def nullable {α : Type} (encode : α → Json) : Option α → Json
  | none => .null
  | some a => encode a

def list {α : Type} (encode : α → Json) (items : List α) : Json :=
  .arr (items.map encode)

def string? : Json → Option String
  | .str s => some s
  | _ => none

def bool? : Json → Option Bool
  | .bool b => some b
  | _ => none

def int32? : Json → Option Int32
  | .int n => if -2147483648 ≤ n ∧ n < 2147483648 then some (Int32.ofInt n) else none
  | _ => none

def uint32? : Json → Option UInt32
  | .int n => if 0 ≤ n ∧ n < 4294967296 then some (UInt32.ofNat n.toNat) else none
  | _ => none

def ofInt32 (n : Int32) : Json := .int n.toInt

def ofUInt32 (n : UInt32) : Json := .int n.toNat

def list? {α : Type} (decode : Json → Option α) : Json → Option (List α)
  | .arr items => items.mapM decode
  | _ => none

/-- Reads the name of a choice, alone or as the one member of an object whose value is `null`. -/
def choice? {α : Type} (ofName? : String → Option α) : Json → Option α
  | .str s => ofName? s
  | .obj [(s, .null)] => ofName? s
  | _ => none

/-- The member of an object with the given name. -/
def member? (name : String) : Json → Option Json
  | .obj members => members.lookup name
  | _ => none

/-- A record's members by name. -/
def Record : Type := String → Option Json

/-- Views a value as a record with the given members: an object, or an array of the members in
order. Only where `partly` is set may an array stop early. -/
def record? (names : List String) (partly : Bool) : Json → Option Record
  | .obj members => some fun name => members.lookup name
  | .arr items =>
    if items.length = names.length ∨ (partly ∧ items.length < names.length) then
      some fun name => (names.zip items).lookup name
    else none
  | _ => none

namespace Record

variable {α : Type}

/-- A member that must be there. -/
def required (r : Record) (name : String) (decode : Json → Option α) : Option α :=
  (r name).bind decode

/-- A member that may be missing or `null`. -/
def optional (r : Record) (name : String) (decode : Json → Option α) : Option (Option α) :=
  match r name with
  | none => some none
  | some .null => some none
  | some j => (decode j).map some

/-- A member that has a default. -/
def withDefault (r : Record) (name : String) (default : α) (decode : Json → Option α) : Option α :=
  match r name with
  | none => some default
  | some j => decode j

end Record

end Json

end BackOffice
