import BackOffice.Text.Numeral

/-!
# Identifiers

Users, vouchers and sales have database keys, signed 32-bit words; the kind of entity is part of an
identifier's type, so a voucher's key is never taken for a sale's. Addresses have 128-bit
identifiers that are drawn at random, with the usual hyphenated text.
-/

namespace BackOffice

/-- What a database key can belong to. -/
inductive Entity where
  | user
  | voucher
  | sale
deriving DecidableEq, Repr

/-- The key of an entity. -/
structure Id (entity : Entity) where
  key : Int32
deriving DecidableEq

abbrev UserId := Id .user

abbrev VoucherId := Id .voucher

abbrev SaleId := Id .sale

/-- The key of a product, a collection or a category. The catalogue owns these entities; here a key
means something only together with the kind that it is listed under. -/
abbrev CatalogueId := Int32

def Id.toText {entity : Entity} (id : Id entity) : String :=
  toString id.key.toInt

/-- The identifier of an address. -/
structure AddressId where
  /-- The 128 bits as a number. -/
  val : Nat
  val_lt : val < Nat.pow 2 128 := by decide
deriving DecidableEq

namespace AddressId

open BackOffice.Text

/-- The identifier of a number, if it has at most 128 bits. -/
def ofNat? (n : Nat) : Option AddressId :=
  if h : n < Nat.pow 2 128 then some ⟨n, h⟩ else none

/-- Puts hyphens between groups of eight, four, four, four and twelve digits. -/
def hyphenate (cs : List Char) : List Char :=
  cs.take 8 ++ '-' :: (cs.drop 8).take 4 ++ '-' :: (cs.drop 12).take 4 ++
    '-' :: (cs.drop 16).take 4 ++ '-' :: cs.drop 20

/-- The written form: 32 lower-case digits in five groups. -/
def toText (id : AddressId) : String :=
  String.ofList (hyphenate (hexDigits 32 id.val))

/-- Reads five groups of digits between hyphens. -/
def readGroups (cs : List Char) : Option AddressId :=
  let ds := cs.filter (· != '-')
  if ds.length = 32 ∧ hyphenate ds = cs then (hexNumber? ds).bind ofNat? else none

/-- Whether a text starts with `urn:uuid:`, in any case. -/
def hasUrn (cs : List Char) : Bool :=
  (cs.take 9).map Char.toLower == "urn:uuid:".toList

/-- Reads an identifier: 32 digits, or the written form alone, in braces or behind `urn:uuid:`. -/
def ofText? (s : String) : Option AddressId :=
  let cs := s.toList
  match cs.length with
  | 32 => (hexNumber? cs).bind ofNat?
  | 36 => readGroups cs
  | 38 =>
    if cs.head? = some '\x7b' ∧ cs.getLast? = some '\x7d' then readGroups cs.tail.dropLast
    else none
  | 45 => if hasUrn cs then readGroups (cs.drop 9) else none
  | _ => none

end AddressId

end BackOffice
