import BackOffice.Calendar
import BackOffice.Decimal.Basic
import BackOffice.Discount.Scope

/-!
# The rules for discounts

What a discount must satisfy, and the causes for which one is refused (`Invalid`), each with the
field that it is about and its wording. Vouchers and sales, new or changed, are held to the same
rules.
-/

namespace BackOffice

open BackOffice.Text

/-- What a voucher discounts. -/
inductive VoucherType where
  | value
  | product
  | collection
  | category
  | shipping
deriving DecidableEq, Repr, Inhabited

namespace VoucherType

def all : List VoucherType := [.value, .product, .collection, .category, .shipping]

def name : VoucherType → String
  | .value => "value"
  | .product => "product"
  | .collection => "collection"
  | .category => "category"
  | .shipping => "shipping"

/-- The kind of catalogue entity of which a voucher of this type needs at least one in scope. -/
def neededKind? : VoucherType → Option CatalogueKind
  | .product => some .product
  | .collection => some .collection
  | .category => some .category
  | .value | .shipping => none

end VoucherType

/-- How a discount's value is read. -/
inductive ValueType where
  | fixed
  | percentage
deriving DecidableEq, Repr, Inhabited

namespace ValueType

def all : List ValueType := [.fixed, .percentage]

def name : ValueType → String
  | .fixed => "fixed"
  | .percentage => "percentage"

end ValueType

/-- Why a discount is refused. -/
inductive Invalid where
  /-- Nothing is left of the code after trimming. -/
  | emptyCode
  /-- The code has more characters than a code may have. -/
  | longCode (most : Nat)
  /-- The code has a character that no code has. -/
  | codeCharacter
  /-- The value is below zero; `field` is what the value is called there. -/
  | negativeValue (field : String)
  | excessivePercentage (field : String)
  | endBeforeStart
  | negativeMinimum
  /-- A text is not a country code. -/
  | unknownCountry (text : String)
  /-- No entity of the kind that the voucher's type needs is in scope. -/
  | missingScope (kind : CatalogueKind)
  /-- Nothing is left of the name after trimming. -/
  | emptyName
deriving DecidableEq, Repr

namespace Invalid

/-- The field that a refusal is about. -/
def field : Invalid → String
  | .emptyCode | .longCode _ | .codeCharacter => "code"
  | .negativeValue field | .excessivePercentage field => field
  | .endBeforeStart => "end_date"
  | .negativeMinimum => "min_amount_spent"
  | .unknownCountry _ => "countries"
  | .missingScope kind => kind.plural
  | .emptyName => "name"

def reason : Invalid → String
  | .emptyCode => "code cannot be empty"
  | .longCode most => "code must be at most " ++ toString most ++ " characters"
  | .codeCharacter => "code may only contain letters, digits, '-' and '_'"
  | .negativeValue _ => "value cannot be negative"
  | .excessivePercentage _ => "percentage cannot exceed 100"
  | .endBeforeStart => "end date cannot precede start date"
  | .negativeMinimum => "minimum amount cannot be negative"
  | .unknownCountry text => "invalid country code: " ++ text
  | .missingScope kind => kind.plural ++ " are required for this voucher type"
  | .emptyName => "name cannot be empty"

/-- The field and the wording. -/
def message (i : Invalid) : String :=
  i.field ++ ": " ++ i.reason

end Invalid

namespace Discount

/-- Whether a day lies between a first day and a last day, if there is one. -/
def Within (first : Date) (last : Option Date) (day : Date) : Prop :=
  first ≤ day ∧ ∀ d ∈ last, day ≤ d

instance (first : Date) (last : Option Date) (day : Date) : Decidable (Within first last day) :=
  inferInstanceAs (Decidable (_ ∧ _))

/-- A value is not negative, and a percentage not above one hundred. -/
def checkValue (field : String) (type : ValueType) (value : Decimal) : Except Invalid Unit :=
  if value < Decimal.zero then .error (.negativeValue field)
  else if type = .percentage ∧ Decimal.hundred < value then .error (.excessivePercentage field)
  else .ok ()

/-- The last day does not come before the first. -/
def checkWindow (first : Date) (last : Option Date) : Except Invalid Unit :=
  if last.any (· < first) then .error .endBeforeStart else .ok ()

/-- A minimum amount is not negative. -/
def checkMinimum (amount : Option Decimal) : Except Invalid Unit :=
  if amount.any (· < Decimal.zero) then .error .negativeMinimum else .ok ()

/-- A voucher has an entity in scope of the kind that its type needs. -/
def checkScope (type : VoucherType) (scope : CatalogueScope) : Except Invalid Unit :=
  match type.neededKind? with
  | some kind => if (scope.get kind).isEmpty then .error (.missingScope kind) else .ok ()
  | none => .ok ()

/-- A country code: two ASCII letters in upper case, whatever their case and the blanks around. -/
def countryCode (s : String) : Except Invalid String :=
  let code := upper (trim s)
  if code.utf8ByteSize = 2 ∧ code.toList.all Char.isAlpha then .ok code
  else .error (.unknownCountry s)

/-- Puts a text into a list that is in order, in front of the first that is not below it. -/
def insertInOrder (s : String) : List String → List String
  | [] => [s]
  | t :: l => if s ≤ t then s :: t :: l else t :: insertInOrder s l

/-- The texts of a list in order, each as often as it is there. -/
def inOrder (l : List String) : List String := l.foldr insertInOrder []

/-- The codes of a list of countries, in order and without repetitions: they are sorted, and then
each is dropped that repeats the one in front of it. -/
def countryCodes (l : List String) : Except Invalid (List String) :=
  (fun codes => (inOrder codes).eraseReps) <$> l.mapM countryCode

/-- A name that must be given. -/
def requiredName (s : String) : Except Invalid String :=
  match nonBlank? s with
  | some name => .ok name
  | none => .error .emptyName

end Discount

end BackOffice
