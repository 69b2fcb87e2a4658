import BackOffice.Discount.Rules

/-!
# Voucher codes

The code that a customer types to redeem a voucher. Case and surrounding blanks do not matter: a
code is kept in upper case. A voucher without a code of its own gets a random one, whose letters and
digits are not easily taken for each other.
-/

namespace BackOffice

open BackOffice.Text

/-- A voucher's code. -/
structure VoucherCode where
  text : String
deriving DecidableEq

namespace VoucherCode

/-- The most characters a code may have. -/
def maxLength : Nat := 32

/-- The characters of random codes: no zero beside `O`, no one beside `I`. -/
def alphabet : List Char := "ABCDEFGHJKLMNPQRSTUVWXYZ23456789".toList

/-- Whether a code may have a character. -/
def allows (c : Char) : Bool :=
  c.isAlphanum || c == '-' || c == '_'

/-- The code that a person typed. -/
def parse (s : String) : Except Invalid VoucherCode :=
  let code := upper (trim s)
  if code.isEmpty then .error .emptyCode
  else if maxLength < code.utf8ByteSize then .error (.longCode maxLength)
  else if code.toList.all allows then .ok ⟨code⟩
  else .error .codeCharacter

/-- A random draw of characters for a code, one for each place. -/
abbrev Picks := Nat → Fin alphabet.length

/-- A code of the asked length, or of the nearest that a code may have. -/
def generate (length : Nat) (picks : Picks) : VoucherCode :=
  ⟨String.ofList ((List.range (min (max length 1) maxLength)).map fun i => alphabet.get (picks i))⟩

end VoucherCode

end BackOffice
