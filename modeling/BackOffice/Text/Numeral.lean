/-!
# Numerals

Whole numbers as people type them: decimal digits with an optional sign. `readNatural` reads a
number below a limit and says why it refuses a text; `readInteger?` reads a signed one of any size.
Hexadecimal digits are read in either case and written in lower case.
-/

namespace BackOffice.Text

/-- The value of a decimal digit. -/
def digit? (c : Char) : Option Nat :=
  if '0' ≤ c && c ≤ '9' then some (c.toNat - '0'.toNat) else none

/-- The decimal digits of a number, most significant first, with zeros in front up to `width`. -/
def digits (width n : Nat) : List Char :=
  (Nat.toDigits 10 n).leftpad width '0'

/-- Why a text is not a natural number below the limit. -/
inductive NumeralError where
  /-- There is no text at all. -/
  | empty
  /-- A character is not a digit, or a sign stands alone. -/
  | invalidDigit
  /-- The digits read so far reach the limit. -/
  | tooLarge
deriving DecidableEq, Repr

def NumeralError.message : NumeralError → String
  | .empty => "cannot parse integer from empty string"
  | .invalidDigit => "invalid digit found in string"
  | .tooLarge => "number too large to fit in target type"

/-- Reads digits onto the number read so far. A character that is no digit is found before the
number it would have extended is found too large. -/
def readDigits (limit acc : Nat) : List Char → Except NumeralError Nat
  | [] => .ok acc
  | c :: cs =>
    match digit? c with
    | none => .error .invalidDigit
    | some d =>
      if acc * 10 + d < limit then readDigits limit (acc * 10 + d) cs else .error .tooLarge

/-- Reads a natural number below `limit`, with an optional plus sign. -/
def readNatural (limit : Nat) (s : String) : Except NumeralError Nat :=
  match s.toList with
  | [] => .error .empty
  | ['+'] => .error .invalidDigit
  | '+' :: cs => readDigits limit 0 cs
  | cs => readDigits limit 0 cs

/-- The number that a text of digits writes, if it is one. -/
def natural? : List Char → Option Nat
  | [] => none
  | cs => cs.foldlM (fun acc c => (digit? c).map (acc * 10 + ·)) 0

/-- Reads an integer with an optional sign. -/
def readInteger? (s : String) : Option Int :=
  match s.toList with
  | '-' :: cs => (natural? cs).map fun n => -(n : Int)
  | '+' :: cs => (natural? cs).map Int.ofNat
  | cs => (natural? cs).map Int.ofNat

/-- The digit of a number below sixteen. -/
def hexDigit (n : Nat) : Char :=
  if n < 10 then Char.ofNat (48 + n) else Char.ofNat (87 + n)

/-- The value of a hexadecimal digit, in either case. -/
def hexValue? (c : Char) : Option Nat :=
  if '0' ≤ c ∧ c ≤ '9' then some (c.toNat - 48)
  else if 'a' ≤ c ∧ c ≤ 'f' then some (c.toNat - 87)
  else if 'A' ≤ c ∧ c ≤ 'F' then some (c.toNat - 55)
  else none

/-- The last `width` hexadecimal digits of a number. -/
def hexDigits : Nat → Nat → List Char
  | 0, _ => []
  | width + 1, n => hexDigits width (n / 16) ++ [hexDigit (n % 16)]

/-- The number that hexadecimal digits write. -/
def hexNumber? (cs : List Char) : Option Nat :=
  cs.foldlM (fun acc c => (hexValue? c).map (acc * 16 + ·)) 0

end BackOffice.Text
