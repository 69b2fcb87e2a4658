import BackOffice.Decimal.Basic
import BackOffice.Decimal.Binary
import BackOffice.Text.Numeral

/-!
# The text of a decimal

A decimal is written with all the digits of its scale (`10.00`). It is read from digits with an
optional sign and point, where underscores may separate digits, or from such a text with a power of
ten (`1.5e3`). Digits that no longer fit are rounded half away from zero: the first of them decides
(`roundOff`), and only digits and underscores may follow it.
-/

namespace BackOffice.Decimal

open BackOffice.Text

/-- The written form: sign, whole part, and as many fractional digits as the scale says. -/
def toChars (d : Decimal) : List Char :=
  let ds := digits (d.scale + 1) d.magnitude
  let split := ds.length - d.scale
  (if d.negative then ['-'] else []) ++ ds.take split ++
    (if d.scale = 0 then [] else '.' :: ds.drop split)

def toText (d : Decimal) : String :=
  String.ofList d.toChars

/-- Whether a text has only digits and underscores. -/
def isFiller (cs : List Char) : Bool :=
  cs.all fun c => (digit? c).isSome || c == '_'

/-- Ends a reading at the first digit that no longer fits, `next`: from five on it raises the
magnitude, and a magnitude that thereby outgrows its 96 bits gives up a fractional digit. -/
def roundOff (negative : Bool) (magnitude scale next : Nat) (rest : List Char) : Option Decimal :=
  if !isFiller rest then none
  else if next < 5 then ofDigits? negative magnitude scale
  else if magnitude + 1 < Nat.pow 2 96 then ofDigits? negative (magnitude + 1) scale
  else if scale = 0 then none
  else ofDigits? negative ((magnitude + 5) / 10) (scale - 1)

/-- From this magnitude on, a reading no longer takes its digits as 64-bit words. -/
def wordBound : Nat := (UInt64.size - 1) / 10 - 255

/-- Reads on from a magnitude and a scale. `point` says that the point has been read, `started` that
a digit has. Behind 28 fractional digits the next digit is rounded off; an underscore there counts
as a zero while the last digit was taken as a word, and later on as nothing. -/
def readFrom (negative point started : Bool) (magnitude scale : Nat) :
    List Char → Option Decimal
  | [] => if started then ofDigits? negative magnitude scale else none
  | c :: cs =>
    let full := point && 28 ≤ scale
    match digit? c with
    | some d =>
      if full then roundOff negative magnitude scale d cs
      else if Nat.pow 2 96 ≤ magnitude * 10 + d then
        if point then roundOff negative magnitude scale d cs else none
      else
        readFrom negative point true (magnitude * 10 + d) (if point then scale + 1 else scale) cs
    | none =>
      if c == '.' && !point then readFrom negative true started magnitude scale cs
      else if c == '_' && started then
        if full && magnitude / 10 < wordBound then roundOff negative magnitude scale 0 cs
        else readFrom negative point started magnitude scale cs
      else none

/-- Reads a decimal whose sign has been read. -/
def readUnsigned (negative : Bool) : List Char → Option Decimal :=
  readFrom negative false false 0 0

/-- Reads a decimal without a power of ten. -/
def readPlain : List Char → Option Decimal
  | '-' :: cs => readUnsigned true cs
  | '+' :: cs => readUnsigned false cs
  | cs => readUnsigned false cs

/-- The decimal times a power of ten. The power first uses up fractional digits, then multiplies; a
power that multiplies is at most 28. -/
def raise (d : Decimal) (power : Nat) : Option Decimal :=
  if power ≤ d.scale then ofParts? d.negative d.magnitude (d.scale - power)
  else if 28 < power then none
  else ofParts? d.negative (d.magnitude * Nat.pow 10 (power - d.scale)) 0

/-- The decimal divided by a power of ten, at most the 28th. Fractional digits beyond the 28th are
rounded, and what is rounded to zero keeps its sign. -/
def lower (d : Decimal) (power : Nat) : Option Decimal :=
  if 28 < power then none
  else if d.scale + power ≤ 28 then ofParts? d.negative d.magnitude (d.scale + power)
  else
    let unit := Nat.pow 10 (d.scale + power - 28)
    ofParts? d.negative ((d.magnitude + unit / 2) / unit) 28

/-- Reads a decimal with a power of ten behind `e` or `E`. -/
def readPower (cs : List Char) : Option Decimal := do
  let isMark (c : Char) : Bool := c == 'e' || c == 'E'
  let base ← readPlain (cs.takeWhile fun c => !isMark c)
  let power (ds : List Char) : Option Nat :=
    (readNatural UInt32.size (String.ofList ds)).toOption
  match cs.dropWhile fun c => !isMark c with
  | [] => none
  | _ :: '-' :: ds => base.lower (← power ds)
  | _ :: ds => base.raise (← power ds)

def ofText? (s : String) : Option Decimal :=
  readPlain s.toList <|> readPower s.toList

/-- The digits of `c * 10 ^ e` without a power of ten. -/
def plainDigits (c : Nat) (e : Int) : List Char :=
  if 0 ≤ e then digits 1 (c * Nat.pow 10 e.toNat)
  else
    let places := (-e).toNat
    let ds := digits (places + 1) c
    ds.take (ds.length - places) ++ '.' :: ds.drop (ds.length - places)

/-- The decimal of a number that is only known as a binary fraction: the shortest decimal that
rounds to it, read as a text. -/
def ofBinary? (negative : Bool) (b : Binary64) : Option Decimal :=
  let (c, e) := b.shortest
  readUnsigned negative (plainDigits c e)

end BackOffice.Decimal
