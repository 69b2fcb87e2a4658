import BackOffice.Text.Blank
import BackOffice.Text.Numeral

/-!
# Calendar days

Days of the proleptic Gregorian calendar, ordered by time, and their text: `2026-01-05`, with a sign
where the year has more than four digits or lies before year zero.
-/

namespace BackOffice

open BackOffice.Text

namespace Date

/-- Every fourth year is a leap year, except three centuries of four. -/
def isLeap (year : Int) : Bool :=
  year % 4 == 0 && (year % 100 != 0 || year % 400 == 0)

/-- The number of days in a month. -/
def daysIn (year : Int) (month : Nat) : Nat :=
  if month = 2 then if isLeap year then 29 else 28
  else if month = 4 ∨ month = 6 ∨ month = 9 ∨ month = 11 then 30
  else 31

/-- A day that exists, in a year that the calendar covers. -/
def Exists (year : Int) (month day : Nat) : Prop :=
  (-262143 ≤ year ∧ year ≤ 262142) ∧ (1 ≤ month ∧ month ≤ 12) ∧ 1 ≤ day ∧ day ≤ daysIn year month

instance (year : Int) (month day : Nat) : Decidable (Exists year month day) :=
  inferInstanceAs (Decidable (_ ∧ _))

end Date

/-- A day of the calendar. -/
structure Date where
  /-- Year zero is the year before year one. -/
  year : Int
  /-- From one to twelve. -/
  month : Nat
  /-- From one to the length of the month. -/
  day : Nat
  holds : Date.Exists year month day := by decide
deriving DecidableEq

namespace Date

/-- The day, if it exists. -/
def of? (year : Int) (month day : Nat) : Option Date :=
  if h : Exists year month day then some ⟨year, month, day, h⟩ else none

/-- A number that grows from day to day. -/
def rank (d : Date) : Int :=
  (d.year * 13 + d.month) * 32 + d.day

/-- Earlier days come first. -/
instance : LT Date := ⟨fun a b => a.rank < b.rank⟩

instance : LE Date := ⟨fun a b => a.rank ≤ b.rank⟩

instance (a b : Date) : Decidable (a < b) :=
  inferInstanceAs (Decidable (a.rank < b.rank))

instance (a b : Date) : Decidable (a ≤ b) :=
  inferInstanceAs (Decidable (a.rank ≤ b.rank))

def toChars (d : Date) : List Char :=
  (if 0 ≤ d.year ∧ d.year ≤ 9999 then [] else [if d.year < 0 then '-' else '+']) ++
    digits 4 d.year.natAbs ++ '-' :: digits 2 d.month ++ '-' :: digits 2 d.day

/-- The written form: year, month and day with at least four, two and two digits. -/
def toText (d : Date) : String :=
  String.ofList d.toChars

/-- A number of at most `most` digits from the front of a text, and what follows it. -/
def readNumber (most : Nat) (cs : List Char) : Option (Nat × List Char) :=
  let ds := (cs.take most).takeWhile fun c => (digit? c).isSome
  (natural? ds).map fun n => (n, cs.drop ds.length)

/-- A year: one to four digits, or a sign and any number of digits. -/
def readYear : List Char → Option (Int × List Char)
  | '-' :: cs => (readNumber cs.length cs).map fun (n, r) => (-(n : Int), r)
  | '+' :: cs => (readNumber cs.length cs).map fun (n, r) => ((n : Int), r)
  | cs => (readNumber 4 cs).map fun (n, r) => ((n : Int), r)

/-- What follows the hyphen that a text starts with. -/
def readHyphen : List Char → Option (List Char)
  | '-' :: cs => some cs
  | _ => none

/-- Reads a day. Blanks may stand before each number and each hyphen, and at the end. -/
def ofChars? (cs : List Char) : Option Date := do
  let (year, r) ← readYear (stripStart cs)
  let r ← readHyphen (stripStart r)
  let (month, r) ← readNumber 2 (stripStart r)
  let r ← readHyphen (stripStart r)
  let (day, r) ← readNumber 2 (stripStart r)
  if (stripStart r).isEmpty then of? year month day else none

def ofText? (s : String) : Option Date :=
  ofChars? s.toList

end Date

end BackOffice
