/-!
# Punycode

A text of any characters is written in ASCII: first its own ASCII characters, then, behind the last
minus sign, the others as a row of numbers. Each number says how far it is from one insertion to the
next, where all places of the text are counted through for each code in turn. How the digits of a
number weigh depends on the numbers before it (`Punycode.adapt`).
-/

namespace BackOffice.Text.Punycode

/-- The value of a digit: the letters come before the decimal digits. -/
def digit? (c : Char) : Option Nat :=
  if 'a' ≤ c ∧ c ≤ 'z' then some (c.toNat - 97)
  else if 'A' ≤ c ∧ c ≤ 'Z' then some (c.toNat - 65)
  else if '0' ≤ c ∧ c ≤ '9' then some (c.toNat - 22)
  else none

/-- The least value of a digit behind which its number goes on. -/
def threshold (bias place : Nat) : Nat :=
  min 26 (max 1 (36 * place - bias))

/-- No number that is read reaches this bound. -/
def bound : Nat := UInt32.size

/-- Reads a number onto `sum`, where a digit at `place` has a weight, and returns what follows. -/
def readNumber? (bias place weight sum : Nat) : List Char → Option (Nat × List Char)
  | [] => none
  | c :: cs =>
    match digit? c with
    | none => none
    | some d =>
      let t := threshold bias place
      if bound ≤ sum + d * weight then none
      else if d < t then some (sum + d * weight, cs)
      else if bound ≤ weight * (36 - t) then none
      else readNumber? bias (place + 1) (weight * (36 - t)) (sum + d * weight) cs

/-- A number has at least one digit. -/
theorem length_lt_of_readNumber? {bias place weight sum : Nat} {cs : List Char}
    {result : Nat × List Char} (read : readNumber? bias place weight sum cs = some result) :
    result.2.length < cs.length := by
  fun_induction readNumber? bias place weight sum cs with
  | case1 => simp at read
  | case2 => simp at read
  | case3 => simp at read
  | case4 => cases read; simp
  | case5 => simp at read
  | case6 _ _ _ _ _ _ _ _ _ _ _ ih => exact Nat.lt_succ_of_lt (ih read)

/-- Shrinks a distance to at most 455, and counts the steps that it takes. -/
def shrink (distance : Nat) : Nat × Nat :=
  if distance ≤ 455 then (distance, 0)
  else
    let (rest, steps) := shrink (distance / 35)
    (rest, steps + 1)
termination_by distance
decreasing_by omega

/-- How digits weigh after an insertion, from its distance and the length of the text. -/
def adapt (distance length : Nat) (isFirst : Bool) : Nat :=
  let halved := if isFirst then distance / 700 else distance / 2
  let (rest, steps) := shrink (halved + halved / length)
  36 * steps + 36 * rest / (rest + 38)

/-- Inserts the characters of a row of numbers into a text. `code` is the code of the character to
insert next, and `place` where the next insertion counts from. -/
def insertAll? (bias code place : Nat) (text numbers : List Char) : Option (List Char) :=
  if numbers.isEmpty then some text
  else
    match _read : readNumber? bias 1 1 place numbers with
    | none => none
    | some (sum, rest) =>
      let length := text.length + 1
      let code := code + sum / length
      if code.isValidChar then
        insertAll? (adapt (sum - place) length (place == 0)) code (sum % length + 1)
          (text.insertIdx (sum % length) (Char.ofNat code)) rest
      else none
termination_by numbers.length
decreasing_by exact length_lt_of_readNumber? ‹_›

/-- The ASCII characters at the front of a text, and the numbers behind them. A minus sign at the
very front does not part the two. -/
def split (cs : List Char) : List Char × List Char :=
  let numbers := (cs.reverse.takeWhile (· != '-')).reverse
  let front := cs.take (cs.length - numbers.length)
  if front.length ≤ 1 then ([], cs) else (front.dropLast, numbers)

/-- The text that a text writes. -/
def decode? (cs : List Char) : Option (List Char) :=
  let (front, numbers) := split cs
  if front.all (·.toNat < 128) then insertAll? 72 128 0 front numbers else none

end BackOffice.Text.Punycode
