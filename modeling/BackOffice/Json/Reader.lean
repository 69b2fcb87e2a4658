import BackOffice.Json.Basic
import BackOffice.Text.Numeral

/-!
# Reading JSON texts

`Json.ofText?` reads a value from its text. A whole number that fits a signed or an unsigned 64-bit
word is an integer; any other number, a zero with a minus sign among them, is a binary fraction. Of
the members of an object that share a name the last one counts.

The readers below take a value off the front of a text and return what follows it.
-/

namespace BackOffice.Json

open BackOffice.Text

/-- The text without blanks at its front. -/
def skipBlanks (cs : List Char) : List Char :=
  cs.dropWhile fun c => c == ' ' || c == '\n' || c == '\t' || c == '\r'

/-- The unit that four hexadecimal digits write. -/
def readUnit : List Char → Option (Nat × List Char)
  | a :: b :: c :: d :: cs => (hexNumber? [a, b, c, d]).map (·, cs)
  | _ => none

/-- The character that a backslash and the text behind it stand for. A character beyond 16 bits is
written as two units, a high and a low surrogate. -/
def readEscape : List Char → Option (Char × List Char)
  | '"' :: cs => some ('"', cs)
  | '\\' :: cs => some ('\\', cs)
  | '/' :: cs => some ('/', cs)
  | 'b' :: cs => some ('\x08', cs)
  | 'f' :: cs => some ('\x0c', cs)
  | 'n' :: cs => some ('\n', cs)
  | 'r' :: cs => some ('\r', cs)
  | 't' :: cs => some ('\t', cs)
  | 'u' :: cs => do
    let (high, cs) ← readUnit cs
    if high < 0xd800 ∨ 0xe000 ≤ high then return (Char.ofNat high, cs)
    else if 0xdc00 ≤ high then none
    else match cs with
      | '\\' :: 'u' :: cs => do
        let (low, cs) ← readUnit cs
        if 0xdc00 ≤ low ∧ low < 0xe000 then
          return (Char.ofNat (0x10000 + (high - 0xd800) * 0x400 + (low - 0xdc00)), cs)
        else none
      | _ => none
  | _ => none

/-- The characters up to the closing quote. Control characters must be escaped. `fuel` bounds the
number of characters. -/
def readQuoted : Nat → List Char → Option (List Char × List Char)
  | 0, _ => none
  | fuel + 1, cs =>
    match cs with
    | [] => none
    | '"' :: cs => some ([], cs)
    | '\\' :: cs => do
      let (c, cs) ← readEscape cs
      let (text, cs) ← readQuoted fuel cs
      return (c :: text, cs)
    | c :: cs =>
      if c.toNat < 32 then none
      else (readQuoted fuel cs).map fun (text, cs) => (c :: text, cs)

/-- The digits at the front. -/
def spanDigits (cs : List Char) : List Char × List Char :=
  (cs.takeWhile Char.isDigit, cs.dropWhile Char.isDigit)

/-- The whole part of a number: digits, of which the first is a zero only if it is alone. -/
def readWhole (cs : List Char) : Option (List Char × List Char) :=
  match spanDigits cs with
  | ([], _) => none
  | ('0' :: _ :: _, _) => none
  | found => some found

/-- The digits behind a point, if there is one. -/
def readFraction : List Char → Option (Option (List Char) × List Char)
  | '.' :: cs =>
    match spanDigits cs with
    | ([], _) => none
    | (ds, cs) => some (some ds, cs)
  | cs => some (none, cs)

/-- The number that digits write, of any size. -/
def number (ds : List Char) : Nat :=
  (natural? ds).getD 0

/-- The power of ten behind `e` or `E`, if there is one. -/
def readPower (cs : List Char) : Option (Option Int × List Char) :=
  let power (sign : Int) (cs : List Char) : Option (Option Int × List Char) :=
    match spanDigits cs with
    | ([], _) => none
    | (ds, cs) => some (some (sign * number ds), cs)
  let behindMark : List Char → Option (Option Int × List Char)
    | '+' :: cs => power 1 cs
    | '-' :: cs => power (-1) cs
    | cs => power 1 cs
  match cs with
  | 'e' :: cs => behindMark cs
  | 'E' :: cs => behindMark cs
  | cs => some (none, cs)

/-- Takes digits onto a significand while it fits 64 bits; the second result is what is left. -/
def takeFitting (significand : Nat) : List Char → Nat × List Char
  | [] => (significand, [])
  | c :: cs =>
    let longer := significand * 10 + (c.toNat - '0'.toNat)
    if longer < UInt64.size then takeFitting longer cs else (significand, c :: cs)

/-- The binary fraction that digits, more digits behind the point and a power of ten write. Digits
that no longer fit the significand are dropped; those of the whole part still count as places. -/
def fraction? (whole behind : List Char) (power : Int) : Option Binary64 :=
  let (significand, dropped) := takeFitting 0 whole
  let (significand, dropped') := takeFitting significand behind
  Binary64.ofDecimal? significand (power + dropped.length - (behind.length - dropped'.length : Nat))

/-- A number behind its sign. -/
def readUnsigned (negative : Bool) (cs : List Char) : Option (Json × List Char) := do
  let (whole, cs) ← readWhole cs
  let (behind, cs) ← readFraction cs
  let (power, cs) ← readPower cs
  let real : Option Json :=
    (fraction? whole (behind.getD []) (power.getD 0)).map (.real negative)
  let n := number whole
  let isInt := behind.isNone && power.isNone &&
    (if negative then n != 0 && n ≤ 1 <<< 63 else n < UInt64.size)
  let value ← if isInt then some (.int (if negative then -(n : Int) else n)) else real
  return (value, cs)

/-- The value of a word that is neither quoted nor a number. -/
def readWord : List Char → Option (Json × List Char)
  | 'n' :: 'u' :: 'l' :: 'l' :: cs => some (.null, cs)
  | 't' :: 'r' :: 'u' :: 'e' :: cs => some (.bool true, cs)
  | 'f' :: 'a' :: 'l' :: 's' :: 'e' :: cs => some (.bool false, cs)
  | '-' :: cs => readUnsigned true cs
  | cs => readUnsigned false cs

/-- The members of which no later one has the same name. -/
def lastMembers : List (String × Json) → List (String × Json)
  | [] => []
  | (key, value) :: members =>
    let rest := lastMembers members
    if rest.any (·.1 == key) then rest else (key, value) :: rest

mutual

/-- A value at the front, behind blanks. `fuel` bounds the nesting and the number of items. -/
def readValue : Nat → List Char → Option (Json × List Char)
  | 0, _ => none
  | fuel + 1, cs =>
    match skipBlanks cs with
    | '"' :: cs => (readQuoted (cs.length + 1) cs).map fun (text, cs) => (.str (.ofList text), cs)
    | '[' :: cs =>
      match skipBlanks cs with
      | ']' :: cs => some (.arr [], cs)
      | cs => (readItems fuel cs).map fun (items, cs) => (.arr items, cs)
    | '\x7b' :: cs =>
      match skipBlanks cs with
      | '\x7d' :: cs => some (.obj [], cs)
      | cs => (readMembers fuel cs).map fun (members, cs) => (.obj (lastMembers members), cs)
    | cs => readWord cs

/-- The items of an array up to its closing bracket; there is at least one. -/
def readItems : Nat → List Char → Option (List Json × List Char)
  | 0, _ => none
  | fuel + 1, cs => do
    let (item, cs) ← readValue fuel cs
    match skipBlanks cs with
    | ']' :: cs => return ([item], cs)
    | ',' :: cs =>
      let (items, cs) ← readItems fuel cs
      return (item :: items, cs)
    | _ => none

/-- The members of an object up to its closing brace; there is at least one. -/
def readMembers : Nat → List Char → Option (List (String × Json) × List Char)
  | 0, _ => none
  | fuel + 1, cs => do
    let '"' :: cs := skipBlanks cs | none
    let (key, cs) ← readQuoted (cs.length + 1) cs
    let ':' :: cs := skipBlanks cs | none
    let (value, cs) ← readValue fuel cs
    let member := (String.ofList key, value)
    match skipBlanks cs with
    | '\x7d' :: cs => return ([member], cs)
    | ',' :: cs =>
      let (members, cs) ← readMembers fuel cs
      return (member :: members, cs)
    | _ => none

end

/-- Reads a value from a text that holds nothing else. -/
def ofText? (s : String) : Option Json := do
  let cs := s.toList
  let (value, rest) ← readValue (2 * cs.length + 1) cs
  if (skipBlanks rest).isEmpty then some value else none

end BackOffice.Json
