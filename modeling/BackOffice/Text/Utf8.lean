/-!
# UTF-8

Octets are read one at a time: the first octet of a character says how many more it has
(`Utf8.first?`), and each of those lies in a range. `Utf8.fault?` says where octets stop being
UTF-8, and `Utf8.decodeLossy` reads what it can, with a mark for each fault.
-/

namespace BackOffice.Text

/-- Where octets stop being UTF-8. -/
inductive Utf8Fault where
  /-- The octets at an index begin no character; `length` of them could have. -/
  | invalid (length index : Nat)
  /-- The octets end within the character that begins at an index. -/
  | incomplete (index : Nat)
deriving DecidableEq, Repr

def Utf8Fault.message : Utf8Fault → String
  | .invalid length index =>
    "invalid utf-8 sequence of " ++ toString length ++ " bytes from index " ++ toString index
  | .incomplete index => "incomplete utf-8 byte sequence from index " ++ toString index

namespace Utf8

/-- What the octets read so far of a character call for. -/
structure Pending where
  owed : Nat := 0
  /-- The least that the next octet can be. -/
  low : Nat := 0x80
  /-- The greatest that the next octet can be. -/
  high : Nat := 0xbf
  /-- The bits read so far. -/
  code : Nat := 0
deriving DecidableEq, Repr

/-- What the first octet of a character calls for, if it can be one. -/
def first? (octet : UInt8) : Option Pending :=
  let b := octet.toNat
  if b < 0x80 then some { code := b }
  else if b < 0xc2 then none
  else if b < 0xe0 then some { owed := 1, code := b - 0xc0 }
  else if b = 0xe0 then some { owed := 2, low := 0xa0 }
  else if b = 0xed then some { owed := 2, high := 0x9f, code := 0xd }
  else if b < 0xf0 then some { owed := 2, code := b - 0xe0 }
  else if b = 0xf0 then some { owed := 3, low := 0x90 }
  else if b < 0xf4 then some { owed := 3, code := b - 0xf0 }
  else if b = 0xf4 then some { owed := 3, high := 0x8f, code := 4 }
  else none

/-- What is called for after a further octet, if it can be one. -/
def next? (p : Pending) (octet : UInt8) : Option Pending :=
  if p.low ≤ octet.toNat ∧ octet.toNat ≤ p.high then
    some { owed := p.owed - 1, code := p.code * 64 + octet.toNat % 64 }
  else none

/-- The first fault in octets from an index on, within a character that began at `start`. -/
def faultFrom (p : Pending) (start index : Nat) : List UInt8 → Option Utf8Fault
  | [] => if p.owed = 0 then none else some (.incomplete start)
  | b :: bs =>
    if p.owed = 0 then
      match first? b with
      | some q => faultFrom q index (index + 1) bs
      | none => some (.invalid 1 index)
    else
      match next? p b with
      | some q => faultFrom q start (index + 1) bs
      | none => some (.invalid (index - start) start)

/-- The first fault in octets. -/
def fault? (octets : List UInt8) : Option Utf8Fault :=
  faultFrom {} 0 0 octets

/-- What stands for octets that are not UTF-8. -/
def replacement : Char := '\ufffd'

/-- The characters that an octet completes, and what is called for after it. -/
def step (p : Pending) (octet : UInt8) : List Char × Pending :=
  let settled (q : Pending) : List Char × Pending :=
    if q.owed = 0 then ([Char.ofNat q.code], {}) else ([], q)
  let begun : List Char × Pending :=
    match first? octet with
    | some q => settled q
    | none => ([replacement], {})
  if p.owed = 0 then begun
  else
    match next? p octet with
    | some q => settled q
    | none => (replacement :: begun.1, begun.2)

/-- The characters of octets, with what a character begun before calls for. -/
def decodeFrom (p : Pending) : List UInt8 → List Char
  | [] => if p.owed = 0 then [] else [replacement]
  | b :: bs => (step p b).1 ++ decodeFrom (step p b).2 bs

/-- The text of octets, with a mark for each fault. -/
def decodeLossy (octets : List UInt8) : String :=
  String.ofList (decodeFrom {} octets)

end Utf8

end BackOffice.Text
