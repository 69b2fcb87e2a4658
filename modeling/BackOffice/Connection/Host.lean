import BackOffice.Connection.Name
import BackOffice.Text.Numeral
import BackOffice.Text.Percent

/-!
# Hosts

The host in the address of a database: a number of four octets (`isFourOctets`, `numericFault?`),
one of eight groups in brackets (`isEightGroups`), or a name. Names under the schemes of the web
(`webFault?`) keep to stricter rules than names under other schemes (`plainFault?`), and a name of
the web that ends in a number must be a number of four octets throughout, if in a looser form.
-/

namespace BackOffice

open BackOffice.Text

/-- Why a text is no host. -/
inductive HostFault where
  /-- There is no host where there must be one. -/
  | empty
  | eightGroups
  | fourOctets
  /-- A name has a character that a name cannot have. -/
  | character
  /-- A name of the web cannot be one. -/
  | name
deriving DecidableEq, Repr

def HostFault.message : HostFault → String
  | .empty => "empty host"
  | .eightGroups => "invalid IPv6 address"
  | .fourOctets => "invalid IPv4 address"
  | .character => "invalid domain character"
  | .name => "invalid international domain name"

namespace Host

/-- Whether a text is a decimal number below 256 without zeros in front. -/
def isOctet : List Char → Bool
  | ['0'] => true
  | '0' :: _ => false
  | cs => cs.length ≤ 3 && (natural? cs).any (· < 256)

/-- Whether a text is four octets between points. -/
def isFourOctets (cs : List Char) : Bool :=
  let parts := splitAll (· == '.') cs
  parts.length == 4 && parts.all isOctet

/-- Whether a text is one to four hexadecimal digits. -/
def isGroup (cs : List Char) : Bool :=
  1 ≤ cs.length && cs.length ≤ 4 && cs.all fun c => (hexValue? c).isSome

/-- How many groups a text of groups between colons has. `closing` says that nothing follows it, so
that four octets may stand for its last two groups. -/
def groups? (closing : Bool) : List Char → Option Nat
  | [] => some 0
  | cs =>
    let parts := splitAll (· == ':') cs
    if parts.all isGroup then some parts.length
    else if closing && parts.dropLast.all isGroup && parts.getLast?.any isFourOctets then
      some (parts.length + 1)
    else none

/-- The text before the first two colons in a row, and the text behind them. -/
def splitGap : List Char → Option (List Char × List Char)
  | ':' :: ':' :: cs => some ([], cs)
  | c :: cs => (splitGap cs).map fun (front, back) => (c :: front, back)
  | [] => none

/-- Whether a text is eight groups between colons. Two colons in a row stand for the groups that are
missing, at least one. -/
def isEightGroups (cs : List Char) : Bool :=
  match splitGap cs with
  | none => groups? true cs == some 8
  | some (front, back) =>
    match groups? false front, groups? true back with
    | some m, some n => m + n ≤ 7
    | _, _ => false

/-- Whether a text is a number of four octets or of eight groups. -/
def isAddress (cs : List Char) : Bool :=
  isFourOctets cs || isEightGroups cs

/-- The digits of a number without the mark of its base, and the base: sixteen behind `0x`, eight
behind another zero, else ten. -/
def base : List Char → List Char × Nat
  | '0' :: 'x' :: cs => (cs, 16)
  | '0' :: 'X' :: cs => (cs, 16)
  | '0' :: c :: cs => (c :: cs, 8)
  | cs => (cs, 10)

/-- The number that a part of a host writes in one of three bases. A mark alone writes zero. -/
def part? (cs : List Char) : Option Nat :=
  let (ds, base) := base cs
  if cs.isEmpty then none
  else
    ds.foldlM (fun acc c => (hexValue? c).bind fun d =>
      if d < base then some (acc * base + d) else none) 0

/-- The parts of a host between points. A point at the end may be left out. -/
def parts (cs : List Char) : List (List Char) :=
  let all := splitAll (· == '.') cs
  if 1 < all.length && all.getLast?.any (·.isEmpty) then all.dropLast else all

/-- Whether the last part of a host is a number. -/
def endsInNumber (cs : List Char) : Bool :=
  (parts cs).getLast?.any fun part =>
    (!part.isEmpty && part.all Char.isDigit) || (part? part).isSome

/-- What is wrong with a host that ends in a number. It has at most four parts; the last one fills
the octets that the others leave, and each of the others is one octet. -/
def numericFault? (cs : List Char) : Option HostFault :=
  let all := parts cs
  match all.mapM part? with
  | none => some .fourOctets
  | some numbers =>
    let front := numbers.dropLast
    if numbers.length ≤ 4 && front.all (· < 256) &&
        numbers.getLast?.any (· < 1 <<< (8 * (4 - front.length))) then none
    else some .fourOctets

/-- What is wrong with a text that starts with a bracket. -/
def bracketFault? (cs : List Char) : Option HostFault :=
  if cs.getLast? == some ']' && isEightGroups (cs.drop 1).dropLast then none
  else some .eightGroups

/-- What is wrong with a host outside the web. It may be empty. -/
def plainFault? (cs : List Char) : Option HostFault :=
  if cs.head? == some '[' then bracketFault? cs
  else if cs.any HostName.isForbidden then some .character
  else none

/-- What is wrong with a host of the web, which may be percent-encoded. -/
def webFault? (cs : List Char) : Option HostFault :=
  if cs.head? == some '[' then bracketFault? cs
  else
    match HostName.ofOctets? (percentDecode cs) with
    | none => some .name
    | some [] => some .empty
    | some name => if endsInNumber name then numericFault? name else none

end Host

end BackOffice
