import BackOffice.Character.Direction
import BackOffice.Character.Joining
import BackOffice.Connection.NameChart
import BackOffice.Text.Punycode
import BackOffice.Text.Utf8

/-!
# The names of hosts

A name of the web may be in any script. `HostName.ofChars?` brings a name into its normal form:
characters that stand for others are replaced, labels in Punycode are decoded, and each label is
held to rules that keep names from looking alike. Points part the labels; a label may be empty.
-/

namespace BackOffice.HostName

open BackOffice.Character BackOffice.Text

/-- The characters that no name can have, of the web or not, besides the colon that ends it. -/
def isForbidden (c : Char) : Bool :=
  c.toNat = 0 || " \t\n\r#/:<>?@[\\]^|".toList.contains c

/-- The characters of ASCII that no name of the web can have. -/
def isBarred (c : Char) : Bool :=
  c.toNat < 32 || c.toNat = 127 || c == '%' || isForbidden c

/-- What stands for a character in a name, if it can be in one. -/
def image? (c : Char) : Option (List Char) :=
  if c.toNat < 128 then some [c.toLower]
  else if dropped.contains c then some []
  else
    match replaced.find? c with
    | some cs => some cs
    | none => if unassigned.contains c || refused.contains c then none else some [c]

/-- The normal form of a text in a name. -/
def settle? (cs : List Char) : Option (List Char) :=
  (cs.mapM image?).map fun images => normalForm images.flatten

/-- The front of a label in Punycode. -/
def mark : List Char := ['x', 'n', '-', '-']

/-- The longest text that is written or read in Punycode has this many characters. -/
def maxDecoded : Nat := 1000

/-- The longest Punycode that is read has this many characters. -/
def maxEncoded : Nat := 2000

/-- The text of a label in Punycode, from behind its mark on. It must not be what ASCII could have
said, and it must be in normal form. -/
def decodeLabel? (code : List Char) : Option (List Char) :=
  if code.getLast?.all (· == '-') || maxEncoded < code.length then none
  else (Punycode.decode? code).filter fun text => settle? text == some text

/-- The text of a label in normal form, if it can be one. -/
def readLabel? (label : List Char) : Option (List Char) := do
  let text ← if mark.isPrefixOf label then decodeLabel? (label.drop mark.length) else some label
  if text.any isBarred || text.head?.any isMark || !joinersFit text then none
  else if text.any (128 ≤ ·.toNat) && maxDecoded < text.length then none
  else some text

/-- The normal form of a name, if it can be one. If anything in it runs from the right, no label may
mix directions. -/
def ofChars? (cs : List Char) : Option (List Char) := do
  let labels ← (splitAll (· == '.') (← settle? cs)).mapM readLabel?
  if labels.any runsRight && !labels.all keepsDirection then none
  else some (labels.intersperse ['.']).flatten

/-- The normal form of the name that octets write. -/
def ofOctets? (octets : List UInt8) : Option (List Char) :=
  if (Utf8.fault? octets).isSome then none else ofChars? (Utf8.decodeLossy octets).toList

end BackOffice.HostName
