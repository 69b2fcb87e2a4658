import BackOffice.Text.Blank
import BackOffice.Text.Numeral
import BackOffice.Text.Percent

/-!
# Charts of characters

Properties of characters come as charts: lines of entries with blanks between them, in which codes
are written in hexadecimal. In the chart of a set (`CharSet`) an entry is a range, `61-7a`, or a
single code. In the chart of a mapping (`CharMap`) an entry also says what a code is mapped to:
`e9>65.301` gives a code several images, `41-5a>61` maps a range one to one, and `/2` behind a
range (`100-12e/2>101`) takes only every second code of it.
-/

namespace BackOffice

open BackOffice.Text

namespace Chart

/-- The code that hexadecimal digits write. -/
def code (cs : List Char) : Nat :=
  (hexNumber? cs).getD 0

/-- The first and the last code of a range. -/
def range (cs : List Char) : Nat × Nat :=
  let (first, last) := splitFirst (· == '-') cs
  (code first, code (if last.isEmpty then first else last))

/-- The entries of a chart. -/
def entries (lines : List String) : List (List Char) :=
  lines.flatMap fun line => chunks line.toList

end Chart

/-- A set of characters. -/
structure CharSet where
  /-- The first and the last code of each range. -/
  ranges : List (Nat × Nat)
deriving DecidableEq

namespace CharSet

def ofLines (lines : List String) : CharSet :=
  ⟨(Chart.entries lines).map Chart.range⟩

/-- Whether a character is in the set. -/
def contains (s : CharSet) (c : Char) : Bool :=
  s.ranges.any fun (first, last) => first ≤ c.toNat && c.toNat ≤ last

end CharSet

/-- What a mapping does with a range of characters. -/
structure CharImage where
  first : Nat
  last : Nat
  /-- The distance between the codes of the range that are meant. -/
  step : Nat
  codes : List Nat
deriving DecidableEq

namespace CharImage

def ofEntry (entry : List Char) : CharImage :=
  let (source, codes) := splitFirst (· == '>') entry
  let (range, step) := splitFirst (· == '/') source
  let (first, last) := Chart.range range
  { first, last, step := (natural? step).getD 1,
    codes := (splitAll (· == '.') codes).map Chart.code }

/-- Whether a character is among those mapped. -/
def covers (i : CharImage) (c : Char) : Bool :=
  i.first ≤ c.toNat && c.toNat ≤ i.last && (c.toNat - i.first) % i.step == 0

/-- The images of a character, as far behind those of the first one as it is itself. -/
def apply (i : CharImage) (c : Char) : List Char :=
  i.codes.map fun code => Char.ofNat (code + (c.toNat - i.first))

end CharImage

/-- A mapping of characters to texts. -/
structure CharMap where
  /-- What the mapping does with each range. -/
  images : List CharImage
deriving DecidableEq

namespace CharMap

def ofLines (lines : List String) : CharMap :=
  ⟨(Chart.entries lines).map CharImage.ofEntry⟩

/-- The image of a character, if it is mapped. -/
def find? (m : CharMap) (c : Char) : Option (List Char) :=
  (m.images.find? (·.covers c)).map (·.apply c)

/-- The single character whose image is a text. -/
def findSource? (m : CharMap) (cs : List Char) : Option Char :=
  let codes := cs.map Char.toNat
  (m.images.find? (·.codes == codes)).map fun i => Char.ofNat i.first

end CharMap

end BackOffice
