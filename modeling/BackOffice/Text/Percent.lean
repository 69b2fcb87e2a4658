import BackOffice.Text.Numeral
import BackOffice.Text.Utf8

/-!
# Percent-encoding

A percent sign and two hexadecimal digits stand for an octet; any other character stands for its
octets in UTF-8. A list of names and values is written with ampersands between the pairs, an equals
sign behind each name, and plus signs for blanks (`formPairs`).
-/

namespace BackOffice.Text

/-- The octets that a text stands for. A percent sign without two digits stands for itself. -/
def percentDecode : List Char → List UInt8
  | '%' :: a :: b :: cs =>
    match hexValue? a, hexValue? b with
    | some high, some low => UInt8.ofNat (high * 16 + low) :: percentDecode cs
    | _, _ => '%'.toUInt8 :: percentDecode (a :: b :: cs)
  | c :: cs => (String.singleton c).toUTF8.toList ++ percentDecode cs
  | [] => []

/-- The text before the first character of a kind, and the text behind that character. -/
def splitFirst (separates : Char → Bool) (cs : List Char) : List Char × List Char :=
  (cs.takeWhile fun c => !separates c, (cs.dropWhile fun c => !separates c).tail)

/-- The parts of a text between separators. -/
def splitAll (separates : Char → Bool) : List Char → List (List Char)
  | [] => [[]]
  | c :: cs =>
    match splitAll separates cs with
    | [] => [[c]]
    | part :: parts => if separates c then [] :: part :: parts else (c :: part) :: parts

/-- A name or a value of a pair. -/
def formText (cs : List Char) : String :=
  Utf8.decodeLossy (percentDecode (cs.map fun c => if c == '+' then ' ' else c))

/-- The names and values of a text of pairs. -/
def formPairs (cs : List Char) : List (String × String) :=
  ((splitAll (· == '&') cs).filter (!·.isEmpty)).map fun part =>
    let (name, value) := splitFirst (· == '=') part
    (formText name, formText value)

end BackOffice.Text
