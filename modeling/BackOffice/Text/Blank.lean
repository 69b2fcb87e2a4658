/-!
# Blank characters, trimming and words

Free text comes from people: with spaces around it, and with any of Unicode's spaces between its
words. This module fixes which characters are blank (the property White_Space), and says what a
text is without the blanks around it (`trim`) and what its words are (`words`).
-/

namespace BackOffice.Text

/-- Whether a character has the Unicode property White_Space. -/
def isBlank (c : Char) : Bool :=
  let n := c.toNat
  (9 ≤ n && n ≤ 13) || n == 0x20 || n == 0x85 || n == 0xA0 || n == 0x1680 ||
    (0x2000 ≤ n && n ≤ 0x200A) || n == 0x2028 || n == 0x2029 || n == 0x202F || n == 0x205F ||
    n == 0x3000

/-- The text from its first character that is not blank. -/
def stripStart (cs : List Char) : List Char :=
  cs.dropWhile isBlank

/-- The text up to its last character that is not blank. -/
def stripEnd (cs : List Char) : List Char :=
  (stripStart cs.reverse).reverse

/-- The text without the blanks around it. -/
def trim (s : String) : String :=
  String.ofList (stripEnd (stripStart s.toList))

/-- The maximal runs of characters that are not blank, in order. -/
def chunks : List Char → List (List Char)
  | [] => []
  | c :: cs =>
    if isBlank c then chunks cs
    else
      match cs with
      | [] => [[c]]
      | d :: _ =>
        if isBlank d then [c] :: chunks cs
        else
          match chunks cs with
          | [] => [[c]]
          | w :: ws => (c :: w) :: ws

/-- The words of a text: what blanks separate. -/
def words (s : String) : List String :=
  (chunks s.toList).map String.ofList

/-- The text with its ASCII letters in upper case and all else kept. -/
def upper (s : String) : String :=
  String.ofList (s.toList.map Char.toUpper)

/-- The text with its ASCII letters in lower case and all else kept. -/
def lower (s : String) : String :=
  String.ofList (s.toList.map Char.toLower)

/-- The trimmed text, unless nothing is left of it. -/
def nonBlank? (s : String) : Option String :=
  let t := trim s
  if t.isEmpty then none else some t

end BackOffice.Text
