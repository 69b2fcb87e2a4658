import BackOffice.Character.Category
import BackOffice.Text.Blank
import BackOffice.Text.Numeral

/-!
# Quoted texts

A text as a message shows it: in quotes, with a backslash before a quote or a backslash, short forms
for the common control characters, and the code of any other character that does not show on its
own.
-/

namespace BackOffice.Text

/-- Whether a character does not show on its own. Of the blanks only the plain one does. -/
def isHidden (c : Char) : Bool :=
  Character.isLookless c || (isBlank c && c != ' ')

/-- A character as it stands inside quotes. -/
def quoteChar (c : Char) : List Char :=
  if c == '"' || c == '\\' then ['\\', c]
  else if c == '\n' then ['\\', 'n']
  else if c == '\r' then ['\\', 'r']
  else if c == '\t' then ['\\', 't']
  else if c.toNat = 0 then ['\\', '0']
  else if isHidden c then ['\\', 'u', '\x7b'] ++ Nat.toDigits 16 c.toNat ++ ['\x7d']
  else [c]

def quoted (s : String) : String :=
  String.ofList ('"' :: s.toList.flatMap quoteChar ++ ['"'])

end BackOffice.Text
