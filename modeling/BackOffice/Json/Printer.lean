import BackOffice.Json.Basic
import BackOffice.Decimal.Text

/-!
# The text of a JSON value

`Json.compact` writes a value on one line, `Json.pretty` writes each member and item on a line of
its own, indented by two spaces a level.
-/

namespace BackOffice.Json

/-- A character as it stands inside quotes. -/
def escapeChar (c : Char) : List Char :=
  if c = '"' then ['\\', '"']
  else if c = '\\' then ['\\', '\\']
  else if c = '\n' then ['\\', 'n']
  else if c = '\r' then ['\\', 'r']
  else if c = '\t' then ['\\', 't']
  else if c.toNat = 8 then ['\\', 'b']
  else if c.toNat = 12 then ['\\', 'f']
  else if c.toNat < 32 then '\\' :: 'u' :: Text.hexDigits 4 c.toNat
  else [c]

def quote (s : String) : String :=
  String.ofList ('"' :: s.toList.flatMap escapeChar ++ ['"'])

def scalarText : Json → String
  | .null => "null"
  | .bool true => "true"
  | .bool false => "false"
  | .int n => toString n
  | .real negative value =>
    let (c, e) := value.shortest
    (if negative then "-" else "") ++ String.ofList (Decimal.plainDigits c e) ++
      (if 0 ≤ e then ".0" else "")
  | .str s => quote s
  | .arr _ | .obj _ => ""

mutual

/-- The text of a value on one line. -/
def compact : Json → String
  | .arr items => "[" ++ compactItems items ++ "]"
  | .obj members => "\x7b" ++ compactMembers members ++ "\x7d"
  | j => scalarText j

/-- The items of an array, between commas. -/
def compactItems : List Json → String
  | [] => ""
  | [j] => compact j
  | j :: js => compact j ++ "," ++ compactItems js

/-- The members of an object, between commas. -/
def compactMembers : List (String × Json) → String
  | [] => ""
  | [(k, j)] => quote k ++ ":" ++ compact j
  | (k, j) :: ms => quote k ++ ":" ++ compact j ++ "," ++ compactMembers ms

end

/-- A new line at a level of nesting. -/
def newline (level : Nat) : String :=
  String.ofList ('\n' :: List.replicate (2 * level) ' ')

mutual

/-- The text of a value at a level of nesting. -/
def prettyAt (level : Nat) : Json → String
  | .arr [] => "[]"
  | .arr items => "[" ++ prettyItems (level + 1) items ++ newline level ++ "]"
  | .obj [] => "\x7b\x7d"
  | .obj members => "\x7b" ++ prettyMembers (level + 1) members ++ newline level ++ "\x7d"
  | j => scalarText j

/-- Items on lines of their own. -/
def prettyItems (level : Nat) : List Json → String
  | [] => ""
  | [j] => newline level ++ prettyAt level j
  | j :: js => newline level ++ prettyAt level j ++ "," ++ prettyItems level js

/-- Members on lines of their own. -/
def prettyMembers (level : Nat) : List (String × Json) → String
  | [] => ""
  | [(k, j)] => newline level ++ quote k ++ ": " ++ prettyAt level j
  | (k, j) :: ms =>
    newline level ++ quote k ++ ": " ++ prettyAt level j ++ "," ++ prettyMembers level ms

end

/-- The text of a value over several lines. -/
def pretty (j : Json) : String :=
  prettyAt 0 j

end BackOffice.Json
