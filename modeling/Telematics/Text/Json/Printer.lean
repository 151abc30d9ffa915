import Telematics.Text.Json

/-!
# Writing JSON

Two layouts: everything on one line, or one item a line with two blanks for
each level. Quotes, backslashes and control characters are escaped and
nothing else. What is no value, a broken text or object, stands as `null`.
-/

namespace Telematics.Json

/-- A character within a text. -/
def escape (c : Char) : List Char :=
  if c = '"' then ['\\', '"']
  else if c = '\\' then ['\\', '\\']
  else if c = '\n' then ['\\', 'n']
  else if c = '\r' then ['\\', 'r']
  else if c = '\t' then ['\\', 't']
  else if c.toNat = 8 then ['\\', 'b']
  else if c.toNat = 12 then ['\\', 'f']
  else if c.toNat < 0x20 then ['\\', 'u'] ++ Hex.digits 4 c.toNat
  else [c]

/-- A text between quotes. -/
def quote (s : String) : String :=
  "\"" ++ String.ofList (s.toList.flatMap escape) ++ "\""

mutual

/-- A value on one line. -/
def compact : Json → String
  | .null | .broken => "null"
  | .bool b => if b then "true" else "false"
  | .number literal => literal
  | .string s => quote s
  | .array items => "[" ++ String.intercalate "," (compactItems items) ++ "]"
  | .object members =>
    "\x7b" ++ String.intercalate "," (compactMembers members) ++ "\x7d"

/-- The items of an array. -/
def compactItems : List Json → List String
  | [] => []
  | j :: r => compact j :: compactItems r

/-- The members of an object. -/
def compactMembers : List (String × Json) → List String
  | [] => []
  | (name, j) :: r => (quote name ++ ":" ++ compact j) :: compactMembers r

end

/-- The start of a line at a level. -/
def indent (level : Nat) : String :=
  "\n" ++ String.ofList (List.replicate (2 * level) ' ')

mutual

/-- A value over several lines, at a level. -/
def pretty (level : Nat) : Json → String
  | .array (j :: r) =>
    "[" ++ String.intercalate "," (prettyItems (level + 1) (j :: r))
      ++ indent level ++ "]"
  | .object ((name, j) :: r) =>
    "\x7b"
      ++ String.intercalate "," (prettyMembers (level + 1) ((name, j) :: r))
      ++ indent level ++ "\x7d"
  | .array [] => "[]"
  | .object [] => "\x7b\x7d"
  | .null | .broken => "null"
  | .bool b => if b then "true" else "false"
  | .number literal => literal
  | .string s => quote s

/-- The items of an array, each on a line. -/
def prettyItems (level : Nat) : List Json → List String
  | [] => []
  | j :: r => (indent level ++ pretty level j) :: prettyItems level r

/-- The members of an object, each on a line. -/
def prettyMembers (level : Nat) : List (String × Json) → List String
  | [] => []
  | (name, j) :: r =>
    (indent level ++ quote name ++ ": " ++ pretty level j)
      :: prettyMembers level r

end

end Telematics.Json
