import Telematics.Text.Toml

/-!
# Writing TOML

The values of a document come first, then its tables and arrays of tables, each
under a header with a blank line before it. An array of two items or more has a
line for each.

A text is written in the plainest of four forms that can hold it: between
double quotes or between single ones, on one line or over several. Only a text
that none of them holds as it is has escapes.
-/

namespace Telematics.Toml

/-! ## Texts -/

/-- The longest run of a character, given the length of the run before. -/
def longestRun (quote : Char) : Nat → List Char → Nat
  | run, [] => run
  | run, c :: r =>
    if c = quote then longestRun quote (run + 1) r
      else max run (longestRun quote 0 r)

/-- A control character that no form holds as it is. -/
def needsCode (c : Char) : Bool :=
  (c.toNat < 0x20 && c ≠ '\t' && c ≠ '\n') || c.toNat = 0x7F

/-- The escape of a character other than a double quote, if it has one. -/
def escape? (lines : Bool) (c : Char) : Option (List Char) :=
  if c.toNat = 8 then some ['\\', 'b']
  else if c = '\t' then some ['\\', 't']
  else if c = '\n' then (if lines then none else some ['\\', 'n'])
  else if c.toNat = 12 then some ['\\', 'f']
  else if c = '\r' then some ['\\', 'r']
  else if c = '\\' then some ['\\', '\\']
  else if needsCode c then
    some (['\\', 'u'] ++ (Hex.digits 4 c.toNat).map Char.toUpper)
  else none

/-- Characters between double quotes. Over several lines two double quotes in a
row stand as they are; `run` counts those just before. -/
def escapeAll (lines : Bool) : Nat → List Char → List Char
  | _, [] => []
  | run, c :: r =>
    if c = '"' then
      if lines && run < 2 then '"' :: escapeAll lines (run + 1) r
      else '\\' :: '"' :: escapeAll lines 0 r
    else
      match escape? lines c with
      | some e => e ++ escapeAll lines 0 r
      | none => c :: escapeAll lines 0 r

/-- A text between delimiters. Behind the opening one of a text with line ends,
one more is written, which does not count. -/
def delimited (delimiter : String) (cs : List Char) : String :=
  let start := if delimiter.length = 3 ∧ '\n' ∈ cs then "\n" else ""
  delimiter ++ start ++ String.ofList cs ++ delimiter

/-- **A text** in the plainest form that holds it. -/
def quote (s : String) : String :=
  let cs := s.toList
  let codes := cs.any needsCode
  let backslash := cs.contains '\\'
  let newline := cs.contains '\n'
  let doubles := longestRun '"' 0 cs
  let singles := longestRun '\'' 0 cs
  if !codes && !backslash && doubles = 0 && !newline then
    delimited "\"" (escapeAll false 0 cs)
  else if !codes && singles = 0 && !newline then delimited "'" cs
  else if !codes && !backslash && doubles ≤ 2 then
    delimited "\"\"\"" (escapeAll true 0 cs)
  else if !codes && singles ≤ 2 then delimited "'''" cs
  else if newline then delimited "\"\"\"" (escapeAll true 0 cs)
  else delimited "\"" (escapeAll false 0 cs)

/-! ## Values -/

/-- A key. -/
def keyText (key : String) : String :=
  if key ≠ "" ∧ key.toList.all isKeyChar then key else quote key

/-- A number with a point, unless it has no digits. -/
def floatText (x : Float) : String :=
  if x.isNaN then "nan"
  else
    let text := Decimal.plain x
    if x.isInf || text.toList.contains '.' then text else text ++ ".0"

mutual

/-- A value behind a key. -/
def valueText : Toml → String
  | .string s => quote s
  | .integer n => toString n
  | .float x => floatText x
  | .boolean b => if b then "true" else "false"
  | .moment text => text
  | .array [] => "[]"
  | .array [item] => "[" ++ valueText item ++ "]"
  | .array (a :: b :: r) =>
    "[" ++ String.join
      ((itemTexts (a :: b :: r)).map fun item => "\n    " ++ item ++ ",")
      ++ "\n]"
  | .table [] => "\x7b\x7d"
  | .table (m :: r) =>
    "\x7b " ++ String.intercalate ", " (memberTexts (m :: r)) ++ " \x7d"

/-- The items of an array. -/
def itemTexts : List Toml → List String
  | [] => []
  | v :: r => valueText v :: itemTexts r

/-- Keys and their values. -/
def memberTexts : List (String × Toml) → List String
  | [] => []
  | (key, v) :: r => (keyText key ++ " = " ++ valueText v) :: memberTexts r

end

/-! ## Documents -/

/-- A table under a header, its values as lines. -/
structure Block where
  header : String
  members : List (String × Toml)

/-- The members of a table. -/
def members? : Toml → Option (List (String × Toml))
  | .table members => some members
  | _ => none

/-- The blocks of a member of a document; none if it is a plain value. -/
def blocksOf (key : String) : Toml → List Block
  | .table members => [⟨"[" ++ keyText key ++ "]", members⟩]
  | .array items =>
    ((items.mapM members?).getD []).map (Block.mk ("[[" ++ keyText key ++ "]]"))
  | _ => []

/-- Members as lines. -/
def linesOf (members : List (String × Toml)) : String :=
  String.join ((memberTexts members).map (· ++ "\n"))

/-- **A document**, its tables in the order of its members. -/
def documentText (members : List (String × Toml)) : String :=
  let plain := members.filter fun m => (blocksOf m.1 m.2).isEmpty
  let blocks := members.flatMap fun m => blocksOf m.1 m.2
  let texts := blocks.map fun b => b.header ++ "\n" ++ linesOf b.members
  String.intercalate "\n"
    (if plain.isEmpty then texts else linesOf plain :: texts)

end Telematics.Toml
