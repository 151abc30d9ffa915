import Telematics.Text.Decimal
import Telematics.Text.Field
import Telematics.Text.Hex

/-!
# TOML documents

A document assigns values to dotted keys, in sections that are headed by dotted
keys themselves. What may be assigned twice, and what a header may open again,
is decided by how a table came about: whether a header states it, a deeper
header implies it, or dotted keys assign into it. `Toml.Node` keeps that; a
finished `Toml` value has forgotten it.
-/

namespace Telematics

/-- A value. -/
inductive Toml where
  | string (s : String)
  | integer (n : Int)
  | float (x : Float)
  | boolean (b : Bool)
  /-- A date or a time, as it is written. -/
  | moment (text : String)
  | array (items : List Toml)
  | table (members : List (String × Toml))
  deriving Inhabited

namespace Toml

/-- A character of a key without quotes. -/
def isKeyChar (c : Char) : Bool := c.isAlphanum || c = '_' || c = '-'

/-- How a table came about. -/
inductive TableKind where
  /-- A header names it. -/
  | stated
  /-- Only headers of tables within it name it. -/
  | implied
  /-- Dotted keys assign into it. -/
  | dotted
  deriving DecidableEq, Repr

/-- A value of a document that is still being put together. -/
inductive Node where
  | value (v : Toml)
  | table (kind : TableKind) (members : List (String × Node))
  /-- An array of tables, of which the last is open. -/
  | rows (rows : List (List (String × Node)))

/-- Members of a table. -/
abbrev Members := List (String × Node)

namespace Members

/-- The members with a value under a key, at its place if the key is there. -/
def set (ms : Members) (key : String) (n : Node) : Members :=
  if ms.any (·.1 == key) then ms.map fun m => if m.1 == key then (key, n) else m
  else ms ++ [(key, n)]

/-- Changes the last row of an array of tables. -/
def changeLast (f : Members → Option Members) (rows : List Members) :
    Option (List Members) :=
  match rows.getLast? with
  | none => none
  | some row => (f row).map fun row => rows.dropLast ++ [row]

/-- Assigns a value to a key below a path. The table it goes to is the one at
hand, or one that dotted keys made. -/
def assign (ms : Members) (key : String) (v : Toml) :
    List String → Option Members
  | [] => if ms.any (·.1 == key) then none else some (ms ++ [(key, .value v)])
  | k :: path => do
    let n ← match ms.lookup k with
      | none => (assign [] key v path).map (.table .dotted)
      | some (.table .dotted sub) =>
        (assign sub key v path).map (.table .dotted)
      | some (.table .implied sub) =>
        if path.isEmpty then none
          else (assign sub key v path).map (.table .implied)
      | some (.rows rows) =>
        if path.isEmpty then none
        else (changeLast (fun row => assign row key v path) rows).map .rows
      | some (.table .stated _) | some (.value _) => none
    pure (ms.set k n)

/-- Changes what stands at a path that a header names. -/
def enter (f : Option Node → Option Node) (ms : Members) :
    List String → Option Members
  | [] => none
  | [k] => (f (ms.lookup k)).map (ms.set k)
  | k :: path => do
    let n ← match ms.lookup k with
      | none => (enter f [] path).map (.table .implied)
      | some (.table kind sub) => (enter f sub path).map (.table kind)
      | some (.rows rows) =>
        (changeLast (fun row => enter f row path) rows).map .rows
      | some (.value _) => none
    pure (ms.set k n)

end Members

/-- A key below a path, and its value. -/
structure Assignment where
  path : List String
  key : String
  value : Toml

/-- Assignments in order. -/
def assignAll (ms : Members) (assignments : List Assignment) : Option Members :=
  assignments.foldlM (fun ms a => ms.assign a.key a.value a.path) ms

/-- A header and what stands below it. -/
structure Section where
  /-- The header adds a row to an array of tables. -/
  isRow : Bool
  path : List String
  assignments : List Assignment

namespace Section

/-- The members of a document with a section added. -/
def apply (s : Section) (ms : Members) : Option Members :=
  if s.isRow then
    ms.enter (fun
      | none => (assignAll [] s.assignments).map fun row => Node.rows [row]
      | some (Node.rows done) =>
        (assignAll [] s.assignments).map fun row => Node.rows (done ++ [row])
      | _ => none) s.path
  else
    ms.enter (fun
      | none => (assignAll [] s.assignments).map (.table .stated)
      | some (.table .implied sub) =>
        (assignAll sub s.assignments).map (.table .stated)
      | _ => none) s.path

end Section

mutual

/-- The finished value of a node. -/
def Node.finish : Node → Toml
  | .value v => v
  | .table _ ms => .table (Node.finishMembers ms)
  | .rows each => .array (Node.finishRows each)

/-- The finished members of a table. -/
def Node.finishMembers : List (String × Node) → List (String × Toml)
  | [] => []
  | (k, n) :: r => (k, n.finish) :: Node.finishMembers r

/-- The finished rows of an array of tables. -/
def Node.finishRows : List (List (String × Node)) → List Toml
  | [] => []
  | ms :: r => .table (Node.finishMembers ms) :: Node.finishRows r

end

/-- The table of assignments that stand between braces. -/
def ofInline? (assignments : List Assignment) : Option Toml :=
  (assignAll [] assignments).map fun ms => .table (Node.finishMembers ms)

/-- The members of a document: what stands before its first header, and its
sections. -/
def ofSections? (first : List Assignment) (rest : List Section) :
    Option (List (String × Toml)) := do
  let ms ← assignAll [] first
  let ms ← rest.foldlM (fun ms s => s.apply ms) ms
  pure (Node.finishMembers ms)

/-! ## Reading values -/

/-- A text. -/
def string? : Toml → Option String
  | string s => some s
  | _ => none

/-- A whole number within bounds. -/
def integer? (low high : Int) : Toml → Option Int
  | integer n => if low ≤ n ∧ n ≤ high then some n else none
  | _ => none

/-- A natural number below a bound. -/
def nat? (bound : Nat) (v : Toml) : Option Nat :=
  (v.integer? 0 (bound - 1 : Nat)).map Int.toNat

/-- A number. -/
def float? : Toml → Option Float
  | float x => some x
  | integer n => some (Float.ofInt n)
  | _ => none

/-- A truth value. -/
def boolean? : Toml → Option Bool
  | boolean b => some b
  | _ => none

/-- An array, each item read the same way. -/
def list? (f : Toml → Option α) : Toml → Option (List α)
  | array items => items.mapM f
  | _ => none

/-- The fields of a record, which is a table or an array with the fields in
order; what else is there is passed over. A date is a record with none of them.
-/
def fields? (names : List String) : Toml → Option (List (Field Toml))
  | table members =>
    some (names.map fun name => (members.lookup name).elim .unnamed .present)
  | array items => some (Field.ofList names.length items)
  | moment _ => some (names.map fun _ => .unnamed)
  | _ => none

end Toml

end Telematics
