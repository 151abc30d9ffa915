import Telematics.Text.Decimal
import Telematics.Text.Field
import Telematics.Text.Hex

/-!
# JSON values

A value keeps its object members in the order in which they stand, repeated
names included, and its numbers as they are written: whether a number is an
integer, fits a word or is a fraction is decided by who reads it.
-/

namespace Telematics

/-- A JSON value. -/
inductive Json where
  | null
  | bool (b : Bool)
  /-- A number, as it is written. -/
  | number (literal : String)
  | string (s : String)
  /-- A text with half of a surrogate pair in it, which is no text, or an object
  with such a name: it can only be passed over. -/
  | broken
  | array (items : List Json)
  | object (members : List (String × Json))
  deriving Repr, Inhabited

namespace Json

/-- A whole number. -/
def ofInt (n : Int) : Json := .number (toString n)

/-- A natural number. -/
def ofNat (n : Nat) : Json := .number (toString n)

/-- An optional value; nothing is `null`. -/
def ofOption (f : α → Json) (o : Option α) : Json := o.elim .null f

/-- The notation of a double: the fewest digits that read back, positional
as long as the point lies at most five places before the digits and sixteen
behind the first, with at least one place; else with an exponent. A value
that is no finite number is `null`. -/
def ofFloat (x : Float) : Json :=
  if x.isNaN || x.isInf then .null
  else
    let d := Decimal.shortest x
    let ds := (toString d.digits).toList
    let point : Int := ds.length + d.exponent
    let body :=
      if d.digits = 0 then ['0', '.', '0']
      else if 0 ≤ d.exponent ∧ point ≤ 16
        then Decimal.positional d ++ ['.', '0']
      else if -5 < point ∧ point ≤ 16 then Decimal.positional d
      else
        let e := point - 1
        ds.take 1 ++ (if ds.length = 1 then [] else '.' :: ds.drop 1)
          ++ ['e', if e < 0 then '-' else '+'] ++ (toString e.natAbs).toList
    .number (String.ofList (Decimal.sign d.negative ++ body))

/-! ## Reading numbers -/

/-- A number taken apart: sign, digits before and after the point, exponent,
and whether it has neither point nor exponent. -/
structure NumberParts where
  negative : Bool
  whole : List Char
  fraction : List Char
  exponent : Int
  isWhole : Bool

/-- The parts of a number; no leading zeros, and a digit on either side of a
point. -/
def scanNumber : Scan NumberParts := do
  let negative ← match ← Scan.peek? with
    | some '-' => do Scan.char '-'; pure true
    | _ => pure false
  let whole ← Scan.takeWhile Text.isDigit
  Scan.require (!whole.isEmpty && (whole.length = 1 || whole.head? ≠ some '0'))
  let fraction ← match ← Scan.peek? with
    | some '.' => do
      Scan.char '.'
      let ds ← Scan.takeWhile Text.isDigit
      Scan.require !ds.isEmpty
      pure ds
    | _ => pure []
  let (exponent, marked) ← match ← Scan.peek? with
    | some 'e' | some 'E' => do
      let _ ← Scan.charWhere fun _ => true
      let negative ← match ← Scan.peek? with
        | some '-' => do Scan.char '-'; pure true
        | some '+' => do Scan.char '+'; pure false
        | _ => pure false
      let n ← Scan.number
      pure (if negative then -(n : Int) else (n : Int), true)
    | _ => pure (0, false)
  pure ⟨negative, whole, fraction, exponent, fraction.isEmpty && !marked⟩

/-- An integer within these bounds. A negative zero is no integer. -/
def int? (low high : Int) : Json → Option Int
  | .number literal => do
    let n ← Scan.whole? scanNumber literal.toList
    let modulus := Text.decimal n.whole
    guard (n.isWhole && !(n.negative && modulus = 0))
    let v : Int := if n.negative then -modulus else modulus
    guard (low ≤ v && v ≤ high)
    pure v
  | _ => none

/-- A natural number below a bound. -/
def nat? (bound : Nat) (j : Json) : Option Nat :=
  (int? 0 (bound - 1 : Nat) j).map Int.toNat

/-- The leading digits of a run that fit sixty-four bits, and how many digits
were left over. -/
def leadingWord (word : Nat) : List Char → Nat × Nat
  | [] => (word, 0)
  | c :: r =>
    let next := 10 * word + (Text.digit? c).getD 0
    if next < UInt64.size then leadingWord next r else (word, r.length + 1)

/-- A power of ten as a double. -/
def powerOfTen (n : Nat) : Float := Float.ofScientific 1 false n

/-- A significand scaled by a power of ten, which is one multiplication or
division as long as the power is a double. Below that the significand is
first divided by `10^308`, three times at most, since then nothing is left
of it. A number beyond the doubles is refused. -/
def scaleFloat (x : Float) (exponent : Int) : Option Float :=
  if exponent < 0 then
    let steps := (exponent.natAbs - 1) / 308
    let y := Nat.repeat (· / powerOfTen 308) (min steps 3) x
    some (y / powerOfTen (exponent.natAbs - 308 * steps))
  else if exponent ≤ 308 then
    let y := x * powerOfTen exponent.toNat
    if y.isInf then none else some y
  else if x == 0.0 then some x
  else none

/-- A number as a double. Of the digits, those count that fit sixty-four
bits; the rest of the whole part scales the number, the rest of the fraction
is dropped. -/
def float? : Json → Option Float
  | .number literal => do
    let n ← Scan.whole? scanNumber literal.toList
    let (whole, left) := leadingWord 0 n.whole
    let (word, dropped) := leadingWord whole n.fraction
    let exponent : Int := left - (n.fraction.length - dropped : Nat)
      + n.exponent
    let x ← scaleFloat (UInt64.ofNat word).toFloat exponent
    pure (if n.negative then -x else x)
  | _ => none

mutual

/-- All of the value can be read, down to what will be passed over: every
number is one that a double can hold, every text and name is one, and values are
nested at most `depth` deep. -/
def isReadable (depth : Nat) : Json → Bool
  | .array items => 0 < depth && itemsReadable (depth - 1) items
  | .object members => 0 < depth && membersReadable (depth - 1) members
  | .number literal => (float? (.number literal)).isSome
  | .broken => false
  | .null | .bool _ | .string _ => true

/-- The same, of the items of an array. -/
def itemsReadable (depth : Nat) : List Json → Bool
  | [] => true
  | j :: r => isReadable depth j && itemsReadable depth r

/-- The same, of the members of an object. -/
def membersReadable (depth : Nat) : List (String × Json) → Bool
  | [] => true
  | (_, j) :: r => isReadable depth j && membersReadable depth r

end

/-- A text. -/
def string? : Json → Option String
  | .string s => some s
  | _ => none

/-- A truth value. -/
def bool? : Json → Option Bool
  | .bool b => some b
  | _ => none

/-- The items of an array. -/
def array? : Json → Option (List Json)
  | .array items => some items
  | _ => none

/-- Nothing for `null`, else a value. -/
def option? (f : Json → Option α) : Json → Option (Option α)
  | .null => some none
  | j => (f j).map some

/-- The items of an array, each read the same way. -/
def list? (f : Json → Option α) (j : Json) : Option (List α) := do
  let items ← j.array?
  items.mapM f

/-- The value under a name, if the value is an object that has it once. -/
def member? (name : String) : Json → Option Json
  | .object members => members.lookup name
  | _ => none

/-! ## Fields of a row -/

/-- The fields of a row, which is an object with each name at most once – names
that are not asked for are passed over – or an array with the fields in
order and nothing after them. -/
def fields? (names : List String) : Json → Option (List (Field Json))
  | .object members =>
    names.mapM fun name =>
      match members.filter (·.1 == name) with
      | [] => some .unnamed
      | [(_, j)] => some (.present j)
      | _ => none
  | .array items =>
    if items.length ≤ names.length then
      some (Field.ofList names.length items)
    else none
  | _ => none

end Json

end Telematics
