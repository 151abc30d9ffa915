import Telematics.Text.Blank

/-!
# Scanning a text from the left

A `Scan` takes a value off the front of a list of characters or refuses the
text. It carries no message: the formats read with it report a bad text as
a whole.
-/

namespace Telematics

/-- Takes a value off the front of a text. -/
abbrev Scan := StateT (List Char) Option

namespace Text

/-- The value of a decimal digit. -/
def digit? (c : Char) : Option Nat :=
  if '0' ≤ c ∧ c ≤ '9' then some (c.toNat - '0'.toNat) else none

/-- The character is a decimal digit. -/
def isDigit (c : Char) : Bool := (digit? c).isSome

/-- The number that a run of decimal digits writes out; other characters do
not occur. -/
def decimal (cs : List Char) : Nat :=
  cs.foldl (fun n c => 10 * n + (digit? c).getD 0) 0

/-- The number that a non-empty run of decimal digits writes out. -/
def decimal? (cs : List Char) : Option Nat :=
  if cs.isEmpty ∨ !cs.all isDigit then none else some (decimal cs)

/-- An unsigned number as the command line and addresses write it: digits,
perhaps after a plus sign, below a bound. -/
def unsigned? (bound : Nat) (cs : List Char) : Option Nat :=
  let ds := match cs with
    | '+' :: r => r
    | cs => cs
  (decimal? ds).filter (· < bound)

/-- The last digits of a number, at least `width` of them. -/
def padded (width n : Nat) : List Char :=
  let ds := (toString n).toList
  List.replicate (width - ds.length) '0' ++ ds

/-- Lower case, for the letters of ASCII alone. -/
def lower (cs : List Char) : List Char := cs.map Char.toLower

end Text

namespace Scan

open Text

/-- This character. -/
def char (c : Char) : Scan Unit := fun cs =>
  match cs with
  | d :: r => if d = c then some ((), r) else none
  | [] => none

/-- A character of this kind. -/
def charWhere (p : Char → Bool) : Scan Char := fun cs =>
  match cs with
  | d :: r => if p d then some (d, r) else none
  | [] => none

/-- The next character, which is not consumed. -/
def peek? : Scan (Option Char) := fun cs => some (cs.head?, cs)

/-- All characters of a kind that stand in front. -/
def takeWhile (p : Char → Bool) : Scan (List Char) := fun cs =>
  some (cs.takeWhile p, cs.dropWhile p)

/-- The blanks in front are skipped. -/
def blanks : Scan Unit := fun cs => some ((), trimLeft cs)

/-- At least `min` and at most `max` decimal digits, as a number. -/
def digits (min max : Nat) : Scan Nat := fun cs =>
  let ds := (cs.take max).takeWhile isDigit
  if ds.length < min then none else some (decimal ds, cs.drop ds.length)

/-- A number of any length. -/
def number : Scan Nat := fun cs =>
  let ds := cs.takeWhile isDigit
  if ds.isEmpty then none else some (decimal ds, cs.dropWhile isDigit)

/-- Refuses the text. -/
def refuse : Scan α := fun _ => none

/-- Goes on only if the condition holds. -/
def require (p : Bool) : Scan Unit := if p then pure () else refuse

/-- The value of a whole text. -/
def whole? (p : Scan α) (cs : List Char) : Option α :=
  match p cs with
  | some (a, []) => some a
  | _ => none

end Scan

end Telematics
