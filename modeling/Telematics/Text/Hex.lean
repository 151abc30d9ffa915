import Telematics.Wire.Bytes

/-!
# Hexadecimal text

Lower-case digits, at a fixed width: two for an octet, four for a checksum
of sixteen bits. Reading takes either case.
-/

namespace Telematics.Hex

/-- The digit of a number below sixteen. -/
def digit (n : Nat) : Char :=
  if n < 10 then Char.ofNat ('0'.toNat + n)
    else Char.ofNat ('a'.toNat + (n - 10))

/-- The value of a digit. -/
def digit? (c : Char) : Option Nat :=
  if '0' ≤ c ∧ c ≤ '9' then some (c.toNat - '0'.toNat)
  else if 'a' ≤ c ∧ c ≤ 'f' then some (c.toNat - 'a'.toNat + 10)
  else if 'A' ≤ c ∧ c ≤ 'F' then some (c.toNat - 'A'.toNat + 10)
  else none

/-- The low `width` digits of a number, high digit first. -/
def digits : Nat → Nat → List Char
  | 0, _ => []
  | width + 1, n => digits width (n / 16) ++ [digit (n % 16)]

/-- A number at a fixed width, marked as hexadecimal. -/
def literal (width n : Nat) : String := "0x" ++ String.ofList (digits width n)

/-- The octets of a buffer, two digits each. -/
def ofBytes (d : Bytes) : String :=
  String.ofList (d.flatMap fun b => digits 2 b.toNat)

/-- The buffer that a run of digits writes out, if it is one. -/
def toBytes? : List Char → Option Bytes
  | [] => some []
  | [_] => none
  | h :: l :: r => do
    let high ← digit? h
    let low ← digit? l
    let rest ← toBytes? r
    some (UInt8.ofNat (16 * high + low) :: rest)

/-- The number that a run of digits writes out, if it is one. -/
def toNat? (cs : List Char) : Option Nat :=
  cs.foldlM (fun n c => (digit? c).map (16 * n + ·)) 0

end Telematics.Hex
