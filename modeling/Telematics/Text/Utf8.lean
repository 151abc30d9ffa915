import Telematics.Wire.Bytes

/-!
# UTF-8 text in a byte field

`Utf8.decode` accepts exactly the well-formed byte strings. For any other it
says where the first fault lies and how many bytes belong to it: a sequence
that is cut off by the end of the data has no length of its own, every other
fault spans the bytes that could still begin a character.

The second byte of a character decides more than the range `80`–`BF`: after
`E0` and `F0` it must not leave the character too short for its length,
after `ED` it must avoid the surrogates and after `F4` stay within Unicode.
-/

namespace Telematics.Utf8

/-- Where a byte string stops being UTF-8. -/
structure Fault where
  /-- The number of bytes before the fault. -/
  index : Nat
  /-- The bytes of the fault, unless the data ends inside a character. -/
  length : Option Nat
  deriving DecidableEq, Repr

/-- A byte that continues a character. -/
def isContinuation (b : UInt8) : Bool := 0x80 ≤ b && b ≤ 0xBF

/-- The second bytes that may follow a leading byte, if it leads two, three
or four bytes, and how many more continuation bytes come after. -/
def lead? (b : UInt8) : Option ((UInt8 → Bool) × Nat) :=
  if 0xC2 ≤ b && b ≤ 0xDF then some (isContinuation, 0)
  else if b = 0xE0 then some (fun c => 0xA0 ≤ c && c ≤ 0xBF, 1)
  else if b = 0xED then some (fun c => 0x80 ≤ c && c ≤ 0x9F, 1)
  else if 0xE1 ≤ b && b ≤ 0xEF then some (isContinuation, 1)
  else if b = 0xF0 then some (fun c => 0x90 ≤ c && c ≤ 0xBF, 2)
  else if 0xF1 ≤ b && b ≤ 0xF3 then some (isContinuation, 2)
  else if b = 0xF4 then some (fun c => 0x80 ≤ c && c ≤ 0x8F, 2)
  else none

/-- What is wrong with the bytes after a leading byte: `seen` bytes of the
character were fine, the next has to satisfy the head of `want`. -/
def tailFault? (index seen : Nat) : List (UInt8 → Bool) → Bytes → Option Fault
  | [], _ => none
  | _ :: _, [] => some ⟨index, none⟩
  | p :: want, b :: r =>
    if p b then tailFault? index (seen + 1) want r else some ⟨index, some seen⟩

/-- The first fault of a byte string that stands at position `index`. -/
def faultFrom? (index : Nat) (d : Bytes) : Option Fault :=
  match d with
  | [] => none
  | b :: r =>
    if b < 0x80 then faultFrom? (index + 1) r
    else
      match lead? b with
      | none => some ⟨index, some 1⟩
      | some (second, more) =>
        match tailFault? index 1
          (second :: List.replicate more isContinuation) r with
        | some fault => some fault
        | none => faultFrom? (index + 2 + more) (r.drop (1 + more))
termination_by d.length

/-- The text of a byte string, or its first fault. -/
def decode (d : Bytes) : Except Fault String :=
  match String.fromUTF8? d.toByteArray with
  | some s => .ok s
  | none => .error ((faultFrom? 0 d).getD ⟨d.length, none⟩)

/-- The bytes of a text. -/
def encode (s : String) : Bytes := s.toUTF8.toList

namespace Fault

/-- The fault in words. -/
def message (f : Fault) : String :=
  match f.length with
  | some n =>
    "invalid utf-8 sequence of " ++ toString n ++ " bytes from index "
      ++ toString f.index
  | none => "incomplete utf-8 byte sequence from index " ++ toString f.index

end Fault

end Telematics.Utf8
