import Telematics.Wire.Bytes

/-!
# Checksums

A packet carries two cyclic redundancy checks: eight bits over its header
and sixteen over its frame data. Both are the plain remainder of a shift
register, high bit first, started from all ones, with nothing reflected and
nothing added at the end. The definitions below are the register itself,
one bit at a time: the step is linear over exclusive or, which is what every
statement on caught corruption rests on.
-/

namespace Telematics.Checksum

/-- One shift of the header register, polynomial `x⁸ + x⁵ + x⁴ + 1`. -/
def shift8 (r : UInt8) : UInt8 :=
  if r &&& 0x80 = 0 then r <<< 1 else (r <<< 1) ^^^ 0x31

/-- The header register takes in one octet. -/
def step8 (r b : UInt8) : UInt8 := Nat.repeat shift8 8 (r ^^^ b)

/-- The header checksum. -/
def header (d : Bytes) : UInt8 := d.foldl step8 0xFF

/-- One shift of the frame register, polynomial `x¹⁶ + x¹² + x⁵ + 1`. -/
def shift16 (r : UInt16) : UInt16 :=
  if r &&& 0x8000 = 0 then r <<< 1 else (r <<< 1) ^^^ 0x1021

/-- The frame register takes in one octet. -/
def step16 (r : UInt16) (b : UInt8) : UInt16 :=
  Nat.repeat shift16 8 (r ^^^ (b.toUInt16 <<< 8))

/-- The frame data checksum. -/
def frame (d : Bytes) : UInt16 := d.foldl step16 0xFFFF

end Telematics.Checksum
