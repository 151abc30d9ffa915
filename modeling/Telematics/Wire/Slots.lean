import Telematics.Wire.Reader

/-!
# Optional fields behind a flag byte

Several payloads have eight places, each of which may be empty. On the wire
a flag byte says which are filled, lowest bit first, and the filled ones
follow in that order. `Slots.flags` and `Slots.filled` are the two halves of
what is written; `Slots.read` puts them together again.
-/

namespace Telematics

/-- Eight places, each filled or empty. -/
abbrev Slots (α : Type) := Vector (Option α) 8

namespace Slots

/-- No place is filled. -/
def empty : Slots α := Vector.replicate 8 none

/-- The first eight of a list, padded with empty places. -/
def ofList (l : List (Option α)) : Slots α :=
  Vector.ofFn fun i => l[i.val]?.join

/-- The flag byte: which places are filled. -/
def flags (s : Slots α) : UInt8 := Octet.ofBits (s.toList.map Option.isSome)

/-- The contents of the filled places, in order. -/
def filled (s : Slots α) : List α := s.toList.filterMap id

/-- The filled places with their numbers, which begin at one. -/
def numbered (s : Slots α) : List (UInt8 × α) :=
  (s.toList.zipIdx 1).filterMap fun (v, n) => v.map (UInt8.ofNat n, ·)

/-- The places that a flag byte announces. -/
def read (flags : UInt8) (r : Reader α) : Reader (Slots α) :=
  (Vector.finRange 8).mapM fun i => Reader.whenFlag (Octet.hasBit flags i.val) r

end Slots

end Telematics
