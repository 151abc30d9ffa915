import Telematics.Wire.Packet

/-!
# What the first ten octets announce

Before anything of a packet is checked but its marker, two things are taken
from its first ten octets: its length, by which a stream is cut, and its
number, under which a fault in it is reported. Whatever follows has no part in
either.

Both are taken before the checksum of the header was compared, so neither is
to be trusted: a length may be wrong, and a number may be that of another
packet. What is shown here is only that they are there. Ten octets are enough
for them, fewer have no number (`Packet.announcedId?_of_lt`), and octets that
begin with the marker announce a length whatever else they hold
(`Packet.announcedLength?_eq_none_iff`). How a stream is cut by the length,
and what a terminal is told under the number, rests on these two.
-/

namespace Telematics

variable {d : Bytes} {n : Nat}

/-- The ten octets that the length of a packet is read from, by name. -/
theorem exists_header (h : fixedHeaderSize ≤ d.length) :
    ∃ b₀ b₁ b₂ b₃ b₄ b₅ b₆ b₇ b₈ b₉ t,
      d = b₀ :: b₁ :: b₂ :: b₃ :: b₄ :: b₅ :: b₆ :: b₇ :: b₈ :: b₉ :: t := by
  unfold fixedHeaderSize at h
  rcases d with _ | ⟨b₀, _ | ⟨b₁, _ | ⟨b₂, _ | ⟨b₃, _ | ⟨b₄, _ | ⟨b₅, _ |
    ⟨b₆, _ | ⟨b₇, _ | ⟨b₈, _ | ⟨b₉, t⟩⟩⟩⟩⟩⟩⟩⟩⟩⟩
  all_goals simp at h
  exact ⟨b₀, b₁, b₂, b₃, b₄, b₅, b₆, b₇, b₈, b₉, t, rfl⟩

namespace Packet

/-- **The length of a packet is announced** if it begins with the marker, and
only then. No other octet of the ten is looked at for that, so a length may be
announced that no packet has. -/
theorem announcedLength?_eq_none_iff (h : fixedHeaderSize ≤ d.length) :
    announcedLength? (d.take fixedHeaderSize) = none
      ↔ d.head? ≠ some protocolMarker := by
  obtain ⟨b₀, b₁, b₂, b₃, b₄, b₅, b₆, b₇, b₈, b₉, t, rfl⟩ := exists_header h
  simp [announcedLength?, fixedHeaderSize]

/-- What announces a length begins with the marker. -/
theorem head?_of_announced (hlen : fixedHeaderSize ≤ d.length)
    (hn : announcedLength? (d.take fixedHeaderSize) = some n) :
    d.head? = some protocolMarker := by
  refine Decidable.not_not.1 fun hne => ?_
  rw [(announcedLength?_eq_none_iff hlen).2 hne] at hn
  cases hn

/-- A packet is no shorter than its header. -/
theorem headerLength_le_of_announced (hlen : fixedHeaderSize ≤ d.length)
    (hn : announcedLength? (d.take fixedHeaderSize) = some n) :
    (d.getD 3 0).toNat ≤ n := by
  obtain ⟨b₀, b₁, b₂, b₃, b₄, b₅, b₆, b₇, b₈, b₉, t, rfl⟩ := exists_header hlen
  simp only [announcedLength?, fixedHeaderSize, List.take_succ_cons] at hn
  split at hn
  · cases hn
    show b₃.toNat ≤ _
    split <;> omega
  · cases hn

/-- The number of a packet stands in two octets of its header. -/
theorem exists_announcedId? (h : fixedHeaderSize ≤ d.length) :
    ∃ lo hi, d[7]? = some lo ∧ d[8]? = some hi
      ∧ announcedId? d = some (UInt16.ofNat (lo.toNat + 256 * hi.toNat)) := by
  obtain ⟨b₀, b₁, b₂, b₃, b₄, b₅, b₆, b₇, b₈, b₉, t, rfl⟩ := exists_header h
  exact ⟨b₇, b₈, rfl, rfl, rfl⟩

/-- Fewer than ten octets have no number, even if the two octets in which it
would stand are among them. -/
theorem announcedId?_of_lt (h : d.length < fixedHeaderSize) :
    announcedId? d = none := by
  unfold announcedId?
  split
  · simp only [List.length_cons, fixedHeaderSize] at h
    omega
  · rfl

/-- Octets that begin with the marker are refused under the number that
stands in them. -/
theorem packetId_of_decode_error {e : Failure} {n : UInt16}
    (hm : d.head? = some protocolMarker) (hn : announcedId? d = some n)
    (h : decode d = .error e) : e.packetId = some n := by
  unfold decode at h
  split at h
  · cases hm
  · next m t =>
    rw [if_neg (fun hne => hne (Option.some.inj hm)), hn] at h
    dsimp only at h
    cases hc : decodeChecked (m :: t) n with
    | ok p =>
      rw [hc] at h
      cases h
    | error w =>
      rw [hc] at h
      cases h
      rfl

end Packet

end Telematics
