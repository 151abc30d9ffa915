import Telematics.Proofs.Wire.Checksum
import Telematics.Proofs.Wire.Layout

/-!
# Corruption is caught

The octets of a packet are two runs, each followed by its checksum: the
header, and the frame data if there is any. A run and its checksum differ in
two octets at least from every other run of the same length and its checksum,
so an octet that is changed anywhere in a packet leaves no packet.

That the runs have the same lengths is not for a checksum to say. The header
says how long it is in two places, the route flag and the header length, of
which a change to one octet leaves one as it was; the rest is settled by the
count of the octets.

The argument is about layouts. If the changed octets were a packet, then they
would be the octets of a layout, as those before the change are; two layouts
would be written out as octets that differ in one place or in two neighbours.
The two headers have the same length, so the runs are cut at the same place,
and the difference lies in one of them. There the checksum finds it
(`Layout.octets_eq_of_set`, `Layout.octets_eq_of_set_set`). The bounds of the
second statement keep both neighbours within the frame data: that a change to
its last octet and the first of its checksum is found is not claimed.
-/

namespace Telematics

variable {d s t : Bytes} {i : Nat} {b c : UInt8}

/-- **A run and its checksum stand apart**: no octet of them can be replaced
such that another run and its checksum come out. If the octet is in the run,
the run would have a checksum that by `hcheck` no other has; if it is in the
checksum, the run is untouched and has no other. -/
theorem eq_of_append_checksum (check : Bytes → Bytes)
    (hcheck : ∀ {d : Bytes} {i : Nat} {b : UInt8}, check (d.set i b) = check d →
      d.set i b = d)
    (hlen : t.length = s.length) (h : t ++ check t = (s ++ check s).set i b) :
    t = s := by
  rw [List.set_append] at h
  split at h
  · -- The octet is one of the run, whose checksum stayed.
    obtain ⟨rfl, hsum⟩ := List.append_inj h (hlen.trans List.length_set.symm)
    exact hcheck hsum
  · exact (List.append_inj h hlen).1

namespace Packet

/-- What follows a header is as long as its frame data says, so two of one
length have frame data of one length. -/
theorem eq_of_length_trailer (h : (trailer t).length = (trailer s).length) :
    t.length = s.length := by
  rw [length_trailer, length_trailer] at h
  unfold frameChecksumSize at h
  split at h <;> split at h <;> omega

/-- What follows a header stands apart, too: nothing at all, or a run and its
checksum. -/
theorem eq_of_trailer_set (h : trailer t = (trailer s).set i b) : t = s := by
  have hlen : t.length = s.length :=
    eq_of_length_trailer (by rw [h, List.length_set])
  by_cases hs : s = []
  · rw [hs] at hlen ⊢
    exact List.eq_nil_of_length_eq_zero hlen
  · have ht : t ≠ [] :=
      fun ht => hs (List.eq_nil_of_length_eq_zero (by rw [← hlen, ht]; rfl))
    rw [trailer_of_ne_nil hs, trailer_of_ne_nil ht] at h
    refine eq_of_append_checksum (fun d => Bytes.ofUInt16 (Checksum.frame d))
      ?_ hlen h
    exact fun hsum =>
      Checksum.set_eq_self_of_frame (Bytes.ofUInt16_injective hsum)

/-- Two neighbours in the frame data cannot be replaced. -/
theorem eq_of_trailer_set_set (hi : i + 1 < s.length)
    (h : trailer t = ((trailer s).set i b).set (i + 1) c) : t = s := by
  have hlen : t.length = s.length :=
    eq_of_length_trailer (by rw [h, List.length_set, List.length_set])
  have hs : s ≠ [] := List.ne_nil_of_length_pos (by omega)
  have ht : t ≠ [] := List.ne_nil_of_length_pos (by omega)
  rw [trailer_of_ne_nil hs, trailer_of_ne_nil ht,
    List.set_append_left _ _ (by omega),
    List.set_append_left _ _ (by rw [List.length_set]; exact hi)] at h
  obtain ⟨rfl, hsum⟩ := List.append_inj h (by simp [hlen])
  exact Checksum.set_set_eq_self_of_frame hi (Bytes.ofUInt16_injective hsum)

end Packet

namespace Layout

variable {l m : Layout}

/-- The header and its checksum. -/
def front (l : Layout) : Bytes := l.headerOctets ++ [l.checksum]

/-- A packet is its header, with the checksum, and what follows. -/
theorem octets_eq_front (l : Layout) :
    l.octets = l.front ++ Packet.trailer l.data := by
  rw [octets, front, List.append_assoc]
  rfl

/-- The header length counts the checksum. -/
theorem length_front (l : Layout) :
    l.front.length = (Packet.headerLength l.routing.isSome).toNat := by
  rw [front, List.length_append, ← length_headerOctets]
  rfl

/-- Whether there is routing is said by the route flag and by the length of
the header. -/
theorem isSome_routing_eq
    (h : m.octets[2]? = l.octets[2]? ∨ m.octets[3]? = l.octets[3]?) :
    m.routing.isSome = l.routing.isSome := by
  rcases h with h | h
  · have hflags : m.flags = l.flags := Option.some.inj h
    rw [m.routing_isSome, l.routing_isSome, hflags]
  · have hlength : Packet.headerLength m.routing.isSome
        = Packet.headerLength l.routing.isSome :=
      Option.some.inj h
    revert hlength
    cases m.routing.isSome <;> cases l.routing.isSome <;> decide

/-- So two packets that agree in the route flag or in the header length have
headers of one length. -/
theorem length_front_eq
    (h : m.octets[2]? = l.octets[2]? ∨ m.octets[3]? = l.octets[3]?) :
    m.front.length = l.front.length := by
  rw [length_front, length_front, isSome_routing_eq h]

/-- **No octet of a packet can be replaced** such that a packet comes out. The
place is in the header or behind it, and the checksum of that part finds
it. -/
theorem octets_eq_of_set (h : m.octets = l.octets.set i b) :
    m.octets = l.octets := by
  have hsame : m.octets[2]? = l.octets[2]? ∨ m.octets[3]? = l.octets[3]? := by
    rw [h]
    by_cases hi : i = 2
    · exact .inr (List.getElem?_set_ne (by omega))
    · exact .inl (List.getElem?_set_ne hi)
  have hlen := length_front_eq hsame
  rw [octets_eq_front, octets_eq_front] at h ⊢
  rw [List.set_append] at h
  split at h
  · obtain ⟨hfront, htrailer⟩ :=
      List.append_inj h (hlen.trans List.length_set.symm)
    have hheader : m.headerOctets = l.headerOctets := by
      refine eq_of_append_checksum (fun d => [Checksum.header d]) ?_ ?_ hfront
      · exact fun hsum => Checksum.set_eq_self_of_header (List.cons.inj hsum).1
      · simpa [front] using hlen
    rw [htrailer, front, front, checksum, checksum, hheader]
  · obtain ⟨hfront, htrailer⟩ := List.append_inj h hlen
    rw [hfront, Packet.eq_of_trailer_set htrailer]

/-- **No two neighbours in the frame data can be replaced** such that a packet
comes out. Both stand in front of the checksum of two octets, which is as it
was. -/
theorem octets_eq_of_set_set (hi : l.front.length ≤ i)
    (hlt : i + 1 < l.front.length + l.data.length)
    (h : m.octets = (l.octets.set i b).set (i + 1) c) :
    m.octets = l.octets := by
  have hten : 11 ≤ l.front.length := by
    rw [length_front]
    cases l.routing.isSome <;> decide
  have hsame : m.octets[2]? = l.octets[2]? := by
    rw [h, List.getElem?_set_ne (by omega), List.getElem?_set_ne (by omega)]
  have hlen := length_front_eq (.inl hsame)
  rw [octets_eq_front, octets_eq_front] at h ⊢
  rw [List.set_append_right _ _ hi, List.set_append_right _ _ (by omega),
    Nat.succ_sub hi] at h
  obtain ⟨hfront, htrailer⟩ := List.append_inj h hlen
  rw [hfront, Packet.eq_of_trailer_set_set (by omega) htrailer]

end Layout

namespace Packet

/-- **Corruption is caught.** If an octet of a packet that is accepted is
changed, wherever it stands, what comes out is not accepted; and neither is
it if two neighbouring octets of the frame data are changed, which stands
between the header and its own checksum of two octets. -/
theorem decode_of_corrupted {p : Packet} (h : decode d = .ok p) :
    (∀ (i : Nat) (hi : i < d.length) (b : UInt8), b ≠ d[i] →
      ∃ f, decode (d.set i b) = .error f) ∧
    ∀ (i : Nat) (b c : UInt8), p.headerSize.toNat ≤ i →
      i + 1 + frameChecksumSize < d.length →
      (d.set i b).set (i + 1) c ≠ d →
        ∃ f, decode ((d.set i b).set (i + 1) c) = .error f := by
  obtain ⟨l, hl, rfl⟩ := Layout.decode_eq_ok.1 h
  -- What is accepted is written out from a layout, so it is a packet.
  have hrejected : ∀ e : Bytes,
    (∀ m : Layout, m.octets = e → m.octets = l.octets) →
      e ≠ l.octets → ∃ f, decode e = .error f := fun e he hne => by
    cases hd : decode e with
    | error f => exact ⟨f, rfl⟩
    | ok q =>
      obtain ⟨m, -, hm⟩ := Layout.decode_eq_ok.1 hd
      exact absurd (hm.symm.trans (he m hm)) hne
  constructor
  · intro i hi b hb
    refine hrejected _ (fun m hm => Layout.octets_eq_of_set hm)
      (fun heq => hb ?_)
    rw [← Option.some_inj, ← List.getElem?_eq_getElem hi, ← heq,
      List.getElem?_set_self hi]
  · intro i b c hi hlt hne
    obtain ⟨set, -, rfl⟩ := Writing.map_eq_ok.1 hl
    have hsize : l.front.length ≤ i := by
      rw [Layout.length_front]
      exact hi
    refine hrejected _ (fun m hm => Layout.octets_eq_of_set_set hsize ?_ hm) hne
    rw [Layout.octets_eq_front, List.length_append, length_trailer] at hlt
    unfold frameChecksumSize at hlt
    split at hlt <;> omega

/-- A packet that is passed on between dispatchers: without its route flag,
and with two octets of a payload changed. -/
theorem decode_of_corrupted_routed_packet :
    decode [1, 0, 35, 16, 0, 13, 0, 7, 0, 1, 1, 0, 2, 0, 3, 130, 6, 0, 1, 0,
        0, 2, 2, 17, 3, 0, 2, 120, 0, 13, 206]
      = .ok { ofFrame 7 (.appData [.ofService 1 teledataService
          [.fixQuality ⟨none, some 120, none, none, none⟩]]) with
        routing := some ⟨1, 2, 3⟩, priority := 3 }
      ∧ (∃ f, decode [1, 0, 3, 16, 0, 13, 0, 7, 0, 1, 1, 0, 2, 0, 3, 130, 6, 0,
        1, 0, 0, 2, 2, 17, 3, 0, 2, 120, 0, 13, 206] = .error f)
      ∧ ∃ f, decode [1, 0, 35, 16, 0, 13, 0, 7, 0, 1, 1, 0, 2, 0, 3, 130, 6, 0,
        1, 0, 0, 2, 2, 17, 3, 0, 2, 121, 1, 13, 206] = .error f := by
  let l : Layout :=
    ⟨0, 35, 0, 7, some ⟨1, 2, 3⟩, none,
      [⟨1, 0, none, none, none, 2, 2, [⟨17, [2, 120, 0], by decide⟩], rfl, rfl,
        rfl, by decide⟩], rfl, by decide, by decide⟩
  have h := Layout.decode_eq_ok.2 ⟨l, (by decide +kernel : l.packet
    = .ok { ofFrame 7 (.appData [.ofService 1 teledataService
        [.fixQuality ⟨none, some 120, none, none, none⟩]]) with
      routing := some ⟨1, 2, 3⟩, priority := 3 }), (by decide +kernel : l.octets
    = [1, 0, 35, 16, 0, 13, 0, 7, 0, 1, 1, 0, 2, 0, 3, 130, 6, 0, 1, 0, 0, 2, 2,
      17, 3, 0, 2, 120, 0, 13, 206])⟩
  obtain ⟨hone, htwo⟩ := decode_of_corrupted h
  exact ⟨h, hone 2 (by decide) 3 (by decide),
    htwo 27 121 1 (by decide) (by decide) (by decide)⟩

end Packet

end Telematics
