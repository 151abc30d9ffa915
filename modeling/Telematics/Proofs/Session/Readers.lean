import Telematics.Proofs.Session.Framing
import Telematics.Proofs.Wire.Format
import Telematics.Proofs.Wire.Gathering

/-!
# Two ways to read a stream

A connection reads a packet in two goes: the ten octets that announce its
length, then what is missing of that length (`Session.cut`). A buffer is
looked at as a whole and gives a packet off once all is there that is
announced (`Stream.next`). Both take the length from the same octets, before
any checksum is looked at.

They part where less is announced than the ten octets it was read from. The
connection has read these and makes a packet of them, which is refused for its
header length. The buffer gives off only what is announced, and that is
refused for being cut short; what comes next is looked for in the middle of
the same header or, if nothing at all is announced, at its first octet again,
time after time.

That is the only place. With ten octets announced or more, and the frame data
within the bound that the buffer has and the connection has not, both cut the
stream alike (`Session.readAlike_iff_ge`). The length of a sound header is
eleven or sixteen, so no sound packet is read differently; it is octets that
are no packet which keep a buffer from finding the next one.
-/

namespace Telematics

open Packet (announcedLength?)

variable {d : Bytes} {n : Nat}

/-! ## The buffer -/

namespace Stream

/-- What is said of octets that were taken off as a packet. -/
def Outcome.ofFrame (f rest : Bytes) : Outcome :=
  match Packet.decode f with
  | .ok p => .packet p rest
  | .error failure => .badPacket failure.error rest

/-- So many octets are taken off if they are there. -/
theorem takeOff_of_le (h : n ≤ d.length) :
    takeOff n d = .ofFrame (d.take n) (d.drop n) :=
  takeOff_of_split (Bytes.split?_eq_some_iff.2
    ⟨List.length_take_of_le h, (List.take_append_drop n d).symm⟩)

/-- With a length announced and the frame data within bounds, it only
remains to take that many octets off. -/
theorem next_of_announced {maxFrame : Nat} (hlen : fixedHeaderSize ≤ d.length)
    (hn : announcedLength? (d.take fixedHeaderSize) = some n)
    (hmax : d.wordAt 5 ≤ maxFrame) :
    next maxFrame d = takeOff n d := by
  obtain ⟨b₀, b₁, b₂, b₃, b₄, b₅, b₆, b₇, b₈, b₉, t, rfl⟩ := exists_header hlen
  have hall : announcedLength?
    (b₀ :: b₁ :: b₂ :: b₃ :: b₄ :: b₅ :: b₆ :: b₇ :: b₈ :: b₉ :: t)
      = some n := hn
  have hle : ¬ maxFrame < Bytes.toNat [b₅, b₆] := Nat.not_lt.2 hmax
  simp only [next, hall, if_neg hle]
  rfl

end Stream

/-! ## Octets that are no packet -/

namespace Packet

/-- What is cut short before the tenth octet is refused for that, under no
number. -/
theorem decode_take_of_lt (hm : d.head? = some protocolMarker)
    (hlt : n < fixedHeaderSize) :
    decode (d.take n)
      = .error ⟨none,
        .endOfData (if n = 0 then "PRV" else "packet header")⟩ := by
  cases d with
  | nil => cases hm
  | cons m t =>
    cases hm
    cases n with
    | zero => rfl
    | succ n =>
      have hshort : ((protocolMarker :: t).take (n + 1)).length
          < fixedHeaderSize :=
        Nat.lt_of_le_of_lt (List.length_take_le ..) hlt
      rw [List.take_succ_cons] at hshort ⊢
      rw [if_neg (Nat.succ_ne_zero n)]
      simp only [decode, announcedId?_of_lt hshort, ne_eq, not_true_eq_false,
        if_false]

/-- A header whose length is not the one that its flags go with is not read
beyond its tenth octet. -/
theorem readHeader_of_headerLength {b₀ b₁ b₂ b₃ b₄ b₅ b₆ b₇ b₈ b₉ : UInt8}
    {t : Bytes} (hsize : b₃ ≠ headerLength (Octet.hasBit b₂ 5)) :
    readHeader (b₀ :: b₁ :: b₂ :: b₃ :: b₄ :: b₅ :: b₆ :: b₇ :: b₈ :: b₉ :: t)
      = .error (.headerLength (headerLength (Octet.hasBit b₂ 5)) b₃) := by
  unfold readHeader
  iterate 5 rw [Reader.bind_of_ok (Reader.u8_eq_ok.2 rfl)]
  iterate 2 rw [Reader.bind_of_ok (t := _ :: _) rfl]
  rw [Reader.bind_of_ok (Reader.u8_eq_ok.2 rfl), if_pos hsize]
  rfl

/-- Ten octets are refused if they give another header length than their
flags go with. -/
theorem decode_take_of_headerLength (hlen : fixedHeaderSize ≤ d.length)
    (hm : d.head? = some protocolMarker)
    (hsize : d.getD 3 0 ≠ headerLength (Octet.hasBit (d.getD 2 0) 5)) :
    decode (d.take fixedHeaderSize) = .error ⟨some (UInt16.ofNat (d.wordAt 7)),
      .headerLength (headerLength (Octet.hasBit (d.getD 2 0) 5))
        (d.getD 3 0)⟩ := by
  obtain ⟨b₀, b₁, b₂, b₃, b₄, b₅, b₆, b₇, b₈, b₉, t, rfl⟩ := exists_header hlen
  cases hm
  have hsize : b₃ ≠ headerLength (Octet.hasBit b₂ 5) := hsize
  show (decodeChecked [protocolMarker, b₁, b₂, b₃, b₄, b₅, b₆, b₇, b₈,
    b₉] _).mapError _ = _
  rw [decodeChecked, readHeader_of_headerLength hsize]
  rfl

/-- Ten octets are no header. -/
theorem fixedHeaderSize_lt_headerLength (routed : Bool) :
    fixedHeaderSize < (headerLength routed).toNat := by
  cases routed <;> decide

end Packet

namespace Session

/-- **Both ways agree** on the front of a stream: they take the same octets
off, one at least, and say of them what reading them as a packet comes to. -/
def ReadAlike (d : Bytes) : Prop :=
  ∃ f rest, f ≠ [] ∧ d = f ++ rest ∧ cut d = .packet f rest
    ∧ Stream.next maxFrameData d = .ofFrame f rest

/-- A frame is cut off once it is there. -/
theorem cut_of_le (hn : announcedLength? (d.take fixedHeaderSize) = some n)
    (hlen : frameSize n ≤ d.length) :
    cut d = .packet (d.take (frameSize n)) (d.drop (frameSize n)) := by
  have hten : fixedHeaderSize ≤ d.length :=
    Nat.le_trans (Nat.le_max_left ..) hlen
  rw [cut_of_some hten hn, if_neg (Nat.not_lt.2 hlen)]

/-- With ten octets announced, or more, the frame is what is announced. -/
theorem readAlike_of_ge
    (hn : announcedLength? (d.take fixedHeaderSize) = some n)
    (hmax : d.wordAt 5 ≤ maxFrameData) (hlen : frameSize n ≤ d.length)
    (hge : fixedHeaderSize ≤ n) : ReadAlike d := by
  have hten : fixedHeaderSize ≤ d.length :=
    Nat.le_trans (Nat.le_max_left ..) hlen
  have hsize : frameSize n = n := Nat.max_eq_right hge
  have hcut := cut_of_le hn hlen
  rw [hsize] at hlen hcut
  refine ⟨d.take n, d.drop n, ?_, (List.take_append_drop n d).symm, hcut, ?_⟩
  · refine List.ne_nil_of_length_pos ?_
    rw [List.length_take_of_le hlen]
    exact Nat.lt_of_lt_of_le (by decide) hge
  · rw [Stream.next_of_announced hten hn hmax, Stream.takeOff_of_le hlen]

/-- **The connection** makes a packet of the ten octets from which less was
announced, and it is refused for its header length. What was announced is less
than a header, so the connection takes the header as the whole of the
packet. -/
theorem cut_of_short (hn : announcedLength? (d.take fixedHeaderSize) = some n)
    (hlen : fixedHeaderSize ≤ d.length) (hlt : n < fixedHeaderSize) :
    cut d = .packet (d.take fixedHeaderSize) (d.drop fixedHeaderSize) ∧
      Packet.decode (d.take fixedHeaderSize)
        = .error ⟨some (UInt16.ofNat (d.wordAt 7)),
          .headerLength (Packet.headerLength (Octet.hasBit (d.getD 2 0) 5))
            (d.getD 3 0)⟩ := by
  have hfull : frameSize n = fixedHeaderSize :=
    Nat.max_eq_left (Nat.le_of_lt hlt)
  have hcut := cut_of_le hn (hfull.symm ▸ hlen)
  rw [hfull] at hcut
  refine ⟨hcut,
    Packet.decode_take_of_headerLength hlen
    (Packet.head?_of_announced hlen hn) ?_⟩
  intro heq
  have hle := Packet.headerLength_le_of_announced hlen hn
  have hlong :=
    Packet.fixedHeaderSize_lt_headerLength (Octet.hasBit (d.getD 2 0) 5)
  rw [heq] at hle
  omega

/-- **The buffer** gives off as much as was announced, and it is refused for
being cut short. With nothing announced, nothing is taken off. The stream then
stands where it stood, and the same octets are refused again. -/
theorem next_of_short (hn : announcedLength? (d.take fixedHeaderSize) = some n)
    (hmax : d.wordAt 5 ≤ maxFrameData) (hlen : fixedHeaderSize ≤ d.length)
    (hlt : n < fixedHeaderSize) :
    Stream.next maxFrameData d
      = .badPacket (.endOfData (if n = 0 then "PRV" else "packet header"))
        (d.drop n) := by
  rw [Stream.next_of_announced hlen hn hmax, Stream.takeOff_of_le (by omega),
    Stream.Outcome.ofFrame,
    Packet.decode_take_of_lt (Packet.head?_of_announced hlen hn) hlt]

/-- **When both ways agree.** Let a stream begin with octets that announce a
length, with no more frame data than is allowed, and be there up to that
length and up to the tenth octet. Both ways take the same octets off, and say
the same of them, exactly if no less than ten octets are announced. If less
is, the connection refuses ten octets for their header length, and the buffer
refuses what is announced for being cut short. -/
theorem readAlike_iff_ge (d : Bytes) (n : Nat)
    (hn : announcedLength? (d.take fixedHeaderSize) = some n)
    (hmax : d.wordAt 5 ≤ maxFrameData)
    (hlen : max fixedHeaderSize n ≤ d.length) :
    (ReadAlike d ↔ fixedHeaderSize ≤ n) ∧
      (n < fixedHeaderSize →
        cut d = .packet (d.take fixedHeaderSize) (d.drop fixedHeaderSize) ∧
        Packet.decode (d.take fixedHeaderSize)
          = .error ⟨some (UInt16.ofNat (d.wordAt 7)),
            .headerLength (Packet.headerLength (Octet.hasBit (d.getD 2 0) 5))
              (d.getD 3 0)⟩ ∧
        Stream.next maxFrameData d
          = .badPacket (.endOfData (if n = 0 then "PRV" else "packet header"))
            (d.drop n)) := by
  have hten : fixedHeaderSize ≤ d.length :=
    Nat.le_trans (Nat.le_max_left ..) hlen
  refine ⟨⟨fun halike => ?_, readAlike_of_ge hn hmax hlen⟩, fun hlt => ?_⟩
  · refine Nat.le_of_not_lt fun hlt => ?_
    obtain ⟨hcut, hdecode⟩ := cut_of_short hn hten hlt
    obtain ⟨f, rest, -, -, hf, hnext⟩ := halike
    cases hcut.symm.trans hf
    rw [next_of_short hn hmax hten hlt, Stream.Outcome.ofFrame, hdecode]
      at hnext
    cases hnext
  · obtain ⟨hcut, hdecode⟩ := cut_of_short hn hten hlt
    exact ⟨hcut, hdecode, next_of_short hn hmax hten hlt⟩

/-- A packet without frame data and the first octets of another one. -/
def bareHeader : Bytes := [1, 0, 0, 11, 0, 0, 0, 7, 0, 1, 198, 1, 0]

/-- A packet is followed by a part of the next one, and both ways take that
packet off. -/
theorem readAlike_bareHeader :
    announcedLength? (bareHeader.take fixedHeaderSize) = some 11
      ∧ bareHeader.wordAt 5 ≤ maxFrameData
      ∧ max fixedHeaderSize 11 ≤ bareHeader.length
      ∧ (Packet.decode (bareHeader.take 11)).isOk = true
      ∧ ReadAlike bareHeader := by
  have hn : announcedLength? (bareHeader.take fixedHeaderSize) = some 11 := rfl
  have hmax : bareHeader.wordAt 5 ≤ maxFrameData := by decide
  have hlen : max fixedHeaderSize 11 ≤ bareHeader.length := by decide
  exact ⟨hn, hmax, hlen, by decide +kernel,
    (readAlike_iff_ge bareHeader 11 hn hmax hlen).1.2 (by decide)⟩

/-- Ten octets that announce nothing. -/
def nothingAnnounced : Bytes := [1, 0, 0, 0, 0, 0, 0, 0, 0, 0]

/-- **The buffer gets stuck** on a header that announces nothing: it refuses no
octets and keeps all of them, while the connection goes on behind them. -/
theorem not_readAlike_nothingAnnounced :
    announcedLength? (nothingAnnounced.take fixedHeaderSize) = some 0
      ∧ nothingAnnounced.wordAt 5 ≤ maxFrameData
      ∧ max fixedHeaderSize 0 ≤ nothingAnnounced.length
      ∧ cut nothingAnnounced = .packet nothingAnnounced []
      ∧ Stream.next maxFrameData nothingAnnounced
        = .badPacket (.endOfData "PRV") nothingAnnounced
      ∧ ¬ ReadAlike nothingAnnounced := by
  have hn : announcedLength? (nothingAnnounced.take fixedHeaderSize) = some 0 :=
    rfl
  have hmax : nothingAnnounced.wordAt 5 ≤ maxFrameData := by decide
  have hlen : fixedHeaderSize ≤ nothingAnnounced.length := by decide
  obtain ⟨hcut, hdecode⟩ := cut_of_short hn hlen (by decide)
  have hnext := next_of_short hn hmax hlen (by decide)
  refine ⟨hn, hmax, hlen, hcut, hnext, ?_⟩
  rintro ⟨f, rest, -, -, hf, hboth⟩
  cases hcut.symm.trans hf
  rw [hnext, Stream.Outcome.ofFrame, hdecode] at hboth
  cases hboth

end Session

end Telematics
