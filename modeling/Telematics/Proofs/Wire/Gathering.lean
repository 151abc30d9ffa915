import Telematics.Wire.Stream
import Telematics.Proofs.Wire.Announcement
import Telematics.Proofs.Wire.RoundTrip

/-!
# How a stream is cut into pieces plays no part

Octets arrive in pieces, and after each piece packets are taken off the front
of what has been gathered until more octets are needed, or until a fault stops
it for good (`Stream.gather`). The pieces may end anywhere, within a header as
well as within a checksum.

What carries the argument is that a buffer, once it yields anything, yields
the same with more octets behind it (`Stream.next_append`): ten octets decide
between refusing the stream and waiting for a fixed number of octets, and the
packet is cut off by that number. So to feed a piece and to have had it in the
buffer from the start is one and the same (`Stream.feed_drain`), and the whole
follows piece by piece.

Two things are said on top of it in `Stream.gather_of_pieces`. A fault is the
end: what arrives later is kept behind the rest and not looked at, so the
packets before the fault are all that there will ever be. And packets that
were written one after the other come out again, in order and with nothing
left, since what is written for a packet announces its own length
(`Packet.next_of_encode`). That the frame data is within the limit of the
stream is asked of each packet; one that is not would be refused by its length
alone.
-/

namespace Telematics

namespace Stream

variable {maxFrame : Nat} {d t piece : Bytes}

/-! ## One look at a buffer -/

namespace Outcome

/-- The outcome with octets behind what is left. -/
def behind (t : Bytes) : Outcome → Outcome
  | wait => wait
  | packet p rest => packet p (rest ++ t)
  | badPacket e rest => badPacket e (rest ++ t)
  | stuck e => stuck e

end Outcome

/-- Looks at a buffer from which a number of octets are to be taken. -/
def takeOff (total : Nat) (buffer : Bytes) : Outcome :=
  match Bytes.split? total buffer with
  | none => .wait
  | some (d, rest) =>
    match Packet.decode d with
    | .ok p => .packet p rest
    | .error failure => .badPacket failure.error rest

/-- Fewer than ten octets are waited with. -/
theorem next_of_lt (h : d.length < fixedHeaderSize) :
    next maxFrame d = .wait := by
  unfold next
  split
  · simp only [List.length_cons, fixedHeaderSize] at h
    omega
  · rfl

/-- **What a look can come to.** Ten octets decide whether the stream is
refused or how many octets are waited for, whatever comes behind them. -/
theorem next_cases (maxFrame : Nat) (d : Bytes) :
    next maxFrame d = .wait
      ∨ (∃ e, ∀ t, next maxFrame (d ++ t) = .stuck e)
      ∨ ∃ total, ∀ t, next maxFrame (d ++ t) = takeOff total (d ++ t) := by
  rcases Nat.lt_or_ge d.length fixedHeaderSize with hlt | hge
  · exact .inl (next_of_lt hlt)
  · refine .inr ?_
    obtain ⟨b₀, b₁, b₂, b₃, b₄, b₅, b₆, b₇, b₈, b₉, s, rfl⟩ := exists_header hge
    by_cases hmarker : b₀ = protocolMarker
    · obtain ⟨total, htotal⟩ : ∃ total, ∀ t, Packet.announcedLength?
          (b₀ :: b₁ :: b₂ :: b₃ :: b₄ :: b₅ :: b₆ :: b₇ :: b₈ :: b₉ :: t)
            = some total :=
        ⟨_, fun _ => if_pos hmarker⟩
      by_cases hlarge : maxFrame < Bytes.toNat [b₅, b₆]
      · refine .inl ⟨.tooLarge "frame data" (Bytes.toNat [b₅, b₆]) maxFrame,
          fun t => ?_⟩
        simp only [List.cons_append, next, htotal, if_pos hlarge]
      · refine .inr ⟨total, fun t => ?_⟩
        simp only [List.cons_append, next, htotal, if_neg hlarge]
        rfl
    · refine .inl ⟨.notEgts b₀, fun t => ?_⟩
      simp only [List.cons_append, next, Packet.announcedLength?,
        if_neg hmarker]

/-- A number of octets that is there is taken off, and read as a packet. -/
theorem takeOff_of_split {total : Nat} {f rest : Bytes}
    (h : Bytes.split? total d = some (f, rest)) :
    takeOff total d = match Packet.decode f with
      | .ok p => .packet p rest
      | .error failure => .badPacket failure.error rest := by
  rw [takeOff, h]

/-- What is taken off does not depend on what comes behind it. -/
theorem takeOff_append {total : Nat} (h : takeOff total d ≠ .wait) (t : Bytes) :
    takeOff total (d ++ t) = (takeOff total d).behind t := by
  cases hsplit : Bytes.split? total d with
  | none =>
    rw [takeOff, hsplit] at h
    exact absurd rfl h
  | some x =>
    obtain ⟨f, rest⟩ := x
    obtain ⟨hlen, rfl⟩ := Bytes.split?_eq_some_iff.1 hsplit
    have hmore : Bytes.split? total (f ++ rest ++ t) = some (f, rest ++ t) :=
      Bytes.split?_eq_some_iff.2 ⟨hlen, List.append_assoc ..⟩
    rw [takeOff_of_split hsplit, takeOff_of_split hmore]
    cases Packet.decode f <;> rfl

/-- **What a buffer yields, it yields with more octets behind it.** A look
that does not wait has decided by what it has seen, so more octets are only
left over. -/
theorem next_append (h : next maxFrame d ≠ .wait) (t : Bytes) :
    next maxFrame (d ++ t) = (next maxFrame d).behind t := by
  rcases next_cases maxFrame d with hwait | ⟨e, hstuck⟩ | ⟨total, htotal⟩
  · exact absurd hwait h
  · have hd : next maxFrame d = .stuck e := List.append_nil d ▸ hstuck []
    rw [hstuck, hd]
    rfl
  · have hd : next maxFrame d = takeOff total d := List.append_nil d ▸ htotal []
    rw [htotal, hd]
    exact takeOff_append (hd ▸ h) t

/-- What is taken off as a packet is one. -/
theorem exists_of_takeOff {total : Nat} {p : Packet} {rest : Bytes}
    (h : takeOff total d = .packet p rest) :
    ∃ f, Packet.decode f = .ok p ∧ d = f ++ rest := by
  cases hsplit : Bytes.split? total d with
  | none =>
    rw [takeOff, hsplit] at h
    cases h
  | some x =>
    rw [takeOff_of_split hsplit] at h
    cases hf : Packet.decode x.1 with
    | error failure =>
      rw [hf] at h
      cases h
    | ok q =>
      rw [hf] at h
      cases h
      exact ⟨x.1, hf, (Bytes.split?_eq_some_iff.1 hsplit).2⟩

/-- A packet that a look yields is one that its octets are read as. -/
theorem exists_of_next {p : Packet} {rest : Bytes}
    (h : next maxFrame d = .packet p rest) :
    ∃ f, Packet.decode f = .ok p ∧ d = f ++ rest := by
  rcases next_cases maxFrame d with hwait | ⟨e, hstuck⟩ | ⟨total, htotal⟩
  · cases h.symm.trans hwait
  · cases h.symm.trans (List.append_nil d ▸ hstuck [])
  · exact exists_of_takeOff ((List.append_nil d ▸ htotal []).symm.trans h)

/-- A packet that is taken off has an octet at least. -/
theorem length_of_next {p : Packet} {rest : Bytes}
    (h : next maxFrame d = .packet p rest) :
    rest.length < d.length := by
  obtain ⟨f, hf, rfl⟩ := exists_of_next h
  cases f with
  | nil => cases hf
  | cons b f =>
    rw [List.length_append, List.length_cons]
    omega

/-! ## All that a buffer yields -/

/-- What has come of the octets so far. -/
structure Gathered where
  /-- The packets that were taken off, in order. -/
  packets : List Packet
  /-- The octets that are left. -/
  buffer : Bytes
  /-- The fault that stopped it, if one did. -/
  fault : Option WireError
  deriving DecidableEq, Repr

/-- **Takes packets off the front** until more octets are needed or a fault
stops it. -/
def drain (maxFrame : Nat) (buffer : Bytes) : Gathered :=
  match h : next maxFrame buffer with
  | .wait => ⟨[], buffer, none⟩
  | .stuck e => ⟨[], buffer, some e⟩
  | .badPacket e rest => ⟨[], rest, some e⟩
  | .packet p rest =>
    have : rest.length < buffer.length := length_of_next h
    let more := drain maxFrame rest
    { more with packets := p :: more.packets }
termination_by buffer.length

/-- One more piece arrives. After a fault it is kept and not looked at. -/
def Gathered.feed (maxFrame : Nat) (g : Gathered) (piece : Bytes) : Gathered :=
  match g.fault with
  | some _ => { g with buffer := g.buffer ++ piece }
  | none =>
    let more := drain maxFrame (g.buffer ++ piece)
    { more with packets := g.packets ++ more.packets }

/-- **Octets that arrive in pieces**, one after the other. -/
def gather (maxFrame : Nat) (pieces : List Bytes) : Gathered :=
  pieces.foldl (Gathered.feed maxFrame) ⟨[], [], none⟩

/-- A buffer that is waited with yields nothing and is kept. -/
theorem drain_of_wait (h : next maxFrame d = .wait) :
    drain maxFrame d = ⟨[], d, none⟩ := by
  rw [drain]
  split <;> simp_all

/-- A stream that is refused yields nothing more. -/
theorem drain_of_stuck {e : WireError} (h : next maxFrame d = .stuck e) :
    drain maxFrame d = ⟨[], d, some e⟩ := by
  rw [drain]
  split <;> simp_all

/-- A packet that is not read is taken off and ends the stream. -/
theorem drain_of_badPacket {e : WireError} {rest : Bytes}
    (h : next maxFrame d = .badPacket e rest) :
    drain maxFrame d = ⟨[], rest, some e⟩ := by
  rw [drain]
  split <;> simp_all

/-- A packet is the first of what is yielded. -/
theorem drain_of_packet {p : Packet} {rest : Bytes}
    (h : next maxFrame d = .packet p rest) :
    drain maxFrame d
      = { drain maxFrame rest with packets := p
        :: (drain maxFrame rest).packets } := by
  rw [drain]
  split <;> simp_all

/-! ## Pieces -/

/-- What was taken off before a piece arrives is not looked at again. -/
theorem Gathered.feed_packets_cons (g : Gathered) (p : Packet) (piece : Bytes) :
    ({ g with packets := p :: g.packets } : Gathered).feed maxFrame piece
      = { g.feed maxFrame piece with packets := p
        :: (g.feed maxFrame piece).packets } := by
  unfold Gathered.feed
  cases g.fault <;> rfl

/-- **A piece that arrives later** might as well have been there from the
start. By induction on the packets that the buffer yields: each of them is
also yielded with the piece behind it. -/
theorem feed_drain (maxFrame : Nat) (d piece : Bytes) :
    (drain maxFrame d).feed maxFrame piece = drain maxFrame (d ++ piece) := by
  -- The induction is on the packets in `d`; each of them is taken off `d ++
  -- piece` as well.
  induction d using drain.induct maxFrame with
  | case1 d h =>
    rw [drain_of_wait h]
    rfl
  | case2 d e h =>
    have hmore := next_append (by rw [h]; nofun) piece
    rw [h] at hmore
    rw [drain_of_stuck h, drain_of_stuck hmore]
    rfl
  | case3 d e rest h =>
    have hmore := next_append (by rw [h]; nofun) piece
    rw [h] at hmore
    rw [drain_of_badPacket h, drain_of_badPacket hmore]
    rfl
  | case4 d p rest h _ ih =>
    have hmore := next_append (by rw [h]; nofun) piece
    rw [h] at hmore
    rw [drain_of_packet h, drain_of_packet hmore,
      Gathered.feed_packets_cons, ih]

/-- The same of any number of pieces. -/
theorem foldl_feed_drain (maxFrame : Nat) (pieces : List Bytes) (d : Bytes) :
    pieces.foldl (Gathered.feed maxFrame) (drain maxFrame d)
      = drain maxFrame (d ++ pieces.flatten) := by
  induction pieces generalizing d with
  | nil => rw [List.flatten_nil, List.append_nil, List.foldl_nil]
  | cons piece pieces ih =>
    rw [List.foldl_cons, feed_drain, ih, List.flatten_cons, List.append_assoc]

/-- **What comes of pieces** is what comes of the octets in them. By induction
on the pieces: what is kept from the earlier ones is in front of the next. -/
theorem gather_eq_drain (maxFrame : Nat) (pieces : List Bytes) :
    gather maxFrame pieces = drain maxFrame pieces.flatten := by
  have hstart : drain maxFrame [] = ⟨[], [], none⟩ := drain_of_wait rfl
  rw [gather, ← hstart, foldl_feed_drain, List.nil_append]

end Stream

/-! ## Packets that are written -/

/-- **A packet that a stream can carry**: what is written for it is read as
that packet, and the frame data is within the limit. -/
structure Packet.Carried (maxFrame : Nat) (p : Packet) : Prop where
  decode_encode : ∀ d, p.encode = .ok d → decode d = .ok p
  frame_le : ∀ data, encodeFrame p.frame = .ok data → data.length ≤ maxFrame

namespace Packet

/-- **What is written for a packet announces its own length**, and a stream
waits for so many octets if the frame data in it is within the limit. -/
theorem next_of_encode {maxFrame : Nat} {p : Packet} {d data : Bytes}
    (h : p.encode = .ok d) (hdata : encodeFrame p.frame = .ok data)
    (hmax : data.length ≤ maxFrame) (t : Bytes) :
    Stream.next maxFrame (d ++ t) = Stream.takeOff d.length (d ++ t) := by
  obtain ⟨data, hdata', hle, rfl⟩ := encode_eq_ok.1 h
  obtain rfl := Except.ok.inj (hdata.symm.trans hdata')
  have hsize : Bytes.toNat (Bytes.ofUInt16 (UInt16.ofNat data.length))
      = data.length := by
    rw [Bytes.toNat_ofUInt16, toNat_ofNat_length (Nat.le_trans hle (by decide))]
  generalize UInt16.ofNat data.length = w at hsize
  generalize hd : p.encodeHeader w ++ Checksum.header (p.encodeHeader w)
    :: trailer data = d
  have hlength : d.length = if data.length = 0 then p.headerSize.toNat
      else p.headerSize.toNat + data.length + frameChecksumSize := by
    rw [← hd, List.length_append, List.length_cons, length_trailer,
      ← length_encodeHeader p w]
    split <;> omega
  have hannounced : announcedLength? (d ++ t)
      = some (if Bytes.toNat (Bytes.ofUInt16 w) = 0 then p.headerSize.toNat
        else p.headerSize.toNat + Bytes.toNat (Bytes.ofUInt16 w)
          + frameChecksumSize) := by
    rw [← hd]
    rfl
  rw [hsize, ← hlength] at hannounced
  have hnext : Stream.next maxFrame (d ++ t)
      = (announcedLength? (d ++ t)).elim (.stuck (.notEgts protocolMarker))
        fun total =>
        if maxFrame < Bytes.toNat (Bytes.ofUInt16 w) then
          .stuck (.tooLarge "frame data" (Bytes.toNat (Bytes.ofUInt16 w))
            maxFrame)
        else Stream.takeOff total (d ++ t) := by
    rw [← hd]
    rfl
  rw [hnext, hannounced, Option.elim_some]
  rw [hsize, if_neg (Nat.not_lt.2 hmax)]

/-- A clean packet within the limit is one that a stream can carry. -/
theorem Clean.carried {maxFrame : Nat} {p : Packet} (hp : p.Clean)
    (h : ∀ data, encodeFrame p.frame = .ok data → data.length ≤ maxFrame) :
    p.Carried maxFrame :=
  ⟨fun _ hd => Layout.decode_eq_ok.2 (Layout.exists_of_encode hp hd), h⟩

/-- A packet that a stream can carry is taken off it, whatever follows. -/
theorem Carried.next {maxFrame : Nat} {p : Packet} {d : Bytes}
    (hp : p.Carried maxFrame) (h : p.encode = .ok d) (t : Bytes) :
    Stream.next maxFrame (d ++ t) = .packet p t := by
  obtain ⟨data, hdata, -, -⟩ := encode_eq_ok.1 h
  rw [next_of_encode h hdata (hp.frame_le data hdata),
    Stream.takeOff_of_split (Bytes.split?_append d t), hp.decode_encode d h]

end Packet

namespace Stream

/-- **Packets in a row** are taken off in their order, and nothing is left.
Nothing is asked of the octets but that they were written for packets that the
limit allows. -/
theorem drain_of_carried {maxFrame : Nat} {ps : List Packet} {ds : List Bytes}
    (hps : ∀ p ∈ ps, p.Carried maxFrame) (h : ps.mapM Packet.encode = .ok ds) :
    drain maxFrame ds.flatten = ⟨ps, [], none⟩ := by
  induction ps generalizing ds with
  | nil =>
    obtain rfl := Writing.mapM_nil_eq_ok.1 h
    exact drain_of_wait rfl
  | cons p ps ih =>
    obtain ⟨d, ds, hd, hds, rfl⟩ := Writing.mapM_cons_eq_ok.1 h
    obtain ⟨hp, hps⟩ := List.forall_mem_cons.1 hps
    rw [List.flatten_cons, drain_of_packet (hp.next hd _), ih hps hds]

/-- **How a stream is cut into pieces plays no part.** Whatever the octets and
the limit are, the pieces yield the packets, the fault and the rest that the
octets yield in one piece. Once a fault has stopped it, all is said but for
the octets that come later, which are kept behind the rest. And packets that
are written one after the other are what comes of their octets, with nothing
left. -/
theorem gather_of_pieces (maxFrame : Nat) (pieces : List Bytes) :
    gather maxFrame pieces = gather maxFrame [pieces.flatten]
      ∧ (∀ early late, pieces = early ++ late →
        (gather maxFrame early).fault.isSome →
        gather maxFrame [pieces.flatten] = { gather maxFrame early with
          buffer := (gather maxFrame early).buffer ++ late.flatten })
      ∧ ∀ ps ds, (∀ p ∈ ps, p.Carried maxFrame) →
        ps.mapM Packet.encode = .ok ds →
        pieces.flatten = ds.flatten →
          gather maxFrame pieces = ⟨ps, [], none⟩ := by
  have hwhole : gather maxFrame [pieces.flatten]
      = drain maxFrame pieces.flatten := by
    rw [gather_eq_drain, List.flatten_singleton]
  refine ⟨by rw [hwhole, gather_eq_drain], ?_, ?_⟩
  · rintro early late rfl hfault
    obtain ⟨e, he⟩ := Option.isSome_iff_exists.1 hfault
    rw [hwhole, List.flatten_append, ← feed_drain, ← gather_eq_drain]
    simp only [Gathered.feed, he]
  · intro ps ds hps h hflatten
    rw [gather_eq_drain, hflatten, drain_of_carried hps h]

/-- Two packets that arrive in three pieces; the first piece ends within a
header, the second within a checksum. -/
theorem gather_two_packets_in_three_pieces :
    (∀ p ∈ [Packet.ofFrame 7 (.appData []), .ofFrame 8 (.response 7 0 [])],
      p.Carried 3)
      ∧ [Packet.ofFrame 7 (.appData []), .ofFrame 8 (.response 7 0 [])].mapM
        Packet.encode
        = .ok [[1, 0, 0, 11, 0, 0, 0, 7, 0, 1, 198],
          [1, 0, 0, 11, 0, 3, 0, 8, 0, 0, 2, 7, 0, 0, 12, 73]]
      ∧ gather 3 [[1, 0, 0, 11],
          [0, 0, 0, 7, 0, 1, 198, 1, 0, 0, 11, 0, 3, 0, 8, 0, 0, 2, 7, 0, 0,
            12], [73]]
        = ⟨[.ofFrame 7 (.appData []), .ofFrame 8 (.response 7 0 [])], [],
          none⟩ := by
  have hcarried : ∀ p ∈
    [Packet.ofFrame 7 (.appData []), .ofFrame 8 (.response 7 0 [])],
      p.Carried 3 := by
    refine List.forall_mem_cons.2 ⟨?_, List.forall_mem_singleton.2 ?_⟩
    · refine Packet.Clean.carried ⟨by decide, by decide, rfl, rfl, ?_, ?_⟩ ?_
      · exact List.forall_mem_nil _
      · exact List.forall_mem_nil _
      · rintro _ ⟨⟩
        decide
    · refine Packet.Clean.carried ⟨by decide, by decide, rfl, rfl, ?_, ?_⟩ ?_
      · exact List.forall_mem_nil _
      · exact List.forall_mem_nil _
      · rintro _ ⟨⟩
        decide
  have hencode : [Packet.ofFrame 7 (.appData []),
    .ofFrame 8 (.response 7 0 [])].mapM
      Packet.encode = .ok [[1, 0, 0, 11, 0, 0, 0, 7, 0, 1, 198],
        [1, 0, 0, 11, 0, 3, 0, 8, 0, 0, 2, 7, 0, 0, 12, 73]] := by
    decide +kernel
  exact ⟨hcarried, hencode, (gather_of_pieces 3 _).2.2 _ _ hcarried hencode rfl⟩

end Stream

end Telematics
