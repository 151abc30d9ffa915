import Telematics.Wire.Identity
import Telematics.Proofs.Text.Utf8
import Telematics.Proofs.Wire.Reading
import Telematics.Proofs.Wire.Writing

/-!
# Identity payloads are read and written alike

For each payload that a terminal identifies itself with, and for the
acknowledgements it gets, reading a byte string yields a value exactly if
writing the value yields the byte string. The one exception is the description
of a dispatching centre, which is bounded on the way out alone: there the
equivalence holds within the bound.

The identity of a terminal has seven optional fields behind one flag byte.
They are read by its bits and written with bits of their own, so all there is
to show is that both are the same byte (`TermIdentity.flags_eq_iff`). Texts
end at their zero octet, wherever that is; so a text can be written only if it
holds none, and one that was read never does.
-/

namespace Telematics

variable {d t : Bytes}

namespace RecordResponse

/-- **An acknowledgement of a record** is read from what is written for it. -/
theorem decode_eq_ok {r : RecordResponse} :
    decode d = .ok r ↔ r.encode = d := by
  unfold decode encode
  simp only [Reader.whole_eq_ok, Reader.bind_eq_ok, Reader.u16_eq_ok,
    Reader.u8_eq_ok, Reader.pure_eq_ok]
  constructor
  · rintro ⟨n, s, rfl, b, s', rfl, rfl, rfl⟩
    rfl
  · rintro rfl
    exact ⟨r.recordNumber, _, rfl, r.status, _, rfl, rfl, rfl⟩

end RecordResponse

namespace AuthResult

/-- **The outcome of an authorization** is read from what is written for it.
Any octet is one. -/
theorem decode_eq_ok {r : AuthResult} : decode d = .ok r ↔ r.encode = d := by
  unfold decode encode
  simp only [Reader.whole_eq_ok, Reader.bind_eq_ok, Reader.u8_eq_ok,
    Reader.pure_eq_ok]
  constructor
  · rintro ⟨b, s, rfl, rfl, rfl⟩
    rfl
  · rintro rfl
    exact ⟨r.code, _, rfl, rfl, rfl⟩

end AuthResult

namespace TermIdentity

/-- The flags say which fields are there. -/
theorem flags_eq_iff {i : TermIdentity} {b : UInt8} :
    i.flags = b ↔
      i.homeDispatcherId.isSome = Octet.hasBit b 0
        ∧ i.imei.isSome = Octet.hasBit b 1
        ∧ i.imsi.isSome = Octet.hasBit b 2
        ∧ i.languageCode.isSome = Octet.hasBit b 3
        ∧ i.simpleAuth = Octet.hasBit b 4
        ∧ i.networkId.isSome = Octet.hasBit b 5
        ∧ i.bufferSize.isSome = Octet.hasBit b 6
        ∧ i.msisdn.isSome = Octet.hasBit b 7 := by
  rw [flags, Octet.ofBits_eq_iff rfl]
  simp [List.range_succ]

/-- **The identity of a terminal** is read from what is written for it. Every
bit of the flags has a field, so nothing of the octets is lost. -/
theorem decode_eq_ok {i : TermIdentity} : decode d = .ok i ↔ i.encode = d := by
  unfold decode encode
  simp only [Reader.whole_eq_ok, Reader.bind_eq_ok, Reader.u32_eq_ok,
    Reader.u8_eq_ok, Reader.takes_u16.whenFlag, Reader.takes_array.whenFlag,
    Reader.pure_eq_ok]
  constructor
  · rintro ⟨tid, _, rfl, b, _, rfl, hdid, _, ⟨h0, -, rfl⟩, imei, _,
      ⟨h1, -, rfl⟩, imsi, _, ⟨h2, -, rfl⟩, lngc, _, ⟨h3, -, rfl⟩, nid, _,
      ⟨h5, -, rfl⟩, bs, _, ⟨h6, -, rfl⟩, msisdn, _, ⟨h7, -, rfl⟩, rfl, rfl⟩
    rw [flags_eq_iff.2 ⟨h0, h1, h2, h3, rfl, h5, h6, h7⟩]
    simp only [List.append_assoc, List.cons_append, List.nil_append,
      List.append_nil]
  · rintro rfl
    obtain ⟨h0, h1, h2, h3, h4, h5, h6, h7⟩ := (flags_eq_iff (i := i)).1 rfl
    refine ⟨i.terminalId, _, ?_, i.flags, _, rfl, i.homeDispatcherId, _,
      ⟨h0, by simp, rfl⟩,
      i.imei, _, ⟨h1, by simp, rfl⟩, i.imsi, _, ⟨h2, by simp, rfl⟩,
      i.languageCode, _, ⟨h3, by simp, rfl⟩, i.networkId, _, ⟨h5, by simp, rfl⟩,
      i.bufferSize, _, ⟨h6, by simp, rfl⟩, i.msisdn, _, ⟨h7, by simp, rfl⟩,
      ?_, rfl⟩
    · simp only [List.append_assoc, List.cons_append, List.nil_append,
        List.append_nil]
    · rw [← h4]

end TermIdentity

namespace DispatcherIdentity

/-- The octets of a dispatching centre's identity, whatever the length of
its description. -/
def octets (p : DispatcherIdentity) : Bytes :=
  p.dispatcherType :: Bytes.ofUInt32 p.dispatcherId ++ p.description

/-- **The identity of a dispatching centre** is read from its octets. -/
theorem decode_eq_ok {p : DispatcherIdentity} :
    decode d = .ok p ↔ p.octets = d := by
  unfold decode octets
  rw [Writing.map_eq_ok]
  simp only [Prod.exists, Reader.bind_eq_ok, Reader.u8_eq_ok, Reader.u32_eq_ok,
    Reader.rest_eq_ok, Reader.pure_eq_ok]
  constructor
  · rintro ⟨q, s, ⟨b, _, rfl, w, _, rfl, a, _, ⟨rfl, rfl⟩, rfl, rfl⟩, rfl⟩
    rfl
  · rintro rfl
    exact ⟨p, [], ⟨p.dispatcherType, _, rfl, p.dispatcherId, _, rfl,
      p.description, _, ⟨rfl, rfl⟩, rfl, rfl⟩, rfl⟩

/-- It is written as long as the description is within its bound. -/
theorem encode_eq_ok {p : DispatcherIdentity} :
    p.encode = .ok d
      ↔ p.description.length ≤ maxDescription ∧ p.octets = d := by
  unfold encode octets
  split
  · next h => simp [h]
  · next h => simp [h]

/-- The description has no length of its own in front of it. -/
theorem length_octets (p : DispatcherIdentity) :
    p.octets.length = 5 + p.description.length := by
  simp only [octets, List.cons_append, List.length_cons, List.length_append,
    Bytes.length_ofUInt32]
  omega

end DispatcherIdentity

/-! ## Authorization -/

/-- A text is read up to the zero octet that ends it, and holds none. -/
theorem Reader.text_eq_ok {field s : String} :
    Reader.text field d = .ok (s, t)
      ↔ 0 ∉ Utf8.encode s ∧ d = Utf8.encode s ++ 0 :: t := by
  have hsplit :=
    List.takeWhile_append_dropWhile (p := fun b : UInt8 => b != 0) (l := d)
  unfold Reader.text
  constructor
  · intro h
    split at h
    · cases h
    · next b r hb =>
      have hzero : b = 0 := by
        have :=
          List.head_dropWhile_not (p := fun b : UInt8 => b != 0) (l := d)
            (by simp [hb])
        simpa [hb] using this
      split at h
      · next u hu =>
        cases h
        rw [hb, hzero] at hsplit
        rw [Utf8.decode_eq_ok.1 hu]
        have hall := List.all_takeWhile (p := fun b : UInt8 => b != 0) (l := d)
        refine ⟨fun hmem => ?_, hsplit.symm⟩
        simpa using List.all_eq_true.1 hall 0 hmem
      · cases h
  · rintro ⟨hmem, rfl⟩
    -- The first zero octet is the one behind the text.
    have hpos : ∀ b ∈ Utf8.encode s, (b != 0) = true := fun b hb =>
      bne_iff_ne.2 (fun h => hmem (h ▸ hb))
    have htake : (Utf8.encode s ++ 0 :: t).takeWhile (· != 0)
        = Utf8.encode s := by
      rw [List.takeWhile_append_of_pos hpos]
      simp
    have hdrop : (Utf8.encode s ++ 0 :: t).dropWhile (· != 0) = 0 :: t := by
      rw [List.dropWhile_append_of_pos hpos]
      simp
    simp only [hdrop, htake, Utf8.decode_eq_ok.2 rfl]

namespace AuthInfo

/-- The octets of a text field. -/
def textOctets (s : String) : Bytes := Utf8.encode s ++ [0]

/-- A text is read from its octets and the zero octet behind them. -/
theorem takes_text {field : String} :
    (Reader.text field).Takes (fun s => 0 ∉ Utf8.encode s) textOctets :=
      fun _ _ _ => by
  simp [Reader.text_eq_ok, textOctets]

/-- A text is written unless a zero octet in it would end it early. -/
theorem encodeText_eq_ok {field s : String} :
    encodeText field s = .ok d ↔ 0 ∉ Utf8.encode s ∧ d = textOctets s := by
  unfold encodeText textOctets
  by_cases h : 0 ∈ Utf8.encode s <;> simp [h, eq_comm]

/-- Even an empty text takes an octet. -/
theorem textOctets_ne_nil (s : String) :
    textOctets s ≠ [] := by simp [textOctets]

/-- A server sequence is written if there is one. -/
theorem encode_eq_ok {p : AuthInfo} :
    p.encode = .ok d ↔
      (0 ∉ Utf8.encode p.userName ∧ 0 ∉ Utf8.encode p.password
        ∧ ∀ s ∈ p.serverSequence, 0 ∉ Utf8.encode s)
      ∧ d = textOctets p.userName ++ textOctets p.password
          ++ p.serverSequence.elim [] textOctets := by
  unfold encode
  cases p.serverSequence with
  | none =>
    simp only [Writing.bind_eq_ok, encodeText_eq_ok, Writing.pure_eq_ok]
    constructor
    · rintro ⟨_, ⟨hu, rfl⟩, _, ⟨hp, rfl⟩, _, rfl, rfl⟩
      exact ⟨⟨hu, hp, by simp⟩, rfl⟩
    · rintro ⟨⟨hu, hp, -⟩, rfl⟩
      exact ⟨_, ⟨hu, rfl⟩, _, ⟨hp, rfl⟩, _, rfl, rfl⟩
  | some s =>
    simp only [Writing.bind_eq_ok, encodeText_eq_ok, Writing.pure_eq_ok]
    constructor
    · rintro ⟨_, ⟨hu, rfl⟩, _, ⟨hp, rfl⟩, _, ⟨hs, rfl⟩, rfl⟩
      exact ⟨⟨hu, hp, by simpa using hs⟩, rfl⟩
    · rintro ⟨⟨hu, hp, hs⟩, rfl⟩
      exact ⟨_, ⟨hu, rfl⟩, _, ⟨hp, rfl⟩, _, ⟨hs s rfl, rfl⟩, rfl⟩

/-- **A user name and a password** are read from what is written for them.
That a server sequence is there is known only from octets that are left, so an
absent one and an empty one are written differently. -/
theorem decode_eq_ok {p : AuthInfo} : decode d = .ok p ↔ p.encode = .ok d := by
  rw [encode_eq_ok]
  unfold decode
  simp only [Reader.whole_eq_ok, Reader.bind_eq_ok, takes_text _ _ _,
    takes_text.whenFlag, Reader.atEnd_eq_ok, Reader.pure_eq_ok]
  constructor
  · rintro ⟨u, _, ⟨hu, rfl⟩, w, _, ⟨hw, rfl⟩, b, _, ⟨rfl, rfl⟩, o, _,
      ⟨-, hs, rfl⟩, rfl, rfl⟩
    exact ⟨⟨hu, hw, hs⟩, by simp only [List.append_assoc, List.append_nil]⟩
  · rintro ⟨⟨hu, hw, hs⟩, rfl⟩
    refine ⟨p.userName, _, ⟨hu, List.append_assoc _ _ _⟩, p.password, _,
      ⟨hw, rfl⟩, _, _, ⟨rfl, rfl⟩, p.serverSequence, _,
      ⟨?_, hs, (List.append_nil _).symm⟩, rfl, rfl⟩
    cases p.serverSequence with
    | none => rfl
    | some s => simp [textOctets_ne_nil]

end AuthInfo

end Telematics
