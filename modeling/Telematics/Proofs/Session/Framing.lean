import Telematics.Session.Serve
import Telematics.Proofs.Wire.Announcement

/-!
# How a stream is cut

A stream of octets falls into frames, one for each packet, by a rule that
looks at the first ten octets of each and at nothing else (`Framed`). The rule
leaves no choice (`Framed.unique`), so no octet behind the tenth of a frame,
and nothing that the packet in it may be, moves where the next frame begins.

`Session.cut` is one step of it. A frame can be cut off as soon as it is there
in full, whatever follows, and the same is true of the first octet that is not
the marker; only a stream that is too short so far can turn out either way.

That there is no choice is shown through the step, which is a function: each
case of the rule determines what the step says (`Framed.leads`), and two cases
would have to agree with one step. The rule says nothing of what is in a
frame. A header that announces less than the ten octets it was read from has
these as its frame.
-/

namespace Telematics.Session

variable {d : Bytes}

/-- **A frame**: as many octets as its first ten announce, and ten at
least. -/
def IsFrame (f : Bytes) : Prop :=
  ∃ n, Packet.announcedLength? (f.take fixedHeaderSize) = some n
    ∧ f.length = max fixedHeaderSize n

/-- A frame has ten octets, even if fewer are announced. -/
theorem IsFrame.length_ge {f : Bytes} (h : IsFrame f) :
    fixedHeaderSize ≤ f.length := by
  obtain ⟨n, -, hlen⟩ := h
  exact hlen ▸ Nat.le_max_left _ _

/-- **A stream, the frames it is cut into** and what its end means. -/
inductive Framed : Bytes → List Bytes → Except Error Unit → Prop where
  /-- The stream ends between two packets, or within ten octets of one. -/
  | finished {d : Bytes} (hlen : d.length < fixedHeaderSize) :
    Framed d [] (.ok ())
  /-- What comes next does not begin with the marker. -/
  | foreign {m : UInt8} {t : Bytes} (hlen : fixedHeaderSize ≤ (m :: t).length)
    (hm : m ≠ protocolMarker) :
    Framed (m :: t) [] (.error (.protocol (.notEgts m)))
  /-- The stream ends in the middle of a packet. -/
  | cutOff {d : Bytes} {n : Nat} (hlen : fixedHeaderSize ≤ d.length)
    (hn : Packet.announcedLength? (d.take fixedHeaderSize) = some n)
    (hlt : d.length < max fixedHeaderSize n) :
    Framed d [] (.error .connectionClosed)
  /-- The next packet is there in full, and more may follow. -/
  | frame {f rest : Bytes} {fs : List Bytes} {result : Except Error Unit}
    (hf : IsFrame f)
    (hrest : Framed rest fs result) : Framed (f ++ rest) (f :: fs) result

/-! ## One step -/

/-- **What a step may say** of a stream: that it goes on with a frame, that it
goes on with a foreign octet, or that neither is there yet, so that it might
as well end here. -/
def Cut.Sound (d : Bytes) : Cut → Prop
  | noHeader | noBody => Framed d [] (ended d)
  | foreign m =>
    fixedHeaderSize ≤ d.length ∧ m ≠ protocolMarker ∧ ∃ t, d = m :: t
  | packet f rest => IsFrame f ∧ d = f ++ rest

/-- Fewer than ten octets are waited with. -/
theorem cut_of_lt (h : d.length < fixedHeaderSize) : cut d = .noHeader := by
  rw [cut, if_pos h]

/-- What announces no length begins with a foreign octet. -/
theorem cut_of_none (hlen : fixedHeaderSize ≤ d.length)
    (hn : Packet.announcedLength? (d.take fixedHeaderSize) = none) :
    cut d = .foreign (d.headD 0) := by
  rw [cut, if_neg (Nat.not_lt.2 hlen), hn]

/-- With a length announced it only matters whether so much is there. -/
theorem cut_of_some {n : Nat} (hlen : fixedHeaderSize ≤ d.length)
    (hn : Packet.announcedLength? (d.take fixedHeaderSize) = some n) :
    cut d = if d.length < frameSize n then .noBody
      else .packet (d.take (frameSize n)) (d.drop (frameSize n)) := by
  rw [cut, if_neg (Nat.not_lt.2 hlen), hn]

/-- A stream that ends behind the tenth octet of a frame ends too early. -/
theorem ended_of_ge (hlen : fixedHeaderSize ≤ d.length) :
    ended d = .error .connectionClosed := by
  rw [ended, if_neg (Nat.not_lt.2 hlen)]

/-- **What a step says is so.** Each of its ends is one of the cases of the
rule, and says of the octets what that case asks. -/
theorem sound_cut (d : Bytes) : (cut d).Sound d := by
  by_cases hlen : d.length < fixedHeaderSize
  · rw [cut_of_lt hlen, Cut.Sound, ended, if_pos hlen]
    exact .finished hlen
  · have hlen := Nat.le_of_not_lt hlen
    cases hn : Packet.announcedLength? (d.take fixedHeaderSize) with
    | none =>
      rw [cut_of_none hlen hn]
      cases d with
      | nil => exact absurd hlen (by decide)
      | cons m t =>
        have hm := (Packet.announcedLength?_eq_none_iff hlen).1 hn
        exact ⟨hlen, fun h => hm (congrArg some h), t, rfl⟩
    | some n =>
      rw [cut_of_some hlen hn]
      split
      · next hlt =>
        rw [Cut.Sound, ended_of_ge hlen]
        exact .cutOff hlen hn hlt
      · next hge =>
        have hge := Nat.le_of_not_lt hge
        refine ⟨⟨n, ?_, List.length_take_of_le hge⟩,
          (List.take_append_drop _ d).symm⟩
        have hmin : min fixedHeaderSize (frameSize n) = fixedHeaderSize :=
          Nat.min_eq_left (Nat.le_max_left _ _)
        rw [List.take_take, hmin, hn]

/-- The same of a step that is known. -/
theorem sound_of_cut {c : Cut} (h : cut d = c) : c.Sound d := h ▸ sound_cut d

/-- A foreign octet is noticed with the tenth octet, whatever follows. -/
theorem cut_of_foreign {m : UInt8} {t : Bytes}
    (hlen : fixedHeaderSize ≤ (m :: t).length) (hm : m ≠ protocolMarker) :
    cut (m :: t) = .foreign m :=
  cut_of_none hlen ((Packet.announcedLength?_eq_none_iff hlen).2 fun h =>
    hm (Option.some.inj h))

/-- **A frame is cut off** once it is there, whatever follows. How long it is
was announced in its first ten octets. -/
theorem cut_of_frame {f : Bytes} (hf : IsFrame f) (rest : Bytes) :
    cut (f ++ rest) = .packet f rest := by
  have hten := hf.length_ge
  obtain ⟨n, hn, hlen⟩ := hf
  have hsize : frameSize n = f.length := hlen.symm
  have hle : f.length ≤ (f ++ rest).length := by simp
  rw [← List.take_append_of_le_length hten] at hn
  rw [cut_of_some (Nat.le_trans hten hle) hn, hsize, if_neg (Nat.not_lt.2 hle),
    List.take_left, List.drop_left]

/-- A frame that is not there in full is waited with. -/
theorem cut_of_cutOff {n : Nat} (hlen : fixedHeaderSize ≤ d.length)
    (hn : Packet.announcedLength? (d.take fixedHeaderSize) = some n)
    (hlt : d.length < max fixedHeaderSize n) : cut d = .noBody :=
  (cut_of_some hlen hn).trans (if_pos hlt)

/-! ## The whole stream -/

/-- What a step leaves to be said of a stream. -/
def Cut.Leads (fs : List Bytes) (result : Except Error Unit) : Cut → Prop
  | noHeader => fs = [] ∧ result = .ok ()
  | foreign m => fs = [] ∧ result = .error (.protocol (.notEgts m))
  | noBody => fs = [] ∧ result = .error .connectionClosed
  | packet f rest => ∃ more, fs = f :: more ∧ Framed rest more result

/-- **Every case of the rule determines the step.** -/
theorem Framed.leads {fs : List Bytes} {result : Except Error Unit}
    (h : Framed d fs result) :
    (cut d).Leads fs result := by
  cases h with
  | finished hlen =>
    rw [cut_of_lt hlen]
    exact ⟨rfl, rfl⟩
  | foreign hlen hm =>
    rw [cut_of_foreign hlen hm]
    exact ⟨rfl, rfl⟩
  | cutOff hlen hn hlt =>
    rw [cut_of_cutOff hlen hn hlt]
    exact ⟨rfl, rfl⟩
  | frame hf hrest =>
    rw [cut_of_frame hf]
    exact ⟨_, rfl, hrest⟩

/-- **A stream is cut in one way only.** Every case of the rule is decided by
octets in front, so no two of them apply to one stream. By induction on the
frames. -/
theorem Framed.unique {fs fs' : List Bytes} {r r' : Except Error Unit}
    (h : Framed d fs r) (h' : Framed d fs' r') : fs' = fs ∧ r' = r := by
  -- What one cutting begins with fixes the step, and the step fixes the other.
  induction h generalizing fs' r' with
  | finished hlen =>
    have hleads := h'.leads
    rwa [cut_of_lt hlen] at hleads
  | foreign hlen hm =>
    have hleads := h'.leads
    rwa [cut_of_foreign hlen hm] at hleads
  | cutOff hlen hn hlt =>
    have hleads := h'.leads
    rwa [cut_of_cutOff hlen hn hlt] at hleads
  | frame hf _ ih =>
    have hleads := h'.leads
    rw [cut_of_frame hf] at hleads
    obtain ⟨more, rfl, hmore⟩ := hleads
    obtain ⟨rfl, rfl⟩ := ih hmore
    exact ⟨rfl, rfl⟩

/-- Frames can be put in front of a stream. -/
theorem Framed.append {frames fs : List Bytes} {rest : Bytes}
    {result : Except Error Unit} (hframes : ∀ f ∈ frames, IsFrame f)
    (h : Framed rest fs result) :
    Framed (frames.flatten ++ rest) (frames ++ fs) result := by
  induction frames with
  | nil => exact h
  | cons f frames ih =>
    obtain ⟨hf, hframes⟩ := List.forall_mem_cons.1 hframes
    rw [List.flatten_cons, List.append_assoc, List.cons_append]
    exact .frame hf (ih hframes)

end Telematics.Session
