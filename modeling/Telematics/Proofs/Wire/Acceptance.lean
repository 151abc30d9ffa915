import Mathlib
import Telematics.Proofs.Wire.Format

/-!
# Which payloads are accepted

Every type of sub-record has a payload of its own, and whether a payload is
accepted is decided by its length, its flags and, for authorization, its
texts. `Subrecord.Accepted` says so by type, with no reader: so many octets
that are always there, and so many more for each flag.

A reader says it by running to the end of the payload. Two notions connect
them. `Reader.Cuts` is said of a reader that takes a fixed number of octets,
whichever they are, as do all fields, and optional fields once their flags are
known. `Reader.UsesUp` is said of a reader at a place of a payload, so a flag
is the octet at a number, and what the flag decides comes behind it.

Neither would do alone. A payload as a whole has no fixed size as soon as one
of its fields stands behind a flag, and yet the field does; so the sizes are
collected by `Cuts` as far as the next flag, and the flag is passed by
`UsesUp`. The condition that comes out of a reader is a chain of inequalities,
one for each place at which the payload could have ended, and the last of them
implies the others. That step is arithmetic, and it is the only one that is
left for a payload once its reader is opened.

What has no layout is accepted whatever it is, and kept as it came. The
theorem for all types is `Subrecord.isOk_decode_iff_accepted`.
-/

namespace Telematics

variable {d t : Bytes}

/-! ## What is accepted -/

namespace Octet

/-- How many bits are set. -/
def count (b : UInt8) : Nat := (List.range 8).countP (hasBit b)

/-- What the bits announce that are set, given what each would, lowest first. -/
def announced (b : UInt8) (sizes : List Nat) : Nat :=
  (sizes.zipIdx.map fun (size, i) => if hasBit b i then size else 0).sum

end Octet

/-- **The payloads that are accepted**, by the type of the sub-record. -/
def Subrecord.Accepted (code : UInt8) (d : Bytes) : Prop :=
  match code.toNat with
  -- the acknowledgement of a record
  | 0 => d.length = 3
  -- the identity of a terminal
  | 1 => d.length = 5 + Octet.announced (d.getD 4 0) [2, 15, 16, 3, 0, 3, 2, 15]
  -- the identity of a dispatching centre
  | 6 => 5 ≤ d.length
  -- two or three texts, each with a zero octet behind it
  | 7 => ∃ texts : List String, (texts.length = 2 ∨ texts.length = 3)
      ∧ (∀ s ∈ texts, 0 ∉ Utf8.encode s) ∧ d = texts.flatMap fun s =>
        Utf8.encode s ++ [0]
  -- the outcome of an authorization
  | 9 => d.length = 1
  -- a fix
  | 16 => d.length = 21 + (if Octet.hasBit (d.getD 12 0) 7 then 3 else 0)
      ∨ d.length = 21 + (if Octet.hasBit (d.getD 12 0) 7 then 3 else 0) + 2
  -- the quality of a fix
  | 17 => d.length = 1 + Octet.announced (d.getD 0 0) [2, 2, 2, 1, 2]
  -- digital inputs and analog sensors
  | 18 => d.length = 3 + Octet.count (d.getD 0 0) + 3 * Octet.count (d.getD 2 0)
  -- counters
  | 19 => d.length = 1 + 3 * Octet.count (d.getD 0 0)
  -- the state of the terminal
  | 20 => d.length = 5
  -- loop inputs
  | 22 => d.length = 1 + Octet.count (d.getD 0 0)
  -- one digital sensor, one analog sensor, one counter, one loop input
  | 23 => d.length = 2
  | 24 => d.length = 4
  | 25 => d.length = 4
  | 26 => d.length = 2
  -- a liquid level, or the octets of its sensor
  | 27 =>
    if Octet.hasBit (d.getD 0 0) 3 then 3 ≤ d.length ∧ d.length ≤ 515
      else d.length = 7
  -- passengers, or the octets of their counter
  | 28 => if Octet.hasBit (d.getD 0 0) 0 then 5 ≤ d.length
      else d.length = 5 + 2 * Octet.count (d.getD 1 0)
  | _ => True

/-! ## Readers of a fixed size -/

namespace Reader

variable {α β : Type} {r : Reader α} {n m : Nat} {field unit : String}

/-- **The reader takes so many octets**, whichever they are. -/
def Cuts (r : Reader α) (n : Nat) : Prop :=
  ∀ d t, (∃ a, r d = .ok (a, t)) ↔ n ≤ d.length ∧ t = d.drop n

/-- A value alone takes nothing. -/
theorem cuts_pure (a : α) : (pure a : Reader α).Cuts 0 := fun d t => by
  simp only [pure_eq_ok, exists_eq_left', Nat.zero_le, true_and, List.drop_zero]
  exact eq_comm

/-- What is made of a value does not change what is taken. -/
theorem exists_map_eq_ok {f : α → β} :
    (∃ b, (f <$> r) d = .ok (b, t)) ↔ ∃ a, r d = .ok (a, t) := by
  simp only [map_eq_ok]
  exact ⟨fun ⟨_, a, ha, _⟩ => ⟨a, ha⟩, fun ⟨a, ha⟩ => ⟨_, a, ha, rfl⟩⟩

/-- So what is made of the value does not matter to how many octets are
taken. -/
theorem cuts_map_iff {f : α → β} : (f <$> r).Cuts n ↔ r.Cuts n := by
  unfold Cuts
  simp only [exists_map_eq_ok]

theorem Cuts.map (f : α → β) (h : r.Cuts n) : (f <$> r).Cuts n :=
  cuts_map_iff.2 h

/-- **Fields one after the other** take what they take together. The second
may depend on what the first has read, but not in how many octets it takes. -/
theorem Cuts.bind {f : α → Reader β} (h : r.Cuts n) (hf : ∀ a, (f a).Cuts m) :
    (r >>= f).Cuts (n + m) := fun d t => by
  simp only [bind_eq_ok]
  constructor
  · rintro ⟨b, a, s, ha, hb⟩
    obtain ⟨hn, rfl⟩ := (h d s).1 ⟨a, ha⟩
    obtain ⟨hm, rfl⟩ := (hf a _ t).1 ⟨b, hb⟩
    rw [List.length_drop] at hm
    exact ⟨by omega, List.drop_drop ..⟩
  · rintro ⟨hle, rfl⟩
    obtain ⟨a, ha⟩ := (h d (d.drop n)).2 ⟨by omega, rfl⟩
    obtain ⟨b, hb⟩ := (hf a (d.drop n) (d.drop (n + m))).2
      ⟨by rw [List.length_drop]; omega, (List.drop_drop ..).symm⟩
    exact ⟨b, a, _, ha, hb⟩

/-- A run of octets is taken if it is there. -/
theorem cuts_bytes : (bytes n field).Cuts n := fun d t => by
  simp only [bytes_eq_ok]
  constructor
  · rintro ⟨a, rfl, rfl⟩
    refine ⟨?_, List.drop_left.symm⟩
    rw [List.length_append]
    exact Nat.le_add_right ..
  · rintro ⟨hle, rfl⟩
    exact ⟨d.take n, List.length_take_of_le hle,
      (List.take_append_drop n d).symm⟩

/-- A word is a run of octets and what is made of it. -/
theorem cuts_u8 : (u8 field).Cuts 1 := (cuts_bytes.map _).map _

theorem cuts_u16 : (u16 field).Cuts 2 := (cuts_bytes.map _).map _

theorem cuts_u24 : (u24 field).Cuts 3 := (cuts_bytes.map _).map _

theorem cuts_u32 : (u32 field).Cuts 4 := (cuts_bytes.map _).map _

/-- An array is a run of octets of its length. -/
theorem cuts_array : (array n field).Cuts n := fun d t => by
  have h := (cuts_bytes : (bytes n field).Cuts n) d t
  simp only [array_eq_ok, bytes_eq_ok] at h ⊢
  rw [← h]
  constructor
  · rintro ⟨v, rfl⟩
    exact ⟨v.toList, Vector.length_toList, rfl⟩
  · rintro ⟨a, rfl, rfl⟩
    exact ⟨⟨a.toArray, rfl⟩, rfl⟩

/-- A field behind a flag takes its octets if the flag is set. -/
theorem Cuts.whenFlag (h : r.Cuts n) (present : Bool) :
    (whenFlag present r).Cuts (if present then n else 0) := by
  unfold Reader.whenFlag
  split
  · exact h.map some
  · exact cuts_pure none

/-- Fields behind one flag each take as many octets as there are flags. By
induction on the flags, from the first place to the last. -/
theorem Cuts.mapM_whenFlag (h : r.Cuts n) (bits : List Bool) :
    (bits.mapM (Reader.whenFlag · r)).Cuts (n * bits.countP id) := by
  induction bits with
  | nil => exact cuts_pure []
  | cons b bits ih =>
    have hsize : n * (b :: bits).countP id
        = (if b then n else 0) + (n * bits.countP id + 0) := by
      cases b with
      | false => simp
      | true =>
        rw [List.countP_cons_of_pos rfl, Nat.mul_succ, if_pos rfl]; omega
    rw [List.mapM_cons, hsize]
    exact (h.whenFlag b).bind fun _ => ih.bind fun _ => cuts_pure _

/-- **Eight places** take as many octets as their flags announce. Which places
are filled is known from the flag byte before any of them is read, so the
number of octets does not depend on what is in them. -/
theorem Cuts.slots (h : r.Cuts n) (flags : UInt8) :
    (Slots.read flags r).Cuts (n * Octet.count flags) := by
  have hcount : Octet.count flags
      = ((List.range 8).map (Octet.hasBit flags)).countP id := by
    rw [List.countP_map]
    rfl
  rw [← cuts_map_iff (f := Vector.toList), Slots.toList_map_read, hcount]
  exact h.mapM_whenFlag _

/-- **A payload of a fixed size** is accepted exactly if it has that size.
What the octets are plays no part, since a field of a fixed size takes any. -/
theorem Cuts.isOk_whole (h : r.Cuts n) :
    (∃ a, whole unit r d = .ok a) ↔ d.length = n := by
  simp only [whole_eq_ok, h d []]
  rw [eq_comm (a := ([] : Bytes)), List.drop_eq_nil_iff]
  omega

/-! ## Readers at a place -/

/-- **From a place of a payload on, the reader uses the payload up** exactly
under a condition. -/
def UsesUp (d : Bytes) (i : Nat) (r : Reader α) (P : Prop) : Prop :=
  i ≤ d.length → ((∃ a, r (d.drop i) = .ok (a, [])) ↔ P)

namespace UsesUp

variable {i : Nat} {P Q : Prop}

/-- The condition may be put in other words. -/
theorem congr (h : UsesUp d i r P) (hPQ : P ↔ Q) : UsesUp d i r Q :=
  fun hi => (h hi).trans hPQ

/-- A payload is used up from its start on. -/
theorem isOk_whole (h : UsesUp d 0 r P) :
    (∃ a, whole unit r d = .ok a) ↔ P := by
  simp only [whole_eq_ok]
  exact h (Nat.zero_le _)

/-- The last field has to end with the payload: too few octets are refused by
the field, and more than enough by the check that nothing is left. -/
theorem of_cuts (h : r.Cuts n) : UsesUp d i r (d.length = i + n) := fun hi => by
  rw [h, eq_comm (a := ([] : Bytes)), List.drop_eq_nil_iff, List.length_drop]
  omega

/-- What is made of the value does not change what is used up. -/
theorem map (f : α → β) (h : UsesUp d i r P) : UsesUp d i (f <$> r) P :=
  fun hi => exists_map_eq_ok.trans (h hi)

/-- Behind a field the reader goes on at a later place. -/
theorem bind {f : α → Reader β} (h : r.Cuts n)
    (hf : ∀ a, UsesUp d (i + n) (f a) P) :
    UsesUp d i (r >>= f) (i + n ≤ d.length ∧ P) := fun hi => by
  have hr := fun s => h (d.drop i) s
  simp only [List.length_drop, List.drop_drop] at hr
  simp only [bind_eq_ok]
  constructor
  · rintro ⟨b, a, s, ha, hb⟩
    obtain ⟨hn, rfl⟩ := (hr s).1 ⟨a, ha⟩
    have hle : i + n ≤ d.length := by omega
    exact ⟨hle, (hf a hle).1 ⟨b, hb⟩⟩
  · rintro ⟨hle, hP⟩
    obtain ⟨a, ha⟩ := (hr _).2 ⟨by omega, rfl⟩
    obtain ⟨b, hb⟩ := (hf a hle).2 hP
    exact ⟨b, a, _, ha, hb⟩

/-- Behind one octet the reader goes on with that octet. -/
theorem octet {f : UInt8 → Reader β}
    (hf : UsesUp d (i + 1) (f (d.getD i 0)) P) :
    UsesUp d i (u8 field >>= f) (i + 1 ≤ d.length ∧ P) := fun hi => by
  simp only [bind_eq_ok, u8_eq_ok]
  constructor
  · rintro ⟨b, a, s, ha, hb⟩
    have hlt : i < d.length := Nat.lt_of_not_le fun hge => by
      rw [List.drop_eq_nil_of_le hge] at ha
      cases ha
    rw [List.drop_eq_getElem_cons hlt] at ha
    obtain ⟨rfl, rfl⟩ := List.cons.inj ha
    rw [← List.getD_eq_getElem d 0 hlt] at hb
    exact ⟨hlt, (hf hlt).1 ⟨b, hb⟩⟩
  · rintro ⟨hlt, hP⟩
    obtain ⟨b, hb⟩ := (hf hlt).2 hP
    refine ⟨b, d.getD i 0, _, ?_, hb⟩
    rw [List.drop_eq_getElem_cons hlt, List.getD_eq_getElem d 0 hlt]

/-- A reader may ask whether the payload ends here. -/
theorem atEnd {f : Bool → Reader β}
    (hf : UsesUp d i (f (decide (d.length = i))) P) :
    UsesUp d i (Reader.atEnd >>= f) P := fun hi => by
  have hend : (d.drop i).isEmpty = decide (d.length = i) := by
    rw [Bool.eq_iff_iff, List.isEmpty_iff, List.drop_eq_nil_iff,
      decide_eq_true_iff]
    omega
  have hread : Reader.atEnd (d.drop i)
      = .ok (decide (d.length = i), d.drop i) := by
    rw [atEnd_eq_ok, hend]
    exact ⟨rfl, rfl⟩
  rw [bind_of_ok hread]
  exact hf hi

/-- A last field may be there unless the payload ends before it. -/
theorem optionalLast (h : r.Cuts n) (f : Option α → β) :
    UsesUp d i (Reader.atEnd >>= fun b => Reader.whenFlag (!b) r
      >>= fun o => pure (f o))
      (d.length = i ∨ d.length = i + n) := by
  refine (atEnd <| of_cuts <| (h.whenFlag _).bind fun _ => cuts_pure _).congr ?_
  by_cases hend : d.length = i
  · simp [hend]
  · simp [hend]

theorem rest : UsesUp d i Reader.rest True := fun _ => by simp

/-- A choice by a condition that is known at this place. -/
theorem ite {c : Prop} [Decidable c] {r' : Reader α} (h : UsesUp d i r P)
    (h' : UsesUp d i r' Q) :
    UsesUp d i (if c then r else r') (if c then P else Q) := by
  split
  · exact h
  · exact h'

/-- The last step may put the value together. -/
theorem bind_pure (f : α → β) (h : UsesUp d i r P) :
    UsesUp d i (r >>= fun a => pure (f a)) P := by
  rw [← map_eq_bind]
  exact h.map f

end UsesUp

end Reader

/-! ## Payload by payload -/

/-- **The acknowledgement of a record**: a number and a result. Any three
octets are one; what the result means is not looked at here. -/
theorem RecordResponse.isOk_decode_iff :
    (∃ p, decode d = .ok p) ↔ d.length = 3 :=
  (Reader.cuts_u16.bind fun _ => Reader.cuts_u8.bind fun _ =>
    Reader.cuts_pure _).isOk_whole

/-- **The outcome of an authorization**: one octet. -/
theorem AuthResult.isOk_decode_iff : (∃ p, decode d = .ok p) ↔ d.length = 1 :=
  (Reader.cuts_u8.bind fun _ => Reader.cuts_pure _).isOk_whole

/-- **The state of the terminal**: five octets. -/
theorem PowerState.isOk_decode_iff : (∃ p, decode d = .ok p) ↔ d.length = 5 :=
  (Reader.cuts_u8.bind fun _ => Reader.cuts_u8.bind fun _ =>
    Reader.cuts_u8.bind fun _ =>
    Reader.cuts_u8.bind fun _ => Reader.cuts_u8.bind fun _ =>
      Reader.cuts_pure _).isOk_whole

/-- An input's number and state are packed into two octets. -/
theorem InputState.cuts_read (low high : String) : (read low high).Cuts 2 :=
  Reader.cuts_u8.bind fun _ => Reader.cuts_u8.bind fun _ => Reader.cuts_pure _

/-- A numbered value is a number and twenty-four bits. -/
theorem NumberedValue.cuts_read (number value : String) :
    (read number value).Cuts 4 :=
  Reader.cuts_u8.bind fun _ => Reader.cuts_u24.bind fun _ => Reader.cuts_pure _

/-- A door has two counts. -/
theorem Passengers.cuts_readDoor : readDoor.Cuts 2 :=
  Reader.cuts_u8.bind fun _ => Reader.cuts_u8.bind fun _ => Reader.cuts_pure _

/-- **The identity of a terminal**: five octets, the last with the flags. The
list has, flag by flag, how many octets are added; the fifth flag adds
none. -/
theorem TermIdentity.isOk_decode_iff : (∃ p, decode d = .ok p) ↔
    d.length = 5 + Octet.announced (d.getD 4 0) [2, 15, 16, 3, 0, 3, 2,
      15] := by
  unfold decode
  refine (Reader.UsesUp.isOk_whole <| .bind Reader.cuts_u32 fun tid => .octet <|
    .of_cuts <|
    (Reader.cuts_u16.whenFlag _).bind fun _ =>
    (Reader.cuts_array.whenFlag _).bind fun _ =>
    (Reader.cuts_array.whenFlag _).bind fun _ =>
    (Reader.cuts_array.whenFlag _).bind fun _ =>
    (Reader.cuts_array.whenFlag _).bind fun _ =>
    (Reader.cuts_u16.whenFlag _).bind fun _ =>
    (Reader.cuts_array.whenFlag _).bind fun _ => Reader.cuts_pure _).trans ?_
  simp only [Octet.announced, List.zipIdx_cons, List.zipIdx_nil, List.map_cons,
    List.map_nil, List.sum_cons, List.sum_nil, ite_self, Nat.zero_add,
    Nat.reduceAdd]
  omega

/-- **The quality of a fix**: its flags, and what they announce. The flags
behind the fifth announce nothing, and are not asked to be clear. -/
theorem FixQuality.isOk_decode_iff : (∃ q, decode d = .ok q) ↔
    d.length = 1 + Octet.announced (d.getD 0 0) [2, 2, 2, 1, 2] := by
  unfold decode
  refine (Reader.UsesUp.isOk_whole <| .octet <| .of_cuts <|
    (Reader.cuts_u16.whenFlag _).bind fun _ =>
    (Reader.cuts_u16.whenFlag _).bind fun _ =>
    (Reader.cuts_u16.whenFlag _).bind fun _ =>
    (Reader.cuts_u8.whenFlag _).bind fun _ =>
    (Reader.cuts_u16.whenFlag _).bind fun _ => Reader.cuts_pure _).trans ?_
  simp only [Octet.announced, List.zipIdx_cons, List.zipIdx_nil, List.map_cons,
    List.map_nil, List.sum_cons, List.sum_nil, Nat.zero_add, Nat.reduceAdd]
  omega

/-- **Inputs, outputs and analog sensors**: three octets, one more for each
input and three more for each sensor. The flags of the inputs come first and
those of the sensors last. -/
theorem AdSensors.isOk_decode_iff : (∃ p, decode d = .ok p) ↔
    d.length = 3 + Octet.count (d.getD 0 0) + 3 * Octet.count (d.getD 2 0) := by
  unfold decode
  refine (Reader.UsesUp.isOk_whole <| .octet <| .octet <| .octet <| .of_cuts <|
    (Reader.cuts_u8.slots _).bind fun _ =>
      (Reader.cuts_u24.slots _).bind fun _ =>
      Reader.cuts_pure _).trans ?_
  simp only [Nat.zero_add, Nat.reduceAdd]
  omega

/-- **Counters**: their flags, and three octets for each. -/
theorem Counters.isOk_decode_iff : (∃ p, decode d = .ok p) ↔
    d.length = 1 + 3 * Octet.count (d.getD 0 0) := by
  unfold decode
  refine (Reader.UsesUp.isOk_whole <| .octet <| .of_cuts <|
    (Reader.cuts_u24.slots _).bind fun _ => Reader.cuts_pure _).trans ?_
  omega

/-- **Loop inputs**: their flags, and an octet for each. -/
theorem LoopInputs.isOk_decode_iff : (∃ p, decode d = .ok p) ↔
    d.length = 1 + Octet.count (d.getD 0 0) := by
  unfold decode
  refine (Reader.UsesUp.isOk_whole <| .octet <| .of_cuts <|
    (Reader.cuts_u8.slots _).bind fun _ => Reader.cuts_pure _).trans ?_
  omega

/-- **A fix**: the altitude is announced, what the source adds is not. So
there are two sizes for either value of the flag, and both are accepted. -/
theorem Fix.isOk_decode_iff : (∃ p, decode d = .ok p) ↔
    d.length = 21 + (if Octet.hasBit (d.getD 12 0) 7 then 3 else 0)
      ∨ d.length = 21 +
        (if Octet.hasBit (d.getD 12 0) 7 then 3 else 0) + 2 := by
  unfold decode
  refine (Reader.UsesUp.isOk_whole <| .bind Reader.cuts_u32 fun ntm =>
    .bind Reader.cuts_u32 fun lat => .bind Reader.cuts_u32 fun long => .octet <|
    .bind Reader.cuts_u16 fun spd => .bind Reader.cuts_u8 fun dir =>
    .bind Reader.cuts_u24 fun odm => .bind Reader.cuts_u8 fun din =>
    .bind Reader.cuts_u8 fun src =>
    .bind (Reader.cuts_u24.whenFlag _) fun alt =>
      .optionalLast Reader.cuts_u16 _).trans ?_
  simp only [Nat.zero_add, Nat.reduceAdd, altitudeBit]
  omega

namespace LiquidSensor

/-- A level is a word, and raw data are what is left, within their bound. -/
theorem usesUp_readReading (i : Nat) (raw : Bool) :
    Reader.UsesUp d i (readReading raw)
    (if raw then d.length ≤ i + 512 else d.length = i + 4) := by
  cases raw with
  | false => exact .of_cuts (Reader.cuts_u32.map _)
  | true =>
    intro hi
    have hlen : (d.drop i).length = d.length - i := List.length_drop
    simp only [readReading_eq_ok, if_pos]
    constructor
    · rintro ⟨x, hraw, hfits, hx⟩
      cases x with
      | value l => cases hraw
      | raw a =>
        obtain rfl : d.drop i = a := hx
        have hle : (d.drop i).length ≤ 512 := hfits
        omega
    · intro hle
      have hfits : (d.drop i).length ≤ 512 := by omega
      exact ⟨.raw (d.drop i), rfl, hfits, rfl⟩

/-- **A liquid level**: seven octets, or any number up to the bound on raw
data if the flags say that the sensor's own octets are passed through. -/
theorem isOk_decode_iff : (∃ p, decode d = .ok p) ↔
    if Octet.hasBit (d.getD 0 0) 3 then 3 ≤ d.length ∧ d.length ≤ 515
      else d.length = 7 := by
  unfold decode
  refine (Reader.UsesUp.isOk_whole <| .octet <| .bind Reader.cuts_u16 fun m =>
    (usesUp_readReading _ _).bind_pure _).trans ?_
  split <;> omega

end LiquidSensor

/-- **Passenger counters**: five octets, and two for each door; or raw counts
of any length. The doors that raw counts name are not looked at. -/
theorem Passengers.isOk_decode_iff : (∃ p, decode d = .ok p) ↔
    if Octet.hasBit (d.getD 0 0) 0 then 5 ≤ d.length
      else d.length = 5 + 2 * Octet.count (d.getD 1 0) := by
  unfold decode
  refine (Reader.UsesUp.isOk_whole <| .octet <| .octet <|
    .bind Reader.cuts_u8 fun drl =>
    .bind Reader.cuts_u16 fun m => .ite ((Reader.UsesUp.rest.map _).bind_pure _)
      ((Reader.UsesUp.of_cuts ((cuts_readDoor.slots _).map _)).bind_pure
        _)).trans ?_
  simp only [Nat.zero_add, Nat.reduceAdd]
  split
  · simp only [and_true]
    omega
  · omega

/-- A dispatching centre's description may have any length. -/
theorem DispatcherIdentity.isOk_decode_iff :
    (∃ p, decode d = .ok p) ↔ 5 ≤ d.length := by
  constructor
  · rintro ⟨p, hp⟩
    rw [← decode_eq_ok.1 hp, length_octets]
    exact Nat.le_add_right ..
  · intro hlen
    obtain ⟨b, s, rfl⟩ :=
      List.exists_cons_of_length_pos (Nat.lt_of_lt_of_le (by decide) hlen)
    have hfour : (s.take 4).length = 4 :=
      List.length_take_of_le (Nat.le_of_succ_le_succ hlen)
    obtain ⟨w, hw⟩ := Bytes.exists_ofUInt32 hfour
    refine ⟨⟨b, w, s.drop 4⟩, decode_eq_ok.2 ?_⟩
    rw [octets, hw, List.cons_append, List.take_append_drop]

/-- **A user name and a password**: two texts, or three with the server
sequence. A text ends at its first zero octet, so there is no other way to
take the octets apart. -/
theorem AuthInfo.isOk_decode_iff : (∃ p, decode d = .ok p) ↔
    ∃ texts : List String, (texts.length = 2 ∨ texts.length = 3)
      ∧ (∀ s ∈ texts, 0 ∉ Utf8.encode s) ∧ d = texts.flatMap textOctets := by
  simp only [decode_eq_ok, encode_eq_ok]
  constructor
  · rintro ⟨⟨user, password, none | sequence⟩, ⟨hu, hp, hs⟩, rfl⟩
    · exact ⟨[user, password], .inl rfl, by simp [hu, hp], by simp⟩
    · exact ⟨[user, password, sequence], .inr rfl,
        by simp [hu, hp, hs _ rfl], by simp⟩
  · rintro ⟨texts, hlen, hzero, rfl⟩
    rcases texts with _ | ⟨user, _ | ⟨password, _ | ⟨sequence, _ | ⟨s, texts⟩⟩⟩⟩
    · simp at hlen
    · simp at hlen
    · exact ⟨⟨user, password, none⟩, by simpa using hzero, by simp⟩
    · exact ⟨⟨user, password, some sequence⟩, by simpa using hzero, by simp⟩
    · simp at hlen

namespace Subrecord

/-- A payload is accepted by its type. One case for each type, and each of
them is what was shown of its payload. -/
theorem isOk_decode_iff {code : UInt8} :
    (∃ s, decode code d = .ok s) ↔ Accepted code d := by
  have hmap : ∀ {α : Type} {f : α → Subrecord} {x : Except WireError α},
      (∃ s, f <$> x = .ok s) ↔ ∃ a, x = .ok a := fun {_ _ _} => by
    simp only [Writing.map_eq_ok]
    exact ⟨fun ⟨_, a, ha, _⟩ => ⟨a, ha⟩, fun ⟨a, ha⟩ => ⟨_, a, ha, rfl⟩⟩
  unfold decode Accepted
  generalize code.toNat = k
  split
  · exact hmap.trans RecordResponse.isOk_decode_iff
  · exact hmap.trans TermIdentity.isOk_decode_iff
  · exact hmap.trans DispatcherIdentity.isOk_decode_iff
  · exact hmap.trans AuthInfo.isOk_decode_iff
  · exact hmap.trans AuthResult.isOk_decode_iff
  · exact hmap.trans Fix.isOk_decode_iff
  · exact hmap.trans FixQuality.isOk_decode_iff
  · exact hmap.trans AdSensors.isOk_decode_iff
  · exact hmap.trans Counters.isOk_decode_iff
  · exact hmap.trans PowerState.isOk_decode_iff
  · exact hmap.trans LoopInputs.isOk_decode_iff
  · exact hmap.trans (InputState.cuts_read _ _).isOk_whole
  · exact hmap.trans (NumberedValue.cuts_read _ _).isOk_whole
  · exact hmap.trans (NumberedValue.cuts_read _ _).isOk_whole
  · exact hmap.trans (InputState.cuts_read _ _).isOk_whole
  · exact hmap.trans LiquidSensor.isOk_decode_iff
  · exact hmap.trans Passengers.isOk_decode_iff
  · simp_all

/-- **A sub-record on the wire**, with no reader: its code, the length of its
payload, and a payload of the form that goes with the code. The two sides are
independent: a payload may have the form of its code and still not be as long
as was announced. -/
theorem formed_iff_accepted {u : Bytes} :
    Formed u ↔ u.length = 3 + u.wordAt 1 ∧ Accepted (u.getD 0 0) (u.drop 3) :=
  and_congr_right fun _ => isOk_decode_iff

/-- **Every payload is accepted that has the form of its type, and no other.**
What has no layout is accepted as it is. Both directions are claimed of every
string of octets and of every code. -/
theorem isOk_decode_iff_accepted (code : UInt8) (d : Bytes) :
    ((∃ s, decode code d = .ok s) ↔ Accepted code d)
      ∧ (SubrecordCode.name? code = none →
        decode code d = .ok (unknown code d)) :=
  ⟨isOk_decode_iff, decode_of_name?_eq_none⟩

/-- An identity with two optional fields, the same with an octet more, and a
type without a layout. -/
theorem isOk_decode_identity_with_buffer_size :
    (∃ s, decode 1 [9, 0, 0, 0, 0x41, 1, 0, 2, 0] = .ok s)
      ∧ (¬ ∃ s, decode 1 [9, 0, 0, 0, 0x41, 1, 0, 2, 0, 7] = .ok s)
      ∧ decode 200 [7] = .ok (unknown 200 [7]) := by
  refine ⟨(isOk_decode_iff_accepted 1 _).1.2 rfl, fun h => ?_,
    (isOk_decode_iff_accepted 200 [7]).2 rfl⟩
  have hlen : 10 = 9 := (isOk_decode_iff_accepted 1 _).1.1 h
  contradiction

end Subrecord

end Telematics
