import Telematics.Wire.Slots
import Telematics.Proofs.Wire.Bits
import Telematics.Proofs.Wire.Writing

/-!
# What a reader accepts

A reader is described by the octets that it takes: `r d = .ok (a, t)` holds
exactly if `d` begins with what is written for `a` and `t` is the rest. The
statements below say so for the readers of single fields, as equivalences.
Read from left to right, one says that the octets can be written back; from
right to left, that what was written is read again. So a payload whose fields
are opened with them yields both round trips from one statement.

`Reader.Takes` is the form of such a statement that optional and repeated
fields pass on. A loop over units has a statement of the same kind
(`Reader.many_eq_ok`): the octets are cut into those of a list of units, and
each unit is read. Its units are described by a value that they stand for and
not by the value that is read of them, since reading a unit may lose what is
needed to write it back.
-/

namespace Telematics

/-! ## Words -/

namespace Bytes

/-- A number is found again in its octets, if there are enough of them. -/
theorem toNat_ofNat_of_lt {n v : Nat} (h : v < Nat.pow 256 n) :
    toNat (ofNat n v) = v := by
  rw [toNat_ofNat, Nat.mod_eq_of_lt h]

/-- A word of sixteen bits is found again in its two octets. -/
theorem toNat_ofUInt16 (w : UInt16) : toNat (ofUInt16 w) = w.toNat := by
  have hlt : w.toNat < Nat.pow 256 2 := w.toNat_lt
  rw [ofUInt16, toNat_ofNat_of_lt hlt]

/-- Words of sixteen bits that are written alike are the same. -/
theorem ofUInt16_injective {v w : UInt16} (h : ofUInt16 v = ofUInt16 w) :
    v = w := by
  apply UInt16.toNat_inj.1
  rw [← toNat_ofUInt16 v, ← toNat_ofUInt16 w, h]

/-- So are words of thirty-two bits. -/
theorem ofUInt32_injective {v w : UInt32} (h : ofUInt32 v = ofUInt32 w) :
    v = w := by
  apply UInt32.toNat_inj.1
  have hlt : ∀ w : UInt32, w.toNat < Nat.pow 256 4 := fun w => w.toNat_lt
  rw [← toNat_ofNat_of_lt (hlt v), ← toNat_ofNat_of_lt (hlt w)]
  exact congrArg toNat h

end Bytes

namespace Reader

variable {α β : Type} {field unit : String} {d t : Bytes}

/-! ## Fields -/

@[simp] theorem pure_eq_ok {a b : α} :
    (pure a : Reader α) d = .ok (b, t) ↔ a = b ∧ d = t := by
  show Except.ok (a, d) = Except.ok (b, t) ↔ _
  rw [Except.ok.injEq, Prod.mk.injEq]

/-- What comes behind a reader reads what it has left. -/
theorem bind_of_ok {r : Reader α} {f : α → Reader β} {a : α} {t : Bytes}
    (h : r d = .ok (a, t)) : (r >>= f) d = f a t := by
  show (r d >>= fun x => f x.1 x.2) = _
  rw [h]
  rfl

/-- What is made of a value is read where the value is. -/
theorem map_eq_ok {r : Reader α} {f : α → β} {b : β} :
    (f <$> r) d = .ok (b, t) ↔ ∃ a, r d = .ok (a, t) ∧ f a = b := by
  rw [map_eq_bind, bind_eq_ok]
  constructor
  · rintro ⟨a, s, ha, h⟩
    obtain ⟨rfl, rfl⟩ := pure_eq_ok.1 h
    exact ⟨a, ha, rfl⟩
  · rintro ⟨a, ha, rfl⟩
    exact ⟨a, t, ha, pure_eq_ok.2 ⟨rfl, rfl⟩⟩

theorem word_eq_ok {n v : Nat} :
    word n field d = .ok (v, t)
      ↔ v < Nat.pow 256 n ∧ d = Bytes.ofNat n v ++ t := by
  rw [word, map_eq_ok]
  constructor
  · rintro ⟨a, ha, rfl⟩
    obtain ⟨rfl, rfl⟩ := bytes_eq_ok.1 ha
    exact ⟨Bytes.toNat_lt a, by rw [Bytes.ofNat_toNat]⟩
  · rintro ⟨hv, rfl⟩
    exact ⟨_, bytes_eq_ok.2 ⟨Bytes.length_ofNat n v, rfl⟩,
      Bytes.toNat_ofNat_of_lt hv⟩

/-- A word is read from the octets of a number that it stands for. -/
theorem map_word_eq_ok {n : Nat} {ofNat : Nat → α} {toNat : α → Nat} {w : α}
    (hof : ∀ v < Nat.pow 256 n, toNat (ofNat v) = v)
    (hto : ∀ w, ofNat (toNat w) = w) :
    (ofNat <$> word n field) d = .ok (w, t)
      ↔ toNat w < Nat.pow 256 n ∧ d = Bytes.ofNat n (toNat w) ++ t := by
  rw [map_eq_ok]
  constructor
  · rintro ⟨v, hv, rfl⟩
    obtain ⟨hlt, rfl⟩ := word_eq_ok.1 hv
    rw [hof v hlt]
    exact ⟨hlt, rfl⟩
  · rintro ⟨hlt, rfl⟩
    exact ⟨toNat w, word_eq_ok.2 ⟨hlt, rfl⟩, hto w⟩

@[simp] theorem u8_eq_ok {b : UInt8} :
    u8 field d = .ok (b, t) ↔ d = b :: t := by
  have hof : ∀ v < Nat.pow 256 1, (UInt8.ofNat v).toNat = v := fun v hv =>
    UInt8.toNat_ofNat_of_lt' hv
  have hb : Bytes.ofNat 1 b.toNat = [b] := by simp [Bytes.ofNat]
  refine (map_word_eq_ok hof (fun _ => UInt8.ofNat_toNat)).trans ?_
  rw [hb]
  exact and_iff_right b.toNat_lt

/-- A word of sixteen bits is read from its two octets. -/
@[simp] theorem u16_eq_ok {w : UInt16} :
    u16 field d = .ok (w, t) ↔ d = Bytes.ofUInt16 w ++ t := by
  have hof : ∀ v < Nat.pow 256 2, (UInt16.ofNat v).toNat = v := fun v hv =>
    UInt16.toNat_ofNat_of_lt' hv
  exact (map_word_eq_ok hof (fun _ => UInt16.ofNat_toNat)).trans
    (and_iff_right w.toNat_lt)

/-- A number of twenty-four bits is read from its three octets, and never has
more. -/
@[simp] theorem u24_eq_ok {w : UInt32} :
    u24 field d = .ok (w, t)
      ↔ w.toNat < 16777216 ∧ d = Bytes.ofUInt24 w ++ t := by
  have hof : ∀ v < Nat.pow 256 3, (UInt32.ofNat v).toNat = v := fun v hv =>
    UInt32.toNat_ofNat_of_lt' (Nat.lt_trans hv (by decide))
  exact map_word_eq_ok hof (fun _ => UInt32.ofNat_toNat)

/-- A word of thirty-two bits is read from its four octets. -/
@[simp] theorem u32_eq_ok {w : UInt32} :
    u32 field d = .ok (w, t) ↔ d = Bytes.ofUInt32 w ++ t := by
  have hof : ∀ v < Nat.pow 256 4, (UInt32.ofNat v).toNat = v := fun v hv =>
    UInt32.toNat_ofNat_of_lt' hv
  exact (map_word_eq_ok hof (fun _ => UInt32.ofNat_toNat)).trans
    (and_iff_right w.toNat_lt)

/-- An array is read from a run of its length. -/
@[simp] theorem array_eq_ok {n : Nat} {v : Vector UInt8 n} :
    array n field d = .ok (v, t) ↔ d = v.toList ++ t := by
  unfold array
  constructor
  · intro h
    split at h
    · next a r ha =>
      obtain ⟨hlen, rfl⟩ := bytes_eq_ok.1 ha
      split at h
      · cases h
        simp [Vector.toList]
      · cases h
    · cases h
  · rintro rfl
    have ha : bytes n field (v.toList ++ t) = .ok (v.toList, t) :=
      bytes_eq_ok.2 ⟨by simp, rfl⟩
    simp only [ha]
    rw [dif_pos (by simp)]
    rfl

/-- All that is left is taken. -/
@[simp] theorem rest_eq_ok {a : Bytes} :
    rest d = .ok (a, t) ↔ a = d ∧ t = [] := by
  show Except.ok (d, ([] : Bytes)) = Except.ok (a, t) ↔ _
  rw [Except.ok.injEq, Prod.mk.injEq, eq_comm, @eq_comm _ []]

/-- To ask whether anything is left takes nothing. -/
@[simp] theorem atEnd_eq_ok {b : Bool} :
    atEnd d = .ok (b, t) ↔ b = d.isEmpty ∧ t = d := by
  show Except.ok (d.isEmpty, d) = Except.ok (b, t) ↔ _
  rw [Except.ok.injEq, Prod.mk.injEq, eq_comm, @eq_comm _ d]

/-- What is computed on the side takes nothing, and has to succeed. -/
@[simp] theorem liftM_eq_ok {x : Except WireError α} {a : α} :
    (liftM x : Reader α) d = .ok (a, t) ↔ x = .ok a ∧ d = t := by
  cases x with
  | error e =>
    constructor
    · intro h
      cases h
    · rintro ⟨h, -⟩
      cases h
  | ok b =>
    rw [Except.ok.injEq]
    exact pure_eq_ok

theorem guard_eq_ok {c : Prop} [Decidable c] {e : WireError}
    {k : PUnit → Reader α} {x : α × Bytes} :
    (if c then throw e >>= k else k ⟨⟩) d = .ok x ↔ ¬ c ∧ k ⟨⟩ d = .ok x := by
  by_cases hc : c
  · rw [if_pos hc, bind_eq_ok]
    constructor
    · rintro ⟨_, _, h, -⟩
      cases h
    · rintro ⟨h, -⟩
      exact absurd hc h
  · rw [if_neg hc]
    exact (and_iff_right hc).symm

/-- What follows a choice between two readers follows either of them. -/
theorem ite_bind {c : Prop} [Decidable c] {r r' : Reader α} {f : α → Reader β} :
    (if c then r >>= f else r' >>= f) = (if c then r else r') >>= f := by
  split <;> rfl

/-- A payload that is used up. -/
theorem whole_eq_ok {r : Reader α} {a : α} :
    whole unit r d = .ok a ↔ r d = .ok (a, []) := by
  unfold whole
  split <;> simp_all

/-! ## Optional and repeated fields -/

/-- **The reader takes what the writer writes**, of values within a bound. -/
def Takes (r : Reader α) (bound : α → Prop) (write : α → Bytes) : Prop :=
  ∀ d a t, r d = .ok (a, t) ↔ bound a ∧ d = write a ++ t

theorem takes_u8 : Takes (u8 field) (fun _ => True) (fun b => [b]) :=
  fun _ _ _ => by simp
theorem takes_u16 : Takes (u16 field) (fun _ => True) Bytes.ofUInt16 :=
  fun _ _ _ => by simp
theorem takes_u24 : Takes (u24 field) (·.toNat < 16777216) Bytes.ofUInt24 :=
  fun _ _ _ => by simp
theorem takes_u32 : Takes (u32 field) (fun _ => True) Bytes.ofUInt32 :=
  fun _ _ _ => by simp
theorem takes_array {n : Nat} :
    Takes (array n field) (fun _ => True) Vector.toList :=
  fun _ _ _ => by simp

/-- A field stands on the wire exactly if its flag is set. -/
theorem Takes.whenFlag {r : Reader α} {bound : α → Prop} {write : α → Bytes}
    (h : r.Takes bound write) {present : Bool} {o : Option α} :
    Reader.whenFlag present r d = .ok (o, t)
      ↔ o.isSome = present ∧ (∀ a ∈ o, bound a) ∧ d = o.elim [] write ++ t := by
  cases present with
  | false =>
    rw [Reader.whenFlag, if_neg Bool.false_ne_true, pure_eq_ok]
    cases o <;> simp
  | true =>
    rw [Reader.whenFlag, if_pos rfl, map_eq_ok]
    cases o with
    | none => simp
    | some a => simpa using h d a t

/-! ## Units until nothing is left -/

theorem many_nil {r : Reader α} (h : r.Consumes) : many r h [] = .ok [] := by
  rw [many]

/-- A unit is read, and then the others from what it has left. -/
theorem many_cons_eq_ok {r : Reader α} (h : r.Consumes) {as : List α}
    (hd : d ≠ []) :
    many r h d = .ok as ↔
      ∃ a s rest, r d = .ok (a, s) ∧ many r h s = .ok rest
        ∧ as = a :: rest := by
  cases d with
  | nil => exact absurd rfl hd
  | cons b d =>
    rw [many]
    constructor
    · intro hm
      split at hm
      · cases hm
      · next a s hr =>
        dsimp only at hm
        split at hm
        · next rest hrest =>
            exact ⟨a, s, rest, hr, hrest, (Except.ok.inj hm).symm⟩
        · cases hm
    · rintro ⟨a, s, rest, hr, hrest, rfl⟩
      split
      · next hr' => cases hr.symm.trans hr'
      · next a' s' hr' =>
        cases hr.symm.trans hr'
        rw [hrest]

/-- **Reading units until nothing is left** cuts the octets into those of some
list of units, and reads each of them. By induction on the length, since a
unit leaves less than there was. -/
theorem many_eq_ok {r : Reader α} {h : r.Consumes} {write : β → Bytes}
    {value : β → Except WireError α}
    (hr : ∀ d a t, r d = .ok (a, t) ↔ ∃ x, value x = .ok a ∧ d = write x ++ t)
    {as : List α} :
    many r h d = .ok as ↔ ∃ xs : List β,
      xs.mapM value = .ok as ∧ d = xs.flatMap write := by
  constructor
  · -- The octets that are left get fewer with every unit.
    induction hn : d.length using Nat.strongRecOn generalizing d as with
    | ind n ih =>
      intro hm
      by_cases hd : d = []
      · subst hd
        obtain rfl := Except.ok.inj ((many_nil h).symm.trans hm)
        exact ⟨[], Writing.mapM_nil_eq_ok.2 rfl, rfl⟩
      · obtain ⟨a, s, rest, ha, hrest, rfl⟩ := (many_cons_eq_ok h hd).1 hm
        obtain ⟨x, hx, hds⟩ := (hr d a s).1 ha
        obtain ⟨xs, hxs, rfl⟩ := ih s.length (hn ▸ h d a s ha) rfl hrest
        refine ⟨x :: xs, Writing.mapM_cons_eq_ok.2 ⟨a, rest, hx, hxs, rfl⟩, ?_⟩
        rw [hds, List.flatMap_cons]
  · rintro ⟨xs, hxs, rfl⟩
    induction xs generalizing as with
    | nil =>
      obtain rfl := Writing.mapM_nil_eq_ok.1 hxs
      exact many_nil h
    | cons x xs ih =>
      obtain ⟨a, rest, hx, hrest, rfl⟩ := Writing.mapM_cons_eq_ok.1 hxs
      have ha : r ((x :: xs).flatMap write) = .ok (a, xs.flatMap write) :=
        (hr _ _ _).2 ⟨x, hx, List.flatMap_cons⟩
      have hne : (x :: xs).flatMap write ≠ [] := fun hnil => by
        have hlt := h _ _ _ ha
        rw [hnil] at hlt
        exact Nat.not_lt_zero _ hlt
      exact (many_cons_eq_ok h hne).2 ⟨a, _, rest, ha, ih hrest, rfl⟩

end Reader

end Telematics
