import Mathlib.Data.List.TakeWhile
import Mathlib.Tactic.SplitIfs
import Telematics.Net.Address

/-!
# How an address is written

An address is read by trying: four octets, else groups, and among the groups
octets again, wherever they might begin. What a text has to look like to be
read is said here apart from the attempts. Either it is four octets between
points, or it has a colon in front of the first point, digits and colons
around it, and octets at the end if it has points at all (`Address.Short`,
`Address.Long`, `Address.written`).

So in no address there is an asterisk, or a fourth point, or a number between
points that is too large for an octet (`Address.Part`). A pattern with one of
these is never mistaken for an address.

Only this direction is shown: a text that is read looks like an address. Not
all that looks like one is read, since the two notations say nothing of how
many groups there may be. `Scan.Takes` is the form in which it is said of a
scan, and it composes as scans do; a scan that tries two things takes what
either of them takes, without a word on which was tried first.

The two forms of one peer are related by `Address.mapped`, and
`Address.reduced` leaves an address alone unless it is a mapped one.
-/

namespace Telematics

/-! ## What a scan takes -/

namespace Scan

variable {α β : Type} {p : Scan α} {f : α → Scan β} {P P' : List Char →
  α → Prop}
  {Q : α → List Char → β → Prop}

/-- Whatever a scan takes off the front of a text stands in a relation to the
value it is read as. -/
def Takes (p : Scan α) (P : List Char → α → Prop) : Prop :=
  ∀ ⦃cs a r⦄, p cs = some (a, r) → ∃ w, cs = w ++ r ∧ P w a

/-- What was taken may be said with less. -/
theorem Takes.mono (h : Takes p P) (hP : ∀ w a, P w a → P' w a) : Takes p P' :=
  fun _ _ _ hr =>
  let ⟨w, hw, ha⟩ := h hr
  ⟨w, hw, hP w _ ha⟩

theorem takes_pure (a : α) : Takes (pure a) fun w b => w = [] ∧ b = a := by
  intro cs b r h
  cases h
  exact ⟨[], rfl, rfl, rfl⟩

/-- Two scans take one text after the other. -/
theorem Takes.bind (hp : Takes p P) (hf : ∀ a, Takes (f a) (Q a)) :
    Takes (p >>= f) fun w b => ∃ a u v, w = u ++ v ∧ P u a ∧ Q a v b := by
  intro cs b r h
  obtain ⟨⟨a, rest⟩, ha, hb⟩ := Option.bind_eq_some_iff.mp h
  obtain ⟨u, rfl, hu⟩ := hp ha
  obtain ⟨v, rfl, hv⟩ := hf a hb
  exact ⟨u ++ v, (List.append_assoc ..).symm, a, u, v, rfl, hu, hv⟩

theorem takes_char (c : Char) : Takes (char c) fun w _ => w = [c] := by
  intro cs a r h
  unfold char at h
  split at h
  · split_ifs at h with hc
    cases h
    exact ⟨[c], by rw [hc]; rfl, rfl⟩
  · cases h

/-- As many characters are taken as pass a test. -/
theorem takes_takeWhile (q : Char → Bool) :
    Takes (takeWhile q) fun w ds => w = ds ∧ ∀ c ∈ ds, q c := by
  intro cs ds r h
  cases h
  exact ⟨_, List.takeWhile_append_dropWhile.symm, rfl,
    fun c hc => List.mem_takeWhile_imp hc⟩

theorem takes_require (b : Bool) :
    Takes (require b) fun w _ => w = [] ∧ b = true := by
  intro cs a r h
  unfold require at h
  split_ifs at h with hb
  · cases h
    exact ⟨[], rfl, rfl, hb⟩
  · cases h

/-- A scan of a whole text takes all of it. -/
theorem Takes.whole {cs : List Char} {a : α} (hp : Takes p P)
    (h : whole? p cs = some a) :
    P cs a := by
  unfold whole? at h
  split at h
  · rename_i hr
    cases h
    obtain ⟨w, rfl, hw⟩ := hp hr
    rwa [List.append_nil]
  · cases h

end Scan

namespace Address

open Scan

/-! ## The two notations -/

/-- A decimal number that is small enough for an octet. -/
def OctetText (w : List Char) : Prop :=
  (∀ c ∈ w, Text.isDigit c) ∧ Text.decimal w < 256

/-- Four octets between points. -/
def Short (w : List Char) : Prop :=
  ∃ a b c d, w = a ++ '.' :: (b ++ '.' :: (c ++ '.' :: d))
    ∧ OctetText a ∧ OctetText b ∧ OctetText c ∧ OctetText d

/-- Digits, of which some are letters, and colons. -/
def Grouped (w : List Char) : Prop := ∀ c ∈ w, c = ':' ∨ (Hex.digit? c).isSome

/-- Groups with a colon among them, and perhaps four octets behind. -/
def Long (w : List Char) : Prop :=
  ∃ a o, w = a ++ o ∧ ':' ∈ a ∧ Grouped a ∧ (o = [] ∨ Short o)

/-- An octet is a decimal number below 256. -/
theorem takes_scanOctet : Takes scanOctet fun w _ => OctetText w := by
  refine ((takes_takeWhile _).bind fun ds => (takes_require _).bind fun _ =>
    (takes_require _).bind fun _ => takes_pure _).mono ?_
  rintro _ _ ⟨ds, _, _, rfl, ⟨rfl, hdigits⟩, _, _, _, rfl, ⟨rfl, -⟩, _, _, _,
    rfl, ⟨rfl, hlt⟩, rfl, -⟩
  simpa using ⟨hdigits, of_decide_eq_true hlt⟩

/-- Four octets are taken with the points between them. -/
theorem takes_scanV4 : Takes scanV4 fun w _ => Short w := by
  refine (takes_scanOctet.bind fun _ => (takes_char '.').bind fun _ =>
    takes_scanOctet.bind fun _ => (takes_char '.').bind fun _ =>
    takes_scanOctet.bind fun _ => (takes_char '.').bind fun _ =>
    takes_scanOctet.bind fun _ => takes_pure _).mono ?_
  rintro _ _ ⟨_, a, _, rfl, ha, _, _, _, rfl, rfl, _, b, _, rfl, hb, _, _, _,
    rfl, rfl, _, c, _, rfl, hc, _, _, _, rfl, rfl, _, d, _, rfl, hd, rfl, -⟩
  exact ⟨a, b, c, d, by simp, ha, hb, hc, hd⟩

/-- A group is taken as digits. -/
theorem takes_scanGroup : Takes scanGroup fun w _ => Grouped w := by
  refine ((takes_takeWhile _).bind fun ds => (takes_require _).bind fun _ =>
    takes_pure _).mono ?_
  rintro _ _ ⟨ds, _, _, rfl, ⟨rfl, hdigits⟩, _, _, _, rfl, ⟨rfl, -⟩, rfl, -⟩
  simpa [Grouped] using fun c hc => Or.inr (hdigits c hc)

/-- What stands in front of a group. -/
def lead (first : Bool) : List Char := if first then [] else [':']

/-- Digits and colons may be put together. -/
theorem Grouped.append {a b : List Char} (ha : Grouped a) (hb : Grouped b) :
    Grouped (a ++ b) :=
  fun c hc => (List.mem_append.mp hc).elim (ha c) (hb c)

/-- In front of a group is a colon or nothing. -/
theorem grouped_lead (first : Bool) : Grouped (lead first) := by
  cases first <;> simp [Grouped, lead]

/-- What is scanned behind a colon is taken with it, but for the first
time. -/
theorem takes_scanAfterColon {α : Type} {p : Scan α} {P : List Char → α → Prop}
    (first : Bool) (hp : Takes p P) : Takes (scanAfterColon first p) fun w a =>
      ∃ v, w = lead first ++ v ∧ P v a := by
  cases first
  · refine ((takes_char ':').bind fun _ => hp).mono ?_
    rintro _ a ⟨_, _, v, rfl, rfl, hv⟩
    exact ⟨v, rfl, hv⟩
  · exact hp.mono fun w a h => ⟨w, rfl, h⟩

/-- Groups, and octets behind them if these are reported. There is a colon as
soon as two groups or a group and octets were read. -/
def GroupsText (first : Bool) (w : List Char) (read : List UInt16 × Bool) :
    Prop :=
  ∃ a o, w = a ++ o ∧ Grouped a
    ∧ (o = [] ∧ read.2 = false ∨ Short o ∧ read.2 = true)
    ∧ (read.1 ≠ [] → (first = true → 3 ≤ read.1.length) → ':' ∈ a)

/-- **Groups are taken with the colons between them**, and with octets behind
the last. By induction on how many groups may still come. -/
theorem takes_scanGroups (limit : Nat) (first : Bool) :
    Takes (scanGroups limit first) (GroupsText first) := by
  induction limit generalizing first with
  | zero =>
    intro cs a r h
    cases h
    exact ⟨[], rfl, [], [], rfl, by simp [Grouped]⟩
  | succ more ih =>
    intro cs read r h
    unfold scanGroups at h
    split at h
    · -- Octets end the groups.
      rename_i o rest ho
      cases h
      split_ifs at ho
      obtain ⟨_, rfl, v, rfl, hv⟩ := takes_scanAfterColon first takes_scanV4 ho
      refine ⟨_, rfl, lead first, v, rfl, grouped_lead first,
        .inr ⟨hv, rfl⟩, ?_⟩
      cases first <;> simp [lead]
    · split at h
      · cases h
        exact ⟨[], rfl, [], [], rfl, by simp [Grouped]⟩
      · rename_i g rest hg
        obtain ⟨_, rfl, v, rfl, hv⟩ :=
          takes_scanAfterColon first takes_scanGroup hg
        split at h
        · rename_i gs octets tail hmore
          cases h
          obtain ⟨_, rfl, a, o, rfl, ha, ho, hcolon⟩ := ih false hmore
          refine ⟨lead first ++ v ++ (a ++ o), by simp only [List.append_assoc],
            lead first ++ v ++ a, o, by simp only [List.append_assoc],
            ((grouped_lead first).append hv).append ha, ho, fun _ hlength => ?_⟩
          cases first with
          | false => simp [lead]
          | true =>
            -- The second group of two or more has a colon in front.
            have hgs : gs ≠ [] := by
              rintro rfl
              simpa using hlength rfl
            exact List.mem_append_right _ (hcolon hgs (by simp))
        · cases h

/-- Behind the first groups is nothing if they are all eight; else they were
followed by no octets, and there is a gap, perhaps with more behind. -/
def GapText (read : List UInt16 × Bool) (w : List Char) : Prop :=
  read.1.length = 8 ∧ w = [] ∨ read.2 = false
    ∧ ∃ a o, w = ':' :: ':' :: (a ++ o) ∧ Grouped a ∧ (o = [] ∨ Short o)

/-- A long address is taken in two parts, the groups in front of a gap and
what the gap leaves. -/
theorem takes_scanV6_parts : Takes scanV6 fun w _ =>
    ∃ read u v, w = u ++ v ∧ GroupsText true u read ∧ GapText read v := by
  refine (takes_scanGroups 8 true).bind ?_
  rintro ⟨head, octets⟩
  dsimp only
  split_ifs with hlength
  · exact (takes_pure _).mono fun w _ h => .inl ⟨hlength, h.1⟩
  · refine ((takes_require _).bind fun _ => (takes_char ':').bind fun _ =>
      (takes_char ':').bind fun _ => (takes_scanGroups _ true).bind fun _ =>
        takes_pure _).mono ?_
    rintro _ _ ⟨_, _, _, rfl, ⟨rfl, hoctets⟩, _, _, _, rfl, rfl, _, _, _, rfl,
      rfl, _, _, _, rfl, ⟨a, o, rfl, ha, ho, -⟩, rfl, -⟩
    exact .inr
      ⟨by simpa using hoctets, a, o, by simp, ha, ho.imp And.left And.left⟩

/-- **A long address has a colon**: in the gap, or between the groups if there
is none. It is all of the long notation that is needed to tell it from a
pattern. -/
theorem takes_scanV6 : Takes scanV6 fun w _ => Long w := by
  refine takes_scanV6_parts.mono ?_
  rintro _ _ ⟨⟨head, octets⟩, _, v, rfl, ⟨a, o, rfl, ha, ho, hcolon⟩, hv⟩
  obtain ⟨hlength, rfl⟩ | ⟨hoctets, b, o', rfl, hb, ho'⟩ := hv
  · refine ⟨a, o, by simp, hcolon ?_ fun _ => ?_, ha, ho.imp And.left And.left⟩
    · rintro rfl
      cases hlength
    · exact hlength ▸ by decide
  · obtain rfl : o = [] := by
      obtain ⟨rfl, -⟩ | ⟨-, h⟩ := ho
      · rfl
      · exact absurd (hoctets.symm.trans h) (by decide)
    have hcolons : Grouped [':', ':'] := by simp [Grouped]
    exact ⟨a ++ ([':', ':'] ++ b), o',
      by simp, by simp, ha.append (hcolons.append hb), ho'⟩

/-- **The text of an address** is in one of the two notations. The long form
of a short address counts as long, and is reduced only afterwards. -/
theorem written {cs : List Char} {a : Address} (h : ofText? cs = some a) :
    Short cs ∨ Long cs := by
  unfold ofText? at h
  split at h
  · rename_i hv4
    exact .inl (takes_scanV4.whole hv4)
  · obtain ⟨g, hg, -⟩ := Option.map_eq_some_iff.mp h
    exact .inr (takes_scanV6.whole hg)

/-! ## What is not written -/

section Unsigned

variable {bound bound' n n' : Nat} {w : List Char}

/-- The bound only refuses. -/
theorem eq_of_unsigned? (h : Text.unsigned? bound w = some n)
    (h' : Text.unsigned? bound' w = some n') : n = n' := by
  obtain ⟨hn, -⟩ := Option.filter_eq_some_iff.mp h
  obtain ⟨hn', -⟩ := Option.filter_eq_some_iff.mp h'
  exact Option.some.inj (hn.symm.trans hn')

/-- A number is written with digits and perhaps a plus sign. -/
theorem mem_of_unsigned? (h : Text.unsigned? bound w = some n) {c : Char}
    (hc : c ∈ w) :
    c = '+' ∨ Text.isDigit c := by
  obtain ⟨hn, -⟩ := Option.filter_eq_some_iff.mp h
  unfold Text.decimal? at hn
  split_ifs at hn with hdigits
  simp only [not_or, Bool.not_eq_true', Bool.not_eq_false, List.all_eq_true]
    at hdigits
  split at hdigits
  · exact (List.mem_cons.mp hc).imp id (hdigits.2 c)
  · exact .inr (hdigits.2 c hc)

/-- Of digits alone a number is read as a decimal one. -/
theorem eq_decimal_of_unsigned? (hw : ∀ c ∈ w, Text.isDigit c)
    (h : Text.unsigned? bound w = some n) : n = Text.decimal w := by
  obtain ⟨hn, -⟩ := Option.filter_eq_some_iff.mp h
  unfold Text.decimal? at hn
  split_ifs at hn
  split at hn
  · exact absurd (hw '+' (List.mem_cons_self ..)) (by decide)
  · exact (Option.some.inj hn).symm

end Unsigned

/-- There is no asterisk in a part of an address, and if it is a number, it is
small enough for an octet. -/
structure Part (w : List Char) : Prop where
  asterisk : '*' ∉ w
  small : ∀ bound n, Text.unsigned? bound w = some n → n < 256

variable {a o w : List Char}

/-- An octet could be of an address only. -/
theorem OctetText.part (h : OctetText w) : Part w where
  asterisk hmem := absurd (h.1 _ hmem) (by decide)
  small _ _ hn := eq_decimal_of_unsigned? h.1 hn ▸ h.2

/-- Among digits and colons there is no point. -/
theorem Grouped.point (h : Grouped w) : '.' ∉ w :=
  fun hmem => absurd (h _ hmem) (by decide)

/-- With a colon in it, a part is no number. -/
theorem part_of_colon (ha : Grouped a) (hcolon : ':' ∈ a) (ho : '*' ∉ o) :
    Part (a ++ o) where
  asterisk hmem :=
    (List.mem_append.mp hmem).elim (fun h => absurd (ha _ h) (by decide)) ho
  small _ _ hn :=
    absurd (mem_of_unsigned? hn (List.mem_append_left o hcolon)) (by decide)

/-- Octets are cut at their points, also behind groups. -/
theorem Short.splitOn (ho : Short o) (ha : '.' ∉ a) : ∃ b c d e,
    (a ++ o).splitOn '.' = [a ++ b, c, d, e]
      ∧ OctetText b ∧ OctetText c ∧ OctetText d ∧ OctetText e := by
  obtain ⟨b, c, d, e, rfl, hb, hc, hd, he⟩ := ho
  have hpoint {w : List Char} (hw : OctetText w) : '.' ∉ w := fun h =>
    absurd (hw.1 _ h) (by decide)
  refine ⟨b, c, d, e, ?_, hb, hc, hd, he⟩
  have hab : '.' ∉ a ++ b := fun h => (List.mem_append.mp h).elim ha (hpoint hb)
  rw [← List.append_assoc, List.splitOn_append_cons_self_of_not_mem hab,
    List.splitOn_append_cons_self_of_not_mem (hpoint hc),
    List.splitOn_append_cons_self_of_not_mem (hpoint hd),
    List.splitOn_eq_singleton (hpoint he)]

/-- **An address is at most four parts** between points, and none of them
could be of a pattern only. -/
theorem parts_of_ofText? {cs : List Char} {a : Address}
    (h : ofText? cs = some a) :
    (cs.splitOn '.').length ≤ 4 ∧ ∀ w ∈ cs.splitOn '.', Part w := by
  obtain hshort | ⟨g, o, rfl, hcolon, hg, rfl | hshort⟩ := written h
  · obtain ⟨b, c, d, e, hparts, hb, hc, hd, he⟩ :=
      hshort.splitOn (List.not_mem_nil)
    rw [List.nil_append] at hparts
    rw [hparts]
    simp [hb.part, hc.part, hd.part, he.part]
  · rw [List.splitOn_eq_singleton (by simpa using hg.point)]
    simpa using part_of_colon hg hcolon (List.not_mem_nil)
  · obtain ⟨b, c, d, e, hparts, hb, hc, hd, he⟩ := hshort.splitOn hg.point
    rw [hparts]
    simp [part_of_colon hg hcolon hb.part.asterisk, hc.part, hd.part, he.part]

/-! ## Mapped addresses -/

/-- Two octets of a group. -/
def group (high low : UInt8) : UInt16 := high.toUInt16 <<< 8 ||| low.toUInt16

/-- A group is a number of two octets. -/
theorem toNat_group (high low : UInt8) :
    (group high low).toNat = high.toNat * 256 + low.toNat := by
  have hhigh : (high.toUInt16 <<< 8).toNat = high.toNat <<< 8 := by
    rw [UInt16.toNat_shiftLeft, UInt8.toNat_toUInt16, Nat.shiftLeft_eq,
      Nat.shiftLeft_eq]
    exact Nat.mod_eq_of_lt
      (Nat.mul_lt_mul_of_pos_right high.toNat_lt (by decide))
  rw [group, UInt16.toNat_or, hhigh, UInt8.toNat_toUInt16,
    ← Nat.shiftLeft_add_eq_or_of_lt low.toNat_lt, Nat.shiftLeft_eq]

/-- A group is its two octets. -/
theorem group_eq_iff {w : UInt16} {high low : UInt8} :
    group high low = w ↔ (w >>> 8).toUInt8 = high ∧ w.toUInt8 = low := by
  have hshift : (w >>> 8).toNat = w.toNat / 256 := by
    rw [UInt16.toNat_shiftRight]
    exact Nat.shiftRight_eq_div_pow w.toNat 8
  simp only [← UInt16.toNat_inj, ← UInt8.toNat_inj, toNat_group,
    UInt16.toNat_toUInt8, hshift]
  have := w.toNat_lt
  have := low.toNat_lt
  have := high.toNat_lt
  omega

/-- The long form of a short address. -/
def mapped (o : Vector UInt8 4) : Address :=
  .v6 #v[0, 0, 0, 0, 0, 0xFFFF, group (o.get 0) (o.get 1),
    group (o.get 2) (o.get 3)]

/-- The groups of the long form, and the octets in the last two. -/
theorem mapped?_eq_some_iff {g : Vector UInt16 8} {o : Vector UInt8 4} :
    mapped? g = some o ↔ .v6 g = mapped o := by
  match g, o with
  | ⟨⟨[g₀, g₁, g₂, g₃, g₄, g₅, g₆, g₇]⟩, _⟩, ⟨⟨[a, b, c, d]⟩, _⟩ =>
    have hmapped : mapped ⟨⟨[a, b, c, d]⟩, rfl⟩
        = .v6 #v[0, 0, 0, 0, 0, 0xFFFF, group a b, group c d] := rfl
    have hparts : .v6 ⟨⟨[g₀, g₁, g₂, g₃, g₄, g₅, g₆, g₇]⟩, rfl⟩
      = mapped ⟨⟨[a, b, c, d]⟩, rfl⟩
        ↔ [g₀, g₁, g₂, g₃, g₄, g₅] = [0, 0, 0, 0, 0, 0xFFFF]
          ∧ group a b = g₆ ∧ group c d = g₇ := by
      simp [hmapped, and_assoc, eq_comm (b := group a b),
        eq_comm (b := group c d)]
    rw [hparts, group_eq_iff, group_eq_iff]
    unfold mapped?
    split_ifs with h <;> simp_all [and_assoc]

/-- **Only the long form of a short address is reduced** to it. Every other
long address stays long. -/
theorem reduced_eq_v4_iff {a : Address} {o : Vector UInt8 4} :
    a.reduced = .v4 o ↔ a = .v4 o ∨ a = mapped o := by
  cases a with
  | v4 p => simp [reduced, mapped]
  | v6 g =>
    rw [← mapped?_eq_some_iff]
    cases h : mapped? g <;> simp [reduced, h]

end Address

end Telematics
