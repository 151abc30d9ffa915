import Mathlib.Data.List.Forall2
import Mathlib.Tactic.SplitIfs
import Telematics.Fleet.Provider
import Telematics.Proofs.Net.Notation

/-!
# Which provider an address belongs to

Two passes over the providers settle which of them an address belongs to, and
every pattern is read anew in each. What comes of it is a rule of its own
(`Provider.Selected`): the first provider with a full address that is the one
asked for, wherever it stands; if there is none, the first with octets and an
asterisk that begin it; else no provider.

What a pattern means is said by its parts between points. Nothing is repaired:
with an asterisk in the wrong place, a number that is no octet, or a part too
many, a pattern accepts no address (`AddressPattern.Defect`). That holds of
every text and not only of those that are no addresses, since an address has
none of these defects (`Address.parts_of_ofText?`).

Both the address and the pattern may be mapped ones. Either is reduced before
they are compared, so the two forms of a peer belong to one provider.

The rule mentions no pass. That the program follows it rests on two things: in
either pass a pattern counts only if it is of the kind that is looked for
(`AddressPattern.isExact_and_accepts_iff` and the statement behind it), and
the first of a list that passes a test is the one with none before it
(`find?_eq_some_iff_isFirst`).
-/

namespace Telematics

namespace AddressPattern

/-! ## What a pattern means -/

/-- The text of a pattern between its points, without the blanks around it. -/
def parts (s : String) : List (List Char) := (Text.trim s.toList).splitOn '.'

/-- **Octets and an asterisk**, four parts at most. -/
def Wildcard (s : String) (os : List UInt8) : Prop :=
  ∃ ws, parts s = ws ++ [['*']] ∧ ws.length ≤ 3
    ∧ List.Forall₂ (fun w o => Text.unsigned? 256 w = some o.toNat) ws os

/-- An address in its short form begins with these octets. -/
def Begins (a : Address) (os : List UInt8) : Prop :=
  ∃ o, a.reduced = .v4 o ∧ os <+: o.toList

/-- **What makes a pattern accept nothing.** -/
inductive Defect (s : String) : Prop where
  /-- An asterisk that is not all of the last part. -/
  | asterisk {before after w} (hparts : parts s = before ++ w :: after)
    (hw : '*' ∈ w)
    (h : w ≠ ['*'] ∨ after ≠ [])
  /-- A number too large for an octet. -/
  | range {w bound n} (hw : w ∈ parts s) (hn : Text.unsigned? bound w = some n)
    (h : 256 ≤ n)
  | count (h : 4 < (parts s).length)

variable {s : String} {a : Address} {os : List UInt8}

/-- The program cuts a text as the library does. -/
theorem splitAt_eq (sep : Char → Bool) (cs : List Char) :
    Text.splitAt sep cs = cs.splitOnP sep := by
  induction cs with
  | nil => rfl
  | cons c cs ih =>
    obtain ⟨p, ps, hps⟩ :=
      List.exists_cons_of_ne_nil (List.splitOnP_ne_nil sep cs)
    unfold Text.splitAt at ih ⊢
    rw [List.foldr_cons, ih, List.splitOnP_cons_eq_if_modifyHead, hps]
    rfl

/-- Parts are read as octets if each of them is. -/
theorem mapM_octet_eq_some_iff {ws : List (List Char)} :
    ws.mapM (fun w => (Text.unsigned? 256 w).map UInt8.ofNat) = some os
      ↔ List.Forall₂
        (fun w o => Text.unsigned? 256 w = some o.toNat) ws os := by
  have hone (w : List Char) (o : UInt8) :
      (Text.unsigned? 256 w).map UInt8.ofNat = some o
        ↔ Text.unsigned? 256 w = some o.toNat := by
    rw [Option.map_eq_some_iff]
    constructor
    · rintro ⟨n, hn, rfl⟩
      have hlt : n < 256 :=
        of_decide_eq_true (Option.filter_eq_some_iff.mp hn).2
      rw [hn, UInt8.toNat_ofNat_of_lt' hlt]
    · exact fun h => ⟨_, h, UInt8.ofNat_toNat⟩
  induction ws generalizing os with
  | nil => simp [eq_comm]
  | cons w ws ih =>
    rw [List.mapM_cons, List.forall₂_cons_left_iff, Option.bind_eq_bind,
      Option.bind_eq_some_iff]
    simp only [hone, Option.bind_eq_bind, Option.bind_eq_some_iff, ih,
      Option.pure_def, Option.some.injEq, eq_comm (b := os)]
    constructor
    · rintro ⟨o, ho, os', hos, h⟩
      exact ⟨o, os', ho, hos, h⟩
    · rintro ⟨o, os', ho, hos, h⟩
      exact ⟨o, ho, os', hos, h⟩

/-- **The octets of a text** are those of its parts before an asterisk. The
asterisk has to be the last part, and one in front of it that is no octet
makes the whole pattern useless. -/
theorem leadingOctets?_eq_some_iff :
    leadingOctets? (Text.trim s.toList) = some os ↔ Wildcard s os := by
  have hparts : Text.splitAt (· = '.') (Text.trim s.toList) = parts s :=
    splitAt_eq ..
  unfold leadingOctets? Wildcard
  rw [hparts]
  dsimp only
  split_ifs with h
  · obtain ⟨hlength, hlast⟩ := h
    obtain ⟨ws, hws⟩ := List.getLast?_eq_some_iff.mp hlast
    rw [hws] at hlength ⊢
    rw [List.length_append] at hlength
    rw [List.dropLast_concat, mapM_octet_eq_some_iff]
    constructor
    · exact fun ho => ⟨ws, rfl, Nat.le_of_succ_le_succ hlength, ho⟩
    · rintro ⟨_, heq, -, ho⟩
      rwa [List.append_cancel_right heq]
  · refine iff_of_false (by simp) ?_
    rintro ⟨ws, hws, hlength, -⟩
    rw [hws, List.length_append] at h
    exact h ⟨Nat.succ_le_succ hlength, List.getLast?_concat⟩

/-- Blanks around a pattern and a plus sign do not count. -/
example : Wildcard " 10.+1.* " [10, 1] :=
  leadingOctets?_eq_some_iff.mp (by decide)

/-! ## What a pattern accepts -/

/-- A text that is an address is a pattern for that address alone. -/
theorem ofText_of_address {e : Address}
    (h : Address.ofText? (Text.trim s.toList) = some e) :
    ofText s = exact e := by
  simp only [ofText, h]

/-- Any other text is read as octets and an asterisk, or accepts nothing. -/
theorem ofText_of_none (h : Address.ofText? (Text.trim s.toList) = none) :
    ofText s = (leadingOctets? (Text.trim s.toList)).elim invalid leading := by
  simp only [ofText, h]

/-- **A pattern that is no address** accepts what begins with its octets.
Addresses of either family can begin with octets: a mapped one with those of
the address that it stands for. -/
theorem accepts_ofText_iff (h : Address.ofText? (Text.trim s.toList) = none) :
    (ofText s).accepts a = true ↔ ∃ os, Wildcard s os ∧ Begins a os := by
  simp only [ofText_of_none h, ← leadingOctets?_eq_some_iff]
  cases leadingOctets? (Text.trim s.toList) with
  | none => simp [accepts]
  | some os => cases ha : a.reduced <;> simp [accepts, Begins, ha]

/-- In the first pass a pattern counts only if it is an address, -/
theorem isExact_and_accepts_iff :
    ((ofText s).isExact == true && (ofText s).accepts a) = true
      ↔ ∃ e, Address.ofText? (Text.trim s.toList) = some e
        ∧ e.reduced = a.reduced := by
  cases h : Address.ofText? (Text.trim s.toList) with
  | some e => simp [ofText_of_address h, isExact, accepts]
  | none =>
    rw [ofText_of_none h]
    cases leadingOctets? (Text.trim s.toList) <;> simp [isExact]

/-- and in the second only if it is none. -/
theorem not_isExact_and_accepts_iff :
    ((ofText s).isExact == false && (ofText s).accepts a) = true
      ↔ Address.ofText? (Text.trim s.toList) = none ∧ ∃ os, Wildcard s os
        ∧ Begins a os := by
  cases h : Address.ofText? (Text.trim s.toList) with
  | some e => simp [ofText_of_address h, isExact]
  | none =>
    have hexact : (ofText s).isExact = false := by
      rw [ofText_of_none h]
      cases leadingOctets? (Text.trim s.toList) <;> rfl
    simp [hexact, accepts_ofText_iff h]

/-- **A pattern with a defect** is neither an address nor a wildcard. What is
wrong with it is wrong for an address too, in either notation. -/
theorem Defect.not_address (h : Defect s) :
    Address.ofText? (Text.trim s.toList) = none := by
  refine Option.eq_none_iff_forall_not_mem.mpr fun e he => ?_
  obtain ⟨hcount, hpart⟩ := Address.parts_of_ofText? he
  cases h with
  | asterisk hparts hw =>
    exact (hpart _ (by rw [← parts, hparts]; simp)).asterisk hw
  | range hw hn hlarge =>
    exact absurd ((hpart _ hw).small _ _ hn) (Nat.not_lt.mpr hlarge)
  | count hmany => exact absurd hcount (Nat.not_le.mpr hmany)

/-- A part in front of the asterisk is an octet. -/
theorem exists_octet_of_mem {ws : List (List Char)} {w : List Char}
    (h : List.Forall₂ (fun w o => Text.unsigned? 256 w = some o.toNat) ws os)
    (hw : w ∈ ws) :
    ∃ o : UInt8, Text.unsigned? 256 w = some o.toNat := by
  induction h with
  | nil => cases hw
  | cons ho _ ih =>
    obtain rfl | hw := List.mem_cons.mp hw
    · exact ⟨_, ho⟩
    · exact ih hw

/-- Nor is it octets and an asterisk. -/
theorem Defect.not_wildcard (h : Defect s) : ¬ Wildcard s os := by
  rintro ⟨ws, hws, hlength, hos⟩
  cases h with
  | @asterisk before after w hparts hw h =>
    rw [hws] at hparts
    obtain rfl | ⟨after, last, rfl⟩ := List.eq_nil_or_concat after
    · obtain ⟨-, heq⟩ := List.append_inj' hparts rfl
      exact h.elim (absurd (List.singleton_inj.mp heq).symm) (absurd rfl)
    · -- An asterisk before the last part is in none of the octets.
      have hmem : w ∈ ws := by
        rw [List.concat_eq_append, ← List.cons_append, ← List.append_assoc]
          at hparts
        rw [(List.append_inj' hparts rfl).1]
        simp
      obtain ⟨o, ho⟩ := exists_octet_of_mem hos hmem
      exact absurd (Address.mem_of_unsigned? ho hw) (by decide)
  | @range w bound n hw hn hlarge =>
    rw [hws, List.mem_append, List.mem_singleton] at hw
    obtain hw | rfl := hw
    · obtain ⟨o, ho⟩ := exists_octet_of_mem hos hw
      exact absurd (Address.eq_of_unsigned? hn ho ▸ o.toNat_lt)
        (Nat.not_lt.mpr hlarge)
    · exact absurd (Address.mem_of_unsigned? hn (List.mem_singleton.mpr rfl))
        (by decide)
  | count hmany =>
    rw [hws, List.length_append] at hmany
    exact absurd (Nat.lt_of_succ_lt_succ hmany) (Nat.not_lt.mpr hlength)

/-- So it accepts no address. -/
theorem Defect.accepts_eq_false (h : Defect s) :
    (ofText s).accepts a = false := by
  rw [← Bool.not_eq_true, accepts_ofText_iff h.not_address]
  rintro ⟨os, hos, -⟩
  exact h.not_wildcard hos

end AddressPattern

namespace Provider

/-! ## Which provider comes of it -/

/-- The provider has a full address that is this one. -/
def Holds (p : Provider) (a : Address) : Prop :=
  ∃ s ∈ p.patterns, ∃ e, Address.ofText? (Text.trim s.toList) = some e
    ∧ e.reduced = a.reduced

/-- The provider has octets and an asterisk over this address. -/
def Covers (p : Provider) (a : Address) : Prop :=
  ∃ s ∈ p.patterns, Address.ofText? (Text.trim s.toList) = none
    ∧ ∃ os, AddressPattern.Wildcard s os ∧ AddressPattern.Begins a os

/-- The provider is the first of a kind. -/
def IsFirst (ps : List Provider) (q : Provider → Prop) (p : Provider) : Prop :=
  ∃ before after, ps = before ++ p :: after ∧ q p ∧ ∀ b ∈ before, ¬ q b

/-- **Which provider an address belongs to.** -/
inductive Selected (ps : List Provider) (a : Address) :
    Option Provider → Prop where
  /-- A full address is preferred, wherever it stands. -/
  | exact {p} (h : IsFirst ps (Holds · a) p) : Selected ps a (some p)
  | wildcard {p} (hexact : ∀ b ∈ ps, ¬ b.Holds a)
    (h : IsFirst ps (Covers · a) p) :
    Selected ps a (some p)
  | none (hexact : ∀ b ∈ ps, ¬ b.Holds a) (h : ∀ b ∈ ps, ¬ b.Covers a) :
    Selected ps a none

variable {ps : List Provider} {a : Address} {p : Provider}

/-- In the first pass a provider claims an address that it has in full. -/
theorem claims_true_iff : claims true a p = true ↔ p.Holds a := by
  simp only [claims, Holds, List.any_eq_true,
    AddressPattern.isExact_and_accepts_iff]

/-- In the second it claims one that its octets begin. -/
theorem claims_false_iff : claims false a p = true ↔ p.Covers a := by
  simp only [claims, Covers, List.any_eq_true,
    AddressPattern.not_isExact_and_accepts_iff]

/-- What is found is the first of its kind. -/
theorem find?_eq_some_iff_isFirst {c : Provider → Bool} {q : Provider → Prop}
    (h : ∀ p, c p = true ↔ q p) : ps.find? c = some p ↔ IsFirst ps q p := by
  rw [List.find?_eq_some_iff_append]
  simp only [IsFirst, ← h]
  constructor
  · rintro ⟨hp, before, after, hps, hbefore⟩
    exact ⟨before, after, hps, hp, by simpa using hbefore⟩
  · rintro ⟨before, after, hps, hp, hbefore⟩
    exact ⟨hp, before, after, hps, by simpa using hbefore⟩

theorem find?_eq_none_iff_forall {c : Provider → Bool} {q : Provider → Prop}
    (h : ∀ p, c p = true ↔ q p) : ps.find? c = none ↔ ∀ b ∈ ps, ¬ q b := by
  simp [← h]

/-- **The two passes come to what the rule says.** The rule knows of no
passes: a pattern that is the address itself comes before any that is a
wildcard, wherever in the list the two stand. -/
theorem forAddress_eq_iff {r : Option Provider} :
    forAddress ps a = r ↔ Selected ps a r := by
  unfold forAddress
  constructor
  · rintro rfl
    cases hexact : ps.find? (claims true a) with
    | some p =>
      exact .exact
        ((find?_eq_some_iff_isFirst fun _ => claims_true_iff).mp hexact)
    | none =>
      have hnone :=
        (find?_eq_none_iff_forall fun _ => claims_true_iff).mp hexact
      cases hwild : ps.find? (claims false a) with
      | some p =>
        exact .wildcard hnone
          ((find?_eq_some_iff_isFirst fun _ => claims_false_iff).mp hwild)
      | none =>
        exact .none hnone
          ((find?_eq_none_iff_forall fun _ => claims_false_iff).mp hwild)
  · intro h
    cases h with
    | exact h =>
      rw [(find?_eq_some_iff_isFirst fun _ => claims_true_iff).mpr h]
      rfl
    | wildcard hexact h =>
      rw [(find?_eq_none_iff_forall fun _ => claims_true_iff).mpr hexact,
        (find?_eq_some_iff_isFirst fun _ => claims_false_iff).mpr h]
      rfl
    | none hexact h =>
      rw [(find?_eq_none_iff_forall fun _ => claims_true_iff).mpr hexact,
        (find?_eq_none_iff_forall fun _ => claims_false_iff).mpr h]
      rfl

/-- An address counts for no more than what it is reduced to. -/
theorem forAddress_congr {b : Address} (h : a.reduced = b.reduced) :
    forAddress ps a = forAddress ps b := by
  have haccepts (p : AddressPattern) : p.accepts a = p.accepts b := by
    cases p <;> simp [AddressPattern.accepts, h]
  have hclaims (exact : Bool) : claims exact a = claims exact b := by
    funext p
    simp only [claims, haccepts]
  rw [forAddress, forAddress, hclaims, hclaims]

end Provider

end Telematics
