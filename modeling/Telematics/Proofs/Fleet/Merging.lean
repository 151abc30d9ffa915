import Mathlib.Algebra.Ring.Nat
import Mathlib.Data.List.DropRight
import Telematics.Fleet.Report

/-!
# What a record is merged into

A reading is made in one pass over the sub-records of a record. Some of them
overwrite a part of it, some add to a part of it, and one splices an octet
into its number. A terminal may send the kinds in any order and mixed, so the
result must not hang on how they stand among one another.

`Reading.Merges` says what a reading holds without the pass: every part of it
is a matter of the sub-records of one kind, in the order in which these come.
Only the number of the packet takes two sub-records that work together, and
both are counters: the last counter 110 gives the number, and the last counter
111 behind it gives the octet on top (`Reading.packetNumber`). So records that
hold the same sub-records of each kind are the same reading.

What one sub-record does to a reading is to join something to it
(`Reading.merge_eq`), and joining twice is joining once with more
(`Reading.joined_joined`). That is all that the pass comes to.
-/

namespace Telematics

/-! ## What there is in a sub-record -/

/-- What a sub-record may tell of a reading. -/
inductive ReportKind where
  | fix
  | quality
  | analog
  | packetCount
  | liquid
  deriving DecidableEq, Repr

namespace Subrecord

/-- What a sub-record tells of a reading, if anything. -/
def kind? : Subrecord → Option ReportKind
  | fix _ => some .fix
  | fixQuality _ => some .quality
  | adSensors _ | analogSensor _ => some .analog
  | counter c =>
    if c.number = 110 ∨ c.number = 111 then some .packetCount else none
  | liquidSensor _ => some .liquid
  | _ => none

def fixes : Subrecord → List Fix
  | fix p => [p]
  | _ => []

def qualities : Subrecord → List FixQuality
  | fixQuality q => [q]
  | _ => []

/-- The analog values of a sub-record: of eight places those that are filled,
ascending and numbered from one, or the value of one sensor. -/
def analogValues : Subrecord → List AnalogValue
  | adSensors a =>
    (List.finRange 8).filterMap fun i =>
      a.analogSensors[i].map (⟨UInt8.ofNat (i + 1), ·⟩)
  | analogSensor a => [⟨a.number, a.value⟩]
  | _ => []

/-- The two counters that make up the number of a packet. -/
def packetCounters : Subrecord → List NumberedValue
  | counter c => if c.number = 110 ∨ c.number = 111 then [c] else []
  | _ => []

def liquidLevels : Subrecord → List LiquidLevel
  | liquidSensor s => [.ofSensor s]
  | _ => []

end Subrecord

namespace Record

def fixes (r : Record) : List Fix := r.subrecords.flatMap Subrecord.fixes
def qualities (r : Record) : List FixQuality :=
  r.subrecords.flatMap Subrecord.qualities
def analogValues (r : Record) : List AnalogValue :=
  r.subrecords.flatMap Subrecord.analogValues
def liquidLevels (r : Record) : List LiquidLevel :=
  r.subrecords.flatMap Subrecord.liquidLevels

def packetCounters (r : Record) : List NumberedValue :=
  r.subrecords.flatMap Subrecord.packetCounters

/-- **Records that tell the same**: the same sub-records of each kind in the
same order, however the kinds are mixed and whatever else there is. -/
def TellsAlike (r r' : Record) : Prop :=
  ∀ k, r'.subrecords.filter (·.kind? = some k)
    = r.subrecords.filter (·.kind? = some k)

end Record

/-! ## What a reading holds -/

namespace Reading

/-- **The number of a packet**, given the one in its header and the counters
in it: the value of the last counter 110, with the low octet of the last
counter 111 behind it in the place of the high one. -/
def packetNumber (n : UInt32) (cs : List NumberedValue) : Nat :=
  let own := ((cs.filter (·.number = 110)).getLast?.map (·.value)).getD n
  match ((cs.rtakeWhile (·.number ≠ 110)).filter (·.number = 111)).getLast? with
  | none => own.toNat
  | some high => own.toNat % 2 ^ 24 + high.value.toNat % 2 ^ 8 * 2 ^ 24

/-- The quality of a fix is in the reading, all of it or none. -/
structure Rated (x : Reading) (q : Option FixQuality) : Prop where
  satellites : x.satellites = q.bind (·.satellites)
  pdop : x.pdop = q.bind (·.pdop)
  hdop : x.hdop = q.bind (·.hdop)
  vdop : x.vdop = q.bind (·.vdop)
  navigationSystem : x.navigationSystem = q.bind (·.navigationSystem)

/-- **What the reading of a record holds**, given the fix. -/
structure Merges (r : Record) (oid : UInt32) (packetId : UInt16)
    (receivedAt : Instant) (p : Fix) (x : Reading) : Prop where
  oid : x.oid = oid
  receivedAt : x.receivedAt = receivedAt
  sentAt : x.sentAt = p.time
  place : x.latitude = p.latitude ∧ x.longitude = p.longitude
    ∧ x.altitude = p.altitudeMetres
  motion : x.speed = p.speedKmh ∧ x.course = p.direction
  /-- The last quality replaces those before it, also where it has less. -/
  quality : x.Rated r.qualities.getLast?
  analog : x.analogSensors = r.analogValues
  liquid : x.liquidSensors = r.liquidLevels
  packetId : x.packetId.toNat = packetNumber packetId.toUInt32 r.packetCounters

/-! ## The number of a packet -/

/-- An octet on top of twenty-four bits. -/
theorem toNat_splice (n v : UInt32) :
    ((n &&& 0x00FFFFFF) ||| ((v &&& 0xFF) <<< (24 : UInt32))).toNat
      = n.toNat % 2 ^ 24 + v.toNat % 2 ^ 8 * 2 ^ 24 := by
  have hlow : (n &&& 0x00FFFFFF).toNat = n.toNat % 2 ^ 24 :=
    (UInt32.toNat_and ..).trans (Nat.and_two_pow_sub_one_eq_mod n.toNat 24)
  have hoctet : (v &&& 0xFF).toNat = v.toNat % 2 ^ 8 :=
    (UInt32.toNat_and ..).trans (Nat.and_two_pow_sub_one_eq_mod v.toNat 8)
  have hhigh : ((v &&& 0xFF) <<< (24 : UInt32)).toNat
      = (v.toNat % 2 ^ 8) <<< 24 := by
    rw [UInt32.toNat_shiftLeft, hoctet, Nat.shiftLeft_eq, Nat.shiftLeft_eq]
    show v.toNat % 256 * 16777216 % 4294967296 = v.toNat % 256 * 16777216
    omega
  have hlt : n.toNat % 2 ^ 24 < 2 ^ 24 := Nat.mod_lt _ (by decide)
  rw [UInt32.toNat_or, hlow, hhigh, Nat.or_comm,
    ← Nat.shiftLeft_add_eq_or_of_lt hlt, Nat.shiftLeft_eq, Nat.add_comm]

variable {c : NumberedValue} {n : UInt32}

/-- The counter of the packet itself gives the number. -/
theorem countPacket_of_own (h : c.number = 110) : countPacket n c = c.value :=
  if_pos h

/-- The counter behind it gives the octet on top. -/
theorem countPacket_of_high (hown : c.number ≠ 110) (h : c.number = 111) :
    countPacket n c
      = (n &&& 0x00FFFFFF) ||| ((c.value &&& 0xFF) <<< (24 : UInt32)) :=
  (if_neg hown).trans (if_pos h)

/-- No other counter has a part in the number. -/
theorem countPacket_of_ne (hown : c.number ≠ 110) (h : c.number ≠ 111) :
    countPacket n c = n :=
  (if_neg hown).trans (if_neg h)

/-- The octet on top of a number does not change what is below it. -/
theorem packetNumber_mod (n : UInt32) (cs : List NumberedValue) :
    packetNumber n cs % 2 ^ 24
      = (((cs.filter (·.number = 110)).getLast?.map (·.value)).getD n).toNat % 2
        ^ 24 := by
  unfold packetNumber
  dsimp only
  split
  · rfl
  · rw [Nat.add_mul_mod_self_right, Nat.mod_mod]

/-- **Counters, one after the other**, come to the number that they say. By
induction from the end of the list, since the last counter may overwrite what
all before it have made. -/
theorem toNat_foldl_countPacket (n : UInt32) (cs : List NumberedValue) :
    (cs.foldl countPacket n).toNat = packetNumber n cs := by
  induction cs using List.reverseRecOn with
  | nil => rfl
  | append_singleton cs c ih =>
    rw [List.foldl_append, List.foldl_cons, List.foldl_nil]
    by_cases hown : c.number = 110
    · -- What came before is overwritten, and nothing stands behind yet.
      rw [countPacket_of_own hown, packetNumber,
        List.rtakeWhile_concat_neg _ _ _ (by simp [hown])]
      simp [hown]
    · have hbehind : (cs ++ [c]).rtakeWhile (·.number ≠ 110)
          = cs.rtakeWhile (·.number ≠ 110) ++ [c] :=
        List.rtakeWhile_concat_pos _ _ _ (by simpa using hown)
      by_cases hhigh : c.number = 111
      · rw [countPacket_of_high hown hhigh, toNat_splice, ih, packetNumber_mod,
          packetNumber, hbehind]
        simp [hhigh]
      · rw [countPacket_of_ne hown hhigh, ih, packetNumber, packetNumber,
          hbehind]
        simp [hown, hhigh]

/-- The first counter 111 is lost behind a counter 110. -/
example : packetNumber 7 [⟨111, 9⟩, ⟨110, 5⟩, ⟨111, 2⟩] = 5 + 2 * 2 ^ 24 := by
  decide

/-! ## The pass over the sub-records -/

variable {x : Reading} {p : Fix} {receivedAt : Instant} {oid : UInt32}
  {packetId : UInt16}
  {r r' : Record}

/-- The reading with the quality of a fix, if there is one. -/
def withQuality (x : Reading) (q : Option FixQuality) : Reading :=
  q.elim x fun q => x.merge (.fixQuality q)

/-- A reading with more joined to it. -/
def joined (x : Reading) (qs : List FixQuality) (cs : List NumberedValue)
    (as : List AnalogValue) (ls : List LiquidLevel) : Reading :=
  { x.withQuality qs.getLast? with
    packetId := cs.foldl countPacket x.packetId
    analogSensors := x.analogSensors ++ as
    liquidSensors := x.liquidSensors ++ ls }

/-- **Joining twice is joining once** with more. -/
theorem joined_joined (x : Reading) (qs qs' : List FixQuality)
    (cs cs' : List NumberedValue) (as as' : List AnalogValue)
    (ls ls' : List LiquidLevel) :
    (x.joined qs cs as ls).joined qs' cs' as' ls'
      = x.joined (qs ++ qs') (cs ++ cs') (as ++ as') (ls ++ ls') := by
  unfold joined
  rw [List.getLast?_append]
  cases qs'.getLast? <;> cases qs.getLast? <;>
    simp [withQuality, merge, List.foldl_append, List.append_assoc]

/-- The filled places of eight, in two ways. -/
theorem numbered_eq (s : Slots UInt32) : s.numbered
    = (List.finRange 8).filterMap fun i =>
      s[i].map (UInt8.ofNat (i + 1), ·) := by
  have hplaces : s.toList.zipIdx 1 = (List.finRange 8).map fun i =>
      (s[i], i.val + 1) :=
    List.ext_getElem (by simp) fun i h h' => by simp [Nat.add_comm]
  rw [Slots.numbered, hplaces, List.filterMap_map]
  rfl

/-- Eight places at once are as many sensors. -/
theorem analogValues_adSensors (a : AdSensors) :
    a.analogValues.map (fun (n, v) => (⟨n, v⟩ : AnalogValue))
      = (Subrecord.adSensors a).analogValues := by
  rw [AdSensors.analogValues, numbered_eq, List.map_filterMap]
  simp only [Option.map_map]
  rfl

/-- **What one sub-record does** to a reading is to join what is in it. Of the
four kinds it has one at most, and the other three are joined as empty
lists. -/
theorem merge_eq (x : Reading) (s : Subrecord) :
    x.merge s
      = x.joined s.qualities s.packetCounters s.analogValues
        s.liquidLevels := by
  have hnothing : x = x.joined [] [] [] [] := by
    simp [joined, withQuality]
  cases s with
  | fixQuality _ | analogSensor _ | liquidSensor _ =>
    simp [joined, withQuality, merge, Subrecord.qualities,
      Subrecord.packetCounters, Subrecord.analogValues, Subrecord.liquidLevels]
  | adSensors a =>
    rw [← analogValues_adSensors]
    simp [joined, withQuality, merge, Subrecord.qualities,
      Subrecord.packetCounters, Subrecord.liquidLevels]
  | counter c =>
    -- Any other counter counts for nothing, and so may be left out.
    have hcounted : [c].foldl countPacket x.packetId
        = (Subrecord.counter c).packetCounters.foldl countPacket
          x.packetId := by
      simp only [Subrecord.packetCounters]
      split_ifs with h
      · rfl
      · rw [not_or] at h
        exact countPacket_of_ne h.1 h.2
    simp [joined, withQuality, merge, ← hcounted, Subrecord.qualities,
      Subrecord.analogValues, Subrecord.liquidLevels]
  | _ => exact hnothing

/-- **One pass collects each kind by itself.** Sub-records of different kinds
may be put in any order against each other, since the parts that they go to
are different ones; those of one kind may not. -/
theorem foldl_merge (x : Reading) (subs : List Subrecord) : subs.foldl merge x
    = x.joined (subs.flatMap Subrecord.qualities)
      (subs.flatMap Subrecord.packetCounters)
      (subs.flatMap Subrecord.analogValues)
      (subs.flatMap Subrecord.liquidLevels) := by
  induction subs generalizing x with
  | nil => simp [joined, withQuality]
  | cons s subs ih =>
    rw [List.foldl_cons, ih, merge_eq, joined_joined]
    rfl

/-- The fix of a reading is the first one of the record. -/
theorem ofRecord?_eq (r : Record) (oid : UInt32) (packetId : UInt16)
    (receivedAt : Instant) :
    ofRecord? r oid packetId receivedAt = r.fixes.head?.map fun p =>
      (ofFix p oid packetId.toUInt32 receivedAt).joined r.qualities
        r.packetCounters
        r.analogValues r.liquidLevels := by
  have hfirst : r.fixes.head? = r.subrecords.findSome? fun s => s.fixes.head? :=
    List.head?_flatMap
  simp only [hfirst, ofRecord?, Option.map_eq_bind, foldl_merge]
  congr 2
  funext s
  cases s <;> rfl

/-- A fix with all of its record joined to it is what the record is merged
into. -/
theorem merges_joined (r : Record) (oid : UInt32) (packetId : UInt16)
    (receivedAt : Instant) (p : Fix) :
    Merges r oid packetId receivedAt p
      ((ofFix p oid packetId.toUInt32 receivedAt).joined r.qualities
        r.packetCounters r.analogValues r.liquidLevels) := by
  have hnumber := toNat_foldl_countPacket packetId.toUInt32 r.packetCounters
  unfold joined
  -- With or without a quality, the parts are there to be read off.
  cases hlast : r.qualities.getLast? <;>
    exact {
      oid := rfl
      receivedAt := rfl
      sentAt := rfl
      place := ⟨rfl, rfl, rfl⟩
      motion := ⟨rfl, rfl⟩
      quality := by rw [hlast]; exact ⟨rfl, rfl, rfl, rfl, rfl⟩
      analog := rfl
      liquid := rfl
      packetId := hnumber }

/-! ## However the kinds are mixed -/

/-- What only the sub-records of one kind have is found among these. -/
theorem flatMap_eq_of_kind {α : Type} {f : Subrecord → List α} (k : ReportKind)
    (hf : ∀ s, s.kind? ≠ some k → f s = []) (subs : List Subrecord) :
    subs.flatMap f = (subs.filter (·.kind? = some k)).flatMap f := by
  induction subs with
  | nil => rfl
  | cons s subs ih =>
    by_cases hs : s.kind? = some k
    · simp [hs, ih]
    · simp [hs, hf s hs, ih]

/-- So records that tell the same have the same of it. -/
theorem flatMap_eq_of_tellsAlike {α : Type} {f : Subrecord → List α}
    (k : ReportKind) (hf : ∀ s, s.kind? ≠ some k → f s = [])
    (h : r.TellsAlike r') :
    r'.subrecords.flatMap f = r.subrecords.flatMap f := by
  rw [flatMap_eq_of_kind k hf, h k, ← flatMap_eq_of_kind k hf]

/-- Records that tell the same are the same reading, or none of them is
one. -/
theorem ofRecord?_eq_of_tellsAlike (h : r.TellsAlike r') :
    ofRecord? r' oid packetId receivedAt
      = ofRecord? r oid packetId receivedAt := by
  have hfixes : r'.fixes = r.fixes := flatMap_eq_of_tellsAlike .fix
    (fun s hs => by cases s <;> first | rfl | exact (hs rfl).elim) h
  have hqualities : r'.qualities = r.qualities :=
    flatMap_eq_of_tellsAlike .quality
    (fun s hs => by cases s <;> first | rfl | exact (hs rfl).elim) h
  have hanalog : r'.analogValues = r.analogValues :=
    flatMap_eq_of_tellsAlike .analog
    (fun s hs => by cases s <;> first | rfl | exact (hs rfl).elim) h
  have hliquid : r'.liquidLevels = r.liquidLevels :=
    flatMap_eq_of_tellsAlike .liquid
    (fun s hs => by cases s <;> first | rfl | exact (hs rfl).elim) h
  have hcounters : r'.packetCounters = r.packetCounters := by
    refine flatMap_eq_of_tellsAlike .packetCount (fun s hs => ?_) h
    cases s with
    | counter c => exact if_neg fun hc => hs (if_pos hc)
    | _ => rfl
  rw [ofRecord?_eq, ofRecord?_eq, hfixes, hqualities, hanalog, hliquid,
    hcounters]

/-- **A record is merged kind by kind and not by position.** It is a reading
exactly if it has a fix; the reading is of the first fix and holds of each kind
what the sub-records of that kind say in their order; and another record that
tells the same is the same reading, wherever its sub-records stand. -/
theorem merges_by_kind (r : Record) (oid : UInt32) (packetId : UInt16)
    (receivedAt : Instant) :
    ((∃ x, ofRecord? r oid packetId receivedAt = some x)
      ↔ ∃ p, .fix p ∈ r.subrecords)
      ∧ (∀ x, ofRecord? r oid packetId receivedAt = some x →
          ∃ p, r.fixes.head? = some p ∧ Merges r oid packetId receivedAt p x)
      ∧ ∀ r', r.TellsAlike r' →
          ofRecord? r' oid packetId receivedAt
            = ofRecord? r oid packetId receivedAt := by
  refine ⟨?_, fun x hx => ?_, fun r' h => ofRecord?_eq_of_tellsAlike h⟩
  · have hmem (p : Fix) : p ∈ r.fixes ↔ .fix p ∈ r.subrecords := by
      unfold Record.fixes
      rw [List.mem_flatMap]
      constructor
      · rintro ⟨s, hs, hp⟩
        cases s with
        | fix q => rwa [List.mem_singleton.mp hp]
        | _ => cases hp
      · exact fun hp => ⟨_, hp, List.mem_singleton.mpr rfl⟩
    simp only [ofRecord?_eq, ← hmem, ← Option.isSome_iff_exists,
      Option.isSome_map]
    cases r.fixes <;> simp
  · rw [ofRecord?_eq, Option.map_eq_some_iff] at hx
    obtain ⟨p, hp, rfl⟩ := hx
    exact ⟨p, hp, merges_joined r oid packetId receivedAt p⟩

end Reading

end Telematics
