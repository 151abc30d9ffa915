import Telematics.Wire.Fix
import Telematics.Wire.Identity
import Telematics.Wire.Sensor

/-!
# Sub-records

A sub-record is a type code, the length of its payload and the payload.
Seventeen codes have a layout of their own; the payload of any other is kept
as it came, so a packet with unfamiliar sub-records can still be read,
acknowledged record by record and written back.

Reading a payload is separate from reading its frame: `Subrecord.decode`
takes exactly the octets of one payload, `Subrecord.decodeSet` cuts the data
of a record into payloads.
-/

namespace Telematics

/-- The seventeen codes with a layout, and the name of each. -/
def SubrecordCode.names : List (UInt8 × String) :=
  [(0, "EGTS_SR_RECORD_RESPONSE"), (1, "EGTS_SR_TERM_IDENTITY"),
   (6, "EGTS_SR_DISPATCHER_IDENTITY"), (7, "EGTS_SR_AUTH_INFO"),
   (9, "EGTS_SR_RESULT_CODE"), (16, "EGTS_SR_POS_DATA"),
   (17, "EGTS_SR_EXT_POS_DATA"), (18, "EGTS_SR_AD_SENSORS_DATA"),
   (19, "EGTS_SR_COUNTERS_DATA"), (20, "EGTS_SR_STATE_DATA"),
   (22, "EGTS_SR_LOOPIN_DATA"), (23, "EGTS_SR_ABS_DIG_SENS_DATA"),
   (24, "EGTS_SR_ABS_AN_SENS_DATA"), (25, "EGTS_SR_ABS_CNTR_DATA"),
   (26, "EGTS_SR_ABS_LOOPIN_DATA"), (27, "EGTS_SR_LIQUID_LEVEL_SENSOR"),
   (28, "EGTS_SR_PASSENGERS_COUNTERS")]

/-- The name of a code that has a layout. -/
def SubrecordCode.name? (code : UInt8) : Option String :=
  SubrecordCode.names.lookup code

/-- The name of a code, or its number. -/
def SubrecordCode.label (code : UInt8) : String :=
  (SubrecordCode.name? code).getD ("SRT=" ++ toString code.toNat)

/-- A sub-record. -/
inductive Subrecord where
  | recordResponse (p : RecordResponse)
  | termIdentity (p : TermIdentity)
  | dispatcherIdentity (p : DispatcherIdentity)
  | authInfo (p : AuthInfo)
  | authResult (p : AuthResult)
  | fix (p : Fix)
  | fixQuality (p : FixQuality)
  | adSensors (p : AdSensors)
  | counters (p : Counters)
  | powerState (p : PowerState)
  | loopInputs (p : LoopInputs)
  | digitalSensor (p : InputState)
  | analogSensor (p : NumberedValue)
  | counter (p : NumberedValue)
  | loopInput (p : InputState)
  | liquidSensor (p : LiquidSensor)
  | passengers (p : Passengers)
  /-- A code without a layout, and the payload as it came. -/
  | unknown (code : UInt8) (data : Bytes)
  deriving DecidableEq, Repr

namespace Subrecord

/-- The code under which the sub-record is written. -/
def code : Subrecord → UInt8
  | recordResponse _ => 0
  | termIdentity _ => 1
  | dispatcherIdentity _ => 6
  | authInfo _ => 7
  | authResult _ => 9
  | fix _ => 16
  | fixQuality _ => 17
  | adSensors _ => 18
  | counters _ => 19
  | powerState _ => 20
  | loopInputs _ => 22
  | digitalSensor _ => 23
  | analogSensor _ => 24
  | counter _ => 25
  | loopInput _ => 26
  | liquidSensor _ => 27
  | passengers _ => 28
  | unknown c _ => c

/-- The payload has no layout of its own. -/
def isUnknown : Subrecord → Bool
  | unknown _ _ => true
  | _ => false

/-- The sub-record with this code and this payload. -/
def decode (code : UInt8) (d : Bytes) : Except WireError Subrecord :=
  match code.toNat with
  | 0 => recordResponse <$> RecordResponse.decode d
  | 1 => termIdentity <$> TermIdentity.decode d
  | 6 => dispatcherIdentity <$> DispatcherIdentity.decode d
  | 7 => authInfo <$> AuthInfo.decode d
  | 9 => authResult <$> AuthResult.decode d
  | 16 => fix <$> Fix.decode d
  | 17 => fixQuality <$> FixQuality.decode d
  | 18 => adSensors <$> AdSensors.decode d
  | 19 => counters <$> Counters.decode d
  | 20 => powerState <$> PowerState.decode d
  | 22 => loopInputs <$> LoopInputs.decode d
  | 23 => digitalSensor <$> InputState.decodeDigital d
  | 24 => analogSensor <$> NumberedValue.decodeAnalog d
  | 25 => counter <$> NumberedValue.decodeCounter d
  | 26 => loopInput <$> InputState.decodeLoop d
  | 27 => liquidSensor <$> LiquidSensor.decode d
  | 28 => passengers <$> Passengers.decode d
  | _ => .ok (unknown code d)

/-- The payload. -/
def encodePayload : Subrecord → Except WireError Bytes
  | recordResponse p => .ok p.encode
  | termIdentity p => .ok p.encode
  | dispatcherIdentity p => p.encode
  | authInfo p => p.encode
  | authResult p => .ok p.encode
  | fix p => p.encode
  | fixQuality p => .ok p.encode
  | adSensors p => p.encode
  | counters p => p.encode
  | powerState p => .ok p.encode
  | loopInputs p => .ok p.encode
  | digitalSensor p => p.encode "DSN"
  | analogSensor p => p.encode "ASV"
  | counter p => p.encode "CNV"
  | loopInput p => p.encode "LIN"
  | liquidSensor p => p.encode
  | passengers p => .ok p.encode
  | unknown _ d => .ok d

/-- The size with code and length in front. -/
def encodedSize (s : Subrecord) : Except WireError Nat :=
  (3 + ·.length) <$> s.encodePayload

/-! ## Sub-records in a record -/

/-- A payload of announced length. A length beyond the end of the record is
reported with what there is. -/
def readData (unit : String) (size : Nat) : Reader Bytes := fun d =>
  match Bytes.split? size d with
  | some (a, r) => .ok (a, r)
  | none => .error (.lengthMismatch unit size d.length)

/-- One sub-record off the front of a record's data. -/
def read : Reader Subrecord := do
  let code ← Reader.u8 "SRT"
  let size ← Reader.u16 "SRL"
  let payload ← readData "sub-record" size.toNat
  liftM (decode code payload)

theorem readData_bounded (unit : String) (size : Nat) :
    (readData unit size).Bounded := by
  intro d a t h
  unfold readData at h
  split at h
  · next hs =>
    cases h
    obtain ⟨-, rfl⟩ := Bytes.split?_eq_some_iff.1 hs
    simp
  · cases h

theorem lift_bounded (x : Except WireError α) :
    Reader.Bounded (liftM x : Reader α) := by
  intro d a t h
  cases x with
  | error e => cases h
  | ok b => cases h; exact Nat.le_refl _

theorem read_consumes : read.Consumes :=
  (Reader.u8_consumes _).bind fun _ =>
    (Reader.u16_consumes _).bounded.bind fun _ =>
      (readData_bounded _ _).bind fun _ => lift_bounded _

/-- The sub-records of a record's data. -/
def decodeSet (d : Bytes) : Except WireError (List Subrecord) :=
  Reader.many read read_consumes d

/-- The sub-record with its code and length. -/
def encode (s : Subrecord) : Except WireError Bytes := do
  let payload ← s.encodePayload
  let size ← fitLength "sub-record" payload.length
  pure (s.code :: Bytes.ofUInt16 size ++ payload)

/-- The data of a record. -/
def encodeSet (set : List Subrecord) : Except WireError Bytes :=
  List.flatten <$> set.mapM encode

end Subrecord

end Telematics
