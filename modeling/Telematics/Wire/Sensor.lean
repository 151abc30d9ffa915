import Telematics.Wire.Slots

/-!
# Sensor and counter payloads

Inputs, outputs, counters, battery state, loop inputs, liquid level and
passenger counts. Reserved bits of a flag byte are kept as they came, so that
a payload that is read is written back the same.
-/

namespace Telematics

/-- A number of twenty-four bits. -/
def encodeUInt24 (field : String) (value : UInt32) :
    Except WireError Bytes := do
  fitBits field value.toNat 24
  pure (Bytes.ofUInt24 value)

/-- The filled places of eight twenty-four bit numbers. -/
def Slots.encodeUInt24 (field : String) (s : Slots UInt32) :
    Except WireError Bytes :=
  List.flatten <$> s.filled.mapM (Telematics.encodeUInt24 field)

/-- Digital inputs, outputs and analog sensors. -/
structure AdSensors where
  digitalInputs : Slots UInt8
  digitalOutputs : UInt8
  /-- Twenty-four bits each. -/
  analogSensors : Slots UInt32
  deriving DecidableEq, Repr

namespace AdSensors

/-- The analog sensors that are present, with their numbers. -/
def analogValues (p : AdSensors) : List (UInt8 × UInt32) :=
  p.analogSensors.numbered

def decode : Bytes → Except WireError AdSensors :=
  Reader.whole "EGTS_SR_AD_SENSORS_DATA" do
    let inputFlags ← Reader.u8 "DIOE"
    let digitalOutputs ← Reader.u8 "DOUT"
    let analogFlags ← Reader.u8 "ASFE"
    let digitalInputs ← Slots.read inputFlags (Reader.u8 "ADIO")
    let analogSensors ← Slots.read analogFlags (Reader.u24 "ANS")
    pure ⟨digitalInputs, digitalOutputs, analogSensors⟩

def encode (p : AdSensors) : Except WireError Bytes := do
  let analog ← p.analogSensors.encodeUInt24 "ANS"
  pure ([p.digitalInputs.flags, p.digitalOutputs, p.analogSensors.flags]
    ++ p.digitalInputs.filled ++ analog)

end AdSensors

/-- Up to eight counters of twenty-four bits. -/
structure Counters where
  counters : Slots UInt32
  deriving DecidableEq, Repr

namespace Counters

def decode : Bytes → Except WireError Counters :=
  Reader.whole "EGTS_SR_COUNTERS_DATA" do
    let flags ← Reader.u8 "CFE"
    let counters ← Slots.read flags (Reader.u24 "CN")
    pure ⟨counters⟩

def encode (p : Counters) : Except WireError Bytes := do
  let values ← p.counters.encodeUInt24 "CN"
  pure (p.counters.flags :: values)

end Counters

/-- The terminal's mode and its supply voltages, in tenths of a volt. -/
structure PowerState where
  state : UInt8
  mainPowerVoltage : UInt8
  backupBatteryVoltage : UInt8
  internalBatteryVoltage : UInt8
  navigationEnabled : Bool
  internalBatteryUsed : Bool
  backupBatteryUsed : Bool
  /-- The five high flag bits, as received. -/
  reservedFlags : UInt8
  deriving DecidableEq, Repr

namespace PowerState

/-- The flag bits that have a meaning. -/
def flagMask : UInt8 := 0x07

def decode : Bytes → Except WireError PowerState :=
  Reader.whole "EGTS_SR_STATE_DATA" do
    let state ← Reader.u8 "ST"
    let mainPowerVoltage ← Reader.u8 "MPSV"
    let backupBatteryVoltage ← Reader.u8 "BBV"
    let internalBatteryVoltage ← Reader.u8 "IBV"
    let flags ← Reader.u8 "STATE_DATA flags"
    pure
      { state, mainPowerVoltage, backupBatteryVoltage, internalBatteryVoltage
        navigationEnabled := Octet.hasBit flags 2
        internalBatteryUsed := Octet.hasBit flags 1
        backupBatteryUsed := Octet.hasBit flags 0
        reservedFlags := flags &&& ~~~flagMask }

def encode (p : PowerState) : Bytes :=
  [p.state, p.mainPowerVoltage, p.backupBatteryVoltage,
    p.internalBatteryVoltage,
    Octet.ofBits
        [p.backupBatteryUsed, p.internalBatteryUsed, p.navigationEnabled]
      ||| p.reservedFlags &&& ~~~flagMask]

end PowerState

/-- The states of up to eight loop inputs. -/
structure LoopInputs where
  states : Slots UInt8
  deriving DecidableEq, Repr

namespace LoopInputs

def decode : Bytes → Except WireError LoopInputs :=
  Reader.whole "EGTS_SR_LOOPIN_DATA" do
    let flags ← Reader.u8 "LIFE"
    let states ← Slots.read flags (Reader.u8 "LIS")
    pure ⟨states⟩

def encode (p : LoopInputs) : Bytes := p.states.flags :: p.states.filled

end LoopInputs

/-- The state of one numbered input: twelve bits of number, four of state.
The first octet holds the state and the low four bits of the number. -/
structure InputState where
  number : UInt16
  state : UInt8
  deriving DecidableEq, Repr

namespace InputState

/-- The two octets, under the names that their fields have in a payload. -/
def read (low high : String) : Reader InputState := do
  let b0 ← Reader.u8 low
  let b1 ← Reader.u8 high
  pure ⟨b1.toUInt16 <<< 4 ||| (b0 >>> 4).toUInt16, b0 &&& 0x0F⟩

def encode (field : String) (p : InputState) : Except WireError Bytes := do
  fitBits field p.number.toNat 12
  fitBits field p.state.toNat 4
  pure [(p.number &&& 0x0F).toUInt8 <<< 4 ||| p.state, (p.number >>> 4).toUInt8]

/-- The state of one digital sensor. -/
def decodeDigital : Bytes → Except WireError InputState :=
  Reader.whole "EGTS_SR_ABS_DIG_SENS_DATA" (read "DSST" "DSN")

/-- The state of one loop input. -/
def decodeLoop : Bytes → Except WireError InputState :=
  Reader.whole "EGTS_SR_ABS_LOOPIN_DATA" (read "LIS" "LIN")

end InputState

/-- One numbered value of twenty-four bits. -/
structure NumberedValue where
  number : UInt8
  value : UInt32
  deriving DecidableEq, Repr

namespace NumberedValue

/-- The number and the value, under the names that they have in a payload. -/
def read (number value : String) : Reader NumberedValue := do
  let n ← Reader.u8 number
  let v ← Reader.u24 value
  pure ⟨n, v⟩

def encode (field : String) (p : NumberedValue) : Except WireError Bytes := do
  let value ← encodeUInt24 field p.value
  pure (p.number :: value)

/-- The value of one analog sensor. -/
def decodeAnalog : Bytes → Except WireError NumberedValue :=
  Reader.whole "EGTS_SR_ABS_AN_SENS_DATA" (read "ASN" "ASV")

/-- The value of one counter. -/
def decodeCounter : Bytes → Except WireError NumberedValue :=
  Reader.whole "EGTS_SR_ABS_CNTR_DATA" (read "CN" "CNV")

end NumberedValue

/-- What a liquid level counts. -/
inductive LiquidUnit where
  | uncalibrated
  /-- Tenths of a percent of the tank. -/
  | percent
  /-- Tenths of a litre. -/
  | litres
  | reserved
  deriving DecidableEq, Repr

namespace LiquidUnit

/-- The unit that two bits stand for; higher bits are ignored. -/
def ofBits (b : UInt8) : LiquidUnit :=
  match (b &&& 0x03).toNat with
  | 0 => uncalibrated
  | 1 => percent
  | 2 => litres
  | _ => reserved

def bits : LiquidUnit → UInt8
  | uncalibrated => 0
  | percent => 1
  | litres => 2
  | reserved => 3

@[simp] theorem ofBits_bits (u : LiquidUnit) :
    ofBits u.bits = u := by cases u <;> rfl

/-- The name of the unit. -/
def name : LiquidUnit → String
  | uncalibrated => "Uncalibrated"
  | percent => "Percent"
  | litres => "Litres"
  | reserved => "Reserved"

end LiquidUnit

/-- A level, or the octets that the sensor sent. -/
inductive LiquidReading where
  | value (level : UInt32)
  | raw (data : Bytes)
  deriving DecidableEq, Repr

/-- A liquid level sensor. -/
structure LiquidSensor where
  /-- Three bits. -/
  number : UInt8
  error : Bool
  unit : LiquidUnit
  /-- The sensor's address on its bus. -/
  moduleAddress : UInt16
  reading : LiquidReading
  /-- The high flag bit, as received. -/
  reserved : Bool
  deriving DecidableEq, Repr

namespace LiquidSensor

/-- The longest raw data of a sensor. -/
def maxRaw : Nat := 512

/-- The level, if the sensor sent one. -/
def value? (p : LiquidSensor) : Option UInt32 :=
  match p.reading with
  | .value level => some level
  | .raw _ => none

/-- Raw data within its bound. -/
def checkRaw (d : Bytes) : Except WireError Unit :=
  if d.length ≤ maxRaw then .ok ()
    else .error (.tooLarge "LLSD" d.length maxRaw)

/-- Raw data or a level, as the flag says. -/
def readReading (raw : Bool) : Reader LiquidReading :=
  if raw then do
    let d ← Reader.rest
    checkRaw d
    pure (.raw d)
  else LiquidReading.value <$> Reader.u32 "LLSD"

def decode : Bytes → Except WireError LiquidSensor :=
  Reader.whole "EGTS_SR_LIQUID_LEVEL_SENSOR" do
    let flags ← Reader.u8 "LIQUID_LEVEL_SENSOR flags"
    let moduleAddress ← Reader.u16 "MADDR"
    let reading ← readReading (Octet.hasBit flags 3)
    pure
      { number := flags &&& 0x07
        error := Octet.hasBit flags 6
        unit := LiquidUnit.ofBits (flags >>> 4)
        moduleAddress, reading
        reserved := Octet.hasBit flags 7 }

/-- The flag byte. -/
def flags (p : LiquidSensor) : UInt8 :=
  Octet.ofBits [false, false, false, p.value?.isNone, false, false, p.error,
    p.reserved]
    ||| p.unit.bits <<< 4 ||| p.number

def encode (p : LiquidSensor) : Except WireError Bytes := do
  fitBits "LLSN" p.number.toNat 3
  let data ← match p.reading with
    | .value level => pure (Bytes.ofUInt32 level)
    | .raw d => do
      checkRaw d
      pure d
  pure (p.flags :: Bytes.ofUInt16 p.moduleAddress ++ data)

end LiquidSensor

/-- Boarding counts. -/
inductive PassengerCounts where
  /-- Who came in and who went out, for each door. -/
  | doors (counts : Slots (UInt8 × UInt8))
  | raw (data : Bytes)
  deriving DecidableEq, Repr

/-- Passenger counters of a vehicle's doors. -/
structure Passengers where
  /-- The doors that were opened, as a mask. -/
  doorsReleased : UInt8
  moduleAddress : UInt16
  counts : PassengerCounts
  /-- The seven high flag bits, as received. -/
  reservedFlags : UInt8
  deriving DecidableEq, Repr

namespace Passengers

/-- The two counts of one door. -/
def readDoor : Reader (UInt8 × UInt8) := do
  let inbound ← Reader.u8 "IPQ/OPQ"
  let outbound ← Reader.u8 "IPQ/OPQ"
  pure (inbound, outbound)

def decode : Bytes → Except WireError Passengers :=
  Reader.whole "EGTS_SR_PASSENGERS_COUNTERS" do
    let flags ← Reader.u8 "PASSENGERS_COUNTERS flags"
    let doorFlags ← Reader.u8 "DPR"
    let doorsReleased ← Reader.u8 "DRL"
    let moduleAddress ← Reader.u16 "MADDR"
    let counts ←
      if Octet.hasBit flags 0 then PassengerCounts.raw <$> Reader.rest
      else PassengerCounts.doors <$> Slots.read doorFlags readDoor
    pure
      { doorsReleased, moduleAddress, counts,
        reservedFlags := flags &&& ~~~1 }

/-- The raw flag, the flags of the doors, and what follows the header. -/
def parts (p : Passengers) : UInt8 × UInt8 × Bytes :=
  match p.counts with
  | .doors counts =>
    (0, counts.flags, counts.filled.flatMap fun (i, o) => [i, o])
  | .raw d => (1, 0, d)

def encode (p : Passengers) : Bytes :=
  let (raw, doorFlags, data) := p.parts
  [raw ||| p.reservedFlags &&& ~~~1, doorFlags, p.doorsReleased]
    ++ Bytes.ofUInt16 p.moduleAddress ++ data

end Passengers

end Telematics
