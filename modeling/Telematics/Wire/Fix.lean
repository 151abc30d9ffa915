import Telematics.Time.Instant
import Telematics.Wire.Reader

/-!
# Navigation payloads

A fix holds its values as the wire has them – angles scaled to thirty-two
bits, speed in tenths, time in seconds since 2010 – so that it is written
back octet for octet. The functions beside it turn them into degrees, metres
and kilometres per hour, and build a fix from those.

The altitude flag is not stored with the other flags: it is set on the wire
exactly when there is an altitude.
-/

namespace Telematics

/-! ## Protocol time -/

/-- 2010-01-01T00:00:00Z, where the protocol's clock begins. -/
def protocolEpoch : Int := 1262304000

namespace Instant

/-- The instant of a protocol time. -/
def ofProtocol (seconds : UInt32) : Instant :=
  ⟨protocolEpoch + seconds.toNat, 0⟩

/-- The protocol time of an instant, cut to whole seconds and clamped to the
range of the clock. -/
def toProtocol (t : Instant) : UInt32 :=
  UInt32.ofNat (min (t.second - protocolEpoch).toNat 4294967295)

end Instant

/-! ## The fix -/

/-- A navigation fix. -/
structure Fix where
  /-- Seconds since 2010. -/
  navigationTime : UInt32
  /-- The modulus of the latitude; the full range is ninety degrees. -/
  latitudeRaw : UInt32
  /-- The modulus of the longitude; the full range is 180 degrees. -/
  longitudeRaw : UInt32
  /-- Hemispheres, validity and mode. -/
  flags : UInt8
  /-- Tenths of a kilometre per hour, fourteen bits. -/
  speed : UInt16
  /-- Degrees, nine bits. -/
  direction : UInt16
  /-- Tenths of a kilometre, twenty-four bits. -/
  odometer : UInt32
  digitalInputs : UInt8
  /-- What made the terminal send the fix. -/
  source : UInt8
  /-- The modulus of the altitude in metres, twenty-four bits. -/
  altitude : Option UInt32
  /-- The altitude lies below sea level. -/
  altitudeNegative : Bool
  sourceData : Option UInt16
  deriving DecidableEq, Repr

namespace Fix

/-- The bits of the flag byte that the receiver looks at. -/
def validBit : Nat := 0
def southBit : Nat := 5
def westBit : Nat := 6
def altitudeBit : Nat := 7

/-- The altitude flag as a mask. -/
def altitudeMask : UInt8 := 0x80

def decode : Bytes → Except WireError Fix :=
  Reader.whole "EGTS_SR_POS_DATA" do
    let navigationTime ← Reader.u32 "NTM"
    let latitudeRaw ← Reader.u32 "LAT"
    let longitudeRaw ← Reader.u32 "LONG"
    let flags ← Reader.u8 "FLG"
    let spd ← Reader.u16 "SPD"
    let dir ← Reader.u8 "DIR"
    let odometer ← Reader.u24 "ODM"
    let digitalInputs ← Reader.u8 "DIN"
    let source ← Reader.u8 "SRC"
    let altitude ← Reader.whenFlag (Octet.hasBit flags altitudeBit)
      (Reader.u24 "ALT")
    -- No flag announces the source data: they are there if anything is left.
    let sourceData ← Reader.whenFlag (!(← Reader.atEnd)) (Reader.u16 "SRCD")
    pure
      { navigationTime, latitudeRaw, longitudeRaw
        flags := flags &&& ~~~altitudeMask
        speed := spd &&& 0x3FFF
        direction := (if spd &&& 0x8000 = 0 then 0 else 0x100) ||| dir.toUInt16
        odometer, digitalInputs, source, altitude
        altitudeNegative := spd &&& 0x4000 ≠ 0
        sourceData }

def encode (p : Fix) : Except WireError Bytes := do
  fitBits "SPD" p.speed.toNat 14
  fitBits "DIR" p.direction.toNat 9
  fitBits "ODM" p.odometer.toNat 24
  match p.altitude with
  | some altitude => fitBits "ALT" altitude.toNat 24
  | none => pure ()
  -- The flag goes with the altitude, whatever the flags of the value say.
  let flags :=
    if p.altitude.isSome then p.flags ||| altitudeMask
    else p.flags &&& ~~~altitudeMask
  let spd := p.speed ||| (if p.altitudeNegative then 0x4000 else 0)
    ||| (if p.direction &&& 0x100 = 0 then 0 else 0x8000)
  pure <|
    Bytes.ofUInt32 p.navigationTime ++ Bytes.ofUInt32 p.latitudeRaw
      ++ Bytes.ofUInt32 p.longitudeRaw ++ [flags] ++ Bytes.ofUInt16 spd
      ++ [p.direction.toUInt8] ++ Bytes.ofUInt24 p.odometer
      ++ [p.digitalInputs, p.source]
      ++ p.altitude.elim [] Bytes.ofUInt24
      ++ p.sourceData.elim [] Bytes.ofUInt16

/-! ## Physical units -/

/-- Degrees of latitude for one unit on the wire. -/
def latitudeUnit : Float := 90.0 / 4294967295.0

/-- Degrees of longitude for one unit on the wire. -/
def longitudeUnit : Float := 180.0 / 4294967295.0

/-- The number of units in a value, rounded to the nearest and clamped to
thirty-two bits; a value that is no number has none. -/
def scale (value unit : Float) : UInt32 :=
  let raw := (value / unit).round
  if raw ≤ 0.0 then 0
  else if raw ≥ 4294967295.0 then 4294967295
  else raw.toUInt32

/-- A valid fix at a place. -/
def ofDegrees (time : Instant) (latitude longitude : Float) : Fix where
  navigationTime := time.toProtocol
  latitudeRaw := scale latitude.abs latitudeUnit
  longitudeRaw := scale longitude.abs longitudeUnit
  flags := Octet.ofBits
    [true, false, false, false, false, latitude < 0.0, longitude < 0.0, false]
  speed := 0
  direction := 0
  odometer := 0
  digitalInputs := 0
  source := 0
  altitude := none
  altitudeNegative := false
  sourceData := none

/-- The fix at an altitude in metres. -/
def withAltitude (p : Fix) (metres : Int32) : Fix :=
  { p with
    altitude := some (UInt32.ofNat (min metres.toInt.natAbs 0xFFFFFF))
    altitudeNegative := metres.toInt < 0 }

/-- The fix with a speed in kilometres per hour and a course in degrees. -/
def withMotion (p : Fix) (speed : Float) (course : UInt16) : Fix :=
  { p with
    speed := UInt16.ofNat (min (scale (speed * 10.0) 1.0).toNat 0x3FFF)
    direction := course % 360 }

/-- When the fix was taken. -/
def time (p : Fix) : Instant := .ofProtocol p.navigationTime

/-- Degrees, negative in the south. -/
def latitude (p : Fix) : Float :=
  let v := p.latitudeRaw.toFloat * latitudeUnit
  if Octet.hasBit p.flags southBit then -v else v

/-- Degrees, negative in the west. -/
def longitude (p : Fix) : Float :=
  let v := p.longitudeRaw.toFloat * longitudeUnit
  if Octet.hasBit p.flags westBit then -v else v

/-- The altitude in metres, if it is there and fits thirty-two bits with its
sign. -/
def altitudeMetres (p : Fix) : Option Int32 := do
  let modulus ← p.altitude
  if modulus.toNat < 0x80000000 then
    let metres : Int := modulus.toNat
    some (Int32.ofInt (if p.altitudeNegative then -metres else metres))
  else none

/-- Kilometres per hour. -/
def speedKmh (p : Fix) : Float := p.speed.toNat.toFloat / 10.0

/-- The terminal vouches for the fix. -/
def isValid (p : Fix) : Bool := Octet.hasBit p.flags validBit

end Fix

/-- Precision and satellites of a fix; dilutions are in hundredths. -/
structure FixQuality where
  vdop : Option UInt16
  hdop : Option UInt16
  pdop : Option UInt16
  satellites : Option UInt8
  /-- The navigation systems in use, as a mask. -/
  navigationSystem : Option UInt16
  deriving DecidableEq, Repr

namespace FixQuality

/-- The flag byte. -/
def flags (q : FixQuality) : UInt8 :=
  Octet.ofBits [q.vdop.isSome, q.hdop.isSome, q.pdop.isSome,
    q.satellites.isSome, q.navigationSystem.isSome]

def decode : Bytes → Except WireError FixQuality :=
  Reader.whole "EGTS_SR_EXT_POS_DATA" do
    let flags ← Reader.u8 "EXT_POS_DATA flags"
    let has := Octet.hasBit flags
    let vdop ← Reader.whenFlag (has 0) (Reader.u16 "VDOP")
    let hdop ← Reader.whenFlag (has 1) (Reader.u16 "HDOP")
    let pdop ← Reader.whenFlag (has 2) (Reader.u16 "PDOP")
    let satellites ← Reader.whenFlag (has 3) (Reader.u8 "SAT")
    let navigationSystem ← Reader.whenFlag (has 4) (Reader.u16 "NS")
    pure ⟨vdop, hdop, pdop, satellites, navigationSystem⟩

def encode (q : FixQuality) : Bytes :=
  q.flags :: (q.vdop.elim [] Bytes.ofUInt16 ++ q.hdop.elim [] Bytes.ofUInt16
    ++ q.pdop.elim [] Bytes.ofUInt16 ++ q.satellites.elim [] (fun s => [s])
    ++ q.navigationSystem.elim [] Bytes.ofUInt16)

end FixQuality

end Telematics
