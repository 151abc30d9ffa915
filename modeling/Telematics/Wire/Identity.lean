import Telematics.Text.Scan
import Telematics.Wire.Reader

/-!
# Identity and authorization payloads

What a terminal sends to say who it is, what it is told in return, and the
acknowledgement of one record. An optional field stands on the wire exactly
when its flag is set, so the flags are not stored: they are read off the
fields that are there.
-/

namespace Telematics

/-- The acknowledgement of one record. -/
structure RecordResponse where
  /-- The number of the record that is confirmed. -/
  recordNumber : UInt16
  /-- How the record was processed. -/
  status : UInt8
  deriving DecidableEq, Repr

namespace RecordResponse

/-- The outcome that the status octet stands for. -/
def outcome (r : RecordResponse) : ResultCode := .ofByte r.status

def decode : Bytes → Except WireError RecordResponse :=
  Reader.whole "EGTS_SR_RECORD_RESPONSE" do
    let recordNumber ← Reader.u16 "CRN"
    let status ← Reader.u8 "RST"
    pure ⟨recordNumber, status⟩

def encode (r : RecordResponse) : Bytes :=
  Bytes.ofUInt16 r.recordNumber ++ [r.status]

end RecordResponse

/-- The identity that a terminal announces when it logs in. -/
structure TermIdentity where
  terminalId : UInt32
  homeDispatcherId : Option UInt16
  imei : Option (Vector UInt8 15)
  imsi : Option (Vector UInt8 16)
  languageCode : Option (Vector UInt8 3)
  /-- Country and network code. -/
  networkId : Option (Vector UInt8 3)
  /-- The size of the terminal's receive buffer. -/
  bufferSize : Option UInt16
  msisdn : Option (Vector UInt8 15)
  /-- The terminal asks for the short form of authorization. -/
  simpleAuth : Bool
  deriving DecidableEq, Repr

namespace TermIdentity

/-- The flag byte. -/
def flags (t : TermIdentity) : UInt8 :=
  Octet.ofBits [t.homeDispatcherId.isSome, t.imei.isSome, t.imsi.isSome,
    t.languageCode.isSome, t.simpleAuth, t.networkId.isSome,
    t.bufferSize.isSome, t.msisdn.isSome]

/-- The equipment identity as a number, if it is written in digits. -/
def imeiNumber (t : TermIdentity) : Option UInt64 := do
  let imei ← t.imei
  let s ← (Utf8.decode imei.toList).toOption
  let n ← Text.unsigned? UInt64.size (Text.trim s.toList)
  pure (UInt64.ofNat n)

def decode : Bytes → Except WireError TermIdentity :=
  Reader.whole "EGTS_SR_TERM_IDENTITY" do
    let terminalId ← Reader.u32 "TID"
    let flags ← Reader.u8 "TERM_IDENTITY flags"
    let has := Octet.hasBit flags
    let homeDispatcherId ← Reader.whenFlag (has 0) (Reader.u16 "HDID")
    let imei ← Reader.whenFlag (has 1) (Reader.array 15 "IMEI")
    let imsi ← Reader.whenFlag (has 2) (Reader.array 16 "IMSI")
    let languageCode ← Reader.whenFlag (has 3) (Reader.array 3 "LNGC")
    let networkId ← Reader.whenFlag (has 5) (Reader.array 3 "NID")
    let bufferSize ← Reader.whenFlag (has 6) (Reader.u16 "BS")
    let msisdn ← Reader.whenFlag (has 7) (Reader.array 15 "MSISDN")
    pure ⟨terminalId, homeDispatcherId, imei, imsi, languageCode, networkId,
      bufferSize, msisdn, has 4⟩

def encode (t : TermIdentity) : Bytes :=
  Bytes.ofUInt32 t.terminalId ++ [t.flags]
    ++ t.homeDispatcherId.elim [] Bytes.ofUInt16
    ++ t.imei.elim [] Vector.toList
    ++ t.imsi.elim [] Vector.toList
    ++ t.languageCode.elim [] Vector.toList
    ++ t.networkId.elim [] Vector.toList
    ++ t.bufferSize.elim [] Bytes.ofUInt16
    ++ t.msisdn.elim [] Vector.toList

end TermIdentity

/-- The identity of a dispatching centre. -/
structure DispatcherIdentity where
  dispatcherType : UInt8
  dispatcherId : UInt32
  /-- A free description. -/
  description : Bytes
  deriving DecidableEq, Repr

namespace DispatcherIdentity

/-- The longest description that may be written. -/
def maxDescription : Nat := 255

/-- Reading takes a description of any length; only writing has a bound. -/
def decode (d : Bytes) : Except WireError DispatcherIdentity :=
  Prod.fst <$> (do
    let dispatcherType ← Reader.u8 "DT"
    let dispatcherId ← Reader.u32 "DID"
    let description ← Reader.rest
    pure (⟨dispatcherType, dispatcherId, description⟩ : DispatcherIdentity) :
      Reader DispatcherIdentity) d

def encode (p : DispatcherIdentity) : Except WireError Bytes :=
  if p.description.length ≤ maxDescription then
    .ok (p.dispatcherType :: Bytes.ofUInt32 p.dispatcherId ++ p.description)
  else .error (.tooLarge "DSCR" p.description.length maxDescription)

end DispatcherIdentity

/-- A user name and a password. -/
structure AuthInfo where
  userName : String
  password : String
  serverSequence : Option String
  deriving DecidableEq, Repr

namespace AuthInfo

def decode : Bytes → Except WireError AuthInfo :=
  Reader.whole "EGTS_SR_AUTH_INFO" do
    let userName ← Reader.text "UNM"
    let password ← Reader.text "UPSW"
    let serverSequence ← Reader.whenFlag (!(← Reader.atEnd)) (Reader.text "SS")
    pure ⟨userName, password, serverSequence⟩

/-- A text and the zero octet that ends it. -/
def encodeText (field : String) (s : String) : Except WireError Bytes :=
  let d := Utf8.encode s
  if d.contains 0 then .error (.invalidField field .nulByte) else .ok (d ++ [0])

def encode (p : AuthInfo) : Except WireError Bytes := do
  let userName ← encodeText "UNM" p.userName
  let password ← encodeText "UPSW" p.password
  let serverSequence ← match p.serverSequence with
    | some s => encodeText "SS" s
    | none => pure []
  pure (userName ++ password ++ serverSequence)

end AuthInfo

/-- What the receiver answers to an authorization. -/
structure AuthResult where
  code : UInt8
  deriving DecidableEq, Repr

namespace AuthResult

def decode : Bytes → Except WireError AuthResult :=
  Reader.whole "EGTS_SR_RESULT_CODE" do
    let code ← Reader.u8 "RCD"
    pure ⟨code⟩

def encode (p : AuthResult) : Bytes := [p.code]

end AuthResult

end Telematics
