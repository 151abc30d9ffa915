import Telematics.Text.Hex
import Telematics.Text.Utf8
import Telematics.Wire.ResultCode

/-!
# What can be wrong with a packet

One constructor for each cause, with what a reader of the report needs to
know, one function for its wording and one for the processing result that
goes back to the terminal. No cause maps to a result below 128, so a fault
is never reported as a success.
-/

namespace Telematics

/-- Why the contents of one field are refused. -/
inductive FieldFault where
  /-- The value needs more bits than the field has. -/
  | width (value bits : Nat)
  /-- The bytes are not text. -/
  | utf8 (fault : Utf8.Fault)
  /-- The text holds the byte that would end it. -/
  | nulByte
  deriving DecidableEq, Repr

namespace FieldFault

/-- The fault in words. -/
def message : FieldFault → String
  | width value bits =>
    toString value ++ " does not fit in " ++ toString bits ++ " bits"
  | utf8 fault => fault.message
  | nulByte => "contains a NUL byte"

end FieldFault

/-- A fault of the wire format. -/
inductive WireError where
  /-- The first octet is not the protocol's marker. -/
  | notEgts (first : UInt8)
  /-- The data ends where a field should stand. -/
  | endOfData (field : String)
  /-- The header announces a length that its route flag rules out. -/
  | headerLength (expected got : UInt8)
  | headerChecksum (declared computed : UInt8)
  | frameChecksum (declared computed : UInt16)
  | packetType (code : UInt8)
  | encrypted (algorithm : UInt8)
  | compressed
  /-- A unit is longer or shorter than announced. -/
  | lengthMismatch (unit : String) (declared actual : Nat)
  | tooLarge (unit : String) (size max : Nat)
  | invalidField (field : String) (fault : FieldFault)
  deriving DecidableEq, Repr

namespace WireError

/-- The fault in words. -/
def message : WireError → String
  | notEgts first =>
    "not an EGTS packet: first byte " ++ Hex.literal 2 first.toNat
  | endOfData field => "unexpected end of data while reading " ++ field
  | headerLength expected got =>
    "invalid header length: expected " ++ toString expected.toNat
      ++ ", got " ++ toString got.toNat
  | headerChecksum declared computed =>
    "header checksum mismatch: declared " ++ Hex.literal 2 declared.toNat
      ++ ", computed " ++ Hex.literal 2 computed.toNat
  | frameChecksum declared computed =>
    "frame data checksum mismatch: declared " ++ Hex.literal 4 declared.toNat
      ++ ", computed " ++ Hex.literal 4 computed.toNat
  | packetType code => "unsupported packet type: " ++ toString code.toNat
  | encrypted algorithm =>
    "encrypted frame data (algorithm " ++ toString algorithm.toNat
      ++ ") is not supported"
  | compressed => "compressed frame data is not supported"
  | lengthMismatch unit declared actual =>
    unit ++ " length mismatch: declared " ++ toString declared
      ++ ", actual " ++ toString actual
  | tooLarge unit size max =>
    unit ++ " too large: " ++ toString size ++ " bytes (max "
      ++ toString max ++ ")"
  | invalidField field fault => "invalid " ++ field ++ ": " ++ fault.message

/-- What the terminal is told about the fault. -/
def resultCode : WireError → ResultCode
  | notEgts _ => .unsupportedProtocol
  | endOfData _ => .incorrectDataForm
  | headerLength _ _ => .incorrectHeaderForm
  | headerChecksum _ _ => .headerCrcError
  | frameChecksum _ _ => .dataCrcError
  | packetType _ => .unsupportedType
  | encrypted _ => .decryptError
  | compressed => .unsupportedProtocol
  | lengthMismatch _ _ _ => .invalidDataLength
  | tooLarge _ _ _ => .invalidDataLength
  | invalidField _ _ => .incorrectDataForm

/-- **A fault is never taken for a success.** -/
theorem resultCode_ge (e : WireError) : 128 ≤ e.resultCode.toByte.toNat := by
  cases e <;> simp [resultCode, ResultCode.toByte]

end WireError

end Telematics
