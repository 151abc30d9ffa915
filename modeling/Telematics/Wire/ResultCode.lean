/-!
# Processing results

Every acknowledgement carries one octet that says how the packet or record
was taken. Fifteen values have a meaning; the others are kept as they came,
so `toByte` undoes `ofByte`.
-/

namespace Telematics

/-- The outcome of processing a packet or a record. -/
inductive ResultCode where
  | ok
  | inProgress
  | unsupportedProtocol
  | decryptError
  | processingDenied
  | incorrectHeaderForm
  | incorrectDataForm
  | unsupportedType
  | notEnoughParams
  | doubleProcessing
  | sourceDenied
  | headerCrcError
  | dataCrcError
  | invalidDataLength
  | serviceDenied
  | other (code : UInt8)
  deriving DecidableEq, Repr, Inhabited

namespace ResultCode

/-- The meaning of the octet on the wire. -/
def ofByte (b : UInt8) : ResultCode :=
  match b.toNat with
  | 0 => ok
  | 1 => inProgress
  | 128 => unsupportedProtocol
  | 129 => decryptError
  | 130 => processingDenied
  | 131 => incorrectHeaderForm
  | 132 => incorrectDataForm
  | 133 => unsupportedType
  | 134 => notEnoughParams
  | 135 => doubleProcessing
  | 136 => sourceDenied
  | 137 => headerCrcError
  | 138 => dataCrcError
  | 139 => invalidDataLength
  | 149 => serviceDenied
  | _ => other b

/-- The octet on the wire. -/
def toByte : ResultCode → UInt8
  | ok => 0
  | inProgress => 1
  | unsupportedProtocol => 128
  | decryptError => 129
  | processingDenied => 130
  | incorrectHeaderForm => 131
  | incorrectDataForm => 132
  | unsupportedType => 133
  | notEnoughParams => 134
  | doubleProcessing => 135
  | sourceDenied => 136
  | headerCrcError => 137
  | dataCrcError => 138
  | invalidDataLength => 139
  | serviceDenied => 149
  | other b => b

/-- **Nothing is lost in reading a code.** -/
@[simp] theorem toByte_ofByte (b : UInt8) : (ofByte b).toByte = b := by
  apply UInt8.toNat_inj.1
  unfold ofByte
  split <;> simp_all [toByte]

/-- Processing succeeded. -/
def isOk (c : ResultCode) : Bool := c == ok

/-- The name of the outcome, without the octet of an unassigned one. -/
def name : ResultCode → String
  | ok => "Ok"
  | inProgress => "InProgress"
  | unsupportedProtocol => "UnsupportedProtocol"
  | decryptError => "DecryptError"
  | processingDenied => "ProcessingDenied"
  | incorrectHeaderForm => "IncorrectHeaderForm"
  | incorrectDataForm => "IncorrectDataForm"
  | unsupportedType => "UnsupportedType"
  | notEnoughParams => "NotEnoughParams"
  | doubleProcessing => "DoubleProcessing"
  | sourceDenied => "SourceDenied"
  | headerCrcError => "HeaderCrcError"
  | dataCrcError => "DataCrcError"
  | invalidDataLength => "InvalidDataLength"
  | serviceDenied => "ServiceDenied"
  | other _ => "Other"

/-- The name, where an unassigned outcome also shows its octet. -/
def label : ResultCode → String
  | other b => "Other(" ++ toString b.toNat ++ ")"
  | c => c.name

/-- The outcome as a log line shows it: its label, then its octet. -/
def describe (c : ResultCode) : String :=
  c.label ++ "(" ++ toString c.toByte.toNat ++ ")"

end ResultCode

end Telematics
