import Telematics.Text.Quoted

/-!
# Vehicles

A vehicle has a number of its own, the identity of its terminal, perhaps the
object number under which the terminal last reported, and a moderation
status. Vehicles, providers and track points are numbered independently, so
their numbers are different types.
-/

namespace Telematics

/-- The number of a vehicle. -/
structure VehicleId where
  val : Int
  deriving DecidableEq, Repr, Inhabited

/-- The number of a provider. -/
structure ProviderId where
  val : Int
  deriving DecidableEq, Repr, Inhabited

/-- The number of a track point. -/
structure PointId where
  val : Int
  deriving DecidableEq, Repr, Inhabited

/-- The number as a message shows it. -/
def VehicleId.label (id : VehicleId) : String := "vehicle#" ++ toString id.val
def ProviderId.label (id : ProviderId) : String :=
  "provider#" ++ toString id.val
def PointId.label (id : PointId) : String := "point#" ++ toString id.val

/-- The bounds of a number of a row. -/
def minRowNumber : Int := -0x8000000000000000
def maxRowNumber : Int := 0x7FFFFFFFFFFFFFFF

/-- The number after this one. After the largest there is none: whoever counts
on from it is brought down by the overflow. -/
def nextRowNumber? (n : Int) : Option Int :=
  if n < maxRowNumber then some (n + 1) else none

theorem nextRowNumber?_eq_some_iff {n m : Int} :
    nextRowNumber? n = some m ↔ n < maxRowNumber ∧ m = n + 1 := by
  unfold nextRowNumber?
  split
  · simp [*, eq_comm]
  · simp [*]

theorem nextRowNumber?_eq_none_iff {n : Int} :
    nextRowNumber? n = none ↔ maxRowNumber ≤ n := by
  unfold nextRowNumber?
  split
  · simp only [reduceCtorEq, false_iff]
    omega
  · simp only [true_iff]
    omega

/-- What the moderators decided on a vehicle. -/
inductive Moderation where
  | pending
  | approved
  | rejected
  deriving DecidableEq, Repr, Inhabited

namespace Moderation

/-- The status as it is written. -/
def name : Moderation → String
  | pending => "pending"
  | approved => "approved"
  | rejected => "rejected"

/-- The status that is written so. -/
def ofName? : String → Option Moderation
  | "pending" => some pending
  | "approved" => some approved
  | "rejected" => some rejected
  | _ => none

@[simp] theorem ofName?_name (m : Moderation) :
    ofName? m.name = some m := by cases m <;> rfl

/-- What is said of a text that is no status. -/
def refusal (s : String) : String :=
  "invalid moderation status: " ++ Text.quoted s

end Moderation

/-- A vehicle. -/
structure Vehicle where
  id : VehicleId
  /-- The identity of the terminal, as a decimal text. -/
  imei : String
  /-- The object number that was last resolved to this vehicle. -/
  oid : Option UInt32
  name : Option String
  provider : ProviderId
  moderation : Moderation
  deriving DecidableEq, Repr

/-- A vehicle that has no number yet. -/
structure NewVehicle where
  imei : String
  oid : Option UInt32
  name : Option String
  provider : ProviderId
  moderation : Moderation
  deriving DecidableEq, Repr

namespace NewVehicle

/-- What is entered for an object number that nothing matched. -/
def placeholder (oid : UInt32) (provider : ProviderId) : NewVehicle where
  imei := toString oid.toNat
  oid := some oid
  name := none
  provider
  moderation := .pending

/-- The vehicle under its number. -/
def toVehicle (v : NewVehicle) (id : VehicleId) : Vehicle where
  id
  imei := v.imei
  oid := v.oid
  name := v.name
  provider := v.provider
  moderation := v.moderation

end NewVehicle

end Telematics
