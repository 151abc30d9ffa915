import Telematics.Fleet.Reading
import Telematics.Store.Table

/-!
# The position cache

The last position of each vehicle that was let through. A reading whose
position lies within a tolerance of it says nothing new. Looking and noting
are one step, so that of two readings of one vehicle that arrive together
only one can pass; a reading that is held back leaves the cache as it was.
-/

namespace Telematics

/-- The last position of each vehicle. -/
structure PositionCache where
  /-- In metres; a position no farther away counts as the same. -/
  tolerance : Float
  entries : Table Position

namespace PositionCache

/-- The usual tolerance. -/
def defaultTolerance : Float := 10.0

/-- Nothing is known of any vehicle. -/
def empty (tolerance : Float) : PositionCache := ⟨tolerance, ∅⟩

/-- The last position of a vehicle. -/
def get? (c : PositionCache) (vehicle : VehicleId) : Option Position :=
  c.entries.find? vehicle.val

/-- The vehicle is still where it last was. -/
def holds (c : PositionCache) (vehicle : VehicleId) (p : Position) : Bool :=
  (c.get? vehicle).any fun last => last.within c.tolerance p

/-- **Looks and notes in one step**: whether the vehicle moved, and the cache
afterwards. -/
def check (c : PositionCache) (vehicle : VehicleId) (p : Position) :
    Bool × PositionCache :=
  if c.holds vehicle p then (false, c)
  else (true, { c with entries := c.entries.insert vehicle.val p })

/-- The cache with other contents. -/
def replace (c : PositionCache) (entries : Table Position) : PositionCache :=
  { c with entries }

/-- The number of vehicles that are known. -/
def size (c : PositionCache) : Nat := c.entries.size

end PositionCache

end Telematics
