import Rover.Time
import Rover.Wheels

/-!
# Travel between control updates

The odometer remembers when it was last read and how far the wheels had come. Its first reading
after a reset only records the starting point, and a reading at which no time has passed is skipped.
-/

namespace Rover.Motion
set_option autoImplicit false

structure Sample where
  time : Time
  distance : Wheels Float32
  deriving DecidableEq, Repr

/-- Meters and seconds between two samples. -/
structure Travel where
  distance : Wheels Float32
  dt : Float32
  deriving DecidableEq, Repr

structure Odometer where
  last : Option Sample
  deriving DecidableEq, Repr

namespace Odometer

def reset : Odometer := ⟨none⟩

def advance (odometer : Odometer) (sample : Sample) : Option Travel × Odometer :=
  match odometer.last with
  | none => (none, ⟨some sample⟩)
  | some start =>
    let dt := (sample.time.since start.time).toSeconds
    if dt ≤ 0 then (none, odometer)
    else
      (some ⟨⟨sample.distance.left - start.distance.left, sample.distance.right - start.distance.right⟩, dt⟩,
        ⟨some sample⟩)

end Odometer

end Rover.Motion
