import Rover.Signal.Filter
import Rover.Wheels

/-!
# Wheel speed control

A regulator holds what one wheel is to do, and a filter that turns the speed error into a control
value. The gain is kept for reference: the filter coefficients already carry it.
-/

namespace Rover.Motion
open Signal
set_option autoImplicit false

structure Tuning where
  gain : Float32
  numerator : List Float32
  denominator : List Float32
  deriving DecidableEq, Repr

/-- Meters still to go, meters a second, and milliseconds between updates. -/
structure Regulator where
  filter : Filter
  gain : Float32
  position : Float32
  velocity : Float32
  period : Float32
  deriving DecidableEq, Repr

inductive RegulatorFault where
  | period (millis : Float32)
  | coefficients (fault : CoefficientFault)
  deriving DecidableEq, Repr

namespace Regulator

/-- The period is judged before the coefficients; a NaN is no period. -/
def ofTuning (tuning : Tuning) (period : Float32) : Except RegulatorFault Regulator :=
  if period > 0 then
    match Filter.ofCoefficients tuning.numerator tuning.denominator with
    | .error fault => .error (.coefficients fault)
    | .ok filter => .ok ⟨filter, tuning.gain, 0, 0, period⟩
  else .error (.period period)

def update (r : Regulator) (travel dt : Float32) : Regulator :=
  { r with filter := r.filter.push (r.velocity - travel / dt) }

/-- Like `update`, but for speeds without direction. -/
def updateSpeed (r : Regulator) (travel dt : Float32) : Regulator :=
  { r with filter := r.filter.push (r.velocity.abs - travel.abs / dt) }

def last (r : Regulator) : Float32 := r.filter.last

def settle (r : Regulator) (value : Float32) : Regulator := { r with filter := r.filter.settle value }

def shift (r : Regulator) (amount : Float32) : Regulator := { r with filter := r.filter.shift amount }

def atStandstill (r : Regulator) : Regulator := { r with position := 0, velocity := 0 }

end Regulator

end Rover.Motion
