import Rover.Numeric.Single
import Rover.Wheels

/-!
# Duty cycles, wheel speeds and encoder counts

The measured relation between the duty cycle of a wheel (percent) and its speed (meters a second)
is a line for each wheel, with a common offset and slightly different slopes. An encoder turns with
the motor shaft, ahead of the gearbox.
-/

namespace Rover.Motion
set_option autoImplicit false

/-- Meters a second for each percent of duty cycle. -/
def dutySlope : Wheels Float32 := ⟨0.0033, 0.0034⟩

def dutyOffset : Float32 := 0.0133

def maxDuty : Int16 := 100

def wheelRadius : Float32 := 0.0195

def countsPerShaftTurn : Float32 := 12

def gearRatio : Float32 := 75.81

def pi : Float32 := 3.14159265358979323846264338327950288

def speedOfDuty (side : Side) (duty : Int16) : Float32 :=
  Single.ofInt16 duty * dutySlope.get side + dutyOffset

/-- The duty cycle for a speed, truncated toward zero. -/
def dutyOfSpeed (side : Side) (speed : Float32) : Int16 :=
  Single.toInt16 ((speed - dutyOffset) / dutySlope.get side)

def speedsOfDuty (duty : Int16) : Wheels Float32 :=
  ⟨speedOfDuty .left duty, speedOfDuty .right duty⟩

def distanceOfCounts (counts : Int32) : Float32 :=
  Single.ofInt32 counts * 2 * pi * wheelRadius / (countsPerShaftTurn * gearRatio)

def countsPerMeter : Float32 :=
  countsPerShaftTurn * gearRatio / (2 * pi * wheelRadius)

def clampDuty (duty : Int16) : Int16 :=
  if duty < -maxDuty then -maxDuty else if maxDuty < duty then maxDuty else duty

end Rover.Motion
