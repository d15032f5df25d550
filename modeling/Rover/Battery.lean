import Rover.Signal.Filter

/-!
# Battery voltage

The voltage is low-pass filtered. The motors run from 4.75 volts on; from 3 volts on the rover is
powered, and below that it lives on the host's supply. A NaN counts as off and warns of nothing.
-/

namespace Rover
open Signal
set_option autoImplicit false

inductive Power where
  | ok
  | low
  | off
  deriving DecidableEq, Repr

def motorVoltage : Float32 := 4.75

def offVoltage : Float32 := 3

def Power.ofVolts (volts : Float32) : Power :=
  if volts ≥ motorVoltage then .ok else if volts ≥ offVoltage then .low else .off

structure Battery where
  filter : Filter
  deriving DecidableEq, Repr

namespace Battery

def numerator : List Float32 := [0.03046, 0.03046]

def denominator : List Float32 := [1, -0.93908]

def fresh : Except CoefficientFault Battery := (Filter.ofCoefficients numerator denominator).map mk

def standard : Battery := ⟨Filter.atRest numerator denominator⟩

theorem fresh_eq : fresh = .ok standard := by
  have accepted : Filter.fault? numerator denominator = none := by decide +kernel
  rw [fresh, Filter.ofCoefficients, accepted]
  rfl

def sample (battery : Battery) (volts : Float32) : Battery := ⟨battery.filter.push volts⟩

def settle (battery : Battery) (volts : Float32) : Battery := ⟨battery.filter.settle volts⟩

def volts (battery : Battery) : Float32 := battery.filter.last

def power (battery : Battery) : Power := .ofVolts battery.volts

def isLow (battery : Battery) : Bool := battery.volts > offVoltage && battery.volts < motorVoltage

end Battery

end Rover
