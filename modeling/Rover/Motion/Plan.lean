import Rover.Motion.Speed

/-!
# Planning a drive

A request names how far or how fast to move and to turn; the plan gives each wheel a distance and a
speed. Positive angles turn left, and the wheel on the side of the turn is the inner one. Below the
straight threshold there is no turn. A turn by distance never runs backwards: short arcs become
spins in place, and the outer wheel of a longer arc is sped up so that both wheels finish together.
-/

namespace Rover.Motion
set_option autoImplicit false

inductive Maneuver where
  | straight
  | spin
  | arc
  deriving DecidableEq, Repr

inductive DriveMode where
  | distance
  | velocity
  deriving DecidableEq, Repr

structure Plan where
  maneuver : Maneuver
  distance : Wheels Float32
  velocity : Wheels Float32
  deriving DecidableEq, Repr

structure Geometry where
  wheelBase : Float32
  halfWheelBase : Float32
  /-- Arcs shorter than this become spins. -/
  minTurnArc : Float32
  /-- Speed of the inner wheel of an arc. -/
  turnVelocity : Float32
  straightThreshold : Float32
  straightVelocity : Wheels Float32
  spinVelocity : Wheels Float32

def Geometry.standard : Geometry where
  wheelBase := 0.098
  halfWheelBase := 0.049
  minTurnArc := 0.04
  turnVelocity := 0.1
  straightThreshold := 0.01
  straightVelocity := speedsOfDuty 75
  spinVelocity := speedsOfDuty 25

def placeTurn (left : Bool) (inner outer : Float32) : Wheels Float32 :=
  if left then ⟨inner, outer⟩ else ⟨outer, inner⟩

def planDistance (geometry : Geometry) (linear angular : Float32) : Plan :=
  if angular.abs < geometry.straightThreshold then
    ⟨.straight, .both linear, geometry.straightVelocity⟩
  else
    let arc := linear.abs
    let turn := angular.abs
    let left : Bool := angular > 0
    if arc < geometry.minTurnArc then
      let d := geometry.halfWheelBase * turn / 2
      ⟨.spin, placeTurn left (-d) d, geometry.spinVelocity⟩
    else
      let radius := arc / turn
      let outer := turn * (radius + geometry.wheelBase)
      let duration := arc / geometry.turnVelocity
      ⟨.arc, placeTurn left arc outer, placeTurn left geometry.turnVelocity (outer / duration)⟩

/-- The inner wheel keeps the requested speed. -/
def planVelocity (geometry : Geometry) (velocity angular : Float32) : Plan :=
  if angular.abs < geometry.straightThreshold then
    ⟨.straight, .both 0, .both velocity⟩
  else
    ⟨.arc, .both 0, placeTurn (angular > 0) velocity (velocity + geometry.wheelBase * angular.abs)⟩

def plan (geometry : Geometry) (mode : DriveMode) (linear angular : Float32) : Plan :=
  match mode with
  | .distance => planDistance geometry linear angular
  | .velocity => planVelocity geometry linear angular

end Rover.Motion
