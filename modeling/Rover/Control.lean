import Rover.Agenda
import Rover.Avoidance
import Rover.Battery
import Rover.Motion.Odometer
import Rover.Settings.Basic

/-!
# Control state

Everything the rover decides by: the agenda, both wheel regulators, the battery filter, the
obstacle machine, the odometer and the time measurements under way. The operations here change that
state alone; what they ask of the board is done by their callers.
-/

namespace Rover
open Motion
set_option autoImplicit false

structure Control where
  setup : Setup
  agenda : Agenda
  wheels : Wheels Regulator
  battery : Battery
  avoidance : Avoidance
  odometer : Odometer
  tripStart : Option Time
  loopStart : Option Time
  deriving DecidableEq

inductive ControlStep where
  | waiting
  | finished
  | drive (left right : Int16) (travel : Travel)
  deriving DecidableEq

namespace Control

/-- In milliseconds, as all periods are. -/
def batteryPeriod : Float32 := 2

def lowBatteryPeriod : Float32 := 1000

def fresh (setup : Setup) (battery : Battery) : Control where
  setup := setup
  agenda := Agenda.empty.modify .batteryTask (·.every batteryPeriod)
  wheels := setup.regulators
  battery := battery
  avoidance := .fresh
  odometer := .reset
  tripStart := none
  loopStart := none

def ofSettings (settings : Settings) : Except SettingsError Control := do
  let setup ← settings.setup
  let battery ← Battery.fresh.mapError fun fault => .regulator (.coefficients fault)
  return fresh setup battery

theorem ofSettings_eq (settings : Settings) : ofSettings settings = settings.setup.map (fresh · .standard) := by
  rw [ofSettings, Battery.fresh_eq]
  rfl

/-- Back to power-on; the battery filter keeps its history. -/
def reset (c : Control) : Control :=
  { c with
    agenda := Agenda.empty.modify .batteryTask (·.every batteryPeriod)
    wheels := c.setup.regulators
    avoidance := .fresh
    odometer := .reset
    tripStart := none
    loopStart := none }

def period (c : Control) : Float32 := c.wheels.left.period

def arm (c : Control) (task : Task) (f : Flag → Flag) : Control :=
  { c with agenda := c.agenda.modify task f }

def setVelocity (c : Control) (velocity : Wheels Float32) : Control :=
  { c with
    wheels :=
      ⟨{ c.wheels.left with velocity := velocity.left }, { c.wheels.right with velocity := velocity.right }⟩ }

def setPosition (c : Control) (position : Wheels Float32) : Control :=
  { c with
    wheels :=
      ⟨{ c.wheels.left with position := position.left }, { c.wheels.right with position := position.right }⟩ }

def resetOdometer (c : Control) : Control := { c with odometer := .reset }

def retireMotion (c : Control) : Control := { c with agenda := c.agenda.retireAll Task.motion }

def standStill (c : Control) : Control := { c with wheels := c.wheels.map Regulator.atStandstill }

def stop (c : Control) : Control := c.standStill.retireMotion.resetOdometer

/-- A distance has been covered; other tasks go on. -/
def finish (c : Control) : Control := (c.standStill.resetOdometer).arm .distanceControl .retire

def controlTask : DriveMode → Task
  | .distance => .distanceControl
  | .velocity => .velocityControl

def start (c : Control) (mode : DriveMode) (plan : Plan) : Control :=
  let c := ((c.retireMotion.setPosition plan.distance).setVelocity plan.velocity).resetOdometer
  c.arm (controlTask mode) (·.every c.period)

def engage (c : Control) (velocity : Wheels Float32) : Control :=
  let c := (c.setVelocity velocity).resetOdometer
  c.arm .velocityControl (·.every c.period)

def armStopTimer (c : Control) (seconds : Float32) (now : Time) : Control :=
  c.arm .stopTimer (·.timer (seconds * 1000) now)

def startAvoidance (c : Control) : Control :=
  { c.retireMotion with avoidance := .fresh }.arm .avoidance (·.every c.period)

/-- Has the travel covered the target, in the direction of the target? -/
def reached (travel target : Float32) : Bool :=
  if target > 0 then travel ≥ target else travel ≤ target

def directed (duty : Int16) (direction : Float32) : Int16 :=
  if direction > 0 then duty else -duty

def unsignedDuty (side : Side) (speed : Float32) : Int16 :=
  let duty := dutyOfSpeed side speed
  if duty < 0 then 0 else duty

def regulate (strategy : Strategy) (r : Regulator) (travel dt : Float32) : Float32 × Regulator :=
  match strategy with
  | .closedLoop =>
    let r := r.updateSpeed travel dt
    (r.last, r)
  | .directMapping => (r.velocity.abs, r)

def drive (c : Control) (travel : Travel) (direction : Wheels Float32) : ControlStep × Control :=
  let (left, leftWheel) := regulate c.setup.strategy c.wheels.left travel.distance.left travel.dt
  let (right, rightWheel) := regulate c.setup.strategy c.wheels.right travel.distance.right travel.dt
  (.drive (directed (unsignedDuty .left left) direction.left)
      (directed (unsignedDuty .right right) direction.right) travel,
    { c with wheels := ⟨leftWheel, rightWheel⟩ })

def distanceStep (c : Control) (sample : Sample) : ControlStep × Control :=
  match c.odometer.advance sample with
  | (none, odometer) => (.waiting, { c with odometer })
  | (some travel, odometer) =>
    let c := { c with odometer }
    let target : Wheels Float32 := c.wheels.map Regulator.position
    if reached travel.distance.left target.left || reached travel.distance.right target.right then
      (.finished, c)
    else
      let remaining : Wheels Float32 :=
        ⟨target.left - travel.distance.left, target.right - travel.distance.right⟩
      (c.setPosition remaining).drive travel remaining

def velocityStep (c : Control) (sample : Sample) : ControlStep × Control :=
  match c.odometer.advance sample with
  | (none, odometer) => (.waiting, { c with odometer })
  | (some travel, odometer) => { c with odometer }.drive travel (c.wheels.map Regulator.velocity)

end Control

end Rover
