import Rover.Robot.Dispatch

/-!
# The loop

One pass of the loop serves the board and the link, gives the dispatcher a turn, and then walks all
tasks in a fixed order, carrying out those that are due. A pass over a failed link does nothing more
than serve the board.
-/

namespace Rover
open Motion Wire
set_option autoImplicit false

namespace Robot

def taskOrder : List Task :=
  [.restart, .batteryTask, .clockReport, .floatTrip, .loopTimer, .encoderReport, .batteryReport, .lowBattery,
    .timedDuty, .statusReport, .distanceControl, .velocityControl, .stopTimer, .proximityReport, .avoidance]

/-- Lower case for a single report, upper case for a periodic one. -/
def reportTag (r : Robot) (task : Task) (letter : Char) : UInt8 :=
  if (r.control.agenda.get task).isOneShot then letter.toUInt8 else letter.toUpper.toUInt8

def complete (r : Robot) (task : Task) (now : Time) : Robot := r.arm task (·.complete now)

def retrigger (r : Robot) (task : Task) (now : Time) : Robot := r.arm task (·.retrigger now)

def report (r : Robot) (task : Task) (now : Time) (message : Message) : Robot :=
  (r.send message).complete task now

def restart (r : Robot) : Robot :=
  let r := (r.note .restarting).stop
  { r with control := r.control.reset, dispatch := .idle }

def sampleBattery (r : Robot) (now : Time) : Robot :=
  let battery := r.control.battery.sample r.board.battery
  let r := r.setControl { r.control with battery }
  let r :=
    if battery.isLow then
      if r.control.agenda.isActive .lowBattery then r
      else (r.note (.warningArmed battery.volts)).arm .lowBattery (·.every Control.lowBatteryPeriod)
    else r.arm .lowBattery .retire
  r.complete .batteryTask now

def tripValue : Float32 := 12.345

def reportSpan (r : Robot) (task : Task) (timing : Timing) (start now : Time) : Robot :=
  let message := Message.time (r.reportTag task 't') timing.toByte (now.since start).toSeconds
  ((r.complete task now).forgetStart timing).send message

/-- First sends a float, and once the link has drained it reports how long that took. -/
def measureTrip (r : Robot) (now : Time) : Robot :=
  match r.control.tripStart with
  | none => (r.setControl { r.control with tripStart := some now }).send (.float 'f'.toUInt8 tripValue)
  | some start =>
    let (pending, link) := r.link.pendingOutput
    let r := { r with link }
    if pending = 0 then r.reportSpan .floatTrip .floatTrip start now else r

def measureLoop (r : Robot) (now : Time) : Robot :=
  match r.control.loopStart with
  | none => r.setControl { r.control with loopStart := some now }
  | some start => r.reportSpan .loopTimer .loop start now

def warnBattery (r : Robot) (now : Time) : Robot :=
  let volts := r.control.battery.volts
  ((r.note (.batteryLow volts)).send (.batteryLow volts)).complete .lowBattery now

def reportStatus (r : Robot) (now : Time) : Robot :=
  r.report .statusReport now <|
    .status (r.reportTag .statusReport 'q') now.toSeconds r.board.duty.left r.board.duty.right
      r.board.counts.left.toInt16 r.board.counts.right.toInt16

def diagnose (r : Robot) (message : Message) : Robot :=
  if r.control.setup.diagnostics then r.send message else r

def controlDistance (r : Robot) (now : Time) : Robot :=
  let (step, control) := r.control.distanceStep ⟨now, r.board.distances⟩
  let r := r.setControl control
  match step with
  | .finished => (r.note .targetReached).finishDrive
  | .waiting => r.retrigger .distanceControl now
  | .drive left right travel =>
    ((r.drive left right).diagnose
      (.travel travel.distance.left travel.distance.right left right)).retrigger .distanceControl now

def controlVelocity (r : Robot) (now : Time) : Robot :=
  let (step, control) := r.control.velocityStep ⟨now, r.board.distances⟩
  let r := r.setControl control
  match step with
  | .drive left right _ =>
    ((r.drive left right).diagnose (.duties left right)).retrigger .velocityControl now
  | _ => r.retrigger .velocityControl now

def reportProximity (r : Robot) (now : Time) : Robot :=
  let (left, board) := r.board.strobe .left
  let (right, board) := board.strobe .right
  { r with board }.report .proximityReport now (.reflections (r.reportTag .proximityReport 'i') left right)

def avoidObstacles (r : Robot) (now : Time) : Robot :=
  let (decision, r) := r.avoidanceTick
  let r :=
    match decision with
    | none => r
    | some decision =>
      if decision.engage then
        let r := r.engage decision.velocity
        { r with board := r.board.setLight .red true }
      else r.setControl (r.control.setVelocity decision.velocity)
  r.retrigger .avoidance now

def perform (r : Robot) (task : Task) (now : Time) : Robot :=
  match task with
  | .restart => r.restart
  | .batteryTask => r.sampleBattery now
  | .clockReport => r.report task now (.time (r.reportTag task 't') Timing.clock.toByte now.toSeconds)
  | .floatTrip => r.measureTrip now
  | .loopTimer => r.measureLoop now
  | .encoderReport =>
    r.report task now <|
      .counts (r.reportTag task 'e') (Single.ofInt32 r.board.counts.left) (Single.ofInt32 r.board.counts.right)
  | .batteryReport => r.report task now (.float (r.reportTag task 'b') r.control.battery.volts)
  | .lowBattery => r.warnBattery now
  | .timedDuty => ((r.note .dutyExpired).halt).arm .timedDuty .retire
  | .statusReport => r.reportStatus now
  | .distanceControl => r.controlDistance now
  | .velocityControl => r.controlVelocity now
  | .stopTimer => (r.note .stopExpired).stop
  | .proximityReport => r.reportProximity now
  | .avoidance => r.avoidObstacles now

def performDue (now : Time) (r : Robot) (task : Task) : Robot :=
  if r.control.agenda.due task now then r.perform task now else r

def sweep (r : Robot) : Robot := taskOrder.foldl (performDue r.board.clock) r

def tick (r : Robot) : Option LinkError × Robot :=
  let r := { r with board := r.board.service }
  match r.link.upkeep with
  | (some error, link) => (some error, { r with link })
  | (none, link) => (none, ({ r with link }).poll.sweep)

/-- A failed link leaves nobody to send a stop, so the robot stops by itself. -/
def tickOrHalt (r : Robot) : Option LinkError × Robot :=
  match r.tick with
  | (some error, r) => (some error, (r.note (.linkFailed error)).stop)
  | (none, r) => (none, r)

end Robot

end Rover
