import Rover.Robot.Run

/-!
# What the robot's operations leave alone

Notes and messages change neither the control state nor the board; operations on the motors change
the board alone. A task may change flags of its own and of few other tasks: `Task.touches` lists
them. What a movement depends on is its `MotionPart`, and reports leave all of that alone.
-/

namespace Rover
open Motion Wire
set_option autoImplicit false

namespace Wire.Link

theorem inbox_send (link : Link) (message : Message) : (link.send message).2.inbox = link.inbox := by
  unfold send
  split
  · rfl
  · split <;> rfl

end Wire.Link

namespace Control

variable (c : Control)

@[simp] theorem arm_get (task other : Task) (f : Flag → Flag) :
    (c.arm task f).agenda.get other = if other = task then f (c.agenda.get task) else c.agenda.get other :=
  Agenda.get_modify ..

@[simp] theorem retireMotion_get (task : Task) :
    c.retireMotion.agenda.get task =
      if task ∈ Task.motion then (c.agenda.get task).retire else c.agenda.get task :=
  Agenda.get_retireAll ..

@[simp] theorem stop_get (task : Task) :
    c.stop.agenda.get task =
      if task ∈ Task.motion then (c.agenda.get task).retire else c.agenda.get task :=
  Agenda.get_retireAll ..

@[simp] theorem finish_get (task : Task) :
    c.finish.agenda.get task =
      if task = .distanceControl then (c.agenda.get .distanceControl).retire else c.agenda.get task :=
  Agenda.get_modify ..

@[simp] theorem engage_get (velocity : Wheels Float32) (task : Task) :
    (c.engage velocity).agenda.get task =
      if task = .velocityControl then (c.agenda.get .velocityControl).every c.period
      else c.agenda.get task :=
  Agenda.get_modify ..

@[simp] theorem armStopTimer_get (seconds : Float32) (now : Time) (task : Task) :
    (c.armStopTimer seconds now).agenda.get task =
      if task = .stopTimer then (c.agenda.get .stopTimer).timer (seconds * 1000) now
      else c.agenda.get task :=
  Agenda.get_modify ..

@[simp] theorem start_get (mode : DriveMode) (plan : Plan) (task : Task) :
    (c.start mode plan).agenda.get task =
      if task = controlTask mode then (c.retireMotion.agenda.get (controlTask mode)).every c.period
      else c.retireMotion.agenda.get task :=
  Agenda.get_modify ..

@[simp] theorem startAvoidance_get (task : Task) :
    c.startAvoidance.agenda.get task =
      if task = .avoidance then (c.retireMotion.agenda.get .avoidance).every c.period
      else c.retireMotion.agenda.get task :=
  Agenda.get_modify ..

@[simp] theorem setVelocity_agenda (velocity : Wheels Float32) :
    (c.setVelocity velocity).agenda = c.agenda := rfl

theorem regulate_velocity (strategy : Strategy) (r : Regulator) (travel dt : Float32) :
    (regulate strategy r travel dt).2.velocity = r.velocity := by
  cases strategy <;> rfl

theorem regulate_period (strategy : Strategy) (r : Regulator) (travel dt : Float32) :
    (regulate strategy r travel dt).2.period = r.period := by
  cases strategy <;> rfl

theorem drive_frame (travel : Travel) (direction : Wheels Float32) :
    ∃ wheels : Wheels Regulator, (c.drive travel direction).2 = { c with wheels } ∧
      wheels.map Regulator.velocity = c.wheels.map Regulator.velocity ∧
      wheels.map Regulator.period = c.wheels.map Regulator.period := by
  let left := regulate c.setup.strategy c.wheels.left travel.distance.left travel.dt
  let right := regulate c.setup.strategy c.wheels.right travel.distance.right travel.dt
  refine ⟨⟨left.2, right.2⟩, rfl, ?_, ?_⟩
  · simp [Wheels.map, left, right, regulate_velocity]
  · simp [Wheels.map, left, right, regulate_period]

/-- An update of a drive sets positions and filters of the wheels, and the odometer. -/
theorem distanceStep_frame (sample : Sample) :
    ∃ wheels odometer, (c.distanceStep sample).2 = { c with wheels, odometer } ∧
      wheels.map Regulator.velocity = c.wheels.map Regulator.velocity ∧
      wheels.map Regulator.period = c.wheels.map Regulator.period := by
  unfold distanceStep
  split
  · exact ⟨_, _, rfl, rfl, rfl⟩
  · next travel odometer _ =>
    dsimp only
    split
    · exact ⟨_, _, rfl, rfl, rfl⟩
    · obtain ⟨wheels, frame, velocity, period⟩ := drive_frame ({ c with odometer }.setPosition _) travel _
      exact ⟨wheels, odometer, frame, velocity, period⟩

theorem velocityStep_frame (sample : Sample) :
    ∃ wheels odometer, (c.velocityStep sample).2 = { c with wheels, odometer } ∧
      wheels.map Regulator.velocity = c.wheels.map Regulator.velocity ∧
      wheels.map Regulator.period = c.wheels.map Regulator.period := by
  unfold velocityStep
  split
  · exact ⟨_, _, rfl, rfl, rfl⟩
  · next travel odometer _ =>
    obtain ⟨wheels, frame, velocity, period⟩ := drive_frame { c with odometer } travel _
    exact ⟨wheels, odometer, frame, velocity, period⟩

theorem distanceStep_agenda (sample : Sample) : (c.distanceStep sample).2.agenda = c.agenda := by
  obtain ⟨_, _, frame, _⟩ := c.distanceStep_frame sample
  rw [frame]

theorem velocityStep_agenda (sample : Sample) : (c.velocityStep sample).2.agenda = c.agenda := by
  obtain ⟨_, _, frame, _⟩ := c.velocityStep_frame sample
  rw [frame]

end Control

def Task.touches : Task → List Task
  | .restart => Task.all
  | .batteryTask => [.batteryTask, .lowBattery]
  | .stopTimer => Task.motion
  | .avoidance => [.avoidance, .velocityControl]
  | task => [task]

/-- The tasks that do no more than report. -/
def Task.reports : List Task :=
  [.clockReport, .floatTrip, .loopTimer, .encoderReport, .batteryReport, .statusReport, .proximityReport]

/-- Everything that movements depend on, and that they change: all but strobes, telemetry and link. -/
structure MotionPart where
  board : Board
  setup : Setup
  battery : Battery
  wheels : Wheels Regulator
  odometer : Odometer
  avoidance : Avoidance
  flags : List Flag

namespace Robot

def motionFlags : List Task := [.batteryTask, .lowBattery] ++ Task.motion

def motionPart (r : Robot) : MotionPart where
  board := { r.board with strobes := 0 }
  setup := r.control.setup
  battery := r.control.battery
  wheels := r.control.wheels
  odometer := r.control.odometer
  avoidance := r.control.avoidance
  flags := motionFlags.map r.control.agenda.get

theorem get_eq_of_motionPart {r s : Robot} (h : r.motionPart = s.motionPart) {task : Task}
    (hTask : task ∈ motionFlags) : r.control.agenda.get task = s.control.agenda.get task :=
  List.map_inj_left.mp (congrArg MotionPart.flags h) task hTask

variable (r : Robot)

@[simp] theorem note_control (n : Note) : (r.note n).control = r.control := rfl
@[simp] theorem note_board (n : Note) : (r.note n).board = r.board := rfl
@[simp] theorem note_link (n : Note) : (r.note n).link = r.link := rfl

@[simp] theorem notes_control (ns : List Note) : (r.notes ns).control = r.control := by
  induction ns generalizing r with
  | nil => rfl
  | cons n ns ih => exact ih (r.note n)

@[simp] theorem notes_board (ns : List Note) : (r.notes ns).board = r.board := by
  induction ns generalizing r with
  | nil => rfl
  | cons n ns ih => exact ih (r.note n)

@[simp] theorem notes_link (ns : List Note) : (r.notes ns).link = r.link := by
  induction ns generalizing r with
  | nil => rfl
  | cons n ns ih => exact ih (r.note n)

@[simp] theorem send_control (m : Message) : (r.send m).control = r.control := by simp [send]
@[simp] theorem send_board (m : Message) : (r.send m).board = r.board := by simp [send]
@[simp] theorem send_inbox (m : Message) : (r.send m).link.inbox = r.link.inbox := by
  simp [send, Link.inbox_send]

@[simp] theorem setControl_control (c : Control) : (r.setControl c).control = c := rfl
@[simp] theorem setControl_board (c : Control) : (r.setControl c).board = r.board := rfl

@[simp] theorem arm_control (task : Task) (f : Flag → Flag) :
    (r.arm task f).control = r.control.arm task f := rfl
@[simp] theorem arm_board (task : Task) (f : Flag → Flag) : (r.arm task f).board = r.board := rfl

@[simp] theorem flushInput_control : r.flushInput.control = r.control := by simp [flushInput]
@[simp] theorem flushInput_board : r.flushInput.board = r.board := by simp [flushInput]

@[simp] theorem refuse_control (letter : UInt8) (refusal : Refusal) :
    (r.refuse letter refusal).control = r.control := by
  simp [refuse]
@[simp] theorem refuse_board (letter : UInt8) (refusal : Refusal) :
    (r.refuse letter refusal).board = r.board := by
  simp [refuse]

@[simp] theorem halt_control : r.halt.control = r.control := by simp [halt]
@[simp] theorem halt_board : r.halt.board = r.board.halt := by simp [halt]

@[simp] theorem drive_control (left right : Int16) : (r.drive left right).control = r.control := by
  simp [drive]
@[simp] theorem drive_board (left right : Int16) :
    (r.drive left right).board = r.board.drive left right := by
  simp [drive]

@[simp] theorem stop_control : r.stop.control = r.control.stop := by simp [stop]
@[simp] theorem stop_board : r.stop.board = r.board.halt.setLight .red false := by simp [stop]

@[simp] theorem finishDrive_control : r.finishDrive.control = r.control.finish := rfl
@[simp] theorem finishDrive_board : r.finishDrive.board = r.board.halt := by simp [finishDrive]

@[simp] theorem startDrive_control (mode : DriveMode) (plan : Plan) :
    (r.startDrive mode plan).control = r.control.start mode plan := rfl
@[simp] theorem startDrive_board (mode : DriveMode) (plan : Plan) :
    (r.startDrive mode plan).board = r.board.zeroEncoders := rfl

@[simp] theorem engage_control (velocity : Wheels Float32) :
    (r.engage velocity).control = r.control.engage velocity := rfl

@[simp] theorem complete_control (task : Task) (now : Time) :
    (r.complete task now).control = r.control.arm task (·.complete now) := rfl
@[simp] theorem complete_board (task : Task) (now : Time) : (r.complete task now).board = r.board := rfl

@[simp] theorem retrigger_control (task : Task) (now : Time) :
    (r.retrigger task now).control = r.control.arm task (·.retrigger now) := rfl
@[simp] theorem retrigger_board (task : Task) (now : Time) : (r.retrigger task now).board = r.board := rfl

@[simp] theorem report_control (task : Task) (now : Time) (m : Message) :
    (r.report task now m).control = r.control.arm task (·.complete now) := by
  simp [report]
@[simp] theorem report_board (task : Task) (now : Time) (m : Message) :
    (r.report task now m).board = r.board := by
  simp [report]

@[simp] theorem diagnose_control (m : Message) : (r.diagnose m).control = r.control := by
  unfold diagnose
  split <;> simp
@[simp] theorem diagnose_board (m : Message) : (r.diagnose m).board = r.board := by
  unfold diagnose
  split <;> simp

@[simp] theorem forgetStart_agenda (timing : Timing) :
    (r.forgetStart timing).control.agenda = r.control.agenda := by
  cases timing <;> rfl
@[simp] theorem forgetStart_board (timing : Timing) : (r.forgetStart timing).board = r.board := by
  cases timing <;> rfl

/-- A task that is carried out leaves the flags of most other tasks as they are. -/
theorem perform_get {r : Robot} {task other : Task} (h : other ∉ task.touches) (now : Time) :
    (r.perform task now).control.agenda.get other = r.control.agenda.get other := by
  cases task
  case restart => exact absurd (Task.mem_all other) h
  all_goals simp [Task.touches] at h
  case batteryTask =>
    simp only [perform, sampleBattery]
    split
    · split <;> simp [h]
    · simp [h]
  case floatTrip =>
    simp only [perform, measureTrip]
    split
    · simp
    · split <;> simp [reportSpan, h]
  case loopTimer =>
    simp only [perform, measureLoop]
    split <;> simp [reportSpan, h]
  case distanceControl =>
    simp only [perform, controlDistance]
    split <;> simp [h, Control.distanceStep_agenda]
  case velocityControl =>
    simp only [perform, controlVelocity]
    split <;> simp [h, Control.velocityStep_agenda]
  case avoidance =>
    simp only [perform, avoidObstacles]
    split
    · simp [avoidanceTick, h]
    · split <;> simp [avoidanceTick, h]
  all_goals simp [perform, warnBattery, reportStatus, reportProximity, h]

theorem motionPart_forgetStart (timing : Timing) : (r.forgetStart timing).motionPart = r.motionPart := by
  cases timing <;> rfl

theorem motionPart_send (m : Message) : (r.send m).motionPart = r.motionPart := by
  simp [motionPart]

theorem motionPart_arm {task : Task} (h : task ∉ motionFlags) (f : Flag → Flag) :
    (r.arm task f).motionPart = r.motionPart := by
  have flags : motionFlags.map (r.arm task f).control.agenda.get = motionFlags.map r.control.agenda.get := by
    apply List.map_congr_left
    intro other hOther
    have apart : other ≠ task := fun e => h (e ▸ hOther)
    simp [apart]
  simp only [motionPart, flags]
  rfl

theorem motionPart_report {task : Task} (h : task ∉ motionFlags) (now : Time) (m : Message) :
    (r.report task now m).motionPart = r.motionPart := by
  rw [report, complete, motionPart_arm _ h, motionPart_send]

theorem motionPart_reportSpan {task : Task} (h : task ∉ motionFlags) (timing : Timing) (start now : Time) :
    (r.reportSpan task timing start now).motionPart = r.motionPart := by
  rw [reportSpan, motionPart_send, motionPart_forgetStart, complete, motionPart_arm _ h]

theorem perform_motionPart {r : Robot} {task : Task} (h : task ∈ Task.reports) (now : Time) :
    (r.perform task now).motionPart = r.motionPart := by
  cases task
  case floatTrip =>
    simp only [perform, measureTrip]
    split
    · exact motionPart_send ..
    · split
      · exact motionPart_reportSpan _ (by decide) ..
      · rfl
  case loopTimer =>
    simp only [perform, measureLoop]
    split
    · rfl
    · exact motionPart_reportSpan _ (by decide) ..
  case proximityReport => exact motionPart_report _ (by decide) ..
  case clockReport | encoderReport | batteryReport | statusReport =>
    exact motionPart_report _ (by decide) ..
  all_goals exact absurd h (by decide)

section Handlers

variable (now : Time)

theorem sampleBattery_control : ∃ agenda battery,
    (r.sampleBattery now).control = { r.control with agenda, battery } := by
  unfold sampleBattery
  dsimp only
  split
  · split <;> exact ⟨_, _, rfl⟩
  · exact ⟨_, _, rfl⟩

theorem sampleBattery_board : (r.sampleBattery now).board = r.board := by
  unfold sampleBattery
  dsimp only
  split
  · split <;> rfl
  · rfl

def sampleAt (r : Robot) (now : Time) : Sample := ⟨now, r.board.distances⟩

theorem controlDistance_of_finished (h : (r.control.distanceStep (r.sampleAt now)).1 = .finished) :
    (r.controlDistance now).control = (r.control.distanceStep (r.sampleAt now)).2.finish ∧
      (r.controlDistance now).board = r.board.halt := by
  unfold sampleAt at h
  simp [controlDistance, sampleAt, h]

theorem controlDistance_of_waiting (h : (r.control.distanceStep (r.sampleAt now)).1 = .waiting) :
    (r.controlDistance now).control =
        (r.control.distanceStep (r.sampleAt now)).2.arm .distanceControl (·.retrigger now) ∧
      (r.controlDistance now).board = r.board := by
  unfold sampleAt at h
  simp [controlDistance, sampleAt, h]

theorem controlDistance_of_drive {left right : Int16} {travel : Travel}
    (h : (r.control.distanceStep (r.sampleAt now)).1 = .drive left right travel) :
    (r.controlDistance now).control =
        (r.control.distanceStep (r.sampleAt now)).2.arm .distanceControl (·.retrigger now) ∧
      (r.controlDistance now).board = r.board.drive left right := by
  unfold sampleAt at h
  simp [controlDistance, sampleAt, h]

theorem controlVelocity_control :
    (r.controlVelocity now).control =
      (r.control.velocityStep (r.sampleAt now)).2.arm .velocityControl (·.retrigger now) := by
  unfold controlVelocity sampleAt
  dsimp only
  split <;> simp

theorem controlVelocity_board_of_drive {left right : Int16} {travel : Travel}
    (h : (r.control.velocityStep (r.sampleAt now)).1 = .drive left right travel) :
    (r.controlVelocity now).board = r.board.drive left right := by
  unfold sampleAt at h
  simp [controlVelocity, h]

theorem avoidObstacles_of_none (h : (r.control.avoidance.tick r.board).1 = none) :
    (r.avoidObstacles now).control =
        { r.control with avoidance := (r.control.avoidance.tick r.board).2.1 }.arm .avoidance
          (·.retrigger now) ∧
      (r.avoidObstacles now).board = (r.control.avoidance.tick r.board).2.2 := by
  simp [avoidObstacles, avoidanceTick, h]

theorem avoidObstacles_of_engage {decision : Decision}
    (h : (r.control.avoidance.tick r.board).1 = some decision) (engage : decision.engage = true) :
    (r.avoidObstacles now).control =
        ({ r.control with avoidance := (r.control.avoidance.tick r.board).2.1 }.engage
          decision.velocity).arm .avoidance (·.retrigger now) ∧
      (r.avoidObstacles now).board =
        ((r.control.avoidance.tick r.board).2.2.zeroEncoders).setLight .red true := by
  simp [avoidObstacles, avoidanceTick, h, engage, Robot.engage]

theorem avoidObstacles_of_steer {decision : Decision}
    (h : (r.control.avoidance.tick r.board).1 = some decision) (steer : decision.engage = false) :
    (r.avoidObstacles now).control =
        ({ r.control with avoidance := (r.control.avoidance.tick r.board).2.1 }.setVelocity
          decision.velocity).arm .avoidance (·.retrigger now) ∧
      (r.avoidObstacles now).board = (r.control.avoidance.tick r.board).2.2 := by
  simp [avoidObstacles, avoidanceTick, h, steer]

end Handlers

end Robot

end Rover
