import Rover.Proofs.Orders

/-!
# What happened before is only written down

The journal is added to and never read, so a robot with a longer past does the same as one without
it. Rebuilt around a journal with a past, a robot is the rebuilt robot with that past: this one
equation, read from left to right, moves the past out of every operation.
-/

namespace Rover
open Motion Wire
set_option autoImplicit false

namespace Robot

/-- The robot, had all of this happened before. -/
def withPast (past : Journal) (r : Robot) : Robot := { r with journal := past ++ r.journal }

section Past

variable (past : Journal) (r : Robot)

@[simp] theorem withPast_board : (r.withPast past).board = r.board := rfl
@[simp] theorem withPast_link : (r.withPast past).link = r.link := rfl
@[simp] theorem withPast_control : (r.withPast past).control = r.control := rfl
@[simp] theorem withPast_dispatch : (r.withPast past).dispatch = r.dispatch := rfl
@[simp] theorem withPast_journal : (r.withPast past).journal = past ++ r.journal := rfl

@[simp] theorem mk_withPast (board : Board) (link : Link) (control : Control) (dispatch : Dispatch)
    (journal : Journal) :
    Robot.mk board link control dispatch (past ++ journal) =
      (Robot.mk board link control dispatch journal).withPast past := rfl

@[simp] theorem note_withPast (n : Note) : (r.withPast past).note n = (r.note n).withPast past := by
  simp [note]

@[simp] theorem notes_withPast (ns : List Note) : (r.withPast past).notes ns = (r.notes ns).withPast past := by
  induction ns generalizing r with
  | nil => rfl
  | cons n ns ih =>
    have step := ih (r.note n)
    rw [← note_withPast] at step
    exact step

@[simp] theorem send_withPast (message : Message) :
    (r.withPast past).send message = (r.send message).withPast past := by
  simp [send]

@[simp] theorem halt_withPast : (r.withPast past).halt = r.halt.withPast past := by simp [halt]

@[simp] theorem drive_withPast (left right : Int16) :
    (r.withPast past).drive left right = (r.drive left right).withPast past := by
  simp [drive]

@[simp] theorem setControl_withPast (control : Control) :
    (r.withPast past).setControl control = (r.setControl control).withPast past := rfl

@[simp] theorem arm_withPast (task : Task) (f : Flag → Flag) :
    (r.withPast past).arm task f = (r.arm task f).withPast past := rfl

@[simp] theorem stop_withPast : (r.withPast past).stop = r.stop.withPast past := by simp [stop]

@[simp] theorem finishDrive_withPast : (r.withPast past).finishDrive = r.finishDrive.withPast past := by
  simp [finishDrive]

@[simp] theorem startDrive_withPast (mode : DriveMode) (plan : Plan) :
    (r.withPast past).startDrive mode plan = (r.startDrive mode plan).withPast past := by
  simp [startDrive]

@[simp] theorem engage_withPast (velocity : Wheels Float32) :
    (r.withPast past).engage velocity = (r.engage velocity).withPast past := rfl

@[simp] theorem diagnose_withPast (m : Message) :
    (r.withPast past).diagnose m = (r.diagnose m).withPast past := by
  unfold diagnose
  split <;> simp_all

@[simp] theorem complete_withPast (task : Task) (now : Time) :
    (r.withPast past).complete task now = (r.complete task now).withPast past := rfl

@[simp] theorem retrigger_withPast (task : Task) (now : Time) :
    (r.withPast past).retrigger task now = (r.retrigger task now).withPast past := rfl

@[simp] theorem reportTag_withPast (task : Task) (letter : Char) :
    (r.withPast past).reportTag task letter = r.reportTag task letter := rfl

@[simp] theorem report_withPast (task : Task) (now : Time) (m : Message) :
    (r.withPast past).report task now m = (r.report task now m).withPast past := by
  simp [report]

@[simp] theorem forgetStart_withPast (timing : Timing) :
    (r.withPast past).forgetStart timing = (r.forgetStart timing).withPast past := by
  cases timing <;> rfl

@[simp] theorem reportSpan_withPast (task : Task) (timing : Timing) (start now : Time) :
    (r.withPast past).reportSpan task timing start now =
      (r.reportSpan task timing start now).withPast past := by
  simp [reportSpan]

theorem restart_withPast : (r.withPast past).restart = r.restart.withPast past := by
  simp [restart]

theorem sampleBattery_withPast (now : Time) :
    (r.withPast past).sampleBattery now = (r.sampleBattery now).withPast past := by
  by_cases low : (r.control.battery.sample r.board.battery).isLow = true
  · by_cases warned : r.control.agenda.isActive .lowBattery = true <;> simp [sampleBattery, low, warned]
  · simp [sampleBattery, low]

theorem measureTrip_withPast (now : Time) :
    (r.withPast past).measureTrip now = (r.measureTrip now).withPast past := by
  cases hStart : r.control.tripStart with
  | none => simp [measureTrip, hStart]
  | some start =>
    by_cases drained : r.link.pendingOutput.1 = 0 <;> simp [measureTrip, hStart, drained]

theorem measureLoop_withPast (now : Time) :
    (r.withPast past).measureLoop now = (r.measureLoop now).withPast past := by
  simp only [measureLoop, withPast_control]
  split <;> simp

theorem controlDistance_withPast (now : Time) :
    (r.withPast past).controlDistance now = (r.controlDistance now).withPast past := by
  simp only [controlDistance, withPast_control, withPast_board]
  split <;> simp

theorem controlVelocity_withPast (now : Time) :
    (r.withPast past).controlVelocity now = (r.controlVelocity now).withPast past := by
  simp only [controlVelocity, withPast_control, withPast_board]
  split <;> simp

@[simp] theorem avoidanceTick_withPast :
    (r.withPast past).avoidanceTick = (r.avoidanceTick.1, r.avoidanceTick.2.withPast past) := by
  simp [avoidanceTick]

theorem avoidObstacles_withPast (now : Time) :
    (r.withPast past).avoidObstacles now = (r.avoidObstacles now).withPast past := by
  simp only [avoidObstacles, avoidanceTick_withPast]
  split
  · simp
  · split <;> simp

@[simp] theorem perform_withPast (task : Task) (now : Time) :
    (r.withPast past).perform task now = (r.perform task now).withPast past := by
  cases task
  case restart => exact restart_withPast past r
  case batteryTask => exact sampleBattery_withPast past r now
  case floatTrip => exact measureTrip_withPast past r now
  case loopTimer => exact measureLoop_withPast past r now
  case distanceControl => exact controlDistance_withPast past r now
  case velocityControl => exact controlVelocity_withPast past r now
  case avoidance => exact avoidObstacles_withPast past r now
  all_goals simp [perform, warnBattery, reportStatus, reportProximity]

theorem performDue_withPast (task : Task) (now : Time) :
    performDue now (r.withPast past) task = (performDue now r task).withPast past := by
  unfold performDue
  rw [withPast_control]
  split <;> simp

theorem foldl_performDue_withPast (tasks : List Task) (now : Time) :
    tasks.foldl (performDue now) (r.withPast past) = (tasks.foldl (performDue now) r).withPast past := by
  induction tasks generalizing r with
  | nil => rfl
  | cons task tasks ih => rw [List.foldl_cons, performDue_withPast, ih, List.foldl_cons]

theorem sweep_withPast : (r.withPast past).sweep = r.sweep.withPast past :=
  foldl_performDue_withPast past r taskOrder r.board.clock

@[simp] theorem armStopTimer_withPast (limit : Option Float32) :
    (r.withPast past).armStopTimer limit = (r.armStopTimer limit).withPast past := by
  cases limit <;> rfl

theorem comply_withPast (letter : UInt8) (command : Command) :
    (r.withPast past).comply letter command = (r.comply letter command).withPast past := by
  cases command with
  | time action period =>
    simp only [comply]
    split <;> simp
  | duty left right limit => cases limit <;> simp [comply]
  | drive mode linear angular limit =>
    cases diagnostics : r.control.setup.diagnostics <;> simp [comply, diagnostics]
  | _ => simp [comply]

@[simp] theorem refuse_withPast (letter : UInt8) (refusal : Refusal) :
    (r.withPast past).refuse letter refusal = (r.refuse letter refusal).withPast past := by
  simp [refuse]

@[simp] theorem obey_withPast (letter : UInt8) (frame : Bytes) :
    (r.withPast past).obey letter frame = (r.obey letter frame).withPast past := by
  unfold obey
  split
  · simp
  · next command _ =>
    simp only [carryOut_eq, withPast_control]
    cases command.refusal? r.control.battery.volts with
    | some refusal => simp
    | none => exact comply_withPast past r letter command

@[simp] theorem flushInput_withPast : (r.withPast past).flushInput = r.flushInput.withPast past := by
  simp [flushInput]

theorem poll_withPast : (r.withPast past).poll = r.poll.withPast past := by
  cases first : r.link.inbox.peek? with
  | none => simp [poll, first]
  | some letter =>
    by_cases known : frameLength letter = 0
    · simp [poll, first, known]
    · by_cases part : r.link.inbox.size < frameLength letter <;> simp [poll, first, known, part]

theorem pass_withPast (s : Surroundings) : (r.withPast past).pass s = (r.pass s).withPast past := by
  simp only [pass, tick, meet, withPast_board, withPast_link]
  split
  · rfl
  · simp [poll_withPast, sweep_withPast]

theorem passAll_withPast (run : List Surroundings) :
    (r.withPast past).passAll run = (r.passAll run).withPast past := by
  induction run generalizing r with
  | nil => rfl
  | cons s run ih => exact (congrArg (Robot.passAll · run) (pass_withPast past r s)).trans (ih (r.pass s))

end Past
end Robot
end Rover
