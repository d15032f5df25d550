import Rover.Proofs.Refusal

/-!
# What the robot sends

Each task and each command sends a few messages that its state determines, and nothing else adds to
what has been sent.
-/

namespace Rover
open Motion Wire
set_option autoImplicit false

namespace Robot

variable (r : Robot)

@[simp] theorem setControl_messages (c : Control) :
    (r.setControl c).journal.messages = r.journal.messages := rfl

@[simp] theorem arm_messages (task : Task) (f : Flag → Flag) :
    (r.arm task f).journal.messages = r.journal.messages := rfl

@[simp] theorem complete_messages (task : Task) (now : Time) :
    (r.complete task now).journal.messages = r.journal.messages := rfl

@[simp] theorem retrigger_messages (task : Task) (now : Time) :
    (r.retrigger task now).journal.messages = r.journal.messages := rfl

@[simp] theorem halt_messages : r.halt.journal.messages = r.journal.messages := by simp [halt]

@[simp] theorem drive_messages (left right : Int16) :
    (r.drive left right).journal.messages = r.journal.messages := by
  simp [drive]

@[simp] theorem stop_messages : r.stop.journal.messages = r.journal.messages := by simp [stop]

@[simp] theorem finishDrive_messages : r.finishDrive.journal.messages = r.journal.messages := by
  simp [finishDrive]

@[simp] theorem startDrive_messages (mode : DriveMode) (plan : Plan) :
    (r.startDrive mode plan).journal.messages = r.journal.messages := by
  simp [startDrive]

@[simp] theorem engage_messages (velocity : Wheels Float32) :
    (r.engage velocity).journal.messages = r.journal.messages := rfl

@[simp] theorem forgetStart_messages (timing : Timing) :
    (r.forgetStart timing).journal.messages = r.journal.messages := by
  cases timing <;> rfl

@[simp] theorem armStopTimer_messages (limit : Option Float32) :
    (r.armStopTimer limit).journal.messages = r.journal.messages := by
  cases limit <;> rfl

@[simp] theorem report_messages (task : Task) (now : Time) (m : Message) :
    (r.report task now m).journal.messages = r.journal.messages ++ [m] := by
  simp [report]

@[simp] theorem reportSpan_messages (task : Task) (timing : Timing) (start now : Time) :
    (r.reportSpan task timing start now).journal.messages =
      r.journal.messages ++ [.time (r.reportTag task 't') timing.toByte (now.since start).toSeconds] := by
  simp [reportSpan]

@[simp] theorem received_messages (letter : UInt8) :
    (r.received letter).journal.messages = r.journal.messages :=
  note_messages ..

@[simp] theorem avoidanceTick_messages : r.avoidanceTick.2.journal.messages = r.journal.messages := by
  simp [avoidanceTick]

/-- A message for diagnosis, as long as such are wanted. -/
def diagnosis (m : Message) : List Message := if r.control.setup.diagnostics then [m] else []

@[simp] theorem diagnose_messages (m : Message) :
    (r.diagnose m).journal.messages = r.journal.messages ++ r.diagnosis m := by
  unfold diagnose diagnosis
  split <;> simp

/-- What carrying out a task sends. -/
def sends (r : Robot) (now : Time) (task : Task) : List Message :=
  match task with
  | .clockReport => [.time (r.reportTag task 't') Timing.clock.toByte now.toSeconds]
  | .floatTrip =>
    match r.control.tripStart with
    | none => [.float 'f'.toUInt8 tripValue]
    | some start =>
      if r.link.pendingOutput.1 = 0 then
        [.time (r.reportTag task 't') Timing.floatTrip.toByte (now.since start).toSeconds]
      else []
  | .loopTimer =>
    match r.control.loopStart with
    | none => []
    | some start => [.time (r.reportTag task 't') Timing.loop.toByte (now.since start).toSeconds]
  | .encoderReport =>
    [.counts (r.reportTag task 'e') (Single.ofInt32 r.board.counts.left) (Single.ofInt32 r.board.counts.right)]
  | .batteryReport => [.float (r.reportTag task 'b') r.control.battery.volts]
  | .lowBattery => [.batteryLow r.control.battery.volts]
  | .statusReport =>
    [.status (r.reportTag task 'q') now.toSeconds r.board.duty.left r.board.duty.right
      r.board.counts.left.toInt16 r.board.counts.right.toInt16]
  | .distanceControl =>
    match (r.control.distanceStep (r.sampleAt now)).1 with
    | .drive left right travel => r.diagnosis (.travel travel.distance.left travel.distance.right left right)
    | _ => []
  | .velocityControl =>
    match (r.control.velocityStep (r.sampleAt now)).1 with
    | .drive left right _ => r.diagnosis (.duties left right)
    | _ => []
  | .proximityReport =>
    [.reflections (r.reportTag task 'i') (r.board.reflections.get .left) (r.board.reflections.get .right)]
  | .restart | .batteryTask | .timedDuty | .stopTimer | .avoidance => []

theorem sampleBattery_messages (now : Time) :
    (r.sampleBattery now).journal.messages = r.journal.messages := by
  simp only [sampleBattery]
  split
  · split <;> simp
  · simp

theorem measureTrip_messages (now : Time) :
    (r.measureTrip now).journal.messages = r.journal.messages ++ r.sends now .floatTrip := by
  unfold measureTrip sends
  cases r.control.tripStart with
  | none => simp
  | some start =>
    dsimp only
    split
    · rw [reportSpan_messages]
      rfl
    · simp

theorem measureLoop_messages (now : Time) :
    (r.measureLoop now).journal.messages = r.journal.messages ++ r.sends now .loopTimer := by
  unfold measureLoop sends
  cases r.control.loopStart <;> simp

theorem controlDistance_messages (now : Time) :
    (r.controlDistance now).journal.messages = r.journal.messages ++ r.sends now .distanceControl := by
  obtain ⟨_, _, frame, _⟩ := r.control.distanceStep_frame (r.sampleAt now)
  have diagnosis (left right : Int16) (m : Message) :
      ((r.setControl (r.control.distanceStep (r.sampleAt now)).2).drive left right).diagnosis m =
        r.diagnosis m := by
    unfold Robot.diagnosis
    rw [drive_control, setControl_control, frame]
  unfold sampleAt at diagnosis
  unfold controlDistance sends sampleAt
  dsimp only
  split <;> simp [*]

theorem controlVelocity_messages (now : Time) :
    (r.controlVelocity now).journal.messages = r.journal.messages ++ r.sends now .velocityControl := by
  obtain ⟨_, _, frame, _⟩ := r.control.velocityStep_frame (r.sampleAt now)
  have diagnosis (left right : Int16) (m : Message) :
      ((r.setControl (r.control.velocityStep (r.sampleAt now)).2).drive left right).diagnosis m =
        r.diagnosis m := by
    unfold Robot.diagnosis
    rw [drive_control, setControl_control, frame]
  unfold sampleAt at diagnosis
  unfold controlVelocity sends sampleAt
  dsimp only
  split <;> simp [*]

theorem avoidObstacles_messages (now : Time) :
    (r.avoidObstacles now).journal.messages = r.journal.messages := by
  have ticked := r.avoidanceTick_messages
  unfold avoidObstacles
  dsimp only
  split
  · simp [ticked]
  · split <;> simp [ticked]

theorem perform_messages (task : Task) (now : Time) :
    (r.perform task now).journal.messages = r.journal.messages ++ r.sends now task := by
  cases task
  case batteryTask => exact (r.sampleBattery_messages now).trans (List.append_nil _).symm
  case floatTrip => exact r.measureTrip_messages now
  case loopTimer => exact r.measureLoop_messages now
  case distanceControl => exact r.controlDistance_messages now
  case velocityControl => exact r.controlVelocity_messages now
  case avoidance => exact (r.avoidObstacles_messages now).trans (List.append_nil _).symm
  case proximityReport => exact report_messages ..
  all_goals simp [perform, sends, restart, warnBattery, reportStatus]

/-- What carrying out a command sends. -/
def answers (r : Robot) (letter : UInt8) : Command → List Message
  | .arithmetic op lhs rhs => [.float letter (op.apply lhs.value rhs.value)]
  | .drive mode linear angular _ =>
    if r.control.setup.diagnostics then
      [.text letter (maneuverText (plan .standard mode linear.value angular.value).maneuver)]
    else []
  | _ => []

theorem comply_messages (letter : UInt8) (command : Command) :
    (r.comply letter command).journal.messages = r.journal.messages ++ r.answers letter command := by
  cases command with
  | restart => simp [comply, answers]
  | arithmetic op lhs rhs => exact send_messages ..
  | time action period =>
    unfold comply answers
    dsimp only
    split <;> simp
  | report stream period => simp [comply, answers]
  | duty left right limit => cases limit <;> simp [comply, answers]
  | stop => simp [comply, answers]
  | drive mode linear angular limit =>
    unfold comply answers
    dsimp only
    split <;> simp
  | avoid limit => simp [comply, answers]

/-- What the dispatcher sends on its turn. -/
inductive Answered (r : Robot) : List Message → Prop where
  | nothing : Answered r []
  | complied {letter : UInt8} {command : Command} : r.link.inbox.Offers letter command →
      Answered r ((r.received letter).answers letter command)
  | refused (letter : UInt8) (refusal : Refusal) : Answered r [refusal.response letter]

theorem poll_answered : ∃ more, r.Answered more ∧ r.poll.journal.messages = r.journal.messages ++ more := by
  obtain empty | ⟨letter, first, unknown⟩ | ⟨letter, first, known, part⟩ | ⟨letter, command, offers⟩ :=
    r.poll_cases
  · refine ⟨[], .nothing, ?_⟩
    rw [poll_of_empty empty]
    exact (List.append_nil _).symm
  · obtain ⟨_, _, messages, _⟩ := poll_of_refuses (.unknown first unknown)
    exact ⟨_, .refused letter .badInput, messages⟩
  · refine ⟨[], .nothing, ?_⟩
    rw [poll_of_part first known part]
    exact (List.append_nil _).symm
  · cases carriedOut : (r.received letter).carryOut letter command with
    | ok s =>
      obtain ⟨_, rfl⟩ := carryOut_eq_ok_iff.mp carriedOut
      have complied := comply_messages (r.received letter) letter command
      rw [received_messages] at complied
      refine ⟨_, .complied offers, ?_⟩
      rw [poll_of_offers offers, carriedOut]
      exact complied
    | error refusal =>
      obtain ⟨_, _, messages, _⟩ := poll_of_refuses (.command offers carriedOut)
      exact ⟨_, .refused letter refusal, messages⟩

end Robot

end Rover
