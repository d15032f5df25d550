import Rover.Proofs.Motors
import Rover.Proofs.Refusal
import Rover.Proofs.Restart

/-!
# Telemetry does not disturb motion

Two robots with one motion part may differ in what they report, in what they measure and in what
they have sent. In one world they keep one motion part: whatever moves the wheels or ends a movement
depends on the motion part alone, and whatever reports leaves it as it is. So a host that asks for
telemetry sees the same movements as one that does not.
-/

namespace Rover
open Motion Wire
set_option autoImplicit false

namespace Board

def unstrobed (board : Board) : Board := { board with strobes := 0 }

theorem unstrobed_service (board : Board) : board.service.unstrobed = board.unstrobed.service := by
  unfold service
  dsimp only
  have dt : (board.unstrobed.clock.since board.unstrobed.lastService).toSeconds =
      (board.clock.since board.lastService).toSeconds := rfl
  rw [dt]
  split <;> rfl

end Board

/-- What the tasks find on the board and around it is the same, whatever arrives over the link. -/
structure Surroundings.SameWorld (s t : Surroundings) : Prop where
  clock : s.clock = t.clock
  battery : s.battery = t.battery
  reflections : s.reflections = t.reflections
  counted : s.counted = t.counted

theorem Board.meet_unstrobed {board other : Board} {s t : Surroundings} (world : s.SameWorld t)
    (h : board.unstrobed = other.unstrobed) : (board.meet s).unstrobed = (other.meet t).unstrobed := by
  have meets : (board.meet s).unstrobed = board.unstrobed.meet t := by
    unfold Board.meet
    rw [world.clock, world.battery, world.reflections, world.counted]
    rfl
  rw [meets, h]
  rfl

namespace Control

structure SameMotion (c d : Control) : Prop where
  setup : c.setup = d.setup
  battery : c.battery = d.battery
  wheels : c.wheels = d.wheels
  odometer : c.odometer = d.odometer
  avoidance : c.avoidance = d.avoidance
  flags : ∀ task ∈ Robot.motionFlags, c.agenda.get task = d.agenda.get task

namespace SameMotion

variable {c d : Control} (h : c.SameMotion d)
include h

theorem period : c.period = d.period := by
  rw [Control.period, h.wheels, Control.period]

theorem isActive {task : Task} (hTask : task ∈ Robot.motionFlags) :
    c.agenda.isActive task = d.agenda.isActive task :=
  congrArg Flag.active (h.flags task hTask)

theorem due {task : Task} (hTask : task ∈ Robot.motionFlags) (now : Time) :
    c.agenda.due task now = d.agenda.due task now :=
  congrArg (Flag.due · now) (h.flags task hTask)

theorem arm (task : Task) (f : Flag → Flag) : (c.arm task f).SameMotion (d.arm task f) where
  __ := h
  flags := by
    intro other hOther
    rw [arm_get, arm_get]
    split
    · next same => rw [h.flags task (same ▸ hOther)]
    · exact h.flags other hOther

theorem retireMotion : c.retireMotion.SameMotion d.retireMotion where
  __ := h
  flags := by
    intro task hTask
    rw [retireMotion_get, retireMotion_get, h.flags task hTask]

theorem setBattery (battery : Battery) : SameMotion { c with battery } { d with battery } where
  __ := h
  battery := rfl

theorem setAvoidance (avoidance : Avoidance) : SameMotion { c with avoidance } { d with avoidance } where
  __ := h
  avoidance := rfl

theorem setVelocity (velocity : Wheels Float32) :
    (c.setVelocity velocity).SameMotion (d.setVelocity velocity) where
  __ := h
  wheels := by
    rw [Control.setVelocity, h.wheels]
    rfl

theorem setPosition (position : Wheels Float32) :
    (c.setPosition position).SameMotion (d.setPosition position) where
  __ := h
  wheels := by
    rw [Control.setPosition, h.wheels]
    rfl

theorem resetOdometer : c.resetOdometer.SameMotion d.resetOdometer where
  __ := h
  odometer := rfl

theorem standStill : c.standStill.SameMotion d.standStill where
  __ := h
  wheels := congrArg (Wheels.map Regulator.atStandstill) h.wheels

theorem stop : c.stop.SameMotion d.stop := h.standStill.retireMotion.resetOdometer

theorem finish : c.finish.SameMotion d.finish := h.standStill.resetOdometer.arm _ _

theorem engage (velocity : Wheels Float32) : (c.engage velocity).SameMotion (d.engage velocity) := by
  unfold Control.engage
  dsimp only
  rw [(h.setVelocity velocity).resetOdometer.period]
  exact (h.setVelocity velocity).resetOdometer.arm _ _

theorem start (mode : DriveMode) (plan : Plan) : (c.start mode plan).SameMotion (d.start mode plan) := by
  have loaded := ((h.retireMotion.setPosition plan.distance).setVelocity plan.velocity).resetOdometer
  unfold Control.start
  dsimp only
  rw [loaded.period]
  exact loaded.arm _ _

theorem startAvoidance : c.startAvoidance.SameMotion d.startAvoidance := by
  unfold Control.startAvoidance
  rw [h.period]
  exact (h.retireMotion.setAvoidance _).arm _ _

theorem setOdometer (odometer : Odometer) : SameMotion { c with odometer } { d with odometer } where
  __ := h
  odometer := rfl

theorem drive (travel : Travel) (direction : Wheels Float32) :
    (c.drive travel direction).1 = (d.drive travel direction).1 ∧
      (c.drive travel direction).2.SameMotion (d.drive travel direction).2 := by
  obtain ⟨setup, _, wheels, _, _, _, _, _⟩ := c
  obtain ⟨rfl, battery, rfl, odometer, avoidance, flags⟩ := h
  exact ⟨rfl, rfl, battery, rfl, odometer, avoidance, flags⟩

theorem distanceStep (sample : Sample) :
    (c.distanceStep sample).1 = (d.distanceStep sample).1 ∧
      (c.distanceStep sample).2.SameMotion (d.distanceStep sample).2 := by
  unfold Control.distanceStep
  rw [h.odometer]
  cases d.odometer.advance sample with | mk travel? odometer
  have updated := h.setOdometer odometer
  cases travel? with
  | none => exact ⟨rfl, updated⟩
  | some travel =>
    dsimp only
    rw [congrArg (Wheels.map Regulator.position) h.wheels]
    split
    · exact ⟨rfl, updated⟩
    · exact (updated.setPosition _).drive travel _

theorem velocityStep (sample : Sample) :
    (c.velocityStep sample).1 = (d.velocityStep sample).1 ∧
      (c.velocityStep sample).2.SameMotion (d.velocityStep sample).2 := by
  unfold Control.velocityStep
  rw [h.odometer]
  cases d.odometer.advance sample with | mk travel? odometer
  cases travel? with
  | none => exact ⟨rfl, h.setOdometer odometer⟩
  | some travel =>
    dsimp only
    rw [congrArg (Wheels.map Regulator.velocity) h.wheels]
    exact (h.setOdometer odometer).drive travel _

end SameMotion

end Control

namespace Robot

theorem motionPart_eq_iff {r t : Robot} :
    r.motionPart = t.motionPart ↔
      r.board.unstrobed = t.board.unstrobed ∧ r.control.SameMotion t.control := by
  constructor
  · intro h
    exact ⟨congrArg MotionPart.board h,
      { setup := congrArg MotionPart.setup h
        battery := congrArg MotionPart.battery h
        wheels := congrArg MotionPart.wheels h
        odometer := congrArg MotionPart.odometer h
        avoidance := congrArg MotionPart.avoidance h
        flags := fun _ => get_eq_of_motionPart h }⟩
  · rintro ⟨board, setup, battery, wheels, odometer, avoidance, flags⟩
    have flags : motionFlags.map r.control.agenda.get = motionFlags.map t.control.agenda.get :=
      List.map_congr_left flags
    unfold motionPart
    rw [setup, battery, wheels, odometer, avoidance, flags]
    exact congrArg (MotionPart.mk · _ _ _ _ _ _) board

section Tasks

variable {r t : Robot} (now : Time)

theorem sampleBattery_same (h : r.control.SameMotion t.control) (battery : r.board.battery = t.board.battery) :
    (r.sampleBattery now).control.SameMotion (t.sampleBattery now).control := by
  have sampled := h.setBattery (t.control.battery.sample t.board.battery)
  have active : r.control.agenda.isActive .lowBattery = t.control.agenda.isActive .lowBattery :=
    h.isActive (by decide)
  unfold sampleBattery
  rw [h.battery, battery]
  dsimp only [setControl]
  split
  · rw [active]
    split
    · exact sampled.arm _ _
    · exact (sampled.arm _ _).arm _ _
  · exact (sampled.arm _ _).arm _ _

theorem sampleAt_same (board : r.board.unstrobed = t.board.unstrobed) : r.sampleAt now = t.sampleAt now := by
  have distances : r.board.unstrobed.distances = t.board.unstrobed.distances := congrArg Board.distances board
  exact congrArg (Sample.mk now) distances

theorem controlDistance_control :
    (r.controlDistance now).control =
      if (r.control.distanceStep (r.sampleAt now)).1 = .finished then
        (r.control.distanceStep (r.sampleAt now)).2.finish
      else (r.control.distanceStep (r.sampleAt now)).2.arm .distanceControl (·.retrigger now) := by
  cases hStep : (r.control.distanceStep (r.sampleAt now)).1 with
  | finished => exact (r.controlDistance_of_finished now hStep).1
  | waiting => exact (r.controlDistance_of_waiting now hStep).1
  | drive left right travel => exact (r.controlDistance_of_drive now hStep).1

theorem follow_same {board other : Board} (h : board.unstrobed = other.unstrobed) (step : ControlStep) :
    (board.follow step).unstrobed = (other.follow step).unstrobed := by
  cases step with
  | waiting => exact h
  | finished => exact congrArg Board.halt h
  | drive left right travel => exact congrArg (Board.drive · left right) h

theorem controlDistance_same (h : r.motionPart = t.motionPart) :
    (r.controlDistance now).motionPart = (t.controlDistance now).motionPart := by
  obtain ⟨board, control⟩ := motionPart_eq_iff.mp h
  obtain ⟨step, after⟩ := control.distanceStep (r.sampleAt now)
  rw [motionPart_eq_iff, controlDistance_board, controlDistance_board, controlDistance_control,
    controlDistance_control, ← sampleAt_same now board, ← step]
  refine ⟨follow_same board _, ?_⟩
  split
  · exact after.finish
  · exact after.arm _ _

theorem controlVelocity_same (h : r.motionPart = t.motionPart) :
    (r.controlVelocity now).motionPart = (t.controlVelocity now).motionPart := by
  obtain ⟨board, control⟩ := motionPart_eq_iff.mp h
  obtain ⟨step, after⟩ := control.velocityStep (r.sampleAt now)
  rw [motionPart_eq_iff, controlVelocity_board, controlVelocity_board, controlVelocity_control,
    controlVelocity_control, ← sampleAt_same now board, ← step]
  exact ⟨follow_same board _, after.arm _ _⟩

theorem tick_unstrobed (a : Avoidance) (board : Board) : (a.tick board).2.2.unstrobed = board.unstrobed := by
  unfold Avoidance.tick
  split <;> rfl

/-- The obstacle machine reads nothing on the board but the reflections. -/
theorem tick_same {board other : Board} (h : board.unstrobed = other.unstrobed) (a : Avoidance) :
    (a.tick board).1 = (a.tick other).1 ∧ (a.tick board).2.1 = (a.tick other).2.1 := by
  have reflections : board.unstrobed.reflections = other.unstrobed.reflections := congrArg Board.reflections h
  have strobe (side : Side) : (board.strobe side).1 = (other.strobe side).1 :=
    congrArg (Wheels.get · side) reflections
  unfold Avoidance.tick
  dsimp only
  rw [strobe, strobe]
  cases a.step <;> exact ⟨rfl, rfl⟩

theorem avoidObstacles_same (h : r.motionPart = t.motionPart) :
    (r.avoidObstacles now).motionPart = (t.avoidObstacles now).motionPart := by
  obtain ⟨board, control⟩ := motionPart_eq_iff.mp h
  obtain ⟨decision, machine⟩ := tick_same board r.control.avoidance
  have ticked : (r.control.avoidance.tick r.board).2.2.unstrobed =
      (r.control.avoidance.tick t.board).2.2.unstrobed := by
    rw [tick_unstrobed, tick_unstrobed, board]
  have after := control.setAvoidance (r.control.avoidance.tick r.board).2.1
  rw [motionPart_eq_iff]
  cases hDecision : (r.control.avoidance.tick r.board).1 with
  | none =>
    have hDecision' : (t.control.avoidance.tick t.board).1 = none := by
      rw [← control.avoidance, ← decision, hDecision]
    obtain ⟨left, leftBoard⟩ := r.avoidObstacles_of_none now hDecision
    obtain ⟨right, rightBoard⟩ := t.avoidObstacles_of_none now hDecision'
    rw [left, right, leftBoard, rightBoard, ← control.avoidance, ← machine]
    exact ⟨ticked, after.arm _ _⟩
  | some decided =>
    have hDecision' : (t.control.avoidance.tick t.board).1 = some decided := by
      rw [← control.avoidance, ← decision, hDecision]
    cases hEngage : decided.engage with
    | true =>
      obtain ⟨left, leftBoard⟩ := r.avoidObstacles_of_engage now hDecision hEngage
      obtain ⟨right, rightBoard⟩ := t.avoidObstacles_of_engage now hDecision' hEngage
      rw [left, right, leftBoard, rightBoard, ← control.avoidance, ← machine]
      have lit := congrArg (fun board => (Board.zeroEncoders board).setLight .red true) ticked
      exact ⟨lit, (after.engage _).arm _ _⟩
    | false =>
      obtain ⟨left, leftBoard⟩ := r.avoidObstacles_of_steer now hDecision hEngage
      obtain ⟨right, rightBoard⟩ := t.avoidObstacles_of_steer now hDecision' hEngage
      rw [left, right, leftBoard, rightBoard, ← control.avoidance, ← machine]
      exact ⟨ticked, (after.setVelocity _).arm _ _⟩

theorem perform_same {task : Task} (h : r.motionPart = t.motionPart) (hTask : task ∈ motionFlags) :
    (r.perform task now).motionPart = (t.perform task now).motionPart := by
  obtain ⟨board, control⟩ := motionPart_eq_iff.mp h
  cases task
  case batteryTask =>
    have battery : r.board.unstrobed.battery = t.board.unstrobed.battery := congrArg Board.battery board
    rw [motionPart_eq_iff, perform, perform, sampleBattery_board, sampleBattery_board]
    exact ⟨board, sampleBattery_same now control battery⟩
  case lowBattery =>
    simp only [motionPart_eq_iff, perform, warnBattery, complete_board, complete_control, send_board,
      send_control, note_board, note_control]
    exact ⟨board, control.arm _ _⟩
  case timedDuty =>
    simp only [motionPart_eq_iff, perform, arm_board, arm_control, halt_board, halt_control, note_board,
      note_control]
    exact ⟨congrArg Board.halt board, control.arm _ _⟩
  case stopTimer =>
    simp only [motionPart_eq_iff, perform, stop_board, stop_control, note_board, note_control]
    exact ⟨congrArg (fun board => (Board.halt board).setLight .red false) board, control.stop⟩
  case distanceControl => exact controlDistance_same now h
  case velocityControl => exact controlVelocity_same now h
  case avoidance => exact avoidObstacles_same now h
  all_goals exact absurd hTask (by decide)

theorem performDue_same {task : Task} (h : r.motionPart = t.motionPart) (apart : task ≠ .restart) :
    (performDue now r task).motionPart = (performDue now t task).motionPart := by
  by_cases hTask : task ∈ motionFlags
  · have due := (motionPart_eq_iff.mp h).2.due hTask now
    by_cases hDue : r.control.agenda.due task now = true
    · rw [performDue_of_due hDue, performDue_of_due (due ▸ hDue)]
      exact perform_same now h hTask
    · rw [performDue_of_not_due hDue, performDue_of_not_due (due ▸ hDue)]
      exact h
  · have reports : task ∈ Task.reports := by
      cases task <;> first | decide | exact absurd rfl apart | exact absurd (by decide) hTask
    have unmoved (q : Robot) : (performDue now q task).motionPart = q.motionPart := by
      unfold performDue
      split
      · exact perform_motionPart reports now
      · rfl
    rw [unmoved, unmoved, h]

theorem foldl_performDue_same (tasks : List Task) (apart : ∀ task ∈ tasks, task ≠ .restart)
    (h : r.motionPart = t.motionPart) :
    (tasks.foldl (performDue now) r).motionPart = (tasks.foldl (performDue now) t).motionPart := by
  induction tasks generalizing r t with
  | nil => exact h
  | cons task tasks ih =>
    obtain ⟨first, rest⟩ := List.forall_mem_cons.mp apart
    exact ih rest (performDue_same now h first)

theorem sweep_same (h : r.motionPart = t.motionPart) (left : r.control.agenda.isActive .restart = false)
    (right : t.control.agenda.isActive .restart = false) : r.sweep.motionPart = t.sweep.motionPart := by
  have clock : r.board.clock = t.board.clock := congrArg (fun part => part.board.clock) h
  rw [sweep_of_inactive left, sweep_of_inactive right, clock]
  exact foldl_performDue_same _ _ (by decide) h

end Tasks

section Commands

variable {r t : Robot}

theorem comply_same (letter letter' : UInt8) (command : Command) (h : r.motionPart = t.motionPart) :
    (r.comply letter command).motionPart = (t.comply letter' command).motionPart := by
  obtain ⟨board, control⟩ := motionPart_eq_iff.mp h
  have clock : r.board.clock = t.board.clock := congrArg (fun part => part.board.clock) h
  have timed {c d : Control} (same : c.SameMotion d) (limit : Option FloatWord) :
      (withStopTimer c limit r.board.clock).SameMotion (withStopTimer d limit t.board.clock) := by
    rw [clock]
    cases limit with
    | none => exact same
    | some seconds => exact same.arm _ _
  have unmoved (still : command.moves = false) (notStop : command ≠ .stop) :
      (r.comply letter command).motionPart = (t.comply letter' command).motionPart := by
    rw [comply_motionPart r letter still notStop, comply_motionPart t letter' still notStop, h]
  cases command with
  | restart | arithmetic op lhs rhs | time action period | report stream period => exact unmoved rfl nofun
  | stop =>
    simp only [motionPart_eq_iff, comply, stop_board, stop_control]
    exact ⟨congrArg (fun board => (Board.halt board).setLight .red false) board, control.stop⟩
  | duty left right limit =>
    rw [motionPart_eq_iff, comply_duty_board, comply_duty_board, comply_duty_control, comply_duty_control,
      clock]
    refine ⟨congrArg (Board.drive · left right) board, ?_⟩
    cases limit with
    | none => exact control.retireMotion
    | some seconds => exact control.retireMotion.arm _ _
  | drive mode linear angular limit =>
    rw [motionPart_eq_iff, comply_drive_board, comply_drive_board, comply_drive_control, comply_drive_control]
    exact ⟨congrArg Board.zeroEncoders board, timed (control.start mode _) limit⟩
  | avoid limit =>
    rw [motionPart_eq_iff, comply_avoid_board, comply_avoid_board, comply_avoid_control, comply_avoid_control]
    exact ⟨board, timed control.startAvoidance limit⟩

end Commands

end Robot

namespace Wire.Command

/-- Commands that ask for telemetry or for a calculation. -/
def asks : Command → Bool
  | .arithmetic .. | .time .. | .report .. => true
  | _ => false

end Wire.Command

namespace Robot

/-- On its turn the dispatcher finds nothing that is for the motors. -/
inductive OnlyAsks (r : Robot) : Prop where
  | silent : r.link.inbox.peek? = none → OnlyAsks r
  | unknown {letter : UInt8} : r.link.inbox.peek? = some letter → frameLength letter = 0 → OnlyAsks r
  | part {letter : UInt8} : r.link.inbox.peek? = some letter → frameLength letter ≠ 0 →
      r.link.inbox.size < frameLength letter → OnlyAsks r
  | telemetry {letter : UInt8} {command : Command} : r.link.inbox.Offers letter command →
      command.asks = true → OnlyAsks r
  | refused {letter : UInt8} {refusal : Refusal} : r.Refuses letter refusal → OnlyAsks r

/-- No other turn of the dispatcher leaves the motors alone. -/
theorem onlyAsks_iff {r : Robot} : r.OnlyAsks ↔ ∀ command, r.Obeys command → command.asks = true := by
  constructor
  · rintro h command ⟨letter, s, offers, obeyed⟩
    cases h with
    | silent empty =>
      rw [offers.first] at empty
      cases empty
    | unknown first unknown =>
      cases offers.first.symm.trans first
      exact absurd unknown offers.known
    | part first known part =>
      cases offers.first.symm.trans first
      exact absurd offers.whole (Nat.not_le.mpr part)
    | telemetry offered asks =>
      obtain ⟨rfl, rfl⟩ := offered.unique offers
      exact asks
    | refused refuses =>
      cases refuses with
      | unknown first unknown =>
        cases offers.first.symm.trans first
        exact absurd unknown offers.known
      | command offered refused =>
        obtain ⟨rfl, rfl⟩ := offered.unique offers
        rw [obeyed] at refused
        cases refused
  · intro h
    obtain empty | ⟨letter, first, unknown⟩ | ⟨letter, first, known, part⟩ | ⟨letter, command, offers⟩ :=
      r.poll_cases
    · exact .silent empty
    · exact .unknown first unknown
    · exact .part first known part
    · cases carriedOut : (r.received letter).carryOut letter command with
      | ok s => exact .telemetry offers (h command ⟨letter, s, offers, carriedOut⟩)
      | error refusal => exact .refused (.command offers carriedOut)

theorem motionPart_congr {r t : Robot} (control : r.control = t.control) (board : r.board = t.board) :
    r.motionPart = t.motionPart := by
  rw [motionPart, control, board]
  rfl

theorem poll_of_onlyAsks {r : Robot} (h : r.OnlyAsks) :
    r.poll.motionPart = r.motionPart ∧
      r.poll.control.agenda.get .restart = r.control.agenda.get .restart := by
  obtain ⟨letter, command, obeys, control, board⟩ | ⟨control, board⟩ := r.poll_effect
  · have asks := onlyAsks_iff.mp h command obeys
    have still : command.moves = false ∧ command ≠ .stop ∧ command ≠ .restart := by
      cases command with
      | arithmetic op lhs rhs | time action period | report stream period => exact ⟨rfl, nofun, nofun⟩
      | _ => cases asks
    rw [motionPart_congr control board, control, comply_motionPart _ _ still.1 still.2.1,
      comply_get_restart _ _ still.2.2]
    exact ⟨rfl, rfl⟩
  · rw [motionPart_congr control board, control]
    exact ⟨rfl, rfl⟩

section Runs

variable {settings : Settings} {r t : Robot} {s u : Surroundings}

theorem served_same (h : r.motionPart = t.motionPart) (world : s.SameWorld u) :
    (r.served s).motionPart = (t.served u).motionPart := by
  obtain ⟨board, control⟩ := motionPart_eq_iff.mp h
  have met := Board.meet_unstrobed world board
  rw [motionPart_eq_iff]
  refine ⟨?_, control⟩
  calc
    (r.served s).board.unstrobed = (r.board.meet s).unstrobed.service := Board.unstrobed_service _
    _ = (t.board.meet u).unstrobed.service := congrArg Board.service met
    _ = (t.served u).board.unstrobed := (Board.unstrobed_service _).symm

theorem pass_same_of_asks (hr : Reachable settings r) (ht : Reachable settings t)
    (h : r.motionPart = t.motionPart) (world : s.SameWorld u) (leftOk : r.Succeeds s) (rightOk : t.Succeeds u)
    (left : (r.served s).OnlyAsks) (right : (t.served u).OnlyAsks) :
    (r.pass s).motionPart = (t.pass u).motionPart := by
  obtain ⟨leftMotion, leftFlag⟩ := poll_of_onlyAsks left
  obtain ⟨rightMotion, rightFlag⟩ := poll_of_onlyAsks right
  rw [pass_of_succeeds leftOk, pass_of_succeeds rightOk]
  apply sweep_same
  · exact leftMotion.trans ((served_same h world).trans rightMotion.symm)
  · exact (isActive_of_get leftFlag).trans hr.restart_inactive
  · exact (isActive_of_get rightFlag).trans ht.restart_inactive

theorem restarted_board (r : Robot) (s : Surroundings) :
    (r.restarted s).board = (r.polled s).board.halt.setLight .red false :=
  stop_board ((r.polled s).note .restarting)

theorem pass_same_of_obeys (hr : Reachable settings r) (ht : Reachable settings t)
    (h : r.motionPart = t.motionPart) (world : s.SameWorld u) (leftOk : r.Succeeds s) (rightOk : t.Succeeds u)
    {command : Command} (left : (r.served s).Obeys command) (right : (t.served u).Obeys command) :
    (r.pass s).motionPart = (t.pass u).motionPart := by
  obtain ⟨letter, _, _, leftPoll⟩ := poll_of_obeys left
  obtain ⟨letter', _, _, rightPoll⟩ := poll_of_obeys right
  have polled : (r.polled s).motionPart = (t.polled u).motionPart := by
    rw [Robot.polled, Robot.polled, leftPoll, rightPoll]
    exact comply_same (r := (r.served s).received letter) (t := (t.served u).received letter') letter letter'
      command (served_same h world)
  by_cases restart : command = .restart
  · subst restart
    obtain ⟨board, control⟩ := motionPart_eq_iff.mp polled
    have accepts : r.Accepts s .restart := ⟨leftOk, left⟩
    have accepts' : t.Accepts u .restart := ⟨rightOk, right⟩
    rw [pass_of_restart accepts, pass_of_restart accepts']
    apply sweep_same
    · obtain ⟨_, same⟩ := motionPart_eq_iff.mp h
      rw [motionPart_eq_iff, restarted_board, restarted_board, restarted_control accepts,
        restarted_control accepts', same.setup, same.battery]
      exact ⟨congrArg (fun board => (Board.halt board).setLight .red false) board,
        ⟨rfl, rfl, rfl, rfl, rfl, fun _ _ => rfl⟩⟩
    · rw [restarted_control accepts]
      exact Control.fresh_inactive _ _ (by decide)
    · rw [restarted_control accepts']
      exact Control.fresh_inactive _ _ (by decide)
  · rw [pass_of_succeeds leftOk, pass_of_succeeds rightOk]
    apply sweep_same polled
    · rw [Robot.polled, leftPoll]
      exact (isActive_of_get (comply_get_restart _ _ restart)).trans hr.restart_inactive
    · rw [Robot.polled, rightPoll]
      exact (isActive_of_get (comply_get_restart _ _ restart)).trans ht.restart_inactive

/-- In one world, over links that fail together, the dispatchers of both robots carry out the same
command, or neither carries out one that is for the motors. -/
structure Paired (r t : Robot) (s u : Surroundings) : Prop where
  world : s.SameWorld u
  links : r.Succeeds s ↔ t.Succeeds u
  orders : r.Succeeds s → (r.served s).OnlyAsks ∧ (t.served u).OnlyAsks ∨
    ∃ command, (r.served s).Obeys command ∧ (t.served u).Obeys command

theorem pass_same (hr : Reachable settings r) (ht : Reachable settings t) (h : r.motionPart = t.motionPart)
    (paired : r.Paired t s u) : (r.pass s).motionPart = (t.pass u).motionPart := by
  rcases Classical.em (r.Succeeds s) with leftOk | leftFailed
  · have rightOk := paired.links.mp leftOk
    obtain ⟨left, right⟩ | ⟨command, left, right⟩ := paired.orders leftOk
    · exact pass_same_of_asks hr ht h paired.world leftOk rightOk left right
    · exact pass_same_of_obeys hr ht h paired.world leftOk rightOk left right
  · rw [pass_of_fails leftFailed, pass_of_fails (mt paired.links.mpr leftFailed)]
    exact served_same h paired.world

/-- Two runs side by side, each pass of one beside a pass of the other. -/
def PairedAlong : Robot → Robot → List (Surroundings × Surroundings) → Prop
  | _, _, [] => True
  | r, t, (s, u) :: run => r.Paired t s u ∧ PairedAlong (r.pass s) (t.pass u) run

theorem passAll_same {run : List (Surroundings × Surroundings)} (hr : Reachable settings r)
    (ht : Reachable settings t) (h : r.motionPart = t.motionPart) (paired : PairedAlong r t run) :
    (r.passAll (run.map Prod.fst)).motionPart = (t.passAll (run.map Prod.snd)).motionPart := by
  induction run generalizing r t with
  | nil => exact h
  | cons pair run ih => exact ih (hr.pass _) (ht.pass _) (pass_same hr ht h paired.1) paired.2

/-- Where one dispatcher finds telemetry, an unknown letter, part of a frame or a frame that it
refuses, and the other finds nothing, the pass leaves both robots with the same motion part, and
whatever they report; and so do two runs that differ in such traffic alone, motors included. -/
theorem telemetry_leaves_motion (hr : Reachable settings r) (ht : Reachable settings t)
    (h : r.motionPart = t.motionPart) :
    (∀ s u, s.SameWorld u → (r.Succeeds s ↔ t.Succeeds u) → (r.served s).OnlyAsks →
      (t.served u).link.inbox.peek? = none → (r.pass s).motionPart = (t.pass u).motionPart) ∧
    ∀ run, PairedAlong r t run →
      (r.passAll (run.map Prod.fst)).motionPart = (t.passAll (run.map Prod.snd)).motionPart ∧
      (r.passAll (run.map Prod.fst)).board.duty = (t.passAll (run.map Prod.snd)).board.duty ∧
      (r.passAll (run.map Prod.fst)).board.enabled = (t.passAll (run.map Prod.snd)).board.enabled := by
  constructor
  · intro s u world links asks silent
    exact pass_same hr ht h ⟨world, links, fun _ => .inl ⟨asks, .silent silent⟩⟩
  · intro run paired
    have same := passAll_same hr ht h paired
    have duty := congrArg (fun part => part.board.duty) same
    have enabled := congrArg (fun part => part.board.enabled) same
    exact ⟨same, duty, enabled⟩

/-- Only one host asks for encoder reports, and then both set duty cycles; a letter that nobody knows
and a limit that is no number make no difference either. -/
theorem telemetry_leaves_motion_powerOn :
    let asking : Surroundings := { clock := .ofMillis 10, arriving := [0x45, 0, 0, 0x80, 0x3f] }
    let moving : Surroundings := { clock := .ofMillis 20, arriving := [0x70, 50, 0, 50, 0] }
    let unknown : Surroundings := { clock := .ofMillis 30, arriving := [0x7a] }
    let refused : Surroundings := { clock := .ofMillis 40, arriving := [0x50, 9, 0, 9, 0, 0, 0, 0xc0, 0x7f] }
    let run := [(moving, moving), (unknown, { clock := .ofMillis 30 }), (refused, { clock := .ofMillis 40 })]
    let r := powerOn.pass asking
    let t := powerOn.pass { clock := .ofMillis 10 }
    r.control.agenda.isActive .encoderReport = true ∧ t.control.agenda.isActive .encoderReport = false ∧
      r.motionPart = t.motionPart ∧ PairedAlong r t run ∧
      (r.passAll (run.map Prod.fst)).board.duty = (t.passAll (run.map Prod.snd)).board.duty ∧
      (t.passAll (run.map Prod.snd)).board.duty = .both 50 := by
  intro asking moving unknown refused run r t
  have report : (powerOn.served asking).link.inbox.Offers 0x45 (.report .encoders (some ⟨0x3f800000⟩)) := by
    constructor
    all_goals decide +kernel
  have same : r.motionPart = t.motionPart :=
    (telemetry_leaves_motion reachable_powerOn reachable_powerOn rfl).1 asking { clock := .ofMillis 10 }
      ⟨rfl, rfl, rfl, rfl⟩ (iff_of_true (by decide +kernel) (by decide +kernel)) (.telemetry report rfl)
      (by decide +kernel)
  have move : (r.served moving).Obeys (.duty 50 50 none) ∧ (t.served moving).Obeys (.duty 50 50 none) := by
    refine ⟨⟨0x70, _, ⟨?_, ?_, ?_⟩, carryOut_eq_ok_iff.mpr ⟨?_, rfl⟩⟩,
      ⟨0x70, _, ⟨?_, ?_, ?_⟩, carryOut_eq_ok_iff.mpr ⟨?_, rfl⟩⟩⟩
    all_goals decide +kernel
  have strange : (((r.pass moving).served unknown).link.inbox.peek? = some 0x7a) := by decide +kernel
  have refuses : (((r.pass moving).pass unknown).served refused).Refuses 0x50 .badInput := by
    have noLimit (volts : Float32) (charged : Command.refusalOfPower? volts = none) :
        (Command.duty 9 9 (some ⟨0x7fc00000⟩)).refusal? volts = some .badInput := by
      rw [Command.refusal?, charged]
      decide +kernel
    refine .command ⟨?_, ?_, ?_⟩ (carryOut_eq_error_iff.mpr (noLimit _ ?_))
    all_goals decide +kernel
  have paired : PairedAlong r t run := by
    refine ⟨⟨⟨rfl, rfl, rfl, rfl⟩, iff_of_true ?_ ?_, fun _ => .inr ⟨_, move⟩⟩,
      ⟨⟨rfl, rfl, rfl, rfl⟩, iff_of_true ?_ ?_, fun _ => .inl ⟨.unknown strange rfl, .silent ?_⟩⟩,
      ⟨⟨rfl, rfl, rfl, rfl⟩, iff_of_true ?_ ?_, fun _ => .inl ⟨.refused refuses, .silent ?_⟩⟩, trivial⟩
    all_goals decide +kernel
  have reachable : Reachable .standard r ∧ Reachable .standard t :=
    ⟨reachable_powerOn.pass _, reachable_powerOn.pass _⟩
  obtain ⟨_, duty, _⟩ := (telemetry_leaves_motion reachable.1 reachable.2 same).2 run paired
  exact ⟨by decide +kernel, by decide +kernel, same, paired, duty, by decide +kernel⟩

end Runs

end Robot

end Rover
