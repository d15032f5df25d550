import Rover.Proofs.Movement

/-!
# What never changes

The setup is built once, from settings whose period is positive, and neither a task nor a command
changes it or the period that either wheel is updated in. The start of a measurement is changed by no task
but its own, restart apart.
-/

namespace Rover
open Motion Wire
set_option autoImplicit false

theorem Motion.Regulator.ofTuning_period {tuning : Tuning} {period : Float32} {r : Regulator}
    (h : Regulator.ofTuning tuning period = .ok r) : 0 < period ∧ r.period = period := by
  unfold ofTuning at h
  split at h
  · next positive =>
    split at h
    · cases h
    · cases h
      exact ⟨positive, rfl⟩
  · cases h

theorem Settings.setup_of_ok {settings : Settings} {setup : Setup} (h : settings.setup = .ok setup) :
    setup.strategy = settings.strategy ∧
      Regulator.ofTuning settings.tuning.left settings.period = .ok setup.regulators.left ∧
      Regulator.ofTuning settings.tuning.right settings.period = .ok setup.regulators.right := by
  unfold Settings.setup at h
  dsimp only at h
  cases hValid : settings.validate with
  | error e =>
    rw [hValid] at h
    cases h
  | ok _ =>
    rw [hValid] at h
    cases hLeft : Regulator.ofTuning settings.tuning.left settings.period with
    | error e =>
      rw [hLeft] at h
      cases h
    | ok left =>
      rw [hLeft] at h
      cases hRight : Regulator.ofTuning settings.tuning.right settings.period with
      | error e =>
        rw [hRight] at h
        cases h
      | ok right =>
        rw [hRight] at h
        cases h
        exact ⟨rfl, rfl, rfl⟩

namespace Control

/-- The start of the measurement that a task makes. -/
def start? (c : Control) : Task → Option Time
  | .floatTrip => c.tripStart
  | .loopTimer => c.loopStart
  | _ => none

/-- What a task that is carried out leaves as it was, unless it is a restart. -/
structure Kept (task : Task) (c d : Control) : Prop where
  setup : d.setup = c.setup
  periods : d.wheels.map Regulator.period = c.wheels.map Regulator.period
  trip : task ≠ .floatTrip → d.tripStart = c.tripStart
  loop : task ≠ .loopTimer → d.loopStart = c.loopStart

theorem Kept.start? {task other : Task} {c d : Control} (h : Kept task c d) (apart : other ≠ task) :
    d.start? other = c.start? other := by
  cases other
  case floatTrip => exact h.trip apart.symm
  case loopTimer => exact h.loop apart.symm
  all_goals rfl

theorem Kept.trans {task : Task} {c d e : Control} (h : Kept task c d) (next : Kept task d e) : Kept task c e where
  setup := next.setup.trans h.setup
  periods := next.periods.trans h.periods
  trip apart := (next.trip apart).trans (h.trip apart)
  loop apart := (next.loop apart).trans (h.loop apart)

theorem kept_distanceStep {task : Task} (c : Control) (sample : Sample) :
    Kept task c (c.distanceStep sample).2 := by
  obtain ⟨_, _, frame, _, periods⟩ := c.distanceStep_frame sample
  rw [frame]
  exact ⟨rfl, periods, fun _ => rfl, fun _ => rfl⟩

theorem kept_velocityStep {task : Task} (c : Control) (sample : Sample) :
    Kept task c (c.velocityStep sample).2 := by
  obtain ⟨_, _, frame, _, periods⟩ := c.velocityStep_frame sample
  rw [frame]
  exact ⟨rfl, periods, fun _ => rfl, fun _ => rfl⟩

theorem kept_arm {task : Task} (c : Control) (other : Task) (f : Flag → Flag) : Kept task c (c.arm other f) :=
  ⟨rfl, rfl, fun _ => rfl, fun _ => rfl⟩

theorem kept_stop {task : Task} (c : Control) : Kept task c c.stop := ⟨rfl, rfl, fun _ => rfl, fun _ => rfl⟩

theorem kept_finish {task : Task} (c : Control) : Kept task c c.finish := ⟨rfl, rfl, fun _ => rfl, fun _ => rfl⟩

end Control

namespace Robot

section Tasks

variable (r : Robot) (now : Time)

theorem kept_sampleBattery : Control.Kept .batteryTask r.control (r.sampleBattery now).control := by
  obtain ⟨agenda, battery, control⟩ := r.sampleBattery_control now
  rw [control]
  exact ⟨rfl, rfl, fun _ => rfl, fun _ => rfl⟩

theorem kept_reportSpan (timing : Timing) (start : Time) :
    Control.Kept (timingTask timing) r.control (r.reportSpan (timingTask timing) timing start now).control := by
  rw [reportSpan, send_control]
  cases timing with
  | clock => exact ⟨rfl, rfl, fun _ => rfl, fun _ => rfl⟩
  | floatTrip => exact ⟨rfl, rfl, absurd rfl, fun _ => rfl⟩
  | loop => exact ⟨rfl, rfl, fun _ => rfl, absurd rfl⟩

theorem kept_measureTrip : Control.Kept .floatTrip r.control (r.measureTrip now).control := by
  unfold measureTrip
  split
  · rw [send_control]
    exact ⟨rfl, rfl, absurd rfl, fun _ => rfl⟩
  · next start _ =>
    dsimp only
    split
    · exact kept_reportSpan { r with link := r.link.pendingOutput.2 } now .floatTrip start
    · exact ⟨rfl, rfl, fun _ => rfl, fun _ => rfl⟩

theorem kept_measureLoop : Control.Kept .loopTimer r.control (r.measureLoop now).control := by
  unfold measureLoop
  split
  · exact ⟨rfl, rfl, fun _ => rfl, absurd rfl⟩
  · next start _ => exact kept_reportSpan r now .loop start

theorem kept_controlDistance : Control.Kept .distanceControl r.control (r.controlDistance now).control := by
  have step : Control.Kept .distanceControl r.control (r.control.distanceStep (r.sampleAt now)).2 :=
    r.control.kept_distanceStep _
  cases hStep : (r.control.distanceStep (r.sampleAt now)).1 with
  | waiting =>
    rw [(r.controlDistance_of_waiting now hStep).1]
    exact step.trans (Control.kept_arm ..)
  | finished =>
    rw [(r.controlDistance_of_finished now hStep).1]
    exact step.trans (Control.kept_finish _)
  | drive left right travel =>
    rw [(r.controlDistance_of_drive now hStep).1]
    exact step.trans (Control.kept_arm ..)

theorem kept_avoidObstacles : Control.Kept .avoidance r.control (r.avoidObstacles now).control := by
  cases hStep : (r.control.avoidance.tick r.board).1 with
  | none =>
    rw [(r.avoidObstacles_of_none now hStep).1]
    exact ⟨rfl, rfl, fun _ => rfl, fun _ => rfl⟩
  | some decision =>
    cases hEngage : decision.engage with
    | true =>
      rw [(r.avoidObstacles_of_engage now hStep hEngage).1]
      exact ⟨rfl, rfl, fun _ => rfl, fun _ => rfl⟩
    | false =>
      rw [(r.avoidObstacles_of_steer now hStep hEngage).1]
      exact ⟨rfl, rfl, fun _ => rfl, fun _ => rfl⟩

theorem kept_perform {task : Task} (h : task ≠ .restart) :
    Control.Kept task r.control (r.perform task now).control := by
  cases task
  case restart => exact absurd rfl h
  case batteryTask => exact kept_sampleBattery r now
  case floatTrip => exact kept_measureTrip r now
  case loopTimer => exact kept_measureLoop r now
  case lowBattery =>
    simp only [perform, warnBattery, complete_control, send_control, note_control]
    exact Control.kept_arm ..
  case timedDuty =>
    simp only [perform, arm_control, halt_control, note_control]
    exact Control.kept_arm ..
  case stopTimer =>
    simp only [perform, stop_control, note_control]
    exact Control.kept_stop _
  case distanceControl => exact kept_controlDistance r now
  case velocityControl =>
    rw [perform, controlVelocity_control]
    exact (Control.kept_velocityStep ..).trans (Control.kept_arm ..)
  case avoidance => exact kept_avoidObstacles r now
  all_goals
    simp only [perform, reportStatus, reportProximity, report_control]
    exact Control.kept_arm ..

end Tasks

theorem perform_setup (r : Robot) (task : Task) (now : Time) :
    (r.perform task now).control.setup = r.control.setup := by
  by_cases restart : task = .restart
  · subst restart
    have kept : ((r.note .restarting).stop).control.setup = r.control.setup := by
      rw [stop_control]
      rfl
    exact kept
  · exact (kept_perform r now restart).setup

theorem comply_fixed (r : Robot) (letter : UInt8) (command : Command) :
    (r.comply letter command).control.setup = r.control.setup ∧
      (r.comply letter command).control.wheels.map Regulator.period = r.control.wheels.map Regulator.period := by
  cases hMoves : command.moves with
  | false =>
    by_cases hStop : command = .stop
    · subst hStop
      rw [comply, stop_control]
      exact ⟨rfl, rfl⟩
    · have same := comply_motionPart r letter hMoves hStop
      exact ⟨congrArg MotionPart.setup same, congrArg (fun part => part.wheels.map Regulator.period) same⟩
  | true =>
    cases command with
    | duty left right limit =>
      rw [comply_duty_control]
      cases limit <;> exact ⟨rfl, rfl⟩
    | drive mode linear angular limit =>
      rw [comply_drive_control]
      cases limit <;> exact ⟨rfl, rfl⟩
    | avoid limit =>
      rw [comply_avoid_control]
      cases limit <;> exact ⟨rfl, rfl⟩
    | _ => cases hMoves

end Robot

/-- The control state was built from these settings, and is still updated in their period. -/
structure Control.Follows (c : Control) (settings : Settings) : Prop where
  setup : settings.setup = .ok c.setup
  periods : c.wheels.map Regulator.period = .both settings.period

theorem Control.Follows.period {c : Control} {settings : Settings} (h : c.Follows settings) :
    c.period = settings.period := congrArg Wheels.left h.periods

theorem Control.Follows.positive {c : Control} {settings : Settings} (h : c.Follows settings) : 0 < c.period := by
  rw [h.period]
  exact (Regulator.ofTuning_period (Settings.setup_of_ok h.setup).2.1).1

theorem Control.follows_fresh {settings : Settings} {setup : Setup} (h : settings.setup = .ok setup)
    (battery : Battery) : (Control.fresh setup battery).Follows settings := by
  obtain ⟨_, left, right⟩ := Settings.setup_of_ok h
  have periods : setup.regulators.map Regulator.period = .both settings.period := by
    rw [Wheels.map, (Regulator.ofTuning_period left).2, (Regulator.ofTuning_period right).2, Wheels.both]
  exact ⟨h, periods⟩

namespace Robot

variable {settings : Settings} {r : Robot}

theorem follows_perform (h : r.control.Follows settings) (task : Task) (now : Time) :
    (r.perform task now).control.Follows settings := by
  by_cases restart : task = .restart
  · subst restart
    have setup := r.perform_setup .restart now
    exact Control.follows_fresh (setup ▸ h.setup) _
  · have kept := kept_perform r now restart
    exact ⟨kept.setup ▸ h.setup, kept.periods.trans h.periods⟩

theorem follows_comply (h : r.control.Follows settings) (letter : UInt8) (command : Command) :
    (r.comply letter command).control.Follows settings := by
  obtain ⟨setup, periods⟩ := r.comply_fixed letter command
  exact ⟨setup ▸ h.setup, periods.trans h.periods⟩

theorem follows_invariant (settings : Settings) : Invariant settings (Control.Follows · settings) where
  fresh := Control.follows_fresh
  comply _ letter command _ h := follows_comply h letter command
  perform _ task now h _ := follows_perform h task now

theorem Reachable.follows (h : Reachable settings r) : r.control.Follows settings :=
  (follows_invariant settings).reachable h

theorem Reachable.follows_atTurn (h : Reachable settings r) (s : Surroundings) (task : Task) :
    ((r.polled s).atTurn task).control.Follows settings :=
  (follows_invariant settings).atTurn h s task

end Robot

end Rover
