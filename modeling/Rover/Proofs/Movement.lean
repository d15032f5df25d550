import Rover.Proofs.Orders

/-!
# Movements exclude one another

At most one kind of movement is under way, and while obstacles are being avoided the wheels are
asked for the speeds of the phase that the obstacle machine is in. Both hold at every turn of every
pass, and between passes.
-/

namespace Rover
open Motion Wire
set_option autoImplicit false

inductive Movement where
  | duty
  | distance
  | velocity

/-- The motion tasks that may be on together. -/
def Movement.tasks : Movement → List Task
  | .duty => [.timedDuty]
  | .distance => [.distanceControl, .stopTimer]
  | .velocity => [.velocityControl, .avoidance, .stopTimer]

theorem Movement.tasks_subset (movement : Movement) : movement.tasks ⊆ Task.motion := by
  cases movement <;> decide

namespace Agenda

theorem active_of_due {agenda : Agenda} {task : Task} {now : Time} (h : agenda.due task now = true) :
    agenda.isActive task = true :=
  (Bool.and_eq_true_iff.mp h).1

def Exclusive (agenda : Agenda) : Prop :=
  ∃ movement : Movement, ∀ task ∈ Task.motion, agenda.isActive task = true → task ∈ movement.tasks

theorem Exclusive.mono {a b : Agenda} (h : a.Exclusive)
    (sub : ∀ task ∈ Task.motion, b.isActive task = true → a.isActive task = true) : b.Exclusive := by
  obtain ⟨movement, hMovement⟩ := h
  exact ⟨movement, fun task hTask hActive => hMovement task hTask (sub task hTask hActive)⟩

def motionOn (agenda : Agenda) : List Task := Task.motion.filter agenda.isActive

theorem mem_motionOn {agenda : Agenda} {task : Task} :
    task ∈ agenda.motionOn ↔ task ∈ Task.motion ∧ agenda.isActive task = true := List.mem_filter

theorem Exclusive.inactive {a : Agenda} (h : a.Exclusive) {task other : Task} (hTask : task ∈ Task.motion)
    (hOther : other ∈ Task.motion) (active : a.isActive task = true)
    (apart : ∀ movement : Movement, task ∈ movement.tasks → other ∉ movement.tasks) :
    a.isActive other = false := by
  obtain ⟨movement, hMovement⟩ := h
  apply Bool.eq_false_iff.mpr
  intro hActive
  exact apart movement (hMovement task hTask active) (hMovement other hOther hActive)

end Agenda

/-- The speeds that a phase of the obstacle machine asks for. -/
def Phase.Asks : Phase → Wheels Float32 → Prop
  | .start, _ => True
  | .straight, velocity => velocity = Avoidance.straightSpeeds
  | .turnLeft, velocity => velocity = (Avoidance.turnFrom .right).2
  | .turnRight, velocity => velocity = (Avoidance.turnFrom .left).2
  | .holding, velocity => ∃ side, velocity = (Avoidance.turnFrom side).2

namespace Avoidance

theorem turnFrom_asks (side : Side) : (turnFrom side).1.Asks (turnFrom side).2 ∧ (turnFrom side).1 ≠ .start := by
  cases side <;> exact ⟨rfl, by decide⟩

/-- Once the machine has left its start it does not come back, and each decision asks for the speeds
of the phase that it leads to. -/
theorem decide_asks {a : Avoidance} {velocity : Wheels Float32} (h : a.phase.Asks velocity)
    (reading : Reading) :
    (∃ decision, (a.decide reading).1 = some decision ∧ (a.decide reading).2.phase.Asks decision.velocity ∧
      (a.decide reading).2.phase ≠ .start ∧ (decision.engage = true ↔ a.phase = .start)) ∨
    ((a.decide reading).1 = none ∧ (a.decide reading).2.phase.Asks velocity ∧ a.phase ≠ .start ∧
      (a.decide reading).2.phase ≠ .start) := by
  unfold decide
  cases hPhase : a.phase with
  | start =>
    refine .inl ⟨_, rfl, ?_⟩
    cases reading.isClear with
    | false => exact ⟨(turnFrom_asks reading.side).1, (turnFrom_asks reading.side).2, by simp⟩
    | true => exact ⟨rfl, by simp, by simp⟩
  | straight =>
    cases reading.isClear with
    | false =>
      exact .inl ⟨_, rfl, (turnFrom_asks reading.side).1, (turnFrom_asks reading.side).2, by simp⟩
    | true => exact .inr ⟨rfl, h, by simp, by simp [hPhase]⟩
  | turnLeft =>
    rw [hPhase] at h
    refine .inr ⟨rfl, ?_⟩
    cases reading.isClear with
    | false => simpa [hPhase] using h
    | true => simpa using ⟨Side.right, h⟩
  | turnRight =>
    rw [hPhase] at h
    refine .inr ⟨rfl, ?_⟩
    cases reading.isClear with
    | false => simpa [hPhase] using h
    | true => simpa using ⟨Side.left, h⟩
  | holding =>
    by_cases done : a.held + 1 ≥ holdLimit
    · refine .inl ⟨⟨straightSpeeds, false⟩, ?_⟩
      simp [done, Phase.Asks]
    · refine .inr ?_
      simpa [done, hPhase] using h

theorem tick_asks {a : Avoidance} {velocity : Wheels Float32} (h : a.phase.Asks velocity) (board : Board) :
    (∃ decision, (a.tick board).1 = some decision ∧ (a.tick board).2.1.phase.Asks decision.velocity ∧
      (decision.engage = true ↔ a.phase = .start)) ∨
    ((a.tick board).1 = none ∧ (a.tick board).2.1.phase.Asks velocity ∧
      ((a.tick board).2.1.phase ≠ .start → a.phase ≠ .start)) := by
  cases hStep : a.step with
  | strobeLeft => exact .inr (by simpa [tick, hStep] using h)
  | strobeRight => exact .inr (by simpa [tick, hStep] using h)
  | decide =>
    have next := decide_asks (a := { a with step := .strobeLeft }) h a.reading
    simp only [tick, hStep]
    obtain ⟨decision, hDecision, asks, _, engage⟩ | ⟨hNone, asks, left, _⟩ := next
    · exact .inl ⟨decision, hDecision, asks, engage⟩
    · exact .inr ⟨hNone, asks, fun _ => left⟩

end Avoidance

namespace Control

def velocity (c : Control) : Wheels Float32 := c.wheels.map Regulator.velocity

theorem distanceStep_velocity (c : Control) (sample : Sample) :
    (c.distanceStep sample).2.velocity = c.velocity := by
  obtain ⟨_, _, frame, velocity, _⟩ := c.distanceStep_frame sample
  rw [frame]
  exact velocity

theorem velocityStep_velocity (c : Control) (sample : Sample) :
    (c.velocityStep sample).2.velocity = c.velocity := by
  obtain ⟨_, _, frame, velocity, _⟩ := c.velocityStep_frame sample
  rw [frame]
  exact velocity

theorem distanceStep_avoidance (c : Control) (sample : Sample) :
    (c.distanceStep sample).2.avoidance = c.avoidance := by
  obtain ⟨_, _, frame, _⟩ := c.distanceStep_frame sample
  rw [frame]

theorem velocityStep_avoidance (c : Control) (sample : Sample) :
    (c.velocityStep sample).2.avoidance = c.avoidance := by
  obtain ⟨_, _, frame, _⟩ := c.velocityStep_frame sample
  rw [frame]

/-- Movements exclude one another, and the wheels are steered as the obstacle machine asks. -/
structure Coherent (c : Control) : Prop where
  exclusive : c.agenda.Exclusive
  steered : c.agenda.isActive .avoidance = true → c.avoidance.phase ≠ .start →
    c.agenda.isActive .velocityControl = true ∧ c.avoidance.phase.Asks c.velocity

theorem Coherent.congr {c d : Control} (h : c.Coherent)
    (flags : ∀ task ∈ Task.motion, d.agenda.isActive task = c.agenda.isActive task)
    (phase : d.avoidance.phase = c.avoidance.phase) (velocity : d.velocity = c.velocity) : d.Coherent := by
  refine ⟨h.exclusive.mono fun task hTask hActive => flags task hTask ▸ hActive, ?_⟩
  rw [flags .avoidance (by decide), flags .velocityControl (by decide), phase, velocity]
  exact h.steered

theorem Coherent.of_not_avoiding {c : Control} (exclusive : c.agenda.Exclusive)
    (h : c.agenda.isActive .avoidance = false) : c.Coherent :=
  ⟨exclusive, fun active => absurd active (Bool.eq_false_iff.mp h)⟩

theorem Coherent.of_still {c : Control} (h : ∀ task ∈ Task.motion, c.agenda.isActive task = false) :
    c.Coherent :=
  .of_not_avoiding ⟨.duty, fun task hTask active => absurd active (Bool.eq_false_iff.mp (h task hTask))⟩
    (h .avoidance (by decide))

theorem stop_inactive (c : Control) {task : Task} (h : task ∈ Task.motion) :
    c.stop.agenda.isActive task = false := by
  simp [Agenda.isActive, h, Flag.retire]

theorem fresh_inactive (setup : Setup) (battery : Battery) {task : Task} (h : task ≠ .batteryTask) :
    (fresh setup battery).agenda.isActive task = false := by
  simp [fresh, Agenda.isActive, Agenda.get_modify, h, Flag.inactive]

end Control

namespace Robot

theorem isActive_of_get {a b : Agenda} {task : Task} (h : a.get task = b.get task) :
    a.isActive task = b.isActive task :=
  congrArg Flag.active h

theorem inactive_of_start {settings : Settings} {board : Board} {link : Link} {r : Robot}
    (h : Robot.start settings board link = .ok r) {task : Task} (other : task ≠ .batteryTask) :
    r.control.agenda.isActive task = false := by
  obtain ⟨setup, battery, _, control, _⟩ := start_control h
  rw [control]
  exact Control.fresh_inactive setup battery other

theorem coherent_of_motionPart {r s : Robot} (h : s.motionPart = r.motionPart) (hr : r.control.Coherent) :
    s.control.Coherent := by
  refine hr.congr (fun task hTask => ?_) ?_ ?_
  · exact isActive_of_get (get_eq_of_motionPart h (List.mem_append_right _ hTask))
  · exact congrArg (fun part => part.avoidance.phase) h
  · exact congrArg (fun part => part.wheels.map Regulator.velocity) h

section Tasks

variable {r : Robot} {now : Time}

theorem coherent_sampleBattery (h : r.control.Coherent) : (r.sampleBattery now).control.Coherent := by
  obtain ⟨agenda, battery, hControl⟩ := r.sampleBattery_control now
  refine h.congr (fun task hTask => isActive_of_get ?_) (by rw [hControl]) (by rw [hControl]; rfl)
  have untouched : task ∉ Task.touches .batteryTask := by
    revert task
    decide
  exact perform_get untouched now

theorem coherent_expireDuty (h : r.control.Coherent) :
    (r.perform .timedDuty now).control.Coherent := by
  have flags {task : Task} (apart : task ≠ .timedDuty) :
      (r.perform .timedDuty now).control.agenda.isActive task = r.control.agenda.isActive task :=
    isActive_of_get (perform_get (by simpa [Task.touches] using apart) now)
  refine ⟨h.exclusive.mono fun task _ active => ?_, ?_⟩
  · by_cases same : task = .timedDuty
    · subst same
      simp [perform, Agenda.isActive, Flag.retire] at active
    · rwa [flags same] at active
  · rw [flags (by decide), flags (by decide)]
    simp only [perform, arm_control, halt_control, note_control]
    exact h.steered

theorem arm_retrigger_isActive (c : Control) (now : Time) (task other : Task) :
    (c.arm task (·.retrigger now)).agenda.isActive other = c.agenda.isActive other := by
  unfold Agenda.isActive
  rw [Control.arm_get]
  split
  · next same => rw [same]; rfl
  · rfl

theorem coherent_controlDistance (h : r.control.Coherent)
    (active : r.control.agenda.isActive .distanceControl = true) :
    (r.controlDistance now).control.Coherent := by
  have going : ((r.control.distanceStep (r.sampleAt now)).2.arm .distanceControl
      (·.retrigger now)).Coherent := by
    refine h.congr (fun task _ => ?_) (congrArg Avoidance.phase ?_) ?_
    · rw [arm_retrigger_isActive, Control.distanceStep_agenda]
    · exact Control.distanceStep_avoidance ..
    · exact Control.distanceStep_velocity ..
  cases hStep : (r.control.distanceStep (r.sampleAt now)).1 with
  | waiting =>
    rw [(r.controlDistance_of_waiting now hStep).1]
    exact going
  | drive left right travel =>
    rw [(r.controlDistance_of_drive now hStep).1]
    exact going
  | finished =>
    rw [(r.controlDistance_of_finished now hStep).1]
    have flags (task : Task) : (r.control.distanceStep (r.sampleAt now)).2.finish.agenda.isActive task =
        if task = .distanceControl then false else r.control.agenda.isActive task := by
      unfold Agenda.isActive
      rw [Control.finish_get, Control.distanceStep_agenda]
      split <;> rfl
    refine .of_not_avoiding (h.exclusive.mono fun task _ on => ?_) ?_
    · rw [flags] at on
      split at on
      · cases on
      · exact on
    · rw [flags, if_neg (by decide)]
      exact h.exclusive.inactive (by decide) (by decide) active
        fun movement => by cases movement <;> decide

theorem coherent_controlVelocity (h : r.control.Coherent) : (r.controlVelocity now).control.Coherent := by
  rw [controlVelocity_control]
  refine h.congr (fun task _ => ?_) (congrArg Avoidance.phase ?_) ?_
  · rw [arm_retrigger_isActive, Control.velocityStep_agenda]
  · exact Control.velocityStep_avoidance ..
  · exact Control.velocityStep_velocity ..

theorem coherent_avoidObstacles (h : r.control.Coherent)
    (active : r.control.agenda.isActive .avoidance = true) :
    (r.avoidObstacles now).control.Coherent := by
  have asks : r.control.avoidance.phase.Asks r.control.velocity := by
    by_cases atStart : r.control.avoidance.phase = .start
    · rw [atStart]
      exact trivial
    · exact (h.steered active atStart).2
  obtain ⟨decision, hDecision, asks, engage⟩ | ⟨hNone, asks, left⟩ :=
    Avoidance.tick_asks asks r.board
  · cases hEngage : decision.engage with
    | true =>
      rw [(r.avoidObstacles_of_engage now hDecision hEngage).1]
      have flags (task : Task) : ((({ r.control with avoidance := (r.control.avoidance.tick r.board).2.1 } :
          Control).engage decision.velocity).arm .avoidance (·.retrigger now)).agenda.isActive task =
            if task = .velocityControl then true else r.control.agenda.isActive task := by
        rw [arm_retrigger_isActive, Agenda.isActive, Control.engage_get]
        split <;> rfl
      refine ⟨⟨.velocity, fun task hTask on => ?_⟩, fun _ _ => ⟨by rw [flags, if_pos rfl], asks⟩⟩
      rw [flags] at on
      split at on
      · next same => rw [same]; decide
      · -- avoidance being on, the movement under way is that of velocity control
        obtain ⟨movement, hMovement⟩ := h.exclusive
        have avoiding := hMovement .avoidance (by decide) active
        cases movement
        · exact absurd avoiding (by decide)
        · exact absurd avoiding (by decide)
        · exact hMovement task hTask on
    | false =>
      have gone : r.control.avoidance.phase ≠ .start := by simpa [hEngage] using engage
      rw [(r.avoidObstacles_of_steer now hDecision hEngage).1]
      have flags (task : Task) := arm_retrigger_isActive
        (({ r.control with avoidance := (r.control.avoidance.tick r.board).2.1 } : Control).setVelocity
          decision.velocity) now .avoidance task
      refine ⟨h.exclusive.mono fun task _ on => (flags task).symm.trans on, fun _ _ => ⟨?_, asks⟩⟩
      rw [flags]
      exact (h.steered active gone).1
  · rw [(r.avoidObstacles_of_none now hNone).1]
    have flags (task : Task) := arm_retrigger_isActive
      ({ r.control with avoidance := (r.control.avoidance.tick r.board).2.1 } : Control) now .avoidance task
    refine ⟨h.exclusive.mono fun task _ on => (flags task).symm.trans on, fun _ gone => ⟨?_, asks⟩⟩
    rw [flags]
    exact (h.steered active (left gone)).1

theorem coherent_perform {task : Task} (h : r.control.Coherent) (due : r.control.agenda.due task now = true) :
    (r.perform task now).control.Coherent := by
  have active := Agenda.active_of_due due
  cases task
  case restart =>
    exact .of_still fun task hTask => Control.fresh_inactive _ _ (by revert task; decide)
  case batteryTask => exact coherent_sampleBattery h
  case lowBattery =>
    refine h.congr (fun task hTask => isActive_of_get (perform_get ?_ now)) (by simp [perform, warnBattery]; rfl)
      (by simp [perform, warnBattery]; rfl)
    revert task
    decide
  case timedDuty => exact coherent_expireDuty h
  case distanceControl => exact coherent_controlDistance h active
  case velocityControl => exact coherent_controlVelocity h
  case stopTimer =>
    refine .of_still fun task hTask => ?_
    simp only [perform, stop_control, note_control]
    exact Control.stop_inactive _ hTask
  case avoidance => exact coherent_avoidObstacles h active
  all_goals exact coherent_of_motionPart (perform_motionPart (by decide) now) h

end Tasks

section Commands

variable (r : Robot) (letter : UInt8) {command : Command}

/-- The control state once the stop timer of a movement has been started, if it has one. -/
def withStopTimer (c : Control) (limit : Option FloatWord) (now : Time) : Control :=
  match limit with
  | none => c
  | some seconds => c.armStopTimer seconds.value now

theorem comply_duty_control (left right : Int16) (limit : Option FloatWord) :
    (r.comply letter (.duty left right limit)).control = match limit with
      | none => r.control.retireMotion
      | some seconds =>
        r.control.retireMotion.arm .timedDuty (·.timer (seconds.value * 1000) r.board.clock) := by
  cases limit with
  | none => simp [comply]
  | some seconds =>
    simp only [comply, arm_control, drive_control, drive_board, setControl_control, setControl_board]
    rfl

theorem comply_drive_control (mode : DriveMode) (linear angular : FloatWord) (limit : Option FloatWord) :
    (r.comply letter (.drive mode linear angular limit)).control =
      withStopTimer (r.control.start mode (plan .standard mode linear.value angular.value)) limit
        r.board.clock := by
  cases limit <;> simp only [comply] <;> split <;> simp [armStopTimer, withStopTimer] <;> rfl

theorem comply_avoid_control (limit : Option FloatWord) :
    (r.comply letter (.avoid limit)).control =
      withStopTimer r.control.startAvoidance limit r.board.clock := by
  cases limit <;> rfl

theorem comply_motionPart (still : command.moves = false) (notStop : command ≠ .stop) :
    (r.comply letter command).motionPart = r.motionPart := by
  cases command with
  | restart => exact motionPart_arm _ (by decide) _
  | arithmetic op lhs rhs => exact motionPart_send ..
  | time action period =>
    simp only [comply]
    split
    · rfl
    · next timing _ =>
      rw [motionPart_forgetStart]
      exact motionPart_arm _ (by cases timing <;> decide) _
  | report stream period => exact motionPart_arm _ (by cases stream <;> decide) _
  | stop => exact absurd rfl notStop
  | duty left right limit => cases still
  | drive mode linear angular limit => cases still
  | avoid limit => cases still

/-- The motion tasks that are on are those of the movement taken up, whatever was on before. -/
theorem comply_isActive (moves : command.moves = true) {task : Task} (h : task ∈ Task.motion) :
    (r.comply letter command).control.agenda.isActive task = true ↔ task ∈ command.motionTasks := by
  cases command with
  | duty left right limit =>
    rw [comply_duty_control, Agenda.isActive]
    cases limit <;> revert task <;>
      simp [Task.motion, Command.motionTasks, Flag.retire, Flag.timer, Flag.every]
  | drive mode linear angular limit =>
    rw [comply_drive_control, Agenda.isActive]
    cases limit <;> cases mode <;> revert task <;>
      simp [withStopTimer, Control.controlTask, Task.motion, Command.motionTasks, Flag.retire, Flag.timer,
        Flag.every]
  | avoid limit =>
    rw [comply_avoid_control, Agenda.isActive]
    cases limit <;> revert task <;>
      simp [withStopTimer, Task.motion, Command.motionTasks, Flag.retire, Flag.timer, Flag.every]
  | _ => cases moves

theorem comply_timer {task : Task} {seconds : FloatWord} (h : command.ending? = some (task, seconds)) :
    (r.comply letter command).control.agenda.get task = ⟨true, seconds.value * 1000, r.board.clock⟩ := by
  cases command with
  | duty left right limit =>
    obtain ⟨_, rfl, hTask⟩ := Option.map_eq_some_iff.mp h
    cases hTask
    rw [comply_duty_control]
    exact Control.arm_get ..
  | drive mode linear angular limit =>
    obtain ⟨_, rfl, hTask⟩ := Option.map_eq_some_iff.mp h
    cases hTask
    rw [comply_drive_control]
    exact Control.armStopTimer_get ..
  | avoid limit =>
    obtain ⟨_, rfl, hTask⟩ := Option.map_eq_some_iff.mp h
    cases hTask
    rw [comply_avoid_control]
    exact Control.armStopTimer_get ..
  | _ => cases h

theorem motionTasks_exclusive (command : Command) :
    ∃ movement : Movement, ∀ task ∈ command.motionTasks, task ∈ movement.tasks := by
  cases command with
  | duty left right limit => exact ⟨.duty, by cases limit <;> simp [Command.motionTasks, Movement.tasks]⟩
  | drive mode linear angular limit =>
    cases mode with
    | distance =>
      exact ⟨.distance, by cases limit <;> simp [Command.motionTasks, Control.controlTask, Movement.tasks]⟩
    | velocity =>
      exact ⟨.velocity, by cases limit <;> simp [Command.motionTasks, Control.controlTask, Movement.tasks]⟩
  | avoid limit => exact ⟨.velocity, by cases limit <;> simp [Command.motionTasks, Movement.tasks]⟩
  | _ => exact ⟨.duty, by simp [Command.motionTasks]⟩

theorem comply_phase (avoiding : Task.avoidance ∈ command.motionTasks) :
    (r.comply letter command).control.avoidance.phase = .start := by
  cases command with
  | avoid limit =>
    rw [comply_avoid_control]
    cases limit <;> rfl
  | duty left right limit => cases limit <;> simp [Command.motionTasks] at avoiding
  | drive mode linear angular limit =>
    cases limit <;> cases mode <;> simp [Command.motionTasks, Control.controlTask] at avoiding
  | _ => simp [Command.motionTasks] at avoiding

theorem coherent_comply (h : r.control.Coherent) : (r.comply letter command).control.Coherent := by
  cases hMoves : command.moves with
  | true =>
    obtain ⟨movement, hMovement⟩ := motionTasks_exclusive command
    refine ⟨⟨movement, fun task hTask on => ?_⟩, fun on gone => ?_⟩
    · exact hMovement task ((comply_isActive r letter hMoves hTask).mp on)
    · exact absurd (comply_phase r letter ((comply_isActive r letter hMoves (by decide)).mp on)) gone
  | false =>
    by_cases hStop : command = .stop
    · subst hStop
      refine .of_still fun task hTask => ?_
      simp only [comply, stop_control]
      exact Control.stop_inactive _ hTask
    · exact coherent_of_motionPart (comply_motionPart r letter hMoves hStop) h

end Commands

theorem coherent_invariant (settings : Settings) : Invariant settings Control.Coherent where
  fresh _ _ := .of_still fun task hTask => Control.fresh_inactive _ _ (by revert task; decide)
  comply r letter _ _ h := coherent_comply r letter h
  perform _ _ _ h due := coherent_perform h due

theorem Reachable.coherent {settings : Settings} {r : Robot} (h : Reachable settings r) :
    r.control.Coherent :=
  (coherent_invariant settings).reachable h

theorem Reachable.coherent_atTurn {settings : Settings} {r : Robot} (h : Reachable settings r)
    (s : Surroundings) (task : Task) : ((r.polled s).atTurn task).control.Coherent :=
  (coherent_invariant settings).atTurn h s task

/-- Between passes the motion tasks that are on belong to one movement, and an obstacle machine that
has left its start has velocity control on; a command that is carried out leaves just its own motion
tasks on, whatever was on before. -/
theorem movements_exclude (settings : Settings) :
    (∀ r, Reachable settings r →
      (∃ movement : Movement, r.control.agenda.motionOn ⊆ movement.tasks) ∧
      (r.control.agenda.isActive .avoidance = true → r.control.avoidance.phase ≠ .start →
        r.control.agenda.isActive .velocityControl = true)) ∧
    ∀ (r : Robot) (command : Command), r.Obeys command → command.moves = true →
      ∀ task, task ∈ r.poll.control.agenda.motionOn ↔ task ∈ command.motionTasks := by
  constructor
  · intro r hReachable
    obtain ⟨⟨movement, hMovement⟩, steered⟩ := hReachable.coherent
    refine ⟨⟨movement, ?_⟩, ?_⟩
    · intro task hTask
      obtain ⟨motion, on⟩ := Agenda.mem_motionOn.mp hTask
      exact hMovement task motion on
    · intro avoiding gone
      exact (steered avoiding gone).1
  · intro r command obeys moves task
    obtain ⟨letter, _, _, hPoll⟩ := poll_of_obeys obeys
    have isOn {task : Task} (motion : task ∈ Task.motion) := comply_isActive (r.received letter) letter moves motion
    rw [Agenda.mem_motionOn, hPoll]
    constructor
    · rintro ⟨motion, on⟩
      exact (isOn motion).mp on
    · intro mine
      obtain ⟨movement, among⟩ := motionTasks_exclusive command
      have motion := movement.tasks_subset (among task mine)
      exact ⟨motion, (isOn motion).mpr mine⟩

/-- Duty cycles are set for a second, and within it avoidance is asked for, for a second too. -/
theorem movements_exclude_powerOn :
    let second : FloatWord := ⟨0x3f800000⟩
    let timed := powerOn.pass
      { clock := .ofMillis 10, arriving := [0x50, 50, 0, 50, 0, 0, 0, 0x80, 0x3f] }
    let asked := timed.served { clock := .ofMillis 20, arriving := [0x4f, 0, 0, 0x80, 0x3f] }
    (∃ movement : Movement, timed.control.agenda.motionOn ⊆ movement.tasks) ∧
      timed.control.agenda.motionOn = [.timedDuty] ∧ asked.Obeys (.avoid (some second)) ∧
      ∀ task, task ∈ asked.poll.control.agenda.motionOn ↔ task = .avoidance ∨ task = .stopTimer := by
  intro second timed asked
  obtain ⟨apart, own⟩ := movements_exclude .standard
  have obeys : asked.Obeys (.avoid (some second)) := by
    refine ⟨0x4f, _, ⟨?_, ?_, ?_⟩, carryOut_eq_ok_iff.mpr ⟨?_, rfl⟩⟩
    all_goals decide +kernel
  refine ⟨(apart timed (reachable_powerOn.pass _)).1, by decide +kernel, obeys, ?_⟩
  intro task
  rw [own asked _ obeys rfl]
  simp [Command.motionTasks]

end Robot

end Rover
