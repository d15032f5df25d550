import Rover.Proofs.Motors
import Rover.Proofs.Planning
import Rover.Proofs.Setup

/-!
# Targets that are numbers

Nothing that the robot does by itself makes a target that is no number: the speeds it steers by are
constants, and a travel is the difference of two distances that encoder counts give, which is finite.
A drive that is accepted sets the targets it is planned with, numbers or not. A target that is no
number is reached by no travel, and a drive toward it goes on until something else ends it.
-/

namespace Rover
open Motion Wire
set_option autoImplicit false

namespace Motion

theorem below_distanceOfCounts (counts : Int32) :
    Single.Below 29 (distanceOfCounts counts).toModel.unpack := by
  have two : Single.Below 2 (2 : Float32).toModel.unpack := by decide +kernel
  have half : Single.Below 2 pi.toModel.unpack := by decide +kernel
  have radius : Single.Below (-5) wheelRadius.toModel.unpack := by decide +kernel
  have perTurn : (countsPerShaftTurn * gearRatio).toModel.unpack =
      .finite .positive 14904852 (-14) (by decide) := rfl
  have doubled := Single.below_single_mul (Single.below_ofInt32 counts) two (by decide) (by decide)
  have turned := Single.below_single_mul doubled half (by decide) (by decide)
  have rolled := Single.below_single_mul turned radius (by decide) (by decide)
  have wide : 2 ^ 23 ≤ 14904852 := by decide
  exact Single.below_single_div perTurn rolled wide (by decide) (by decide)

def Sample.Counted (sample : Sample) : Prop :=
  ∃ counts : Wheels Int32, sample.distance = counts.map distanceOfCounts

namespace Odometer

def Counted (odometer : Odometer) : Prop := ∀ sample, odometer.last = some sample → sample.Counted

theorem counted_reset : reset.Counted := nofun

variable {odometer : Odometer} {sample : Sample}

theorem Counted.advance (h : odometer.Counted) (counted : sample.Counted) :
    (odometer.advance sample).2.Counted := by
  have read : Counted ⟨some sample⟩ := by
    rintro _ ⟨⟩
    exact counted
  unfold Odometer.advance
  split
  · exact read
  · dsimp only
    split
    · exact h
    · exact read

/-- What is left of a target after a travel is a number if the target is one. -/
theorem Counted.remaining (h : odometer.Counted) (counted : sample.Counted) {travel : Travel}
    (moved : (odometer.advance sample).1 = some travel) {target : Wheels Float32} (numeric : target.Numeric) :
    Wheels.Numeric ⟨target.left - travel.distance.left, target.right - travel.distance.right⟩ := by
  unfold Odometer.advance at moved
  split at moved
  · cases moved
  · next start hLast =>
    dsimp only at moved
    split at moved
    · cases moved
    · cases moved
      obtain ⟨before, hStart⟩ := h start hLast
      obtain ⟨after, hSample⟩ := counted
      have finite (a b : Int32) : Single.Below 31 (distanceOfCounts a - distanceOfCounts b).toModel.unpack :=
        Single.below_single_sub (below_distanceOfCounts a) (below_distanceOfCounts b) (by decide) (by decide)
      rw [hStart, hSample]
      exact ⟨Single.isNaN_single_sub numeric.1 (finite ..), Single.isNaN_single_sub numeric.2 (finite ..)⟩

end Odometer

end Motion

theorem Motion.Regulator.ofTuning_idle {tuning : Tuning} {period : Float32} {r : Regulator}
    (h : Regulator.ofTuning tuning period = .ok r) : r.position = 0 ∧ r.velocity = 0 := by
  unfold ofTuning at h
  split at h
  · split at h
    · cases h
    · cases h
      exact ⟨rfl, rfl⟩
  · cases h

theorem Avoidance.numeric_speeds {speeds : Wheels Float32}
    (h : speeds = straightSpeeds ∨ ∃ side, speeds = (turnFrom side).2) : speeds.Numeric := by
  obtain rfl | ⟨side, rfl⟩ := h
  · decide +kernel
  · cases side <;> decide +kernel

theorem Avoidance.tick_speeds {a : Avoidance} {board : Board} {decision : Decision}
    (h : (a.tick board).1 = some decision) :
    decision.velocity = straightSpeeds ∨ ∃ side, decision.velocity = (turnFrom side).2 := by
  obtain ⟨step, phase, held, counts⟩ := a
  cases step with
  | strobeLeft | strobeRight => cases h
  | decide =>
    cases phase with
    | turnLeft | turnRight => cases h
    | start =>
      simp only [tick, decide, Option.some.injEq] at h
      subst h
      dsimp only
      split
      · exact .inl rfl
      · exact .inr ⟨_, rfl⟩
    | straight =>
      simp only [tick, decide] at h
      split at h
      · cases h
      · cases h
        exact .inr ⟨_, rfl⟩
    | holding =>
      simp only [tick, decide] at h
      split at h
      · cases h
        exact .inl rfl
      · cases h

namespace Control

def position (c : Control) : Wheels Float32 := c.wheels.map Regulator.position

theorem fresh_idle {settings : Settings} {setup : Setup} (h : settings.setup = .ok setup) (battery : Battery) :
    (fresh setup battery).position = .both 0 ∧ (fresh setup battery).velocity = .both 0 := by
  obtain ⟨_, left, right⟩ := Settings.setup_of_ok h
  have left := Regulator.ofTuning_idle left
  have right := Regulator.ofTuning_idle right
  simp [position, velocity, fresh, Wheels.map, Wheels.both, left, right]

structure Aimed (c : Control) : Prop where
  position : c.position.Numeric
  velocity : c.velocity.Numeric

/-- What a task may do to the targets, and to the sample that travel is measured from. -/
inductive Retargeted (c d : Control) : Prop where
  | kept : d.wheels = c.wheels → d.odometer = c.odometer → Retargeted c d
  | cleared : d.position = .both 0 → d.velocity = .both 0 → d.odometer = .reset → Retargeted c d
  | steered : d.position = c.position →
      (d.velocity = Avoidance.straightSpeeds ∨ ∃ side, d.velocity = (Avoidance.turnFrom side).2) →
      (d.odometer = c.odometer ∨ d.odometer = .reset) → Retargeted c d
  | updated (sample : Sample) : sample.Counted → d.odometer = (c.odometer.advance sample).2 →
      d.velocity = c.velocity →
      (d.position = c.position ∨ ∃ travel, (c.odometer.advance sample).1 = some travel ∧
        d.position = ⟨c.position.left - travel.distance.left, c.position.right - travel.distance.right⟩) →
      Retargeted c d

namespace Retargeted

variable {c d : Control} (h : Retargeted c d)
include h

theorem arm (task : Task) (f : Flag → Flag) : Retargeted c (d.arm task f) := by
  cases h with
  | kept wheels odometer => exact .kept wheels odometer
  | cleared position velocity odometer => exact .cleared position velocity odometer
  | steered position speeds odometer => exact .steered position speeds odometer
  | updated sample read odometer velocity position => exact .updated sample read odometer velocity position

variable (read : c.odometer.Counted)
include read

theorem counted : d.odometer.Counted := by
  cases h with
  | kept _ odometer => exact odometer ▸ read
  | cleared _ _ odometer => exact odometer ▸ Odometer.counted_reset
  | steered _ _ odometer =>
    rcases odometer with same | reset
    · exact same ▸ read
    · exact reset ▸ Odometer.counted_reset
  | updated sample next odometer => exact odometer ▸ read.advance next

theorem aimed (aimed : c.Aimed) : d.Aimed := by
  cases h with
  | kept wheels _ =>
    constructor
    · rw [position, wheels]
      exact aimed.position
    · rw [velocity, wheels]
      exact aimed.velocity
  | cleared position velocity _ =>
    exact ⟨position ▸ Wheels.numeric_zero, velocity ▸ Wheels.numeric_zero⟩
  | steered position speeds _ => exact ⟨position ▸ aimed.position, Avoidance.numeric_speeds speeds⟩
  | updated sample next _ velocity position =>
    refine ⟨?_, velocity ▸ aimed.velocity⟩
    obtain same | ⟨travel, moved, remaining⟩ := position
    · exact same ▸ aimed.position
    · exact remaining ▸ read.remaining next moved aimed.position

end Retargeted

section Steps

variable (c : Control) {sample : Sample}

theorem regulate_position (strategy : Strategy) (r : Regulator) (travel dt : Float32) :
    (regulate strategy r travel dt).2.position = r.position := by
  cases strategy <;> rfl

theorem drive_position (travel : Travel) (direction : Wheels Float32) :
    (c.drive travel direction).2.position = c.position := by
  unfold position Wheels.map
  simp only [drive, regulate_position]

theorem drive_velocity (travel : Travel) (direction : Wheels Float32) :
    (c.drive travel direction).2.velocity = c.velocity := by
  obtain ⟨_, frame, same, _⟩ := c.drive_frame travel direction
  rw [frame]
  exact same

theorem retargeted_distanceStep (read : sample.Counted) : Retargeted c (c.distanceStep sample).2 := by
  unfold distanceStep
  cases advanced : c.odometer.advance sample with
  | mk moved odometer =>
    have after : odometer = (c.odometer.advance sample).2 := by rw [advanced]
    cases moved with
    | none => exact .updated sample read after rfl (.inl rfl)
    | some travel =>
      dsimp only
      split
      · exact .updated sample read after rfl (.inl rfl)
      · refine .updated sample read after ?_ (.inr ⟨travel, by rw [advanced], ?_⟩)
        · rw [drive_velocity]
          rfl
        · rw [drive_position]
          rfl

theorem retargeted_velocityStep (read : sample.Counted) : Retargeted c (c.velocityStep sample).2 := by
  unfold velocityStep
  cases advanced : c.odometer.advance sample with
  | mk moved odometer =>
    have after : odometer = (c.odometer.advance sample).2 := by rw [advanced]
    cases moved with
    | none => exact .updated sample read after rfl (.inl rfl)
    | some travel =>
      refine .updated sample read after ?_ (.inl ?_)
      · rw [drive_velocity]
        rfl
      · rw [drive_position]
        rfl

theorem distanceStep_directs {left right : Int16} {travel : Travel}
    (h : (c.distanceStep sample).1 = .drive left right travel) :
    left = directed (c.dutyAsked travel .left) (c.distanceStep sample).2.position.left ∧
      right = directed (c.dutyAsked travel .right) (c.distanceStep sample).2.position.right := by
  unfold distanceStep at h ⊢
  cases advanced : c.odometer.advance sample with
  | mk moved odometer =>
    rw [advanced] at h
    cases moved with
    | none => cases h
    | some covered =>
      dsimp only at h ⊢
      split at h
      · cases h
      · next going =>
        rw [drive_asks, dutyAsked_setPosition, dutyAsked_setPosition] at h
        cases h
        rw [if_neg going, drive_position]
        exact ⟨rfl, rfl⟩

theorem velocityStep_directs {left right : Int16} {travel : Travel}
    (h : (c.velocityStep sample).1 = .drive left right travel) :
    left = directed (c.dutyAsked travel .left) (c.velocityStep sample).2.velocity.left ∧
      right = directed (c.dutyAsked travel .right) (c.velocityStep sample).2.velocity.right := by
  rw [c.velocityStep_velocity sample]
  unfold velocityStep at h
  split at h
  · cases h
  · rw [drive_asks] at h
    cases h
    exact ⟨rfl, rfl⟩

end Steps

theorem exists_reached_iff {target : Float32} :
    (∃ travel, reached travel target = true) ↔ target.isNaN = false := by
  constructor
  · rintro ⟨travel, arrived⟩
    unfold reached at arrived
    split at arrived
    · exact (Single.isNaN_of_le (of_decide_eq_true arrived)).1
    · exact (Single.isNaN_of_le (of_decide_eq_true arrived)).2
  · intro number
    refine ⟨target, ?_⟩
    unfold reached
    split <;> exact decide_eq_true (Single.le_self number)

/-- Built from these settings, and measuring travel from distances that encoder counts give. -/
structure Metered (c : Control) (settings : Settings) : Prop where
  follows : c.Follows settings
  counted : c.odometer.Counted

end Control

def Wire.Command.drives : Command → Bool
  | .drive .. => true
  | _ => false

namespace Robot

section Tasks

variable (r : Robot) (now : Time)

theorem sampleAt_counted : (r.sampleAt now).Counted := ⟨r.board.counts, rfl⟩

theorem retargeted_of_motionPart {r s : Robot} (h : s.motionPart = r.motionPart) :
    r.control.Retargeted s.control :=
  .kept (congrArg MotionPart.wheels h) (congrArg MotionPart.odometer h)

theorem retargeted_controlDistance : r.control.Retargeted (r.controlDistance now).control := by
  have step := r.control.retargeted_distanceStep (r.sampleAt_counted now)
  cases hStep : (r.control.distanceStep (r.sampleAt now)).1 with
  | waiting =>
    rw [(r.controlDistance_of_waiting now hStep).1]
    exact step.arm _ _
  | finished =>
    rw [(r.controlDistance_of_finished now hStep).1]
    exact .cleared rfl rfl rfl
  | drive left right travel =>
    rw [(r.controlDistance_of_drive now hStep).1]
    exact step.arm _ _

theorem retargeted_avoidObstacles : r.control.Retargeted (r.avoidObstacles now).control := by
  cases hDecision : (r.control.avoidance.tick r.board).1 with
  | none =>
    rw [(r.avoidObstacles_of_none now hDecision).1]
    exact .kept rfl rfl
  | some decision =>
    have speeds := Avoidance.tick_speeds hDecision
    cases hEngage : decision.engage with
    | true =>
      rw [(r.avoidObstacles_of_engage now hDecision hEngage).1]
      exact .steered rfl speeds (.inr rfl)
    | false =>
      rw [(r.avoidObstacles_of_steer now hDecision hEngage).1]
      exact .steered rfl speeds (.inl rfl)

theorem retargeted_perform {settings : Settings} (follows : r.control.Follows settings) (task : Task) :
    r.control.Retargeted (r.perform task now).control := by
  cases task
  case restart =>
    have setup := r.perform_setup .restart now
    obtain ⟨position, velocity⟩ := Control.fresh_idle (setup ▸ follows.setup) r.control.battery
    exact .cleared position velocity rfl
  case batteryTask =>
    obtain ⟨_, _, control⟩ := r.sampleBattery_control now
    rw [perform, control]
    exact .kept rfl rfl
  case lowBattery =>
    simp only [perform, warnBattery, complete_control, send_control, note_control]
    exact .kept rfl rfl
  case timedDuty =>
    simp only [perform, arm_control, halt_control, note_control]
    exact .kept rfl rfl
  case distanceControl => exact r.retargeted_controlDistance now
  case velocityControl =>
    rw [perform, controlVelocity_control]
    exact (r.control.retargeted_velocityStep (r.sampleAt_counted now)).arm _ _
  case stopTimer =>
    simp only [perform, stop_control, note_control]
    exact .cleared rfl rfl rfl
  case avoidance => exact r.retargeted_avoidObstacles now
  all_goals exact retargeted_of_motionPart (perform_motionPart (by decide) now)

theorem comply_drive_targets (letter : UInt8) (mode : DriveMode) (linear angular : FloatWord)
    (limit : Option FloatWord) :
    let plan := plan .standard mode linear.value angular.value
    let after := (r.comply letter (.drive mode linear angular limit)).control
    after.position = plan.distance ∧ after.velocity = plan.velocity ∧ after.odometer = .reset := by
  intro plan after
  have control : after = _ := r.comply_drive_control letter mode linear angular limit
  rw [control]
  cases limit <;> exact ⟨rfl, rfl, rfl⟩

theorem retargeted_comply (letter : UInt8) {command : Command} (other : command.drives = false) :
    r.control.Retargeted (r.comply letter command).control := by
  cases command with
  | drive mode linear angular limit => cases other
  | stop =>
    rw [comply, stop_control]
    exact .cleared rfl rfl rfl
  | duty left right limit =>
    rw [comply_duty_control]
    cases limit <;> exact .kept rfl rfl
  | avoid limit =>
    rw [comply_avoid_control]
    cases limit <;> exact .kept rfl rfl
  | _ => exact retargeted_of_motionPart (comply_motionPart r letter rfl (by simp))

end Tasks

variable {settings : Settings} {r : Robot}

theorem counted_comply (h : r.control.odometer.Counted) (letter : UInt8) (command : Command) :
    (r.comply letter command).control.odometer.Counted := by
  cases command with
  | drive mode linear angular limit =>
    rw [(r.comply_drive_targets letter mode linear angular limit).2.2]
    exact Odometer.counted_reset
  | _ => exact (r.retargeted_comply letter rfl).counted h

theorem metered_invariant (settings : Settings) : Invariant settings (Control.Metered · settings) where
  fresh hSetup battery := ⟨Control.follows_fresh hSetup battery, Odometer.counted_reset⟩
  comply _ letter command _ h :=
    ⟨follows_comply h.follows letter command, counted_comply h.counted letter command⟩
  perform r task now h _ :=
    ⟨follows_perform h.follows task now, (r.retargeted_perform now h.follows task).counted h.counted⟩

/-- In the pass no drive is accepted but one that is planned into numbers. -/
def PlansNumbers (r : Robot) (s : Surroundings) : Prop :=
  ∀ mode linear angular limit, r.Accepts s (.drive mode linear angular limit) →
    (plan .standard mode linear.value angular.value).Numeric

theorem aimed_polled_iff {s : Surroundings} {mode : DriveMode} {linear angular : FloatWord}
    {limit : Option FloatWord} (accepts : r.Accepts s (.drive mode linear angular limit)) :
    (r.polled s).control.Aimed ↔ (plan .standard mode linear.value angular.value).Numeric := by
  obtain ⟨letter, _, _, hPoll⟩ := poll_of_obeys accepts.2
  obtain ⟨position, velocity, _⟩ :=
    ((r.served s).received letter).comply_drive_targets letter mode linear angular limit
  rw [polled, hPoll]
  constructor
  · intro aimed
    exact ⟨position ▸ aimed.position, velocity ▸ aimed.velocity⟩
  · intro numeric
    exact ⟨position ▸ numeric.distance, velocity ▸ numeric.velocity⟩

theorem aimed_polled {s : Surroundings} (metered : r.control.Metered settings) (aimed : r.control.Aimed)
    (succeeds : r.Succeeds s) (plans : r.PlansNumbers s) : (r.polled s).control.Aimed := by
  rcases Classical.em (∃ command, (r.served s).Obeys command) with ⟨command, obeys⟩ | none
  · cases command with
    | drive mode linear angular limit =>
      have accepts : r.Accepts s (.drive mode linear angular limit) := ⟨succeeds, obeys⟩
      exact (aimed_polled_iff accepts).mpr (plans mode linear angular limit accepts)
    | _ =>
      obtain ⟨letter, _, _, hPoll⟩ := poll_of_obeys obeys
      rw [polled, hPoll]
      exact (((r.served s).received letter).retargeted_comply letter rfl).aimed metered.counted aimed
  · rw [polled, (poll_of_not_obeys (not_exists.mp none)).1]
    exact aimed

theorem metered_aimed_perform {task : Task} {now : Time} (h : r.control.Metered settings ∧ r.control.Aimed) :
    (r.perform task now).control.Metered settings ∧ (r.perform task now).control.Aimed := by
  have step := r.retargeted_perform now h.1.follows task
  exact ⟨⟨follows_perform h.1.follows task now, step.counted h.1.counted⟩, step.aimed h.1.counted h.2⟩

theorem aimed_atTurn (metered : r.control.Metered settings) (aimed : r.control.Aimed) (task : Task) :
    (r.atTurn task).control.Aimed :=
  (atTurn_induct (P := fun t => t.control.Metered settings ∧ t.control.Aimed)
    (fun _ _ _ h _ => metered_aimed_perform h) ⟨metered, aimed⟩).2

theorem aimed_pass {s : Surroundings} (metered : r.control.Metered settings) (aimed : r.control.Aimed)
    (plans : r.PlansNumbers s) : (r.pass s).control.Aimed := by
  obtain ⟨succeeds, swept⟩ | failed := r.pass_cases s
  · rw [swept]
    exact (sweep_induct (P := fun t => t.control.Metered settings ∧ t.control.Aimed)
      (fun _ _ _ h _ => metered_aimed_perform h)
      ⟨(metered_invariant settings).polled metered s, aimed_polled metered aimed succeeds plans⟩).2
  · rw [failed]
    exact aimed

theorem aimed_passAll (hReachable : Reachable settings r) (aimed : r.control.Aimed) {run : List Surroundings}
    (plans : Along PlansNumbers r run) :
    (r.passAll run).control.Aimed ∧
      Along (fun r s => r.Succeeds s → ∀ task, ((r.polled s).atTurn task).control.Aimed) r run := by
  induction run generalizing r with
  | nil => exact ⟨aimed, trivial⟩
  | cons s run ih =>
    have metered : r.control.Metered settings := (metered_invariant settings).reachable hReachable
    obtain ⟨last, turns⟩ := ih (hReachable.pass s) (aimed_pass metered aimed plans.1) plans.2
    refine ⟨last, fun succeeds task => ?_, turns⟩
    exact aimed_atTurn ((metered_invariant settings).polled metered s)
      (aimed_polled metered aimed succeeds plans.1) task

/-- A drive is refused for just the reasons for which avoidance would be, whatever it asks for. -/
theorem carryOut_drive_eq_error_iff {letter : UInt8} {mode : DriveMode} {linear angular : FloatWord}
    {limit : Option FloatWord} {refusal : Refusal} :
    r.carryOut letter (.drive mode linear angular limit) = .error refusal ↔
      r.carryOut letter (.avoid limit) = .error refusal := by
  rw [carryOut_eq_error_iff, carryOut_eq_error_iff]
  rfl

/-- A robot just started is aimed at numbers, and a drive that is accepted leaves it so exactly if it is
planned into numbers, as every drive with a finite angle is whose length or speed is less than `1e37`.
Nothing but a drive that is not can take the numbers away, and what a drive asks for is no reason to
refuse it. A duty has its direction from the target, and there is a travel that reaches a target
exactly if it is a number. -/
theorem targets_numeric (settings : Settings) :
    (∀ (board : Board) (link : Link) (r : Robot), Robot.start settings board link = .ok r → r.control.Aimed) ∧
    (∀ (r : Robot) (letter : UInt8) (mode : DriveMode) (linear angular : FloatWord) (limit : Option FloatWord)
      (refusal : Refusal), r.carryOut letter (.drive mode linear angular limit) = .error refusal ↔
        r.carryOut letter (.avoid limit) = .error refusal) ∧
    (∀ (r : Robot) (s : Surroundings) (mode : DriveMode) (linear angular : FloatWord)
      (limit : Option FloatWord), r.Accepts s (.drive mode linear angular limit) →
        ((r.polled s).control.Aimed ↔ (plan .standard mode linear.value angular.value).Numeric)) ∧
    (∀ (mode : DriveMode) (linear angular : Float32), linear.abs < 1e37 → angular.isFinite = true →
      (plan .standard mode linear angular).Numeric) ∧
    (∀ (r : Robot) (run : List Surroundings), Reachable settings r → r.control.Aimed →
      Along PlansNumbers r run → (r.passAll run).control.Aimed ∧
        Along (fun r s => r.Succeeds s → ∀ task, ((r.polled s).atTurn task).control.Aimed) r run) ∧
    (∀ (c : Control) (sample : Sample) (left right : Int16) (travel : Travel),
      ((c.distanceStep sample).1 = .drive left right travel →
        left = Control.directed (c.dutyAsked travel .left) (c.distanceStep sample).2.position.left ∧
        right = Control.directed (c.dutyAsked travel .right) (c.distanceStep sample).2.position.right) ∧
      ((c.velocityStep sample).1 = .drive left right travel →
        left = Control.directed (c.dutyAsked travel .left) (c.velocityStep sample).2.velocity.left ∧
        right = Control.directed (c.dutyAsked travel .right) (c.velocityStep sample).2.velocity.right)) ∧
    ∀ target : Float32, (∃ travel, Control.reached travel target = true) ↔ target.isNaN = false := by
  refine ⟨?_, ?_, ?_, ?_, ?_, ?_, fun _ => Control.exists_reached_iff⟩
  · intro board link r hStart
    obtain ⟨setup, battery, hSetup, control, _⟩ := start_control hStart
    obtain ⟨position, velocity⟩ := Control.fresh_idle hSetup battery
    rw [control]
    exact ⟨position ▸ Wheels.numeric_zero, velocity ▸ Wheels.numeric_zero⟩
  · intro r letter mode linear angular limit refusal
    exact carryOut_drive_eq_error_iff
  · intro r s mode linear angular limit accepts
    exact aimed_polled_iff accepts
  · intro mode linear angular near finite
    exact numeric_plan mode near finite
  · intro r run hReachable aimed plans
    exact aimed_passAll hReachable aimed plans
  · intro c sample left right travel
    exact ⟨c.distanceStep_directs, c.velocityStep_directs⟩

/-- A drive of half a meter is taken up, and the pass after it finds no other. -/
theorem targets_numeric_powerOn :
    let s : Surroundings := { clock := .ofMillis 10, arriving := [0x64, 0, 0, 0, 0x3f, 0, 0, 0, 0] }
    let driven := powerOn.passAll [s, { clock := .ofMillis 20 }]
    powerOn.Accepts s (.drive .distance ⟨0x3f000000⟩ ⟨0⟩ none) ∧ driven.control.Aimed ∧
      driven.control.position = .both 0.5 ∧
      ∃ travel, Control.reached travel driven.control.position.left = true := by
  intro s driven
  obtain ⟨start, _, _, modest, along, _, reached⟩ := targets_numeric .standard
  have offers : (powerOn.served s).link.inbox.Offers 0x64 (.drive .distance ⟨0x3f000000⟩ ⟨0⟩ none) := by
    constructor
    all_goals decide +kernel
  have obeys : (powerOn.served s).Obeys (.drive .distance ⟨0x3f000000⟩ ⟨0⟩ none) :=
    ⟨0x64, _, offers, carryOut_eq_ok_iff.mpr ⟨by decide +kernel, rfl⟩⟩
  have plans : Along PlansNumbers powerOn [s, { clock := .ofMillis 20 }] := by
    refine ⟨?_, ?_, trivial⟩
    · rintro mode linear angular limit ⟨_, letter, _, accepted, _⟩
      cases (offers.unique accepted).2
      exact modest .distance _ _ (by decide +kernel) (by decide +kernel)
    · rintro mode linear angular limit ⟨_, accepted⟩
      exact absurd accepted (not_obeys_of_empty (by decide +kernel) _)
  have aimed := (along powerOn _ reachable_powerOn (start _ _ _ start_powerOn) plans).1
  refine ⟨⟨by decide +kernel, obeys⟩, aimed, by decide +kernel, ?_⟩
  exact (reached _).mpr aimed.position.1

/-- A drive whose length is a NaN is accepted. -/
theorem not_targets_numeric : ¬ ∀ r, Reachable .standard r → r.control.Aimed := by
  intro h
  let s : Surroundings := { clock := .ofMillis 10, arriving := [0x64, 0, 0, 0xc0, 0x7f, 0, 0, 0, 0] }
  have aimed := h (powerOn.pass s) (reachable_powerOn.pass s)
  have endless : ¬ (powerOn.pass s).control.position.Numeric := by decide +kernel
  exact endless aimed.position

end Robot

end Rover
