import Rover.Proofs.Movement

/-!
# What reaches the motors

A command or a task does one of three things to the motors: it leaves them as they are, it switches
them off, or it drives them at duty cycles cut to the permitted range. So they are within bounds in
every state. A control update asks for a duty that is positive before it is given its direction.
-/

namespace Rover
open Motion Wire
set_option autoImplicit false

namespace Motion

theorem clampDuty_range (duty : Int16) : -100 ≤ (clampDuty duty).toInt ∧ (clampDuty duty).toInt ≤ 100 := by
  have low : (-maxDuty).toInt = -100 := by decide
  have high : maxDuty.toInt = 100 := by decide
  unfold clampDuty
  split
  · rw [low]
    decide
  · next notBelow =>
    split
    · rw [high]
      decide
    · next notAbove =>
      rw [Int16.lt_iff_toInt_lt, low] at notBelow
      rw [Int16.lt_iff_toInt_lt, high] at notAbove
      omega

end Motion

namespace Control

theorem unsignedDuty_nonneg (side : Side) (speed : Float32) : 0 ≤ (unsignedDuty side speed).toInt := by
  unfold unsignedDuty
  dsimp only
  split
  · decide
  · next notNegative =>
    rw [Int16.lt_iff_toInt_lt] at notNegative
    have zero : (0 : Int16).toInt = 0 := rfl
    omega

/-- Only the lowest number has no negative. -/
theorem toInt_neg_of_nonneg {n : Int16} (h : 0 ≤ n.toInt) : (-n).toInt = -n.toInt := by
  have := n.toInt_lt
  rw [Int16.toInt_neg]
  apply Int.bmod_eq_of_le <;> omega

/-- The duty that an update asks of one wheel, before it is given its direction. -/
def dutyAsked (c : Control) (travel : Travel) (side : Side) : Int16 :=
  unsignedDuty side
    (regulate c.setup.strategy (c.wheels.get side) (travel.distance.get side) travel.dt).1

theorem dutyAsked_setPosition (c : Control) (position : Wheels Float32) (travel : Travel) (side : Side) :
    (c.setPosition position).dutyAsked travel side = c.dutyAsked travel side := by
  have strategy : (c.setPosition position).setup.strategy = c.setup.strategy := rfl
  unfold dutyAsked
  rw [strategy]
  cases c.setup.strategy <;> cases side <;> rfl

theorem drive_asks (c : Control) (travel : Travel) (direction : Wheels Float32) :
    (c.drive travel direction).1 = .drive (directed (c.dutyAsked travel .left) direction.left)
      (directed (c.dutyAsked travel .right) direction.right) travel := rfl

theorem directed_cases (duty : Int16) (direction : Float32) :
    directed duty direction = duty ∨ directed duty direction = -duty := by
  unfold directed
  split
  · exact .inl rfl
  · exact .inr rfl

variable {c : Control} {sample : Sample} {left right : Int16} {travel : Travel}

theorem distanceStep_asks (h : (c.distanceStep sample).1 = .drive left right travel) :
    ∃ direction : Wheels Float32, left = directed (c.dutyAsked travel .left) direction.left ∧
      right = directed (c.dutyAsked travel .right) direction.right := by
  unfold distanceStep at h
  split at h
  · cases h
  · next covered odometer _ =>
    dsimp only at h
    split at h
    · cases h
    · rw [drive_asks, dutyAsked_setPosition, dutyAsked_setPosition] at h
      cases h
      exact ⟨_, rfl, rfl⟩

theorem velocityStep_asks (h : (c.velocityStep sample).1 = .drive left right travel) :
    ∃ direction : Wheels Float32, left = directed (c.dutyAsked travel .left) direction.left ∧
      right = directed (c.dutyAsked travel .right) direction.right := by
  unfold velocityStep at h
  split at h
  · cases h
  · rw [drive_asks] at h
    cases h
    exact ⟨_, rfl, rfl⟩

theorem velocityStep_ne_finished : (c.velocityStep sample).1 ≠ .finished := by
  unfold velocityStep
  split
  · exact nofun
  · rw [drive_asks]
    exact nofun

end Control

namespace Board

/-- What a control update does to the motors. -/
def follow (board : Board) : ControlStep → Board
  | .waiting => board
  | .finished => board.halt
  | .drive left right _ => board.drive left right

inductive Commanded (board after : Board) : Prop where
  | kept : after.duty = board.duty → after.enabled = board.enabled → Commanded board after
  | halted : after.AtRest → Commanded board after
  | driven (left right : Int16) : after.duty = ⟨clampDuty left, clampDuty right⟩ → after.enabled = true →
      Commanded board after

/-- Duty cycles within bounds, and none while the motors are off. -/
structure InRange (board : Board) : Prop where
  bounds : ∀ side, -100 ≤ (board.duty.get side).toInt ∧ (board.duty.get side).toInt ≤ 100
  disabled : board.enabled = false → board.duty = .both 0

theorem AtRest.inRange {board : Board} (off : board.AtRest) : board.InRange where
  bounds := by
    intro side
    rw [off.1]
    cases side <;> decide
  disabled := fun _ => off.1

theorem InRange.commanded {board after : Board} (h : board.InRange) (hAfter : board.Commanded after) :
    after.InRange := by
  cases hAfter with
  | kept duty enabled =>
    constructor
    · rw [duty]
      exact h.bounds
    · rw [duty, enabled]
      exact h.disabled
  | halted off => exact off.inRange
  | driven left right duty enabled =>
    constructor
    · intro side
      rw [duty]
      cases side <;> exact clampDuty_range _
    · intro off
      rw [enabled] at off
      cases off

theorem commanded_follow (board : Board) (step : ControlStep) : board.Commanded (board.follow step) := by
  cases step with
  | waiting => exact .kept rfl rfl
  | finished => exact .halted ⟨rfl, rfl⟩
  | drive left right travel => exact .driven left right rfl rfl

theorem commanded_service (board : Board) : board.Commanded board.service := by
  unfold service
  dsimp only
  split <;> exact .kept rfl rfl

theorem commanded_meet (board : Board) (s : Surroundings) : board.Commanded (board.meet s) := .kept rfl rfl

end Board

namespace Robot

section Parts

variable (r : Robot) (now : Time)

theorem controlDistance_board :
    (r.controlDistance now).board = r.board.follow (r.control.distanceStep (r.sampleAt now)).1 := by
  cases hStep : (r.control.distanceStep (r.sampleAt now)).1 with
  | waiting => exact (r.controlDistance_of_waiting now hStep).2
  | finished => exact (r.controlDistance_of_finished now hStep).2
  | drive left right travel => exact (r.controlDistance_of_drive now hStep).2

theorem controlVelocity_board :
    (r.controlVelocity now).board = r.board.follow (r.control.velocityStep (r.sampleAt now)).1 := by
  cases hStep : (r.control.velocityStep (r.sampleAt now)).1 with
  | waiting =>
    unfold sampleAt at hStep
    simp [controlVelocity, hStep, Board.follow]
  | finished => exact absurd hStep Control.velocityStep_ne_finished
  | drive left right travel => exact r.controlVelocity_board_of_drive now hStep

theorem commanded_avoidObstacles : r.board.Commanded (r.avoidObstacles now).board := by
  have ticked : (r.control.avoidance.tick r.board).2.2.duty = r.board.duty ∧
      (r.control.avoidance.tick r.board).2.2.enabled = r.board.enabled := by
    unfold Avoidance.tick
    split <;> exact ⟨rfl, rfl⟩
  cases hDecision : (r.control.avoidance.tick r.board).1 with
  | none =>
    rw [(r.avoidObstacles_of_none now hDecision).2]
    exact .kept ticked.1 ticked.2
  | some decision =>
    cases hEngage : decision.engage with
    | true =>
      rw [(r.avoidObstacles_of_engage now hDecision hEngage).2]
      exact .kept ticked.1 ticked.2
    | false =>
      rw [(r.avoidObstacles_of_steer now hDecision hEngage).2]
      exact .kept ticked.1 ticked.2

theorem commanded_stop : r.board.Commanded r.stop.board := by
  rw [stop_board]
  exact .halted ⟨rfl, rfl⟩

theorem commanded_of_motionPart {r s : Robot} (h : s.motionPart = r.motionPart) : r.board.Commanded s.board :=
  .kept (congrArg (fun part => part.board.duty) h) (congrArg (fun part => part.board.enabled) h)

theorem commanded_perform (task : Task) : r.board.Commanded (r.perform task now).board := by
  cases task
  case restart => exact commanded_stop (r.note .restarting)
  case stopTimer => exact commanded_stop (r.note .stopExpired)
  case batteryTask =>
    rw [perform, sampleBattery_board]
    exact .kept rfl rfl
  case lowBattery =>
    simp only [perform, warnBattery, complete_board, send_board, note_board]
    exact .kept rfl rfl
  case timedDuty =>
    simp only [perform, arm_board, halt_board, note_board]
    exact .halted ⟨rfl, rfl⟩
  case distanceControl =>
    rw [perform, controlDistance_board]
    exact r.board.commanded_follow _
  case velocityControl =>
    rw [perform, controlVelocity_board]
    exact r.board.commanded_follow _
  case avoidance => exact r.commanded_avoidObstacles now
  all_goals exact commanded_of_motionPart (perform_motionPart (by decide) now)

theorem comply_duty_board (letter : UInt8) (left right : Int16) (limit : Option FloatWord) :
    (r.comply letter (.duty left right limit)).board = r.board.drive left right := by
  cases limit <;> simp [comply]

theorem comply_drive_board (letter : UInt8) (mode : DriveMode) (linear angular : FloatWord)
    (limit : Option FloatWord) :
    (r.comply letter (.drive mode linear angular limit)).board = r.board.zeroEncoders := by
  simp only [comply]
  split <;> cases limit <;> simp [armStopTimer]

theorem comply_avoid_board (letter : UInt8) (limit : Option FloatWord) :
    (r.comply letter (.avoid limit)).board = r.board := by
  cases limit <;> rfl

theorem commanded_comply (letter : UInt8) (command : Command) :
    r.board.Commanded (r.comply letter command).board := by
  cases command with
  | stop => exact r.commanded_stop
  | duty left right limit =>
    rw [comply_duty_board]
    exact .driven left right rfl rfl
  | drive mode linear angular limit =>
    rw [comply_drive_board]
    exact .kept rfl rfl
  | avoid limit =>
    rw [comply_avoid_board]
    exact .kept rfl rfl
  | _ => exact commanded_of_motionPart (comply_motionPart r letter rfl nofun)

theorem commanded_poll : r.board.Commanded r.poll.board := by
  obtain ⟨letter, command, _, _, board⟩ | ⟨_, board⟩ := r.poll_effect
  · rw [board]
    exact commanded_comply (r.received letter) letter command
  · rw [board]
    exact .kept rfl rfl

end Parts

variable {r : Robot}

theorem inRange_perform (task : Task) (now : Time) (h : r.board.InRange) : (r.perform task now).board.InRange :=
  h.commanded (r.commanded_perform now task)

theorem inRange_sweep (h : r.board.InRange) : r.sweep.board.InRange :=
  sweep_induct (P := fun t => t.board.InRange) (fun _ task now h _ => inRange_perform task now h) h

theorem inRange_atTurn (h : r.board.InRange) (task : Task) : (r.atTurn task).board.InRange :=
  atTurn_induct (P := fun t => t.board.InRange) (fun _ task now h _ => inRange_perform task now h) h

theorem inRange_tick (h : r.board.InRange) : r.tick.2.board.InRange := by
  have serviced : r.board.service.InRange := h.commanded r.board.commanded_service
  unfold tick
  dsimp only
  split
  · exact serviced
  · next link _ =>
    dsimp only
    let serving : Robot := { r with board := r.board.service, link }
    have polled : serving.poll.board.InRange := serviced.commanded serving.commanded_poll
    exact inRange_sweep polled

theorem inRange_stop (h : r.board.InRange) : r.stop.board.InRange := h.commanded (commanded_stop r)

theorem inRange_tickOrHalt (h : r.board.InRange) : r.tickOrHalt.2.board.InRange :=
  tickOrHalt_induct (P := fun t => t.board.InRange) (fun _ _ => id) (fun _ => inRange_stop) (fun _ => inRange_tick) h

theorem inRange_run (loopMicros stepMicros : Nat) (interruptAfter : Option Nat) (h : r.board.InRange) :
    (r.run loopMicros stepMicros interruptAfter).2.board.InRange := by
  refine run_induct (P := fun t => t.board.InRange) (fun _ _ => id) (fun _ => inRange_stop) (fun _ => inRange_tick) ?_
    loopMicros stepMicros interruptAfter h
  intro r micros h
  exact h.commanded (.kept rfl rfl)

theorem Reachable.inRange {settings : Settings} (h : Reachable settings r) : r.board.InRange := by
  induction h with
  | start off hStart =>
    obtain ⟨_, _, _, _, board⟩ := start_control hStart
    rw [board]
    exact off.inRange
  | @pass r s _ ih => exact inRange_tick (ih.commanded (r.board.commanded_meet s))

/-- In every state between passes and within one, when a link fails and when a run ends, the duty
cycles are within bounds, and none is left while the motors are off. A control update asks each
wheel for a duty that is not negative, so that reversing it never overflows. -/
theorem motors_in_range (settings : Settings) :
    (∀ r, Reachable settings r → r.board.InRange ∧
      (∀ s, (r.served s).board.InRange ∧ (∀ task, ((r.polled s).atTurn task).board.InRange) ∧
        (r.meet s).tickOrHalt.2.board.InRange) ∧
      ∀ loopMicros stepMicros interruptAfter,
        (r.run loopMicros stepMicros interruptAfter).2.board.InRange) ∧
    ∀ (c : Control) (sample : Sample) (left right : Int16) (travel : Travel),
      (c.distanceStep sample).1 = .drive left right travel ∨
        (c.velocityStep sample).1 = .drive left right travel →
      (∀ side, 0 ≤ (c.dutyAsked travel side).toInt ∧ (c.dutyAsked travel side).toInt ≤ 32767 ∧
        (-c.dutyAsked travel side).toInt = -(c.dutyAsked travel side).toInt) ∧
      (left = c.dutyAsked travel .left ∨ left = -c.dutyAsked travel .left) ∧
      (right = c.dutyAsked travel .right ∨ right = -c.dutyAsked travel .right) := by
  constructor
  · intro r hReachable
    have inRange := hReachable.inRange
    refine ⟨inRange, ?_, fun _ _ _ => inRange_run _ _ _ inRange⟩
    intro s
    have met : (r.meet s).board.InRange := inRange.commanded (r.board.commanded_meet s)
    have served : (r.served s).board.InRange := met.commanded (Board.commanded_service _)
    refine ⟨served, fun task => ?_, inRange_tickOrHalt met⟩
    exact inRange_atTurn (served.commanded (commanded_poll _)) task
  · intro c sample left right travel asked
    have duties : ∃ direction : Wheels Float32,
        left = Control.directed (c.dutyAsked travel .left) direction.left ∧
        right = Control.directed (c.dutyAsked travel .right) direction.right := by
      rcases asked with distance | velocity
      · exact Control.distanceStep_asks distance
      · exact Control.velocityStep_asks velocity
    obtain ⟨direction, rfl, rfl⟩ := duties
    refine ⟨fun side => ?_, Control.directed_cases .., Control.directed_cases ..⟩
    have nonneg : 0 ≤ (c.dutyAsked travel side).toInt := Control.unsignedDuty_nonneg side _
    have below : (c.dutyAsked travel side).toInt ≤ 32767 := Int.le_of_lt_add_one (Int16.toInt_lt _)
    exact ⟨nonneg, below, Control.toInt_neg_of_nonneg nonneg⟩

/-- The lowest and the highest duty cycle are asked for; and a drive backwards asks for more than
there is. -/
theorem motors_in_range_powerOn :
    let driven := powerOn.pass { clock := .ofMillis 10, arriving := [0x70, 0, 0x80, 0xff, 0x7f] }
    let backwards := powerOn.pass
      { clock := .ofMillis 10, arriving := [0x76, 0, 0, 0x80, 0xbf, 0, 0, 0, 0] }
    let travel : Travel := ⟨.both 0, (Time.ofMillis 10).toSeconds⟩
    driven.board.duty = ⟨-100, 100⟩ ∧ driven.board.InRange ∧
      (backwards.control.velocityStep (backwards.sampleAt (.ofMillis 20))).1 = .drive (-299) (-290) travel ∧
      0 ≤ (backwards.control.dutyAsked travel .left).toInt ∧
      (backwards.pass { clock := .ofMillis 20 }).board.duty = .both (-100) := by
  intro driven backwards travel
  obtain ⟨inRange, asked⟩ := motors_in_range .standard
  have step : (backwards.control.velocityStep (backwards.sampleAt (.ofMillis 20))).1 =
      .drive (-299) (-290) travel := by
    decide +kernel
  refine ⟨by decide +kernel, (inRange driven (reachable_powerOn.pass _)).1, step, ?_, by decide +kernel⟩
  exact ((asked backwards.control _ _ _ _ (.inr step)).1 .left).1

end Robot

end Rover
