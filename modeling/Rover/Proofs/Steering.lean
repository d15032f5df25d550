import Rover.Proofs.Setup

/-!
# Where an avoiding robot steers

Under direct mapping the speeds that a phase asks for go through the duty map alone. Both speeds of
a turn lie beyond the largest duty cycle, on either side, so both duty cycles end up at the limit
and the wheels turn at speeds that the turn has no say in: the right wheel is always the faster one.
That is a turn to the left, whichever way the robot was to turn.
-/

namespace Rover
open Motion Wire
set_option autoImplicit false

namespace Control

def mappedDuty (side : Side) (speed : Float32) : Int16 := directed (unsignedDuty side speed.abs) speed

theorem velocityStep_mapped {c : Control} (direct : c.setup.strategy = .directMapping) {sample : Sample}
    {left right : Int16} {travel : Travel} (h : (c.velocityStep sample).1 = .drive left right travel) :
    left = mappedDuty .left c.velocity.left ∧ right = mappedDuty .right c.velocity.right := by
  unfold velocityStep at h
  split at h
  · cases h
  · simp only [drive, regulate, direct] at h
    cases h
    exact ⟨rfl, rfl⟩

theorem Coherent.turning {c : Control} (h : c.Coherent) (avoiding : c.agenda.isActive .avoidance = true)
    (turning : c.avoidance.phase = .turnLeft ∨ c.avoidance.phase = .turnRight) :
    ∃ side, c.velocity = (Avoidance.turnFrom side).2 := by
  rcases turning with hPhase | hPhase
  · have asks := (h.steered avoiding (by simp [hPhase])).2
    rw [hPhase] at asks
    exact ⟨.right, asks⟩
  · have asks := (h.steered avoiding (by simp [hPhase])).2
    rw [hPhase] at asks
    exact ⟨.left, asks⟩

end Control

namespace Robot

instance (step : ControlStep) : Decidable (∃ left right travel, step = .drive left right travel) :=
  match step with
  | .drive left right travel => .isTrue ⟨left, right, travel, rfl⟩
  | .waiting | .finished => .isFalse (by simp)

/-- The robot when velocity control gets its turn in the pass. -/
def steering (r : Robot) (s : Surroundings) : Robot := (r.polled s).atTurn .velocityControl

def steered (r : Robot) (s : Surroundings) : Robot := (r.steering s).perform .velocityControl s.clock

/-- While obstacles are being avoided, velocity control has its turn and sets duty cycles. -/
structure Steers (r : Robot) (s : Surroundings) : Prop where
  performs : r.Performs s .velocityControl
  avoiding : (r.steering s).control.agenda.isActive .avoidance = true
  drives : ∃ left right travel,
    ((r.steering s).control.velocityStep ((r.steering s).sampleAt s.clock)).1 = .drive left right travel

theorem Reachable.steering_strategy {settings : Settings} {r : Robot} (h : Reachable settings r)
    (s : Surroundings) : (r.steering s).control.setup.strategy = settings.strategy := by
  have follows : (r.steering s).control.Follows settings := h.follows_atTurn s .velocityControl
  exact (Settings.setup_of_ok follows.setup).1

theorem Reachable.steering_coherent {settings : Settings} {r : Robot} (h : Reachable settings r)
    (s : Surroundings) : (r.steering s).control.Coherent :=
  h.coherent_atTurn s .velocityControl

theorem steered_duty {settings : Settings} (direct : settings.strategy = .directMapping) {r : Robot}
    (h : Reachable settings r) {s : Surroundings} (steers : r.Steers s) :
    (r.steered s).board.enabled = true ∧
      (r.steered s).board.duty =
        ⟨clampDuty (Control.mappedDuty .left (r.steering s).control.velocity.left),
          clampDuty (Control.mappedDuty .right (r.steering s).control.velocity.right)⟩ := by
  obtain ⟨left, right, travel, hDrive⟩ := steers.drives
  have mapped := Control.velocityStep_mapped ((h.steering_strategy s).trans direct) hDrive
  have board := (r.steering s).controlVelocity_board_of_drive s.clock hDrive
  rw [steered, perform, board, ← mapped.1, ← mapped.2]
  exact ⟨rfl, rfl⟩

/-- Both speeds of a turn are more than any duty cycle gives. -/
theorem turn_saturates (side : Side) :
    clampDuty (Control.mappedDuty .left (Avoidance.turnFrom side).2.left) = 100 ∧
      clampDuty (Control.mappedDuty .right (Avoidance.turnFrom side).2.right) = 100 := by
  cases side <;> decide +kernel

end Robot

theorem Board.wheelSpeed_of_saturated {board : Board} (on : board.enabled = true)
    (duty : board.duty = .both 100) (side : Side) : board.wheelSpeed side = speedOfDuty side 100 := by
  cases side <;> simp [wheelSpeed, on, duty, Wheels.both, Wheels.get] <;> rfl

/-- The wheel on the side of the obstacle is strictly the faster one. -/
structure Board.TurnsAway (board : Board) (phase : Phase) : Prop where
  fromLeft : phase = .turnRight → board.wheelSpeed .right < board.wheelSpeed .left
  fromRight : phase = .turnLeft → board.wheelSpeed .left < board.wheelSpeed .right

namespace Robot

/-- In either turn both duty cycles are at the limit, so a robot under direct mapping turns away
from obstacles on its right and toward obstacles on its left. -/
theorem turnsAway_iff {settings : Settings} (direct : settings.strategy = .directMapping) {r : Robot}
    (h : Reachable settings r) {s : Surroundings} (steers : r.Steers s)
    (turning : (r.steering s).control.avoidance.phase = .turnLeft ∨
      (r.steering s).control.avoidance.phase = .turnRight) :
    (r.steered s).board.duty = .both 100 ∧
      ((r.steered s).board.TurnsAway (r.steering s).control.avoidance.phase ↔
        (r.steering s).control.avoidance.phase = .turnLeft) := by
  obtain ⟨on, duty⟩ := steered_duty direct h steers
  have saturated : (r.steered s).board.duty = .both 100 := by
    rw [duty]
    obtain ⟨side, velocity⟩ := (h.steering_coherent s).turning steers.avoiding turning
    rw [velocity, (turn_saturates side).1, (turn_saturates side).2]
    rfl
  have speed := Board.wheelSpeed_of_saturated on saturated
  have faster : speedOfDuty .left 100 < speedOfDuty .right 100 := by decide +kernel
  have notSlower : ¬ speedOfDuty .right 100 < speedOfDuty .left 100 := by decide +kernel
  refine ⟨saturated, ?_, ?_⟩
  · intro away
    rcases turning with hLeft | hRight
    · exact hLeft
    · have wrong := away.fromLeft hRight
      rw [speed, speed] at wrong
      exact absurd wrong notSlower
  · intro hLeft
    constructor
    · intro hRight
      cases hLeft.symm.trans hRight
    · intro _
      rw [speed, speed]
      exact faster

/-- Avoidance is asked for, and before the fifth pass an obstacle has been seen on one side. -/
def facing (reflections : Wheels UInt8) : Robot :=
  powerOn.passAll
    [{ clock := .ofMillis 10, arriving := [0x6f], reflections }, { clock := .ofMillis 20, reflections },
      { clock := .ofMillis 30, reflections }, { clock := .ofMillis 40, reflections }]

theorem turnsAway_iff_right :
    let s : Surroundings := { clock := .ofMillis 50, reflections := ⟨0, 5⟩ }
    (facing ⟨0, 5⟩).Steers s ∧ ((facing ⟨0, 5⟩).steering s).control.avoidance.phase = .turnLeft ∧
      ((facing ⟨0, 5⟩).steered s).board.wheelSpeed .left <
        ((facing ⟨0, 5⟩).steered s).board.wheelSpeed .right := by
  intro s
  have reachable : Reachable .standard (facing ⟨0, 5⟩) := reachable_powerOn.passAll _
  have steers : (facing ⟨0, 5⟩).Steers s := by
    constructor
    all_goals decide +kernel
  have phase : ((facing ⟨0, 5⟩).steering s).control.avoidance.phase = .turnLeft := by decide +kernel
  obtain ⟨_, exactly⟩ := turnsAway_iff rfl reachable steers (.inl phase)
  exact ⟨steers, phase, (exactly.mpr phase).fromRight phase⟩

theorem not_turnsAway_left :
    ¬ ∀ r s, Reachable .standard r → r.Steers s →
      (r.steered s).board.TurnsAway (r.steering s).control.avoidance.phase := by
  intro h
  let s : Surroundings := { clock := .ofMillis 50, reflections := ⟨5, 0⟩ }
  have reachable : Reachable .standard (facing ⟨5, 0⟩) := reachable_powerOn.passAll _
  have steers : (facing ⟨5, 0⟩).Steers s := by
    constructor
    all_goals decide +kernel
  have phase : ((facing ⟨5, 0⟩).steering s).control.avoidance.phase = .turnRight := by decide +kernel
  have slower : ¬ ((facing ⟨5, 0⟩).steered s).board.wheelSpeed .right <
      ((facing ⟨5, 0⟩).steered s).board.wheelSpeed .left := by
    decide +kernel
  exact slower ((h (facing ⟨5, 0⟩) s reachable steers).fromLeft phase)

end Robot

end Rover
