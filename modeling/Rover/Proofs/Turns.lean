import Rover.Motion.Plan
import Rover.Proofs.Difference

/-!
# Turns to either side

A turn to the right is planned like the turn to the left by the same angle, with the wheels in each
other's place. The inner wheel of an arc goes exactly as far as was asked for, at the speed of turns,
and in a spin it goes back as far as the outer wheel goes ahead. Of the distance only the size counts:
a turn asked to go back goes ahead all the same, and on no arc does a wheel run backwards.
-/

namespace Rover.Motion
open Single
set_option autoImplicit false

/-- The side that a turn goes to, where the inner wheel is. -/
def turnSide (angular : Float32) : Side := if angular > 0 then .left else .right

/-- The same drive to the other side: the wheels change places, but for the speeds of a spin, which
each wheel has for itself. -/
def Plan.mirror (plan : Plan) : Plan :=
  { plan with
    distance := plan.distance.swap
    velocity := if plan.maneuver = .arc then plan.velocity.swap else plan.velocity }

theorem placeTurn_not (left : Bool) (inner outer : Float32) :
    placeTurn (!left) inner outer = (placeTurn left inner outer).swap := by
  cases left <;> rfl

theorem placeTurn_get_turnSide (angular inner outer : Float32) :
    (placeTurn (angular > 0) inner outer).get (turnSide angular) = inner := by
  unfold turnSide placeTurn
  by_cases left : angular > 0
  · simp only [left, decide_true, if_true]
    rfl
  · simp only [left, decide_false, if_false, Bool.false_eq_true]
    rfl

theorem placeTurn_get_or (left : Bool) (inner outer : Float32) (side : Side) :
    (placeTurn left inner outer).get side = inner ∨ (placeTurn left inner outer).get side = outer := by
  cases left <;> cases side
  · exact .inr rfl
  · exact .inl rfl
  · exact .inl rfl
  · exact .inr rfl

theorem decide_neg_pos {angular : Float32} (size : 0 < angular.abs) :
    decide (-angular > 0) = !decide (angular > 0) := by
  rcases zero_lt_or_of_abs size with left | right
  · have opposite : ¬ -angular > 0 := fun h => not_lt_zero left (zero_lt_neg_iff.mp h)
    rw [decide_eq_false opposite, decide_eq_true left]
    rfl
  · have opposite : ¬ angular > 0 := fun h => not_lt_zero h right
    rw [decide_eq_false opposite, decide_eq_true (zero_lt_neg_iff.mpr right)]
    rfl

variable (geometry : Geometry) (linear angular : Float32)

def Geometry.outerArc : Float32 := angular.abs * (linear.abs / angular.abs + geometry.wheelBase)

def Geometry.spinArc : Float32 := geometry.halfWheelBase * angular.abs / 2

variable {geometry linear angular}

section Straight

variable (straight : angular.abs < geometry.straightThreshold)
include straight

theorem planDistance_of_straight :
    planDistance geometry linear angular = ⟨.straight, .both linear, geometry.straightVelocity⟩ := if_pos straight

theorem planVelocity_of_straight :
    planVelocity geometry linear angular = ⟨.straight, .both 0, .both linear⟩ := if_pos straight

end Straight

section Turning

variable (turning : ¬ angular.abs < geometry.straightThreshold)
include turning

theorem planDistance_of_spin (short : linear.abs < geometry.minTurnArc) :
    planDistance geometry linear angular =
      ⟨.spin, placeTurn (angular > 0) (-geometry.spinArc angular) (geometry.spinArc angular),
        geometry.spinVelocity⟩ := by
  unfold planDistance
  rw [if_neg turning]
  exact if_pos short

theorem planDistance_of_arc (long : ¬ linear.abs < geometry.minTurnArc) :
    planDistance geometry linear angular =
      ⟨.arc, placeTurn (angular > 0) linear.abs (geometry.outerArc linear angular),
        placeTurn (angular > 0) geometry.turnVelocity
          (geometry.outerArc linear angular / (linear.abs / geometry.turnVelocity))⟩ := by
  unfold planDistance
  rw [if_neg turning]
  exact if_neg long

theorem planVelocity_of_turn :
    planVelocity geometry linear angular =
      ⟨.arc, .both 0, placeTurn (angular > 0) linear (linear + geometry.wheelBase * angular.abs)⟩ := if_neg turning

theorem planDistance_maneuver :
    (planDistance geometry linear angular).maneuver = if linear.abs < geometry.minTurnArc then .spin else .arc := by
  split
  · next short => rw [planDistance_of_spin turning short]
  · next long => rw [planDistance_of_arc turning long]

theorem planDistance_of_abs {other : Float32} (same : other.abs = linear.abs) :
    planDistance geometry other angular = planDistance geometry linear angular := by
  by_cases short : linear.abs < geometry.minTurnArc
  · rw [planDistance_of_spin turning short, planDistance_of_spin turning (same ▸ short)]
  · rw [planDistance_of_arc turning short, planDistance_of_arc turning (same ▸ short), Geometry.outerArc, same]
    rfl

variable (size : 0 < angular.abs)
include size

theorem planDistance_neg : planDistance geometry linear (-angular) = (planDistance geometry linear angular).mirror := by
  have turningBack : ¬ (-angular).abs < geometry.straightThreshold := (abs_neg angular).symm ▸ turning
  by_cases short : linear.abs < geometry.minTurnArc
  · have reach : geometry.spinArc (-angular) = geometry.spinArc angular := by
      rw [Geometry.spinArc, abs_neg, Geometry.spinArc]
    rw [planDistance_of_spin turningBack short, planDistance_of_spin turning short, reach, decide_neg_pos size,
      placeTurn_not]
    rfl
  · have reach : geometry.outerArc linear (-angular) = geometry.outerArc linear angular := by
      rw [Geometry.outerArc, abs_neg, Geometry.outerArc]
    rw [planDistance_of_arc turningBack short, planDistance_of_arc turning short, reach, decide_neg_pos size,
      placeTurn_not, placeTurn_not]
    rfl

theorem planVelocity_neg :
    let steady := planVelocity geometry linear angular
    planVelocity geometry linear (-angular) = { steady with velocity := steady.velocity.swap } := by
  have turningBack : ¬ (-angular).abs < geometry.straightThreshold := (abs_neg angular).symm ▸ turning
  rw [planVelocity_of_turn turningBack, planVelocity_of_turn turning, abs_neg, decide_neg_pos size, placeTurn_not]

end Turning

theorem outerArc_not_neg (base : 0 ≤ geometry.wheelBase) :
    ¬ geometry.outerArc linear angular < 0 := by
  have turn : Unsigned angular.abs.toModel.unpack := unsigned_single_abs
  have radius : Unsigned (linear.abs / angular.abs).toModel.unpack :=
    unsigned_unpack_pack (unsigned_div _ unsigned_single_abs turn)
  have outer : Unsigned (linear.abs / angular.abs + geometry.wheelBase).toModel.unpack :=
    unsigned_unpack_pack (unsigned_add radius (le_iff.mp base))
  exact not_lt_zero_of_unsigned (unsigned_unpack_pack (unsigned_mul _ turn outer))

theorem zero_lt_or_spinArc_eq (half : 0 < geometry.halfWheelBase) (size : 0 < angular.abs) :
    0 < geometry.spinArc angular ∨ geometry.spinArc angular = 0 := by
  have number : (geometry.halfWheelBase * angular.abs).isNaN = false :=
    (isNaN_unpack_pack _).trans (isNaN_mul_of_positive (zero_lt_iff.mp half) (zero_lt_iff.mp size))
  have product : Unsigned (geometry.halfWheelBase * angular.abs).toModel.unpack :=
    unsigned_unpack_pack (unsigned_mul _ (unsigned_of_zero_lt (lt_iff.mp half)) unsigned_single_abs)
  have halved : Unsigned (geometry.spinArc angular).toModel.unpack :=
    unsigned_unpack_pack (unsigned_div _ product (show Unsigned (2 : Float32).toModel.unpack by rw [unpack_two]; rfl))
  exact zero_lt_or_eq_zero halved (isNaN_single_div unpack_two number)

theorem placeTurn_opposite (left : Bool) (reach : Float32) :
    let wheels := placeTurn left (-reach) reach
    wheels.left = -wheels.right ∧ wheels.right = -wheels.left := by
  cases left with
  | true => exact ⟨rfl, (neg_neg reach).symm⟩
  | false => exact ⟨(neg_neg reach).symm, rfl⟩

/-- The inner wheel of an arc is the one that was asked for, and neither wheel goes back. -/
theorem arc_ahead (turning : ¬ angular.abs < geometry.straightThreshold)
    (arc : (planDistance geometry linear angular).maneuver = .arc) :
    let plan := planDistance geometry linear angular
    plan.distance.get (turnSide angular) = linear.abs ∧ plan.velocity.get (turnSide angular) = geometry.turnVelocity ∧
      (0 ≤ geometry.wheelBase → ∀ side, ¬ plan.distance.get side < 0) := by
  have long : ¬ linear.abs < geometry.minTurnArc := by
    intro short
    rw [planDistance_of_spin turning short] at arc
    cases arc
  rw [planDistance_of_arc turning long]
  refine ⟨placeTurn_get_turnSide .., placeTurn_get_turnSide .., ?_⟩
  intro base side
  rcases placeTurn_get_or (angular > 0) linear.abs (geometry.outerArc linear angular) side with inner | outer
  · rw [inner]
    exact not_lt_zero_of_unsigned unsigned_single_abs
  · rw [outer]
    exact outerArc_not_neg base

theorem spin_opposite (turning : ¬ angular.abs < geometry.straightThreshold) (size : 0 < angular.abs)
    (spin : (planDistance geometry linear angular).maneuver = .spin) :
    let plan := planDistance geometry linear angular
    (plan.distance.left = -plan.distance.right ∧ plan.distance.right = -plan.distance.left) ∧
      (0 < geometry.halfWheelBase → (plan.distance.get (turnSide angular) == 0) = false →
        plan.distance.get (turnSide angular) < 0) := by
  have short : linear.abs < geometry.minTurnArc := by
    by_contra long
    rw [planDistance_of_arc turning long] at spin
    cases spin
  rw [planDistance_of_spin turning short]
  refine ⟨placeTurn_opposite .., ?_⟩
  intro half nonzero
  rw [placeTurn_get_turnSide] at nonzero ⊢
  rcases zero_lt_or_spinArc_eq half size with ahead | still
  · exact neg_lt_zero_iff.mpr ahead
  · rw [still] at nonzero
    exact absurd nonzero (by decide +kernel)

/-- Every turn to one side is the turn to the other by the same angle with the wheels in each other's
place, and what is asked to go back goes ahead; below the straight threshold the side makes no
difference. -/
theorem right_mirrors_left (positive : 0 < geometry.straightThreshold) (linear angular : Float32) :
    (geometry.straightThreshold ≤ angular.abs →
      let plan := planDistance geometry linear angular
      let steady := planVelocity geometry linear angular
      let inner := turnSide angular
      planDistance geometry linear (-angular) = plan.mirror ∧
        (∀ other : Float32, other.abs = linear.abs → planDistance geometry other angular = plan) ∧
        (plan.maneuver = if linear.abs < geometry.minTurnArc then .spin else .arc) ∧
        (plan.maneuver = .arc →
          plan.distance.get inner = linear.abs ∧ plan.velocity.get inner = geometry.turnVelocity ∧
            (0 ≤ geometry.wheelBase → ∀ side, ¬ plan.distance.get side < 0)) ∧
        (plan.maneuver = .spin →
          (plan.distance.left = -plan.distance.right ∧ plan.distance.right = -plan.distance.left) ∧
            (0 < geometry.halfWheelBase → (plan.distance.get inner == 0) = false → plan.distance.get inner < 0)) ∧
        steady.maneuver = .arc ∧ steady.velocity.get inner = linear ∧
        planVelocity geometry linear (-angular) = { steady with velocity := steady.velocity.swap }) ∧
      (angular.abs < geometry.straightThreshold →
        ∃ velocity, ∀ signed, signed = angular ∨ signed = -angular →
          planDistance geometry linear signed = ⟨.straight, .both linear, velocity⟩ ∧
            planVelocity geometry linear signed = ⟨.straight, .both 0, .both linear⟩) := by
  constructor
  · intro far plan steady inner
    have turning : ¬ angular.abs < geometry.straightThreshold := not_lt_of_le far
    have size : 0 < angular.abs := zero_lt_of_lt_of_le positive far
    refine ⟨planDistance_neg turning size, fun other same => planDistance_of_abs turning same,
      planDistance_maneuver turning, arc_ahead turning, spin_opposite turning size, ?_, ?_, ?_⟩
    · unfold steady
      rw [planVelocity_of_turn turning]
    · unfold steady
      rw [planVelocity_of_turn turning]
      exact placeTurn_get_turnSide ..
    · exact planVelocity_neg turning size
  · intro straight
    refine ⟨geometry.straightVelocity, ?_⟩
    rintro signed (rfl | rfl)
    · exact ⟨planDistance_of_straight straight, planVelocity_of_straight straight⟩
    · rw [← abs_neg] at straight
      exact ⟨planDistance_of_straight straight, planVelocity_of_straight straight⟩

/-- At the standard geometry, asked to go back: a spin, an arc and a straight drive. -/
theorem right_mirrors_left_standard :
    (planDistance .standard (-0.03) (-1) = (planDistance .standard (-0.03) 1).mirror ∧
      (planDistance .standard (-0.03) 1).distance.left < 0) ∧
      ((planDistance .standard (-1) 0.5).distance.left = 1 ∧
        ¬ (planDistance .standard (-1) 0.5).distance.right < 0) ∧
      (planDistance .standard (-1) (-0.005)).distance = .both (-1) := by
  have positive : 0 < Geometry.standard.straightThreshold := by decide +kernel
  have spin := (right_mirrors_left positive (-0.03) 1).1 (by decide +kernel)
  have arc := (right_mirrors_left positive (-1) 0.5).1 (by decide +kernel)
  obtain ⟨_, straight⟩ := (right_mirrors_left positive (-1) 0.005).2 (by decide +kernel)
  have side : turnSide 1 = .left ∧ turnSide 0.5 = .left := by decide +kernel
  have short : (planDistance .standard (-0.03) 1).maneuver = .spin := by decide +kernel
  have long : (planDistance .standard (-1) 0.5).maneuver = .arc := by decide +kernel
  obtain ⟨mirrored, _, _, _, opposite, _⟩ := spin
  obtain ⟨_, _, _, ahead, _⟩ := arc
  rw [side.1] at opposite
  rw [side.2] at ahead
  obtain ⟨inner, _, forward⟩ := ahead long
  refine ⟨⟨mirrored, (opposite short).2 (by decide +kernel) (by decide +kernel)⟩,
    ⟨?_, forward (by decide +kernel) .right⟩, ?_⟩
  · exact inner.trans (by decide +kernel)
  · rw [(straight (-0.005) (.inr rfl)).1]

end Rover.Motion
