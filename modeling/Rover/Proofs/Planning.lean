import Rover.Motion.Plan
import Rover.Proofs.Magnitude

/-!
# Plans in numbers

A plan is in numbers unless it was asked for with something that is no number, or with so much that
the arithmetic overflows. With a finite angle this leaves room up to `1e37`: an angle that counts as
a turn and an arc that is not short are divided by, and what they divide stays finite.
-/

namespace Rover
open Motion
set_option autoImplicit false

def Wheels.Numeric (w : Wheels Float32) : Prop := w.left.isNaN = false ∧ w.right.isNaN = false

instance (w : Wheels Float32) : Decidable w.Numeric := inferInstanceAs (Decidable (_ ∧ _))

theorem Wheels.numeric_zero : Wheels.Numeric (.both 0) := by decide +kernel

namespace Motion

structure Plan.Numeric (plan : Plan) : Prop where
  distance : plan.distance.Numeric
  velocity : plan.velocity.Numeric

theorem numeric_placeTurn (left : Bool) {inner outer : Float32} (hInner : inner.isNaN = false)
    (hOuter : outer.isNaN = false) : (placeTurn left inner outer).Numeric := by
  cases left
  · exact ⟨hOuter, hInner⟩
  · exact ⟨hInner, hOuter⟩

section Standard

variable {linear angular : Float32}

theorem below_wheelBase : Single.Below (-3) Geometry.standard.wheelBase.toModel.unpack := by decide +kernel

theorem below_arc (near : linear.abs < 1e37) : Single.Below 123 linear.abs.toModel.unpack := by
  have limit : (1e37 : Float32).toModel.unpack = .finite .positive 15777218 99 (by decide) := by
    have bits : (1e37 : Float32).toModel.toBits = 0x7cf0bdc2 := by decide +kernel
    unfold Float32.Model.unpack
    rw [bits]
    rfl
  exact Single.below_of_abs_lt limit near

theorem isNaN_spin (finite : angular.isFinite = true) :
    (Geometry.standard.halfWheelBase * angular.abs / 2).isNaN = false := by
  have half : Single.Below (-4) Geometry.standard.halfWheelBase.toModel.unpack := by decide +kernel
  have across := Single.below_single_mul half (Single.below_abs finite) (by decide) (by decide)
  exact Single.isNaN_single_div Single.unpack_two across.isNaN

theorem isNaN_outer (near : linear.abs < 1e37) (finite : angular.isFinite = true)
    (turning : ¬ angular.abs < Geometry.standard.straightThreshold) :
    (angular.abs * (linear.abs / angular.abs + Geometry.standard.wheelBase)).isNaN = false := by
  have least : Geometry.standard.straightThreshold.toModel.unpack =
      .finite .positive 10737418 (-30) (by decide) := rfl
  obtain ⟨_, _, _, turn, _⟩ := Single.finite_of_not_single_lt (Single.below_abs finite) least turning
  have radius : (linear.abs / angular.abs).isNaN = false :=
    Single.isNaN_single_div turn (below_arc near).isNaN
  exact Single.isNaN_single_mul turn (Single.isNaN_single_add radius below_wheelBase)

/-- The time for an arc is neither zero nor too long for a single. -/
theorem finite_duration (near : linear.abs < 1e37) (long : ¬ linear.abs < Geometry.standard.minTurnArc) :
    ∃ m e hm, (linear.abs / Geometry.standard.turnVelocity).toModel.unpack = .finite .positive m e hm := by
  have least : Geometry.standard.minTurnArc.toModel.unpack =
      .finite .positive 10737418 (-28) (by decide) := rfl
  have speed : Geometry.standard.turnVelocity.toModel.unpack =
      .finite .positive 13421773 (-27) (by decide) := rfl
  obtain ⟨m, e, _, arc, _⟩ := Single.finite_of_not_single_lt (below_arc near) least long
  have bits : Nat.log2 13421773 = 23 := by decide
  have wide : 2 ^ 23 ≤ 13421773 := by decide
  have below := Single.below_single_div speed (below_arc near) wide (by decide) (by decide)
  have positive := Single.positive_single_div arc speed (by omega)
  exact Single.exists_finite below positive

theorem numeric_planDistance (near : linear.abs < 1e37) (finite : angular.isFinite = true) :
    (planDistance .standard linear angular).Numeric := by
  have arc : linear.abs.isNaN = false := (below_arc near).isNaN
  unfold planDistance
  split
  · have number : linear.isNaN = false := Single.isNaN_single_abs.symm.trans arc
    have speeds : Geometry.standard.straightVelocity.Numeric := by decide +kernel
    exact ⟨⟨number, number⟩, speeds⟩
  · next turning =>
    dsimp only
    split
    · have number := isNaN_spin finite
      have speeds : Geometry.standard.spinVelocity.Numeric := by decide +kernel
      exact ⟨numeric_placeTurn _ (Single.isNaN_single_neg.trans number) number, speeds⟩
    · next long =>
      have outer := isNaN_outer near finite turning
      have inner : Geometry.standard.turnVelocity.isNaN = false := by decide +kernel
      obtain ⟨_, _, _, duration⟩ := finite_duration near long
      have outerSpeed := Single.isNaN_single_div duration outer
      exact ⟨numeric_placeTurn _ arc outer, numeric_placeTurn _ inner outerSpeed⟩

/-- A speed may be anything but a NaN. -/
theorem numeric_planVelocity (number : linear.isNaN = false) (finite : angular.isFinite = true) :
    (planVelocity .standard linear angular).Numeric := by
  unfold planVelocity
  split
  · exact ⟨Wheels.numeric_zero, number, number⟩
  · have faster := Single.below_single_mul below_wheelBase (Single.below_abs finite) (by decide) (by decide)
    have outer : (linear + Geometry.standard.wheelBase * angular.abs).isNaN = false :=
      Single.isNaN_single_add number faster
    exact ⟨Wheels.numeric_zero, numeric_placeTurn _ number outer⟩

theorem numeric_plan (mode : DriveMode) (near : linear.abs < 1e37) (finite : angular.isFinite = true) :
    (plan .standard mode linear angular).Numeric := by
  cases mode with
  | distance => exact numeric_planDistance near finite
  | velocity =>
    have number : linear.isNaN = false := Single.isNaN_single_abs.symm.trans (Single.isNaN_of_lt near).1
    exact numeric_planVelocity number finite

end Standard

end Motion

end Rover
