import Rover.Proofs.Elapsed

/-!
# Which way a wheel is driven

A control update asks a wheel for a duty without direction, and then gives it the direction of the
wheel's target. So a duty never goes against a target that lies ahead or behind. A target of zero has
no direction and gets the duty backwards, which is none under direct mapping, but whatever the filter
still holds in a closed loop.

A drive by distance is measured off its targets step by step. As long as no wheel has come as far as
it was to go, what is left of a target has the sign of the target.
-/

namespace Rover
open Motion
set_option autoImplicit false

namespace Single
open Float.Model

variable {x y z : Float32}

def Nonzero (x : Float32) : Prop := 0 < x ∨ x < 0

instance (x : Float32) : Decidable (Nonzero x) := inferInstanceAs (Decidable (_ ∨ _))

def SameSign (x y : Float32) : Prop := 0 < x ∧ 0 < y ∨ x < 0 ∧ y < 0

instance (x y : Float32) : Decidable (SameSign x y) := inferInstanceAs (Decidable (_ ∨ _))

theorem Nonzero.sameSign (h : Nonzero x) : SameSign x x := h.imp (fun p => ⟨p, p⟩) fun n => ⟨n, n⟩

theorem SameSign.nonzero (h : SameSign x y) : Nonzero y := h.imp And.right And.right

theorem not_zero_lt (h : x < 0) : ¬ 0 < x := fun positive => not_lt_zero positive h

theorem SameSign.trans (h : SameSign x y) (next : SameSign y z) : SameSign x z := by
  rcases h with ⟨hx, hy⟩ | ⟨hx, hy⟩
  · exact .inl ⟨hx, (next.resolve_right fun below => not_lt_zero hy below.1).2⟩
  · exact .inr ⟨hx, (next.resolve_left fun above => not_lt_zero above.1 hy).2⟩

theorem not_pos_of_beq_zero (h : (x == 0) = true) : ¬ 0 < x := by
  rcases beq_zero_iff.mp h with rfl | rfl <;> decide +kernel

end Single

namespace Control

/-- The duty does not drive a wheel against the direction. -/
structure Heeds (duty : Int16) (direction : Float32) : Prop where
  forward : 0 < direction → 0 ≤ duty.toInt
  backward : direction < 0 → duty.toInt ≤ 0

/-- The duty drives a wheel toward its target, and not at all toward zero. -/
structure Toward (duty : Int16) (target : Float32) : Prop extends Heeds duty target where
  still : (target == 0) = true → duty = 0

section Directions

variable {duty : Int16} {direction : Float32}

theorem directed_of_pos (h : 0 < direction) : directed duty direction = duty := if_pos h

theorem directed_of_not_pos (h : ¬ 0 < direction) : directed duty direction = -duty := if_neg h

theorem heeds_directed (nonneg : 0 ≤ duty.toInt) : Heeds (directed duty direction) direction where
  forward ahead := by rwa [directed_of_pos ahead]
  backward behind := by
    rw [directed_of_not_pos (Single.not_zero_lt behind), toInt_neg_of_nonneg nonneg]
    omega

theorem Heeds.of_sameSign {origin : Float32} (same : Single.SameSign origin direction)
    (h : Heeds duty direction) : Heeds duty origin := by
  rcases same with ⟨above, ahead⟩ | ⟨below, behind⟩
  · exact ⟨fun _ => h.forward ahead, fun less => absurd less (Single.not_lt_zero above)⟩
  · exact ⟨fun more => absurd below (Single.not_lt_zero more), fun _ => h.backward behind⟩

end Directions

variable {c : Control} {sample : Sample} {left right : Int16} {travel : Travel}

theorem dutyAsked_nonneg (c : Control) (travel : Travel) (side : Side) : 0 ≤ (c.dutyAsked travel side).toInt :=
  unsignedDuty_nonneg side _

theorem velocityStep_duty (h : (c.velocityStep sample).1 = .drive left right travel) (side : Side) :
    (Wheels.mk left right).get side = directed (c.dutyAsked travel side) (c.velocity.get side) := by
  obtain ⟨hLeft, hRight⟩ := c.velocityStep_directs h
  rw [c.velocityStep_velocity sample] at hLeft hRight
  cases side with
  | left => exact hLeft
  | right => exact hRight

theorem dutyAsked_of_standing {side : Side} (direct : c.setup.strategy = .directMapping)
    (zero : (c.velocity.get side == 0) = true) : c.dutyAsked travel side = 0 := by
  have standing (side : Side) : unsignedDuty side 0 = 0 := by cases side <;> decide +kernel
  have size : (c.velocity.get side).abs = 0 := by
    rcases Single.beq_zero_iff.mp zero with same | same
    · rw [same]
      decide +kernel
    · rw [same]
      decide +kernel
  rw [velocity, Wheels.get_map] at size
  unfold dutyAsked
  rw [direct]
  exact (congrArg (unsignedDuty side) size).trans (standing side)

/-- A duty never goes against its target, and it goes toward it unless the target is zero and the update
asks for some duty: that one then goes backwards. Direct mapping asks for none. -/
theorem toward_velocity_iff (h : (c.velocityStep sample).1 = .drive left right travel) (side : Side) :
    let duty := (Wheels.mk left right).get side
    let target := c.velocity.get side
    Heeds duty target ∧ (Toward duty target ↔ ((target == 0) = true → c.dutyAsked travel side = 0)) ∧
      (c.setup.strategy = .directMapping → Toward duty target) ∧
      ((target == 0) = true →
        duty.toInt = -(c.dutyAsked travel side).toInt ∧ 0 ≤ (c.dutyAsked travel side).toInt) := by
  intro duty target
  have nonneg := c.dutyAsked_nonneg travel side
  have directs : duty = directed (c.dutyAsked travel side) target := velocityStep_duty h side
  have heeds : Heeds duty target := directs ▸ heeds_directed nonneg
  have backwards (zero : (target == 0) = true) : duty = -c.dutyAsked travel side :=
    directs.trans (directed_of_not_pos (Single.not_pos_of_beq_zero zero))
  have still (none : (target == 0) = true → c.dutyAsked travel side = 0) : Toward duty target := by
    refine ⟨heeds, fun zero => ?_⟩
    rw [backwards zero, none zero]
    rfl
  refine ⟨heeds, ⟨fun toward zero => ?_, still⟩, fun direct => still (dutyAsked_of_standing direct), ?_⟩
  · exact Int16.neg_inj.mp ((backwards zero).symm.trans (toward.still zero))
  · intro zero
    rw [backwards zero, toInt_neg_of_nonneg nonneg]
    exact ⟨rfl, nonneg⟩

end Control

namespace Robot

def closed : Settings := { Settings.standard with strategy := .closedLoop }

def regulated : Robot := (Robot.start closed {} .loopback).toOption.get (by decide +kernel)

theorem reachable_regulated : Reachable closed regulated :=
  .start Board.atRest_new (ok_get _)

/-- A turn in place, the left wheel backwards. -/
theorem toward_velocity_iff_regulated :
    let turning := regulated.pass { clock := .ofMillis 10, arriving := [0x76, 0, 0, 0, 0xbf, 0, 0, 0, 0x41] }
    let sample := turning.sampleAt (.ofMillis 20)
    let travel : Travel := ⟨.both 0, (Time.ofMillis 10).toSeconds⟩
    (turning.control.velocityStep sample).1 = .drive (-24) 10 travel ∧ turning.control.velocity.left < 0 ∧
      Control.Toward (-24) turning.control.velocity.left := by
  intro turning sample travel
  have step : (turning.control.velocityStep sample).1 = .drive (-24) 10 travel := by decide +kernel
  have moving : (turning.control.velocity.left == 0) = false := by decide +kernel
  obtain ⟨_, toward, _, _⟩ := Control.toward_velocity_iff step .left
  exact ⟨step, by decide +kernel, toward.mpr fun zero => absurd (moving.symm.trans zero) (by decide)⟩

/-- After a drive at one meter a second, the speed is set to zero: the wheels are driven backwards. -/
theorem not_toward_velocity : ¬ ∀ settings r, Reachable settings r → ∀ sample left right travel,
    (r.control.velocityStep sample).1 = .drive left right travel →
      ∀ side, Control.Toward ((Wheels.mk left right).get side) (r.control.velocity.get side) := by
  intro h
  let slowing := regulated.passAll
    [{ clock := .ofMillis 10, arriving := [0x76, 0, 0, 0x80, 0x3f, 0, 0, 0, 0] }, { clock := .ofMillis 20 },
      { clock := .ofMillis 30, arriving := [0x76, 0, 0, 0, 0, 0, 0, 0, 0] }]
  have step : (slowing.control.velocityStep (slowing.sampleAt (.ofMillis 40))).1 =
      .drive (-90) (-85) ⟨.both 0, (Time.ofMillis 10).toSeconds⟩ := by
    decide +kernel
  have standing : (slowing.control.velocity.left == 0) = true := by decide +kernel
  have toward := h closed slowing (reachable_regulated.passAll _) _ _ _ _ step .left
  exact absurd (toward.still standing) (by decide)

end Robot

/-- The travel covers the target, in the direction of the target. -/
def Control.Covers (travel target : Float32) : Prop :=
  0 < target ∧ target ≤ travel ∨ target < 0 ∧ travel ≤ target

namespace Motion

def Sample.Finite (sample : Sample) : Prop :=
  sample.distance.left.isFinite = true ∧ sample.distance.right.isFinite = true

instance (sample : Sample) : Decidable sample.Finite := inferInstanceAs (Decidable (_ ∧ _))

theorem Sample.Finite.below {sample : Sample} (h : sample.Finite) (side : Side) :
    Single.Below 128 (sample.distance.get side).toModel.unpack := by
  cases side with
  | left => exact Single.below_unpack_of_isFinite h.1
  | right => exact Single.below_unpack_of_isFinite h.2

/-- The sample that travel is measured from, after another one: that one, unless no time had passed. -/
def Sample.orLater (last sample : Sample) : Sample := if sample.time = last.time then last else sample

theorem Sample.Finite.numeric {sample : Sample} (h : sample.Finite) : sample.distance.Numeric :=
  ⟨(h.below .left).isNaN, (h.below .right).isNaN⟩

theorem Sample.isNaN_travelFrom {sample last : Sample} (finite : sample.Finite) (numeric : last.distance.Numeric)
    (side : Side) : ((sample.travelFrom last).distance.get side).isNaN = false := by
  have number : (last.distance.get side).isNaN = false := by
    cases side with
    | left => exact numeric.1
    | right => exact numeric.2
  have difference : (sample.travelFrom last).distance.get side =
      sample.distance.get side - last.distance.get side := by cases side <;> rfl
  rw [difference]
  exact Single.isNaN_sub_of_below (finite.below side) number

end Motion

namespace Control
open Single

section Remaining

variable {origin target travel : Float32}

theorem reached_iff (h : Nonzero target) : reached travel target = true ↔ Covers travel target := by
  unfold reached Covers
  rcases h with ahead | behind
  · have notBehind := not_lt_zero ahead
    simp [ahead, notBehind]
  · have notAhead := not_zero_lt behind
    simp [behind, notAhead]

theorem any_reached_iff (travel : Wheels Float32) {target : Wheels Float32}
    (h : ∀ side, Nonzero (target.get side)) :
    (reached travel.left target.left || reached travel.right target.right) = true ↔
      ∃ side, Covers (travel.get side) (target.get side) := by
  rw [Bool.or_eq_true]
  constructor
  · rintro (left | right)
    · exact ⟨.left, (reached_iff (h .left)).mp left⟩
    · exact ⟨.right, (reached_iff (h .right)).mp right⟩
  · rintro ⟨side, covered⟩
    have reached := (reached_iff (h side)).mpr covered
    cases side with
    | left => exact .inl reached
    | right => exact .inr reached

theorem sameSign_sub (h : SameSign origin target) (number : travel.isNaN = false)
    (going : ¬ Covers travel target) : SameSign origin (target - travel) := by
  rcases h with ⟨above, ahead⟩ | ⟨below, behind⟩
  · have short : travel < target :=
      lt_of_not_single_le number (isNaN_of_lt ahead).2 fun covered => going (.inl ⟨ahead, covered⟩)
    exact .inl ⟨above, sub_pos short⟩
  · have short : target < travel :=
      lt_of_not_single_le (isNaN_of_lt behind).1 number fun covered => going (.inr ⟨behind, covered⟩)
    exact .inr ⟨below, sub_neg short⟩

end Remaining

def steps (c : Control) (mode : DriveMode) : List Sample → List ControlStep × Control
  | [] => ([], c)
  | sample :: samples =>
    let first := c.step mode sample
    let later := first.2.steps mode samples
    (first.1 :: later.1, later.2)

/-- Underway to targets with the signs of these, and measuring travel from this sample. -/
structure Bound (origin : Wheels Float32) (last : Sample) (c : Control) : Prop where
  measured : c.odometer.last = some last
  finite : last.Finite
  course : ∀ side, SameSign (origin.get side) (c.position.get side)

/-- What an update does on the way. -/
inductive Proceeds (origin : Wheels Float32) (last sample : Sample) (c : Control) :
    ControlStep × Control → Prop where
  | waiting : sample.time = last.time → Proceeds origin last sample c (.waiting, c)
  | finished : sample.time ≠ last.time →
      (∃ side, Covers ((sample.travelFrom last).distance.get side) (c.position.get side)) →
      Proceeds origin last sample c (.finished, c.measuringFrom sample)
  | drive {left right : Int16} {after : Control} : sample.time ≠ last.time →
      (∀ side, ¬ Covers ((sample.travelFrom last).distance.get side) (c.position.get side)) →
      (∀ side, after.position.get side =
        c.position.get side - (sample.travelFrom last).distance.get side) →
      (∀ side, SameSign (origin.get side) (after.position.get side)) →
      (∀ side, Heeds ((Wheels.mk left right).get side) (origin.get side)) →
      Proceeds origin last sample c (.drive left right (sample.travelFrom last), after)

def remaining (c : Control) (travel : Travel) : Wheels Float32 :=
  ⟨c.position.left - travel.distance.left, c.position.right - travel.distance.right⟩

theorem get_remaining (c : Control) (travel : Travel) (side : Side) :
    (c.remaining travel).get side = c.position.get side - travel.distance.get side := by
  cases side <;> rfl

theorem distanceStep_of_some {c : Control} {sample : Sample} {travel : Travel} {odometer : Odometer}
    (h : c.odometer.advance sample = (some travel, odometer)) :
    c.distanceStep sample =
      if reached travel.distance.left c.position.left || reached travel.distance.right c.position.right then
        (.finished, { c with odometer })
      else
        (({ c with odometer } : Control).setPosition (c.remaining travel)).drive travel (c.remaining travel) := by
  unfold distanceStep
  rw [h]
  rfl

section Course

variable {origin : Wheels Float32} {last sample : Sample} {c : Control}

theorem Bound.proceeds (h : Bound origin last c) (finite : sample.Finite) :
    Proceeds origin last sample c (c.distanceStep sample) := by
  by_cases same : sample.time = last.time
  · have standing : c.distanceStep sample = (.waiting, c) :=
      c.step_of_none .distance (Odometer.advance_of_same_time h.measured same)
    rw [standing]
    exact .waiting same
  · rw [distanceStep_of_some (Odometer.advance_of_apart h.measured same)]
    have arrival := any_reached_iff (sample.travelFrom last).distance fun side => (h.course side).nonzero
    by_cases covered : ∃ side, Covers ((sample.travelFrom last).distance.get side) (c.position.get side)
    · rw [if_pos (arrival.mpr covered)]
      exact .finished same covered
    · rw [if_neg fun reached => covered (arrival.mp reached)]
      have going := not_exists.mp covered
      let travel := sample.travelFrom last
      have course (side : Side) : SameSign (origin.get side) ((c.remaining travel).get side) := by
        rw [get_remaining]
        exact sameSign_sub (h.course side) (Sample.isNaN_travelFrom finite h.finite.numeric side) (going side)
      let driving := (c.measuringFrom sample).setPosition (c.remaining travel)
      let driven := (driving.drive travel (c.remaining travel)).2
      have position : driven.position = c.remaining travel := driving.drive_position ..
      show Proceeds origin last sample c (.drive _ _ travel, driven)
      refine .drive same going ?_ ?_ ?_
      · rw [position]
        exact c.get_remaining travel
      · rw [position]
        exact course
      · intro side
        have heeds : Heeds (directed (driving.dutyAsked travel side) ((c.remaining travel).get side))
            (origin.get side) := (heeds_directed (driving.dutyAsked_nonneg travel side)).of_sameSign (course side)
        cases side <;> exact heeds

theorem Bound.step (h : Bound origin last c) (finite : sample.Finite)
    (going : (c.distanceStep sample).1 ≠ .finished) :
    Bound origin (last.orLater sample) (c.distanceStep sample).2 := by
  have read : (c.distanceStep sample).2.odometer = (c.odometer.advance sample).2 :=
    c.step_odometer .distance sample
  have proceeds := h.proceeds finite
  have course : ∀ side, SameSign (origin.get side) ((c.distanceStep sample).2.position.get side) := by
    generalize c.distanceStep sample = result at proceeds going
    cases proceeds with
    | waiting => exact h.course
    | finished => exact absurd rfl going
    | drive _ _ _ course => exact course
  unfold Sample.orLater
  split
  · next same =>
    refine ⟨?_, h.finite, course⟩
    rw [read, Odometer.advance_of_same_time h.measured same]
    exact h.measured
  · next apart =>
    refine ⟨?_, finite, course⟩
    rw [read, Odometer.advance_of_apart h.measured apart]

end Course

theorem Bound.steps {origin : Wheels Float32} {last : Sample} {c : Control} {samples : List Sample}
    (h : Bound origin last c) (finite : ∀ sample ∈ samples, sample.Finite)
    (underway : .finished ∉ (c.steps .distance samples).1) :
    Bound origin (samples.foldl Sample.orLater last) (c.steps .distance samples).2 := by
  induction samples generalizing c last with
  | nil => exact h
  | cons sample samples ih =>
    obtain ⟨going, rest⟩ := List.ne_and_not_mem_of_not_mem_cons underway
    obtain ⟨first, later⟩ := List.forall_mem_cons.mp finite
    exact ih (h.step first going.symm) later rest

/-- A drive by distance never turns a wheel back, and it ends at the first arrival. The first sample is only
noted, and a sample at the time of the one before changes nothing. -/
theorem distance_drive_keeps_course {c : Control} (reset : c.odometer = .reset)
    (nonzero : ∀ side, Nonzero (c.position.get side)) {first : Sample} {samples : List Sample}
    (finite : ∀ sample ∈ first :: samples, sample.Finite)
    (underway : .finished ∉ (c.steps .distance (first :: samples)).1) :
    c.distanceStep first = (.waiting, c.measuringFrom first) ∧
    ∀ sample : Sample, sample.Finite →
      let before := (c.steps .distance (first :: samples)).2
      Proceeds c.position (samples.foldl Sample.orLater first) sample before (before.distanceStep sample) := by
  have noted : c.distanceStep first = (.waiting, c.measuringFrom first) :=
    c.step_of_none .distance (Odometer.advance_of_reset (by rw [reset]; rfl))
  obtain ⟨firstFinite, restFinite⟩ := List.forall_mem_cons.mp finite
  have start : Bound c.position first (c.step .distance first).2 := by
    have started : (c.step .distance first).2 = c.measuringFrom first := congrArg Prod.snd noted
    rw [started]
    exact ⟨rfl, firstFinite, fun side => (nonzero side).sameSign⟩
  have bound := start.steps restFinite (List.ne_and_not_mem_of_not_mem_cons underway).2
  exact ⟨noted, fun sample sampleFinite => bound.proceeds sampleFinite⟩

/-- Half a meter back with the left wheel, which slips forward at first, and ahead with the right one. -/
theorem distance_drive_keeps_course_regulated :
    let c := Robot.regulated.control.start .distance ⟨.spin, ⟨-0.5, 0.5⟩, .both 1⟩
    let samples : List Sample :=
      [⟨.ofMillis 10, .both 0⟩, ⟨.ofMillis 20, ⟨0.0078125, 0⟩⟩, ⟨.ofMillis 20, ⟨-1, 0⟩⟩]
    let before := (c.steps .distance samples).2
    let sample : Sample := ⟨.ofMillis 30, ⟨0, 0.0078125⟩⟩
    before.position = ⟨-0.5078125, 0.5⟩ ∧
      (before.distanceStep sample).1 = .drive (-29) 96 (sample.travelFrom ⟨.ofMillis 20, ⟨0.0078125, 0⟩⟩) ∧
      Proceeds c.position ⟨.ofMillis 20, ⟨0.0078125, 0⟩⟩ sample before (before.distanceStep sample) := by
  intro c samples before sample
  have nonzero (side : Side) : Nonzero (c.position.get side) := by cases side <;> decide +kernel
  have finite : ∀ sample ∈ samples, sample.Finite := by decide +kernel
  have underway : .finished ∉ (c.steps .distance samples).1 := by decide +kernel
  obtain ⟨_, proceeds⟩ := distance_drive_keeps_course rfl nonzero finite underway
  exact ⟨by decide +kernel, by decide +kernel, proceeds sample (by decide +kernel)⟩

end Control

end Rover
