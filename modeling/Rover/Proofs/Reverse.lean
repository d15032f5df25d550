import Rover.Proofs.Heading

/-!
# Driving backwards mirrors driving forwards

Two robots that are to go the same ways in opposite directions are asked for opposite duties, as long
as their wheels turn in opposite directions. The sizes of targets and travels are all that a filter is
given, so both robots' filters hold the same. A wheel that stands still measures a travel of zero in
both robots, with the same sign, which neither an arrival nor what is left of a target depends on.
What has no direction is a travel that is not a number: in a drive by distance it leaves targets that
are not numbers either, and both robots would be driven backwards.
-/

namespace Rover
open Motion
set_option autoImplicit false

namespace Single

variable {x y target : Float32}

/-- Negatives of each other, or positive zeros. -/
def Opposed (x y : Float32) : Prop := y = -x ∨ x = 0 ∧ y = 0

theorem Opposed.abs_eq (h : Opposed x y) : y.abs = x.abs := by
  rcases h with rfl | ⟨rfl, rfl⟩
  · exact abs_neg x
  · rfl

theorem nonzero_neg : Nonzero (-x) ↔ Nonzero x := by
  rw [Nonzero, zero_lt_neg_iff, neg_lt_zero_iff, Nonzero, or_comm]

theorem Opposed.covers_iff (h : Opposed x y) : Control.Covers y (-target) ↔ Control.Covers x target := by
  unfold Control.Covers
  rw [zero_lt_neg_iff, neg_lt_zero_iff]
  rcases h with rfl | ⟨rfl, rfl⟩
  · rw [neg_le_neg_iff, neg_le_neg_iff, or_comm]
  · constructor
    · rintro (⟨behind, covered⟩ | ⟨ahead, covered⟩)
      · exact absurd covered (not_le_zero (zero_lt_neg_iff.mpr behind))
      · exact absurd covered (not_zero_le (neg_lt_zero_iff.mpr ahead))
    · rintro (⟨ahead, covered⟩ | ⟨behind, covered⟩)
      · exact absurd covered (not_le_zero ahead)
      · exact absurd covered (not_zero_le behind)

theorem Opposed.neg_sub (h : Opposed x y) (nonzero : Nonzero (target - x)) : -target - y = -(target - x) := by
  rcases h with rfl | ⟨rfl, rfl⟩
  · refine (neg_sub_neg target x).resolve_right fun same => ?_
    rw [same.1] at nonzero
    exact absurd nonzero (by decide +kernel)
  · rw [sub_zero, sub_zero]

end Single

open Single

namespace Motion

/-- The same moment, with the wheels as far behind as they were ahead. -/
def Sample.reversed (sample : Sample) : Sample := ⟨sample.time, sample.distance.map (- ·)⟩

theorem Sample.opposed_travelFrom (sample last : Sample) (side : Side) :
    Opposed ((sample.travelFrom last).distance.get side)
      ((sample.reversed.travelFrom last.reversed).distance.get side) := by
  cases side <;> exact neg_sub_neg ..

structure Regulator.Opposes (r s : Regulator) : Prop where
  filter : s.filter = r.filter
  position : s.position = -r.position
  velocity : s.velocity = -r.velocity
  far : Nonzero r.position
  moving : Nonzero r.velocity

end Motion

namespace Control

theorem regulate_opposes {r s : Regulator} (h : r.Opposes s) {x y : Float32} (opposed : Opposed x y)
    (strategy : Strategy) (dt : Float32) :
    (regulate strategy s y dt).1 = (regulate strategy r x dt).1 ∧
      (regulate strategy r x dt).2.Opposes (regulate strategy s y dt).2 := by
  have speed : s.velocity.abs = r.velocity.abs := by rw [h.velocity, abs_neg]
  cases strategy with
  | closedLoop =>
    have pushed : (s.updateSpeed y dt).filter = (r.updateSpeed x dt).filter := by
      simp only [Regulator.updateSpeed, h.filter, speed, opposed.abs_eq]
    exact ⟨congrArg Signal.Filter.last pushed, pushed, h.position, h.velocity, h.far, h.moving⟩
  | directMapping => exact ⟨speed, h⟩

theorem drive_wheel (c : Control) (travel : Travel) (direction : Wheels Float32) (side : Side) :
    (c.drive travel direction).2.wheels.get side =
      (regulate c.setup.strategy (c.wheels.get side) (travel.distance.get side) travel.dt).2 := by
  cases side <;> rfl

theorem toInt_directed_neg {duty : Int16} (nonneg : 0 ≤ duty.toInt) {direction : Float32}
    (nonzero : Nonzero direction) :
    (directed duty (-direction)).toInt = -(directed duty direction).toInt := by
  have opposite := toInt_neg_of_nonneg nonneg
  rcases nonzero with ahead | behind
  · rw [directed_of_pos ahead, directed_of_not_pos (not_zero_lt (neg_lt_zero_iff.mpr ahead)), opposite]
  · rw [directed_of_not_pos (not_zero_lt behind), directed_of_pos (zero_lt_neg_iff.mpr behind), opposite,
      Int.neg_neg]

/-- The same strategy and filters, opposite targets that are not zero, and travel measured from the same
moment and from opposite distances. -/
structure Mirrors (c d : Control) : Prop where
  strategy : d.setup.strategy = c.setup.strategy
  wheels : ∀ side, (c.wheels.get side).Opposes (d.wheels.get side)
  measured : d.odometer.last = c.odometer.last.map Sample.reversed

/-- Travel is measured from numbers, if it is being measured. -/
def Tracks (c : Control) : Prop := ∀ last, c.odometer.last = some last → last.distance.Numeric

theorem tracks_of_measured {c : Control} {sample : Sample} (finite : sample.Finite)
    (measured : c.odometer.last = some sample) : c.Tracks := by
  intro last hLast
  cases measured.symm.trans hLast
  exact finite.numeric

theorem Tracks.step {c : Control} (h : c.Tracks) {sample : Sample} (finite : sample.Finite) (mode : DriveMode) :
    (c.step mode sample).2.Tracks := by
  cases measured : c.odometer.last with
  | none =>
    rw [c.step_of_none mode (Odometer.advance_of_reset measured)]
    exact tracks_of_measured finite rfl
  | some last =>
    by_cases same : sample.time = last.time
    · rw [c.step_of_none mode (Odometer.advance_of_same_time measured same)]
      exact h
    · obtain ⟨odometer, _⟩ := c.step_of_some mode (Odometer.advance_of_apart measured same)
      exact tracks_of_measured finite (congrArg Odometer.last odometer)

end Control

/-- The same kind of step over the same time, with opposite duties. -/
inductive ControlStep.Mirrors : ControlStep → ControlStep → Prop where
  | waiting : Mirrors .waiting .waiting
  | finished : Mirrors .finished .finished
  | drive {left right left' right' : Int16} {travel travel' : Travel} : travel'.dt = travel.dt →
      left'.toInt = -left.toInt → right'.toInt = -right.toInt →
      Mirrors (.drive left right travel) (.drive left' right' travel')

theorem Control.velocityStep_of_some {c : Control} {sample : Sample} {travel : Travel} {odometer : Odometer}
    (h : c.odometer.advance sample = (some travel, odometer)) :
    c.velocityStep sample = ({ c with odometer } : Control).drive travel c.velocity := by
  unfold velocityStep
  rw [h]
  rfl

namespace Control.Mirrors

variable {c d : Control} (h : c.Mirrors d)
include h

theorem measuring (sample : Sample) : (c.measuringFrom sample).Mirrors (d.measuringFrom sample.reversed) where
  strategy := h.strategy
  wheels := h.wheels
  measured := rfl

theorem setPosition {p q : Wheels Float32} (opposite : ∀ side, q.get side = -p.get side)
    (far : ∀ side, Nonzero (p.get side)) : (c.setPosition p).Mirrors (d.setPosition q) where
  strategy := h.strategy
  wheels side := by
    have wheel := h.wheels side
    cases side with
    | left => exact ⟨wheel.filter, opposite .left, wheel.velocity, far .left, wheel.moving⟩
    | right => exact ⟨wheel.filter, opposite .right, wheel.velocity, far .right, wheel.moving⟩
  measured := h.measured

theorem drive {travel travel' : Travel} (elapsed : travel'.dt = travel.dt)
    (opposed : ∀ side, Opposed (travel.distance.get side) (travel'.distance.get side)) {p q : Wheels Float32}
    (opposite : ∀ side, q.get side = -p.get side) (nonzero : ∀ side, Nonzero (p.get side)) :
    ControlStep.Mirrors (c.drive travel p).1 (d.drive travel' q).1 ∧
      (c.drive travel p).2.Mirrors (d.drive travel' q).2 := by
  have regulated (side : Side) := regulate_opposes (h.wheels side) (opposed side) c.setup.strategy travel.dt
  have asked (side : Side) : d.dutyAsked travel' side = c.dutyAsked travel side := by
    unfold dutyAsked
    rw [h.strategy, elapsed, (regulated side).1]
  have duties (side : Side) : (directed (d.dutyAsked travel' side) (q.get side)).toInt =
      -(directed (c.dutyAsked travel side) (p.get side)).toInt := by
    rw [asked, opposite]
    exact toInt_directed_neg (c.dutyAsked_nonneg travel side) (nonzero side)
  constructor
  · rw [drive_asks, drive_asks]
    exact .drive elapsed (duties .left) (duties .right)
  · refine ⟨h.strategy, fun side => ?_, h.measured⟩
    rw [drive_wheel, drive_wheel, h.strategy, elapsed]
    exact (regulated side).2

theorem position (side : Side) : d.position.get side = -c.position.get side := by
  rw [Control.position, Wheels.get_map, (h.wheels side).position, Control.position, Wheels.get_map]

theorem far (side : Side) : Nonzero (c.position.get side) := by
  rw [Control.position, Wheels.get_map]
  exact (h.wheels side).far

theorem velocity (side : Side) : d.velocity.get side = -c.velocity.get side := by
  rw [Control.velocity, Wheels.get_map, (h.wheels side).velocity, Control.velocity, Wheels.get_map]

theorem moving (side : Side) : Nonzero (c.velocity.get side) := by
  rw [Control.velocity, Wheels.get_map]
  exact (h.wheels side).moving

theorem distanceStep_of_apart (tracks : c.Tracks) {sample last : Sample} (finite : sample.Finite)
    (measured : c.odometer.last = some last) (apart : sample.time ≠ last.time) :
    ControlStep.Mirrors (c.distanceStep sample).1 (d.distanceStep sample.reversed).1 ∧
      (c.distanceStep sample).2.Mirrors (d.distanceStep sample.reversed).2 := by
  have reversed : d.odometer.last = some last.reversed := by
    rw [h.measured, measured]
    rfl
  have apart' : sample.reversed.time ≠ last.reversed.time := apart
  have opposed := sample.opposed_travelFrom last
  have number := Sample.isNaN_travelFrom finite (tracks last measured)
  rw [distanceStep_of_some (Odometer.advance_of_apart measured apart),
    distanceStep_of_some (Odometer.advance_of_apart reversed apart')]
  have arrival := any_reached_iff (sample.travelFrom last).distance h.far
  have mirrored :
      (∃ side, Covers ((sample.reversed.travelFrom last.reversed).distance.get side) (d.position.get side)) ↔
        ∃ side, Covers ((sample.travelFrom last).distance.get side) (c.position.get side) :=
    exists_congr fun side => by rw [h.position, (opposed side).covers_iff]
  have arrival' := any_reached_iff (sample.reversed.travelFrom last.reversed).distance
    fun side => h.position side ▸ nonzero_neg.mpr (h.far side)
  by_cases covered : ∃ side, Covers ((sample.travelFrom last).distance.get side) (c.position.get side)
  · rw [if_pos (arrival.mpr covered), if_pos (arrival'.mpr (mirrored.mpr covered))]
    exact ⟨.finished, h.measuring sample⟩
  · rw [if_neg fun reached => covered (arrival.mp reached),
      if_neg fun reached => covered (mirrored.mp (arrival'.mp reached))]
    have far (side : Side) : Nonzero ((c.remaining (sample.travelFrom last)).get side) := by
      rw [get_remaining]
      exact (sameSign_sub (h.far side).sameSign (number side) (not_exists.mp covered side)).nonzero
    have opposite (side : Side) : (d.remaining (sample.reversed.travelFrom last.reversed)).get side =
        -(c.remaining (sample.travelFrom last)).get side := by
      have left := far side
      rw [get_remaining] at left ⊢
      rw [get_remaining, h.position, (opposed side).neg_sub left]
    have elapsed : (sample.reversed.travelFrom last.reversed).dt = (sample.travelFrom last).dt := rfl
    have going := (h.measuring sample).setPosition opposite far
    exact going.drive elapsed opposed opposite far

theorem velocityStep_of_apart {sample last : Sample} (measured : c.odometer.last = some last)
    (apart : sample.time ≠ last.time) :
    ControlStep.Mirrors (c.velocityStep sample).1 (d.velocityStep sample.reversed).1 ∧
      (c.velocityStep sample).2.Mirrors (d.velocityStep sample.reversed).2 := by
  have reversed : d.odometer.last = some last.reversed := by
    rw [h.measured, measured]
    rfl
  have apart' : sample.reversed.time ≠ last.reversed.time := apart
  have elapsed : (sample.reversed.travelFrom last.reversed).dt = (sample.travelFrom last).dt := rfl
  rw [velocityStep_of_some (Odometer.advance_of_apart measured apart),
    velocityStep_of_some (Odometer.advance_of_apart reversed apart')]
  exact (h.measuring sample).drive elapsed (sample.opposed_travelFrom last) h.velocity h.moving

theorem step {mode : DriveMode} (tracks : mode = .distance → c.Tracks) {sample : Sample}
    (finite : sample.Finite) :
    ControlStep.Mirrors (c.step mode sample).1 (d.step mode sample.reversed).1 ∧
      (c.step mode sample).2.Mirrors (d.step mode sample.reversed).2 := by
  cases measured : c.odometer.last with
  | none =>
    have reversed : d.odometer.last = none := by rw [h.measured, measured, Option.map_none]
    rw [c.step_of_none mode (Odometer.advance_of_reset measured),
      d.step_of_none mode (Odometer.advance_of_reset reversed)]
    exact ⟨.waiting, h.measuring sample⟩
  | some last =>
    have reversed : d.odometer.last = some last.reversed := by rw [h.measured, measured, Option.map_some]
    by_cases same : sample.time = last.time
    · have same' : sample.reversed.time = last.reversed.time := same
      rw [c.step_of_none mode (Odometer.advance_of_same_time measured same),
        d.step_of_none mode (Odometer.advance_of_same_time reversed same')]
      exact ⟨.waiting, h⟩
    · cases mode with
      | distance => exact h.distanceStep_of_apart (tracks rfl) finite measured same
      | velocity => exact h.velocityStep_of_apart measured same

end Control.Mirrors

/-- Whatever the wheels do, as long as those of the other robot do the opposite: update by update, a drive and
its reverse come to the same kind of step, with opposite duties, and their filters stay the same. Of a
drive by distance this holds if its travel is not measured from a NaN. -/
theorem Control.reverse_mirrors_forward {c d : Control} (h : c.Mirrors d) {mode : DriveMode}
    (tracks : mode = .distance → c.Tracks) {samples : List Sample} (finite : ∀ sample ∈ samples, sample.Finite) :
    List.Forall₂ ControlStep.Mirrors (c.steps mode samples).1 (d.steps mode (samples.map Sample.reversed)).1 ∧
      (c.steps mode samples).2.Mirrors (d.steps mode (samples.map Sample.reversed)).2 := by
  induction samples generalizing c d with
  | nil => exact ⟨.nil, h⟩
  | cons sample samples ih =>
    obtain ⟨first, rest⟩ := List.forall_mem_cons.mp finite
    obtain ⟨step, next⟩ := h.step tracks first
    obtain ⟨steps, last⟩ := ih next (fun distance => (tracks distance).step first mode) rest
    exact ⟨.cons step steps, last⟩

/-- A curve ahead and the same curve back; the left wheel stands still at first, and arrives in the end. -/
theorem Control.reverse_mirrors_forward_regulated :
    let origin : Sample := ⟨.ofMillis 10, .both 0⟩
    let ahead := (Robot.regulated.control.start .distance ⟨.arc, ⟨0.25, 0.5⟩, ⟨0.5, 1⟩⟩).measuringFrom origin
    let back := (Robot.regulated.control.start .distance ⟨.arc, ⟨-0.25, -0.5⟩, ⟨-0.5, -1⟩⟩).measuringFrom
      origin.reversed
    let samples : List Sample :=
      [⟨.ofMillis 20, ⟨0, 0.0078125⟩⟩, ⟨.ofMillis 20, .both 1⟩, ⟨.ofMillis 30, ⟨0.25, 0.0078125⟩⟩]
    let travel (right : Float32) : Travel := ⟨⟨0, right⟩, (Time.ofMillis 10).toSeconds⟩
    (ahead.steps .distance samples).1 = [.drive 24 7 (travel 0.0078125), .waiting, .finished] ∧
      (back.steps .distance (samples.map Sample.reversed)).1 =
        [.drive (-24) (-7) (travel (-0.0078125)), .waiting, .finished] ∧
      List.Forall₂ ControlStep.Mirrors (ahead.steps .distance samples).1
        (back.steps .distance (samples.map Sample.reversed)).1 := by
  intro origin ahead back samples travel
  have wheels (side : Side) : (ahead.wheels.get side).Opposes (back.wheels.get side) := by
    cases side <;> constructor <;> decide +kernel
  have mirrors : ahead.Mirrors back := ⟨by decide +kernel, wheels, by decide +kernel⟩
  have finite : ∀ sample ∈ samples, sample.Finite := by decide +kernel
  have measured : ahead.odometer.last = some origin := by decide +kernel
  have tracks : ahead.Tracks := tracks_of_measured (by decide +kernel) measured
  exact ⟨by decide +kernel, by decide +kernel, (reverse_mirrors_forward mirrors (fun _ => tracks) finite).1⟩

/-- Travel that is measured from a NaN leaves no way to go: the robot and its reverse are both driven backwards. -/
theorem Control.not_reverse_mirrors_forward :
    let astray : Sample := ⟨.ofMillis 10, .both (0 / 0)⟩
    let ahead := (Robot.powerOn.control.start .distance ⟨.straight, .both 1, .both 0.25⟩).measuringFrom astray
    let back := (Robot.powerOn.control.start .distance ⟨.straight, .both (-1), .both (-0.25)⟩).measuringFrom
      astray.reversed
    let sample : Sample := ⟨.ofMillis 20, .both 0⟩
    let travel : Travel := ⟨.both (0 / 0), (Time.ofMillis 10).toSeconds⟩
    ahead.Mirrors back ∧ sample.Finite ∧
      (ahead.steps .distance [sample]).1 = [.drive (-71) (-69) travel] ∧
      (back.steps .distance ([sample].map Sample.reversed)).1 = [.drive (-71) (-69) travel] ∧
      ¬ List.Forall₂ ControlStep.Mirrors (ahead.steps .distance [sample]).1
        (back.steps .distance ([sample].map Sample.reversed)).1 := by
  intro astray ahead back sample travel
  have wheels (side : Side) : (ahead.wheels.get side).Opposes (back.wheels.get side) := by
    cases side <;> constructor <;> decide +kernel
  have forwards : (ahead.steps .distance [sample]).1 = [.drive (-71) (-69) travel] := by decide +kernel
  have backwards : (back.steps .distance ([sample].map Sample.reversed)).1 = [.drive (-71) (-69) travel] := by
    decide +kernel
  have mirrors : ahead.Mirrors back := ⟨by decide +kernel, wheels, by decide +kernel⟩
  refine ⟨mirrors, by decide +kernel, forwards, backwards, ?_⟩
  rw [forwards, backwards]
  rintro (_ | ⟨step, _⟩)
  cases step with
  | drive _ left _ => exact absurd left (by decide)

end Rover
