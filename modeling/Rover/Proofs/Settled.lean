import Rover.Proofs.Setup
import Rover.Proofs.Single

/-!
# What has been carried out is done for now

A flag that is on asks for a single run or has a positive duration, so a task is done with once it
has retired its flag or has triggered it anew. Later turns of the same pass may retire flags, or
switch velocity control on again without touching its last trigger, and neither makes a task due.
-/

namespace Rover
open Motion Wire
set_option autoImplicit false

theorem Time.since_self (t : Time) : t.since t = .zero := by
  simp [Time.since, Time.zero]

theorem Flag.not_due_of_triggered {flag : Flag} {now : Time} (trigger : flag.lastTrigger = now)
    (positive : 0 < flag.duration) : flag.due now = false := by
  have zero : Time.zero.toMillis = 0 := by decide +kernel
  have early : ¬ (now.since flag.lastTrigger).toMillis ≥ flag.duration := by
    rw [trigger, Time.since_self, zero]
    exact Single.not_le_zero positive
  simp [due, isOneShot, Single.not_lt_zero positive, early]

theorem Flag.complete_keeps {flag : Flag} {now : Time} (on : (flag.complete now).active = true) :
    flag.active = true ∧ (flag.complete now).duration = flag.duration := by
  unfold Flag.complete at on ⊢
  split at on
  · cases on
  · next periodic =>
    rw [if_neg periodic]
    exact ⟨on, rfl⟩

/-- Such a duration leaves the task done once it has been carried out. -/
def Task.Bears (task : Task) (duration : Float32) : Prop :=
  0 < duration ∨ task ∈ .restart :: Task.reports ∧ duration = -1

theorem Task.bears_once {task : Task} (h : task ∈ .restart :: Task.reports) : task.Bears (-1) := .inr ⟨h, rfl⟩

namespace Agenda

/-- All flags that are on have durations that their tasks bear. -/
def Paced (agenda : Agenda) : Prop :=
  ∀ task, agenda.isActive task = true → task.Bears (agenda.get task).duration

namespace Paced

variable {agenda : Agenda} (h : agenda.Paced)
include h

theorem modify {task : Task} {f : Flag → Flag}
    (own : (f (agenda.get task)).active = true → task.Bears (f (agenda.get task)).duration) :
    (agenda.modify task f).Paced := by
  intro other
  rw [isActive, get_modify]
  split
  · next same =>
    subst same
    exact own
  · exact h other

theorem every {task : Task} {millis : Float32} (positive : 0 < millis) :
    (agenda.modify task (·.every millis)).Paced :=
  h.modify fun _ => .inl positive

theorem timer {task : Task} {seconds : Float32} (positive : 0 < seconds) (now : Time) :
    (agenda.modify task (·.timer (seconds * 1000) now)).Paced :=
  h.modify fun _ => .inl (Single.zero_lt_mul_thousand positive)

theorem retireAll (tasks : List Task) : (agenda.retireAll tasks).Paced := by
  intro other
  rw [isActive, get_retireAll]
  split
  · intro on
    cases on
  · exact h other

end Paced

theorem paced_fresh (setup : Setup) (battery : Battery) : (Control.fresh setup battery).agenda.Paced := by
  have none : Agenda.empty.Paced := fun task on => by simp [isActive, Flag.inactive] at on
  exact none.every (by decide +kernel)

end Agenda

def Task.updates : List Task := [.distanceControl, .velocityControl, .avoidance]

theorem Task.updates_periodic : ∀ task ∈ updates, task ∉ .restart :: reports := by decide

/-- What becomes of the flag of a task that is carried out. -/
inductive Control.Ended (task : Task) (now : Time) (c d : Control) : Prop where
  | completed : d.agenda.get task = (c.agenda.get task).complete now → Ended task now c d
  | retriggered : task ∈ Task.updates → d.agenda.get task = (c.agenda.get task).retrigger now → Ended task now c d
  | retired : task ≠ .velocityControl → d.agenda.get task = (c.agenda.get task).retire → Ended task now c d
  | measuring : (d.start? task).isSome = true → d.agenda.get task = c.agenda.get task → Ended task now c d

inductive Control.Touched (task other : Task) (c d : Control) : Prop where
  | kept : d.agenda.get other = c.agenda.get other → Touched task other c d
  | retired : d.agenda.get other = (c.agenda.get other).retire → Touched task other c d
  | engaged : other = .velocityControl → d.agenda.get other = (c.agenda.get other).every c.period →
      Touched task other c d
  | warned : task = .batteryTask → other = .lowBattery →
      d.agenda.get other = (c.agenda.get other).every lowBatteryPeriod → Touched task other c d

namespace Robot

section Tasks

variable (r : Robot) (now : Time)

theorem ended_reportSpan (timing : Timing) (start : Time) :
    Control.Ended (timingTask timing) now r.control
      (r.reportSpan (timingTask timing) timing start now).control := by
  apply Control.Ended.completed
  rw [reportSpan, send_control, forgetStart_agenda, complete_control, Control.arm_get, if_pos rfl]

theorem ended_measureTrip : Control.Ended .floatTrip now r.control (r.measureTrip now).control := by
  unfold measureTrip
  split
  · apply Control.Ended.measuring <;> rw [send_control] <;> rfl
  · next start hStart =>
    dsimp only
    split
    · exact ended_reportSpan { r with link := r.link.pendingOutput.2 } now .floatTrip start
    · exact .measuring (Option.isSome_iff_exists.mpr ⟨start, hStart⟩) rfl

theorem ended_measureLoop : Control.Ended .loopTimer now r.control (r.measureLoop now).control := by
  unfold measureLoop
  split
  · exact .measuring rfl rfl
  · next start _ => exact ended_reportSpan r now .loop start

theorem ended_sampleBattery : Control.Ended .batteryTask now r.control (r.sampleBattery now).control := by
  apply Control.Ended.completed
  simp only [sampleBattery]
  split
  · split <;> simp
  · simp

theorem ended_controlDistance : Control.Ended .distanceControl now r.control (r.controlDistance now).control := by
  have same := r.control.distanceStep_agenda (r.sampleAt now)
  cases hStep : (r.control.distanceStep (r.sampleAt now)).1 with
  | waiting =>
    rw [(r.controlDistance_of_waiting now hStep).1]
    exact .retriggered (by decide) (by simp [same])
  | finished =>
    rw [(r.controlDistance_of_finished now hStep).1]
    exact .retired (by decide) (by simp [same])
  | drive left right travel =>
    rw [(r.controlDistance_of_drive now hStep).1]
    exact .retriggered (by decide) (by simp [same])

theorem ended_avoidObstacles : Control.Ended .avoidance now r.control (r.avoidObstacles now).control := by
  apply Control.Ended.retriggered (by decide)
  cases hStep : (r.control.avoidance.tick r.board).1 with
  | none => simp [(r.avoidObstacles_of_none now hStep).1]
  | some decision =>
    cases hEngage : decision.engage with
    | true => simp [(r.avoidObstacles_of_engage now hStep hEngage).1]
    | false => simp [(r.avoidObstacles_of_steer now hStep hEngage).1]

theorem ended_perform {task : Task} (alive : task ≠ .restart) :
    Control.Ended task now r.control (r.perform task now).control := by
  cases task
  case restart => exact absurd rfl alive
  case batteryTask => exact ended_sampleBattery r now
  case floatTrip => exact ended_measureTrip r now
  case loopTimer => exact ended_measureLoop r now
  case timedDuty => exact .retired (by decide) (by simp [perform])
  case distanceControl => exact ended_controlDistance r now
  case velocityControl =>
    apply Control.Ended.retriggered (by decide)
    simp [perform, controlVelocity_control, Control.velocityStep_agenda]
  case stopTimer => exact .retired (by decide) (by simp [perform, Task.motion])
  case avoidance => exact ended_avoidObstacles r now
  all_goals exact .completed (by simp [perform, warnBattery, reportStatus, reportProximity])

theorem touched_sampleBattery :
    Control.Touched .batteryTask .lowBattery r.control (r.sampleBattery now).control := by
  simp only [sampleBattery]
  split
  · split
    · exact .kept (by simp)
    · exact .warned rfl rfl (by simp)
  · exact .retired (by simp)

theorem touched_avoidObstacles :
    Control.Touched .avoidance .velocityControl r.control (r.avoidObstacles now).control := by
  cases hStep : (r.control.avoidance.tick r.board).1 with
  | none => exact .kept (by simp [(r.avoidObstacles_of_none now hStep).1])
  | some decision =>
    cases hEngage : decision.engage with
    | true =>
      apply Control.Touched.engaged rfl
      simp [(r.avoidObstacles_of_engage now hStep hEngage).1]
      rfl
    | false => exact .kept (by simp [(r.avoidObstacles_of_steer now hStep hEngage).1])

theorem touched_perform {task other : Task} (alive : task ≠ .restart) (apart : other ≠ task) :
    Control.Touched task other r.control (r.perform task now).control := by
  by_cases touches : other ∈ task.touches
  · cases task
    case restart => exact absurd rfl alive
    case batteryTask =>
      have same : other = .lowBattery := by simpa [Task.touches, apart] using touches
      subst same
      exact touched_sampleBattery r now
    case stopTimer =>
      apply Control.Touched.retired
      simp only [perform, stop_control, note_control]
      exact (Control.stop_get ..).trans (if_pos touches)
    case avoidance =>
      have same : other = .velocityControl := by simpa [Task.touches, apart] using touches
      subst same
      exact touched_avoidObstacles r now
    all_goals exact absurd (List.mem_singleton.mp touches) apart
  · exact .kept (perform_get touches now)

end Tasks

variable {settings : Settings} {r : Robot}

theorem paced_perform (h : r.control.agenda.Paced) (period : 0 < r.control.period) (task : Task) (now : Time) :
    (r.perform task now).control.agenda.Paced := by
  by_cases restart : task = .restart
  · subst restart
    exact Agenda.paced_fresh _ _
  intro other on
  unfold Agenda.isActive at on
  by_cases same : other = task
  · subst same
    cases ended_perform r now restart with
    | completed flag =>
      rw [flag] at on ⊢
      obtain ⟨active, duration⟩ := Flag.complete_keeps on
      rw [duration]
      exact h other active
    | retriggered _ flag =>
      rw [flag] at on ⊢
      exact h other on
    | retired _ flag =>
      rw [flag] at on
      cases on
    | measuring _ flag =>
      rw [flag] at on ⊢
      exact h other on
  · cases touched_perform r now restart same with
    | kept flag =>
      rw [flag] at on ⊢
      exact h other on
    | retired flag =>
      rw [flag] at on
      cases on
    | engaged _ flag =>
      rw [flag]
      exact .inl period
    | warned _ _ flag =>
      rw [flag]
      exact .inl (show (0 : Float32) < Control.lowBatteryPeriod by decide +kernel)

theorem zero_lt_of_accepted {seconds : FloatWord} (h : Command.refusalOfSeconds? (some seconds) = none) :
    0 < seconds.value := by
  simpa [Command.refusalOfSeconds?] using h

theorem paced_asked {agenda : Agenda} (h : agenda.Paced) {task : Task} (hTask : task ∈ Task.reports)
    {period : Option FloatWord} (accepted : Command.refusalOfSeconds? period = none) :
    (agenda.modify task (·.asked period)).Paced := by
  cases period with
  | none => exact h.modify fun _ => Task.bears_once (List.mem_cons_of_mem _ hTask)
  | some seconds => exact h.every (Single.zero_lt_mul_thousand (zero_lt_of_accepted accepted))

theorem paced_withStopTimer {c : Control} (h : c.agenda.Paced) {limit : Option FloatWord}
    (accepted : Command.refusalOfSeconds? limit = none) (now : Time) :
    (withStopTimer c limit now).agenda.Paced := by
  cases limit with
  | none => exact h
  | some seconds => exact h.timer (zero_lt_of_accepted accepted) now

theorem paced_comply (h : r.control.agenda.Paced) (period : 0 < r.control.period) (letter : UInt8)
    {command : Command} {volts : Float32} (accepted : command.refusal? volts = none) :
    (r.comply letter command).control.agenda.Paced := by
  cases command with
  | restart => exact h.modify fun _ => Task.bears_once (by decide)
  | arithmetic op lhs rhs =>
    rw [comply, send_control]
    exact h
  | time action seconds? =>
    simp only [comply]
    split
    · exact h
    · next timing _ =>
      rw [forgetStart_agenda]
      have known : ¬ action > 2 := fun unknown => by simp [Command.refusal?, unknown] at accepted
      rw [Command.refusal?, if_neg known] at accepted
      exact paced_asked h (by cases timing <;> decide) accepted
  | report stream seconds? => exact paced_asked h (by cases stream <;> decide) accepted
  | stop =>
    rw [comply, stop_control]
    exact h.retireAll _
  | duty left right limit =>
    rw [comply_duty_control]
    cases limit with
    | none => exact h.retireAll _
    | some seconds =>
      have positive := zero_lt_of_accepted (Option.or_eq_none_iff.mp accepted).2
      exact (h.retireAll _).timer positive r.board.clock
  | drive mode linear angular limit =>
    rw [comply_drive_control]
    apply paced_withStopTimer _ (Option.or_eq_none_iff.mp accepted).2
    exact (h.retireAll _).every period
  | avoid limit =>
    rw [comply_avoid_control]
    apply paced_withStopTimer _ (Option.or_eq_none_iff.mp accepted).2
    exact (h.retireAll _).every period

/-- A control state that follows its settings arms flags with good durations only. -/
structure Regular (settings : Settings) (c : Control) : Prop where
  follows : c.Follows settings
  paced : c.agenda.Paced

theorem Regular.perform (h : Regular settings r.control) (task : Task) (now : Time) :
    Regular settings (r.perform task now).control :=
  ⟨follows_perform h.follows task now, paced_perform h.paced h.follows.positive task now⟩

theorem regular_invariant (settings : Settings) : Invariant settings (Regular settings) where
  fresh hSetup battery := ⟨Control.follows_fresh hSetup battery, Agenda.paced_fresh _ battery⟩
  comply _ letter _ accepted h :=
    ⟨follows_comply h.follows letter _, paced_comply h.paced h.follows.positive letter accepted⟩
  perform _ task now h _ := h.perform task now

/-- The task is done for now, or its measurement has begun. -/
def Settled (task : Task) (now : Time) (r : Robot) : Prop :=
  (r.control.agenda.isActive task = false ∧ task ≠ .velocityControl) ∨
  ((r.control.agenda.get task).lastTrigger = now ∧ 0 < (r.control.agenda.get task).duration) ∨
  (r.control.start? task).isSome = true

theorem Settled.measuring_of_due {task : Task} {now : Time} (h : Settled task now r)
    (due : r.control.agenda.due task now = true) : (r.control.start? task).isSome = true := by
  rcases h with ⟨inactive, _⟩ | ⟨trigger, positive⟩ | measuring
  · rw [Agenda.active_of_due due] at inactive
    cases inactive
  · rw [Agenda.due, Flag.not_due_of_triggered trigger positive] at due
    cases due
  · exact measuring

theorem settled_perform (h : r.control.agenda.Paced) {task : Task} {now : Time}
    (due : r.control.agenda.due task now = true) : Settled task now (r.perform task now) := by
  by_cases restart : task = .restart
  · subst restart
    exact .inl ⟨Control.fresh_inactive _ _ (by decide), by decide⟩
  have bears := h task (Agenda.active_of_due due)
  cases ended_perform r now restart with
  | completed flag =>
    rcases bears with positive | ⟨report, once⟩
    · refine .inr (.inl ?_)
      have periodic : (r.control.agenda.get task).isOneShot = false :=
        decide_eq_false (Single.not_lt_zero positive)
      rw [flag, Flag.complete, periodic]
      exact ⟨rfl, positive⟩
    · refine .inl ⟨?_, ?_⟩
      · have single : (r.control.agenda.get task).isOneShot = true := by
          rw [Flag.isOneShot, once]
          decide +kernel
        rw [Agenda.isActive, flag, Flag.complete, single]
        rfl
      · rintro rfl
        revert report
        decide
  | retriggered updates flag =>
    rcases bears with positive | ⟨report, _⟩
    · refine .inr (.inl ?_)
      rw [flag]
      exact ⟨rfl, positive⟩
    · exact absurd report (Task.updates_periodic task updates)
  | retired apart flag =>
    refine .inl ⟨?_, apart⟩
    rw [Agenda.isActive, flag]
    rfl
  | measuring started _ => exact .inr (.inr started)

theorem Task.earlier_apart : ∀ task, ∀ other ∈ taskOrder.takeWhile (· != task), other ≠ task := by
  intro task
  cases task <;> decide

theorem Task.later_apart : ∀ task, ∀ other ∈ (taskOrder.dropWhile (· != task)).tail,
    other ≠ task ∧ other ≠ .restart ∧ (other = .batteryTask → task ≠ .lowBattery) := by
  intro task
  cases task <;> decide

/-- What other tasks leave alone is after a sweep what it is after its own task's turn. -/
theorem sweep_reads {α : Type} (read : Robot → α) (r : Robot) (task : Task)
    (kept : ∀ (t : Robot) (other : Task) (now : Time), other ≠ task → other ≠ .restart →
      read (t.perform other now) = read t) :
    read r.sweep = read (performDue r.board.clock (r.atTurn task) task) := by
  rw [sweep_eq r task]
  refine foldl_performDue (P := fun t => read t = _) _ ?_ rfl
  intro t other hOther same _
  obtain ⟨apart, alive, _⟩ := Task.later_apart task other hOther
  rw [kept t other _ apart alive, same]

/-- A later turn may retire the flag, or switch velocity control on without triggering it. -/
theorem Settled.perform {task other : Task} {now : Time} (h : Settled task now r)
    (period : 0 < r.control.period) (later : other ∈ (taskOrder.dropWhile (· != task)).tail) :
    Settled task now (r.perform other now) := by
  obtain ⟨apart, alive, warns⟩ := Task.later_apart task other later
  unfold Settled Agenda.isActive
  rw [(kept_perform r now alive).start? apart.symm]
  rcases h with ⟨inactive, notVelocity⟩ | ⟨trigger, positive⟩ | measuring
  · refine .inl ⟨?_, notVelocity⟩
    cases touched_perform r now alive apart.symm with
    | kept flag => rwa [flag]
    | retired flag =>
      rw [flag]
      rfl
    | engaged velocity => exact absurd velocity notVelocity
    | warned battery low => exact absurd low (warns battery)
  · refine .inr (.inl ?_)
    cases touched_perform r now alive apart.symm with
    | kept flag =>
      rw [flag]
      exact ⟨trigger, positive⟩
    | retired flag =>
      rw [flag]
      exact ⟨trigger, positive⟩
    | engaged _ flag =>
      rw [flag]
      exact ⟨trigger, period⟩
    | warned battery low => exact absurd low (warns battery)
  · exact .inr (.inr measuring)

theorem settled_pass (h : Reachable settings r) {s : Surroundings} {task : Task} (performs : r.Performs s task) :
    Settled task s.clock (r.pass s) := by
  have turn := (regular_invariant settings).atTurn h s task
  rw [pass_of_performs performs]
  refine (foldl_performDue (P := fun t => Regular settings t.control ∧ Settled task s.clock t) _ ?_ ⟨?_, ?_⟩).2
  · rintro t other later ⟨regular, settled⟩ _
    exact ⟨regular.perform other s.clock, settled.perform regular.follows.positive later⟩
  · exact turn.perform task s.clock
  · exact settled_perform turn.paced performs.2

/-- A task that a pass has carried out is not due again at the same time, unless its measurement
has begun and has not been reported; and whatever is on is on for a single run or for a positive
number of milliseconds. -/
theorem performed_tasks_settle (settings : Settings) :
    (∀ r s task, Reachable settings r → r.Performs s task →
      (r.pass s).control.agenda.due task s.clock = true →
        (task = .floatTrip ∧ (r.pass s).control.tripStart.isSome = true) ∨
          (task = .loopTimer ∧ (r.pass s).control.loopStart.isSome = true)) ∧
    ∀ r task, Reachable settings r → r.control.agenda.isActive task = true →
      (r.control.agenda.get task).duration = -1 ∨ 0 < (r.control.agenda.get task).duration := by
  constructor
  · intro r s task hReachable performs due
    have measuring := (settled_pass hReachable performs).measuring_of_due due
    cases task
    case floatTrip => exact .inl ⟨rfl, measuring⟩
    case loopTimer => exact .inr ⟨rfl, measuring⟩
    all_goals cases measuring
  · intro r task hReachable on
    rcases ((regular_invariant settings).reachable hReachable).paced task on with positive | ⟨_, once⟩
    · exact .inr positive
    · exact .inl once

/-- A loop is measured: the first pass marks its start and leaves the timer due, the second reports
and retires it. -/
theorem performed_tasks_settle_powerOn :
    let first : Surroundings := { clock := .ofMillis 10, arriving := [0x74, 2] }
    let second : Surroundings := { clock := .ofMillis 20 }
    let measuring := powerOn.pass first
    powerOn.Performs first .loopTimer ∧ measuring.control.agenda.due .loopTimer first.clock = true ∧
      measuring.control.loopStart = some first.clock ∧ measuring.Performs second .loopTimer ∧
      ¬ (measuring.pass second).control.agenda.due .loopTimer second.clock = true ∧
      (measuring.control.agenda.get .loopTimer).duration = -1 := by
  intro first second measuring
  obtain ⟨settles, durations⟩ := performed_tasks_settle .standard
  have reachable : Reachable .standard measuring := reachable_powerOn.pass first
  have performs : measuring.Performs second .loopTimer := by decide +kernel
  refine ⟨by decide +kernel, by decide +kernel, by decide +kernel, performs, ?_, ?_⟩
  · intro due
    obtain ⟨trip, _⟩ | ⟨_, loop⟩ := settles _ _ _ reachable performs due
    · cases trip
    · revert loop
      decide +kernel
  · have on : measuring.control.agenda.isActive .loopTimer = true := by decide +kernel
    have notPeriodic : ¬ 0 < (measuring.control.agenda.get .loopTimer).duration := by decide +kernel
    exact (durations _ _ reachable on).resolve_right notPeriodic

end Robot

end Rover
