import Rover.Proofs.Pace
import Rover.Proofs.Telemetry

/-!
# The warning follows the voltage

Sampling the battery is all that changes the voltage, and it sets the flag of the warning by what it
has measured. A restart takes the flag away and leaves the battery filter as it is. So the warning is
on only while the voltage is low, and exactly then once there has been a sample since the start or
the latest restart.
-/

namespace Rover
open Motion Wire
set_option autoImplicit false

theorem Battery.isLow_iff (battery : Battery) :
    battery.isLow = true ↔ 3 < battery.volts ∧ battery.volts < 4.75 := by
  rw [isLow, Bool.and_eq_true, decide_eq_true_iff, decide_eq_true_iff]
  rfl

theorem Wire.Command.rearm_of_not_mem {task : Task} (h : task ∉ .restart :: Task.reports) (command : Command)
    (flag : Flag) : command.rearm task flag = flag := by
  rw [List.mem_cons, not_or] at h
  cases command with
  | restart => exact if_neg h.1
  | time action period =>
    apply if_neg
    intro asked
    obtain ⟨timing, _, rfl⟩ := Option.map_eq_some_iff.mp asked
    revert h
    cases timing <;> decide
  | report stream period =>
    apply if_neg
    rintro rfl
    revert h
    cases stream <;> decide
  | _ => rfl

namespace Control

def Warranted (c : Control) : Prop := c.agenda.isActive .lowBattery = true → c.battery.isLow = true

/-- The warning is on exactly while the voltage is low. -/
def Alert (c : Control) : Prop := c.agenda.isActive .lowBattery = c.battery.isLow

theorem Alert.warranted {c : Control} (h : c.Alert) : c.Warranted := by
  intro on
  rwa [← h]

theorem Alert.iff {c : Control} (h : c.Alert) :
    c.agenda.isActive .lowBattery = true ↔ 3 < c.battery.volts ∧ c.battery.volts < 4.75 := by
  rw [h, Battery.isLow_iff]

structure SameWatch (c d : Control) : Prop where
  battery : d.battery = c.battery
  flag : d.agenda.isActive .lowBattery = c.agenda.isActive .lowBattery

namespace SameWatch

variable {c d : Control} (h : c.SameWatch d)
include h

theorem warranted (before : c.Warranted) : d.Warranted := by
  rw [Warranted, h.battery, h.flag]
  exact before

theorem alert (before : c.Alert) : d.Alert := by
  rw [Alert, h.battery, h.flag]
  exact before

end SameWatch
end Control

namespace Robot

theorem battery_of_motionPart {r t : Robot} (h : t.motionPart = r.motionPart) :
    t.control.battery = r.control.battery :=
  congrArg MotionPart.battery h

section Steps

variable (r : Robot)

theorem comply_battery (letter : UInt8) (command : Command) :
    (r.comply letter command).control.battery = r.control.battery := by
  cases command with
  | stop =>
    rw [comply, stop_control]
    rfl
  | duty left right limit =>
    rw [comply_duty_control]
    cases limit <;> rfl
  | drive mode linear angular limit =>
    rw [comply_drive_control]
    cases limit <;> rfl
  | avoid limit =>
    rw [comply_avoid_control]
    cases limit <;> rfl
  | _ => exact battery_of_motionPart (comply_motionPart r letter rfl (by simp))

theorem sameWatch_comply (letter : UInt8) (command : Command) :
    r.control.SameWatch (r.comply letter command).control where
  battery := r.comply_battery letter command
  flag := by
    apply isActive_of_get
    rw [comply_get r letter command (by decide), Command.rearm_of_not_mem (by decide)]

theorem sameWatch_polled (s : Surroundings) : r.control.SameWatch (r.polled s).control := by
  obtain ⟨letter, command, _, control, _⟩ | ⟨control, _⟩ := (r.served s).poll_effect
  · rw [polled, control]
    exact ((r.served s).received letter).sameWatch_comply letter command
  · rw [polled, control]
    exact ⟨rfl, rfl⟩

theorem perform_battery {task : Task} (other : task ≠ .batteryTask) (now : Time) :
    (r.perform task now).control.battery = r.control.battery := by
  cases task
  case batteryTask => exact absurd rfl other
  case restart | stopTimer =>
    have stopped (n : Note) : ((r.note n).stop).control.battery = r.control.battery := by
      rw [stop_control]
      rfl
    exact stopped _
  case lowBattery =>
    simp only [perform, warnBattery, complete_control, send_control, note_control]
    rfl
  case timedDuty =>
    simp only [perform, arm_control, halt_control, note_control]
    rfl
  case distanceControl =>
    obtain ⟨_, _, frame, _⟩ := r.control.distanceStep_frame (r.sampleAt now)
    rw [perform, controlDistance_control, frame]
    split <;> rfl
  case velocityControl =>
    obtain ⟨_, _, frame, _⟩ := r.control.velocityStep_frame (r.sampleAt now)
    rw [perform, controlVelocity_control, frame]
    rfl
  case avoidance =>
    cases hDecision : (r.control.avoidance.tick r.board).1 with
    | none =>
      rw [perform, (r.avoidObstacles_of_none now hDecision).1]
      rfl
    | some decision =>
      cases hEngage : decision.engage with
      | true =>
        rw [perform, (r.avoidObstacles_of_engage now hDecision hEngage).1]
        rfl
      | false =>
        rw [perform, (r.avoidObstacles_of_steer now hDecision hEngage).1]
        rfl
  all_goals exact battery_of_motionPart (perform_motionPart (by decide) now)

theorem sampleBattery_battery (now : Time) :
    (r.sampleBattery now).control.battery = r.control.battery.sample r.board.battery := by
  simp only [sampleBattery]
  split
  · split <;> rfl
  · rfl

theorem alert_sampleBattery (now : Time) : (r.sampleBattery now).control.Alert := by
  rw [Control.Alert, sampleBattery_battery, Agenda.isActive]
  simp only [sampleBattery]
  split
  · next low =>
    rw [low]
    split
    · next on => simpa [Agenda.isActive] using on
    · simp [Flag.every]
  · next fine => simp [Flag.retire, fine]

theorem sameWatch_perform {task : Task} (paced : r.control.agenda.Paced) (alive : task ≠ .restart)
    (other : task ≠ .batteryTask) {now : Time} (due : r.control.agenda.due task now = true) :
    r.control.SameWatch (r.perform task now).control := by
  refine ⟨r.perform_battery other now, ?_⟩
  by_cases same : task = .lowBattery
  · subst same
    have on := Agenda.active_of_due due
    have periodic : (r.control.agenda.get .lowBattery).isOneShot = false := by
      obtain positive | ⟨report, _⟩ := paced .lowBattery on
      · exact decide_eq_false (Single.not_lt_zero positive)
      · exact absurd report (by decide)
    have flag : (r.perform .lowBattery now).control.agenda.get .lowBattery =
        (r.control.agenda.get .lowBattery).complete now := r.perform_get_series .warnings now
    rw [Agenda.isActive, flag, Flag.complete, periodic]
    rfl
  · apply isActive_of_get
    apply perform_get
    revert same alive other
    cases task <;> decide

theorem alert_perform {task : Task} (paced : r.control.agenda.Paced) (h : r.control.Alert)
    (alive : task ≠ .restart) {now : Time} (due : r.control.agenda.due task now = true) :
    (r.perform task now).control.Alert := by
  by_cases sampling : task = .batteryTask
  · subst sampling
    exact r.alert_sampleBattery now
  · exact (r.sameWatch_perform paced alive sampling due).alert h

end Steps

/-- Durations are good, and the warning is on only while the voltage is low. -/
structure Guarded (settings : Settings) (c : Control) : Prop where
  regular : Regular settings c
  warranted : c.Warranted

theorem guarded_invariant (settings : Settings) : Invariant settings (Guarded settings) where
  fresh hSetup battery := by
    refine ⟨(regular_invariant settings).fresh hSetup battery, ?_⟩
    intro on
    rw [Control.fresh_inactive _ battery (by decide)] at on
    cases on
  comply r letter command accepted h :=
    ⟨(regular_invariant settings).comply r letter accepted h.regular,
      (r.sameWatch_comply letter command).warranted h.warranted⟩
  perform r task now h due := by
    refine ⟨h.regular.perform task now, ?_⟩
    by_cases restart : task = .restart
    · subst restart
      intro on
      exact absurd on (Bool.eq_false_iff.mp (Control.fresh_inactive _ _ (by decide)))
    · by_cases sampling : task = .batteryTask
      · subst sampling
        exact (r.alert_sampleBattery now).warranted
      · exact (r.sameWatch_perform h.regular.paced restart sampling due).warranted h.warranted

/-- The battery has been sampled since the start or the latest restart. In a pass that has both, the
restart comes first. -/
inductive Sampled (settings : Settings) : Robot → Prop where
  | now {r : Robot} {s : Surroundings} :
      Reachable settings r → r.Performs s .batteryTask → Sampled settings (r.pass s)
  | before {r : Robot} {s : Surroundings} :
      Sampled settings r → ¬ r.Performs s .restart → Sampled settings (r.pass s)

variable {settings : Settings} {r : Robot}

theorem Sampled.reachable (h : Sampled settings r) : Reachable settings r := by
  induction h with
  | now reachable _ => exact reachable.pass _
  | before _ _ ih => exact ih.pass _

theorem alert_turn {t : Robot} {task : Task} {now : Time}
    (h : Regular settings t.control ∧ t.control.Alert) (alive : task ≠ .restart)
    (due : t.control.agenda.due task now = true) :
    Regular settings (t.perform task now).control ∧ (t.perform task now).control.Alert :=
  ⟨h.1.perform task now, t.alert_perform h.1.paced h.2 alive due⟩

theorem alert_pass_of_sample (h : Reachable settings r) {s : Surroundings}
    (performs : r.Performs s .batteryTask) : (r.pass s).control.Alert := by
  have regular := (regular_invariant settings).atTurn h s .batteryTask
  rw [pass_of_performs performs]
  refine (foldl_performDue (P := fun t => Regular settings t.control ∧ t.control.Alert) _ ?_ ⟨?_, ?_⟩).2
  · intro t other later alert due
    exact alert_turn alert (Task.later_apart _ other later).2.1 due
  · exact regular.perform .batteryTask s.clock
  · exact alert_sampleBattery _ s.clock

theorem alert_pass_of_alert (h : Reachable settings r) {s : Surroundings} (alert : r.control.Alert)
    (unrestarted : ¬ r.Performs s .restart) : (r.pass s).control.Alert := by
  obtain ⟨ok, swept⟩ | failed := r.pass_cases s
  · have noRestart : (r.polled s).control.agenda.due .restart (r.polled s).board.clock ≠ true := by
      rw [polled_clock]
      exact fun due => unrestarted ⟨ok, due⟩
    rw [swept]
    refine (foldl_unrestarted (P := fun t => Regular settings t.control ∧ t.control.Alert) noRestart taskOrder
      ?_ ⟨?_, ?_⟩).2
    · intro t other _ alive turn due
      exact alert_turn turn alive due
    · exact (regular_invariant settings).polled ((regular_invariant settings).reachable h) s
    · exact (r.sameWatch_polled s).alert alert
  · rw [failed]
    exact alert

theorem Sampled.alert (h : Sampled settings r) : r.control.Alert := by
  induction h with
  | now reachable performs => exact alert_pass_of_sample reachable performs
  | before sampled unrestarted ih => exact alert_pass_of_alert sampled.reachable ih unrestarted

theorem sentSince_perform {earlier t : Robot} (later : earlier.journal.messages <+: t.journal.messages)
    (task : Task) (now : Time) :
    (t.perform task now).sentSince earlier = t.sentSince earlier ++ t.sends now task := by
  rw [sentSince, perform_messages, List.drop_append_of_le_length later.length_le, sentSince]

def WarnsOfLow (m : Message) : Prop := ∃ volts : Float32, m = .batteryLow volts ∧ 3 < volts ∧ volts < 4.75

theorem warnsOfLow_of_sends {t : Robot} (warranted : t.control.Warranted) {task : Task} {now : Time}
    (due : t.control.agenda.due task now = true) {m : Message} (hm : m ∈ t.sends now task)
    (fits : Mark.lowBattery.fits m = true) : WarnsOfLow m := by
  by_cases own : task = .lowBattery
  · subst own
    have low := (Battery.isLow_iff _).mp (warranted (Agenda.active_of_due due))
    exact ⟨_, List.mem_singleton.mp hm, low⟩
  · have foreign : Mark.lowBattery ∈ Task.marks .lowBattery := .head _
    exact absurd fits (Bool.eq_false_iff.mp (reserved_mark foreign task own t now m hm))

theorem warnsOfLow_of_uttered (h : Reachable settings r) {s : Surroundings} :
    ∀ m ∈ r.uttered s .warnings, Mark.lowBattery.fits m = true → WarnsOfLow m := by
  have start := (guarded_invariant settings).polled ((guarded_invariant settings).reachable h) s
  obtain ⟨_, swept⟩ | failed := r.pass_cases s
  · rw [uttered, swept]
    refine (sweep_induct (P := fun t => Guarded settings t.control ∧
      (r.polled s).journal.messages <+: t.journal.messages ∧
      ∀ m ∈ t.sentSince (r.polled s), Mark.lowBattery.fits m = true → WarnsOfLow m) ?_ ⟨start, ?_, ?_⟩).2.2
    · rintro t task now ⟨guarded, later, told⟩ due
      refine ⟨(guarded_invariant settings).perform t task now guarded due,
        later.trans (t.perform_extends task now), ?_⟩
      rw [sentSince_perform later]
      intro m hm fits
      rcases List.mem_append.mp hm with earlier | sent
      · exact told m earlier fits
      · exact warnsOfLow_of_sends guarded.warranted due sent fits
    · exact List.prefix_refl _
    · rw [sentSince, List.drop_length]
      intro m hm
      cases hm
  · have silent : (r.served s).sentSince (r.polled s) = [] :=
      List.drop_eq_nil_of_le (r.served s).poll_extends.length_le
    rw [uttered, failed, silent]
    intro m hm
    cases hm

/-- Between passes the warning is on only while the voltage is between three volts and what the motors
need, and it is on exactly then once the battery has been sampled since the start or the latest
restart. Every warning that is sent names a voltage between the two. -/
theorem warning_follows_voltage (settings : Settings) :
    (∀ r, Reachable settings r → r.control.agenda.isActive .lowBattery = true →
      3 < r.control.battery.volts ∧ r.control.battery.volts < 4.75) ∧
    (∀ r, Sampled settings r → (r.control.agenda.isActive .lowBattery = true ↔
      3 < r.control.battery.volts ∧ r.control.battery.volts < 4.75)) ∧
    ∀ r s, Reachable settings r → ∀ m ∈ r.uttered s .warnings, Mark.lowBattery.fits m = true →
      ∃ volts : Float32, m = .batteryLow volts ∧ 3 < volts ∧ volts < 4.75 := by
  refine ⟨?_, ?_, ?_⟩
  · intro r hReachable on
    exact (Battery.isLow_iff _).mp (((guarded_invariant settings).reachable hReachable).warranted on)
  · intro r hSampled
    exact hSampled.alert.iff
  · intro r s hReachable
    exact warnsOfLow_of_uttered hReachable

/-- The battery is pulled out, and the voltage falls through the range of the warning, with a restart
in its midst. -/
theorem warning_follows_voltage_powerOn :
    let unplugged (millis : UInt32) : Surroundings := { clock := .ofMillis millis, battery := 0 }
    let restart : Surroundings := { unplugged 2020 with arriving := [0x7e] }
    let falling := (powerOn.pass (unplugged 2000)).pass (unplugged 2010)
    let low := falling.pass restart
    (3 < falling.control.battery.volts ∧ falling.control.battery.volts < 4.75) ∧
      (falling.Performs restart .restart ∧ Sampled .standard low) ∧
      (3 < low.control.battery.volts ∧ low.control.battery.volts < 4.75) ∧
      ∃ m ∈ falling.uttered restart .warnings, Mark.lowBattery.fits m = true ∧
        ∃ volts : Float32, m = .batteryLow volts ∧ 3 < volts ∧ volts < 4.75 := by
  intro unplugged restart falling low
  obtain ⟨warranted, exactly, told⟩ := warning_follows_voltage .standard
  have reachable : Reachable .standard falling := (reachable_powerOn.pass _).pass _
  have sampled : Sampled .standard low := .now reachable (by decide +kernel)
  have tells : ∃ m ∈ falling.uttered restart .warnings, Mark.lowBattery.fits m = true := by
    decide +kernel
  obtain ⟨m, uttered, fits⟩ := tells
  refine ⟨?_, ⟨?_, sampled⟩, ?_, m, uttered, fits, ?_⟩
  · exact warranted falling reachable (by decide +kernel)
  · decide +kernel
  · exact (exactly low sampled).mp (by decide +kernel)
  · exact told falling restart reachable m uttered fits

end Robot
end Rover
