import Rover.Proofs.Deadline
import Rover.Proofs.Marks
import Rover.Proofs.Settled

/-!
# Messages that keep their pace

Periodic reports and the warning of a low battery are series of messages. A flag's last trigger is
the time of the latest message of its series: commands, the battery and single reports switch the
flag on and off and change its period, but none of them changes the last trigger. So when the next
message is sent, the period then in force has passed.
-/

namespace Rover
open Motion Wire
set_option autoImplicit false

/-- Messages that are sent over and over, at most one in a period. -/
inductive Series where
  | reports (subject : Subject)
  | warnings
  deriving DecidableEq

namespace Series

def task : Series → Task
  | reports subject => subject.task
  | warnings => .lowBattery

def mark : Series → Mark
  | reports subject => subject.mark true
  | warnings => .lowBattery

theorem mark_mem (series : Series) : series.mark ∈ series.task.marks := by
  cases series with
  | reports subject => exact subject.mark_mem true
  | warnings => exact .head _

theorem task_not_mem_motion (series : Series) : series.task ∉ Task.motion := by
  cases series with
  | reports subject => cases subject <;> decide
  | warnings => decide

end Series

namespace Flag

theorem past_of_due {flag : Flag} {now : Time} (due : flag.due now = true)
    (periodic : flag.isOneShot = false) : (now.since flag.lastTrigger).toMillis ≥ flag.duration := by
  have active := (Bool.and_eq_true_iff.mp due).2
  rw [periodic, Bool.false_or] at active
  exact of_decide_eq_true active

theorem lastTrigger_asked (period : Option FloatWord) (flag : Flag) :
    (flag.asked period).lastTrigger = flag.lastTrigger := by
  cases period <;> rfl

theorem lastTrigger_rearm (command : Command) (task : Task) (flag : Flag) :
    (command.rearm task flag).lastTrigger = flag.lastTrigger := by
  cases command with
  | restart | time action period | report stream period =>
    simp only [Command.rearm]
    split
    · first | rfl | exact lastTrigger_asked ..
    · rfl
  | _ => rfl

end Flag

namespace Robot

/-- The flag of a task when its turn comes in a pass. -/
def flagAtTurn (r : Robot) (s : Surroundings) (task : Task) : Flag :=
  ((r.polled s).atTurn task).control.agenda.get task

/-- The time of the latest trigger of a task. -/
def lastTrigger (r : Robot) (task : Task) : Time := (r.control.agenda.get task).lastTrigger

section Triggers

variable {r : Robot} {s : Surroundings} {task : Task}

/-- Nothing but a restart and its own turn changes when a task was last triggered. -/
theorem lastTrigger_perform {other : Task} (alive : other ≠ .restart) (apart : task ≠ other) (now : Time) :
    (r.perform other now).lastTrigger task = r.lastTrigger task := by
  unfold lastTrigger
  cases touched_perform r now alive apart with
  | kept flag => rw [flag]
  | retired flag | engaged _ flag | warned _ _ flag =>
    rw [flag]
    rfl

theorem lastTrigger_polled (h : task ∉ Task.motion) : (r.polled s).lastTrigger task = r.lastTrigger task := by
  unfold lastTrigger
  obtain ⟨letter, command, _, control, _⟩ | ⟨control, _⟩ := (r.served s).poll_effect
  · rw [polled, control, comply_get _ _ _ h, Flag.lastTrigger_rearm]
    rfl
  · rw [polled, control, served_control]

theorem lastTrigger_atTurn (noRestart : r.control.agenda.due .restart r.board.clock ≠ true) :
    (r.atTurn task).lastTrigger task = r.lastTrigger task := by
  refine foldl_unrestarted (P := fun t => t.lastTrigger task = r.lastTrigger task) noRestart _ ?_ rfl
  intro t other hOther alive same _
  rw [lastTrigger_perform alive (Task.earlier_apart task other hOther).symm, same]

theorem lastTrigger_turn (h : task ∉ Task.motion) (ok : r.Succeeds s)
    (unrestarted : ¬ r.Performs s .restart) :
    ((r.polled s).atTurn task).lastTrigger task = r.lastTrigger task := by
  have noRestart : (r.polled s).control.agenda.due .restart (r.polled s).board.clock ≠ true := by
    rw [polled_clock]
    exact fun due => unrestarted ⟨ok, due⟩
  exact (lastTrigger_atTurn noRestart).trans (lastTrigger_polled h)

theorem lastTrigger_sweep (r : Robot) (task : Task) :
    r.sweep.lastTrigger task = (performDue r.board.clock (r.atTurn task) task).lastTrigger task :=
  sweep_reads (·.lastTrigger task) r task fun _ _ now apart alive => lastTrigger_perform alive apart.symm now

theorem perform_get_report (r : Robot) (subject : Subject) (now : Time) :
    (r.perform subject.task now).control.agenda.get subject.task =
      (r.control.agenda.get subject.task).complete now := by
  cases subject <;> simp [Subject.task, perform, reportStatus, reportProximity]

theorem perform_get_series (r : Robot) (series : Series) (now : Time) :
    (r.perform series.task now).control.agenda.get series.task =
      (r.control.agenda.get series.task).complete now := by
  cases series with
  | reports subject => exact r.perform_get_report subject now
  | warnings => simp [Series.task, perform, warnBattery]

end Triggers

/-- What the robot sends in a pass, as far as a series is concerned: a command that is refused for want
of power is answered in the words of a warning, which does not make the answer one. -/
def uttered (r : Robot) (s : Surroundings) : Series → List Message
  | .reports _ => (r.pass s).sentSince r
  | .warnings => (r.pass s).sentSince (r.polled s)

/-- A message of the series is sent in the pass. -/
def Tells (r : Robot) (s : Surroundings) (series : Series) : Prop :=
  ∃ m ∈ r.uttered s series, series.mark.fits m = true

instance (r : Robot) (s : Surroundings) (series : Series) : Decidable (r.Tells s series) :=
  inferInstanceAs (Decidable (∃ m ∈ _, _))

theorem countP_sends_warning (r : Robot) (now : Time) :
    (r.sends now .lowBattery).countP Mark.lowBattery.fits = 1 := by
  rw [sends, List.countP_singleton, if_pos (Mark.fits_lowBattery _)]

theorem countP_warnings (r : Robot) (s : Surroundings) :
    ((r.pass s).sentSince (r.polled s)).countP Mark.lowBattery.fits =
      if r.Performs s .lowBattery then 1 else 0 := by
  by_cases ok : r.Succeeds s
  · have later : (r.polled s).journal.messages <+: (r.pass s).journal.messages := by
      rw [pass_of_succeeds ok]
      exact sweep_extends _
    apply countP_sentSince later
    rw [said_pass r (show Mark.lowBattery ∈ Task.marks .lowBattery from .head _) s ok, countP_sends_warning]
  · have silent : (r.pass s).sentSince (r.polled s) = [] := by
      rw [pass_of_fails ok]
      exact List.drop_eq_nil_of_le (r.served s).poll_extends.length_le
    rw [silent, if_neg fun performs => ok performs.1]
    rfl

section Reached

variable {settings : Settings} {r : Robot} (h : Reachable settings r) (s : Surroundings)
include h

/-- Warnings are never asked for one by one. -/
theorem warning_periodic (performs : r.Performs s .lowBattery) :
    (r.flagAtTurn s .lowBattery).isOneShot = false := by
  have paced := ((regular_invariant settings).atTurn h s .lowBattery).paced
  obtain positive | ⟨report, _⟩ := paced .lowBattery (Agenda.active_of_due performs.2)
  · exact decide_eq_false (Single.not_lt_zero positive)
  · exact absurd report (by decide)

/-- A series gets its message exactly when its task is carried out with a period. -/
theorem countP_uttered (series : Series) :
    (r.uttered s series).countP series.mark.fits =
      if r.Performs s series.task ∧ (r.flagAtTurn s series.task).isOneShot = false then 1 else 0 := by
  cases series with
  | reports subject => exact countP_sentSince (r.pass_extends s) (r.said_pass_report s subject true)
  | warnings =>
    have periodic : r.Performs s .lowBattery ↔
        r.Performs s .lowBattery ∧ (r.flagAtTurn s .lowBattery).isOneShot = false :=
      ⟨fun performs => ⟨performs, warning_periodic h s performs⟩, And.left⟩
    exact (countP_warnings r s).trans (if_congr periodic rfl rfl)

theorem tells_iff (series : Series) :
    r.Tells s series ↔ r.Performs s series.task ∧ (r.flagAtTurn s series.task).isOneShot = false := by
  have counted := countP_uttered h s series
  rw [Tells, ← List.countP_pos_iff, counted]
  split <;> simp [*]

theorem lastTrigger_of_tells {series : Series} (tells : r.Tells s series) :
    (r.pass s).lastTrigger series.task = s.clock := by
  obtain ⟨performs, periodic⟩ := (tells_iff h s series).mp tells
  have turn : (((r.polled s).atTurn series.task).control.agenda.get series.task).isOneShot = false := periodic
  rw [pass_of_succeeds performs.1, lastTrigger_sweep, polled_clock, performDue_of_due performs.2, lastTrigger,
    perform_get_series, Flag.complete, turn]
  rfl

/-- Without a message of the series and without a restart, a pass leaves the last trigger alone. -/
theorem lastTrigger_of_silent {series : Series} (unrestarted : ¬ r.Performs s .restart)
    (silent : ¬ r.Tells s series) : (r.pass s).lastTrigger series.task = r.lastTrigger series.task := by
  by_cases ok : r.Succeeds s
  · rw [pass_of_succeeds ok, lastTrigger_sweep, polled_clock,
      ← lastTrigger_turn series.task_not_mem_motion ok unrestarted]
    by_cases due : ((r.polled s).atTurn series.task).control.agenda.due series.task s.clock = true
    -- Only a single report is sent without a message of the series, and it retires the flag.
    · have single : (((r.polled s).atTurn series.task).control.agenda.get series.task).isOneShot = true := by
        apply (Bool.not_eq_false _).mp
        exact fun periodic => silent ((tells_iff h s series).mpr ⟨⟨ok, due⟩, periodic⟩)
      rw [performDue_of_due due, lastTrigger, perform_get_series, Flag.complete, single]
      rfl
    · rw [performDue_of_not_due due]
  · rw [pass_of_fails ok]
    rfl

theorem lastTrigger_passAll {series : Series} {run : List Surroundings}
    (silent : Along (fun t s => ¬ t.Performs s .restart ∧ ¬ t.Tells s series) r run) :
    (r.passAll run).lastTrigger series.task = r.lastTrigger series.task := by
  induction run generalizing r with
  | nil => rfl
  | cons s run ih =>
    exact (ih (h.pass s) silent.2).trans (lastTrigger_of_silent h s silent.1.1 silent.1.2)

/-- When a message of a series is sent, the period then in force has passed since the last trigger. -/
theorem period_past {series : Series} (unrestarted : ¬ r.Performs s .restart) (tells : r.Tells s series) :
    (s.clock.since (r.lastTrigger series.task)).toMillis ≥ (r.flagAtTurn s series.task).duration := by
  obtain ⟨⟨ok, due⟩, periodic⟩ := (tells_iff h s series).mp tells
  rw [← lastTrigger_turn series.task_not_mem_motion ok unrestarted]
  exact Flag.past_of_due due periodic

end Reached

/-- In no pass is more than one message of a series sent; and from one message of a series to the next,
if no restart comes between them, there passes at least the period in force when the second one is
sent. -/
theorem series_keep_pace {settings : Settings} {r : Robot} (h : Reachable settings r) (series : Series)
    (first : Surroundings) :
    (r.uttered first series).countP series.mark.fits ≤ 1 ∧
    ∀ between second, r.Tells first series →
      Along (fun t s => ¬ t.Performs s .restart ∧ ¬ t.Tells s series) (r.pass first) between →
      let last := (r.pass first).passAll between
      ¬ last.Performs second .restart → last.Tells second series →
        (second.clock.since first.clock).toMillis ≥ (last.flagAtTurn second series.task).duration := by
  constructor
  · rw [countP_uttered h first series]
    split <;> decide
  · intro between second tells silent last unrestarted again
    have reached := h.pass first
    have trigger : last.lastTrigger series.task = first.clock :=
      (lastTrigger_passAll reached silent).trans (lastTrigger_of_tells h first tells)
    rw [← trigger]
    exact period_past (reached.passAll between) second unrestarted again

/-- Battery reports every 50 milliseconds; between two of them comes a single report, and then a new
period of 40 milliseconds. -/
theorem series_keep_pace_powerOn :
    let battery := Series.reports .battery
    let first : Surroundings := { clock := .ofMillis 60, arriving := [0x42, 0xcd, 0xcc, 0x4c, 0x3d] }
    let single : Surroundings := { clock := .ofMillis 70, arriving := [0x62] }
    let rearmed : Surroundings := { clock := .ofMillis 80, arriving := [0x42, 0x0a, 0xd7, 0x23, 0x3d] }
    let second : Surroundings := { clock := .ofMillis 105 }
    let last := (powerOn.pass first).passAll [single, rearmed]
    (powerOn.uttered first battery).countP battery.mark.fits ≤ 1 ∧ powerOn.Tells first battery ∧
      last.Tells second battery ∧ (last.flagAtTurn second battery.task).duration = 40 ∧
      (second.clock.since first.clock).toMillis ≥ (last.flagAtTurn second battery.task).duration := by
  intro battery first single rearmed second last
  obtain ⟨once, pace⟩ := series_keep_pace reachable_powerOn battery first
  have tells : powerOn.Tells first battery := by decide +kernel
  have again : last.Tells second battery := by decide +kernel
  have silent : Along (fun t s => ¬ t.Performs s .restart ∧ ¬ t.Tells s battery) (powerOn.pass first)
      [single, rearmed] := by
    refine ⟨⟨?_, ?_⟩, ⟨?_, ?_⟩, trivial⟩
    all_goals decide +kernel
  refine ⟨once, tells, again, by decide +kernel, ?_⟩
  exact pace [single, rearmed] second tells silent (by decide +kernel) again

end Robot
end Rover
