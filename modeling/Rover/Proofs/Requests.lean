import Rover.Proofs.Cutting
import Rover.Proofs.Pace

/-!
# One answer for each request

A request for a single report is answered in the pass that takes it out of the inbox. It switches
the flag on for a single run, whatever period and last trigger the flag has had before; such a flag
is due at once, and its task's turn retires it. So no request is ever left for a later pass, and a
lower-case report is sent for nothing but a request.
-/

namespace Rover
open Motion Wire
set_option autoImplicit false

namespace Flag

/-- A single report has been asked for and is still to be sent. -/
def owes (flag : Flag) : Bool := flag.active && flag.isOneShot

theorem owes_iff_due {flag : Flag} (now : Time) :
    flag.owes = true ↔ flag.due now = true ∧ flag.isOneShot = true := by
  cases active : flag.active <;> cases single : flag.isOneShot <;> simp [owes, due, active, single]

theorem isOneShot_once (flag : Flag) : flag.once.isOneShot = true := by
  have negative : (-1 : Float32) < 0 := by decide +kernel
  exact decide_eq_true negative

theorem owes_once (flag : Flag) : flag.once.owes = true := flag.isOneShot_once

theorem owes_complete (flag : Flag) (now : Time) : (flag.complete now).owes = false := by
  unfold complete
  split
  · rfl
  · next periodic =>
    rw [owes, Bool.and_eq_false_iff]
    exact .inr (Bool.eq_false_iff.mpr periodic)

theorem owes_asked {period : Option FloatWord} (accepted : Command.refusalOfSeconds? period = none)
    (flag : Flag) : (flag.asked period).owes = true ↔ period = none := by
  cases period with
  | none => exact iff_of_true flag.owes_once rfl
  | some seconds =>
    have positive := Single.zero_lt_mul_thousand (Robot.zero_lt_of_accepted accepted)
    have periodic : (flag.asked (some seconds)).isOneShot = false :=
      decide_eq_false (Single.not_lt_zero positive)
    refine iff_of_false ?_ nofun
    rw [owes, periodic, Bool.and_false]
    exact Bool.false_ne_true

end Flag

theorem Wire.Timing.eq_of_ofByte? {action : UInt8} {timing : Timing} (h : Timing.ofByte? action = some timing) :
    action = timing.toByte := by
  unfold ofByte? at h
  split at h <;> cases h <;> rfl

namespace Subject

theorem refusal?_request (subject : Subject) (period : Option FloatWord) (volts : Float32) :
    (subject.request period).refusal? volts = Command.refusalOfSeconds? period := by
  cases subject <;> rfl

theorem request_inj (subject : Subject) {period other : Option FloatWord} :
    subject.request period = subject.request other ↔ period = other := by
  cases subject <;> simp [request]

theorem untouched (subject : Subject) {other : Task} (apart : other ≠ subject.task)
    (alive : other ≠ .restart) : subject.task ∉ other.touches := by
  cases subject <;> cases other <;> first | exact absurd rfl apart | exact absurd rfl alive | decide

/-- A command asks for this subject's reports, or leaves their flag alone. -/
theorem rearm_cases (subject : Subject) (command : Command) :
    (∃ period, command = subject.request period ∧
      ∀ flag, command.rearm subject.task flag = flag.asked period) ∨
    ((∀ period, command ≠ subject.request period) ∧
      ∀ flag, command.rearm subject.task flag = flag) := by
  cases command with
  | restart => exact .inr ⟨by cases subject <;> exact nofun, by cases subject <;> exact fun _ => rfl⟩
  | report stream period =>
    cases subject <;> cases stream <;>
      first
        | exact .inl ⟨period, rfl, fun _ => rfl⟩
        | exact .inr ⟨nofun, fun _ => rfl⟩
  | time action period =>
    have clock : (Timing.ofByte? action).map Robot.timingTask = some subject.task ↔
        subject = .clock ∧ action = Timing.clock.toByte := by
      constructor
      · intro h
        obtain ⟨timing, known, same⟩ := Option.map_eq_some_iff.mp h
        have spelled := Timing.eq_of_ofByte? known
        cases subject <;> cases timing <;> first | exact ⟨rfl, spelled⟩ | cases same
      · rintro ⟨rfl, rfl⟩
        rfl
    by_cases own : subject = .clock ∧ action = Timing.clock.toByte
    · obtain ⟨rfl, rfl⟩ := own
      exact .inl ⟨period, rfl, fun _ => rfl⟩
    · refine .inr ⟨?_, fun flag => if_neg (mt clock.mp own)⟩
      intro other same
      cases subject <;> cases same
      exact own ⟨rfl, rfl⟩
  | arithmetic | duty | stop | drive | avoid =>
    exact .inr ⟨by cases subject <;> exact nofun, fun _ => rfl⟩

end Subject

namespace Robot

/-- The command that the dispatcher handles in a pass. -/
def handled? (r : Robot) (s : Surroundings) : Option Command :=
  if r.Succeeds s then (r.served s).link.inbox.next? else none

def handledAlong : Robot → List Surroundings → List Command
  | _, [] => []
  | r, s :: run => (r.handled? s).toList ++ handledAlong (r.pass s) run

/-- No single report has been asked for that is still to be sent. -/
def Answers (r : Robot) (subject : Subject) : Prop := (r.control.agenda.get subject.task).owes = false

section Handling

variable {r : Robot} {s : Surroundings} {subject : Subject}

theorem obeys_request {r : Robot} (h : r.link.inbox.next? = some (subject.request none)) :
    r.Obeys (subject.request none) := by
  obtain ⟨letter, offers⟩ := Inbox.next?_eq_some_iff.mp h
  exact ⟨letter, _, offers, carryOut_eq_ok_iff.mpr ⟨subject.refusal?_request none _, rfl⟩⟩

theorem owes_polled (h : (r.control.agenda.get subject.task).owes = false) :
    ((r.polled s).control.agenda.get subject.task).owes = true ↔
      (r.served s).link.inbox.next? = some (subject.request none) := by
  have unmoved : subject.task ∉ Task.motion := (Series.reports subject).task_not_mem_motion
  rcases Classical.em (∃ command, (r.served s).Obeys command) with ⟨command, obeys⟩ | none
  · obtain ⟨letter, offers, accepted, hPoll⟩ := poll_of_obeys obeys
    have flag : (r.polled s).control.agenda.get subject.task =
        command.rearm subject.task (r.control.agenda.get subject.task) := by
      rw [polled, hPoll]
      exact comply_get ((r.served s).received letter) letter command unmoved
    have next : (r.served s).link.inbox.next? = some command := Inbox.next?_eq_some_iff.mpr ⟨letter, offers⟩
    rw [flag, next, Option.some.injEq]
    obtain ⟨period, rfl, asked⟩ | ⟨other, kept⟩ := subject.rearm_cases command
    · rw [subject.refusal?_request] at accepted
      rw [asked, Flag.owes_asked accepted, subject.request_inj]
    · rw [kept, h]
      exact iff_of_false Bool.false_ne_true (other _)
  · rw [polled, (poll_of_not_obeys (not_exists.mp none)).1, served_control, h]
    exact iff_of_false Bool.false_ne_true fun next => none ⟨_, obeys_request next⟩

theorem not_owes_of_inactive {c : Control} {task : Task} (h : c.agenda.isActive task = false) :
    (c.agenda.get task).owes = false := by
  rw [Flag.owes, Bool.and_eq_false_iff]
  exact .inl h

theorem owes_of_atTurn (t : Robot)
    (h : ((t.atTurn subject.task).control.agenda.get subject.task).owes = true) :
    (t.control.agenda.get subject.task).owes = true := by
  revert h
  refine foldl_performDue (P := fun u => (u.control.agenda.get subject.task).owes = true → _) _ ?_ id
  intro u other hOther ih _ owes
  by_cases restart : other = .restart
  · subst restart
    have inactive : (u.perform .restart t.board.clock).control.agenda.isActive subject.task = false :=
      Control.fresh_inactive _ _ (by cases subject <;> decide)
    rw [not_owes_of_inactive inactive] at owes
    cases owes
  · rw [perform_get (subject.untouched (Task.earlier_apart _ other hOther) restart)] at owes
    exact ih owes

theorem flagAtTurn_of_request {settings : Settings} (h : Reachable settings r)
    (next : (r.served s).link.inbox.next? = some (subject.request none)) :
    r.flagAtTurn s subject.task = (r.polled s).control.agenda.get subject.task := by
  have other : subject.request none ≠ .restart := by cases subject <;> exact nofun
  apply atTurn_get
  · exact fun earlier hEarlier => subject.untouched (Task.earlier_apart _ earlier hEarlier)
  · rw [polled_clock]
    exact noRestart_of_obeys h (obeys_request next) other

theorem not_owes_performDue (t : Robot) (now : Time) :
    ((performDue now t subject.task).control.agenda.get subject.task).owes = false := by
  by_cases due : t.control.agenda.due subject.task now = true
  · rw [performDue_of_due due, perform_get_report]
    exact Flag.owes_complete _ now
  · rw [performDue_of_not_due due]
    exact Bool.eq_false_iff.mpr fun owes => due ((Flag.owes_iff_due now).mp owes).1

theorem sweep_get_report (t : Robot) :
    t.sweep.control.agenda.get subject.task =
      (performDue t.board.clock (t.atTurn subject.task) subject.task).control.agenda.get subject.task :=
  sweep_reads (·.control.agenda.get subject.task) t subject.task
    fun _ _ now apart alive => perform_get (subject.untouched apart alive) now

theorem Reachable.answers {settings : Settings} {r : Robot} (h : Reachable settings r) (subject : Subject) :
    r.Answers subject := by
  induction h with
  | start _ hStart => exact not_owes_of_inactive (inactive_of_start hStart (by cases subject <;> decide))
  | @pass r s _ ih =>
    unfold Answers
    obtain ⟨_, swept⟩ | failed := r.pass_cases s
    · rw [swept, sweep_get_report]
      exact not_owes_performDue _ _
    · rw [failed]
      exact ih

theorem handled?_eq_some_iff {command : Command} :
    r.handled? s = some command ↔ r.Succeeds s ∧ (r.served s).link.inbox.next? = some command := by
  unfold handled?
  split <;> simp [*]

/-- A single report is sent in exactly the passes that handle a request for it. -/
theorem answers_iff {settings : Settings} (h : Reachable settings r) :
    r.Performs s subject.task ∧ (r.flagAtTurn s subject.task).isOneShot = true ↔
      r.handled? s = some (subject.request none) := by
  rw [handled?_eq_some_iff, Performs, and_assoc]
  apply and_congr_right
  intro _
  have turn : (r.flagAtTurn s subject.task).owes = true ↔
      (r.served s).link.inbox.next? = some (subject.request none) := by
    constructor
    · exact fun owes => (owes_polled (h.answers subject)).mp (owes_of_atTurn _ owes)
    · intro next
      rw [flagAtTurn_of_request h next]
      exact (owes_polled (h.answers subject)).mpr next
  rw [← turn]
  exact (Flag.owes_iff_due s.clock).symm

theorem said_pass_single {settings : Settings} (h : Reachable settings r) :
    (r.pass s).said (subject.mark false) = r.said (subject.mark false) +
      if r.handled? s = some (subject.request none) then 1 else 0 := by
  rw [said_pass_report]
  exact congrArg _ (if_congr (answers_iff h) rfl rfl)

theorem said_passAll {settings : Settings} (h : Reachable settings r) (run : List Surroundings) :
    (r.passAll run).said (subject.mark false) =
      r.said (subject.mark false) + (r.handledAlong run).count (subject.request none) := by
  induction run generalizing r with
  | nil => rfl
  | cons s run ih =>
    have next : (r.passAll (s :: run)).said (subject.mark false) =
        ((r.pass s).passAll run).said (subject.mark false) := rfl
    rw [next, ih (h.pass s), said_pass_single h, handledAlong, List.count_append, Nat.add_assoc]
    congr 2
    cases r.handled? s with
    | none => rfl
    | some command => simp [List.count_singleton]

end Handling

/-- A pass that handles a request sends just one report of the kind that was asked for, in lower case,
and leaves its flag off; and any run sends as many reports in lower case as it handles requests. -/
theorem requests_answered_once {settings : Settings} {r : Robot} (h : Reachable settings r)
    (subject : Subject) :
    (∀ s, r.handled? s = some (subject.request none) →
      ((r.pass s).sentSince r).countP (subject.mark false).fits = 1 ∧
      ((r.pass s).sentSince r).countP (subject.mark true).fits = 0 ∧
      (r.pass s).control.agenda.isActive subject.task = false) ∧
    ∀ run, ((r.passAll run).sentSince r).countP (subject.mark false).fits =
      (r.handledAlong run).count (subject.request none) := by
  constructor
  · intro s handled
    obtain ⟨performs, single⟩ := (answers_iff h).mpr handled
    have turn : (((r.polled s).atTurn subject.task).control.agenda.get subject.task).isOneShot = true := single
    refine ⟨?_, ?_, ?_⟩
    · apply countP_sentSince (r.pass_extends s)
      rw [said_pass_single h, if_pos handled]
    · apply countP_sentSince (r.pass_extends s)
      rw [said_pass_report, turn, if_neg fun both => nomatch both.2]
    · rw [Agenda.isActive, pass_of_succeeds performs.1, sweep_get_report, polled_clock,
        performDue_of_due performs.2, perform_get_report, Flag.complete, turn]
      rfl
  · exact fun run => countP_sentSince (r.passAll_extends run) (said_passAll h run)

/-- A battery report is asked for while such reports are sent every 50 milliseconds, and another one
right after a restart. -/
theorem requests_answered_once_powerOn :
    let periodic : Surroundings := { clock := .ofMillis 60, arriving := [0x42, 0xcd, 0xcc, 0x4c, 0x3d] }
    let asked : Surroundings := { clock := .ofMillis 70, arriving := [0x62] }
    let restarted : Surroundings := { clock := .ofMillis 80, arriving := [0x7e, 0x62] }
    let later : Surroundings := { clock := .ofMillis 90 }
    let reporting := powerOn.pass periodic
    let run := [periodic, asked, restarted, later]
    reporting.control.agenda.isActive Subject.battery.task = true ∧
      reporting.handled? asked = some (Subject.battery.request none) ∧
      ((reporting.pass asked).sentSince reporting).countP (Subject.battery.mark false).fits = 1 ∧
      (reporting.pass asked).control.agenda.isActive Subject.battery.task = false ∧
      (powerOn.handledAlong run).count (Subject.battery.request none) = 2 ∧
      ((powerOn.passAll run).sentSince powerOn).countP (Subject.battery.mark false).fits = 2 := by
  intro periodic asked restarted later reporting run
  have handled : reporting.handled? asked = some (Subject.battery.request none) := by decide +kernel
  have twice : (powerOn.handledAlong run).count (Subject.battery.request none) = 2 := by decide +kernel
  have reached : Reachable .standard reporting := reachable_powerOn.pass periodic
  obtain ⟨answered, _⟩ := requests_answered_once reached .battery
  obtain ⟨_, counted⟩ := requests_answered_once reachable_powerOn .battery
  obtain ⟨single, _, inactive⟩ := answered asked handled
  exact ⟨by decide +kernel, handled, single, inactive, twice, (counted run).trans twice⟩

end Robot
end Rover
