import Rover.Proofs.Outbound

/-!
# Whose message it is

The host tells messages apart by their tag, their format and how their payload begins: that is a
mark. `Task.marks` lists the marks of what each task sends. No message bears marks of two tasks, so
what is sent under the mark of a task is sent on that task's turn, and how often can be read off the
journal. None of the dispatcher's own messages bears the mark of a report.
-/

namespace Rover
open Motion Wire
set_option autoImplicit false

namespace Wire

/-- What messages are told apart by. -/
structure Mark where
  tag : UInt8
  format : String
  opening : Bytes
  deriving DecidableEq

namespace Mark

def fits (mark : Mark) (m : Message) : Bool :=
  m.tag == mark.tag && m.format == mark.format && mark.opening.isPrefixOf m.payload

/-- Some message could bear both marks. -/
def meets (a b : Mark) : Bool :=
  a.tag == b.tag && a.format == b.format &&
    (a.opening.isPrefixOf b.opening || b.opening.isPrefixOf a.opening)

theorem fits_iff {mark : Mark} {m : Message} :
    mark.fits m = true ↔ m.tag = mark.tag ∧ m.format = mark.format ∧ mark.opening <+: m.payload := by
  simp [fits, and_assoc]

theorem meets_of_fits {a b : Mark} {m : Message} (ha : a.fits m = true) (hb : b.fits m = true) :
    a.meets b = true := by
  obtain ⟨tag, format, opening⟩ := fits_iff.mp ha
  obtain ⟨tag', format', opening'⟩ := fits_iff.mp hb
  have openings := List.prefix_or_prefix_of_prefix opening opening'
  simp [meets, ← tag, tag', ← format, format', openings]

/-- The mark of a report: lower case for a single one, upper case for a periodic one. -/
def report (letter : Char) (format : String) (opening : Bytes) (periodic : Bool) : Mark :=
  ⟨Head.toByte.cased letter periodic, format, opening⟩

def reports (letter : Char) (format : String) (opening : Bytes) : List Mark :=
  [report letter format opening false, report letter format opening true]

theorem report_mem_reports (letter : Char) (format : String) (opening : Bytes) (periodic : Bool) :
    report letter format opening periodic ∈ reports letter format opening := by
  cases periodic
  · exact .head _
  · exact .tail _ (.head _)

end Mark

def Mark.lowBattery : Mark := ⟨Message.warningTag, "ccccccccf", Message.bytes "BAT LOW"⟩

theorem Mark.fits_lowBattery (volts : Float32) : Mark.lowBattery.fits (.batteryLow volts) = true :=
  Mark.fits_iff.mpr ⟨rfl, rfl, _, rfl⟩

theorem Message.opens_time (tag action : UInt8) (seconds : FloatWord) :
    [action] <+: (Message.time tag action seconds).payload :=
  byteField_write action ▸ List.prefix_append _ _

end Wire

/-- What can be asked for in reports: with a letter of its own, or the time as the first of the three
time measurements. -/
inductive Subject where
  | clock
  | encoders
  | battery
  | status
  | proximity
  deriving DecidableEq

namespace Subject

def task : Subject → Task
  | clock => .clockReport
  | encoders => .encoderReport
  | battery => .batteryReport
  | status => .statusReport
  | proximity => .proximityReport

def letter : Subject → Char
  | clock => 't'
  | encoders => 'e'
  | battery => 'b'
  | status => 'q'
  | proximity => 'i'

def format : Subject → String
  | clock => "ccf"
  | encoders => "cff"
  | battery => "cf"
  | status => "cfhhhh"
  | proximity => "ccc"

def opening : Subject → Bytes
  | clock => [Timing.clock.toByte]
  | _ => []

def mark (subject : Subject) (periodic : Bool) : Mark :=
  .report subject.letter subject.format subject.opening periodic

def marks (subject : Subject) : List Mark := Mark.reports subject.letter subject.format subject.opening

/-- The command that asks for one report, or for one every so many seconds. -/
def request (subject : Subject) (period : Option FloatWord) : Command :=
  match subject with
  | clock => .time Timing.clock.toByte period
  | encoders => .report .encoders period
  | battery => .report .battery period
  | status => .report .status period
  | proximity => .report .proximity period

/-- What the tag of a report says when it is read as the letter of a command. -/
def head (subject : Subject) (timed : Bool) : Head :=
  match subject with
  | clock => .time timed
  | encoders => .report .encoders timed
  | battery => .report .battery timed
  | status => .report .status timed
  | proximity => .report .proximity timed

theorem ofByte?_tag (subject : Subject) (periodic : Bool) :
    Head.ofByte? (subject.mark periodic).tag = some (subject.head periodic) := by
  have tag : (subject.mark periodic).tag = (subject.head periodic).toByte := by cases subject <;> rfl
  rw [tag, Head.ofByte?_toByte]

theorem cased_inj (subject : Subject) {periodic other : Bool}
    (h : Head.toByte.cased subject.letter periodic = Head.toByte.cased subject.letter other) :
    periodic = other := by
  cases subject <;> cases periodic <;> cases other <;> first | rfl | exact absurd h (by decide)

end Subject

def Task.marks : Task → List Mark
  | .clockReport => Subject.clock.marks
  | .floatTrip => ⟨'f'.toUInt8, "cf", []⟩ :: Mark.reports 't' "ccf" [Timing.floatTrip.toByte]
  | .loopTimer => Mark.reports 't' "ccf" [Timing.loop.toByte]
  | .encoderReport => Subject.encoders.marks
  | .batteryReport => Subject.battery.marks
  | .lowBattery => [.lowBattery]
  | .statusReport => Subject.status.marks
  | .distanceControl => [⟨Message.warningTag, "cffhh", []⟩]
  | .velocityControl => [⟨Message.warningTag, "chh", []⟩]
  | .proximityReport => Subject.proximity.marks
  | .restart | .batteryTask | .timedDuty | .stopTimer | .avoidance => []

theorem Task.marks_apart : ∀ task ∈ all, ∀ other ∈ all, other ≠ task →
    ∀ a ∈ task.marks, ∀ b ∈ other.marks, a.meets b = false := by
  decide +kernel

theorem Subject.mark_mem (subject : Subject) (periodic : Bool) :
    subject.mark periodic ∈ subject.task.marks := by
  cases subject <;> cases periodic <;> decide

namespace Robot

variable (r : Robot)

theorem reportTag_eq (task : Task) (letter : Char) :
    r.reportTag task letter = Head.toByte.cased letter (!(r.control.agenda.get task).isOneShot) := by
  unfold reportTag Head.toByte.cased
  cases (r.control.agenda.get task).isOneShot <;> rfl

theorem fits_report {task : Task} {letter : Char} {opening : Bytes} {m : Message}
    (tag : m.tag = r.reportTag task letter) (opens : opening <+: m.payload) :
    (Mark.report letter m.format opening (!(r.control.agenda.get task).isOneShot)).fits m = true :=
  Mark.fits_iff.mpr ⟨tag.trans (r.reportTag_eq task letter), rfl, opens⟩

theorem sends_report (subject : Subject) (now : Time) :
    ∃ m, r.sends now subject.task = [m] ∧ m.tag = r.reportTag subject.task subject.letter ∧
      m.format = subject.format ∧ subject.opening <+: m.payload := by
  cases subject with
  | clock => exact ⟨_, rfl, rfl, rfl, Message.opens_time ..⟩
  | encoders | battery | status | proximity => exact ⟨_, rfl, rfl, rfl, List.nil_prefix⟩

theorem eq_of_mem_diagnosis {m shape : Message} (h : m ∈ r.diagnosis shape) : m = shape := by
  unfold diagnosis at h
  split at h
  · exact List.mem_singleton.mp h
  · cases h

theorem exists_mark_of_sends {now : Time} {task : Task} {m : Message} (h : m ∈ r.sends now task) :
    ∃ mark ∈ task.marks, mark.fits m = true := by
  have reported (subject : Subject) (hm : m ∈ r.sends now subject.task) :
      ∃ mark ∈ subject.marks, mark.fits m = true := by
    obtain ⟨report, sends, tag, known, opens⟩ := r.sends_report subject now
    rw [sends] at hm
    rw [List.mem_singleton.mp hm]
    exact ⟨_, Mark.report_mem_reports .., known ▸ r.fits_report tag opens⟩
  cases task with
  | clockReport => exact reported .clock h
  | encoderReport => exact reported .encoders h
  | batteryReport => exact reported .battery h
  | statusReport => exact reported .status h
  | proximityReport => exact reported .proximity h
  | floatTrip =>
    unfold sends at h
    cases hStart : r.control.tripStart with
    | none =>
      rw [hStart] at h
      rw [List.mem_singleton.mp h]
      exact ⟨_, .head _, Mark.fits_iff.mpr ⟨rfl, rfl, List.nil_prefix⟩⟩
    | some start =>
      simp only [hStart] at h
      split at h
      · rw [List.mem_singleton.mp h]
        exact ⟨_, .tail _ (Mark.report_mem_reports ..), r.fits_report rfl (Message.opens_time ..)⟩
      · cases h
  | loopTimer =>
    unfold sends at h
    cases hStart : r.control.loopStart with
    | none =>
      rw [hStart] at h
      cases h
    | some start =>
      rw [hStart] at h
      rw [List.mem_singleton.mp h]
      exact ⟨_, Mark.report_mem_reports .., r.fits_report rfl (Message.opens_time ..)⟩
  | lowBattery =>
    rw [List.mem_singleton.mp h]
    exact ⟨_, .head _, Mark.fits_lowBattery _⟩
  | distanceControl =>
    unfold sends at h
    dsimp only at h
    split at h
    · rw [r.eq_of_mem_diagnosis h]
      exact ⟨_, .head _, Mark.fits_iff.mpr ⟨rfl, rfl, List.nil_prefix⟩⟩
    · cases h
  | velocityControl =>
    unfold sends at h
    dsimp only at h
    split at h
    · rw [r.eq_of_mem_diagnosis h]
      exact ⟨_, .head _, Mark.fits_iff.mpr ⟨rfl, rfl, List.nil_prefix⟩⟩
    · cases h
  | restart | batteryTask | timedDuty | stopTimer | avoidance => cases h

def sentSince (r earlier : Robot) : List Message :=
  r.journal.messages.drop earlier.journal.messages.length

theorem filter_sentSince {r t : Robot} {p : Message → Bool} {more : List Message}
    (later : r.journal.messages <+: t.journal.messages)
    (added : t.journal.messages.filter p = r.journal.messages.filter p ++ more) :
    (t.sentSince r).filter p = more := by
  obtain ⟨rest, messages⟩ := later
  rw [← messages, List.filter_append] at added
  rw [sentSince, ← messages, List.drop_left]
  exact List.append_cancel_left added

theorem perform_extends (task : Task) (now : Time) :
    r.journal.messages <+: (r.perform task now).journal.messages :=
  ⟨_, (r.perform_messages task now).symm⟩

theorem poll_extends : r.journal.messages <+: r.poll.journal.messages := by
  obtain ⟨more, _, messages⟩ := r.poll_answered
  exact ⟨more, messages.symm⟩

theorem sweep_extends : r.journal.messages <+: r.sweep.journal.messages :=
  sweep_induct (P := fun t => r.journal.messages <+: t.journal.messages)
    (fun t task now h _ => h.trans (t.perform_extends task now)) (List.prefix_refl _)

theorem pass_extends (s : Surroundings) : r.journal.messages <+: (r.pass s).journal.messages := by
  obtain ⟨_, swept⟩ | failed := r.pass_cases s
  · rw [swept]
    exact (r.served s).poll_extends.trans (sweep_extends _)
  · rw [failed]
    exact List.prefix_refl _

theorem passAll_extends (run : List Surroundings) :
    r.journal.messages <+: (r.passAll run).journal.messages := by
  induction run generalizing r with
  | nil => exact List.prefix_refl _
  | cons s run ih => exact (r.pass_extends s).trans (ih (r.pass s))

/-- No task but this one sends messages of this kind. -/
def Reserved (task : Task) (p : Message → Bool) : Prop :=
  ∀ other, other ≠ task → ∀ (r : Robot) (now : Time), ∀ m ∈ r.sends now other, p m = false

theorem reserved_mark {mark : Mark} {task : Task} (own : mark ∈ task.marks) : Reserved task mark.fits := by
  intro other apart r now m hm
  apply Bool.eq_false_iff.mpr
  intro fits
  obtain ⟨foreign, hForeign, fits'⟩ := r.exists_mark_of_sends hm
  have meets := Mark.meets_of_fits fits fits'
  rw [Task.marks_apart task task.mem_all other other.mem_all apart mark own foreign hForeign] at meets
  cases meets

theorem filter_perform (p : Message → Bool) (task : Task) (now : Time) :
    (r.perform task now).journal.messages.filter p =
      r.journal.messages.filter p ++ (r.sends now task).filter p := by
  rw [perform_messages, List.filter_append]

section Turns

variable {p : Message → Bool} {task : Task} (reserved : Reserved task p)
include reserved

theorem filter_foldl_of_not_mem {tasks : List Task} (apart : task ∉ tasks) (now : Time) :
    (tasks.foldl (performDue now) r).journal.messages.filter p = r.journal.messages.filter p := by
  refine foldl_performDue (P := fun t => t.journal.messages.filter p = _) tasks ?_ rfl
  intro t other hOther same _
  have foreign : other ≠ task := fun e => apart (e ▸ hOther)
  have none : (t.sends now other).filter p = [] :=
    List.filter_eq_nil_iff.mpr fun m hm => Bool.eq_false_iff.mp (reserved other foreign t now m hm)
  rw [filter_perform, none, List.append_nil, same]

/-- Messages reserved for a task are sent on its turn. -/
theorem filter_sweep :
    r.sweep.journal.messages.filter p = r.journal.messages.filter p ++
      if (r.atTurn task).control.agenda.due task r.board.clock = true then
        ((r.atTurn task).sends r.board.clock task).filter p
      else [] := by
  have before : task ∉ taskOrder.takeWhile (· != task) := by cases task <;> decide
  have after : task ∉ (taskOrder.dropWhile (· != task)).tail := by cases task <;> decide
  have turn : (r.atTurn task).journal.messages.filter p = r.journal.messages.filter p :=
    filter_foldl_of_not_mem r reserved before _
  rw [sweep_eq r task, filter_foldl_of_not_mem _ reserved after]
  split
  · next due => rw [performDue_of_due due, filter_perform, turn]
  · next idle => rw [performDue_of_not_due idle, turn, List.append_nil]

theorem filter_pass (s : Surroundings) (ok : r.Succeeds s) :
    (r.pass s).journal.messages.filter p = (r.polled s).journal.messages.filter p ++
      if r.Performs s task then (((r.polled s).atTurn task).sends s.clock task).filter p else [] := by
  rw [pass_of_succeeds ok, filter_sweep _ reserved, polled_clock]
  simp only [Performs, ok, true_and]

/-- Of such messages, if the dispatcher sends none, a pass sends those of the task's turn. -/
theorem filter_sentSince_pass (silent : ∀ t : Robot, ∀ more, t.Answered more → ∀ m ∈ more, p m = false)
    (s : Surroundings) :
    ((r.pass s).sentSince r).filter p =
      if r.Performs s task then (((r.polled s).atTurn task).sends s.clock task).filter p else [] := by
  apply filter_sentSince (r.pass_extends s)
  by_cases ok : r.Succeeds s
  · obtain ⟨more, answered, messages⟩ := (r.served s).poll_answered
    have none : more.filter p = [] :=
      List.filter_eq_nil_iff.mpr fun m hm => Bool.eq_false_iff.mp (silent _ more answered m hm)
    rw [filter_pass r reserved s ok, polled, messages, List.filter_append, none, List.append_nil]
    rfl
  · rw [pass_of_fails ok, if_neg fun performs => ok performs.1, List.append_nil]
    rfl

end Turns

def said (r : Robot) (mark : Mark) : Nat := r.journal.messages.countP mark.fits

theorem countP_sentSince {r t : Robot} {mark : Mark} {n : Nat}
    (later : r.journal.messages <+: t.journal.messages) (counted : t.said mark = r.said mark + n) :
    (t.sentSince r).countP mark.fits = n := by
  obtain ⟨more, messages⟩ := later
  rw [said, said, ← messages, List.countP_append] at counted
  rw [sentSince, ← messages, List.drop_left]
  exact Nat.add_left_cancel counted

theorem said_pass {mark : Mark} {task : Task} (own : mark ∈ task.marks) (s : Surroundings)
    (ok : r.Succeeds s) :
    (r.pass s).said mark = (r.polled s).said mark +
      if r.Performs s task then (((r.polled s).atTurn task).sends s.clock task).countP mark.fits else 0 := by
  simp only [said, List.countP_eq_length_filter]
  rw [filter_pass r (reserved_mark own) s ok, List.length_append]
  split <;> rfl

/-- A report is sent in lower case exactly if its flag asks for a single run. -/
theorem countP_sends_report (subject : Subject) (periodic : Bool) (now : Time) :
    (r.sends now subject.task).countP (subject.mark periodic).fits =
      if (r.control.agenda.get subject.task).isOneShot = !periodic then 1 else 0 := by
  obtain ⟨m, sends, tag, known, opens⟩ := r.sends_report subject now
  rw [reportTag_eq] at tag
  have fits :
      (subject.mark periodic).fits m = true ↔ (r.control.agenda.get subject.task).isOneShot = !periodic := by
    rw [Mark.fits_iff]
    constructor
    · rintro ⟨own, _⟩
      rw [← subject.cased_inj (tag.symm.trans own), Bool.not_not]
    · intro own
      refine ⟨tag.trans ?_, known, opens⟩
      rw [own, Bool.not_not]
      rfl
  rw [sends, List.countP_singleton]
  simp only [fits]

theorem fits_answers {letter : UInt8} {command : Command} (spelled : Head.ofByte? letter = some command.head)
    (subject : Subject) (periodic : Bool) :
    ∀ m ∈ r.answers letter command, (subject.mark periodic).fits m = false := by
  intro m hm
  apply Bool.eq_false_iff.mpr
  intro fits
  have tag : m.tag = letter := by
    cases command with
    | arithmetic op lhs rhs =>
      rw [List.mem_singleton.mp hm]
      rfl
    | drive mode linear angular limit =>
      unfold answers at hm
      dsimp only at hm
      split at hm
      · rw [List.mem_singleton.mp hm]
        rfl
      · cases hm
    | _ => cases hm
  -- A result of arithmetic may have the format of a battery report, but no letter is that of both.
  rw [← tag, (Mark.fits_iff.mp fits).1, subject.ofByte?_tag] at spelled
  cases command with
  | arithmetic op lhs rhs => cases subject <;> cases spelled
  | drive mode linear angular limit => cases subject <;> cases spelled
  | _ => cases hm

theorem format_response (letter : UInt8) (refusal : Refusal) :
    (refusal.response letter).format ∈ ["cc", "ccccccccf", "ccccccccccf"] := by
  cases refusal with
  | badInput | divideByZero => exact .head _
  | batteryLow volts => exact .tail _ (.head _)
  | powerOff volts => exact .tail _ (.tail _ (.head _))

theorem fits_response (letter : UInt8) (refusal : Refusal) (subject : Subject) (periodic : Bool) :
    (subject.mark periodic).fits (refusal.response letter) = false := by
  apply Bool.eq_false_iff.mpr
  intro fits
  have same : (refusal.response letter).format = subject.format := (Mark.fits_iff.mp fits).2.1
  have refused := format_response letter refusal
  rw [same] at refused
  revert refused
  cases subject <;> decide +kernel

theorem said_poll (subject : Subject) (periodic : Bool) :
    r.poll.said (subject.mark periodic) = r.said (subject.mark periodic) := by
  obtain ⟨more, answered, messages⟩ := r.poll_answered
  have none : more.countP (subject.mark periodic).fits = 0 := by
    apply List.countP_eq_zero.mpr
    intro m hm
    apply Bool.eq_false_iff.mp
    cases answered with
    | nothing => cases hm
    | complied offers => exact fits_answers _ offers.spelled subject periodic m hm
    | refused letter refusal =>
      rw [List.mem_singleton.mp hm]
      exact fits_response letter refusal subject periodic
  rw [said, messages, List.countP_append, none]
  rfl

/-- A pass sends the one report that is due on its task's turn, and no other. -/
theorem said_pass_report (s : Surroundings) (subject : Subject) (periodic : Bool) :
    (r.pass s).said (subject.mark periodic) = r.said (subject.mark periodic) +
      if r.Performs s subject.task ∧
        (((r.polled s).atTurn subject.task).control.agenda.get subject.task).isOneShot = !periodic
      then 1 else 0 := by
  have served : (r.served s).said (subject.mark periodic) = r.said (subject.mark periodic) := rfl
  by_cases ok : r.Succeeds s
  · rw [said_pass r (subject.mark_mem periodic) s ok, polled, said_poll, served]
    simp only [countP_sends_report, ite_and]
  · have idle : ¬ r.Performs s subject.task := fun performs => ok performs.1
    rw [pass_of_fails ok, served, if_neg fun h => idle h.1]
    rfl

end Robot
end Rover
