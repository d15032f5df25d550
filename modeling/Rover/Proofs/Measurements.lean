import Rover.Proofs.Requests
import Rover.Proofs.Restart

/-!
# Time measurements

A measurement takes two turns of its task: the first records the start, with a float on its way if it
is the float's way that is measured, and a later one reports the time since. The start stays recorded
in between, whatever else the rover does, unless the measurement is asked for anew or a restart comes.
So the report of a span is about the latest start, and no start is reported twice.
-/

namespace Rover
open Motion Wire
set_option autoImplicit false

/-- What is measured in two turns. -/
inductive Measurement where
  | trip
  | loop
  deriving DecidableEq

namespace Measurement

def timing : Measurement → Timing
  | trip => .floatTrip
  | loop => .loop

def task (m : Measurement) : Task := Robot.timingTask m.timing

def isReport (m : Measurement) (message : Message) : Bool :=
  message.format == "ccf" && [m.timing.toByte].isPrefixOf message.payload

theorem isReport_iff {m : Measurement} {message : Message} :
    m.isReport message = true ↔ message.format = "ccf" ∧ [m.timing.toByte] <+: message.payload := by
  simp [isReport]

theorem isReport_time (m : Measurement) (tag : UInt8) (seconds : FloatWord) :
    m.isReport (.time tag m.timing.toByte seconds) = true := by
  cases m <;> exact isReport_iff.mpr ⟨rfl, _, rfl⟩

theorem untouched (m : Measurement) {other : Task} (apart : other ≠ m.task) (alive : other ≠ .restart) :
    m.task ∉ other.touches := by
  cases m <;> cases other <;> first | exact absurd rfl apart | exact absurd rfl alive | decide

end Measurement

/-- The float whose way to the host is measured. -/
def Wire.Message.isProbe (message : Message) : Bool := message.tag == 'f'.toUInt8 && message.format == "cf"

theorem Wire.Message.isProbe_iff {message : Message} :
    message.isProbe = true ↔ message.tag = 'f'.toUInt8 ∧ message.format = "cf" := by
  simp [isProbe]

namespace Robot

theorem reserved_report (m : Measurement) : Reserved m.task m.isReport := by
  -- No other task has messages in this format, but for the reports of the time and of the other measurement.
  have marks : ∀ other ∈ Task.all, other ≠ m.task → ∀ mark ∈ other.marks,
      mark.format = "ccf" → mark.opening ≠ [] ∧ ¬ [m.timing.toByte].head? = mark.opening.head? := by
    cases m <;> decide +kernel
  intro other apart r now message hm
  apply Bool.eq_false_iff.mpr
  intro report
  obtain ⟨format, opens⟩ := Measurement.isReport_iff.mp report
  obtain ⟨mark, hMark, fits⟩ := r.exists_mark_of_sends hm
  obtain ⟨_, known, opening⟩ := Mark.fits_iff.mp fits
  obtain ⟨opened, differs⟩ := marks other other.mem_all apart mark hMark (known.symm.trans format)
  obtain ⟨byte, rest, begins⟩ := List.exists_cons_of_ne_nil opened
  rw [begins] at opening differs
  obtain ⟨_, payload⟩ := opening
  obtain ⟨_, payload'⟩ := opens
  rw [← payload] at payload'
  exact differs (congrArg some (List.cons.inj payload').1)

theorem reserved_probe : Reserved .floatTrip Message.isProbe := by
  have marks : ∀ other ∈ Task.all, other ≠ .floatTrip → ∀ mark ∈ other.marks,
      ¬ (mark.tag = 'f'.toUInt8 ∧ mark.format = "cf") := by
    decide +kernel
  intro other apart r now message hm
  apply Bool.eq_false_iff.mpr
  intro probe
  obtain ⟨mark, hMark, fits⟩ := r.exists_mark_of_sends hm
  obtain ⟨tag, format, _⟩ := Mark.fits_iff.mp fits
  rw [Message.isProbe_iff, tag, format] at probe
  exact marks other other.mem_all apart mark hMark probe

theorem Answered.neither {r : Robot} {more : List Message} (h : r.Answered more) :
    ∀ message ∈ more, message.format ≠ "ccf" ∧ message.isProbe = false := by
  have other {message : Message} (format : message.format ∈
      ["cc", "ccccccccf", "ccccccccccf", "ccccccc", "ccccc"]) :
      message.format ≠ "ccf" ∧ message.isProbe = false := by
    constructor
    · rintro same
      rw [same] at format
      revert format
      decide
    · apply Bool.eq_false_iff.mpr
      intro probe
      rw [(Message.isProbe_iff.mp probe).2] at format
      revert format
      decide
  intro message hm
  cases h with
  | nothing => cases hm
  | refused letter refusal =>
    rw [List.mem_singleton.mp hm]
    exact other (List.mem_append_left ["ccccccc", "ccccc"] (format_response letter refusal))
  | @complied letter command offers =>
    have spelled := offers.spelled
    cases command with
    | arithmetic op lhs rhs =>
      rw [List.mem_singleton.mp hm]
      refine ⟨show "cf" ≠ "ccf" by decide, ?_⟩
      -- A result of arithmetic has the format of the float, but its tag is the letter of a command.
      apply Bool.eq_false_iff.mpr
      intro probe
      have letter : letter = 'f'.toUInt8 := (Message.isProbe_iff.mp probe).1
      rw [letter] at spelled
      cases spelled
    | drive mode linear angular limit =>
      unfold answers at hm
      dsimp only at hm
      split at hm
      · have format (maneuver : Maneuver) :
            (Message.text letter (maneuverText maneuver)).format ∈ ["ccccccc", "ccccc"] := by
          cases maneuver with
          | straight => exact .head _
          | spin | arc => exact .tail _ (.head _)
        rw [List.mem_singleton.mp hm]
        exact other (List.mem_append_right ["cc", "ccccccccf", "ccccccccccf"] (format _))
      · cases hm
    | _ => cases hm

/-- The start of a measurement, once it is recorded. -/
def startOf (r : Robot) (m : Measurement) : Option Time := r.control.start? m.task

/-- Nothing that has been sent is left on the link, or none of this matters to the measurement. -/
def Drained (r : Robot) (m : Measurement) : Prop := m = .trip → r.link.pendingOutput.1 = 0

def spanReport (r : Robot) (m : Measurement) (start now : Time) : Message :=
  .time (r.reportTag m.task 't') m.timing.toByte (now.since start).toSeconds

/-- What a turn of a measurement comes to: what it has sent, and the control state after it. -/
inductive Turned (m : Measurement) (now : Time) (r : Robot) (sent : List Message) (after : Control) : Prop where
  | records : r.startOf m = none → after.start? m.task = some now → sent.filter m.isReport = [] →
      after.agenda.get m.task = r.control.agenda.get m.task → Turned m now r sent after
  | waits : r.startOf m ≠ none → after.start? m.task = r.startOf m → sent.filter m.isReport = [] →
      after.agenda.get m.task = r.control.agenda.get m.task → Turned m now r sent after
  | reports {start : Time} : r.startOf m = some start → r.Drained m → after.start? m.task = none →
      sent.filter m.isReport = [r.spanReport m start now] → Turned m now r sent after

theorem filter_spanReport (r : Robot) (m : Measurement) (start now : Time) :
    [r.spanReport m start now].filter m.isReport = [r.spanReport m start now] :=
  List.filter_cons_of_pos (m.isReport_time _ _)

theorem turned_trip (r : Robot) (now : Time) :
    Turned .trip now r (r.sends now .floatTrip) (r.measureTrip now).control := by
  unfold measureTrip sends
  cases hStart : r.control.tripStart with
  | none =>
    dsimp only
    rw [send_control]
    exact .records hStart rfl rfl rfl
  | some start =>
    dsimp only
    split
    · next drained =>
      rw [reportSpan, send_control]
      exact .reports hStart (fun _ => drained) rfl (r.filter_spanReport .trip start now)
    · have started : r.startOf .trip ≠ none := fun none => Option.some_ne_none start (hStart.symm.trans none)
      exact .waits started rfl rfl rfl

theorem turned_loop (r : Robot) (now : Time) :
    Turned .loop now r (r.sends now .loopTimer) (r.measureLoop now).control := by
  unfold measureLoop sends
  cases hStart : r.control.loopStart with
  | none => exact .records hStart rfl rfl rfl
  | some start =>
    dsimp only
    rw [reportSpan, send_control]
    have drained : r.Drained .loop := by
      intro trip
      cases trip
    exact .reports hStart drained rfl (r.filter_spanReport .loop start now)

theorem turned (r : Robot) (m : Measurement) (now : Time) :
    Turned m now r (r.sends now m.task) (r.perform m.task now).control := by
  cases m with
  | trip => exact r.turned_trip now
  | loop => exact r.turned_loop now

theorem startOf_restart (r : Robot) (m : Measurement) (now : Time) :
    (r.perform .restart now).startOf m = none := by
  cases m <;> rfl

theorem startOf_perform (r : Robot) (m : Measurement) {other : Task} (apart : other ≠ m.task)
    (alive : other ≠ .restart) (now : Time) : (r.perform other now).startOf m = r.startOf m :=
  (kept_perform r now alive).start? apart.symm

theorem startOf_forgetStart (r : Robot) (timing : Timing) (m : Measurement) :
    (r.forgetStart timing).startOf m = if timing = m.timing then none else r.startOf m := by
  cases timing <;> cases m <;> rfl

theorem startOf_comply_of_ne (r : Robot) (letter : UInt8) {command : Command} (m : Measurement)
    (other : ∀ action period, command ≠ .time action period) :
    (r.comply letter command).startOf m = r.startOf m := by
  cases command with
  | time action period => exact absurd rfl (other action period)
  | restart | report stream period => rfl
  | arithmetic op lhs rhs =>
    rw [startOf, comply, send_control]
    rfl
  | duty left right limit =>
    rw [startOf, comply_duty_control]
    cases limit <;> cases m <;> rfl
  | stop =>
    rw [startOf, comply, stop_control]
    cases m <;> rfl
  | drive mode linear angular limit =>
    rw [startOf, comply_drive_control]
    cases limit <;> cases m <;> rfl
  | avoid limit =>
    rw [startOf, comply_avoid_control]
    cases limit <;> cases m <;> rfl

/-- A command that is carried out asks for the measurement anew, or leaves the start alone. -/
theorem startOf_comply (r : Robot) (letter : UInt8) (command : Command) (m : Measurement) :
    ((∃ period, command = .time m.timing.toByte period) ∧ (r.comply letter command).startOf m = none) ∨
    ((∀ period, command ≠ .time m.timing.toByte period) ∧
      (r.comply letter command).startOf m = r.startOf m) := by
  rcases Classical.em (∃ action period, command = .time action period) with ⟨action, period, rfl⟩ | other
  · by_cases own : action = m.timing.toByte
    · refine .inl ⟨⟨period, by rw [own]⟩, ?_⟩
      rw [own]
      cases m <;> rfl
    · refine .inr ⟨fun _ same => own (Command.time.inj same).1, ?_⟩
      cases known : Timing.ofByte? action with
      | none => simp only [comply, known]
      | some timing =>
        have foreign : timing ≠ m.timing := fun same => own (same ▸ Timing.eq_of_ofByte? known)
        simp only [comply, known, startOf_forgetStart, if_neg foreign]
        rfl
  · have different (action : UInt8) (period : Option FloatWord) : command ≠ .time action period :=
      fun same => other ⟨action, period, same⟩
    exact .inr ⟨different m.timing.toByte, r.startOf_comply_of_ne letter m different⟩

def measuring (r : Robot) (s : Surroundings) (m : Measurement) : Robot := (r.polled s).atTurn m.task

/-- The measurement's turn comes and finds no start, so it records one. -/
def Records (r : Robot) (s : Surroundings) (m : Measurement) : Prop :=
  r.Performs s m.task ∧ (r.measuring s m).startOf m = none

instance (r : Robot) (s : Surroundings) (m : Measurement) : Decidable (r.Records s m) :=
  inferInstanceAs (Decidable (_ ∧ _))

def reported (r : Robot) (s : Surroundings) (m : Measurement) : List Message :=
  ((r.pass s).sentSince r).filter m.isReport

theorem reported_eq (r : Robot) (s : Surroundings) (m : Measurement) :
    r.reported s m =
      if r.Performs s m.task then ((r.measuring s m).sends s.clock m.task).filter m.isReport else [] := by
  refine filter_sentSince_pass r (reserved_report m) ?_ s
  intro t more answered message hm
  apply Bool.eq_false_iff.mpr
  exact fun report => (answered.neither message hm).1 (Measurement.isReport_iff.mp report).1

section Passes

variable (r : Robot) (s : Surroundings) (m : Measurement)

theorem startOf_polled : (r.polled s).startOf m = none ∨ (r.polled s).startOf m = r.startOf m := by
  obtain ⟨letter, command, _, control, _⟩ | ⟨control, _⟩ := (r.served s).poll_effect
  · rw [startOf, polled, control]
    obtain ⟨_, anew⟩ | ⟨_, same⟩ := ((r.served s).received letter).startOf_comply letter command m
    · exact .inl anew
    · exact .inr same
  · rw [startOf, polled, control]
    exact .inr rfl

theorem startOf_measuring :
    (r.measuring s m).startOf m = none ∨ (r.measuring s m).startOf m = r.startOf m := by
  refine foldl_performDue (P := fun t => t.startOf m = none ∨ t.startOf m = r.startOf m) _ ?_
    (r.startOf_polled s m)
  intro t other hOther same _
  by_cases restart : other = .restart
  · subst restart
    exact .inl (t.startOf_restart m _)
  · rwa [t.startOf_perform m (Task.earlier_apart m.task other hOther) restart]

theorem startOf_sweep :
    r.sweep.startOf m = (performDue r.board.clock (r.atTurn m.task) m.task).startOf m :=
  sweep_reads (·.startOf m) r m.task fun t _ now apart alive => t.startOf_perform m apart alive now

theorem startOf_pass (ok : r.Succeeds s) :
    (r.pass s).startOf m = (performDue s.clock (r.measuring s m) m.task).startOf m := by
  rw [pass_of_succeeds ok, startOf_sweep, polled_clock]
  rfl

/-- What becomes of a measurement in a pass. -/
inductive Measured : Prop where
  | records : r.Records s m → r.reported s m = [] → (r.pass s).startOf m = some s.clock → Measured
  | reports {start : Time} : ¬ r.Records s m → r.startOf m = some start → (r.measuring s m).Drained m →
      r.reported s m = [(r.measuring s m).spanReport m start s.clock] → (r.pass s).startOf m = none → Measured
  | neither : ¬ r.Records s m → r.reported s m = [] →
      (r.pass s).startOf m = none ∨ (r.pass s).startOf m = r.startOf m → Measured

theorem measured : Measured r s m := by
  have told := r.reported_eq s m
  by_cases performs : r.Performs s m.task
  · have after := r.startOf_pass s m performs.1
    have due : (r.measuring s m).control.agenda.due m.task s.clock = true := performs.2
    rw [performDue_of_due due] at after
    rw [if_pos performs] at told
    cases (r.measuring s m).turned m s.clock with
    | records none recorded silent _ =>
      exact .records ⟨performs, none⟩ (told.trans silent) (after.trans recorded)
    | waits started kept silent _ =>
      have same : (r.pass s).startOf m = (r.measuring s m).startOf m := after.trans kept
      refine .neither (fun records => started records.2) (told.trans silent) ?_
      rw [same]
      exact r.startOf_measuring s m
    | @reports start started drained gone sent =>
      -- No turn before this one records a start, so the one that it finds was there before the pass.
      have found : (r.measuring s m).startOf m ≠ none := by
        rw [started]
        exact Option.some_ne_none start
      have old : r.startOf m = some start :=
        ((r.startOf_measuring s m).resolve_left found).symm.trans started
      exact .reports (fun records => found records.2) old drained (told.trans sent) (after.trans gone)
  · rw [if_neg performs] at told
    refine .neither (fun records => performs records.1) told ?_
    by_cases ok : r.Succeeds s
    · have idle : (r.measuring s m).control.agenda.due m.task s.clock ≠ true := fun due => performs ⟨ok, due⟩
      rw [r.startOf_pass s m ok, performDue_of_not_due idle]
      exact r.startOf_measuring s m
    · rw [pass_of_fails ok]
      exact .inr rfl

theorem filter_probe_sends (now : Time) :
    (r.sends now .floatTrip).filter Message.isProbe =
      if r.startOf .trip = none then [.float 'f'.toUInt8 tripValue] else [] := by
  unfold sends
  cases hStart : r.control.tripStart with
  | none =>
    rw [if_pos (show r.startOf .trip = none from hStart)]
    rfl
  | some start =>
    have started : r.startOf .trip ≠ none := fun none => Option.some_ne_none start (hStart.symm.trans none)
    have other (tag : UInt8) (seconds : FloatWord) :
        (Message.time tag Timing.floatTrip.toByte seconds).isProbe ≠ true := by
      intro probe
      exact absurd (Message.isProbe_iff.mp probe).2 (show "ccf" ≠ "cf" by decide)
    rw [if_neg started]
    dsimp only
    split
    · exact List.filter_cons_of_neg (other _ _)
    · rfl

/-- A float is sent in exactly the passes that record the start of its way. -/
theorem filter_probe_pass :
    ((r.pass s).sentSince r).filter Message.isProbe =
      if r.Records s .trip then [.float 'f'.toUInt8 tripValue] else [] := by
  have silent (t : Robot) (more : List Message) (answered : t.Answered more) :
      ∀ message ∈ more, message.isProbe = false := fun message hm => (answered.neither message hm).2
  rw [filter_sentSince_pass r reserved_probe silent, filter_probe_sends]
  exact (ite_and ..).symm

end Passes

/-- The latest pass of the run that recorded a start did so at this time, and no report has been sent
since. -/
def Pending (r : Robot) (m : Measurement) (run : List Surroundings) (start : Time) : Prop :=
  ∃ before first between, run = before ++ first :: between ∧ first.clock = start ∧
    (r.passAll before).Records first m ∧ (r.passAll before).reported first m = [] ∧
    Along (fun t s => ¬ t.Records s m ∧ t.reported s m = []) (r.passAll (before ++ [first])) between

section Runs

variable {r : Robot} {m : Measurement} {run : List Surroundings} {s : Surroundings}

theorem pending_of_records (records : (r.passAll run).Records s m)
    (silent : (r.passAll run).reported s m = []) :
    r.Pending m (run ++ [s]) s.clock :=
  ⟨run, s, [], rfl, rfl, records, silent, trivial⟩

theorem Pending.concat {start : Time} (h : r.Pending m run start) (unmarked : ¬ (r.passAll run).Records s m)
    (silent : (r.passAll run).reported s m = []) : r.Pending m (run ++ [s]) start := by
  obtain ⟨before, first, between, rfl, clock, records, unreported, since⟩ := h
  refine ⟨before, first, between ++ [s], by simp, clock, records, unreported, ?_⟩
  have reached : (r.passAll (before ++ [first])).passAll between = r.passAll (before ++ first :: between) := by
    rw [← passAll_append, List.append_assoc]
    rfl
  refine along_append.mpr ⟨since, ?_⟩
  rw [reached]
  exact ⟨⟨unmarked, silent⟩, trivial⟩

/-- A start that is recorded is pending: each pass leaves it, records a new one or is done with it. -/
theorem pending_of_startOf (fresh : r.startOf m = none) {start : Time}
    (recorded : (r.passAll run).startOf m = some start) : r.Pending m run start := by
  -- From the last pass backwards: what it did with the measurement decides where the start comes from.
  induction run using List.reverseRecOn generalizing start with
  | nil =>
    have none : r.startOf m = some start := recorded
    rw [fresh] at none
    cases none
  | append_singleton run s ih =>
    have recorded : ((r.passAll run).pass s).startOf m = some start := by
      rwa [passAll_append] at recorded
    cases (r.passAll run).measured s m with
    | records records silent after =>
      rw [after] at recorded
      cases recorded
      exact pending_of_records records silent
    | reports _ _ _ _ gone =>
      rw [gone] at recorded
      cases recorded
    | neither unmarked silent after =>
      obtain gone | same := after
      · rw [gone] at recorded
        cases recorded
      · exact (ih (same.symm.trans recorded)).concat unmarked silent

end Runs

end Robot

/-- Starts are recorded for flags only that are on. -/
def Control.Armed (c : Control) : Prop :=
  ∀ m : Measurement, (c.start? m.task).isSome = true → c.agenda.isActive m.task = true

theorem Flag.active_rearm (command : Command) (task : Task) {flag : Flag} (h : flag.active = true) :
    (command.rearm task flag).active = true := by
  have asked (period : Option FloatWord) : (flag.asked period).active = true := by cases period <;> rfl
  cases command with
  | restart | time action period | report stream period =>
    simp only [Command.rearm]
    split
    · first | rfl | exact asked _
    · exact h
  | _ => exact h

namespace Robot

theorem armed_invariant (settings : Settings) : Invariant settings Control.Armed where
  fresh _ battery m started := by cases m <;> cases started
  comply r letter command _ armed m started := by
    have still : m.task ∉ Task.motion := by cases m <;> decide
    obtain ⟨_, anew⟩ | ⟨_, same⟩ := r.startOf_comply letter command m
    · rw [startOf] at anew
      rw [anew] at started
      cases started
    · rw [startOf, startOf] at same
      rw [same] at started
      rw [Agenda.isActive, comply_get r letter command still]
      exact Flag.active_rearm command m.task (armed m started)
  perform r task now armed due m started := by
    by_cases restart : task = .restart
    · subst restart
      have none := r.startOf_restart m now
      rw [startOf] at none
      rw [none] at started
      cases started
    by_cases own : task = m.task
    · subst own
      have on := Agenda.active_of_due due
      cases r.turned m now with
      | records _ _ _ flag | waits _ _ _ flag =>
        rw [Agenda.isActive, flag]
        exact on
      | reports _ _ gone _ =>
        rw [gone] at started
        cases started
    · have same := r.startOf_perform m own restart now
      rw [startOf, startOf] at same
      rw [same] at started
      rw [Agenda.isActive, perform_get (m.untouched own restart)]
      exact armed m started

section Ends

variable {r : Robot} {s : Surroundings} {m : Measurement}

theorem startOf_of_accepts {period : Option FloatWord} (accepts : r.Accepts s (.time m.timing.toByte period)) :
    (r.polled s).startOf m = none := by
  obtain ⟨letter, _, _, hPoll⟩ := poll_of_obeys accepts.2
  rw [startOf, polled, hPoll]
  obtain ⟨_, anew⟩ | ⟨other, _⟩ :=
    ((r.served s).received letter).startOf_comply letter (.time m.timing.toByte period) m
  · exact anew
  · exact absurd rfl (other period)

theorem startOf_of_refuses {letter : UInt8} {refusal : Refusal}
    (refuses : (r.served s).Refuses letter refusal) :
    (r.polled s).startOf m = r.startOf m := by
  rw [startOf, polled, (poll_of_refuses refuses).1]
  rfl

/-- A restart leaves no flag on that a start could be recorded for in the rest of the pass. -/
theorem startOf_of_restart (performs : r.Performs s .restart) : (r.pass s).startOf m = none := by
  rw [pass_of_performs performs]
  refine (foldl_performDue
    (P := fun t => t.startOf m = none ∧ t.control.agenda.isActive m.task = false) _ ?_ ?_).1
  · rintro t other hOther ⟨none, off⟩ otherDue
    obtain ⟨alive, _⟩ := Task.later_apart .restart other hOther
    have apart : other ≠ m.task := by
      rintro rfl
      rw [Agenda.active_of_due otherDue] at off
      cases off
    refine ⟨(t.startOf_perform m apart alive _).trans none, ?_⟩
    rwa [Agenda.isActive, perform_get (m.untouched apart alive)]
  · exact ⟨startOf_restart _ m _, Control.fresh_inactive _ _ (by cases m <;> decide)⟩

end Ends

/-- Every report of a measurement is the only one in its pass, and a float's way is reported only when
the link has drained; the report tells the time since the latest pass of the run that recorded a start,
and none has been sent since that pass. A pass that records a start records the time of the pass, and
all others keep the start or leave none; the float is sent in just those passes that record the start
of its way. A start is recorded for flags only that are on. It is discarded when the measurement is
asked for anew and when a restart comes, but not when a command is refused. -/
theorem measurements_paired {settings : Settings} {board : Board} {link : Link} {r : Robot}
    (hStart : Robot.start settings board link = .ok r) (m : Measurement) (run : List Surroundings)
    (s : Surroundings) :
    let t := r.passAll run
    (∀ message ∈ t.reported s m,
      t.reported s m = [message] ∧ (t.measuring s m).Drained m ∧
      ∃ start, r.Pending m run start ∧ message = (t.measuring s m).spanReport m start s.clock) ∧
    (t.Records s m → (t.pass s).startOf m = some s.clock) ∧
    (¬ t.Records s m → (t.pass s).startOf m = none ∨ (t.pass s).startOf m = t.startOf m) ∧
    ((t.pass s).sentSince t).filter Message.isProbe =
      (if t.Records s .trip then [.float 'f'.toUInt8 tripValue] else []) ∧
    (t.control.Armed ∧ ∀ task, ((t.polled s).atTurn task).control.Armed) ∧
    (∀ period, t.Accepts s (.time m.timing.toByte period) → (t.polled s).startOf m = none) ∧
    (t.Accepts s .restart → (t.pass s).startOf m = none) ∧
    ∀ letter refusal, (t.served s).Refuses letter refusal → (t.polled s).startOf m = t.startOf m := by
  intro t
  have fresh : r.startOf m = none := by
    obtain ⟨setup, battery, _, hControl, _⟩ := start_control hStart
    rw [startOf, hControl]
    cases m <;> rfl
  have armed : t.control.Armed :=
    (armed_invariant settings).passAll ((armed_invariant settings).start hStart) run
  have step := t.measured s m
  refine ⟨?_, ?_, ?_, t.filter_probe_pass s, ⟨armed, (armed_invariant settings).turn armed s⟩,
    fun _ => startOf_of_accepts, fun accepts => startOf_of_restart (performs_restart accepts),
    fun _ _ => startOf_of_refuses⟩
  · intro message hm
    cases step with
    | records _ silent _ | neither _ silent _ =>
      rw [silent] at hm
      cases hm
    | @reports start _ recorded drained told _ =>
      rw [told] at hm ⊢
      cases List.mem_singleton.mp hm
      exact ⟨rfl, drained, start, pending_of_startOf fresh recorded, rfl⟩
  · intro records
    cases step with
    | records _ _ after => exact after
    | reports unmarked | neither unmarked => exact absurd records unmarked
  · intro unmarked
    cases step with
    | records records => exact absurd records unmarked
    | reports _ _ _ _ gone => exact .inl gone
    | neither _ _ after => exact after

def wired : Robot :=
  (Robot.start .standard {} (.overLine { device := "line" })).toOption.get (by decide +kernel)

/-- The float's way is measured. While its last bytes are still pending a command comes that asks for
the measurement in a negative period; it is refused, and the span is reported from the first start. -/
theorem measurements_paired_wired :
    let asked : Surroundings := { clock := .ofMillis 10, arriving := [0x74, 1] }
    let refused : Surroundings :=
      { clock := .ofMillis 20, arriving := [0x54, 1, 0, 0, 0x80, 0xbf], line := ({ · with pending := 3 }) }
    let later : Surroundings := { clock := .ofMillis 30, line := ({ · with pending := 0 }) }
    let before := wired.passAll [asked]
    let t := wired.passAll [asked, refused]
    let report : Message := .time 't'.toUInt8 1 (Time.ofMillis 20).toSeconds
    before.startOf .trip = some asked.clock ∧ (before.polled refused).startOf .trip = before.startOf .trip ∧
      before.reported refused .trip = [] ∧ t.reported later .trip = [report] ∧
      (t.measuring later .trip).link.pendingOutput.1 = 0 ∧
      ∃ start, wired.Pending .trip [asked, refused] start ∧
        report = (t.measuring later .trip).spanReport .trip start later.clock := by
  intro asked refused later before t report
  have hStart : Robot.start .standard {} (.overLine { device := "line" }) = .ok wired := ok_get _
  have reported : t.reported later .trip = [report] := by decide +kernel
  obtain ⟨_, recorded, _⟩ := measurements_paired hStart .trip [] asked
  obtain ⟨_, _, _, _, _, _, _, kept⟩ := measurements_paired hStart .trip [asked] refused
  obtain ⟨paired, _⟩ := measurements_paired hStart .trip [asked, refused] later
  have offers : (before.served refused).link.inbox.Offers 0x54 (.time 1 (some ⟨0xbf800000⟩)) := by
    constructor <;> decide +kernel
  have refuses : (before.served refused).Refuses 0x54 .badInput :=
    .command offers (carryOut_eq_error_iff.mpr (by decide +kernel))
  obtain ⟨_, drained, told⟩ := paired report (reported ▸ List.mem_singleton_self report)
  exact ⟨recorded (by decide +kernel), kept _ _ refuses, by decide +kernel, reported, drained rfl, told⟩

end Robot
end Rover
