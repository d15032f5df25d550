import Rover.Proofs.Single
import Rover.Proofs.Stopped

/-!
# A movement of limited time ends at its deadline

Two tasks end movements, and a movement of limited time starts the timer of one of them. Nothing
but the end of the movement, another movement, a stop or a restart touches either timer, so the
task is carried out in the first pass that finds the limit passed, and in no other.
-/

namespace Rover
open Motion Wire
set_option autoImplicit false

def Task.endings : List Task := [.timedDuty, .stopTimer]

theorem Task.mem_endings {task : Task} : task ∈ endings ↔ task = .timedDuty ∨ task = .stopTimer := by
  simp [endings]

theorem Task.restart_untouched : ∀ task : Task, task ≠ .restart → .restart ∉ task.touches := by
  intro task
  cases task <;> decide

theorem Task.endings_subset : ∀ task ∈ endings, task ∈ motion := by decide

theorem Task.ending_untouched : ∀ task ∈ endings, ∀ other ∈ Robot.taskOrder.takeWhile (· != task),
    other ≠ .restart → task ∉ other.touches := by
  decide

theorem Task.endings_untouched : ∀ other : Task, other ∉ .restart :: endings →
    ∀ task ∈ .restart :: endings, task ∉ other.touches := by
  intro other
  cases other <;> decide

namespace Flag

theorem due_once (flag : Flag) (now : Time) : flag.once.due now = true := by
  have negative : (-1 : Float32) < 0 := by decide +kernel
  simp [due, once, isOneShot, negative]

theorem due_timer {seconds : Float32} (positive : 0 < seconds) (flag : Flag) (start now : Time) :
    (flag.timer (seconds * 1000) start).due now = decide ((now.since start).toMillis ≥ seconds * 1000) := by
  have thousand : (0 : Float32) < 1000 := by decide +kernel
  have notOnce : ¬ seconds * 1000 < 0 := Single.mul_not_neg positive thousand
  simp [due, timer, every, isOneShot, notOnce]

end Flag

namespace Surroundings

/-- So many seconds have passed since then, as the timers reckon it. -/
def past (s : Surroundings) (since : Time) (seconds : FloatWord) : Bool :=
  (s.clock.since since).toMillis ≥ seconds.value * 1000

end Surroundings

/-- The end of a movement is up to one of two tasks, and it is not at once. -/
def Limited (ending? : Option (Task × FloatWord)) : Prop :=
  ∀ task seconds, ending? = some (task, seconds) → task ∈ Task.endings ∧ 0 < seconds.value

/-- What is left of a limited movement once a run has been through. -/
def pendingAfter (since : Time) (ending? : Option (Task × FloatWord)) (run : List Surroundings) :
    Option (Task × FloatWord) :=
  ending?.filter fun ending => run.all fun s => !s.past since ending.2

theorem pendingAfter_eq_some_iff {since : Time} {ending? : Option (Task × FloatWord)}
    {run : List Surroundings} {task : Task} {seconds : FloatWord} :
    pendingAfter since ending? run = some (task, seconds) ↔
      ending? = some (task, seconds) ∧ ∀ s ∈ run, s.past since seconds = false := by
  simp [pendingAfter, Option.filter_eq_some_iff]

theorem Limited.pendingAfter {ending? : Option (Task × FloatWord)} (h : Limited ending?) (since : Time)
    (run : List Surroundings) : Limited (pendingAfter since ending? run) := by
  intro task seconds hPending
  exact h task seconds (pendingAfter_eq_some_iff.mp hPending).1

theorem pendingAfter_append {since : Time} {ending? : Option (Task × FloatWord)}
    {run rest : List Surroundings} :
    pendingAfter since (pendingAfter since ending? run) rest = pendingAfter since ending? (run ++ rest) := by
  simp [pendingAfter, Option.filter_filter, List.all_append]

/-- What becomes of the flag of a task when the command is carried out, tasks of movements apart. -/
def Wire.Command.rearm (command : Command) (task : Task) (flag : Flag) : Flag :=
  match command with
  | .restart => if task = .restart then flag.once else flag
  | .time action period =>
    if (Timing.ofByte? action).map Robot.timingTask = some task then flag.asked period else flag
  | .report stream period => if task = Robot.streamTask stream then flag.asked period else flag
  | .arithmetic .. | .duty .. | .stop | .drive .. | .avoid .. => flag

namespace Robot

theorem comply_get (r : Robot) (letter : UInt8) (command : Command) {task : Task} (h : task ∉ Task.motion) :
    (r.comply letter command).control.agenda.get task = command.rearm task (r.control.agenda.get task) := by
  cases command with
  | restart =>
    rw [comply, arm_control, Control.arm_get, Command.rearm]
    split
    · next same => rw [same]; rfl
    · rfl
  | arithmetic op lhs rhs => rw [comply, send_control, Command.rearm]
  | time action period =>
    simp only [comply, Command.rearm]
    split
    · next unknown => rw [unknown]; rfl
    · next timing known =>
      rw [forgetStart_agenda, arm_control, Control.arm_get, known]
      simp only [Option.map_some, Option.some.injEq, eq_comm]
      split
      · next same => rw [same]
      · rfl
  | report stream period =>
    rw [comply, arm_control, Control.arm_get, Command.rearm]
    split
    · next same => rw [same]
    · rfl
  | duty left right limit =>
    have other : task ≠ .timedDuty := fun e => h (e ▸ by decide)
    rw [comply_duty_control, Command.rearm]
    cases limit <;> simp [h, other]
  | stop => rw [comply, stop_control, Control.stop_get, if_neg h, Command.rearm]
  | drive mode linear angular limit =>
    have timer : task ≠ .stopTimer := fun e => h (e ▸ by decide)
    have other : task ≠ Control.controlTask mode := fun e => h (e ▸ by cases mode <;> decide)
    rw [comply_drive_control, Command.rearm]
    cases limit <;> simp [withStopTimer, h, timer, other]
  | avoid limit =>
    have timer : task ≠ .stopTimer := fun e => h (e ▸ by decide)
    have other : task ≠ .avoidance := fun e => h (e ▸ by decide)
    rw [comply_avoid_control, Command.rearm]
    cases limit <;> simp [withStopTimer, h, timer, other]

theorem comply_get_restart (r : Robot) (letter : UInt8) {command : Command} (h : command ≠ .restart) :
    (r.comply letter command).control.agenda.get .restart = r.control.agenda.get .restart := by
  rw [comply_get r letter command (by decide)]
  cases command with
  | restart => exact absurd rfl h
  | time action period =>
    apply if_neg
    cases Timing.ofByte? action with
    | none => exact nofun
    | some timing => cases timing <;> decide
  | report stream period => cases stream <;> rfl
  | _ => rfl

theorem restart_due_of_active {r : Robot} (h : r.control.agenda.isActive .restart = false)
    (active : r.poll.control.agenda.isActive .restart = true) (now : Time) :
    r.poll.control.agenda.due .restart now = true := by
  obtain ⟨letter, command, _, control, _⟩ | ⟨control, _⟩ := r.poll_effect
  · rcases Classical.em (command = .restart) with rfl | other
    · have flag : r.poll.control.agenda.get .restart = (r.control.agenda.get .restart).once := by
        rw [control]
        exact Control.arm_get ..
      rw [Agenda.due, flag]
      exact Flag.due_once _ now
    · rw [control, isActive_of_get (comply_get_restart _ _ other)] at active
      exact absurd active (Bool.eq_false_iff.mp h)
  · rw [control] at active
    exact absurd active (Bool.eq_false_iff.mp h)

theorem restart_inactive_sweep {r : Robot}
    (h : r.control.agenda.isActive .restart = true → r.control.agenda.due .restart r.board.clock = true) :
    r.sweep.control.agenda.isActive .restart = false := by
  rw [sweep_eq r .restart]
  apply foldl_performDue (P := fun r => r.control.agenda.isActive .restart = false)
  · intro r task hTask inactive _
    have apart : task ≠ .restart := by
      rintro rfl
      revert hTask
      decide
    rw [isActive_of_get (perform_get (Task.restart_untouched task apart) _)]
    exact inactive
  · by_cases due : r.control.agenda.due .restart r.board.clock = true
    · rw [performDue_of_due (r := r.atTurn .restart) due]
      exact Control.fresh_inactive _ _ (by decide)
    · rw [performDue_of_not_due (r := r.atTurn .restart) due]
      exact Bool.eq_false_iff.mpr fun active => due (h active)

theorem Reachable.restart_inactive {settings : Settings} {r : Robot} (h : Reachable settings r) :
    r.control.agenda.isActive .restart = false := by
  induction h with
  | start _ hStart => exact inactive_of_start hStart (by decide)
  | @pass r s _ ih =>
    obtain ⟨_, swept⟩ | failed := r.pass_cases s
    · rw [swept]
      apply restart_inactive_sweep
      exact fun active => restart_due_of_active (r := r.served s) ih active _
    · rw [failed]
      exact ih

/-- Of the tasks that end movements, this one alone is on, with its time from then. -/
structure Awaits (r : Robot) (since : Time) (ending? : Option (Task × FloatWord)) : Prop where
  running : ∀ task seconds, ending? = some (task, seconds) →
    r.control.agenda.get task = ⟨true, seconds.value * 1000, since⟩
  others : ∀ task ∈ Task.endings, (∀ seconds, ending? ≠ some (task, seconds)) →
    r.control.agenda.isActive task = false

/-- The pass runs to its end, and nothing in it takes up a movement, stops or restarts. -/
structure Quiet (r : Robot) (s : Surroundings) : Prop where
  succeeds : r.Succeeds s
  calm : r.Calm s
  unstopped : ¬ r.Accepts s .stop
  unrestarted : ¬ r.Performs s .restart

theorem Awaits.congr {r s : Robot} {since : Time} {ending? : Option (Task × FloatWord)}
    (h : r.Awaits since ending?) (limited : Limited ending?)
    (same : ∀ task ∈ Task.endings, s.control.agenda.get task = r.control.agenda.get task) :
    s.Awaits since ending? := by
  constructor
  · intro task seconds hEnding
    rw [same task (limited task seconds hEnding).1]
    exact h.running task seconds hEnding
  · intro task hTask absent
    rw [isActive_of_get (same task hTask)]
    exact h.others task hTask absent

theorem Awaits.due_iff {r : Robot} {since : Time} {ending? : Option (Task × FloatWord)}
    (h : r.Awaits since ending?) (limited : Limited ending?) {task : Task} (hTask : task ∈ Task.endings)
    (s : Surroundings) :
    r.control.agenda.due task s.clock = true ↔
      ∃ seconds, ending? = some (task, seconds) ∧ s.past since seconds = true := by
  constructor
  · intro due
    by_cases hEnding : ∃ seconds, ending? = some (task, seconds)
    · obtain ⟨seconds, hSeconds⟩ := hEnding
      refine ⟨seconds, hSeconds, ?_⟩
      rw [Agenda.due, h.running task seconds hSeconds] at due
      rw [← due]
      exact (Flag.due_timer (limited task seconds hSeconds).2 .inactive since s.clock).symm
    · have inactive := h.others task hTask (not_exists.mp hEnding)
      rw [Agenda.active_of_due due] at inactive
      cases inactive
  · rintro ⟨seconds, hSeconds, past⟩
    rw [Agenda.due, h.running task seconds hSeconds]
    exact (Flag.due_timer (limited task seconds hSeconds).2 .inactive since s.clock).trans past

/-- What tasks other than a restart preserve is preserved by all turns, if no restart is due: no other
task arms one. -/
theorem foldl_unrestarted {P : Robot → Prop} {r : Robot} {now : Time}
    (noRestart : r.control.agenda.due .restart now ≠ true) (tasks : List Task)
    (step : ∀ t, ∀ other ∈ tasks, other ≠ .restart → P t → t.control.agenda.due other now = true →
      P (t.perform other now))
    (h : P r) : P (tasks.foldl (performDue now) r) := by
  refine (foldl_performDue (P := fun t => t.control.agenda.get .restart = r.control.agenda.get .restart ∧ P t)
    tasks ?_ ⟨rfl, h⟩).2
  rintro t other hOther ⟨restart, mine⟩ due
  have alive : other ≠ .restart := by
    rintro rfl
    rw [Agenda.due, restart] at due
    exact noRestart due
  exact ⟨(perform_get (Task.restart_untouched other alive) now).trans restart,
    step t other hOther alive mine due⟩

/-- Until its own turn comes, only a restart can touch the flag of such a task. -/
theorem atTurn_get {r : Robot} {task : Task}
    (untouched : ∀ other ∈ taskOrder.takeWhile (· != task), other ≠ .restart → task ∉ other.touches)
    (noRestart : r.control.agenda.due .restart r.board.clock ≠ true) :
    (r.atTurn task).control.agenda.get task = r.control.agenda.get task := by
  refine foldl_unrestarted (P := fun t => t.control.agenda.get task = r.control.agenda.get task) noRestart _
    ?_ rfl
  intro t other hOther alive mine _
  rw [perform_get (untouched other hOther alive), mine]

theorem performs_iff_due {r : Robot} {s : Surroundings} {task : Task} (hTask : task ∈ Task.endings)
    (ok : r.Succeeds s) (noRestart : (r.polled s).control.agenda.due .restart s.clock ≠ true) :
    r.Performs s task ↔ (r.polled s).control.agenda.due task s.clock = true := by
  have same : ((r.polled s).atTurn task).control.agenda.get task = (r.polled s).control.agenda.get task := by
    apply atTurn_get (Task.ending_untouched task hTask)
    rw [polled_clock]
    exact noRestart
  unfold Performs Agenda.due
  rw [same]
  exact ⟨fun h => h.2, fun h => ⟨ok, h⟩⟩

theorem sweep_get {r : Robot} (noRestart : r.control.agenda.due .restart r.board.clock ≠ true)
    (noEnd : ∀ task ∈ Task.endings, r.control.agenda.due task r.board.clock ≠ true) :
    ∀ task ∈ Task.endings, r.sweep.control.agenda.get task = r.control.agenda.get task := by
  apply foldl_unrestarted (P := fun t => ∀ task ∈ Task.endings,
    t.control.agenda.get task = r.control.agenda.get task) noRestart
  · intro t other _ alive same due task hTask
    have apart : other ∉ .restart :: Task.endings := by
      rw [List.mem_cons, not_or]
      refine ⟨alive, fun hEnding => noEnd other hEnding ?_⟩
      rwa [Agenda.due, ← same other hEnding]
    rw [perform_get (Task.endings_untouched other apart task (List.mem_cons_of_mem _ hTask)), same task hTask]
  · exact fun _ _ => rfl

structure Resting (r : Robot) : Prop where
  off : r.board.AtRest
  idle : ∀ task ∈ Task.motion, r.control.agenda.isActive task = false

theorem Stopped.resting {r : Robot} (h : r.Stopped)
    (timer : r.control.agenda.isActive .stopTimer = false) : r.Resting := by
  refine ⟨h.off, ?_⟩
  intro task hTask
  by_cases same : task = .stopTimer
  · rw [same, timer]
  · apply h.idle
    revert task
    decide

theorem stopTimer_inactive_perform {r : Robot} {task : Task} {now : Time}
    (h : r.control.agenda.isActive .stopTimer = false) (due : r.control.agenda.due task now = true) :
    (r.perform task now).control.agenda.isActive .stopTimer = false := by
  by_cases restart : task = .restart
  · subst restart
    exact Control.fresh_inactive _ _ (by decide)
  · have other : task ≠ .stopTimer := by
      rintro rfl
      rw [Agenda.active_of_due due] at h
      cases h
    have untouched : .stopTimer ∉ task.touches := by
      cases task
      case restart | stopTimer => contradiction
      all_goals decide
    rw [isActive_of_get (perform_get untouched now), h]

theorem stopTimer_inactive_of_end {r : Robot} {task : Task} (h : r.control.Coherent)
    (hTask : task ∈ Task.endings) (active : r.control.agenda.isActive task = true) (now : Time) :
    (r.perform task now).control.agenda.isActive .stopTimer = false := by
  rcases Task.mem_endings.mp hTask with rfl | rfl
  · rw [isActive_of_get (perform_get (by decide) now)]
    exact h.exclusive.inactive (by decide) (by decide) active fun movement => by cases movement <;> decide
  · simp only [perform, stop_control, note_control]
    exact Control.stop_inactive _ (by decide)

theorem resting_of_performs {settings : Settings} {r : Robot} {s : Surroundings} {task : Task}
    (h : Reachable settings r) (hTask : task ∈ Task.endings) (performs : r.Performs s task) :
    (r.pass s).Resting := by
  have turn := h.coherent_atTurn s task
  have active := Agenda.active_of_due performs.2
  have halts : r.Halts s := by
    rcases Task.mem_endings.mp hTask with rfl | rfl
    · exact .timedDuty performs
    · exact .stopTimer performs
  have after := stopTimer_inactive_of_end turn hTask active s.clock
  apply (stopped_of_halts h performs.1 halts).resting
  rw [pass_of_performs performs]
  exact foldl_performDue (P := fun t => t.control.agenda.isActive .stopTimer = false) _
    (fun _ _ _ => stopTimer_inactive_perform) after

theorem awaits_pass {settings : Settings} {r : Robot} {s : Surroundings} {since : Time}
    {ending? : Option (Task × FloatWord)} (h : Reachable settings r) (ok : r.Succeeds s)
    (noRestart : (r.polled s).control.agenda.due .restart s.clock ≠ true) (limited : Limited ending?)
    (awaits : (r.polled s).Awaits since ending?) :
    (r.pass s).Awaits since (pendingAfter since ending? [s]) := by
  by_cases ends : ∃ task ∈ Task.endings, (r.polled s).control.agenda.due task s.clock = true
  · obtain ⟨task, hTask, due⟩ := ends
    obtain ⟨seconds, hEnding, past⟩ := (awaits.due_iff limited hTask s).mp due
    have ended : pendingAfter since ending? [s] = none := by simp [pendingAfter, hEnding, past]
    have resting := resting_of_performs h hTask ((performs_iff_due hTask ok noRestart).mpr due)
    rw [ended]
    constructor
    · intro _ _ absent
      cases absent
    · intro other hOther _
      exact resting.idle other (Task.endings_subset other hOther)
  · have going : pendingAfter since ending? [s] = ending? := by
      cases hEnding : ending? with
      | none => rfl
      | some ending =>
        have hTask := (limited ending.1 ending.2 hEnding).1
        have future : s.past since ending.2 = false := by
          apply Bool.eq_false_iff.mpr
          exact fun past => ends ⟨_, hTask, (awaits.due_iff limited hTask s).mpr ⟨_, hEnding, past⟩⟩
        simp [pendingAfter, future]
    rw [going, pass_of_succeeds ok]
    apply awaits.congr limited
    apply sweep_get
    · rwa [polled_clock]
    · intro task hTask
      rw [polled_clock]
      exact fun due => ends ⟨task, hTask, due⟩

theorem Quiet.noRestart {r : Robot} {s : Surroundings} (h : r.Quiet s) :
    (r.polled s).control.agenda.due .restart s.clock ≠ true :=
  fun due => h.unrestarted ⟨h.succeeds, due⟩

theorem Quiet.polled {r : Robot} {s : Surroundings} {since : Time} {ending? : Option (Task × FloatWord)}
    (h : r.Quiet s) (limited : Limited ending?) (awaits : r.Awaits since ending?) :
    (r.polled s).Awaits since ending? := by
  apply awaits.congr limited
  intro task hTask
  obtain ⟨letter, command, obeys, control, _⟩ | ⟨control, _⟩ := (r.served s).poll_effect
  · have still := h.calm command ⟨h.succeeds, obeys⟩
    have notStop : command ≠ .stop := by
      rintro rfl
      exact h.unstopped ⟨h.succeeds, obeys⟩
    have mine : task ∈ motionFlags := List.mem_append_right _ (Task.endings_subset task hTask)
    rw [Robot.polled, control]
    exact get_eq_of_motionPart (comply_motionPart ((r.served s).received letter) letter still notStop) mine
  · rw [Robot.polled, control, served_control]

theorem awaits_passAll {settings : Settings} {r : Robot} {run : List Surroundings} {since : Time}
    {ending? : Option (Task × FloatWord)} (h : Reachable settings r) (quiet : Along Quiet r run)
    (limited : Limited ending?) (awaits : r.Awaits since ending?) :
    (r.passAll run).Awaits since (pendingAfter since ending? run) := by
  induction run generalizing r ending? with
  | nil =>
    have same : pendingAfter since ending? [] = ending? := by cases ending? <;> rfl
    rw [same]
    exact awaits
  | cons s run ih =>
    have next := awaits_pass h quiet.1.succeeds quiet.1.noRestart limited (quiet.1.polled limited awaits)
    have after := ih (h.pass s) quiet.2 (limited.pendingAfter since [s]) next
    rw [pendingAfter_append] at after
    exact after

theorem limited_of_accepted {command : Command} {volts : Float32} (h : command.refusal? volts = none) :
    Limited command.ending? := by
  have positive {limit : Option FloatWord} {seconds : FloatWord}
      (accepted : (Command.refusalOfPower? volts).or (Command.refusalOfSeconds? limit) = none)
      (hLimit : limit = some seconds) : 0 < seconds.value := by
    subst hLimit
    simpa [Command.refusalOfSeconds?] using (Option.or_eq_none_iff.mp accepted).2
  rintro task seconds hEnding
  cases command with
  | duty left right limit =>
    obtain ⟨_, hLimit, hTask⟩ := Option.map_eq_some_iff.mp hEnding
    cases hTask
    exact ⟨by decide, positive h hLimit⟩
  | drive mode linear angular limit =>
    obtain ⟨_, hLimit, hTask⟩ := Option.map_eq_some_iff.mp hEnding
    cases hTask
    exact ⟨by decide, positive h hLimit⟩
  | avoid limit =>
    obtain ⟨_, hLimit, hTask⟩ := Option.map_eq_some_iff.mp hEnding
    cases hTask
    exact ⟨by decide, positive h hLimit⟩
  | _ => cases hEnding

theorem not_mem_motionTasks {command : Command} {task : Task} (hTask : task ∈ Task.endings)
    (absent : ∀ seconds, command.ending? ≠ some (task, seconds)) : task ∉ command.motionTasks := by
  rcases Task.mem_endings.mp hTask with rfl | rfl
  all_goals
    cases command with
    | duty left right limit | avoid limit =>
      cases limit <;> simp [Command.motionTasks, Command.ending?] at absent ⊢
    | drive mode linear angular limit =>
      cases limit <;> cases mode <;>
        simp [Command.motionTasks, Command.ending?, Control.controlTask] at absent ⊢
    | _ => simp [Command.motionTasks]

section Accepting

variable {r : Robot} {s : Surroundings} {command : Command}

theorem awaits_of_accepts (accepts : r.Accepts s command) (moves : command.moves = true) :
    (r.polled s).Awaits s.clock command.ending? := by
  obtain ⟨letter, _, _, hPoll⟩ := poll_of_obeys accepts.2
  rw [polled, hPoll]
  constructor
  · intro task seconds hEnding
    have timer := comply_timer ((r.served s).received letter) letter hEnding
    rw [received_board, served_clock] at timer
    exact timer
  · intro task hTask absent
    apply Bool.eq_false_iff.mpr
    intro active
    have mine := (comply_isActive ((r.served s).received letter) letter moves
      (Task.endings_subset task hTask)).mp active
    exact not_mem_motionTasks hTask absent mine

theorem noRestart_of_obeys {settings : Settings} (h : Reachable settings r)
    (obeys : (r.served s).Obeys command) (other : command ≠ .restart) :
    (r.polled s).control.agenda.due .restart s.clock ≠ true := by
  intro due
  obtain ⟨letter, _, _, hPoll⟩ := poll_of_obeys obeys
  have same : (r.polled s).control.agenda.get .restart = r.control.agenda.get .restart := by
    rw [polled, hPoll]
    exact comply_get_restart ((r.served s).received letter) letter other
  have active := Agenda.active_of_due due
  rw [isActive_of_get same, h.restart_inactive] at active
  cases active

theorem noRestart_of_accepts {settings : Settings} (h : Reachable settings r) (accepts : r.Accepts s command)
    (moves : command.moves = true) : (r.polled s).control.agenda.due .restart s.clock ≠ true := by
  apply noRestart_of_obeys h accepts.2
  rintro rfl
  cases moves

end Accepting

/-- From the pass that takes up a movement, and as long as nothing else takes up a movement, stops or
restarts, a task that ends movements is carried out in the first pass that finds the limit passed, if
it is up to this task and there is a limit at all; and that pass leaves the robot at rest. -/
theorem limited_movement_ends {settings : Settings} {r : Robot} {start : Surroundings} {command : Command}
    {later : List Surroundings} (h : Reachable settings r) (accepts : r.Accepts start command)
    (moves : command.moves = true) (quiet : Along Quiet (r.pass start) later)
    {before after : List Surroundings} {s : Surroundings} (split : start :: later = before ++ s :: after)
    {task : Task} (hTask : task ∈ Task.endings) :
    ((r.passAll before).Performs s task ↔
      ∃ seconds, command.ending? = some (task, seconds) ∧ s.past start.clock seconds = true ∧
        ∀ t ∈ before, t.past start.clock seconds = false) ∧
    ((r.passAll before).Performs s task → (r.passAll (before ++ [s])).Resting) := by
  obtain ⟨letter, _, accepted, _⟩ := poll_of_obeys accepts.2
  have limited := limited_of_accepted accepted
  have awaits := awaits_of_accepts accepts moves
  have noRestart := noRestart_of_accepts h accepts moves
  constructor
  · cases before with
    | nil =>
      obtain ⟨rfl, _⟩ := List.cons.inj split
      rw [passAll, List.foldl_nil, performs_iff_due hTask accepts.1 noRestart, awaits.due_iff limited hTask]
      simp
    | cons first before =>
      obtain ⟨rfl, hLater⟩ := List.cons.inj split
      rw [hLater] at quiet
      obtain ⟨quietBefore, quietNow, _⟩ := along_append.mp quiet
      have next := awaits_pass h accepts.1 noRestart limited awaits
      have left := limited.pendingAfter start.clock [start]
      have pending := awaits_passAll (h.pass start) quietBefore left next
      rw [pendingAfter_append] at pending
      have left := limited.pendingAfter start.clock ([start] ++ before)
      have due := (quietNow.polled left pending).due_iff left hTask s
      have performs := performs_iff_due hTask quietNow.succeeds quietNow.noRestart
      rw [passAll, List.foldl_cons]
      rw [passAll] at performs due
      rw [performs, due]
      constructor
      · rintro ⟨seconds, hPending, past⟩
        obtain ⟨hEnding, future⟩ := pendingAfter_eq_some_iff.mp hPending
        exact ⟨seconds, hEnding, past, future⟩
      · rintro ⟨seconds, hEnding, past, future⟩
        exact ⟨seconds, pendingAfter_eq_some_iff.mpr ⟨hEnding, future⟩, past⟩
  · intro performs
    rw [passAll_append]
    exact resting_of_performs (h.passAll before) hTask performs

theorem Quiet.of_silent {r : Robot} {s : Surroundings} (ok : r.Succeeds s)
    (silent : (r.served s).link.inbox.peek? = none) (unrestarted : ¬ r.Performs s .restart) : r.Quiet s where
  succeeds := ok
  calm command accepts := absurd accepts.2 (not_obeys_of_empty silent command)
  unstopped accepts := not_obeys_of_empty silent .stop accepts.2
  unrestarted := unrestarted

/-- Duty cycles set for a fiftieth of a second are set back after it, and not before. -/
theorem limited_movement_ends_powerOn :
    let start : Surroundings :=
      { clock := .ofMillis 10, arriving := [0x50, 50, 0, 50, 0, 0x0a, 0xd7, 0xa3, 0x3c] }
    let early : Surroundings := { clock := .ofMillis 29 }
    let late : Surroundings := { clock := .ofMillis 30 }
    ¬ (powerOn.passAll [start]).Performs early .timedDuty ∧ ¬ (powerOn.passAll [start, early]).board.AtRest ∧
      (powerOn.passAll [start, early]).Performs late .timedDuty ∧
      (powerOn.passAll [start, early, late]).Resting := by
  intro start early late
  let limit : FloatWord := ⟨0x3ca3d70a⟩
  have accepts : powerOn.Accepts start (.duty 50 50 (some limit)) := by
    refine ⟨by decide +kernel, 0x50, _, ⟨?_, ?_, ?_⟩, carryOut_eq_ok_iff.mpr ⟨?_, rfl⟩⟩
    all_goals decide +kernel
  have quiet : Along Quiet (powerOn.pass start) [early, late] := by
    refine ⟨.of_silent ?_ ?_ ?_, .of_silent ?_ ?_ ?_, trivial⟩
    all_goals decide +kernel
  have ends (before after : List Surroundings) (s : Surroundings)
      (split : [start, early, late] = before ++ s :: after) :=
    limited_movement_ends reachable_powerOn accepts rfl quiet split (show .timedDuty ∈ Task.endings by decide)
  obtain ⟨performsEarly, _⟩ := ends [start] [late] early rfl
  obtain ⟨performsLate, resting⟩ := ends [start, early] [] late rfl
  have performs : (powerOn.passAll [start, early]).Performs late .timedDuty := by
    rw [performsLate]
    refine ⟨limit, rfl, ?_, ?_⟩
    all_goals decide +kernel
  refine ⟨?_, by decide +kernel, performs, resting performs⟩
  rw [performsEarly]
  rintro ⟨seconds, hSeconds, past, _⟩
  cases hSeconds
  revert past
  decide +kernel

end Robot

end Rover
