import Rover.Proofs.Movement

/-!
# A stopped robot stays stopped

Motors are switched on by three tasks and by commands that move, and no other task switches any of
the three on. So a robot whose motors are off, with none of them under way, stays as it is until
such a command is carried out. The stop timer may still run: it stops what has stopped already.
-/

namespace Rover
open Motion Wire
set_option autoImplicit false

def Task.driving : List Task := [.distanceControl, .velocityControl, .timedDuty, .avoidance]

theorem Task.driving_subset : ∀ task ∈ driving, task ∈ motion := by decide

namespace Robot

structure Stopped (r : Robot) : Prop where
  off : r.board.AtRest
  idle : ∀ task ∈ Task.driving, r.control.agenda.isActive task = false

def Arrives (r : Robot) (now : Time) : Prop :=
  (r.control.distanceStep (r.sampleAt now)).1 = .finished

/-- What stops the robot in the course of a pass. -/
inductive Halts (r : Robot) (s : Surroundings) : Prop where
  | command : r.Accepts s .stop → Halts r s
  | restart : r.Performs s .restart → Halts r s
  | stopTimer : r.Performs s .stopTimer → Halts r s
  | timedDuty : r.Performs s .timedDuty → Halts r s
  | arrived : r.Performs s .distanceControl → ((r.polled s).atTurn .distanceControl).Arrives s.clock →
      Halts r s

/-- No command is carried out in the pass that sets the wheels moving. -/
def Calm (r : Robot) (s : Surroundings) : Prop := ∀ command, r.Accepts s command → command.moves = false

theorem Stopped.congr {r s : Robot} (h : r.Stopped) (off : s.board.AtRest)
    (flags : ∀ task ∈ Task.driving, s.control.agenda.isActive task = r.control.agenda.isActive task) :
    s.Stopped := by
  refine ⟨off, ?_⟩
  intro task hTask
  rw [flags task hTask]
  exact h.idle task hTask

theorem Stopped.of_motionPart {r s : Robot} (h : r.Stopped) (same : s.motionPart = r.motionPart) :
    s.Stopped := by
  have duty : s.board.duty = r.board.duty := congrArg (fun part => part.board.duty) same
  have enabled : s.board.enabled = r.board.enabled := congrArg (fun part => part.board.enabled) same
  refine h.congr ⟨duty.trans h.off.1, enabled.trans h.off.2⟩ ?_
  intro task hTask
  have mine : task ∈ motionFlags := List.mem_append_right _ (Task.driving_subset task hTask)
  exact isActive_of_get (get_eq_of_motionPart same mine)

theorem stopped_stop (r : Robot) : r.stop.Stopped := by
  constructor
  · rw [stop_board]
    exact ⟨rfl, rfl⟩
  · intro task hTask
    rw [stop_control]
    exact Control.stop_inactive _ (Task.driving_subset task hTask)

theorem stopped_restart (r : Robot) : r.restart.Stopped := by
  constructor
  · exact (stopped_stop (r.note .restarting)).off
  · intro task hTask
    exact Control.fresh_inactive _ _ (by revert task; decide)

section Turns

variable {r : Robot} {now : Time}

/-- When one motion task ends, the others have been off before: movements exclude one another. -/
theorem stopped_of_ended {s : Robot} {ended : Task} (h : r.control.Coherent) (hEnded : ended ∈ Task.motion)
    (active : r.control.agenda.isActive ended = true)
    (apart : ∀ task ∈ Task.driving, task ≠ ended → ∀ movement : Movement,
      ended ∈ movement.tasks → task ∉ movement.tasks)
    (off : s.board.AtRest) (gone : s.control.agenda.isActive ended = false)
    (others : ∀ task, task ≠ ended →
      s.control.agenda.isActive task = r.control.agenda.isActive task) : s.Stopped := by
  refine ⟨off, ?_⟩
  intro task hTask
  by_cases same : task = ended
  · rw [same]
    exact gone
  · rw [others task same]
    exact h.exclusive.inactive hEnded (Task.driving_subset task hTask) active (apart task hTask same)

theorem stopped_expireDuty (h : r.control.Coherent)
    (active : r.control.agenda.isActive .timedDuty = true) : (r.perform .timedDuty now).Stopped := by
  refine stopped_of_ended h (by decide) active ?_ ?_ ?_ ?_
  · intro task hTask apart movement
    cases movement <;> revert task <;> decide
  · simp only [perform, arm_board, halt_board]
    exact ⟨rfl, rfl⟩
  · simp [perform, Agenda.isActive, Flag.retire]
  · intro task apart
    exact isActive_of_get (perform_get (by simpa [Task.touches] using apart) now)

theorem stopped_arrive (h : r.control.Coherent) (active : r.control.agenda.isActive .distanceControl = true)
    (arrives : r.Arrives now) : (r.perform .distanceControl now).Stopped := by
  obtain ⟨control, board⟩ := r.controlDistance_of_finished now arrives
  refine stopped_of_ended h (by decide) active ?_ ?_ ?_ ?_
  · intro task hTask apart movement
    cases movement <;> revert task <;> decide
  · rw [perform, board]
    exact ⟨rfl, rfl⟩
  · simp [perform, control, Agenda.isActive, Flag.retire]
  · intro task apart
    exact isActive_of_get (perform_get (by simpa [Task.touches] using apart) now)

theorem stopped_perform {task : Task} (h : r.Stopped) (due : r.control.agenda.due task now = true) :
    (r.perform task now).Stopped := by
  have active := Agenda.active_of_due due
  cases task
  case restart => exact stopped_restart r
  case stopTimer => exact stopped_stop (r.note .stopExpired)
  case batteryTask =>
    refine h.congr ?_ ?_
    · rw [show (r.perform .batteryTask now).board = r.board from r.sampleBattery_board now]
      exact h.off
    · intro task hTask
      exact isActive_of_get (perform_get (by revert task; decide) now)
  case lowBattery =>
    refine h.congr ?_ ?_
    · simp only [perform, warnBattery, complete_board, send_board, note_board]
      exact h.off
    · intro task hTask
      exact isActive_of_get (perform_get (by revert task; decide) now)
  case timedDuty | distanceControl | velocityControl | avoidance =>
    rw [h.idle _ (by decide)] at active
    cases active
  all_goals exact h.of_motionPart (perform_motionPart (by decide) now)

theorem stopped_sweep (h : r.Stopped) : r.sweep.Stopped :=
  sweep_induct (fun _ _ _ => stopped_perform) h

theorem stopped_sweep_of_turn {task : Task}
    (due : (r.atTurn task).control.agenda.due task r.board.clock = true)
    (h : ((r.atTurn task).perform task r.board.clock).Stopped) : r.sweep.Stopped := by
  rw [sweep_eq r task, performDue_of_due due]
  exact foldl_performDue _ (fun _ _ _ => stopped_perform) h

end Turns

theorem stopped_poll {r : Robot} (h : r.Stopped)
    (calm : ∀ command, r.Obeys command → command.moves = false) : r.poll.Stopped := by
  obtain ⟨letter, command, obeys, control, board⟩ | ⟨control, board⟩ := r.poll_effect
  · have stopped : ((r.received letter).comply letter command).Stopped := by
      rcases Classical.em (command = .stop) with rfl | hStop
      · exact stopped_stop _
      · exact Stopped.of_motionPart h (comply_motionPart (r.received letter) letter (calm command obeys) hStop)
    refine stopped.congr ?_ ?_
    · rw [board]
      exact stopped.off
    · intro task _
      rw [control]
  · refine h.congr ?_ ?_
    · rw [board]
      exact h.off
    · intro task _
      rw [control]

theorem stopped_pass {r : Robot} {s : Surroundings} (h : r.Stopped) (calm : r.Calm s) :
    (r.pass s).Stopped := by
  have served : (r.served s).Stopped := ⟨r.served_atRest s h.off, h.idle⟩
  obtain ⟨ok, swept⟩ | failed := r.pass_cases s
  · rw [swept]
    exact stopped_sweep (stopped_poll served fun command obeys => calm command ⟨ok, obeys⟩)
  · rw [failed]
    exact served

theorem stopped_start {settings : Settings} {board : Board} {link : Link} {r : Robot} (off : board.AtRest)
    (h : Robot.start settings board link = .ok r) : r.Stopped := by
  obtain ⟨_, _, _, _, hBoard⟩ := start_control h
  constructor
  · rw [hBoard]
    exact off
  · intro task hTask
    exact inactive_of_start h (by revert task; decide)

theorem stopped_of_halts {settings : Settings} {r : Robot} {s : Surroundings} (h : Reachable settings r)
    (ok : r.Succeeds s) (halts : r.Halts s) : (r.pass s).Stopped := by
  rw [pass_of_succeeds ok]
  have turn {task : Task} (due : ((r.polled s).atTurn task).control.agenda.due task s.clock = true)
      (stopped : (((r.polled s).atTurn task).perform task s.clock).Stopped) : (r.polled s).sweep.Stopped := by
    rw [← r.polled_clock s] at due stopped
    exact stopped_sweep_of_turn due stopped
  cases halts with
  | command accepts =>
    apply stopped_sweep
    obtain ⟨letter, _, _, hPoll⟩ := poll_of_obeys accepts.2
    rw [polled, hPoll]
    exact ⟨(stopped_stop _).off, (stopped_stop _).idle⟩
  | restart performs => exact turn performs.2 (stopped_restart ((r.polled s).atTurn .restart))
  | stopTimer performs =>
    exact turn performs.2 (stopped_stop (((r.polled s).atTurn .stopTimer).note .stopExpired))
  | timedDuty performs =>
    have active := Agenda.active_of_due performs.2
    exact turn performs.2 (stopped_expireDuty (h.coherent_atTurn s .timedDuty) active)
  | arrived performs arrives =>
    have active := Agenda.active_of_due performs.2
    exact turn performs.2 (stopped_arrive (h.coherent_atTurn s .distanceControl) active arrives)

theorem stopped_passAll {r : Robot} {run : List Surroundings} (h : r.Stopped) (calm : Along Calm r run) :
    (r.passAll run).Stopped := by
  induction run generalizing r with
  | nil => exact h
  | cons s run ih => exact ih (stopped_pass h calm.1) calm.2

/-- On a board at rest, such as a new one (`Board.atRest_new`), the robot starts stopped; a pass in which
something stops it leaves it stopped; and from then on it is stopped in every state until a command
that moves is carried out, whatever the surroundings. -/
theorem stopped_until_moved (settings : Settings) :
    (∀ board link r, board.AtRest → Robot.start settings board link = .ok r → r.Stopped) ∧
    (∀ r s, Reachable settings r → r.Succeeds s → r.Halts s → (r.pass s).Stopped) ∧
    ∀ r run rest, Reachable settings r → r.Stopped → Along Calm r (run ++ rest) → (r.passAll run).Stopped := by
  refine ⟨?_, ?_, ?_⟩
  · intro board link r off hStart
    exact stopped_start off hStart
  · intro r s hReachable ok halts
    exact stopped_of_halts hReachable ok halts
  · intro r run rest _ hStopped calm
    exact stopped_passAll hStopped (along_append.mp calm).1

/-- Both wheels are turning, a stop comes, and then a report is asked for. -/
theorem stopped_until_moved_powerOn :
    let moving := powerOn.pass { clock := .ofMillis 10, arriving := [0x70, 50, 0, 50, 0] }
    let stop : Surroundings := { clock := .ofMillis 20, arriving := [0x73] }
    let ask : Surroundings := { clock := .ofMillis 30, arriving := [0x62] }
    powerOn.Stopped ∧ ¬ moving.board.AtRest ∧ moving.Halts stop ∧ (moving.pass stop).Stopped ∧
      Along Calm (moving.pass stop) [ask] ∧ ((moving.pass stop).passAll [ask]).Stopped := by
  intro moving stop ask
  obtain ⟨start, halted, calm⟩ := stopped_until_moved .standard
  have reachable : Reachable .standard moving := reachable_powerOn.pass _
  have succeeds : moving.Succeeds stop := by decide +kernel
  have halts : moving.Halts stop := by
    refine .command ⟨succeeds, 0x73, _, ⟨?_, ?_, ?_⟩, rfl⟩
    all_goals decide +kernel
  have still : Along Calm (moving.pass stop) [ask] := by
    refine ⟨?_, trivial⟩
    rintro command ⟨_, letter, s, hOffers, _⟩
    have offers : ((moving.pass stop).served ask).link.inbox.Offers 0x62 (.report .battery none) := by
      constructor
      all_goals decide +kernel
    rw [(offers.unique hOffers).2]
    rfl
  have stopped := halted moving stop reachable succeeds halts
  refine ⟨start _ _ _ Board.atRest_new start_powerOn, ?_, halts, stopped, still, ?_⟩
  · decide +kernel
  · exact calm _ [ask] [] (reachable.pass stop) stopped still

end Robot

end Rover
