import Rover.Proofs.Deadline
import Rover.Proofs.Past
import Rover.Proofs.Setup

/-!
# A restart is a fresh start

The pass that takes up a restart carries it out before any other task. What is left is a robot just
started on the same board and link, with the battery filter that it had and with a journal behind
it. Neither the rest of the pass nor any later pass can tell the two apart.
-/

namespace Rover
open Motion Wire
set_option autoImplicit false

/-- Each field is either kept for good or set back. -/
theorem Control.reset_eq_fresh (c : Control) : c.reset = fresh c.setup c.battery := rfl

namespace Robot

/-- The robot in the midst of the pass, once its restart has been carried out. -/
def restarted (r : Robot) (s : Surroundings) : Robot := ((r.polled s).atTurn .restart).perform .restart s.clock

def withBattery (battery : Battery) (r : Robot) : Robot := r.setControl { r.control with battery }

theorem start_eq {settings : Settings} {setup : Setup} (h : settings.setup = .ok setup) (board : Board)
    (link : Link) :
    Robot.start settings board link =
      .ok { board, link, control := Control.fresh setup (Battery.standard.settle board.battery) } := by
  rw [Robot.start, Control.ofSettings_eq, h]
  rfl

section Restarting

variable {r : Robot} {s : Surroundings}

theorem polled_of_restart (accepts : r.Accepts s .restart) :
    (r.polled s).control = r.control.arm .restart .once := by
  obtain ⟨letter, _, _, hPoll⟩ := poll_of_obeys accepts.2
  rw [polled, hPoll]
  rfl

theorem performs_restart (accepts : r.Accepts s .restart) : r.Performs s .restart := by
  have flag : (r.polled s).control.agenda.get .restart = (r.control.agenda.get .restart).once := by
    rw [polled_of_restart accepts]
    exact Control.arm_get ..
  refine ⟨accepts.1, ?_⟩
  have due : (r.polled s).control.agenda.due .restart s.clock = true := by
    rw [Agenda.due, flag]
    exact Flag.due_once _ s.clock
  exact due

theorem restarted_control (accepts : r.Accepts s .restart) :
    (r.restarted s).control = Control.fresh r.control.setup r.control.battery := by
  have reset : (r.restarted s).control = ((r.polled s).note .restarting).stop.control.reset := rfl
  rw [reset, Control.reset_eq_fresh, stop_control, note_control, polled_of_restart accepts]
  rfl

theorem restarted_atRest (r : Robot) (s : Surroundings) :
    (r.restarted s).board.AtRest ∧ (r.restarted s).board.lights.red = false ∧
      (r.restarted s).board.clock = s.clock := by
  have board : (r.restarted s).board = (r.polled s).board.halt.setLight .red false := by
    have stopped : (r.restarted s).board = ((r.polled s).note .restarting).stop.board := rfl
    rw [stopped, stop_board]
    rfl
  rw [board]
  exact ⟨⟨rfl, rfl⟩, rfl, polled_clock r s⟩

/-- The turns after that of the restart make up the whole sweep of a robot just started. -/
theorem sweep_of_inactive {r : Robot} (h : r.control.agenda.isActive .restart = false) :
    r.sweep = (taskOrder.dropWhile (· != .restart)).tail.foldl (performDue r.board.clock) r := by
  have idle : r.control.agenda.due .restart r.board.clock ≠ true := by
    intro due
    rw [Agenda.active_of_due due] at h
    cases h
  have turn : r.atTurn .restart = r := rfl
  rw [sweep_eq r .restart, turn, performDue_of_not_due idle]

theorem pass_of_restart (accepts : r.Accepts s .restart) : r.pass s = (r.restarted s).sweep := by
  have inactive : (r.restarted s).control.agenda.isActive .restart = false := by
    rw [restarted_control accepts]
    exact Control.fresh_inactive _ _ (by decide)
  obtain ⟨_, _, clock⟩ := restarted_atRest r s
  rw [pass_of_performs (performs_restart accepts), sweep_of_inactive inactive, clock]
  rfl

/-- Nothing but its battery filter and its journal tells such a robot from one just started. -/
theorem eq_started {r : Robot} {setup : Setup} {battery : Battery} (initial : Battery)
    (control : r.control = Control.fresh setup battery) (idle : r.dispatch = .idle) :
    r = (withBattery battery { board := r.board, link := r.link, control := Control.fresh setup initial }).withPast
      r.journal := by
  obtain ⟨board, link, _, _, journal⟩ := r
  subst control idle
  have whole : journal = journal ++ #[] := Array.append_empty.symm
  exact congrArg (Robot.mk board link (Control.fresh setup battery) .idle) whole

/-- A pass that takes up a restart carries it out, with the motors off and the red light out. It
leaves the control state that the settings give, with the battery filter as it was; and from there
on, in the rest of the pass and in all later ones, the robot is one just started on its board and
link with that filter, its journal behind it. -/
theorem restart_is_fresh_start {settings : Settings} (h : Reachable settings r)
    (accepts : r.Accepts s .restart) :
    r.Performs s .restart ∧ (r.restarted s).board.AtRest ∧ (r.restarted s).board.lights.red = false ∧
      (r.restarted s).dispatch = .idle ∧
      (∃ control, Control.ofSettings settings = .ok control ∧
        (r.restarted s).control = { control with battery := r.control.battery }) ∧
      ∃ fresh, Robot.start settings (r.restarted s).board (r.restarted s).link = .ok fresh ∧
        ∀ run, (r.pass s).passAll run =
          ((fresh.withBattery r.control.battery).sweep.passAll run).withPast (r.restarted s).journal := by
  have setup := h.follows.setup
  obtain ⟨off, dark, _⟩ := restarted_atRest r s
  refine ⟨performs_restart accepts, off, dark, rfl, ?_, ?_⟩
  · refine ⟨Control.fresh r.control.setup .standard, ?_, ?_⟩
    · rw [Control.ofSettings_eq, setup]
      rfl
    · rw [restarted_control accepts]
      rfl
  · refine ⟨_, start_eq setup (r.restarted s).board (r.restarted s).link, ?_⟩
    intro run
    have anew := eq_started (Battery.standard.settle (r.restarted s).board.battery)
      (restarted_control accepts) rfl
    rw [← passAll_withPast, ← sweep_withPast, ← anew, pass_of_restart accepts]

end Restarting

/-- The motors run and a loop is being measured when the restart comes. -/
theorem restart_is_fresh_start_powerOn :
    let busy := powerOn.passAll
      [{ clock := .ofMillis 10, arriving := [0x70, 50, 0, 50, 0] }, { clock := .ofMillis 20, arriving := [0x74, 2] }]
    let s : Surroundings := { clock := .ofMillis 30, arriving := [0x7e] }
    ¬ busy.board.AtRest ∧ busy.control.loopStart.isSome = true ∧ busy.Accepts s .restart ∧
      busy.Performs s .restart ∧ (busy.restarted s).board.AtRest ∧
      ∃ fresh, Robot.start .standard (busy.restarted s).board (busy.restarted s).link = .ok fresh ∧
        ∀ run, (busy.pass s).passAll run =
          ((fresh.withBattery busy.control.battery).sweep.passAll run).withPast (busy.restarted s).journal := by
  intro busy s
  have reachable : Reachable .standard busy := reachable_powerOn.passAll _
  have accepts : busy.Accepts s .restart := by
    refine ⟨?_, 0x7e, _, ⟨?_, ?_, ?_⟩, carryOut_eq_ok_iff.mpr ⟨?_, rfl⟩⟩
    all_goals decide +kernel
  obtain ⟨performs, off, _, _, _, fresh, hStart, follows⟩ := restart_is_fresh_start reachable accepts
  exact ⟨by decide +kernel, by decide +kernel, accepts, performs, off, fresh, hStart, follows⟩

end Robot

end Rover
