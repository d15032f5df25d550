import Rover.Proofs.Outbound
import Rover.Proofs.Reception
import Rover.Proofs.Targets

/-!
# A failed link

A link fails when its line cannot tell what is waiting, or when a read meets a fault other than a
timeout. The pass that finds it failed ends before the dispatcher gets its turn. The robot then stops
by itself and gives the error back, and a run ends there. Everything that a stop does not concern is
as it was before the pass.
-/

namespace Rover
open Motion Wire
set_option autoImplicit false

namespace Control

/-- Nothing is left of any movement. -/
structure AtStandstill (c : Control) : Prop where
  position : c.position = .both 0
  velocity : c.velocity = .both 0
  idle : ∀ task ∈ Task.motion, c.agenda.isActive task = false
  odometer : c.odometer = .reset

/-- What has no part in movements is what it was, and so is what the filters have seen. -/
structure Spares (c d : Control) : Prop where
  flags : ∀ task ∉ Task.motion, d.agenda.get task = c.agenda.get task
  setup : d.setup = c.setup
  battery : d.battery = c.battery
  filters : d.wheels.map Regulator.filter = c.wheels.map Regulator.filter
  avoidance : d.avoidance = c.avoidance
  tripStart : d.tripStart = c.tripStart
  loopStart : d.loopStart = c.loopStart

theorem atStandstill_stop (c : Control) : c.stop.AtStandstill :=
  ⟨rfl, rfl, fun _ => c.stop_inactive, rfl⟩

theorem spares_stop (c : Control) : c.Spares c.stop := by
  refine ⟨?_, rfl, rfl, rfl, rfl, rfl, rfl⟩
  intro task other
  rw [stop_get, if_neg other]

end Control

namespace Robot

structure Halted (r : Robot) : Prop where
  off : r.board.AtRest
  light : r.board.lights.red = false
  control : r.control.AtStandstill

/-- The inbox and all that has no part in movements are what they were, and nothing has been sent. -/
structure Spares (r t : Robot) : Prop where
  control : r.control.Spares t.control
  dispatch : t.dispatch = r.dispatch
  inbox : t.link.inbox = r.link.inbox
  output : t.link.output = r.link.output
  messages : t.journal.messages = r.journal.messages

theorem stop_link (r : Robot) : r.stop.link = r.link := by simp [stop, halt]

theorem halted_stop (r : Robot) : r.stop.Halted := by
  refine ⟨?_, ?_, ?_⟩
  · rw [stop_board]
    exact ⟨rfl, rfl⟩
  · rw [stop_board]
    rfl
  · rw [stop_control]
    exact r.control.atStandstill_stop

section Pass

variable {r : Robot} {error : LinkError} (h : r.link.answer.error? = some error)
include h

theorem tick_of_error :
    r.tick = (some error, { r with board := r.board.service, link := r.link.upkeep.2 }) := by
  rw [← Link.upkeep_error] at h
  rw [tick]
  dsimp only
  split
  · next failed =>
    rw [failed] at h ⊢
    cases h
    rfl
  · next fine =>
    rw [fine] at h
    cases h

theorem tickOrHalt_of_error : r.tickOrHalt = (some error, (r.tick.2.note (.linkFailed error)).stop) := by
  rw [tickOrHalt, tick_of_error h]

/-- The pass serves the board and asks the line, and that is all. -/
theorem untouched_of_error :
    r.tick.2.board = r.board.service ∧ r.tick.2.control = r.control ∧ r.tick.2.dispatch = r.dispatch ∧
      r.tick.2.journal = r.journal ∧ r.tick.2.link.inbox = r.link.inbox ∧
      r.tick.2.link.output = r.link.output := by
  obtain ⟨fault, hFault⟩ := Answer.exists_fault h
  rw [tick_of_error h]
  exact ⟨rfl, rfl, rfl, rfl, r.link.upkeep_inbox_of_fault hFault, r.link.upkept.output⟩

theorem spares_of_error : r.Spares r.tickOrHalt.2 := by
  obtain ⟨_, control, dispatch, journal, inbox, output⟩ := untouched_of_error h
  rw [tickOrHalt_of_error h]
  refine ⟨?_, ?_, ?_, ?_, ?_⟩
  · rw [stop_control, note_control, control]
    exact r.control.spares_stop
  · rw [← dispatch]
    simp [stop, halt]
  · rw [stop_link, note_link, inbox]
  · rw [stop_link, note_link, output]
  · rw [stop_messages, note_messages, journal]

end Pass

section Run

variable {r : Robot} {error : LinkError} {stepMicros : Nat}

def advanced (r : Robot) (stepMicros : Nat) : Robot := { r with board := r.board.advance stepMicros }

theorem error_of_tickOrHalt (h : r.tickOrHalt.1 = some error) : r.link.answer.error? = some error := by
  rw [← Link.upkeep_error, ← tick_error]
  rw [tickOrHalt] at h
  split at h
  · next failed => rw [failed, ← h]
  · cases h

/-- A run that fails does so in one of its passes, after others that have not failed. -/
theorem passes_failed {n : Nat} {t : Robot} (h : r.passes stepMicros n = (some error, t)) :
    ∃ k q, r.passes stepMicros k = (none, q) ∧ (q.advanced stepMicros).tickOrHalt = (some error, t) := by
  induction n generalizing r with
  | zero => cases h
  | succ n ih =>
    rw [passes] at h
    split at h
    · next failed =>
      cases h
      exact ⟨0, r, rfl, failed⟩
    · next next passed =>
      obtain ⟨k, q, before, failed⟩ := ih h
      refine ⟨k + 1, q, ?_, failed⟩
      rw [passes, passed]
      exact before

theorem run_failed {loopMicros : Nat} {interruptAfter : Option Nat}
    (h : (r.run loopMicros stepMicros interruptAfter).1 = .linkFailed error) :
    ∃ n, (r.note (.running loopMicros r.control.setup.strategy r.control.period)).passes stepMicros n =
      (some error, (r.run loopMicros stepMicros interruptAfter).2) := by
  refine ⟨interruptAfter.getD r.link.horizon, ?_⟩
  rw [run] at h ⊢
  split at h
  · next failed =>
    cases h
    exact failed
  · split at h <;> cases h

end Run

/-- A pass that finds the link failed takes up no command, sends nothing and carries out no task; the
robot then stops and gives the error back, and all that a stop does not concern stays as it is. A run
that ends with an error ends so. -/
theorem link_failure_halts (r : Robot) :
    (∀ error, r.link.answer.error? = some error →
      (r.tick.1 = some error ∧ r.tick.2.board = r.board.service ∧ r.tick.2.control = r.control ∧
        r.tick.2.dispatch = r.dispatch ∧ r.tick.2.journal = r.journal ∧
        r.tick.2.link.inbox = r.link.inbox ∧ r.tick.2.link.output = r.link.output) ∧
      r.tickOrHalt.1 = some error ∧ r.tickOrHalt.2.Halted ∧ r.Spares r.tickOrHalt.2) ∧
    ∀ loopMicros stepMicros interruptAfter error,
      (r.run loopMicros stepMicros interruptAfter).1 = .linkFailed error →
      ∃ k q, (r.note (.running loopMicros r.control.setup.strategy r.control.period)).passes stepMicros k =
          (none, q) ∧
        (q.advanced stepMicros).link.answer.error? = some error ∧
        (r.run loopMicros stepMicros interruptAfter).2.Halted ∧
        (q.advanced stepMicros).Spares (r.run loopMicros stepMicros interruptAfter).2 := by
  have halts {r : Robot} {error : LinkError} (h : r.link.answer.error? = some error) :
      r.tickOrHalt.1 = some error ∧ r.tickOrHalt.2.Halted ∧ r.Spares r.tickOrHalt.2 := by
    refine ⟨?_, ?_, spares_of_error h⟩
    · rw [tickOrHalt_of_error h]
    · rw [tickOrHalt_of_error h]
      exact halted_stop _
  constructor
  · intro error h
    have failed : r.tick.1 = some error := by rw [tick_of_error h]
    exact ⟨⟨failed, untouched_of_error h⟩, halts h⟩
  · intro loopMicros stepMicros interruptAfter error h
    obtain ⟨n, failed⟩ := run_failed h
    obtain ⟨k, q, before, last⟩ := passes_failed failed
    have met : (q.advanced stepMicros).link.answer.error? = some error := error_of_tickOrHalt (by rw [last])
    obtain ⟨_, halted, spares⟩ := halts met
    rw [last] at halted spares
    exact ⟨k, q, before, met, halted, spares⟩

/-- The read fails in the middle of a drive, with a stop already waiting in the line; and in a run the
line can no longer tell what is waiting. -/
theorem link_failure_halts_drive :
    let drive : Bytes := [0x76, 0, 0, 0x80, 0x3f, 0, 0, 0, 0]
    let gone : Fault := ⟨.other, "gone"⟩
    let faulty (script : Script) : Robot :=
      { powerOn with link := .overLine { device := "line", arriving := drive, script } }
    let driving := ((faulty { read := [none, some gone] }).pass { clock := .ofMillis 10 }).pass
      { clock := .ofMillis 20 }
    let failing := driving.meet { clock := .ofMillis 30, arriving := [0x73] }
    let lost := faulty { countWaiting := [none, none, none, some ⟨.timedOut, "no count"⟩] }
    driving.board.duty = .both 100 ∧ driving.control.agenda.isActive .velocityControl = true ∧
      failing.tickOrHalt.1 = some (.io "gone") ∧ failing.tickOrHalt.2.Halted ∧
      (lost.run 10000 10000 none).1 = .linkFailed (.serial "no count") ∧
      (lost.run 10000 10000 none).2.Halted := by
  intro drive gone faulty driving failing lost
  have met : failing.link.answer.error? = some (.io "gone") := by decide +kernel
  have ended : (lost.run 10000 10000 none).1 = .linkFailed (.serial "no count") := by decide +kernel
  obtain ⟨_, error, halted, _⟩ := (link_failure_halts failing).1 _ met
  obtain ⟨_, _, _, _, runHalted, _⟩ := (link_failure_halts lost).2 10000 10000 none _ ended
  exact ⟨by decide +kernel, by decide +kernel, error, halted, ended, runHalted⟩

end Robot
end Rover
