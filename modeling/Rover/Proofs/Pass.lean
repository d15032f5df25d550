import Rover.Proofs.Frame

/-!
# Passes of the loop and the states they reach

A pass finds the world as it has become since the pass before. What it then does has three parts:
serving board and link, the dispatcher's turn, and the turns of the tasks. The states in between
have names here, so that it can be said what happened in a pass, and a state is reachable when
passes lead to it from power-on.
-/

namespace Rover
open Motion Wire
set_option autoImplicit false

/-- The world as a pass of the loop finds it. -/
structure Surroundings where
  clock : Time
  battery : Float32 := 5
  reflections : Wheels UInt8 := .both 0
  /-- Encoder counts since the pass before, beyond those of the simulated wheels. -/
  counted : Wheels Int32 := .both 0
  arriving : Bytes := []
  /-- What has become of a serial line: its faults, its counts and its limits. -/
  line : Line → Line := id

def Board.meet (board : Board) (s : Surroundings) : Board :=
  { (board.record .left s.counted.left).record .right s.counted.right with
    clock := s.clock, battery := s.battery, reflections := s.reflections }

def Wire.Transport.meet (s : Surroundings) : Transport → Transport
  | .loopback => .loopback
  | .line port => .line (s.line port)

def Wire.Link.meet (link : Link) (s : Surroundings) : Link :=
  { link with transport := link.transport.meet s }.feed s.arriving

def Board.AtRest (board : Board) : Prop := board.duty = .both 0 ∧ board.enabled = false

instance (board : Board) : Decidable board.AtRest := inferInstanceAs (Decidable (_ ∧ _))

/-- Nothing has yet been asked of the motors of a new board. -/
theorem Board.atRest_new : AtRest {} := ⟨rfl, rfl⟩

namespace Robot

def meet (r : Robot) (s : Surroundings) : Robot :=
  { r with board := r.board.meet s, link := r.link.meet s }

def pass (r : Robot) (s : Surroundings) : Robot := (r.meet s).tick.2

def passAll (r : Robot) (run : List Surroundings) : Robot := run.foldl pass r

def Succeeds (r : Robot) (s : Surroundings) : Prop := (r.meet s).tick.1 = none

instance (r : Robot) (s : Surroundings) : Decidable (r.Succeeds s) := inferInstanceAs (Decidable (_ = _))

def served (r : Robot) (s : Surroundings) : Robot :=
  { r.meet s with board := (r.meet s).board.service, link := (r.meet s).link.upkeep.2 }

def polled (r : Robot) (s : Surroundings) : Robot := (r.served s).poll

/-- The robot when the turn of one task comes. -/
def atTurn (r : Robot) (task : Task) : Robot :=
  (taskOrder.takeWhile (· != task)).foldl (performDue r.board.clock) r

def Performs (r : Robot) (s : Surroundings) (task : Task) : Prop :=
  r.Succeeds s ∧ ((r.polled s).atTurn task).control.agenda.due task s.clock = true

instance (r : Robot) (s : Surroundings) (task : Task) : Decidable (r.Performs s task) :=
  inferInstanceAs (Decidable (_ ∧ _))

/-- States between passes, from power-on. The motors are off then, as on every new board
(`Board.atRest_new`): no start turns them off, so a board whose wheels turn already would go on. -/
inductive Reachable (settings : Settings) : Robot → Prop where
  | start {board : Board} {link : Link} {r : Robot} :
      board.AtRest → Robot.start settings board link = .ok r → Reachable settings r
  | pass {r : Robot} (s : Surroundings) : Reachable settings r → Reachable settings (r.pass s)

/-- What holds of each pass of a run and the state it begins in. -/
def Along (P : Robot → Surroundings → Prop) : Robot → List Surroundings → Prop
  | _, [] => True
  | r, s :: run => P r s ∧ Along P (r.pass s) run

theorem along_append {P : Robot → Surroundings → Prop} {r : Robot} {run rest : List Surroundings} :
    Along P r (run ++ rest) ↔ Along P r run ∧ Along P (r.passAll run) rest := by
  induction run generalizing r with
  | nil => exact ⟨fun h => ⟨trivial, h⟩, fun h => h.2⟩
  | cons s run ih =>
    rw [List.cons_append, Along, Along, ih, and_assoc]
    rfl

theorem passAll_append (r : Robot) (run later : List Surroundings) :
    r.passAll (run ++ later) = (r.passAll run).passAll later :=
  List.foldl_append

def powerOn : Robot := (Robot.start .standard {} .loopback).toOption.get (by decide +kernel)

theorem ok_get {result : Except SettingsError Robot} (h : result.toOption.isSome = true) :
    result = .ok (result.toOption.get h) := by
  cases result with
  | ok r => rfl
  | error e => cases h

theorem start_powerOn : Robot.start .standard {} .loopback = .ok powerOn := ok_get _

theorem reachable_powerOn : Reachable .standard powerOn :=
  .start Board.atRest_new start_powerOn

theorem Reachable.passAll {settings : Settings} {r : Robot} (h : Reachable settings r)
    (run : List Surroundings) : Reachable settings (r.passAll run) := by
  induction run generalizing r with
  | nil => exact h
  | cons s run ih => exact ih (h.pass s)

section Parts

variable (r : Robot) (s : Surroundings)

@[simp] theorem served_control : (r.served s).control = r.control := rfl

theorem service_clock (board : Board) : board.service.clock = board.clock := by
  unfold Board.service
  dsimp only
  split <;> rfl

@[simp] theorem served_clock : (r.served s).board.clock = s.clock := service_clock _

theorem service_atRest {board : Board} (h : board.AtRest) : board.service.AtRest := by
  unfold Board.service
  dsimp only
  split <;> exact h

theorem served_atRest (h : r.board.AtRest) : (r.served s).board.AtRest := service_atRest h

theorem pass_of_succeeds {r : Robot} {s : Surroundings} (h : r.Succeeds s) :
    r.pass s = (r.polled s).sweep := by
  unfold Succeeds at h
  unfold pass polled served
  unfold tick at h ⊢
  dsimp only at h ⊢
  split at h <;> rename_i hUpkeep
  · cases h
  · rw [hUpkeep]

theorem pass_of_fails {r : Robot} {s : Surroundings} (h : ¬ r.Succeeds s) : r.pass s = r.served s := by
  unfold Succeeds at h
  unfold pass served
  unfold tick at h ⊢
  dsimp only at h ⊢
  split at h <;> rename_i hUpkeep
  · rw [hUpkeep]
  · exact absurd rfl h

theorem pass_cases : (r.Succeeds s ∧ r.pass s = (r.polled s).sweep) ∨ r.pass s = r.served s := by
  rcases Classical.em (r.Succeeds s) with ok | failed
  · exact .inl ⟨ok, pass_of_succeeds ok⟩
  · exact .inr (pass_of_fails failed)

end Parts

theorem performDue_of_due {r : Robot} {task : Task} {now : Time} (h : r.control.agenda.due task now = true) :
    performDue now r task = r.perform task now := if_pos h

theorem performDue_of_not_due {r : Robot} {task : Task} {now : Time}
    (h : r.control.agenda.due task now ≠ true) : performDue now r task = r := if_neg h

/-- What each task that is carried out preserves is preserved by all their turns. -/
theorem foldl_performDue {P : Robot → Prop} {now : Time} (tasks : List Task)
    (step : ∀ r, ∀ task ∈ tasks, P r → r.control.agenda.due task now = true → P (r.perform task now))
    {r : Robot} (h : P r) : P (tasks.foldl (performDue now) r) := by
  refine List.foldlRecOn tasks (performDue now) h ?_
  intro r hr task hTask
  by_cases hDue : r.control.agenda.due task now = true
  · rw [performDue_of_due hDue]
    exact step r task hTask hr hDue
  · rwa [performDue_of_not_due hDue]

theorem taskOrder_eq (task : Task) :
    taskOrder = taskOrder.takeWhile (· != task) ++ task :: (taskOrder.dropWhile (· != task)).tail := by
  cases task <;> rfl

/-- A sweep is the turns before a task, its own turn and the turns after it. -/
theorem sweep_eq (r : Robot) (task : Task) :
    r.sweep = ((taskOrder.dropWhile (· != task)).tail).foldl (performDue r.board.clock)
      (performDue r.board.clock (r.atTurn task) task) := by
  calc
    r.sweep = (taskOrder.takeWhile (· != task) ++ task :: (taskOrder.dropWhile (· != task)).tail).foldl
        (performDue r.board.clock) r := congrArg (List.foldl _ r) (taskOrder_eq task)
    _ = _ := by
      rw [List.foldl_append, List.foldl_cons]
      rfl

theorem sweep_induct {P : Robot → Prop} {r : Robot}
    (step : ∀ r task now, P r → r.control.agenda.due task now = true → P (r.perform task now)) (h : P r) :
    P r.sweep :=
  foldl_performDue taskOrder (fun r task _ => step r task _) h

theorem atTurn_induct {P : Robot → Prop} {r : Robot} {task : Task}
    (step : ∀ r task now, P r → r.control.agenda.due task now = true → P (r.perform task now)) (h : P r) :
    P (r.atTurn task) :=
  foldl_performDue _ (fun r task _ => step r task _) h

section Running

variable {P : Robot → Prop} (noted : ∀ r n, P r → P (r.note n)) (stopped : ∀ r, P r → P r.stop)
  (ticked : ∀ r, P r → P r.tick.2)
include noted stopped ticked

theorem tickOrHalt_induct {r : Robot} (h : P r) : P r.tickOrHalt.2 := by
  have ticks := ticked r h
  unfold tickOrHalt
  split
  · next t failed =>
    rw [failed] at ticks
    exact stopped _ (noted t _ ticks)
  · next passed =>
    rw [passed] at ticks
    exact ticks

variable (advanced : ∀ (r : Robot) micros, P r → P { r with board := r.board.advance micros })
include advanced

theorem passes_induct (stepMicros n : Nat) {r : Robot} (h : P r) : P (r.passes stepMicros n).2 := by
  induction n generalizing r with
  | zero => exact h
  | succ n ih =>
    have ticks := tickOrHalt_induct noted stopped ticked (advanced r stepMicros h)
    unfold passes
    split
    · next failed =>
      rw [failed] at ticks
      exact ticks
    · next passed =>
      rw [passed] at ticks
      exact ih ticks

/-- What a pass preserves, and a note, a stop and the clock as well, is preserved by a run however it ends. -/
theorem run_induct (loopMicros stepMicros : Nat) (interruptAfter : Option Nat) {r : Robot} (h : P r) :
    P (r.run loopMicros stepMicros interruptAfter).2 := by
  let running := r.note (.running loopMicros r.control.setup.strategy r.control.period)
  have passed : P (running.passes stepMicros (interruptAfter.getD running.link.horizon)).2 :=
    passes_induct noted stopped ticked advanced _ _ (noted r _ h)
  unfold run
  dsimp only
  split
  · next failed =>
    rw [failed] at passed
    exact passed
  · next t ended =>
    rw [ended] at passed
    split
    · exact stopped _ (noted t _ passed)
    · exact passed

end Running

end Robot

end Rover
