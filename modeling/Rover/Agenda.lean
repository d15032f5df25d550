import Rover.Time

/-!
# The agenda

Whatever the rover does in its loop is a task, and each task has one flag. A flag with a negative
duration is due at once; any other is due when its duration, in milliseconds, has passed since it
was last triggered. Whoever carries out a task must retire its flag or trigger it anew, or the task
is due again on the next loop.
-/

namespace Rover
set_option autoImplicit false

inductive Task where
  | restart
  | loopTimer
  | floatTrip
  | clockReport
  | encoderReport
  | batteryReport
  | lowBattery
  | batteryTask
  | timedDuty
  | statusReport
  | distanceControl
  | velocityControl
  | stopTimer
  | proximityReport
  | avoidance
  deriving DecidableEq, Repr

namespace Task

def all : List Task :=
  [restart, loopTimer, floatTrip, clockReport, encoderReport, batteryReport, lowBattery, batteryTask,
    timedDuty, statusReport, distanceControl, velocityControl, stopTimer, proximityReport, avoidance]

def motion : List Task := [distanceControl, velocityControl, stopTimer, timedDuty, avoidance]

abbrev count : Nat := 15

def index (task : Task) : Fin count := ⟨task.ctorIdx, by cases task <;> decide⟩

theorem index_injective {s t : Task} (h : s.index = t.index) : s = t := by
  cases s <;> cases t <;> first | rfl | exact absurd h (by decide)

theorem mem_all (t : Task) : t ∈ all := by cases t <;> decide

theorem index_surjective : ∀ i : Fin count, ∃ t ∈ all, t.index = i := by decide

end Task

structure Flag where
  active : Bool
  /-- Milliseconds between triggers; a negative duration asks for a single run. -/
  duration : Float32
  lastTrigger : Time
  deriving DecidableEq, Repr

namespace Flag

def inactive : Flag := ⟨false, -1, .zero⟩

def isOneShot (flag : Flag) : Bool := flag.duration < 0

def due (flag : Flag) (now : Time) : Bool :=
  flag.active && (flag.isOneShot || (now.since flag.lastTrigger).toMillis ≥ flag.duration)

def once (flag : Flag) : Flag := { flag with active := true, duration := -1 }

/-- The last trigger is kept, so a flag that has been idle for long is due at once. -/
def every (flag : Flag) (millis : Float32) : Flag := { flag with active := true, duration := millis }

def timer (flag : Flag) (millis : Float32) (now : Time) : Flag :=
  { flag.every millis with lastTrigger := now }

def retrigger (flag : Flag) (now : Time) : Flag := { flag with lastTrigger := now }

def retire (flag : Flag) : Flag := { flag with active := false }

def complete (flag : Flag) (now : Time) : Flag :=
  if flag.isOneShot then flag.retire else flag.retrigger now

end Flag

structure Agenda where
  flags : Vector Flag Task.count
  deriving DecidableEq, Repr

namespace Agenda

def empty : Agenda := ⟨Vector.replicate Task.count .inactive⟩

def get (agenda : Agenda) (task : Task) : Flag := agenda.flags[task.index]

def set (agenda : Agenda) (task : Task) (flag : Flag) : Agenda :=
  ⟨agenda.flags.set task.index flag⟩

def modify (agenda : Agenda) (task : Task) (f : Flag → Flag) : Agenda :=
  agenda.set task (f (agenda.get task))

def isActive (agenda : Agenda) (task : Task) : Bool := (agenda.get task).active

def due (agenda : Agenda) (task : Task) (now : Time) : Bool := (agenda.get task).due now

def retireAll (agenda : Agenda) (tasks : List Task) : Agenda :=
  tasks.foldl (fun agenda task => agenda.modify task .retire) agenda

def activeTasks (agenda : Agenda) : List Task := Task.all.filter agenda.isActive

@[simp] theorem get_empty (task : Task) : empty.get task = .inactive := by
  simp [get, empty]

@[simp] theorem get_set_self (agenda : Agenda) (task : Task) (flag : Flag) :
    (agenda.set task flag).get task = flag := by
  simp [get, set]

theorem get_set_of_ne (agenda : Agenda) {task other : Task} (flag : Flag) (h : other ≠ task) :
    (agenda.set task flag).get other = agenda.get other := by
  have apart : task.index ≠ other.index := fun e => h (Task.index_injective e).symm
  have apart' : task.index.val ≠ other.index.val := fun e => apart (Fin.ext e)
  simp [get, set, apart']

theorem get_modify (agenda : Agenda) (task other : Task) (f : Flag → Flag) :
    (agenda.modify task f).get other =
      if other = task then f (agenda.get task) else agenda.get other := by
  split
  · next h => subst h; exact get_set_self ..
  · next h => exact get_set_of_ne _ _ h

theorem get_retireAll (agenda : Agenda) (tasks : List Task) (task : Task) :
    (agenda.retireAll tasks).get task =
      if task ∈ tasks then (agenda.get task).retire else agenda.get task := by
  unfold retireAll
  induction tasks generalizing agenda with
  | nil => simp
  | cons first rest ih =>
    rw [List.foldl_cons, ih, get_modify]
    by_cases same : task = first
    · subst same; simp [Flag.retire]
    · simp [same]

theorem ext {a b : Agenda} (h : ∀ task, a.get task = b.get task) : a = b := by
  obtain ⟨a⟩ := a
  obtain ⟨b⟩ := b
  congr 1
  ext i hi
  obtain ⟨task, _, ht⟩ := Task.index_surjective ⟨i, hi⟩
  have := h task
  simpa [get, ht] using this

end Agenda

end Rover
