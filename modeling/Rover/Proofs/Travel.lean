import Rover.Proofs.Cutting
import Rover.Proofs.Targets
import Rover.Proofs.Telemetry

/-!
# Where travel is measured from

A control task that comes due reads the encoders. The travel that it measures is taken from an
earlier reading, and that one is no older than the latest start: a drive that starts, and obstacle
avoidance that switches velocity control on, zero the encoders and reset the odometer in one go, and
nothing else zeroes the encoders. So the first update after a start has nothing to measure from, and
only notes where the wheels stand.
-/

namespace Rover
open Motion Wire
set_option autoImplicit false

namespace Single
open Float.Model

theorem zero_lt_of_not_le_zero {x : Float32} (number : x.isNaN = false) (h : ¬ x ≤ 0) : 0 < x := by
  rw [zero_lt_iff]
  rw [isNaN_eq] at number
  rw [le_iff] at h
  cases hx : x.toModel.unpack with
  | notANumber =>
    rw [hx] at number
    cases number
  | zero s =>
    rw [hx] at h
    exact absurd rfl h
  | infinity s | finite s m e hm =>
    rw [hx] at h
    cases s with
    | positive => rfl
    | negative => exact absurd rfl h

end Single

theorem Time.isNaN_toSeconds (t : Time) : t.toSeconds.isNaN = false := by
  have wide : 2 ^ 23 ≤ 16000000 := by decide
  have millis := Single.isNaN_single_div Single.unpack_thousand (Single.below_ofUInt32 t.millis).isNaN
  have micros := Single.below_single_div Single.unpack_million (Single.below_ofUInt32 (.ofNat t.micros)) wide
    (by decide) (by decide)
  exact Single.isNaN_single_add millis micros

namespace Motion

def Sample.travelFrom (sample earlier : Sample) : Travel where
  distance :=
    ⟨sample.distance.left - earlier.distance.left, sample.distance.right - earlier.distance.right⟩
  dt := (sample.time.since earlier.time).toSeconds

namespace Odometer

variable {odometer : Odometer} {sample : Sample}

theorem advance_of_reset (h : odometer.last = none) : odometer.advance sample = (none, ⟨some sample⟩) := by
  rw [advance, h]

theorem travelFrom_of_advance {travel : Travel} (h : (odometer.advance sample).1 = some travel) :
    ∃ earlier, odometer.last = some earlier ∧ travel = sample.travelFrom earlier ∧ 0 < travel.dt := by
  unfold advance at h
  split at h
  · cases h
  · next earlier last =>
    dsimp only at h
    split at h
    · cases h
    · next passed =>
      cases h
      exact ⟨earlier, last, rfl, Single.zero_lt_of_not_le_zero (Time.isNaN_toSeconds _) passed⟩

theorem last_advance {kept : Sample} (h : (odometer.advance sample).2.last = some kept) :
    kept = sample ∨ odometer.last = some kept := by
  unfold advance at h
  split at h
  · exact .inl (Option.some.inj h).symm
  · dsimp only at h
    split at h
    · exact .inr h
    · exact .inl (Option.some.inj h).symm

end Odometer

end Motion

/-- What bears on the travel that is measured. -/
inductive Deed where
  /-- A drive was started, or obstacle avoidance has switched velocity control on. -/
  | started
  /-- A control task came due and read the encoders. -/
  | sampled (sample : Sample)
  deriving DecidableEq

def Since (past : List Deed) (sample : Sample) : Prop :=
  ∃ before after, past = before ++ .started :: after ∧ .started ∉ after ∧ .sampled sample ∈ after

theorem exists_latest {past : List Deed} (h : .started ∈ past) :
    ∃ before after, past = before ++ .started :: after ∧ .started ∉ after := by
  obtain ⟨after, before, reversed, fresh⟩ := List.eq_append_cons_of_mem (List.mem_reverse.mpr h)
  refine ⟨before.reverse, after.reverse, ?_, fun mem => fresh (List.mem_reverse.mp mem)⟩
  rw [← past.reverse_reverse, reversed]
  simp

theorem since_sampled {past : List Deed} (h : .started ∈ past) (sample : Sample) :
    Since (past ++ [.sampled sample]) sample := by
  obtain ⟨before, after, rfl, fresh⟩ := exists_latest h
  refine ⟨before, after ++ [.sampled sample], by simp, ?_, by simp⟩
  rw [List.mem_append, not_or]
  exact ⟨fresh, nofun⟩

theorem Since.later {past : List Deed} {sample : Sample} (h : Since past sample) (other : Sample) :
    Since (past ++ [.sampled other]) sample := by
  obtain ⟨before, after, rfl, fresh, mem⟩ := h
  refine ⟨before, after ++ [.sampled other], by simp, ?_, List.mem_append_left _ mem⟩
  rw [List.mem_append, not_or]
  exact ⟨fresh, nofun⟩

theorem not_since {before after : List Deed} (unsampled : ∀ sample, .sampled sample ∉ after)
    (sample : Sample) : ¬ Since (before ++ .started :: after) sample := by
  rintro ⟨before', after', same, fresh, mem⟩
  rcases List.append_eq_append_iff.mp same with ⟨between, _, rest⟩ | ⟨between, _, rest⟩
  · cases between with
    | nil =>
      cases rest
      exact unsampled sample mem
    | cons first between =>
      cases rest
      exact unsampled sample (List.mem_append_right _ (.tail _ mem))
  · cases between with
    | nil =>
      cases rest
      exact unsampled sample mem
    | cons first between =>
      cases rest
      exact fresh (List.mem_append_right _ (.head _))

def Task.controls : List Task := [.distanceControl, .velocityControl]

theorem Task.controls_subset : ∀ task ∈ controls, task ∈ motion := by decide

/-- Only drives take up a control task. -/
theorem Task.not_taken_up {command : Command} (other : command.drives = false) {task : Task}
    (h : task ∈ controls) : task ∉ command.motionTasks := by
  cases command with
  | drive => cases other
  | duty left right limit | avoid limit =>
    cases limit <;> revert task <;> simp [controls, Command.motionTasks]
  | _ => exact List.not_mem_nil

def Board.encoders (board : Board) : Wheels Int32 × Wheels Float32 := (board.counts, board.residual)

theorem Board.follow_encoders (board : Board) (step : ControlStep) :
    (board.follow step).encoders = board.encoders := by
  cases step <;> rfl

namespace Control

def measuringFrom (c : Control) (sample : Sample) : Control := { c with odometer := ⟨some sample⟩ }

def step (c : Control) (mode : DriveMode) (sample : Sample) : ControlStep × Control :=
  match mode with
  | .distance => c.distanceStep sample
  | .velocity => c.velocityStep sample

variable (c : Control) (mode : DriveMode) {sample : Sample} {odometer : Odometer}

theorem step_of_none (h : c.odometer.advance sample = (none, odometer)) :
    c.step mode sample = (.waiting, { c with odometer }) := by
  cases mode <;> simp only [step, distanceStep, velocityStep, h]

theorem step_of_some {travel : Travel} (h : c.odometer.advance sample = (some travel, odometer)) :
    (c.step mode sample).2.odometer = odometer ∧
      ((c.step mode sample).1 = .finished ∨
        ∃ left right, (c.step mode sample).1 = .drive left right travel) := by
  cases mode with
  | distance =>
    simp only [step, distanceStep, h]
    split
    · exact ⟨rfl, .inl rfl⟩
    · exact ⟨rfl, .inr ⟨_, _, rfl⟩⟩
  | velocity =>
    simp only [step, velocityStep, h]
    exact ⟨rfl, .inr ⟨_, _, rfl⟩⟩

theorem step_odometer (sample : Sample) :
    (c.step mode sample).2.odometer = (c.odometer.advance sample).2 := by
  rcases h : c.odometer.advance sample with ⟨_ | travel, odometer⟩
  · rw [c.step_of_none mode h]
  · exact (c.step_of_some mode h).1

end Control

def Control.TakesUpNone (c d : Control) : Prop :=
  ∀ task ∈ Task.controls, d.agenda.isActive task = true → c.agenda.isActive task = true

/-- What a turn may do to the encoders, the odometer and the flags of the control tasks. -/
inductive Does (board after : Board) (c d : Control) : List Deed → Prop where
  | nothing : after.encoders = board.encoders → (d.odometer = c.odometer ∨ d.odometer = .reset) →
      c.TakesUpNone d → Does board after c d []
  | started : after.encoders = (.both 0, .both 0) → d.odometer = .reset → Does board after c d [.started]
  | sampled {sample : Sample} : after.encoders = board.encoders →
      (∃ task ∈ Task.controls, c.agenda.isActive task = true) →
      (d.odometer = (c.odometer.advance sample).2 ∨ d.odometer = .reset) → c.TakesUpNone d →
      Does board after c d [.sampled sample]

theorem Does.encoders_eq {board after : Board} {c d : Control} {deeds : List Deed}
    (h : Does board after c d deeds) :
    after.encoders = if .started ∈ deeds then (.both 0, .both 0) else board.encoders := by
  cases h with
  | nothing encoders => exact encoders
  | started encoders => exact encoders
  | sampled encoders => exact encoders

theorem Control.takesUpNone_of_inactive {c d : Control}
    (h : ∀ task ∈ Task.controls, d.agenda.isActive task = false) : c.TakesUpNone d := by
  intro task hTask on
  rw [h task hTask] at on
  cases on

namespace Robot

def startsDrive (r : Robot) : Bool :=
  r.link.inbox.next?.any fun command =>
    command.drives && (command.refusal? r.control.battery.volts).isNone

def engages (r : Robot) : Bool := (r.control.avoidance.tick r.board).1.any Decision.engage

def taskDeeds (r : Robot) (now : Time) : Task → List Deed
  | .distanceControl | .velocityControl => [.sampled (r.sampleAt now)]
  | .avoidance => if r.engages then [.started] else []
  | _ => []

theorem obeys_iff {r : Robot} {command : Command} :
    r.Obeys command ↔
      r.link.inbox.next? = some command ∧ command.refusal? r.control.battery.volts = none := by
  rw [Inbox.next?_eq_some_iff]
  constructor
  · rintro ⟨letter, _, offers, ok⟩
    exact ⟨⟨letter, offers⟩, (carryOut_eq_ok_iff.mp ok).1⟩
  · rintro ⟨⟨letter, offers⟩, accepted⟩
    exact ⟨letter, _, offers, carryOut_eq_ok_iff.mpr ⟨accepted, rfl⟩⟩

theorem startsDrive_iff {r : Robot} :
    r.startsDrive = true ↔ ∃ command, r.Obeys command ∧ command.drives = true := by
  simp only [startsDrive, Option.any_eq_true, Bool.and_eq_true, Option.isNone_iff_eq_none, obeys_iff]
  constructor
  · rintro ⟨command, next, drives, accepted⟩
    exact ⟨command, ⟨next, accepted⟩, drives⟩
  · rintro ⟨command, ⟨next, accepted⟩, drives⟩
    exact ⟨command, next, drives, accepted⟩

section Doing

variable (r : Robot)

theorem perform_board_update (mode : DriveMode) (now : Time) :
    (r.perform (Control.controlTask mode) now).board =
      r.board.follow (r.control.step mode (r.sampleAt now)).1 := by
  cases mode with
  | distance => exact r.controlDistance_board now
  | velocity => exact r.controlVelocity_board now

theorem does_nothing_of_motionPart {t : Robot} (h : t.motionPart = r.motionPart) :
    Does r.board t.board r.control t.control [] := by
  refine .nothing ?_ (.inl (congrArg MotionPart.odometer h)) ?_
  · exact congrArg (fun part => part.board.encoders) h
  · intro task hTask on
    have mine : task ∈ motionFlags := List.mem_append_right _ (Task.controls_subset task hTask)
    rwa [← isActive_of_get (get_eq_of_motionPart h mine)]

theorem does_nothing_of_stop : Does r.board r.stop.board r.control r.stop.control [] := by
  rw [stop_board, stop_control]
  refine .nothing rfl (.inr rfl) (Control.takesUpNone_of_inactive ?_)
  exact fun task hTask => Control.stop_inactive _ (Task.controls_subset task hTask)

theorem takesUpNone_comply (letter : UInt8) {command : Command} (moves : command.moves = true)
    (other : command.drives = false) : r.control.TakesUpNone (r.comply letter command).control := by
  intro task hTask on
  exact absurd ((r.comply_isActive letter moves (Task.controls_subset task hTask)).mp on)
    (Task.not_taken_up other hTask)

theorem does_comply (letter : UInt8) (command : Command) :
    Does r.board (r.comply letter command).board r.control (r.comply letter command).control
      (if command.drives then [.started] else []) := by
  cases command with
  | drive mode linear angular limit =>
    refine .started ?_ (r.comply_drive_targets letter mode linear angular limit).2.2
    rw [comply_drive_board]
    rfl
  | stop => exact r.does_nothing_of_stop
  | duty left right limit =>
    refine .nothing ?_ (.inl ?_) (r.takesUpNone_comply letter rfl rfl)
    · rw [comply_duty_board]
      rfl
    · rw [comply_duty_control]
      cases limit <;> rfl
  | avoid limit =>
    refine .nothing ?_ (.inl ?_) (r.takesUpNone_comply letter rfl rfl)
    · rw [comply_avoid_board]
    · rw [comply_avoid_control]
      cases limit <;> rfl
  | _ => exact r.does_nothing_of_motionPart (comply_motionPart r letter rfl nofun)

theorem does_poll :
    Does r.board r.poll.board r.control r.poll.control (if r.startsDrive then [.started] else []) := by
  rcases Classical.em (∃ command, r.Obeys command) with ⟨command, obeys⟩ | none
  · obtain ⟨letter, _, _, hPoll⟩ := poll_of_obeys obeys
    have drives : r.startsDrive = command.drives := by
      rw [startsDrive, (obeys_iff.mp obeys).1]
      simp [(obeys_iff.mp obeys).2]
    rw [drives, hPoll]
    exact (r.received letter).does_comply letter command
  · have still : r.startsDrive = false := by
      rw [Bool.eq_false_iff]
      intro starts
      obtain ⟨command, obeys, _⟩ := startsDrive_iff.mp starts
      exact none ⟨command, obeys⟩
    obtain ⟨control, board⟩ := poll_of_not_obeys (not_exists.mp none)
    rw [still, control, board]
    exact .nothing rfl (.inl rfl) fun _ _ => id

theorem takesUpNone_perform {task : Task} (other : ∀ control ∈ Task.controls, control ∉ task.touches)
    (now : Time) : r.control.TakesUpNone (r.perform task now).control := by
  intro control hControl on
  rwa [← isActive_of_get (perform_get (other control hControl) now)]

theorem takesUpNone_update {task : Task} (hTask : task ∈ Task.controls) {now : Time}
    (due : r.control.agenda.due task now = true) : r.control.TakesUpNone (r.perform task now).control := by
  intro control hControl on
  by_cases own : control = task
  · exact own ▸ Agenda.active_of_due due
  · have apart : control ∉ task.touches := by
      revert hTask hControl own
      cases task <;> cases control <;> decide
    rwa [← isActive_of_get (perform_get apart now)]

theorem does_update (mode : DriveMode) {now : Time}
    (due : r.control.agenda.due (Control.controlTask mode) now = true) :
    Does r.board (r.perform (Control.controlTask mode) now).board r.control
      (r.perform (Control.controlTask mode) now).control [.sampled (r.sampleAt now)] := by
  have control : Control.controlTask mode ∈ Task.controls := by cases mode <;> decide
  have on : ∃ task ∈ Task.controls, r.control.agenda.isActive task = true :=
    ⟨_, control, Agenda.active_of_due due⟩
  refine .sampled ?_ on ?_ (r.takesUpNone_update control due)
  · rw [r.perform_board_update]
    exact Board.follow_encoders _ _
  · cases mode with
    | distance =>
      rw [Control.controlTask, perform, controlDistance_control]
      split
      · exact .inr rfl
      · exact .inl (r.control.step_odometer .distance _)
    | velocity =>
      rw [Control.controlTask, perform, controlVelocity_control]
      exact .inl (r.control.step_odometer .velocity _)

theorem does_avoid (now : Time) :
    Does r.board (r.avoidObstacles now).board r.control (r.avoidObstacles now).control
      (if r.engages then [.started] else []) := by
  have encoders : (r.control.avoidance.tick r.board).2.2.encoders = r.board.encoders := by
    rw [Avoidance.tick]
    split <;> rfl
  have others {c : Control} (same : c.agenda = r.control.agenda) :
      r.control.TakesUpNone (c.arm .avoidance (·.retrigger now)) := by
    intro task hTask on
    have apart : task ≠ .avoidance := by
      rintro rfl
      revert hTask
      decide
    rwa [Agenda.isActive, Control.arm_get, if_neg apart, same] at on
  cases hDecision : (r.control.avoidance.tick r.board).1 with
  | none =>
    obtain ⟨control, board⟩ := r.avoidObstacles_of_none now hDecision
    rw [engages, hDecision, control, board]
    exact .nothing encoders (.inl rfl) (others rfl)
  | some decision =>
    cases hEngage : decision.engage with
    | true =>
      obtain ⟨control, board⟩ := r.avoidObstacles_of_engage now hDecision hEngage
      rw [engages, hDecision, Option.any_some, hEngage, control, board]
      exact .started rfl rfl
    | false =>
      obtain ⟨control, board⟩ := r.avoidObstacles_of_steer now hDecision hEngage
      rw [engages, hDecision, Option.any_some, hEngage, control, board]
      exact .nothing encoders (.inl rfl) (others rfl)

theorem does_perform (task : Task) {now : Time} (due : r.control.agenda.due task now = true) :
    Does r.board (r.perform task now).board r.control (r.perform task now).control (r.taskDeeds now task) := by
  cases task
  case restart =>
    refine .nothing ?_ (.inr rfl) (Control.takesUpNone_of_inactive ?_)
    · have board : (r.perform .restart now).board = r.board.halt.setLight .red false :=
        (r.note .restarting).stop_board
      rw [board]
      rfl
    · intro task hTask
      exact Control.fresh_inactive _ _ (by revert task; decide)
  case batteryTask =>
    obtain ⟨_, _, control⟩ := r.sampleBattery_control now
    refine .nothing ?_ (.inl ?_) (r.takesUpNone_perform (by decide) now)
    · exact congrArg Board.encoders (r.sampleBattery_board now)
    · rw [perform, control]
  case lowBattery =>
    refine .nothing ?_ (.inl ?_) (r.takesUpNone_perform (by decide) now)
    · simp [perform, warnBattery]
    · simp [perform, warnBattery, Control.arm]
  case timedDuty =>
    refine .nothing ?_ (.inl ?_) (r.takesUpNone_perform (by decide) now)
    · simp only [perform, arm_board, halt_board, note_board]
      rfl
    · simp [perform, Control.arm]
  case distanceControl => exact r.does_update .distance due
  case velocityControl => exact r.does_update .velocity due
  case stopTimer => exact (r.note .stopExpired).does_nothing_of_stop
  case avoidance => exact r.does_avoid now
  all_goals exact r.does_nothing_of_motionPart (perform_motionPart (by decide) now)

end Doing

end Robot

/-- A control task is on only after a start, and travel is measured from a sample taken after the
latest one. -/
structure Told (past : List Deed) (c : Control) : Prop where
  started : ∀ task ∈ Task.controls, c.agenda.isActive task = true → .started ∈ past
  since : ∀ sample, c.odometer.last = some sample → Since past sample

theorem Told.does {past deeds : List Deed} {board after : Board} {c d : Control} (h : Told past c)
    (does : Does board after c d deeds) : Told (past ++ deeds) d := by
  cases does with
  | nothing _ odometer flags =>
    rw [List.append_nil]
    refine ⟨fun task hTask on => h.started task hTask (flags task hTask on), ?_⟩
    intro sample last
    obtain same | reset := odometer
    · exact h.since sample (same ▸ last)
    · rw [reset] at last
      cases last
  | started _ odometer =>
    refine ⟨fun _ _ _ => List.mem_append_right _ (.head _), ?_⟩
    intro sample last
    rw [odometer] at last
    cases last
  | @sampled next _ on odometer flags =>
    refine ⟨fun task hTask on => List.mem_append_left _ (h.started task hTask (flags task hTask on)), ?_⟩
    intro sample last
    obtain advanced | reset := odometer
    · rw [advanced] at last
      obtain rfl | kept := Odometer.last_advance last
      · obtain ⟨task, hTask, active⟩ := on
        exact since_sampled (h.started task hTask active) sample
      · exact (h.since sample kept).later next
    · rw [reset] at last
      cases last

/-- What a run is made of. -/
inductive Turn where
  | serve (s : Surroundings)
  | dispatch
  | task (task : Task) (now : Time)

namespace Robot

def turn (r : Robot) : Turn → Robot
  | .serve s => r.served s
  | .dispatch => r.poll
  | .task task now => performDue now r task

def turnAll (r : Robot) (turns : List Turn) : Robot := turns.foldl turn r

def deeds (r : Robot) : Turn → List Deed
  | .serve _ => []
  | .dispatch => if r.startsDrive then [.started] else []
  | .task task now => if r.control.agenda.due task now then r.taskDeeds now task else []

def deedsAlong : Robot → List Turn → List Deed
  | _, [] => []
  | r, turn :: turns => r.deeds turn ++ deedsAlong (r.turn turn) turns

/-- The turns of a pass; nobody but board and link gets one when the link fails. -/
def turnsOf (r : Robot) (s : Surroundings) : List Turn :=
  if r.Succeeds s then .serve s :: .dispatch :: taskOrder.map (.task · s.clock) else [.serve s]

def turnsAlong : Robot → List Surroundings → List Turn
  | _, [] => []
  | r, s :: run => r.turnsOf s ++ turnsAlong (r.pass s) run

/-- The turns of a run and of one more pass, up to the turn of a task in it. -/
def turnsUntil (r : Robot) (run : List Surroundings) (s : Surroundings) (task : Task) : List Turn :=
  r.turnsAlong run ++ .serve s :: .dispatch :: (taskOrder.takeWhile (· != task)).map (.task · s.clock)

variable {r : Robot}

theorem does_turn {turn : Turn} (other : ∀ s, turn ≠ .serve s) :
    Does r.board (r.turn turn).board r.control (r.turn turn).control (r.deeds turn) := by
  cases turn with
  | serve s => exact absurd rfl (other s)
  | dispatch => exact r.does_poll
  | task task now =>
    rw [turn, deeds]
    split
    · next due =>
      rw [performDue_of_due due]
      exact r.does_perform task due
    · next idle =>
      rw [performDue_of_not_due idle]
      exact .nothing rfl (.inl rfl) fun _ _ => id

theorem told_turn {past : List Deed} (h : Told past r.control) (turn : Turn) :
    Told (past ++ r.deeds turn) (r.turn turn).control := by
  cases turn with
  | serve s => rwa [deeds, List.append_nil]
  | dispatch => exact h.does (does_turn nofun)
  | task task now => exact h.does (does_turn nofun)

theorem told_turnAll {past : List Deed} (h : Told past r.control) (turns : List Turn) :
    Told (past ++ r.deedsAlong turns) (r.turnAll turns).control := by
  induction turns generalizing r past with
  | nil => rwa [deedsAlong, List.append_nil]
  | cons turn turns ih =>
    rw [deedsAlong, ← List.append_assoc]
    exact ih (told_turn h turn)

theorem turnAll_append (r : Robot) (turns later : List Turn) :
    r.turnAll (turns ++ later) = (r.turnAll turns).turnAll later := List.foldl_append

theorem turnAll_tasks (r : Robot) (tasks : List Task) (now : Time) :
    r.turnAll (tasks.map (.task · now)) = tasks.foldl (performDue now) r := List.foldl_map

/-- Once board and link are served, the dispatcher's turn comes and then those of tasks. -/
theorem turnAll_pass (r : Robot) (s : Surroundings) (tasks : List Task) :
    r.turnAll (.serve s :: .dispatch :: tasks.map (.task · s.clock)) =
      tasks.foldl (performDue s.clock) (r.polled s) :=
  (r.polled s).turnAll_tasks tasks s.clock

theorem turnAll_turnsOf (s : Surroundings) : r.turnAll (r.turnsOf s) = r.pass s := by
  rw [turnsOf]
  split
  · next ok => rw [turnAll_pass, pass_of_succeeds ok, sweep, polled_clock]
  · next failed => exact (pass_of_fails failed).symm

theorem turnAll_turnsAlong (run : List Surroundings) : r.turnAll (r.turnsAlong run) = r.passAll run := by
  induction run generalizing r with
  | nil => rfl
  | cons s run ih =>
    rw [turnsAlong, turnAll_append, turnAll_turnsOf, ih]
    rfl

theorem turnAll_turnsUntil (run : List Surroundings) (s : Surroundings) (task : Task) :
    r.turnAll (r.turnsUntil run s task) = ((r.passAll run).polled s).atTurn task := by
  rw [turnsUntil, turnAll_append, turnAll_turnsAlong, turnAll_pass, atTurn, polled_clock]

theorem told_of_start {settings : Settings} {board : Board} {link : Link}
    (h : Robot.start settings board link = .ok r) : Told [] r.control := by
  constructor
  · intro task hTask on
    rw [inactive_of_start h (by rintro rfl; revert hTask; decide)] at on
    cases on
  · intro sample last
    obtain ⟨_, _, _, control, _⟩ := start_control h
    rw [control] at last
    cases last

theorem perform_of_unread {mode : DriveMode} {now : Time} (unread : r.control.odometer.last = none) :
    (r.control.step mode (r.sampleAt now)).1 = .waiting ∧
      (r.perform (Control.controlTask mode) now).board = r.board ∧
      (r.perform (Control.controlTask mode) now).control =
        (r.control.measuringFrom (r.sampleAt now)).arm (Control.controlTask mode) (·.retrigger now) := by
  have noted : r.control.odometer.advance (r.sampleAt now) = (none, ⟨some (r.sampleAt now)⟩) :=
    Odometer.advance_of_reset unread
  have step := r.control.step_of_none mode noted
  have waiting : (r.control.step mode (r.sampleAt now)).1 = .waiting := by rw [step]
  refine ⟨waiting, ?_, ?_⟩
  · rw [perform_board_update, waiting]
    rfl
  · cases mode with
    | distance =>
      have control := (r.controlDistance_of_waiting now waiting).1
      rw [Control.controlTask, perform, control]
      exact congrArg (fun step => step.2.arm .distanceControl (·.retrigger now)) step
    | velocity =>
      rw [Control.controlTask, perform, controlVelocity_control]
      exact congrArg (fun step => step.2.arm .velocityControl (·.retrigger now)) step

/-- Travel is measured between two samples that are both taken after the latest start, in a time that
has passed between them. The first update after a start drives nothing and only records a sample. And
encoders are zeroed by starts alone, be it a drive that is carried out or obstacle avoidance that
switches velocity control on. -/
theorem travel_since_start {settings : Settings} {board : Board} {link : Link}
    (hStart : Robot.start settings board link = .ok r) (run : List Surroundings) (s : Surroundings)
    (mode : DriveMode) :
    let t := ((r.passAll run).polled s).atTurn (Control.controlTask mode)
    let sample := t.sampleAt s.clock
    let past := r.deedsAlong (r.turnsUntil run s (Control.controlTask mode))
    ((t.control.step mode sample).1 ≠ .waiting →
      ∃ before after earlier travel,
        past = before ++ .started :: after ∧ .started ∉ after ∧ .sampled earlier ∈ after ∧
        (t.control.odometer.advance sample).1 = some travel ∧ travel = sample.travelFrom earlier ∧
        0 < travel.dt ∧
        ∀ left right used, (t.control.step mode sample).1 = .drive left right used → used = travel) ∧
    (∀ before after, past = before ++ .started :: after → (∀ earlier, .sampled earlier ∉ after) →
      (t.control.step mode sample).1 = .waiting ∧
        (t.perform (Control.controlTask mode) s.clock).board = t.board ∧
        (t.perform (Control.controlTask mode) s.clock).control =
          (t.control.measuringFrom sample).arm (Control.controlTask mode) (·.retrigger s.clock)) ∧
    (∀ (t : Robot) (turn : Turn), (∀ s, turn ≠ .serve s) →
      (t.turn turn).board.encoders = if .started ∈ t.deeds turn then (.both 0, .both 0) else t.board.encoders) ∧
    ∀ t : Robot, .started ∈ t.deeds .dispatch ↔ ∃ command, t.Obeys command ∧ command.drives = true := by
  intro t sample past
  have told : Told past t.control := by
    have along := told_turnAll (told_of_start hStart) (r.turnsUntil run s (Control.controlTask mode))
    rwa [List.nil_append, turnAll_turnsUntil] at along
  refine ⟨?_, ?_, fun t turn other => (does_turn other).encoders_eq, ?_⟩
  · intro moved
    rcases hAdvance : t.control.odometer.advance sample with ⟨_ | travel, odometer⟩
    · rw [t.control.step_of_none mode hAdvance] at moved
      exact absurd rfl moved
    · have advanced : (t.control.odometer.advance sample).1 = some travel := by rw [hAdvance]
      obtain ⟨earlier, last, measured, passed⟩ := Odometer.travelFrom_of_advance advanced
      obtain ⟨before, after, latest, fresh, mem⟩ := told.since earlier last
      refine ⟨before, after, earlier, travel, latest, fresh, mem, rfl, measured, passed, ?_⟩
      intro left right used drive
      obtain finished | ⟨_, _, asked⟩ := (t.control.step_of_some mode hAdvance).2
      · cases drive.symm.trans finished
      · cases drive.symm.trans asked
        rfl
  · intro before after latest unsampled
    apply perform_of_unread
    rw [Option.eq_none_iff_forall_ne_some]
    intro earlier last
    exact not_since unsampled earlier (latest ▸ told.since earlier last)
  · intro t
    rw [← startsDrive_iff, deeds]
    split <;> simp [*]

/-- A drive, then duty cycles, then a second drive: the odometer still holds a sample of the first
when the second is accepted. -/
theorem travel_since_start_powerOn :
    let drive (millis : UInt32) : Surroundings :=
      { clock := .ofMillis millis, arriving := [0x76, 0, 0, 0x80, 0x3f, 0, 0, 0, 0] }
    let run := [drive 10, { clock := .ofMillis 20, arriving := [0x70, 50, 0, 50, 0] }]
    let again := drive 30
    let next : Surroundings := { clock := .ofMillis 40 }
    let first := ((powerOn.passAll run).polled again).atTurn (Control.controlTask .velocity)
    let second := ((powerOn.passAll (run ++ [again])).polled next).atTurn (Control.controlTask .velocity)
    (powerOn.passAll run).control.odometer ≠ .reset ∧
      first.control.agenda.due .velocityControl again.clock = true ∧
      (first.control.step .velocity (first.sampleAt again.clock)).1 = .waiting ∧
      (first.perform .velocityControl again.clock).board = first.board ∧
      second.control.agenda.due .velocityControl next.clock = true ∧
      (second.control.step .velocity (second.sampleAt next.clock)).1 ≠ .waiting ∧
      ∃ earlier travel, travel = (second.sampleAt next.clock).travelFrom earlier ∧ 0 < travel.dt ∧
        ∀ left right used, (second.control.step .velocity (second.sampleAt next.clock)).1 =
          .drive left right used → used = travel := by
  intro drive run again next first second
  obtain ⟨_, starting, _⟩ := travel_since_start start_powerOn run again .velocity
  obtain ⟨driving, _⟩ := travel_since_start start_powerOn (run ++ [again]) next .velocity
  have latest : powerOn.deedsAlong (powerOn.turnsUntil run again .velocityControl) =
      (powerOn.deedsAlong (powerOn.turnsUntil run again .velocityControl)).dropLast ++ [.started] := by
    decide +kernel
  obtain ⟨waiting, board, _⟩ := starting _ [] latest nofun
  have moved : (second.control.step .velocity (second.sampleAt next.clock)).1 ≠ .waiting := by
    decide +kernel
  obtain ⟨_, _, earlier, travel, _, _, _, _, measured, passed, asked⟩ := driving moved
  have before : (powerOn.passAll run).control.odometer ≠ .reset := by decide +kernel
  have firstDue : first.control.agenda.due .velocityControl again.clock = true := by decide +kernel
  have secondDue : second.control.agenda.due .velocityControl next.clock = true := by decide +kernel
  exact ⟨before, firstDue, waiting, board, secondDue, moved, earlier, travel, measured, passed, asked⟩

end Robot

end Rover
