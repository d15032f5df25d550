import Rover.Proofs.Pass
import Rover.Proofs.Spelling

/-!
# Orders: commands that the dispatcher takes up

A whole frame at the front of the inbox always spells a command, and the command is carried out
unless there is a reason to refuse it. `Command.refusal?` gives that reason and `Robot.comply` the
effect of a command that is carried out, so that the dispatcher's turn is a choice between a few
plain equations. What no such effect and no task destroys holds of the control state all along.
-/

namespace Rover
open Motion Wire
set_option autoImplicit false

namespace Wire

/-- A whole frame stands at the front of the inbox and spells this command. -/
structure Inbox.Offers (inbox : Inbox) (letter : UInt8) (command : Command) : Prop where
  first : inbox.peek? = some letter
  whole : frameLength letter ≤ inbox.size
  decoded : Command.decode (inbox.bytes.take (frameLength letter)) = some command

theorem Inbox.Offers.known {inbox : Inbox} {letter : UInt8} {command : Command}
    (h : inbox.Offers letter command) : frameLength letter ≠ 0 := by
  intro hZero
  have hDecoded := h.decoded
  rw [hZero] at hDecoded
  cases hDecoded

theorem Inbox.Offers.unique {inbox : Inbox} {letter other : UInt8} {command order : Command}
    (h : inbox.Offers letter command) (hOther : inbox.Offers other order) :
    other = letter ∧ order = command := by
  have same : other = letter := Option.some.inj (hOther.first.symm.trans h.first)
  subst same
  exact ⟨rfl, Option.some.inj (hOther.decoded.symm.trans h.decoded)⟩

theorem Inbox.Offers.spelled {inbox : Inbox} {letter : UInt8} {command : Command}
    (h : inbox.Offers letter command) : Head.ofByte? letter = some command.head := by
  obtain ⟨rest, hBytes⟩ := List.head?_eq_some_iff.mp h.first
  obtain ⟨n, hLength⟩ := Nat.exists_eq_succ_of_ne_zero h.known
  have decoded := h.decoded
  rw [hBytes, hLength, List.take_succ_cons] at decoded
  exact (Command.eq_of_decode decoded).1

/-- A frame that has arrived whole is never undecodable. -/
theorem Inbox.exists_offers {inbox : Inbox} {letter : UInt8} (first : inbox.peek? = some letter)
    (known : frameLength letter ≠ 0) (whole : frameLength letter ≤ inbox.size) :
    ∃ command, inbox.Offers letter command := by
  obtain ⟨rest, hBytes⟩ := List.head?_eq_some_iff.mp first
  obtain ⟨n, hLength⟩ := Nat.exists_eq_succ_of_ne_zero known
  have hRest : frameLength letter ≤ (rest.take n).length + 1 := by
    rw [Inbox.size, hBytes, hLength, List.length_cons] at whole
    rw [hLength, List.length_take]
    omega
  obtain ⟨command, hCommand⟩ := Command.decode_of_le known hRest
  refine ⟨command, first, whole, ?_⟩
  rw [hBytes, hLength, List.take_succ_cons]
  exact hCommand

end Wire

namespace Wire.Command

def moves : Command → Bool
  | .duty .. | .drive .. | .avoid .. => true
  | _ => false

/-- The task that ends a movement of limited time, and the limit in seconds. -/
def ending? : Command → Option (Task × FloatWord)
  | .duty _ _ limit => limit.map (.timedDuty, ·)
  | .drive _ _ _ limit | .avoid limit => limit.map (.stopTimer, ·)
  | _ => none

def motionTasks : Command → List Task
  | .duty _ _ limit => if limit.isSome then [.timedDuty] else []
  | .drive mode _ _ limit => Control.controlTask mode :: if limit.isSome then [.stopTimer] else []
  | .avoid limit => .avoidance :: if limit.isSome then [.stopTimer] else []
  | _ => []

def refusalOfSeconds? (seconds? : Option FloatWord) : Option Refusal :=
  if seconds?.all fun seconds => seconds.value > 0 then none else some .badInput

def refusalOfPower? (volts : Float32) : Option Refusal :=
  match Power.ofVolts volts with
  | .ok => none
  | .low => some (.batteryLow volts)
  | .off => some (.powerOff volts)

/-- Why a command is refused at this voltage, if it is. -/
def refusal? (volts : Float32) : Command → Option Refusal
  | .restart | .stop => none
  | .arithmetic op _ rhs => if op = .divide ∧ (rhs.value == 0) = true then some .divideByZero else none
  | .time action period => if action > 2 then some .badInput else refusalOfSeconds? period
  | .report _ period => refusalOfSeconds? period
  | .duty _ _ limit | .drive _ _ _ limit | .avoid limit =>
    (refusalOfPower? volts).or (refusalOfSeconds? limit)

end Wire.Command

theorem Wire.Timing.ofByte?_eq_none_iff {action : UInt8} : Timing.ofByte? action = none ↔ action > 2 := by
  unfold ofByte?
  split
  case h_4 zero one two =>
    have zero : action.toNat ≠ 0 := fun e => zero (UInt8.toNat_inj.mp e)
    have one : action.toNat ≠ 1 := fun e => one (UInt8.toNat_inj.mp e)
    have two : action.toNat ≠ 2 := fun e => two (UInt8.toNat_inj.mp e)
    exact iff_of_true rfl (UInt8.lt_iff_toNat_lt.mpr (show 2 < action.toNat by omega))
  all_goals exact iff_of_false (Option.some_ne_none _) (by decide)

def Wire.Operation.apply : Operation → Float32 → Float32 → Float32
  | .multiply, lhs, rhs => lhs * rhs
  | .divide, lhs, rhs => lhs / rhs
  | .add, lhs, rhs => lhs + rhs
  | .subtract, lhs, rhs => lhs - rhs

/-- A flag for one report, or for one every so many seconds. -/
def Flag.asked (seconds? : Option FloatWord) (flag : Flag) : Flag :=
  match seconds? with
  | none => flag.once
  | some seconds => flag.every (seconds.value * 1000)

namespace Robot

/-- The effect of a command that is not refused. -/
def comply (r : Robot) (letter : UInt8) : Command → Robot
  | .restart => (r.note .restartRequested).arm .restart .once
  | .arithmetic op lhs rhs => r.send (.float letter (op.apply lhs.value rhs.value))
  | .time action period =>
    match Timing.ofByte? action with
    | none => r
    | some timing => (r.arm (timingTask timing) (·.asked period)).forgetStart timing
  | .report stream period => r.arm (streamTask stream) (·.asked period)
  | .duty left right limit =>
    let r := (r.setControl r.control.retireMotion).drive left right
    match limit with
    | none => r
    | some seconds => r.arm .timedDuty (·.timer (seconds.value * 1000) r.board.clock)
  | .stop => r.stop
  | .drive mode linear angular limit =>
    let plan := plan .standard mode linear.value angular.value
    let r := if r.control.setup.diagnostics then r.send (.text letter (maneuverText plan.maneuver)) else r
    (r.startDrive mode plan).armStopTimer (limit.map FloatWord.value)
  | .avoid limit =>
    ((r.note .avoidanceStarted).setControl r.control.startAvoidance).armStopTimer
      (limit.map FloatWord.value)

theorem limit_eq (limit : Option FloatWord) :
    Robot.limit limit = match Command.refusalOfSeconds? limit with
      | some refusal => .error refusal
      | none => .ok (limit.map FloatWord.value) := by
  cases limit with
  | none => rfl
  | some seconds =>
    by_cases h : seconds.value > 0 <;> simp [Robot.limit, positive, Command.refusalOfSeconds?, h, Except.map]

theorem armReport_eq (r : Robot) (task : Task) (period : Option FloatWord) :
    r.armReport task period = match Command.refusalOfSeconds? period with
      | some refusal => .error refusal
      | none => .ok (r.arm task (·.asked period)) := by
  cases period with
  | none => rfl
  | some seconds =>
    by_cases h : seconds.value > 0
    · simp [armReport, positive, Command.refusalOfSeconds?, h, Flag.asked, bind, Except.bind, pure, Except.pure]
    · simp [armReport, positive, Command.refusalOfSeconds?, h, bind, Except.bind]

theorem checkPower_eq (r : Robot) :
    r.checkPower = match Command.refusalOfPower? r.control.battery.volts with
      | some refusal => .error refusal
      | none => .ok () := by
  unfold checkPower Command.refusalOfPower? Battery.power
  cases Power.ofVolts r.control.battery.volts <;> rfl

theorem compute_eq (op : Operation) (lhs rhs : Float32) :
    compute op lhs rhs =
      if op = .divide ∧ (rhs == 0) = true then .error .divideByZero else .ok (op.apply lhs rhs) := by
  cases op
  case divide => by_cases h : (rhs == 0) = true <;> simp [compute, Operation.apply, h]
  all_goals rfl

/-- Carrying out a command is refusing it, with no effect, or complying with it. -/
theorem carryOut_eq (r : Robot) (letter : UInt8) (command : Command) :
    r.carryOut letter command = match command.refusal? r.control.battery.volts with
      | some refusal => .error refusal
      | none => .ok (r.comply letter command) := by
  cases command with
  | restart => rfl
  | stop => rfl
  | arithmetic op lhs rhs =>
    simp only [carryOut, compute_eq, Command.refusal?]
    split <;> rfl
  | time action period =>
    simp only [carryOut, comply, Command.refusal?, armReport_eq]
    cases hTiming : Timing.ofByte? action with
    | none =>
      rw [if_pos (Timing.ofByte?_eq_none_iff.mp hTiming)]
    | some timing =>
      have known : ¬ action > 2 := by
        rw [← Timing.ofByte?_eq_none_iff, hTiming]
        exact Option.some_ne_none timing
      rw [if_neg known]
      cases Command.refusalOfSeconds? period <;> rfl
  | report stream period => exact armReport_eq ..
  | duty left right limit =>
    simp only [carryOut, comply, Command.refusal?, checkPower_eq, limit_eq]
    cases Command.refusalOfPower? r.control.battery.volts with
    | some refusal => rfl
    | none =>
      cases Command.refusalOfSeconds? limit with
      | some refusal => rfl
      | none => cases limit <;> rfl
  | drive mode linear angular limit =>
    simp only [carryOut, comply, Command.refusal?, checkPower_eq, limit_eq]
    cases Command.refusalOfPower? r.control.battery.volts with
    | some refusal => rfl
    | none => cases Command.refusalOfSeconds? limit <;> rfl
  | avoid limit =>
    simp only [carryOut, comply, Command.refusal?, checkPower_eq, limit_eq]
    cases Command.refusalOfPower? r.control.battery.volts with
    | some refusal => rfl
    | none => cases Command.refusalOfSeconds? limit <;> rfl

theorem carryOut_eq_ok_iff {r s : Robot} {letter : UInt8} {command : Command} :
    r.carryOut letter command = .ok s ↔
      command.refusal? r.control.battery.volts = none ∧ s = r.comply letter command := by
  rw [carryOut_eq]
  cases command.refusal? r.control.battery.volts with
  | some refusal => simp
  | none => simp [eq_comm]

theorem carryOut_eq_error_iff {r : Robot} {letter : UInt8} {command : Command} {refusal : Refusal} :
    r.carryOut letter command = .error refusal ↔ command.refusal? r.control.battery.volts = some refusal := by
  rw [carryOut_eq]
  cases command.refusal? r.control.battery.volts <;> simp

def received (r : Robot) (letter : UInt8) : Robot :=
  { r with link := { r.link with inbox := r.link.inbox.drop (frameLength letter) } }.note
    (.received letter (frameLength letter))

@[simp] theorem received_control (r : Robot) (letter : UInt8) : (r.received letter).control = r.control := rfl
@[simp] theorem received_board (r : Robot) (letter : UInt8) : (r.received letter).board = r.board := rfl

/-- The dispatcher, on its turn, carries out this command. -/
def Obeys (r : Robot) (command : Command) : Prop :=
  ∃ letter s, r.link.inbox.Offers letter command ∧ (r.received letter).carryOut letter command = .ok s

/-- The dispatcher, on its turn, refuses what this letter begins. -/
inductive Refuses (r : Robot) (letter : UInt8) : Refusal → Prop where
  | unknown : r.link.inbox.peek? = some letter → frameLength letter = 0 → Refuses r letter .badInput
  | command {command : Command} {refusal : Refusal} : r.link.inbox.Offers letter command →
      (r.received letter).carryOut letter command = .error refusal → Refuses r letter refusal

theorem poll_of_empty {r : Robot} (h : r.link.inbox.peek? = none) : r.poll = { r with dispatch := .idle } := by
  rw [poll, h]

theorem poll_of_unknown {r : Robot} {letter : UInt8} (first : r.link.inbox.peek? = some letter)
    (unknown : frameLength letter = 0) :
    r.poll = { ((r.note (.unknownLetter letter)).flushInput).send (.badInput letter) with dispatch := .idle } := by
  simp only [poll, first, unknown, if_true]

theorem poll_of_part {r : Robot} {letter : UInt8} (first : r.link.inbox.peek? = some letter)
    (known : frameLength letter ≠ 0) (part : r.link.inbox.size < frameLength letter) :
    r.poll = { r with dispatch := .waiting letter (frameLength letter) } := by
  simp only [poll, first, if_neg known, if_pos part]

theorem poll_of_offers {r : Robot} {letter : UInt8} {command : Command}
    (h : r.link.inbox.Offers letter command) :
    r.poll = { (match (r.received letter).carryOut letter command with
        | .ok s => s
        | .error refusal => (r.received letter).refuse letter refusal) with
      dispatch := .processed letter } := by
  have length : (r.link.inbox.bytes.take (frameLength letter)).length = frameLength letter := by
    rw [List.length_take]
    exact Nat.min_eq_left h.whole
  simp only [poll, h.first, if_neg h.known, if_neg (Nat.not_lt.mpr h.whole), Link.take, length, obey, h.decoded]
  rfl

/-- What the dispatcher may find on its turn. -/
theorem poll_cases (r : Robot) :
    r.link.inbox.peek? = none ∨
    (∃ letter, r.link.inbox.peek? = some letter ∧ frameLength letter = 0) ∨
    (∃ letter, r.link.inbox.peek? = some letter ∧ frameLength letter ≠ 0 ∧
      r.link.inbox.size < frameLength letter) ∨
    ∃ letter command, r.link.inbox.Offers letter command := by
  cases first : r.link.inbox.peek? with
  | none => exact .inl rfl
  | some letter =>
    refine .inr ?_
    by_cases known : frameLength letter = 0
    · exact .inl ⟨letter, rfl, known⟩
    · refine .inr ?_
      by_cases part : r.link.inbox.size < frameLength letter
      · exact .inl ⟨letter, rfl, known, part⟩
      · obtain ⟨command, hCommand⟩ := Inbox.exists_offers first known (Nat.not_lt.mp part)
        exact .inr ⟨letter, command, hCommand⟩

theorem not_obeys_of_empty {r : Robot} (h : r.link.inbox.peek? = none) (command : Command) :
    ¬ r.Obeys command := by
  rintro ⟨letter, _, hOffers, _⟩
  have first := hOffers.first
  rw [h] at first
  cases first

theorem poll_of_obeys {r : Robot} {command : Command} (h : r.Obeys command) :
    ∃ letter, r.link.inbox.Offers letter command ∧ command.refusal? r.control.battery.volts = none ∧
      r.poll = { (r.received letter).comply letter command with dispatch := .processed letter } := by
  obtain ⟨letter, s, hOffers, hOk⟩ := h
  refine ⟨letter, hOffers, (carryOut_eq_ok_iff.mp hOk).1, ?_⟩
  rw [poll_of_offers hOffers, hOk, (carryOut_eq_ok_iff.mp hOk).2]

/-- Nothing but a command that is carried out changes the control state or the board. -/
theorem poll_of_not_obeys {r : Robot} (h : ∀ command, ¬ r.Obeys command) :
    r.poll.control = r.control ∧ r.poll.board = r.board := by
  obtain hEmpty | ⟨letter, first, unknown⟩ | ⟨letter, first, known, part⟩ | ⟨letter, command, hOffers⟩ :=
    r.poll_cases
  · rw [poll_of_empty hEmpty]
    exact ⟨rfl, rfl⟩
  · rw [poll_of_unknown first unknown]
    simp
  · rw [poll_of_part first known part]
    exact ⟨rfl, rfl⟩
  · rw [poll_of_offers hOffers]
    cases hOk : (r.received letter).carryOut letter command with
    | ok s => exact absurd ⟨letter, s, hOffers, hOk⟩ (h command)
    | error refusal => simp

theorem poll_effect (r : Robot) :
    (∃ letter command, r.Obeys command ∧
      r.poll.control = ((r.received letter).comply letter command).control ∧
      r.poll.board = ((r.received letter).comply letter command).board) ∨
    (r.poll.control = r.control ∧ r.poll.board = r.board) := by
  rcases Classical.em (∃ command, r.Obeys command) with ⟨command, obeys⟩ | none
  · obtain ⟨letter, _, _, hPoll⟩ := poll_of_obeys obeys
    refine .inl ⟨letter, command, obeys, ?_⟩
    rw [hPoll]
    exact ⟨rfl, rfl⟩
  · exact .inr (poll_of_not_obeys (not_exists.mp none))

theorem comply_clock (r : Robot) (letter : UInt8) (command : Command) :
    (r.comply letter command).board.clock = r.board.clock := by
  cases command with
  | restart => rfl
  | arithmetic op lhs rhs => rw [comply, send_board]
  | time action period =>
    simp only [comply]
    split
    · rfl
    · rw [forgetStart_board, arm_board]
  | report stream period => rfl
  | duty left right limit => cases limit <;> simp [comply, Board.drive, Board.setDuty]
  | stop =>
    rw [comply, stop_board]
    rfl
  | drive mode linear angular limit =>
    simp only [comply]
    split <;> cases limit <;> simp [armStopTimer, Board.zeroEncoders]
  | avoid limit => cases limit <;> rfl

theorem poll_clock (r : Robot) : r.poll.board.clock = r.board.clock := by
  obtain ⟨letter, command, _, _, board⟩ | ⟨_, board⟩ := r.poll_effect
  · rw [board]
    exact comply_clock (r.received letter) letter command
  · rw [board]

theorem polled_clock (r : Robot) (s : Surroundings) : (r.polled s).board.clock = s.clock := by
  rw [polled, poll_clock, served_clock]

theorem pass_of_performs {r : Robot} {s : Surroundings} {task : Task} (h : r.Performs s task) :
    r.pass s = ((taskOrder.dropWhile (· != task)).tail).foldl (performDue s.clock)
      (((r.polled s).atTurn task).perform task s.clock) := by
  rw [pass_of_succeeds h.1, sweep_eq (r.polled s) task, polled_clock, performDue_of_due h.2]

def Accepts (r : Robot) (s : Surroundings) (command : Command) : Prop :=
  r.Succeeds s ∧ (r.served s).Obeys command

theorem start_control {settings : Settings} {board : Board} {link : Link} {r : Robot}
    (h : Robot.start settings board link = .ok r) :
    ∃ setup battery, settings.setup = .ok setup ∧ r.control = Control.fresh setup battery ∧ r.board = board := by
  rw [Robot.start, Control.ofSettings_eq] at h
  cases hSetup : settings.setup with
  | error e =>
    rw [hSetup] at h
    cases h
  | ok setup =>
    rw [hSetup] at h
    cases h
    exact ⟨setup, _, rfl, rfl, rfl⟩

/-- What holds at power-on, and what no command that is carried out and no task destroys. -/
structure Invariant (settings : Settings) (P : Control → Prop) : Prop where
  fresh : ∀ {setup : Setup}, settings.setup = .ok setup → ∀ battery, P (Control.fresh setup battery)
  comply : ∀ (r : Robot) (letter : UInt8) {command : Command},
    command.refusal? r.control.battery.volts = none → P r.control → P (r.comply letter command).control
  perform : ∀ (r : Robot) (task : Task) (now : Time), P r.control →
    r.control.agenda.due task now = true → P (r.perform task now).control

namespace Invariant

variable {settings : Settings} {P : Control → Prop} (invariant : Invariant settings P) {r : Robot}
include invariant

theorem poll (h : P r.control) : P r.poll.control := by
  rcases Classical.em (∃ command, r.Obeys command) with ⟨command, obeys⟩ | none
  · obtain ⟨letter, _, accepted, hPoll⟩ := poll_of_obeys obeys
    rw [hPoll]
    exact invariant.comply (r.received letter) letter accepted h
  · rw [(poll_of_not_obeys (not_exists.mp none)).1]
    exact h

theorem polled (h : P r.control) (s : Surroundings) : P (r.polled s).control := by
  have served : P (r.served s).control := h
  exact invariant.poll served

theorem start {board : Board} {link : Link} (h : Robot.start settings board link = .ok r) : P r.control := by
  obtain ⟨setup, battery, hSetup, hControl, _⟩ := start_control h
  rw [hControl]
  exact invariant.fresh hSetup battery

theorem tick (h : P r.control) : P r.tick.2.control := by
  unfold Robot.tick
  dsimp only
  split
  · exact h
  · next link _ =>
    let serving : Robot := { r with board := r.board.service, link }
    have polled : P serving.poll.control := invariant.poll h
    have swept : P serving.poll.sweep.control :=
      sweep_induct (P := fun t => P t.control) invariant.perform polled
    exact swept

theorem pass (h : P r.control) (s : Surroundings) : P (r.pass s).control := by
  have met : P (r.meet s).control := h
  exact invariant.tick met

theorem reachable (h : Reachable settings r) : P r.control := by
  induction h with
  | start _ hStart => exact invariant.start hStart
  | pass s _ ih => exact invariant.pass ih s

theorem passAll (h : P r.control) (run : List Surroundings) : P (r.passAll run).control :=
  List.foldlRecOn run Robot.pass (motive := fun t => P t.control) h fun _ h s _ => invariant.pass h s

theorem turn (h : P r.control) (s : Surroundings) (task : Task) : P ((r.polled s).atTurn task).control :=
  atTurn_induct (P := fun t => P t.control) invariant.perform (invariant.polled h s)

theorem atTurn (h : Reachable settings r) (s : Surroundings) (task : Task) :
    P ((r.polled s).atTurn task).control :=
  invariant.turn (invariant.reachable h) s task

end Invariant

end Robot

end Rover
