import Mathlib.Data.List.Induction
import Rover.Proofs.Movement

/-!
# What the decision machine commands

Fed with any readings, the machine commands speeds that stay those of its phase until it commands
others, and switches velocity control on once, with its first decision. It turns for what reflects and
until nothing does, then holds the turn for a fixed number of decisions that no reading has a say in.
-/

namespace Rover
open Motion
set_option autoImplicit false

def Phase.Turning (phase : Phase) : Prop := phase = .turnLeft ∨ phase = .turnRight

theorem Phase.Turning.ne_start {phase : Phase} (h : phase.Turning) : phase ≠ .start := by
  rintro rfl
  rcases h with left | right <;> contradiction

theorem Phase.Turning.ne_holding {phase : Phase} (h : phase.Turning) : phase ≠ .holding := by
  rintro rfl
  rcases h with left | right <;> contradiction

namespace Avoidance

/-- The machine at power-on, and wherever it is set back, whatever it did before. -/
inductive Begun : Avoidance → Prop where
  | fresh : Begun .fresh
  | started (c : Control) : Begun c.startAvoidance.avoidance
  | reset (c : Control) : Begun c.reset.avoidance

theorem Begun.eq_fresh {a : Avoidance} (h : a.Begun) : a = .fresh := by
  cases h <;> rfl

/-- Everything that a decision can be. -/
inductive Decides (a : Avoidance) (reading : Reading) : Option Decision → Avoidance → Prop where
  | turn : a.phase = .start ∨ a.phase = .straight → reading.isClear = false →
      Decides a reading (some ⟨(turnFrom reading.side).2, a.phase == .start⟩)
        { a with phase := (turnFrom reading.side).1 }
  | setOut : a.phase = .start → reading.isClear = true →
      Decides a reading (some ⟨straightSpeeds, true⟩) { a with phase := .straight }
  | goOn : a.phase = .straight → reading.isClear = true → Decides a reading none a
  | keepTurning : a.phase.Turning → reading.isClear = false → Decides a reading none a
  | hold : a.phase.Turning → reading.isClear = true → Decides a reading none { a with phase := .holding }
  | keepHolding : a.phase = .holding → a.held + 1 < holdLimit →
      Decides a reading none { a with held := a.held + 1 }
  | straighten : a.phase = .holding → holdLimit ≤ a.held + 1 →
      Decides a reading (some ⟨straightSpeeds, false⟩) { a with phase := .straight, held := 0 }

theorem decides (a : Avoidance) (reading : Reading) :
    a.Decides reading (a.decide reading).1 (a.decide reading).2 := by
  obtain ⟨step, phase, held, counts⟩ := a
  unfold decide
  cases phase with
  | start =>
    cases clear : reading.isClear with
    | false => exact .turn (.inl rfl) clear
    | true => exact .setOut rfl clear
  | straight =>
    cases clear : reading.isClear with
    | false => exact .turn (.inr rfl) clear
    | true => exact .goOn rfl clear
  | turnLeft =>
    cases clear : reading.isClear with
    | false => exact .keepTurning (.inl rfl) clear
    | true => exact .hold (.inl rfl) clear
  | turnRight =>
    cases clear : reading.isClear with
    | false => exact .keepTurning (.inr rfl) clear
    | true => exact .hold (.inr rfl) clear
  | holding =>
    dsimp only
    split
    · next full => exact .straighten rfl full
    · next under => exact .keepHolding rfl (Nat.not_le.mp under)

theorem turnFrom_left {side : Side} : (turnFrom side).1 = .turnLeft ↔ side = .right := by
  cases side <;> simp [turnFrom]

theorem turnFrom_right {side : Side} : (turnFrom side).1 = .turnRight ↔ side = .left := by
  cases side <;> simp [turnFrom]

theorem turnFrom_ne_holding {side : Side} : (turnFrom side).1 ≠ .holding := by
  cases side <;> simp [turnFrom]

/-- What a decision may do about turns: turn away from the side that reflects, and leave a turn once the way
is clear. -/
structure Heeds (a : Avoidance) (reading : Reading) (next : Avoidance) : Prop where
  fromRight : a.phase ≠ .turnLeft → next.phase = .turnLeft → reading.isClear = false ∧ reading.side = .right
  fromLeft : a.phase ≠ .turnRight → next.phase = .turnRight → reading.isClear = false ∧ reading.side = .left
  untilClear : a.phase.Turning → next.phase ≠ a.phase → reading.isClear = true ∧ next.phase = .holding

/-- The hold counter stays below its limit, and counts only while the machine holds. -/
structure Counted (a : Avoidance) : Prop where
  below : a.held < holdLimit
  clean : a.phase ≠ .holding → a.held = 0

namespace Decides

variable {a next : Avoidance} {reading : Reading} {decision : Option Decision}
  (step : a.Decides reading decision next)
include step

theorem counted (h : a.Counted) : next.Counted := by
  cases step with
  | turn free _ =>
    refine ⟨h.below, fun _ => h.clean ?_⟩
    rcases free with start | straight
    · simp [start]
    · simp [straight]
  | setOut start _ => exact ⟨h.below, fun _ => h.clean (by simp [start])⟩
  | goOn | keepTurning => exact h
  | hold => exact ⟨h.below, fun moved => absurd rfl moved⟩
  | keepHolding holding under => exact ⟨under, fun moved => absurd holding moved⟩
  | straighten => exact ⟨Nat.zero_lt_succ 199, fun _ => rfl⟩

theorem ne_start : next.phase ≠ .start := by
  cases step with
  | turn => exact (turnFrom_asks reading.side).2
  | goOn straight _ => simp [straight]
  | keepTurning turning _ => exact turning.ne_start
  | keepHolding holding _ => simp [holding]
  | setOut | hold | straighten => simp

theorem engage_iff {made : Decision} (h : decision = some made) : made.engage = true ↔ a.phase = .start := by
  cases step with
  | turn =>
    cases h
    exact beq_iff_eq
  | setOut start _ =>
    cases h
    simp [start]
  | straighten holding _ =>
    cases h
    simp [holding]
  | goOn | keepTurning | hold | keepHolding => cases h

theorem exists_of_start (start : a.phase = .start) : ∃ made, decision = some made := by
  cases step with
  | turn | setOut | straighten => exact ⟨_, rfl⟩
  | goOn straight _ => cases start.symm.trans straight
  | keepTurning turning _ | hold turning _ => exact absurd start turning.ne_start
  | keepHolding holding _ => cases start.symm.trans holding

theorem heeds : a.Heeds reading next := by
  cases step with
  | turn free blocked =>
    refine ⟨fun _ left => ⟨blocked, turnFrom_left.mp left⟩, fun _ right => ⟨blocked, turnFrom_right.mp right⟩, ?_⟩
    rintro (left | right) _ <;> simp_all
  | setOut start _ => exact ⟨nofun, nofun, fun turning _ => absurd start turning.ne_start⟩
  | hold _ clear => exact ⟨nofun, nofun, fun _ _ => ⟨clear, rfl⟩⟩
  | straighten holding _ => exact ⟨nofun, nofun, fun turning _ => absurd holding turning.ne_holding⟩
  | goOn | keepTurning | keepHolding =>
    -- the phase stays
    exact ⟨fun away left => absurd left away, fun away right => absurd right away, fun _ moved => absurd rfl moved⟩

theorem silent_of_holding (held : next.phase = .holding) :
    decision = none ∧ (a.phase = .holding ∨ a.phase.Turning ∧ reading.isClear = true) := by
  cases step with
  | turn => exact absurd held turnFrom_ne_holding
  | setOut | straighten => cases held
  | goOn straight _ => cases straight.symm.trans held
  | keepTurning turning _ => exact absurd held turning.ne_holding
  | hold turning clear => exact ⟨rfl, .inr ⟨turning, clear⟩⟩
  | keepHolding holding _ => exact ⟨rfl, .inl holding⟩

theorem held_of_enters (h : a.Counted) (away : a.phase ≠ .holding) (enters : next.phase = .holding) :
    next.held = 0 := by
  have clean := h.clean away
  cases step with
  | turn => exact absurd enters turnFrom_ne_holding
  | setOut | straighten => cases enters
  | goOn | keepTurning | hold => exact clean
  | keepHolding holding _ => exact absurd holding away

end Decides

def after (a : Avoidance) (readings : List Reading) : Avoidance :=
  readings.foldl (fun a reading => (a.decide reading).2) a

def answers (a : Avoidance) : List Reading → List (Option Decision)
  | [] => []
  | reading :: readings => (a.decide reading).1 :: (a.decide reading).2.answers readings

def emitted (a : Avoidance) (readings : List Reading) : List Decision := (a.answers readings).filterMap id

section Runs

variable (a : Avoidance) (reading : Reading) (readings more : List Reading)

theorem after_append : a.after (readings ++ more) = (a.after readings).after more := List.foldl_append

theorem after_concat : a.after (readings ++ [reading]) = ((a.after readings).decide reading).2 :=
  a.after_append readings [reading]

theorem answers_append : a.answers (readings ++ more) = a.answers readings ++ (a.after readings).answers more := by
  induction readings generalizing a with
  | nil => rfl
  | cons reading readings ih => exact congrArg _ (ih (a.decide reading).2)

theorem emitted_append : a.emitted (readings ++ more) = a.emitted readings ++ (a.after readings).emitted more := by
  rw [emitted, answers_append, List.filterMap_append]
  rfl

theorem emitted_cons : a.emitted (reading :: readings) =
    (a.decide reading).1.toList ++ (a.decide reading).2.emitted readings := by
  cases h : (a.decide reading).1 <;> simp [emitted, answers, h]

theorem emitted_concat_of_silent (silent : ((a.after readings).decide reading).1 = none) :
    a.emitted (readings ++ [reading]) = a.emitted readings := by
  rw [emitted_append, emitted_cons, silent]
  exact List.append_nil _

end Runs

variable {a : Avoidance}

theorem Counted.after (h : a.Counted) (readings : List Reading) : (a.after readings).Counted := by
  induction readings generalizing a with
  | nil => exact h
  | cons reading readings ih => exact ih ((a.decides reading).counted h)

theorem engage_of_emitted (moving : a.phase ≠ .start) (readings : List Reading) :
    ∀ decision ∈ a.emitted readings, decision.engage = false := by
  induction readings generalizing a with
  | nil => exact nofun
  | cons reading readings ih =>
    intro decision
    have step := a.decides reading
    rw [emitted_cons, List.mem_append, Option.mem_toList]
    rintro (made | later)
    · exact Bool.eq_false_iff.mpr (mt (step.engage_iff made).mp moving)
    · exact ih step.ne_start decision later

theorem emitted_of_start (start : a.phase = .start) {readings : List Reading} (fed : readings ≠ []) :
    ∃ first rest, a.emitted readings = first :: rest ∧ first.engage = true ∧
      ∀ decision ∈ rest, decision.engage = false := by
  obtain ⟨reading, readings, rfl⟩ := List.exists_cons_of_ne_nil fed
  have step := a.decides reading
  obtain ⟨first, made⟩ := step.exists_of_start start
  refine ⟨first, _, ?_, (step.engage_iff made).mpr start, engage_of_emitted step.ne_start readings⟩
  rw [emitted_cons, made]
  rfl

theorem asks_after {velocity : Wheels Float32} (asks : a.phase.Asks velocity) (readings : List Reading) :
    (a.after readings).phase.Asks ((a.emitted readings).getLast?.elim velocity Decision.velocity) := by
  induction readings generalizing a velocity with
  | nil => exact asks
  | cons reading readings ih =>
    rw [emitted_cons, List.getLast?_append]
    rcases decide_asks asks reading with ⟨decision, made, next, -, -⟩ | ⟨silent, next, -, -⟩
    · have last := ih next
      rw [made]
      cases later : ((a.decide reading).2.emitted readings).getLast? <;> rwa [later] at last
    · have last := ih next
      rw [silent]
      cases later : ((a.decide reading).2.emitted readings).getLast? <;> rwa [later] at last

section Stay

variable (holding : a.phase = .holding)
include holding

theorem decide_of_under (reading : Reading) (under : a.held + 1 < holdLimit) :
    a.decide reading = (none, { a with held := a.held + 1 }) := by
  rw [decide, holding]
  exact if_neg (Nat.not_le.mpr under)

theorem decide_of_full (reading : Reading) (full : holdLimit ≤ a.held + 1) :
    a.decide reading = (some ⟨straightSpeeds, false⟩, { a with phase := .straight, held := 0 }) := by
  rw [decide, holding]
  exact if_pos full

theorem keeps_holding (later : List Reading) (short : a.held + later.length < holdLimit) :
    a.after later = { a with held := a.held + later.length } ∧
      a.answers later = List.replicate later.length none := by
  induction later generalizing a with
  | nil => exact ⟨rfl, rfl⟩
  | cons reading later ih =>
    rw [List.length_cons] at short
    have once := decide_of_under holding reading (by omega)
    have next : ({ a with held := a.held + 1 } : Avoidance).phase = .holding := holding
    obtain ⟨last, silent⟩ := ih next (by dsimp only; omega)
    rw [after, List.foldl_cons, ← after, answers, once, last, silent, Nat.add_assoc, Nat.add_comm 1]
    exact ⟨rfl, rfl⟩

/-- The stay ends with the decision that fills the counter, whatever it reads. -/
theorem straightens (later : List Reading) (full : a.held + later.length = holdLimit) (under : a.held < holdLimit) :
    a.after later = { a with phase := .straight, held := 0 } ∧
      a.answers later = List.replicate (later.length - 1) none ++ [some ⟨straightSpeeds, false⟩] := by
  obtain rfl | ⟨most, last, rfl⟩ := later.eq_nil_or_concat
  · rw [List.length_nil] at full
    omega
  · rw [List.length_concat] at full ⊢
    obtain ⟨held, silent⟩ := keeps_holding holding most (by omega)
    have ends := decide_of_full (a := a.after most) (by rw [held]; exact holding) last
      (by rw [held]; dsimp only; omega)
    rw [List.concat_eq_append, after_concat, answers_append, answers, ends, silent, held]
    exact ⟨rfl, rfl⟩

end Stay

/-- A clear reading ended a turn, and since then the machine has held and decided nothing. -/
structure Holds (a : Avoidance) (readings early : List Reading) (cleared : Reading) (later : List Reading) :
    Prop where
  split : readings = early ++ cleared :: later
  turning : (a.after early).phase.Turning
  clear : cleared.isClear = true
  throughout : ∀ part, part <+: later → (a.after (early ++ cleared :: part)).phase = .holding
  silent : a.emitted readings = a.emitted early

theorem exists_holds (away : a.phase ≠ .holding) {readings : List Reading}
    (holding : (a.after readings).phase = .holding) :
    ∃ early cleared later, a.Holds readings early cleared later := by
  induction readings using List.reverseRecOn with
  | nil => exact absurd holding away
  | append_singleton readings reading ih =>
    have step := (a.after readings).decides reading
    rw [← after_concat] at step
    obtain ⟨silent, held | ⟨turning, clear⟩⟩ := step.silent_of_holding holding
    · obtain ⟨early, cleared, later, holds⟩ := ih held
      refine ⟨early, cleared, later ++ [reading], ?_, holds.turning, holds.clear, ?_, ?_⟩
      · rw [holds.split, List.append_assoc, List.cons_append]
      · intro part hPart
        rcases List.prefix_concat_iff.mp hPart with rfl | within
        · rw [← List.cons_append, ← List.append_assoc, ← holds.split]
          exact holding
        · exact holds.throughout part within
      · rw [emitted_concat_of_silent _ _ _ silent, holds.silent]
    · refine ⟨readings, reading, [], rfl, turning, clear, ?_, emitted_concat_of_silent _ _ _ silent⟩
      intro part hPart
      rw [List.prefix_nil.mp hPart]
      exact holding

/-- What follows once the machine has begun to hold, when as many readings have come as it holds for. -/
structure Stays (a : Avoidance) (later : List Reading) : Prop where
  holds : ∀ part, part <+: later → part.length < holdLimit → (a.after part).phase = .holding
  leaves : (a.after later).phase = .straight
  answers : a.answers later = List.replicate (holdLimit - 1) none ++ [some ⟨straightSpeeds, false⟩]

theorem stays (holding : a.phase = .holding) (entered : a.held = 0) {later : List Reading}
    (full : later.length = holdLimit) : a.Stays later := by
  have under : a.held < holdLimit := by
    rw [entered]
    decide
  obtain ⟨last, answers⟩ := straightens holding later (by omega) under
  refine ⟨fun part _ short => ?_, by rw [last], by rw [answers, full]⟩
  rw [(keeps_holding holding part (by omega)).1]
  exact holding

/-- Whether these are the speeds of the machine's phase; holding, of the turn that it came from. -/
def Commands (a : Avoidance) (readings : List Reading) (velocity : Wheels Float32) : Prop :=
  match (a.after readings).phase with
  | .start => False
  | .straight => velocity = straightSpeeds
  | .turnLeft => velocity = ⟨innerSpeed, outerSpeed⟩
  | .turnRight => velocity = ⟨outerSpeed, innerSpeed⟩
  | .holding => ∃ early cleared later, a.Holds readings early cleared later ∧ (a.after early).phase.Asks velocity

theorem after_ne_start {readings : List Reading} (fed : readings ≠ []) : (a.after readings).phase ≠ .start := by
  obtain rfl | ⟨most, last, rfl⟩ := readings.eq_nil_or_concat
  · exact absurd rfl fed
  · rw [List.concat_eq_append, after_concat]
    exact ((a.after most).decides last).ne_start

theorem exists_commands (start : a.phase = .start) {readings : List Reading} (fed : readings ≠ []) :
    ∃ last, (a.emitted readings).getLast? = some last ∧ a.Commands readings last.velocity := by
  -- a machine that has decided nothing asks for no speeds, so any will do to start from
  have any : a.phase.Asks straightSpeeds := by
    rw [start]
    trivial
  cases emitted : (a.emitted readings).getLast? with
  | none =>
    obtain ⟨first, rest, made, -⟩ := emitted_of_start start fed
    rw [List.getLast?_eq_none_iff.mp emitted] at made
    cases made
  | some last =>
    refine ⟨last, rfl, ?_⟩
    have asks := asks_after any readings
    rw [emitted] at asks
    unfold Commands
    cases phase : (a.after readings).phase with
    | start => exact after_ne_start fed phase
    | straight | turnLeft | turnRight =>
      rw [phase] at asks
      exact asks
    | holding =>
      obtain ⟨early, cleared, later, holds⟩ := exists_holds (by rw [start]; decide) phase
      have asks := asks_after any early
      rw [← holds.silent, emitted] at asks
      exact ⟨early, cleared, later, holds, asks⟩

/-- The first decision alone switches velocity control on; the last one commands the speeds of the phase; a turn
goes away from the side that was read and ends on a clear way; and each stay in a turn that is over lasts as many
decisions as the counter counts, which never counts further. -/
theorem turns_and_holds {a : Avoidance} (begun : a.Begun) (readings : List Reading) :
    (readings ≠ [] → ∃ first rest, a.emitted readings = first :: rest ∧ first.engage = true ∧
      ∀ decision ∈ rest, decision.engage = false) ∧
    (readings ≠ [] → ∃ last, (a.emitted readings).getLast? = some last ∧ a.Commands readings last.velocity) ∧
    innerSpeed < outerSpeed ∧
    (∀ reading, (a.after readings).Heeds reading (a.after (readings ++ [reading]))) ∧
    (∀ reading, (a.after readings).phase ≠ .holding → (a.after (readings ++ [reading])).phase = .holding →
      ∀ later, later.length = holdLimit → (a.after (readings ++ [reading])).Stays later) ∧
    (a.after readings).Counted ∧ (a.after readings).held + 1 < UInt16.size := by
  obtain rfl := begun.eq_fresh
  have counted : (fresh.after readings).Counted := Counted.after ⟨by decide, fun _ => rfl⟩ readings
  refine ⟨emitted_of_start rfl, exists_commands rfl, by decide +kernel, ?_, ?_, counted, ?_⟩
  · intro reading
    rw [after_concat]
    exact ((fresh.after readings).decides reading).heeds
  · intro reading away enters later full
    rw [after_concat] at enters ⊢
    exact stays enters (((fresh.after readings).decides reading).held_of_enters counted away enters) full
  · exact Nat.lt_trans (Nat.succ_lt_succ counted.below) (by decide)

/-- Something on the right until the way is clear; the machine is set back by the command to avoid obstacles. -/
theorem turns_and_holds_left :
    let a := Robot.powerOn.control.startAvoidance.avoidance
    let turn : List Reading := [.ofCounts 0 2, .ofCounts 1 2]
    (a.after turn).phase = .turnLeft ∧ (a.after (turn ++ [.ofCounts 0 0])).phase = .holding ∧
      (∃ last, (a.emitted turn).getLast? = some last ∧ last.velocity = ⟨innerSpeed, outerSpeed⟩) ∧
      ∀ later, later.length = holdLimit → (a.after (turn ++ [.ofCounts 0 0])).Stays later := by
  intro a turn
  have left : (a.after turn).phase = .turnLeft := by decide +kernel
  have held : (a.after (turn ++ [.ofCounts 0 0])).phase = .holding := by decide +kernel
  obtain ⟨-, commands, -, -, stays, -⟩ := turns_and_holds (.started Robot.powerOn.control) turn
  obtain ⟨last, emitted, commanded⟩ := commands (List.cons_ne_nil _ _)
  unfold Commands at commanded
  rw [left] at commanded
  exact ⟨left, held, ⟨last, emitted, commanded⟩, stays _ (by rw [left]; decide) held⟩

end Avoidance

end Rover
