import Rover.Proofs.Decisions

/-!
# How the sequencer feeds the decision machine

Three ticks make a round: the left is strobed, the right is strobed, and the machine decides on the two
counts. So the machine is fed with one reading for each whole round, made of the counts of that round
alone, whatever the board answers; a round that is not over yet has strobed and decided nothing.
-/

namespace Rover
open Motion
set_option autoImplicit false

namespace Avoidance

/-- Alike in all that decisions depend on. -/
structure Alike (a b : Avoidance) : Prop where
  phase : b.phase = a.phase
  held : b.held = a.held

namespace Alike

theorem refl (a : Avoidance) : a.Alike a := ⟨rfl, rfl⟩

variable {a b c : Avoidance} (h : a.Alike b)
include h

theorem trans (next : b.Alike c) : a.Alike c := ⟨next.phase.trans h.phase, next.held.trans h.held⟩

theorem decide (reading : Reading) :
    (b.decide reading).1 = (a.decide reading).1 ∧ (a.decide reading).2.Alike (b.decide reading).2 := by
  obtain ⟨step, phase, held, counts⟩ := a
  obtain ⟨step', phase', held', counts'⟩ := b
  obtain rfl : phase' = phase := h.phase
  obtain rfl : held' = held := h.held
  unfold Avoidance.decide
  cases phase' with
  | start | straight | turnLeft | turnRight => cases reading.isClear <;> exact ⟨rfl, rfl, rfl⟩
  | holding =>
    dsimp only
    split <;> exact ⟨rfl, rfl, rfl⟩

theorem answers (readings : List Reading) : b.answers readings = a.answers readings := by
  induction readings generalizing a b with
  | nil => rfl
  | cons reading readings ih =>
    obtain ⟨same, next⟩ := h.decide reading
    rw [Avoidance.answers, Avoidance.answers, same, ih next]

theorem after (readings : List Reading) : (a.after readings).Alike (b.after readings) := by
  induction readings generalizing a b with
  | nil => exact h
  | cons reading readings ih => exact ih (h.decide reading).2

end Alike

abbrev Strobe := Side × UInt8

structure Tick where
  strobes : List Strobe
  decision : Option Decision

section Ticks

variable {β : Type} (strobe : β → Side → UInt8 × β)

/-- A tick on any board that can be strobed. -/
def tickOn (a : Avoidance) (board : β) : Option Decision × Avoidance × β :=
  match a.step with
  | .strobeLeft =>
    let (count, board) := strobe board .left
    (none, { a with counts := a.counts.set .left count, step := .strobeRight }, board)
  | .strobeRight =>
    let (count, board) := strobe board .right
    (none, { a with counts := a.counts.set .right count, step := .decide }, board)
  | .decide =>
    let (decision, a) := { a with step := .strobeLeft }.decide a.reading
    (decision, a, board)

theorem tick_eq_tickOn (a : Avoidance) (board : Board) : a.tick board = a.tickOn Board.strobe board := by
  unfold tick tickOn
  cases a.step <;> rfl

def ticking (a : Avoidance) (board : Board) : Nat → List (Option Decision) × Avoidance × Board
  | 0 => ([], a, board)
  | n + 1 =>
    let (decision, next, board) := a.tick board
    let (rest, last) := ticking next board n
    (decision :: rest, last)

def logged (board : β × List Strobe) (side : Side) : UInt8 × β × List Strobe :=
  let (count, next) := strobe board.1 side
  (count, next, board.2 ++ [(side, count)])

/-- What so many ticks do one by one, and the machine and the board after them. -/
def ticks (a : Avoidance) (board : β) : Nat → List Tick × Avoidance × β
  | 0 => ([], a, board)
  | n + 1 =>
    let (decision, next, board, strobes) := a.tickOn (logged strobe) (board, [])
    let (rest, last) := ticks next board n
    (⟨strobes, decision⟩ :: rest, last)

theorem tickOn_logged (a : Avoidance) (board : β) (strobes : List Strobe) :
    ∃ more, a.tickOn (logged strobe) (board, strobes) =
      ((a.tickOn strobe board).1, (a.tickOn strobe board).2.1, (a.tickOn strobe board).2.2, more) := by
  unfold tickOn
  cases a.step <;> exact ⟨_, rfl⟩

theorem ticking_eq_ticks (a : Avoidance) (board : Board) (n : Nat) :
    a.ticking board n =
      ((a.ticks Board.strobe board n).1.map Tick.decision, (a.ticks Board.strobe board n).2) := by
  induction n generalizing a board with
  | zero => rfl
  | succ n ih =>
    obtain ⟨more, same⟩ := a.tickOn_logged Board.strobe board []
    rw [ticking, ticks, same, tick_eq_tickOn]
    dsimp only
    rw [ih]
    rfl

theorem length_ticks (a : Avoidance) (board : β) (n : Nat) : (a.ticks strobe board n).1.length = n := by
  induction n generalizing a board with
  | zero => rfl
  | succ n ih => exact congrArg (· + 1) (ih _ _)

/-- The board is strobed like this and answers like this, and nothing else happens to it. -/
def Answers : β → List Strobe → β → Prop
  | board, [], last => last = board
  | board, (side, count) :: strobes, last =>
    (strobe board side).1 = count ∧ Answers (strobe board side).2 strobes last

theorem decide_step (a : Avoidance) (reading : Reading) : (a.decide reading).2.step = a.step := by
  have step := a.decides reading
  generalize (a.decide reading).1 = decision, (a.decide reading).2 = next at step
  cases step <;> rfl

section Round

variable {a : Avoidance} (ready : a.step = .strobeLeft) {board halfway strobed : β} {left right : UInt8}
  (strobeLeft : strobe board .left = (left, halfway)) (strobeRight : strobe halfway .right = (right, strobed))
include ready strobeLeft strobeRight

/-- A whole round strobes both sides in turn and decides on the two counts. -/
theorem ticks_round (n : Nat) :
    ∃ next, (a.decide (.ofCounts left right)).2.Alike next ∧ next.step = .strobeLeft ∧
      a.ticks strobe board (n + 3) =
        (⟨[(.left, left)], none⟩ :: ⟨[(.right, right)], none⟩ :: ⟨[], (a.decide (.ofCounts left right)).1⟩ ::
          (next.ticks strobe strobed n).1, (next.ticks strobe strobed n).2) := by
  -- the machine that decides has other counts than `a`, which the decision does not depend on
  let fed : Avoidance := { a with counts := ⟨left, right⟩ }
  have alike : a.Alike fed := ⟨rfl, rfl⟩
  obtain ⟨same, next⟩ := alike.decide (.ofCounts left right)
  refine ⟨(fed.decide (.ofCounts left right)).2, next, (fed.decide_step _).trans ready, ?_⟩
  rw [← same]
  obtain ⟨step, phase, held, counts⟩ := a
  obtain rfl : step = .strobeLeft := ready
  simp only [ticks, tickOn, logged, strobeLeft, strobeRight]
  rfl

theorem ticks_part :
    (∃ last, a.ticks strobe board 1 = ([⟨[(.left, left)], none⟩], last, halfway) ∧ a.Alike last) ∧
      ∃ last, a.ticks strobe board 2 = ([⟨[(.left, left)], none⟩, ⟨[(.right, right)], none⟩], last, strobed) ∧
        a.Alike last := by
  obtain ⟨step, phase, held, counts⟩ := a
  obtain rfl : step = .strobeLeft := ready
  simp only [ticks, tickOn, logged, strobeLeft, strobeRight]
  exact ⟨⟨_, rfl, ⟨rfl, rfl⟩⟩, ⟨_, rfl, ⟨rfl, rfl⟩⟩⟩

end Round

/-- These ticks on this board are rounds of two strobes and a decision, fed with these readings. -/
structure Sequences (a : Avoidance) (board : β) (readings : List Reading) (run : List Tick) (last : Avoidance)
    (strobed : β) : Prop where
  rounds : readings.length = run.length / 3
  count : (run.flatMap Tick.strobes).length = 2 * (run.length / 3) + min (run.length % 3) 2
  single : ∀ tick ∈ run, tick.strobes.length ≤ 1
  alternate : ∀ i s, (run.flatMap Tick.strobes)[i]? = some s → (s.1 = .left ↔ i % 2 = 0)
  answered : Answers strobe board (run.flatMap Tick.strobes) strobed
  /-- The reading is made of the two counts of its round, and its answer is the decision of the third tick. -/
  round : ∀ k reading, readings[k]? = some reading → ∃ left right decision,
    run[3 * k]? = some ⟨[(.left, left)], none⟩ ∧ run[3 * k + 1]? = some ⟨[(.right, right)], none⟩ ∧
      run[3 * k + 2]? = some ⟨[], decision⟩ ∧ reading = .ofCounts left right ∧
      (a.answers readings)[k]? = some decision
  emitted : run.filterMap Tick.decision = a.emitted readings
  alike : (a.after readings).Alike last

namespace Sequences

variable {strobe} {a next last : Avoidance} {board halfway strobed ended : β} {readings : List Reading}
  {run : List Tick} {left right : UInt8}

theorem nil (alike : a.Alike last) : Sequences strobe a board [] [] last board where
  rounds := rfl
  count := rfl
  single := nofun
  alternate := nofun
  answered := rfl
  round := nofun
  emitted := rfl
  alike := alike

section Strobed

variable (strobeLeft : strobe board .left = (left, halfway))
include strobeLeft

theorem one (alike : a.Alike last) :
    Sequences strobe a board [] [⟨[(.left, left)], none⟩] last halfway where
  rounds := by simp
  count := by simp
  single := by simp
  alternate := by
    rintro (_ | i) s hs
    · cases hs
      simp
    · cases hs
  answered := by simp [Answers, strobeLeft]
  round := nofun
  emitted := rfl
  alike := alike

variable (strobeRight : strobe halfway .right = (right, strobed))
include strobeRight

theorem two (alike : a.Alike last) :
    Sequences strobe a board [] [⟨[(.left, left)], none⟩, ⟨[(.right, right)], none⟩] last strobed where
  rounds := by simp
  count := by simp
  single := by simp
  alternate := by
    rintro (_ | _ | i) s hs
    · cases hs
      simp
    · cases hs
      simp
    · cases hs
  answered := by simp [Answers, strobeLeft, strobeRight]
  round := nofun
  emitted := rfl
  alike := alike

theorem cons (decided : (a.decide (.ofCounts left right)).2.Alike next)
    (rest : Sequences strobe next strobed readings run last ended) :
    Sequences strobe a board (.ofCounts left right :: readings)
      (⟨[(.left, left)], none⟩ :: ⟨[(.right, right)], none⟩ :: ⟨[], (a.decide (.ofCounts left right)).1⟩ :: run)
      last ended where
  rounds := by
    have rounds := rest.rounds
    simp only [List.length_cons]
    omega
  count := by
    have count := rest.count
    simp only [List.flatMap_cons, List.length_append, List.length_cons, List.length_nil]
    omega
  single := by
    rintro tick (_ | ⟨_, _ | ⟨_, _ | ⟨_, later⟩⟩⟩)
    · exact Nat.le_refl 1
    · exact Nat.le_refl 1
    · exact Nat.zero_le 1
    · exact rest.single tick later
  alternate := by
    rintro (_ | _ | i) s hs
    · cases hs
      simp
    · cases hs
      simp
    · rw [rest.alternate i s hs]
      omega
  answered := by
    simp only [List.flatMap_cons, List.cons_append, List.nil_append, Answers, strobeLeft, strobeRight, true_and]
    exact rest.answered
  round := by
    rintro (_ | k) reading hk
    · cases hk
      exact ⟨left, right, _, rfl, rfl, rfl, rfl, rfl⟩
    · obtain ⟨l, r, decision, first, second, third, made, answer⟩ := rest.round k reading hk
      rw [decided.answers] at answer
      exact ⟨l, r, decision, first, second, third, made, answer⟩
  emitted := by
    rw [emitted_cons, Avoidance.emitted, ← decided.answers, ← Avoidance.emitted, ← rest.emitted]
    cases made : (a.decide (.ofCounts left right)).1 <;> simp
  alike := (decided.after readings).trans rest.alike

end Strobed

end Sequences

theorem exists_sequences {a : Avoidance} (ready : a.step = .strobeLeft) (board : β) :
    ∀ n, ∃ readings, Sequences strobe a board readings (a.ticks strobe board n).1 (a.ticks strobe board n).2.1
      (a.ticks strobe board n).2.2
  | 0 => ⟨[], .nil (.refl a)⟩
  | 1 => by
    obtain ⟨⟨last, ticked, alike⟩, -⟩ := ticks_part strobe ready rfl rfl
    rw [ticked]
    exact ⟨[], .one rfl alike⟩
  | 2 => by
    obtain ⟨-, last, ticked, alike⟩ := ticks_part strobe ready rfl rfl
    rw [ticked]
    exact ⟨[], .two rfl rfl alike⟩
  | n + 3 => by
    -- a whole round at a time: only then the sequencer is back at the left strobe
    obtain ⟨next, decided, again, ticked⟩ := ticks_round strobe ready rfl rfl n
    obtain ⟨readings, rest⟩ := exists_sequences again _ n
    rw [ticked]
    exact ⟨_, .cons rfl rfl decided rest⟩

end Ticks

/-- From the start on, and whatever the board answers to its strobes, the machine is fed with one reading for each
whole round, made of the two counts of that round, and decides as it does on those readings alone. -/
theorem sequencer_feeds_decisions {β : Type} (strobe : β → Side → UInt8 × β) {a : Avoidance} (begun : a.Begun)
    (board : β) (n : Nat) :
    (a.ticks strobe board n).1.length = n ∧
    (∃ readings, Sequences strobe a board readings (a.ticks strobe board n).1 (a.ticks strobe board n).2.1
      (a.ticks strobe board n).2.2) ∧
    ∀ rover : Board, a.ticking rover n =
      ((a.ticks Board.strobe rover n).1.map Tick.decision, (a.ticks Board.strobe rover n).2) := by
  have ready : a.step = .strobeLeft := by rw [begun.eq_fresh, fresh]
  exact ⟨length_ticks strobe a board n, exists_sequences strobe ready board n,
    fun rover => a.ticking_eq_ticks rover n⟩

def scripted : List UInt8 → Side → UInt8 × List UInt8
  | [], _ => (0, [])
  | count :: counts, _ => (count, counts)

/-- Set back between the right strobe and the decision, then two rounds and the strobes of a third. -/
theorem sequencer_feeds_decisions_set_back :
    let c := { Robot.powerOn.control with avoidance := ⟨.decide, .holding, 7, ⟨3, 4⟩⟩ }
    let run := c.reset.avoidance.ticks scripted [0, 2, 0, 0, 9, 1] 8
    run.2.1.phase = .holding ∧ (run.1.flatMap Tick.strobes).length = 6 ∧
      ∃ readings, readings.length = 2 ∧ (c.reset.avoidance.after readings).phase = .holding := by
  intro c run
  have held : run.2.1.phase = .holding := by decide +kernel
  obtain ⟨length, ⟨readings, sequences⟩, -⟩ :=
    sequencer_feeds_decisions scripted (.reset c) [0, 2, 0, 0, 9, 1] 8
  have count := sequences.count
  have rounds := sequences.rounds
  rw [length] at count rounds
  exact ⟨held, count, readings, rounds, sequences.alike.phase.symm.trans held⟩

end Avoidance

end Rover
