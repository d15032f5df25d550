import Rover.Board
import Rover.Motion.Plan

/-!
# Obstacle avoidance

Two machines, one inside the other. The outer one spreads the work over three ticks: strobe the
left, strobe the right, decide. The inner one turns away from the side that reflects, holds the turn
for a fixed number of decisions after the way is clear, and then drives straight again.
-/

namespace Rover
open Motion
set_option autoImplicit false

inductive Phase where
  | start
  | straight
  | turnLeft
  | turnRight
  | holding
  deriving DecidableEq, Repr

inductive Step where
  | strobeLeft
  | strobeRight
  | decide
  deriving DecidableEq, Repr

structure Reading where
  count : UInt8
  side : Side
  deriving DecidableEq, Repr

/-- Equal counts are read on the left. -/
def Reading.ofCounts (left right : UInt8) : Reading :=
  if left ≥ right then ⟨left, .left⟩ else ⟨right, .right⟩

def Reading.isClear (reading : Reading) : Bool := reading.count == 0

/-- New wheel speeds; the first decision also switches velocity control on. -/
structure Decision where
  velocity : Wheels Float32
  engage : Bool
  deriving DecidableEq, Repr

structure Avoidance where
  step : Step
  phase : Phase
  held : Nat
  counts : Wheels UInt8
  deriving DecidableEq, Repr

namespace Avoidance

def fresh : Avoidance := ⟨.strobeLeft, .start, 0, .both 0⟩

/-- Decisions for which a turn is held after the way is clear. -/
def holdLimit : Nat := 200

def straightSpeeds : Wheels Float32 := speedsOfDuty 25

def innerSpeed : Float32 := 1

def outerSpeed : Float32 := innerSpeed + Geometry.standard.wheelBase * 1

def turnFrom : Side → Phase × Wheels Float32
  | .right => (.turnLeft, ⟨innerSpeed, outerSpeed⟩)
  | .left => (.turnRight, ⟨outerSpeed, innerSpeed⟩)

def decide (a : Avoidance) (reading : Reading) : Option Decision × Avoidance :=
  match a.phase with
  | .start =>
    let (phase, velocity) := if reading.isClear then (.straight, straightSpeeds) else turnFrom reading.side
    (some ⟨velocity, true⟩, { a with phase })
  | .straight =>
    if reading.isClear then (none, a)
    else
      let (phase, velocity) := turnFrom reading.side
      (some ⟨velocity, false⟩, { a with phase })
  | .turnLeft | .turnRight => (none, if reading.isClear then { a with phase := .holding } else a)
  | .holding =>
    if a.held + 1 ≥ holdLimit then (some ⟨straightSpeeds, false⟩, { a with phase := .straight, held := 0 })
    else (none, { a with held := a.held + 1 })

def reading (a : Avoidance) : Reading := .ofCounts a.counts.left a.counts.right

def tick (a : Avoidance) (board : Board) : Option Decision × Avoidance × Board :=
  match a.step with
  | .strobeLeft =>
    let (count, board) := board.strobe .left
    (none, { a with counts := a.counts.set .left count, step := .strobeRight }, board)
  | .strobeRight =>
    let (count, board) := board.strobe .right
    (none, { a with counts := a.counts.set .right count, step := .decide }, board)
  | .decide =>
    let (decision, a) := { a with step := .strobeLeft }.decide a.reading
    (decision, a, board)

end Avoidance

end Rover
