import Rover.Motion.Speed
import Rover.Time

/-!
# The board

Motors, encoders, battery, infrared sensor, lights and clock, as a simulated rover has them. A duty
cycle turns a wheel at the speed the duty map gives, and `service` turns the time that has passed
into encoder counts. Clock, battery and infrared reflections are set from outside.
-/

namespace Rover
open Motion
set_option autoImplicit false

inductive Light where
  | red
  | green
  | blue
  deriving DecidableEq, Repr

structure Lights where
  red : Bool := false
  green : Bool := false
  blue : Bool := false
  deriving DecidableEq, Repr

def Lights.set (lights : Lights) (light : Light) (on : Bool) : Lights :=
  match light with
  | .red => { lights with red := on }
  | .green => { lights with green := on }
  | .blue => { lights with blue := on }

/-- Volts, percent of duty (negative backwards) and encoder counts, which wrap. The residual is travel of
less than a count, carried to the next service. -/
structure Board where
  clock : Time := .zero
  battery : Float32 := 5
  duty : Wheels Int16 := .both 0
  enabled : Bool := false
  counts : Wheels Int32 := .both 0
  residual : Wheels Float32 := .both 0
  lastService : Time := .zero
  reflections : Wheels UInt8 := .both 0
  strobes : Nat := 0
  lights : Lights := {}
  deriving DecidableEq, Repr

namespace Board

def wheelSpeed (board : Board) (side : Side) : Float32 :=
  let duty := board.duty.get side
  if !board.enabled || duty == 0 then 0
  else
    let speed := speedOfDuty side (Int16.ofIntClamp duty.toInt.natAbs)
    if duty < 0 then -speed else speed

def turned (board : Board) (side : Side) (dt : Float32) : Float32 :=
  board.residual.get side + board.wheelSpeed side * dt * countsPerMeter

def moveFor (board : Board) (dt : Float32) : Board :=
  let left := board.turned .left dt
  let right := board.turned .right dt
  { board with
    counts := ⟨board.counts.left + Single.toInt32 (Single.wholePart left),
      board.counts.right + Single.toInt32 (Single.wholePart right)⟩
    residual := ⟨left - Single.wholePart left, right - Single.wholePart right⟩ }

def service (board : Board) : Board :=
  let dt := (board.clock.since board.lastService).toSeconds
  let board := { board with lastService := board.clock }
  if dt > 0 then board.moveFor dt else board

def advance (board : Board) (micros : Nat) : Board :=
  { board with clock := board.clock.after micros }

def record (board : Board) (side : Side) (delta : Int32) : Board :=
  { board with counts := board.counts.set side (board.counts.get side + delta) }

def zeroEncoders (board : Board) : Board :=
  { board with counts := .both 0, residual := .both 0 }

def distances (board : Board) : Wheels Float32 := board.counts.map distanceOfCounts

def setDuty (board : Board) (left right : Int16) : Board :=
  { board with duty := ⟨clampDuty left, clampDuty right⟩ }

def drive (board : Board) (left right : Int16) : Board :=
  { board.setDuty left right with enabled := true }

def halt (board : Board) : Board := { board with duty := .both 0, enabled := false }

def strobe (board : Board) (side : Side) : UInt8 × Board :=
  (board.reflections.get side, { board with strobes := board.strobes + 1 })

def setLight (board : Board) (light : Light) (on : Bool) : Board :=
  { board with lights := board.lights.set light on }

end Board

end Rover
