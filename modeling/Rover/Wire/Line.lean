import Rover.Wire.Field

/-!
# A serial line and its faults

What the rover sees of a serial line: bytes that have arrived but were not read, a transmitter, and
a script that says which of the coming calls fail. A call that fails moves no bytes. `writeAll`
repeats short and interrupted writes until every byte is out or a write fails for good.
-/

namespace Rover.Wire
set_option autoImplicit false

inductive FaultKind where
  | timedOut
  | interrupted
  | other
  deriving DecidableEq, Repr

structure Fault where
  kind : FaultKind
  description : String
  deriving DecidableEq, Repr

abbrev Outcome := Option Fault

/-- Outcomes of future calls, first to last. Calls beyond the end of a list succeed. -/
structure Script where
  countWaiting : List Outcome := []
  countPending : List Outcome := []
  name : List Outcome := []
  read : List Outcome := []
  write : List Outcome := []
  flush : List Outcome := []
  clear : List Outcome := []
  deriving DecidableEq

inductive LineCall where
  | read (size : Nat)
  | write (size : Nat)
  | flush
  | clearInput
  deriving DecidableEq, Repr

structure Line where
  device : String
  arriving : Bytes := []
  pending : Nat := 0
  /-- The count of waiting bytes that the line reports in place of the true one. -/
  reported : Option Nat := none
  readChunk : Option Nat := none
  writeChunk : Option Nat := none
  script : Script := {}
  written : Array UInt8 := #[]
  calls : Array LineCall := #[]
  deriving DecidableEq

namespace Line

def atMost (limit : Option Nat) (n : Nat) : Nat :=
  match limit with
  | none => n
  | some most => min most n

def next (outcomes : List Outcome) : Outcome := outcomes.head?.join

def log (line : Line) (call : LineCall) : Line := { line with calls := line.calls.push call }

def countWaiting (line : Line) : Except Fault Nat × Line :=
  let left := { line with script.countWaiting := line.script.countWaiting.tail }
  match next line.script.countWaiting with
  | some fault => (.error fault, left)
  | none => (.ok (line.reported.getD line.arriving.length), left)

def countPending (line : Line) : Except Fault Nat × Line :=
  let left := { line with script.countPending := line.script.countPending.tail }
  match next line.script.countPending with
  | some fault => (.error fault, left)
  | none => (.ok line.pending, left)

def name? (line : Line) : Option String × Line :=
  let left := { line with script.name := line.script.name.tail }
  match next line.script.name with
  | some _ => (none, left)
  | none => (some line.device, left)

def read (line : Line) (size : Nat) : Except Fault Bytes × Line :=
  let left := { line.log (.read size) with script.read := line.script.read.tail }
  match next line.script.read with
  | some fault => (.error fault, left)
  | none =>
    let moved := atMost line.readChunk size
    (.ok (line.arriving.take moved), { left with arriving := line.arriving.drop moved })

def clearInput (line : Line) : Outcome × Line :=
  let left := { line.log .clearInput with script.clear := line.script.clear.tail }
  match next line.script.clear with
  | some fault => (some fault, left)
  | none => (none, { left with arriving := [] })

def flush (line : Line) : Outcome × Line :=
  (next line.script.flush, { line.log .flush with script.flush := line.script.flush.tail })

def nothingWritten : Fault := ⟨.other, "failed to write whole buffer"⟩

theorem length_tail_lt_of_next {outcomes : List Outcome} {fault : Fault} (h : next outcomes = some fault) :
    outcomes.tail.length < outcomes.length := by
  cases outcomes with
  | nil => cases h
  | cons _ _ => simp

/-- A write that moves no byte is a fault. -/
def writeAll (line : Line) (data : Bytes) : Outcome × Line :=
  match data with
  | [] => (none, line)
  | b :: rest =>
    let size := (b :: rest).length
    let left := { line.log (.write size) with script.write := line.script.write.tail }
    match _h : next line.script.write with
    | some fault => if fault.kind = .interrupted then writeAll left (b :: rest) else (some fault, left)
    | none =>
      let moved := atMost line.writeChunk size
      if moved = 0 then (some nothingWritten, left)
      else
        writeAll { left with written := line.written ++ ((b :: rest).take moved).toArray }
          ((b :: rest).drop moved)
termination_by line.script.write.length + data.length
decreasing_by
  · have := length_tail_lt_of_next _h
    simp only [List.length_cons]
    omega
  · have some_moved : ¬ atMost line.writeChunk (rest.length + 1) = 0 := ‹_›
    simp only [List.length_tail, List.length_drop, List.length_cons]
    omega

end Line

end Rover.Wire
