import Rover.Control
import Rover.Journal

/-!
# The robot

Board, link and control state together, with the state of the command dispatcher and a journal that
is only ever added to. The operations here pair what changes in the control state with what happens
to the board.
-/

namespace Rover
open Motion Wire
set_option autoImplicit false

/-- What the dispatcher made of the inbound bytes on its latest turn. -/
inductive Dispatch where
  | idle
  | waiting (letter : UInt8) (needed : Nat)
  | processed (letter : UInt8)
  deriving DecidableEq, Repr

structure Robot where
  board : Board
  link : Link
  control : Control
  dispatch : Dispatch := .idle
  journal : Journal := #[]

namespace Robot

/-- The battery filter starts from the board's reading. -/
def start (settings : Settings) (board : Board) (link : Link) : Except SettingsError Robot := do
  let control ← Control.ofSettings settings
  return { board, link, control := { control with battery := control.battery.settle board.battery } }

def note (r : Robot) (n : Note) : Robot := { r with journal := r.journal.push (.noted n) }

def notes (r : Robot) (ns : List Note) : Robot := ns.foldl note r

def send (r : Robot) (message : Message) : Robot :=
  let (outcome, link) := r.link.send message
  { r with link, journal := r.journal.push (.sent message) }.notes (Note.ofSend r.link message outcome)

def setControl (r : Robot) (control : Control) : Robot := { r with control }

def arm (r : Robot) (task : Task) (f : Flag → Flag) : Robot := r.setControl (r.control.arm task f)

def halt (r : Robot) : Robot := { r with board := r.board.halt }.notes (Note.ofHalt r.board)

def drive (r : Robot) (left right : Int16) : Robot :=
  { r with board := r.board.drive left right }.notes (Note.ofDuty left right)

def stop (r : Robot) : Robot :=
  let r := r.halt
  { r with board := r.board.setLight .red false, control := r.control.stop }

def finishDrive (r : Robot) : Robot := r.halt.setControl r.control.finish

def startDrive (r : Robot) (mode : DriveMode) (plan : Plan) : Robot :=
  { r with board := r.board.zeroEncoders, control := r.control.start mode plan }.note
    (.driveStarted mode plan)

def engage (r : Robot) (velocity : Wheels Float32) : Robot :=
  { r with board := r.board.zeroEncoders, control := r.control.engage velocity }

def avoidanceTick (r : Robot) : Option Decision × Robot :=
  let before := r.control.avoidance
  let (decision, after, board) := before.tick r.board
  (decision, { r with board, control := { r.control with avoidance := after } }.notes
    (Note.ofDecision before after before.reading))

end Robot

end Rover
