import Rover.Avoidance
import Rover.Battery
import Rover.Settings.Basic
import Rover.Wire.Command
import Rover.Wire.Link

/-!
# The journal

What the rover did that can be seen from outside its state: messages sent to the host, and notes
for whoever watches the log. A note is kept as its cause; `Note.text` words it.
-/

namespace Rover
open Motion Wire
set_option autoImplicit false

inductive Refusal where
  | badInput
  | divideByZero
  | batteryLow (volts : Float32)
  | powerOff (volts : Float32)
  deriving DecidableEq, Repr

namespace Refusal

def text : Refusal → String
  | badInput => "bad input"
  | divideByZero => "division by zero"
  | batteryLow volts => s!"battery low ({Decimal.ofSingleFixed 2 volts} V)"
  | powerOff volts => s!"power off ({Decimal.ofSingleFixed 2 volts} V)"

def response (letter : UInt8) : Refusal → Message
  | badInput | divideByZero => .badInput letter
  | batteryLow volts => .batteryLow volts
  | powerOff volts => .powerOff volts

end Refusal

inductive Level where
  | debug
  | info
  | warn
  deriving DecidableEq, Repr

inductive Note where
  | dutySet (left right : Int16)
  | motorsStopping
  | phaseChanged (before after : Phase) (reading : Reading)
  | loopedBack (tag : UInt8) (format : String)
  | sending (tag : UInt8) (size : Nat)
  | writeFailed (tag : UInt8) (reason : String)
  | clearFailed (reason : String)
  | driveStarted (mode : DriveMode) (plan : Plan)
  | unknownLetter (letter : UInt8)
  | received (letter : UInt8) (size : Nat)
  | refused (letter : UInt8) (refusal : Refusal)
  | restartRequested
  | avoidanceStarted
  | restarting
  | warningArmed (volts : Float32)
  | batteryLow (volts : Float32)
  | dutyExpired
  | targetReached
  | stopExpired
  | linkFailed (error : LinkError)
  | running (loopMicros : Nat) (strategy : Strategy) (period : Float32)
  | shuttingDown
  deriving DecidableEq

namespace Note

def level : Note → Level
  | dutySet .. | phaseChanged .. | loopedBack .. | sending .. | received .. | warningArmed ..
  | dutyExpired => .debug
  | motorsStopping | driveStarted .. | restartRequested | avoidanceStarted | restarting | targetReached
  | stopExpired | running .. | shuttingDown => .info
  | writeFailed .. | clearFailed .. | unknownLetter .. | refused .. | batteryLow .. | linkFailed .. => .warn

def phaseName : Phase → String
  | .start => "Init"
  | .straight => "DriveStraight"
  | .turnLeft => "TurnLeft"
  | .turnRight => "TurnRight"
  | .holding => "Holding"

def sideName : Side → String
  | .left => "Left"
  | .right => "Right"

def modeName : DriveMode → String
  | .distance => "Distance"
  | .velocity => "Velocity"

def maneuverName : Maneuver → String
  | .straight => "Straight"
  | .spin => "Spin"
  | .arc => "Arc"

def strategyName : Strategy → String
  | .closedLoop => "ClosedLoop"
  | .directMapping => "DirectMapping"

def wheelText (plan : Plan) (side : Side) : String :=
  Decimal.ofSingleFixed 3 (plan.distance.get side) ++ "/" ++ Decimal.ofSingleFixed 3 (plan.velocity.get side)

def text : Note → String
  | dutySet left right => s!"Setting duty cycles: left={left.toInt}, right={right.toInt}"
  | motorsStopping => "Stopping both motors"
  | phaseChanged before after reading =>
    s!"Obstacle avoidance: {phaseName before} -> {phaseName after} " ++
      s!"(ProximityReading \x7b count: {reading.count.toNat}, side: {sideName reading.side} \x7d)"
  | loopedBack tag format => s!"Loopback send: tag={Text.quoteByte tag} format={format}"
  | sending tag size => s!"Sending {Text.quoteByte tag} ({size} bytes)"
  | writeFailed tag reason => s!"Failed to write {Text.quoteByte tag} message: {reason}"
  | clearFailed reason => s!"Failed to clear serial input: {reason}"
  | driveStarted mode plan =>
    s!"Starting {modeName mode} drive ({maneuverName plan.maneuver}): " ++
      s!"L={wheelText plan .left} R={wheelText plan .right}"
  | unknownLetter letter => s!"Unknown command byte {Text.hexByte letter}, flushing input"
  | received letter size => s!"Received {Text.quoteByte letter} ({size} bytes)"
  | refused letter refusal => s!"Rejected {Text.quoteByte letter} command: {refusal.text}"
  | restartRequested => "Restart requested"
  | avoidanceStarted => "Starting obstacle avoidance"
  | restarting => "Restarting: motors off, state reinitialized"
  | warningArmed volts => s!"Battery at {Decimal.ofSingleFixed 2 volts} V, arming low-battery warning"
  | batteryLow volts => s!"Battery low: {Decimal.ofSingleFixed 2 volts} V"
  | dutyExpired => "Timed PWM expired"
  | targetReached => "Distance target reached"
  | stopExpired => "Stop timer expired"
  | linkFailed error => s!"Link failed, stopping motors: {error.message}"
  | running loopMicros strategy period =>
    s!"Runtime started: {loopMicros}us loop, {strategyName strategy} control, " ++
      s!"{Decimal.ofSingle period} ms control period"
  | shuttingDown => "Shutting down"

def ofHalt (board : Board) : List Note := if board.enabled then [motorsStopping] else []

def ofDuty (left right : Int16) : List Note := [dutySet (clampDuty left) (clampDuty right)]

def ofSend (link : Link) (message : Message) (outcome : Outcome) : List Note :=
  match link.transport with
  | .loopback => [loopedBack message.tag message.format]
  | .line _ =>
    sending message.tag message.encode.length ::
      (outcome.map fun fault => writeFailed message.tag fault.description).toList

def ofFlush (outcome : Outcome) : List Note :=
  (outcome.map fun fault => clearFailed fault.description).toList

def ofDecision (before after : Avoidance) (reading : Reading) : List Note :=
  if before.phase = after.phase then [] else [phaseChanged before.phase after.phase reading]

end Note

inductive Event where
  | sent (message : Message)
  | noted (note : Note)
  deriving DecidableEq

abbrev Journal := Array Event

namespace Journal

def messages (journal : Journal) : List Message :=
  journal.toList.filterMap fun
    | .sent message => some message
    | .noted _ => none

def notes (journal : Journal) : List Note :=
  journal.toList.filterMap fun
    | .sent _ => none
    | .noted note => some note

end Journal

end Rover
