import Rover.Motion.Plan
import Rover.Wire.Field

/-!
# Commands from the host

A command is one letter and a packed payload whose width the letter alone decides; nothing
delimits or checks it. Most letters come in two cases: the upper-case form ends in one more float,
the seconds of a period or of a time limit. `Command.encode` writes the only accepted form but for
the stop command, which is read in either case.
-/

namespace Rover.Wire
open Motion
set_option autoImplicit false

inductive Operation where
  | multiply
  | divide
  | add
  | subtract
  deriving DecidableEq, Repr

inductive Timing where
  | clock
  | floatTrip
  | loop
  deriving DecidableEq, Repr

def Timing.ofByte? : UInt8 → Option Timing
  | 0 => some .clock
  | 1 => some .floatTrip
  | 2 => some .loop
  | _ => none

def Timing.toByte : Timing → UInt8
  | .clock => 0
  | .floatTrip => 1
  | .loop => 2

inductive Stream where
  | encoders
  | battery
  | status
  | proximity
  deriving DecidableEq, Repr

/-- Periods and limits are in seconds; they are absent in the lower-case form. -/
inductive Command where
  | restart
  | arithmetic (op : Operation) (lhs rhs : FloatWord)
  /-- The action byte is as received: unknown ones are refused when the command is carried out. -/
  | time (action : UInt8) (period : Option FloatWord)
  | report (stream : Stream) (period : Option FloatWord)
  | duty (left right : Int16) (limit : Option FloatWord)
  | stop
  /-- Meters and radians, or meters and radians a second. -/
  | drive (mode : DriveMode) (linear angular : FloatWord) (limit : Option FloatWord)
  | avoid (limit : Option FloatWord)
  deriving DecidableEq, Repr

inductive Head where
  | restart
  | arithmetic (op : Operation)
  | time (timed : Bool)
  | report (stream : Stream) (timed : Bool)
  | duty (timed : Bool)
  | stop
  | drive (mode : DriveMode) (timed : Bool)
  | avoid (timed : Bool)
  deriving DecidableEq, Repr

namespace Head

def ofChar? : Char → Option Head
  | '~' => some .restart
  | '*' => some (.arithmetic .multiply)
  | '/' => some (.arithmetic .divide)
  | '+' => some (.arithmetic .add)
  | '-' => some (.arithmetic .subtract)
  | 't' => some (.time false)
  | 'T' => some (.time true)
  | 'e' => some (.report .encoders false)
  | 'E' => some (.report .encoders true)
  | 'b' => some (.report .battery false)
  | 'B' => some (.report .battery true)
  | 'q' => some (.report .status false)
  | 'Q' => some (.report .status true)
  | 'i' => some (.report .proximity false)
  | 'I' => some (.report .proximity true)
  | 'p' => some (.duty false)
  | 'P' => some (.duty true)
  | 's' => some .stop
  | 'S' => some .stop
  | 'd' => some (.drive .distance false)
  | 'D' => some (.drive .distance true)
  | 'v' => some (.drive .velocity false)
  | 'V' => some (.drive .velocity true)
  | 'o' => some (.avoid false)
  | 'O' => some (.avoid true)
  | _ => none

def ofByte? (b : UInt8) : Option Head := ofChar? (Char.ofUInt8 b)

def toByte : Head → UInt8
  | .restart => '~'.toUInt8
  | .arithmetic .multiply => '*'.toUInt8
  | .arithmetic .divide => '/'.toUInt8
  | .arithmetic .add => '+'.toUInt8
  | .arithmetic .subtract => '-'.toUInt8
  | .time timed => cased 't' timed
  | .report .encoders timed => cased 'e' timed
  | .report .battery timed => cased 'b' timed
  | .report .status timed => cased 'q' timed
  | .report .proximity timed => cased 'i' timed
  | .duty timed => cased 'p' timed
  | .stop => 's'.toUInt8
  | .drive .distance timed => cased 'd' timed
  | .drive .velocity timed => cased 'v' timed
  | .avoid timed => cased 'o' timed
where
  cased (letter : Char) (upper : Bool) : UInt8 :=
    if upper then letter.toUpper.toUInt8 else letter.toUInt8

def tailWidth (timed : Bool) : Nat := if timed then floatField.width else 0

def payloadWidth : Head → Nat
  | .restart | .stop => 0
  | .arithmetic _ => 2 * floatField.width
  | .time timed => byteField.width + tailWidth timed
  | .report _ timed | .avoid timed => tailWidth timed
  | .duty timed => 2 * shortField.width + tailWidth timed
  | .drive _ timed => 2 * floatField.width + tailWidth timed

theorem ofByte?_toByte (head : Head) : ofByte? head.toByte = some head := by
  rcases head with _ | op | timed | ⟨stream, timed⟩ | timed | _ | ⟨mode, timed⟩ | timed
  all_goals try cases op
  all_goals try cases stream
  all_goals try cases mode
  all_goals try cases timed
  all_goals rfl

end Head

/-- Length of the whole frame that begins with this byte, zero if no command does. -/
def frameLength (b : UInt8) : Nat :=
  match Head.ofByte? b with
  | none => 0
  | some head => 1 + head.payloadWidth

namespace Command

def head : Command → Head
  | .restart => .restart
  | .arithmetic op _ _ => .arithmetic op
  | .time _ period => .time period.isSome
  | .report stream period => .report stream period.isSome
  | .duty _ _ limit => .duty limit.isSome
  | .stop => .stop
  | .drive mode _ _ limit => .drive mode limit.isSome
  | .avoid limit => .avoid limit.isSome

def writeTail : Option FloatWord → Bytes
  | none => []
  | some seconds => floatField.write seconds

def payload : Command → Bytes
  | .restart | .stop => []
  | .arithmetic _ lhs rhs => floatField.write lhs ++ floatField.write rhs
  | .time action period => byteField.write action ++ writeTail period
  | .report _ period => writeTail period
  | .duty left right limit => shortField.write left ++ shortField.write right ++ writeTail limit
  | .drive _ linear angular limit =>
    floatField.write linear ++ floatField.write angular ++ writeTail limit
  | .avoid limit => writeTail limit

def encode (command : Command) : Bytes := command.head.toByte :: command.payload

def readTail (timed : Bool) (bytes : Bytes) : Option (Option FloatWord) :=
  if timed then (floatField.read bytes).map fun (seconds, _) => some seconds else some none

def readPayload (bytes : Bytes) : Head → Option Command
  | .restart => some .restart
  | .stop => some .stop
  | .arithmetic op => do
    let (lhs, bytes) ← floatField.read bytes
    let (rhs, _) ← floatField.read bytes
    return .arithmetic op lhs rhs
  | .time timed => do
    let (action, bytes) ← byteField.read bytes
    return .time action (← readTail timed bytes)
  | .report stream timed => (readTail timed bytes).map (.report stream)
  | .duty timed => do
    let (left, bytes) ← shortField.read bytes
    let (right, bytes) ← shortField.read bytes
    return .duty left right (← readTail timed bytes)
  | .drive mode timed => do
    let (linear, bytes) ← floatField.read bytes
    let (angular, bytes) ← floatField.read bytes
    return .drive mode linear angular (← readTail timed bytes)
  | .avoid timed => (readTail timed bytes).map .avoid

/-- The same command with each float in its one spelling. -/
def normal : Command → Command
  | .arithmetic op lhs rhs => .arithmetic op lhs.normal rhs.normal
  | .time action period => .time action (period.map FloatWord.normal)
  | .report stream period => .report stream (period.map FloatWord.normal)
  | .duty left right limit => .duty left right (limit.map FloatWord.normal)
  | .drive mode linear angular limit =>
    .drive mode linear.normal angular.normal (limit.map FloatWord.normal)
  | .avoid limit => .avoid (limit.map FloatWord.normal)
  | command => command

def decode : Bytes → Option Command
  | [] => none
  | b :: rest => (Head.ofByte? b).bind (readPayload rest)

end Command

end Rover.Wire
