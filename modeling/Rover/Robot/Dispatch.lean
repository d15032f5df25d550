import Rover.Robot.Basic

/-!
# Dispatching commands

On each turn at most one command is taken out of the inbox, once all of its frame has arrived. It
is either carried out whole or refused: refusing sends one answer and changes nothing else. A letter
that no command begins with throws away everything received.
-/

namespace Rover
open Motion Wire
set_option autoImplicit false

namespace Robot

/-- Seconds that can be waited for; a NaN cannot. -/
def positive (seconds : Float32) : Except Refusal Float32 :=
  if seconds > 0 then .ok seconds else .error .badInput

def limit : Option FloatWord → Except Refusal (Option Float32)
  | none => .ok none
  | some seconds => (positive seconds.value).map some

def checkPower (r : Robot) : Except Refusal Unit :=
  match r.control.battery.power with
  | .ok => .ok ()
  | .low => .error (.batteryLow r.control.battery.volts)
  | .off => .error (.powerOff r.control.battery.volts)

def compute (op : Operation) (lhs rhs : Float32) : Except Refusal Float32 :=
  match op with
  | .multiply => .ok (lhs * rhs)
  | .divide => if rhs == 0 then .error .divideByZero else .ok (lhs / rhs)
  | .add => .ok (lhs + rhs)
  | .subtract => .ok (lhs - rhs)

def timingTask : Timing → Task
  | .clock => .clockReport
  | .floatTrip => .floatTrip
  | .loop => .loopTimer

def streamTask : Stream → Task
  | .encoders => .encoderReport
  | .battery => .batteryReport
  | .status => .statusReport
  | .proximity => .proximityReport

def armReport (r : Robot) (task : Task) : Option FloatWord → Except Refusal Robot
  | none => .ok (r.arm task .once)
  | some seconds => do
    let seconds ← positive seconds.value
    return r.arm task (·.every (seconds * 1000))

/-- Discards a measurement under way: a new one starts with the next due task. -/
def forgetStart (r : Robot) : Timing → Robot
  | .clock => r
  | .floatTrip => r.setControl { r.control with tripStart := none }
  | .loop => r.setControl { r.control with loopStart := none }

def maneuverText : Maneuver → String
  | .straight => "Go Str"
  | .spin | .arc => "Turn"

def armStopTimer (r : Robot) : Option Float32 → Robot
  | none => r
  | some seconds => r.setControl (r.control.armStopTimer seconds r.board.clock)

def carryOut (r : Robot) (letter : UInt8) : Command → Except Refusal Robot
  | .restart => .ok ((r.note .restartRequested).arm .restart .once)
  | .arithmetic op lhs rhs => do
    let value ← compute op lhs.value rhs.value
    return r.send (.float letter value)
  | .time action period => do
    let some timing := Timing.ofByte? action | .error .badInput
    let r ← r.armReport (timingTask timing) period
    return r.forgetStart timing
  | .report stream period => r.armReport (streamTask stream) period
  | .duty left right seconds? => do
    r.checkPower
    let stopAfter ← limit seconds?
    let r := (r.setControl r.control.retireMotion).drive left right
    match stopAfter with
    | none => return r
    | some seconds => return r.arm .timedDuty (·.timer (seconds * 1000) r.board.clock)
  | .stop => .ok r.stop
  | .drive mode linear angular seconds? => do
    r.checkPower
    let stopAfter ← limit seconds?
    let plan := plan .standard mode linear.value angular.value
    let r := if r.control.setup.diagnostics then r.send (.text letter (maneuverText plan.maneuver)) else r
    return (r.startDrive mode plan).armStopTimer stopAfter
  | .avoid seconds? => do
    r.checkPower
    let stopAfter ← limit seconds?
    return ((r.note .avoidanceStarted).setControl r.control.startAvoidance).armStopTimer stopAfter

def refuse (r : Robot) (letter : UInt8) (refusal : Refusal) : Robot :=
  (r.note (.refused letter refusal)).send (refusal.response letter)

def obey (r : Robot) (letter : UInt8) (frame : Bytes) : Robot :=
  match Command.decode frame with
  | none => r.refuse letter .badInput
  | some command =>
    match r.carryOut letter command with
    | .ok r => r
    | .error refusal => r.refuse letter refusal

def flushInput (r : Robot) : Robot :=
  let (outcome, link) := r.link.flushInput
  { r with link }.notes (Note.ofFlush outcome)

def poll (r : Robot) : Robot :=
  match r.link.inbox.peek? with
  | none => { r with dispatch := .idle }
  | some letter =>
    let needed := frameLength letter
    if needed = 0 then
      let r := ((r.note (.unknownLetter letter)).flushInput).send (.badInput letter)
      { r with dispatch := .idle }
    else if r.link.inbox.size < needed then { r with dispatch := .waiting letter needed }
    else
      let (frame, link) := r.link.take needed
      let r := ({ r with link }.note (.received letter frame.length)).obey letter frame
      { r with dispatch := .processed letter }

end Robot

end Rover
