import Rover.Motion.Regulator
import Rover.Numeric.Decimal
import Rover.Settings.Misfit

/-!
# Settings

What may be chosen for a rover: how duty cycles are derived, whether diagnostics are sent, and how
the wheels are controlled. Settings are good exactly when both wheel regulators can be built from
them; `Setup` holds what was built.
-/

namespace Rover
open Motion Signal
set_option autoImplicit false

/-- How duty cycles come about while a drive is on: from the measured speed through a filter, or
straight from the target speed. -/
inductive Strategy where
  | closedLoop
  | directMapping
  deriving DecidableEq, Repr

def Strategy.flagName : Strategy → String
  | .closedLoop => "closed-loop"
  | .directMapping => "direct-mapping"

/-- The strategy of a name, upper and lower case of ASCII letters told apart or not. -/
def Strategy.ofFlagName? (name : String) (ignoreCase : Bool) : Option Strategy :=
  [Strategy.closedLoop, .directMapping].find? fun strategy =>
    if ignoreCase then name.toList.map Char.toLower == strategy.flagName.toList
    else name == strategy.flagName

structure Settings where
  strategy : Strategy
  diagnostics : Bool
  period : Float32
  tuning : Wheels Tuning
  deriving DecidableEq, Repr

def Settings.standard : Settings where
  strategy := .directMapping
  diagnostics := false
  period := 10
  tuning :=
    ⟨⟨0.1875335, [0.187533508705, 0.124897316798], [1, -1]⟩,
      ⟨0.1728258, [0.172825818795, 0.130440286735], [1, -1]⟩⟩

inductive SettingsError where
  | unreadable (reason : String)
  | malformed
  | misfit (m : Misfit)
  | regulator (fault : RegulatorFault)
  deriving DecidableEq, Repr

def SettingsError.message : SettingsError → String
  | .unreadable reason => "IO error: " ++ reason
  | .malformed => "Invalid config file: not JSON"
  | .misfit m => "Invalid config file: " ++ m.message
  | .regulator (.coefficients fault) => "Invalid filter coefficients: " ++ fault.message
  | .regulator (.period millis) => s!"Invalid update period: {Decimal.ofSingle millis} ms"

structure Setup where
  strategy : Strategy
  diagnostics : Bool
  regulators : Wheels Regulator
  deriving DecidableEq, Repr

namespace Settings

/-- The first fault: of the period, of the left wheel's coefficients, of the right wheel's. -/
def fault? (settings : Settings) : Option RegulatorFault :=
  if settings.period > 0 then
    let coefficients (t : Tuning) := (Filter.fault? t.numerator t.denominator).map RegulatorFault.coefficients
    (coefficients settings.tuning.left).or (coefficients settings.tuning.right)
  else some (.period settings.period)

def validate (settings : Settings) : Except SettingsError Unit :=
  match settings.fault? with
  | some fault => .error (.regulator fault)
  | none => .ok ()

def setup (settings : Settings) : Except SettingsError Setup := do
  settings.validate
  let build (t : Tuning) := (Regulator.ofTuning t settings.period).mapError SettingsError.regulator
  let left ← build settings.tuning.left
  let right ← build settings.tuning.right
  return ⟨settings.strategy, settings.diagnostics, ⟨left, right⟩⟩

end Settings

end Rover
