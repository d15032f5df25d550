import Rover.Settings.Record

/-!
# Loading settings

Settings are kept as JSON: a record of up to five fields, each of which has its standard value when
it is missing. The tuning of a wheel is a record of three fields that are all required. What is
loaded has been validated.
-/

namespace Rover.Settings
open Json Motion
set_option autoImplicit false

def singleOf : Number → Float32
  | .whole n =>
    let magnitude := (UInt64.ofNat n.natAbs).toFloat32
    if n < 0 then -magnitude else magnitude
  | .real x => x.toFloat32

/-- A single, by way of a double where it is not written as a whole number. -/
def readSingle : Reader Float32
  | .number numeral :: _ =>
    match numeral.value? with
    | some number => .ok (.first (singleOf number))
    | none => .error .malformed
  | tokens => .error (mismatch tokens "f32")

def readSingles (tokens : List Token) : Reading (List Float32) tokens :=
  match readSingle tokens with
  | .error fault => .error fault
  | .ok ⟨x, rest, shorter⟩ =>
    match rest with
    | .closeList :: _ => .ok (.close [x] shorter)
    | .comma :: rest => (readSingles rest).map fun taken => (taken.map (x :: ·)).after shorter
    | _ => .error .malformed
termination_by tokens.length
decreasing_by exact Nat.lt_of_succ_lt shorter

def readSingleList : Reader (List Float32)
  | .openList :: .closeList :: _ => .ok (.second [])
  | .openList :: rest => (readSingles rest).map (·.behind .openList)
  | tokens => .error (mismatch tokens "a sequence")

def readBoolean : Reader Bool
  | .boolean b :: _ => .ok (.first b)
  | tokens => .error (mismatch tokens "a boolean")

def strategyKey : Strategy → String
  | .closedLoop => "closed_loop"
  | .directMapping => "direct_mapping"

def strategyOf (pieces : List Piece) : Except SettingsError Strategy :=
  match Piece.text? pieces with
  | none => .error .malformed
  | some cs =>
    let strategies := [Strategy.closedLoop, .directMapping]
    match strategies.find? fun strategy => strategyKey strategy == String.ofList cs with
    | some strategy => .ok strategy
    | none => .error (.misfit (.variant (String.ofList cs) (strategies.map strategyKey)))

def readNothing : Reader Unit
  | .colon :: .null :: .closeMap :: _ => .ok ((Taken.second ()).behind Token.colon)
  | .colon :: .null :: _ => .error .malformed
  | .colon :: tokens => .error (mismatch tokens "unit")
  | _ => .error .malformed

/-- A name, or a map of one name to null. Nothing but a text can stand where the name does. -/
def readStrategy : Reader Strategy
  | .text pieces :: _ => (strategyOf pieces).map fun strategy => .first strategy
  | .openMap :: .text pieces :: rest =>
    match strategyOf pieces with
    | .error fault => .error fault
    | .ok strategy =>
      (readNothing rest).map fun taken =>
        ((taken.map fun _ => strategy).behind (.text pieces)).behind .openMap
  | _ => .error .malformed

structure TuningDraft where
  gain : Option Float32 := none
  numerator : Option (List Float32) := none
  denominator : Option (List Float32) := none

def tuningEntries : List (Entry TuningDraft) :=
  [.of "kp" readSingle fun draft gain => { draft with gain := some gain },
    .of "b" readSingleList fun draft numerator => { draft with numerator := some numerator },
    .of "a" readSingleList fun draft denominator => { draft with denominator := some denominator }]

/-- What is missing: of a list, so many elements; of a map, the first field that is not there. -/
def TuningDraft.fault (draft : TuningDraft) : Option Nat → SettingsError
  | some count => .misfit (.length count "struct ControllerTuning with 3 elements")
  | none =>
    .misfit (.missing (if draft.gain.isNone then "kp" else if draft.numerator.isNone then "b" else "a"))

def readTuning : Reader Tuning := fun tokens => do
  let taken ← readRecord "struct ControllerTuning" tuningEntries {} tokens
  let (draft, count) := taken.value
  match draft with
  | ⟨some gain, some numerator, some denominator⟩ => return taken.map fun _ => ⟨gain, numerator, denominator⟩
  | _ => .error (draft.fault count)

def entries : List (Entry Settings) :=
  [.of "strategy" readStrategy fun settings strategy => { settings with strategy },
    .of "diagnostics" readBoolean fun settings diagnostics => { settings with diagnostics },
    .of "update_period_ms" readSingle fun settings period => { settings with period },
    .of "left" readTuning fun settings left => { settings with tuning.left := left },
    .of "right" readTuning fun settings right => { settings with tuning.right := right }]

def ofText (text : String) : Except SettingsError Settings := do
  let taken ← readRecord "struct RuntimeConfig" entries .standard (Token.scan text.toList)
  if taken.rest.isEmpty then return taken.value.1 else .error .malformed

def load (contents : List UInt8) : Except SettingsError Settings := do
  let some text := String.fromUTF8? contents.toByteArray | .error (.unreadable "stream did not contain valid UTF-8")
  let settings ← ofText text
  settings.validate
  return settings

end Rover.Settings
