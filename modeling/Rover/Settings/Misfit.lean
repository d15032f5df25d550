import Rover.Numeric.Decimal
import Rover.Text.Quoted

/-!
# Values that do not fit

Why a well-formed document does not describe settings.
-/

namespace Rover
set_option autoImplicit false

/-- What a document holds at a place where something else is expected. -/
inductive Found where
  | null
  | boolean (b : Bool)
  | integer (n : Int)
  | real (x : Float)
  | text (s : String)
  | sequence
  | map
  deriving DecidableEq, Repr

def ticked (s : String) : String := "`" ++ s ++ "`"

def Found.describe : Found → String
  | .null => "null"
  | .boolean b => "boolean " ++ ticked (toString b)
  | .integer n => "integer " ++ ticked (toString n)
  | .real x => "floating point " ++ ticked (Decimal.ofDouble x)
  | .text s => "string " ++ Text.quoteString s
  | .sequence => "sequence"
  | .map => "map"

inductive Misfit where
  | kind (found : Found) (expected : String)
  | length (n : Nat) (expected : String)
  | variant (name : String) (known : List String)
  | missing (field : String)
  | repeated (field : String)
  deriving DecidableEq, Repr

def Misfit.message : Misfit → String
  | .kind found expected => "invalid type: " ++ found.describe ++ ", expected " ++ expected
  | .length n expected => "invalid length " ++ toString n ++ ", expected " ++ expected
  | .variant name known =>
    "unknown variant " ++ ticked name ++ ", expected " ++ " or ".intercalate (known.map ticked)
  | .missing field => "missing field " ++ ticked field
  | .repeated field => "duplicate field " ++ ticked field

end Rover
