import Rover.Json.Token

/-!
# Skipping a value

Values that nobody asks for are still checked to be values. The check is a machine over tokens: it
holds the brackets that are open and what must come next, and ends when a value is complete with no
bracket open.
-/

namespace Rover.Json
set_option autoImplicit false

inductive Bracket where
  | list
  | map
  deriving DecidableEq, Repr

/-- What must come next. At the beginning of a list or a map that may also be its end. -/
inductive Awaited where
  | value
  | element
  | key
  | member
  | colon
  | separator
  deriving DecidableEq, Repr

def beginValue (brackets : List Bracket) : Token → Option (List Bracket × Awaited)
  | .null | .boolean _ | .number _ | .text _ => some (brackets, .separator)
  | .openList => some (.list :: brackets, .element)
  | .openMap => some (.map :: brackets, .member)
  | _ => none

def beginMember (brackets : List Bracket) : Token → Option (List Bracket × Awaited)
  | .text _ => some (brackets, .colon)
  | _ => none

def afterToken (brackets : List Bracket) (awaited : Awaited) (token : Token) :
    Option (List Bracket × Awaited) :=
  match awaited, token, brackets with
  | .element, .closeList, .list :: outer => some (outer, .separator)
  | .member, .closeMap, .map :: outer => some (outer, .separator)
  | .value, _, _ | .element, _, _ => beginValue brackets token
  | .key, _, _ | .member, _, _ => beginMember brackets token
  | .colon, .colon, _ => some (brackets, .value)
  | .separator, .comma, .list :: _ => some (brackets, .value)
  | .separator, .comma, .map :: _ => some (brackets, .key)
  | .separator, .closeList, .list :: outer => some (outer, .separator)
  | .separator, .closeMap, .map :: outer => some (outer, .separator)
  | _, _, _ => none

/-- Runs the machine until a value is complete. -/
def skipFrom (brackets : List Bracket) (awaited : Awaited) : (tokens : List Token) → Option (Taken Unit tokens)
  | [] => none
  | token :: rest =>
    match afterToken brackets awaited token with
    | none => none
    | some ([], .separator) => some (.first ())
    | some (brackets, awaited) => (skipFrom brackets awaited rest).map (·.behind token)

def skipValue? (tokens : List Token) : Option (Taken Unit tokens) := skipFrom [] .value tokens

end Rover.Json
