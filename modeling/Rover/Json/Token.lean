import Rover.Json.Escape
import Rover.Json.Numeral

/-!
# Tokens

A text is cut into tokens up to the first place that begins none; that place is a last token of its
own, so that whoever reads the tokens in order meets the faults of a text in their order.
-/

namespace Rover.Json
set_option autoImplicit false

inductive Token where
  | null
  | boolean (b : Bool)
  | number (n : Numeral)
  | text (pieces : List Piece)
  | openList
  | closeList
  | openMap
  | closeMap
  | comma
  | colon
  | fault
  deriving DecidableEq, Repr

namespace Token

def isBlank (c : Char) : Bool := c == ' ' || c == '\t' || c == '\n' || c == '\r'

/-- The token at the front, which is neither blank nor empty. -/
def take? : (cs : List Char) → Option (Taken Token cs)
  | '[' :: _ => some (.first openList)
  | ']' :: _ => some (.first closeList)
  | '\x7b' :: _ => some (.first openMap)
  | '\x7d' :: _ => some (.first closeMap)
  | ',' :: _ => some (.first comma)
  | ':' :: _ => some (.first colon)
  | 'n' :: 'u' :: 'l' :: 'l' :: _ => some ((Taken.second null).behind 'u' |>.behind 'n')
  | 't' :: 'r' :: 'u' :: 'e' :: _ => some ((Taken.second (boolean true)).behind 'r' |>.behind 't')
  | 'f' :: 'a' :: 'l' :: 's' :: 'e' :: _ =>
    some ((Taken.second (boolean false)).behind 'l' |>.behind 'a' |>.behind 'f')
  | '"' :: rest => (Piece.takeString? rest).map fun taken => (taken.map text).behind '"'
  | '-' :: rest => (Numeral.takeUnsigned? true rest).map fun taken => (taken.map number).behind '-'
  | cs => (Numeral.takeUnsigned? false cs).map fun taken => taken.map number

def scan (cs : List Char) : List Token :=
  match cs with
  | [] => []
  | c :: rest =>
    if isBlank c then scan rest
    else
      match take? (c :: rest) with
      | none => [fault]
      | some taken => taken.value :: scan taken.rest
termination_by cs.length
decreasing_by
  · simp only [List.length_cons]; omega
  · exact taken.shorter

end Token

end Rover.Json
