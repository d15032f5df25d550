import Rover.Json.Skip
import Rover.Settings.Basic

/-!
# Reading records

A record is read from a map, whose keys name its fields, or from a list of its fields in order.
Members of unknown names are skipped. Reading stops at the first fault in the order of the text,
whether the text is no JSON there or JSON of the wrong form.
-/

namespace Rover.Settings
open Json
set_option autoImplicit false

/-- What a reader takes off the tokens, or why it cannot. -/
abbrev Reading (α : Type) (tokens : List Token) := Except SettingsError (Taken α tokens)

abbrev Reader (α : Type) := (tokens : List Token) → Reading α tokens

def foundNumber : Number → Found
  | .whole n => .integer n
  | .real x => .real x

def found? : Token → Option Found
  | .null => some .null
  | .boolean b => some (.boolean b)
  | .number numeral => numeral.value?.map foundNumber
  | .text pieces => (Piece.text? pieces).map fun cs => .text (String.ofList cs)
  | .openList => some .sequence
  | .openMap => some .map
  | .closeList | .closeMap | .comma | .colon | .fault => none

def mismatch (tokens : List Token) (expected : String) : SettingsError :=
  match tokens.head?.bind found? with
  | some found => .misfit (.kind found expected)
  | none => .malformed

structure Entry (σ : Type) where
  name : String
  read : σ → Reader σ

variable {σ : Type}

def Entry.of {α : Type} (name : String) (read : Reader α) (set : σ → α → σ) : Entry σ :=
  ⟨name, fun record tokens => (read tokens).map (·.map (set record))⟩

def entryOf? (entries : List (Entry σ)) (seen : List String) (key : String) :
    Except SettingsError (Option (Entry σ)) :=
  match entries.find? (·.name == key) with
  | none => .ok none
  | some entry => if seen.contains key then .error (.misfit (.repeated key)) else .ok (some entry)

def memberValue (entry : Option (Entry σ)) (record : σ) (tokens : List Token) : Reading σ tokens :=
  match entry with
  | some entry => entry.read record tokens
  | none => ((skipValue? tokens).map (·.map fun _ => record)).elim (.error .malformed) .ok

/-- A key, a colon and a value. The key is judged before the colon is looked for. -/
def readMember (entries : List (Entry σ)) (seen : List String) (record : σ) : Reader (String × σ)
  | .text pieces :: rest =>
    match (Piece.text? pieces).map String.ofList with
    | none => .error .malformed
    | some key =>
      match entryOf? entries seen key, rest with
      | .error fault, _ => .error fault
      | .ok entry, .colon :: rest =>
        (memberValue entry record rest).map fun taken =>
          ((taken.map (key, ·)).behind .colon).behind (.text pieces)
      | .ok _, _ => .error .malformed
  | _ => .error .malformed

def readMembers (entries : List (Entry σ)) (seen : List String) (record : σ) (tokens : List Token) :
    Reading σ tokens :=
  match readMember entries seen record tokens with
  | .error fault => .error fault
  | .ok ⟨(key, record), rest, shorter⟩ =>
    match rest with
    | .closeMap :: _ => .ok (.close record shorter)
    | .comma :: rest => (readMembers entries (key :: seen) record rest).map (·.after shorter)
    | _ => .error .malformed
termination_by tokens.length
decreasing_by exact Nat.lt_of_succ_lt shorter

def readElements (entries : List (Entry σ)) (record : σ) (tokens : List Token) : Reading (σ × Nat) tokens :=
  match entries with
  | [] => .error .malformed
  | entry :: entries =>
    match entry.read record tokens with
    | .error fault => .error fault
    | .ok ⟨record, rest, shorter⟩ =>
      match rest with
      | .closeList :: _ => .ok (.close (record, 1) shorter)
      | .comma :: rest =>
        (readElements entries record rest).map fun taken =>
          (taken.map fun (record, count) => (record, count + 1)).after shorter
      | _ => .error .malformed

/-- A record, starting from `record`; from a list, how many elements it had. -/
def readRecord (expected : String) (entries : List (Entry σ)) (record : σ) : Reader (σ × Option Nat)
  | .openMap :: .closeMap :: _ => .ok (.second (record, none))
  | .openMap :: rest =>
    (readMembers entries [] record rest).map fun taken => (taken.map (·, none)).behind .openMap
  | .openList :: .closeList :: _ => .ok (.second (record, some 0))
  | .openList :: rest =>
    (readElements entries record rest).map fun taken =>
      (taken.map fun (record, count) => (record, some count)).behind .openList
  | tokens => .error (mismatch tokens expected)

end Rover.Settings
