/-!
# Taking off the front

What every step of a reader gives back: a value, and the rest of the input, which is shorter than
the input was. Loops over such steps end because of that.
-/

namespace Rover.Json
set_option autoImplicit false

structure Taken (α : Type) {β : Type} (input : List β) where
  value : α
  rest : List β
  shorter : rest.length < input.length

namespace Taken

variable {α γ β : Type} {input more : List β}

def first (value : α) {b : β} {rest : List β} : Taken α (b :: rest) :=
  ⟨value, rest, Nat.lt_succ_self _⟩

def behind (b : β) (taken : Taken α input) : Taken α (b :: input) :=
  ⟨taken.value, taken.rest, Nat.lt_succ_of_lt taken.shorter⟩

def second (value : α) {b c : β} {rest : List β} : Taken α (b :: c :: rest) :=
  (first value).behind b

def map (f : α → γ) (taken : Taken α input) : Taken γ input :=
  ⟨f taken.value, taken.rest, taken.shorter⟩

/-- Something taken off what another step has left. -/
def weaken (taken : Taken α more) (h : more.length ≤ input.length) : Taken α input :=
  ⟨taken.value, taken.rest, Nat.lt_of_lt_of_le taken.shorter h⟩

def close (value : γ) {b : β} {rest : List β} (shorter : (b :: rest).length < input.length) : Taken γ input :=
  ⟨value, rest, Nat.lt_of_succ_lt shorter⟩

def after {b : β} {rest : List β} (taken : Taken α rest) (shorter : (b :: rest).length < input.length) :
    Taken α input :=
  taken.weaken (Nat.le_of_lt (Nat.lt_of_succ_lt shorter))

end Taken

/-- The rest of an input from which nothing need have been taken. -/
structure Rest {β : Type} (input : List β) where
  items : List β
  length_le : items.length ≤ input.length

namespace Rest

variable {α β : Type} {input : List β}

def all (input : List β) : Rest input := ⟨input, Nat.le_refl _⟩

def afterFirst (b : β) (input : List β) : Rest (b :: input) := ⟨input, Nat.le_succ _⟩

def ofTaken (b : β) (taken : Taken α input) : Rest (b :: input) :=
  ⟨taken.rest, Nat.le_of_lt (Nat.lt_succ_of_lt taken.shorter)⟩

def trans (outer : Rest input) (inner : Rest outer.items) : Rest input :=
  ⟨inner.items, Nat.le_trans inner.length_le outer.length_le⟩

end Rest

end Rover.Json
