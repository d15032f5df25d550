/-!
# Two sides

Whatever the rover has once per side: wheels, encoders, infrared emitters.
-/

namespace Rover
set_option autoImplicit false

inductive Side where
  | left
  | right
  deriving DecidableEq, Repr

structure Wheels (α : Type) where
  left : α
  right : α
  deriving DecidableEq, Repr

namespace Wheels

variable {α β : Type}

def both (a : α) : Wheels α := ⟨a, a⟩

def get (w : Wheels α) : Side → α
  | .left => w.left
  | .right => w.right

def set (w : Wheels α) (side : Side) (a : α) : Wheels α :=
  match side with
  | .left => { w with left := a }
  | .right => { w with right := a }

def map (f : α → β) (w : Wheels α) : Wheels β := ⟨f w.left, f w.right⟩

def swap (w : Wheels α) : Wheels α := ⟨w.right, w.left⟩

@[simp] theorem swap_swap (w : Wheels α) : w.swap.swap = w := rfl

@[simp] theorem get_set_self (w : Wheels α) (side : Side) (a : α) : (w.set side a).get side = a := by
  cases side <;> rfl

theorem get_set_of_ne (w : Wheels α) {side other : Side} (a : α) (h : other ≠ side) :
    (w.set side a).get other = w.get other := by
  cases side <;> cases other <;> first | rfl | exact absurd rfl h

@[simp] theorem get_map (f : α → β) (w : Wheels α) (side : Side) : (w.map f).get side = f (w.get side) := by
  cases side <;> rfl

end Wheels

end Rover
