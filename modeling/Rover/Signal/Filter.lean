/-!
# Discrete linear filters

A filter of order `n` computes

    y[t] = (b[0] x[t] + … + b[n] x[t-n] - (a[1] y[t-1] + … + a[n] y[t-n])) / a[0]

in single precision, each sum from the newest sample to the oldest. It remembers the last `n + 1`
inputs and outputs, newest first, all zero at the start.
-/

namespace Rover.Signal
set_option autoImplicit false

def maxOrder : Nat := 6

inductive CoefficientFault where
  | lengths (numerator denominator : Nat)
  | order (n : Nat)
  | zeroLead
  deriving DecidableEq, Repr

def CoefficientFault.message : CoefficientFault → String
  | .lengths numerator denominator =>
    s!"numerator has {numerator} coefficients, denominator has {denominator}"
  | .order n => s!"order {n} exceeds maximum {maxOrder}"
  | .zeroLead => "leading denominator coefficient is zero"

structure Filter where
  numerator : List Float32
  denominator : List Float32
  inputs : List Float32
  outputs : List Float32
  deriving DecidableEq, Repr

namespace Filter

def fault? (b a : List Float32) : Option CoefficientFault :=
  if b.isEmpty || b.length != a.length then some (.lengths b.length a.length)
  else if b.length > maxOrder + 1 then some (.order (b.length - 1))
  else if a.headD 0 == 0 then some .zeroLead
  else none

def atRest (b a : List Float32) : Filter where
  numerator := b
  denominator := a
  inputs := List.replicate b.length 0
  outputs := List.replicate b.length 0

def ofCoefficients (b a : List Float32) : Except CoefficientFault Filter :=
  match fault? b a with
  | some fault => .error fault
  | none => .ok (atRest b a)

def order (f : Filter) : Nat := f.numerator.length - 1

/-- Products of coefficients and samples summed from zero, in the order of the lists. -/
def weightedSum (coefficients samples : List Float32) : Float32 :=
  (List.zipWith (· * ·) coefficients samples).foldl (· + ·) 0

def output (f : Filter) (x : Float32) : Float32 :=
  let forward := weightedSum f.numerator (x :: f.inputs)
  let feedback := weightedSum f.denominator.tail f.outputs
  (forward - feedback) / f.denominator.headD 0

def push (f : Filter) (x : Float32) : Filter :=
  { f with inputs := x :: f.inputs.dropLast, outputs := f.output x :: f.outputs.dropLast }

def last (f : Filter) : Float32 := f.outputs.headD 0

/-- As if `value` had gone in and come out forever. -/
def settle (f : Filter) (value : Float32) : Filter :=
  { f with inputs := f.inputs.map fun _ => value, outputs := f.outputs.map fun _ => value }

def shift (f : Filter) (amount : Float32) : Filter :=
  { f with inputs := f.inputs.map (· + amount), outputs := f.outputs.map (· + amount) }

@[simp] theorem last_push (f : Filter) (x : Float32) : (f.push x).last = f.output x := rfl

end Filter

end Rover.Signal
