import Rover.Signal.Filter

/-!
# The difference equation of a filter

A filter is asked for values, settled and shifted in any order. What it answers solves the difference
equation over the whole past, in which everything before the first call is zero, although it keeps no
more samples than it has coefficients. On rings of a fixed size, oldest sample first, the same
computation never loses a sample to a full ring and never reads one that is not there.
-/

namespace Rover.Signal
set_option autoImplicit false

/-- What is asked of a filter. -/
inductive Call where
  | value (x : Float32)
  | settle (value : Float32)
  | shift (amount : Float32)

/-- A signal, by steps back from its newest sample. -/
abbrev Series := Nat → Float32

def newest (sample : Float32) (past : Series) : Series
  | 0 => sample
  | i + 1 => past i

/-- The products of coefficients and samples from one index on, summed from zero in the order of the indices. -/
def weighted (first : Nat) (coefficients : List Float32) (series : Series) : Float32 :=
  (coefficients.zipIdx.drop first).foldl (fun sum (c, i) => sum + c * series i) 0

structure Past where
  inputs : Series
  outputs : Series

/-- The newest output is the one that the difference equation asks for. -/
def Past.Solves (b a : List Float32) (past : Past) : Prop :=
  ∃ lead, a.head? = some lead ∧
    past.outputs 0 = (weighted 0 b past.inputs - weighted 1 a past.outputs) / lead

namespace Past

def silent : Past := ⟨fun _ => 0, fun _ => 0⟩

/-- The place of the output to come is left zero; no sum from index one on reads it. -/
def solution (b a : List Float32) (past : Past) (x : Float32) : Float32 :=
  (weighted 0 b (newest x past.inputs) - weighted 1 a (newest 0 past.outputs)) / a.headD 0

def take (b a : List Float32) (past : Past) : Call → Past
  | .value x => ⟨newest x past.inputs, newest (past.solution b a x) past.outputs⟩
  | .settle value => ⟨fun _ => value, fun _ => value⟩
  | .shift amount => ⟨fun i => past.inputs i + amount, fun i => past.outputs i + amount⟩

def takeAll (b a : List Float32) (past : Past) (calls : List Call) : Past := calls.foldl (take b a) past

end Past

section Sums

variable (series : Series)

theorem map_range_newest (sample : Float32) (n : Nat) :
    (List.range (n + 1)).map (newest sample series) = sample :: (List.range n).map series := by
  rw [List.range_succ_eq_map, List.map_cons, List.map_map]
  rfl

theorem dropLast_map_range (n : Nat) : ((List.range (n + 1)).map series).dropLast = (List.range n).map series := by
  rw [List.range_succ, List.map_append, List.map_singleton, List.dropLast_concat]

theorem foldl_products (coefficients : List Float32) (start : Float32) {first n : Nat}
    (reached : coefficients.length ≤ n) :
    (List.zipWith (· * ·) coefficients ((List.range' first n).map series)).foldl (· + ·) start =
      (coefficients.zipIdx first).foldl (fun sum (c, i) => sum + c * series i) start := by
  induction coefficients generalizing start first n with
  | nil => rfl
  | cons c coefficients ih =>
    cases n with
    | zero => cases reached
    | succ n => exact ih _ (Nat.le_of_succ_le_succ reached)

theorem weightedSum_map_range {coefficients : List Float32} {n : Nat} (reached : coefficients.length ≤ n) :
    Filter.weightedSum coefficients ((List.range n).map series) = weighted 0 coefficients series := by
  rw [List.range_eq_range']
  exact foldl_products series coefficients 0 reached

theorem weightedSum_tail (sample : Float32) {coefficients : List Float32} {n : Nat}
    (reached : coefficients.length ≤ n) :
    Filter.weightedSum coefficients.tail ((List.range n).map series) =
      weighted 1 coefficients (newest sample series) := by
  have shifted : (List.range n).map series = (List.range' 1 n).map (newest sample series) := by
    -- both sides are the tail of the series with the sample in front
    have both := map_range_newest series sample n
    rw [List.range_eq_range', List.range'_succ, List.map_cons] at both
    exact (List.tail_eq_of_cons_eq both).symm
  rw [shifted]
  cases coefficients with
  | nil => rfl
  | cons c coefficients => exact foldl_products _ coefficients 0 (Nat.le_of_succ_le reached)

end Sums

namespace Past

variable {b a : List Float32} (past : Past) (x : Float32)

theorem solves_take (positive : 0 < a.length) : (past.take b a (.value x)).Solves b a := by
  cases a with
  | nil => cases positive
  | cons lead a =>
    refine ⟨lead, rfl, ?_⟩
    -- neither sum over the outputs reads the newest one
    have unread (sample : Float32) := weightedSum_tail past.outputs sample (Nat.le_refl (lead :: a).length)
    rw [take, ← unread]
    exact congrArg (fun sum => (_ - sum) / lead) (unread 0).symm

def kept (b a : List Float32) (past : Past) : Filter :=
  ⟨b, a, (List.range b.length).map past.inputs, (List.range b.length).map past.outputs⟩

theorem atRest_eq_kept : Filter.atRest b a = silent.kept b a := by
  rw [Filter.atRest, kept, silent, List.map_const', List.length_range]

theorem output_kept (even : a.length = b.length) : (past.kept b a).output x = past.solution b a x := by
  have forward : Filter.weightedSum b (x :: (List.range b.length).map past.inputs) =
      weighted 0 b (newest x past.inputs) := by
    rw [← map_range_newest]
    exact weightedSum_map_range _ (Nat.le_succ _)
  have feedback := weightedSum_tail past.outputs 0 (Nat.le_of_eq even)
  rw [Filter.output, kept, forward, feedback, solution]

theorem cons_dropLast {n : Nat} (positive : 0 < n) (series : Series) (sample : Float32) :
    sample :: ((List.range n).map series).dropLast = (List.range n).map (newest sample series) := by
  obtain ⟨n, rfl⟩ := Nat.exists_eq_add_one.mpr positive
  rw [map_range_newest, dropLast_map_range]

end Past

namespace Filter

def take (f : Filter) : Call → Filter
  | .value x => f.push x
  | .settle value => f.settle value
  | .shift amount => f.shift amount

def takeAll (f : Filter) (calls : List Call) : Filter := calls.foldl take f

variable {b a : List Float32} {past : Past}

theorem take_kept (positive : 0 < b.length) (even : a.length = b.length) (call : Call) :
    (past.kept b a).take call = (past.take b a call).kept b a := by
  cases call with
  | value x =>
    rw [take, push, past.output_kept x even, Past.take, Past.kept, Past.kept]
    simp only [Past.cons_dropLast positive]
  | settle value =>
    rw [take, settle, Past.take, Past.kept, Past.kept]
    simp only [List.map_map]
    rfl
  | shift amount =>
    rw [take, shift, Past.take, Past.kept, Past.kept]
    simp only [List.map_map]
    rfl

theorem takeAll_kept (positive : 0 < b.length) (even : a.length = b.length) (calls : List Call) :
    (past.kept b a).takeAll calls = (past.takeAll b a calls).kept b a := by
  induction calls generalizing past with
  | nil => rfl
  | cons call calls ih =>
    rw [takeAll, List.foldl_cons, take_kept positive even, ← takeAll, ih]
    rfl

theorem last_kept (positive : 0 < b.length) : (past.kept b a).last = past.outputs 0 := by
  obtain ⟨n, length⟩ := Nat.exists_eq_add_one.mpr positive
  rw [last, Past.kept, length, List.range_succ_eq_map]
  rfl

theorem ok_iff {f : Filter} : ofCoefficients b a = .ok f ↔ fault? b a = none ∧ atRest b a = f := by
  unfold ofCoefficients
  cases fault? b a <;> simp

theorem lengths_of_accepted (accepted : fault? b a = none) :
    0 < b.length ∧ a.length = b.length ∧ b.length ≤ maxOrder + 1 := by
  unfold fault? at accepted
  split at accepted
  · cases accepted
  · next lengths =>
    split at accepted
    · cases accepted
    · next small =>
      simp only [Bool.or_eq_true, List.isEmpty_iff, bne_iff_ne, not_or, Decidable.not_not] at lengths
      exact ⟨List.length_pos_iff.mpr lengths.1, lengths.2.symm, Nat.not_lt.mp small⟩

end Filter

/-- The same filter with arrays of coefficients, padded with zeros, and with its samples oldest first, in rings
that have room for a fixed number of them. -/
structure Rings where
  numerator : List Float32
  denominator : List Float32
  order : Nat
  inputs : List Float32
  outputs : List Float32

namespace Rings

def room : Nat := 8

/-- None, where the ring is full and would lose its oldest sample. -/
def push? (ring : List Float32) (sample : Float32) : Option (List Float32) :=
  if ring.length < room then some (ring ++ [sample]) else none

/-- None, where the ring does not reach back that far. -/
def stepsBack? (ring : List Float32) (back : Nat) : Option Float32 :=
  if back + 1 ≤ ring.length then ring[ring.length - (back + 1)]? else none

def padded (coefficients : List Float32) : List Float32 :=
  coefficients ++ List.replicate (maxOrder + 1 - coefficients.length) 0

def atRest? (b a : List Float32) : Option Rings := do
  let quiet ← (List.replicate b.length 0).foldlM push? []
  return ⟨padded b, padded a, b.length - 1, quiet, quiet⟩

/-- Both sums with the terms of one index; the feedback has one term less. -/
def term? (r : Rings) (inputs outputs : List Float32) (sums : Float32 × Float32) (i : Nat) :
    Option (Float32 × Float32) := do
  let forward := sums.1 + (← r.numerator[i]?) * (← stepsBack? inputs i)
  if i + 1 < r.order + 1 then
    return (forward, sums.2 + (← r.denominator[i + 1]?) * (← stepsBack? outputs i))
  else return (forward, sums.2)

/-- Drops the oldest samples, adds the input, computes the output and adds that. -/
def value? (r : Rings) (x : Float32) : Option (Float32 × Rings) := do
  let inputs ← push? r.inputs.tail x
  let sums ← (List.range (r.order + 1)).foldlM (r.term? inputs r.outputs.tail) (0, 0)
  let y := (sums.1 - sums.2) / (← r.denominator[0]?)
  let outputs ← push? r.outputs.tail y
  return (y, { r with inputs, outputs })

def last? (r : Rings) : Option Float32 := stepsBack? r.outputs 0

def take? (r : Rings) : Call → Option Rings
  | .value x => (r.value? x).map Prod.snd
  | .settle value => some { r with inputs := r.inputs.map fun _ => value, outputs := r.outputs.map fun _ => value }
  | .shift amount => some { r with inputs := r.inputs.map (· + amount), outputs := r.outputs.map (· + amount) }

def takeAll? (r : Rings) (calls : List Call) : Option Rings := calls.foldlM take? r

theorem getElem?_padded {coefficients : List Float32} {i : Nat} (here : i < coefficients.length) :
    (padded coefficients)[i]? = some coefficients[i] := by
  rw [padded, List.getElem?_append_left here, List.getElem?_eq_getElem here]

def held (n : Nat) (series : Series) : List Float32 := ((List.range n).map series).reverse

section Held

variable (n : Nat) (series : Series)

theorem length_held : (held n series).length = n := by
  rw [held, List.length_reverse, List.length_map, List.length_range]

theorem map_held (g : Float32 → Float32) : (held n series).map g = held n fun i => g (series i) := by
  rw [held, List.map_reverse, List.map_map]
  rfl

theorem tail_held : (held (n + 1) series).tail = held n series := by
  rw [held, List.tail_reverse, dropLast_map_range]
  rfl

variable {n}

theorem stepsBack?_held {back : Nat} (reached : back < n) : stepsBack? (held n series) back = some (series back) := by
  have within : n - 1 - (n - (back + 1)) = back := by omega
  rw [stepsBack?, length_held, if_pos (Nat.succ_le_of_lt reached), held, List.getElem?_reverse]
  · simp [within, reached]
  · simp
    omega

theorem push?_held (short : n < room) (sample : Float32) :
    push? (held n series) sample = some (held (n + 1) (newest sample series)) := by
  rw [push?, length_held, if_pos short, held, held, map_range_newest, List.reverse_cons]

end Held

theorem foldlM_push? {quiet : List Float32} {n : Nat} (short : quiet.length + n ≤ room) :
    (List.replicate n (0 : Float32)).foldlM push? quiet = some (quiet ++ List.replicate n 0) := by
  induction n generalizing quiet with
  | zero => exact congrArg some (List.append_nil quiet).symm
  | succ n ih =>
    have pushed : push? quiet 0 = some (quiet ++ [0]) := if_pos (by omega)
    rw [List.replicate_succ, List.foldlM_cons, pushed, Option.bind_eq_bind, Option.bind_some,
      ih (by rw [List.length_append, List.length_singleton]; omega), List.append_assoc]
    rfl

section Loop

variable {r : Rings} {inputs outputs : List Float32} {sums : Float32 × Float32} {i : Nat} {c d x y : Float32}
  (numerator : r.numerator[i]? = some c) (input : stepsBack? inputs i = some x)
include numerator input

theorem term?_of_lt (before : i < r.order) (denominator : r.denominator[i + 1]? = some d)
    (output : stepsBack? outputs i = some y) :
    r.term? inputs outputs sums i = some (sums.1 + c * x, sums.2 + d * y) := by
  simp [term?, numerator, input, before, denominator, output]

theorem term?_last (last : i = r.order) : r.term? inputs outputs sums i = some (sums.1 + c * x, sums.2) := by
  rw [term?, numerator, input, last]
  simp

end Loop

/-- The sum over so many of the indices, from one index on. -/
def partialSum (first : Nat) (coefficients : List Float32) (series : Series) (count : Nat) : Float32 :=
  ((coefficients.zipIdx.drop first).take count).foldl (fun sum (c, i) => sum + c * series i) 0

section PartialSum

variable {first count : Nat} {coefficients : List Float32} (series : Series)

theorem partialSum_succ (here : count + first < coefficients.length) :
    partialSum first coefficients series (count + 1) =
      partialSum first coefficients series count + coefficients[count + first] * series (count + first) := by
  have term : (coefficients.zipIdx.drop first)[count]? = some (coefficients[count + first], count + first) := by
    rw [List.getElem?_drop, List.getElem?_zipIdx, Nat.zero_add, Nat.add_comm first, List.getElem?_eq_getElem here]
    rfl
  rw [partialSum, List.take_add_one, term, List.foldl_append]
  rfl

theorem partialSum_full (full : coefficients.length ≤ count + first) :
    partialSum first coefficients series count = weighted first coefficients series := by
  rw [partialSum, List.take_of_length_le, weighted]
  rw [List.length_drop, List.length_zipIdx]
  omega

end PartialSum

end Rings

def Past.rings (b a : List Float32) (past : Past) : Rings where
  numerator := Rings.padded b
  denominator := Rings.padded a
  order := b.length - 1
  inputs := Rings.held b.length past.inputs
  outputs := Rings.held b.length past.outputs

namespace Rings

section Kept

variable {b a : List Float32} {n : Nat} (length : b.length = n + 1)
include length

theorem order_rings (past : Past) : (past.rings b a).order = n := by
  rw [Past.rings, length]
  rfl

theorem atRest?_eq_rings (small : n ≤ maxOrder) : atRest? b a = some (Past.silent.rings b a) := by
  have fits : maxOrder + 1 < room := by decide
  have quiet := foldlM_push? (by rw [List.length_nil]; omega : ([] : List Float32).length + b.length ≤ room)
  rw [atRest?, quiet]
  simp [Past.rings, Past.silent, held, List.map_const']

variable (even : a.length = n + 1) (past : Past) (inputs outputs : Series)
include even

theorem foldlM_term? {count : Nat} (within : count ≤ n) :
    (List.range count).foldlM ((past.rings b a).term? (held (n + 1) inputs) (held n outputs)) (0, 0) =
      some (partialSum 0 b inputs count, partialSum 1 a (newest 0 outputs) count) := by
  induction count with
  | zero => rfl
  | succ count ih =>
    have hb : count < b.length := by omega
    have ha : count + 1 < a.length := by omega
    have term (sums : Float32 × Float32) : (past.rings b a).term? (held (n + 1) inputs) (held n outputs) sums count =
        some (sums.1 + b[count] * inputs count, sums.2 + a[count + 1] * outputs count) :=
      term?_of_lt (getElem?_padded hb) (stepsBack?_held inputs (Nat.lt_of_lt_of_le within (Nat.le_succ n)))
        (by rwa [order_rings length]) (getElem?_padded ha) (stepsBack?_held outputs within)
    rw [List.range_succ, List.foldlM_append, ih (Nat.le_of_succ_le within), Option.bind_eq_bind, Option.bind_some,
      List.foldlM_cons, term, partialSum_succ inputs hb, partialSum_succ (newest 0 outputs) ha]
    rfl

theorem sums_rings :
    (List.range (n + 1)).foldlM ((past.rings b a).term? (held (n + 1) inputs) (held n outputs)) (0, 0) =
      some (weighted 0 b inputs, weighted 1 a (newest 0 outputs)) := by
  have hb : n < b.length := by omega
  have term (sums : Float32 × Float32) : (past.rings b a).term? (held (n + 1) inputs) (held n outputs) sums n =
      some (sums.1 + b[n] * inputs n, sums.2) :=
    term?_last (getElem?_padded hb) (stepsBack?_held inputs (Nat.lt_succ_self n)) (order_rings length past).symm
  have forward : weighted 0 b inputs = partialSum 0 b inputs (n + 1) := by
    rw [partialSum_full inputs]
    exact Nat.le_of_eq length
  have feedback : weighted 1 a (newest 0 outputs) = partialSum 1 a (newest 0 outputs) n := by
    rw [partialSum_full (newest 0 outputs)]
    exact Nat.le_of_eq even
  rw [List.range_succ, List.foldlM_append, foldlM_term? length even past inputs outputs (Nat.le_refl n),
    Option.bind_eq_bind, Option.bind_some, List.foldlM_cons, term, forward, feedback, partialSum_succ inputs hb]
  rfl

variable (small : n ≤ maxOrder)
include small

theorem value?_rings (x : Float32) :
    (past.rings b a).value? x = some (past.solution b a x, (past.take b a (.value x)).rings b a) := by
  have fits : n < room := Nat.lt_of_le_of_lt small (by decide)
  have lead : (past.rings b a).denominator[0]? = some (a.headD 0) := by
    cases a with
    | nil => cases even
    | cons lead a => rfl
  have inputs : (past.rings b a).inputs.tail = held n past.inputs := by rw [Past.rings, length, tail_held]
  have outputs : (past.rings b a).outputs.tail = held n past.outputs := by rw [Past.rings, length, tail_held]
  simp only [value?, inputs, outputs, push?_held _ fits, Option.bind_eq_bind, Option.bind_some, order_rings length,
    sums_rings length even, lead]
  rw [Past.rings, Past.rings, length]
  rfl

theorem take?_rings (call : Call) : (past.rings b a).take? call = some ((past.take b a call).rings b a) := by
  cases call with
  | value x => exact congrArg (Option.map Prod.snd) (value?_rings length even past small x)
  | settle value => rw [take?, Past.rings, map_held, map_held, Past.take, Past.rings]
  | shift amount => rw [take?, Past.rings, map_held, map_held, Past.take, Past.rings]

theorem takeAll?_rings (calls : List Call) :
    (past.rings b a).takeAll? calls = some ((past.takeAll b a calls).rings b a) := by
  induction calls generalizing past with
  | nil => rfl
  | cons call calls ih =>
    rw [takeAll?, List.foldlM_cons, take?_rings length even past small, Option.bind_eq_bind, Option.bind_some,
      ← takeAll?, ih]
    rfl

end Kept

end Rings

/-- The filter and its rings have kept this past, and answer as the difference equation says. -/
structure Follows (b a : List Float32) (past : Past) (f : Filter) (r : Rings) : Prop where
  value : ∀ x, (past.take b a (.value x)).Solves b a ∧ (f.push x).last = (past.take b a (.value x)).outputs 0 ∧
    ∃ next, r.value? x = some ((past.take b a (.value x)).outputs 0, next)
  last : f.last = past.outputs 0 ∧ r.last? = some (past.outputs 0)
  kept : f = past.kept b a
  inputs : r.inputs = f.inputs.reverse ∧ r.inputs.length = f.order + 1
  outputs : r.outputs = f.outputs.reverse ∧ r.outputs.length = f.order + 1
  room : f.order + 1 < Rings.room

theorem follows {b a : List Float32} (positive : 0 < b.length) (even : a.length = b.length)
    (small : b.length ≤ maxOrder + 1) (past : Past) : Follows b a past (past.kept b a) (past.rings b a) := by
  obtain ⟨n, length⟩ := Nat.exists_eq_add_one.mpr positive
  have least : n ≤ maxOrder := by omega
  have order : (past.kept b a).order + 1 = b.length := Nat.sub_add_cancel positive
  refine ⟨fun x => ⟨past.solves_take x (even ▸ positive), ?_, ?_⟩, ⟨Filter.last_kept positive, ?_⟩, rfl, ⟨rfl, ?_⟩,
    ⟨rfl, ?_⟩, ?_⟩
  · rw [Filter.last_push, past.output_kept x even]
    rfl
  · exact ⟨_, Rings.value?_rings length (even.trans length) past least x⟩
  · exact Rings.stepsBack?_held past.outputs positive
  · rw [order]
    exact Rings.length_held _ _
  · rw [order]
    exact Rings.length_held _ _
  · rw [order]
    exact Nat.lt_of_le_of_lt small (by decide)

/-- However it is asked for values, settled and shifted, an accepted filter solves its difference equation over the
whole past; and so does the same filter on rings, none of which is ever full or read past its oldest sample. -/
theorem solves_difference_equation {b a : List Float32} {f : Filter} (accepted : Filter.ofCoefficients b a = .ok f)
    (calls : List Call) :
    ∃ quiet rings, Rings.atRest? b a = some quiet ∧ quiet.takeAll? calls = some rings ∧
      Follows b a (Past.silent.takeAll b a calls) (f.takeAll calls) rings := by
  obtain ⟨faultless, rfl⟩ := Filter.ok_iff.mp accepted
  obtain ⟨positive, even, small⟩ := Filter.lengths_of_accepted faultless
  obtain ⟨n, length⟩ := Nat.exists_eq_add_one.mpr positive
  have least : n ≤ maxOrder := by omega
  refine ⟨_, _, Rings.atRest?_eq_rings length least,
    Rings.takeAll?_rings length (even.trans length) _ least calls, ?_⟩
  rw [Past.atRest_eq_kept, Filter.takeAll_kept positive even]
  exact follows positive even small _

/-- A delay of two samples, settled and shifted in between. -/
theorem solves_difference_equation_delay :
    let calls : List Call := [.value 1, .settle 2, .shift 0.5, .value 3, .value 4]
    ∃ f, Filter.ofCoefficients [0, 0, 1] [1, 0, 0] = .ok f ∧ f.order = 2 ∧ ((f.takeAll calls).push 5).last = 3 ∧
      ∃ rings, rings.inputs.length = 3 ∧
        Follows [0, 0, 1] [1, 0, 0] (Past.silent.takeAll [0, 0, 1] [1, 0, 0] calls) (f.takeAll calls) rings := by
  intro calls
  have accepted : Filter.ofCoefficients [0, 0, 1] [1, 0, 0] = .ok (.atRest [0, 0, 1] [1, 0, 0]) :=
    Filter.ok_iff.mpr ⟨by decide +kernel, rfl⟩
  obtain ⟨quiet, rings, -, -, follows⟩ := solves_difference_equation accepted calls
  refine ⟨_, accepted, rfl, by decide +kernel, rings, ?_, follows⟩
  rw [follows.inputs.2, follows.kept]
  rfl

end Rover.Signal
