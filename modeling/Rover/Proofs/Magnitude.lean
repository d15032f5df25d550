import Rover.Proofs.Single

/-!
# How large singles get, and when they are no number

Each operation of the float model leaves a number below some power of two that the operands decide,
with one bit more for rounding; so a short calculation on bounded numbers stays finite. Packing
keeps such a bound, and it neither makes nor loses a NaN. No operation here makes a NaN of numbers
one of which is finite: the second of a sum or a difference, the first of a product and the second
of a quotient, which are not zero either.
-/

namespace Rover.Single
open Float.Model
open Float.Model.UnpackedFloat
set_option autoImplicit false

/-- Zero, or a finite number of at most 24 bits, less than `2 ^ k` in size. -/
def Below (k : Int) : UnpackedFloat → Prop
  | .zero _ => True
  | .finite _ m e _ => m < 2 ^ 24 ∧ e + 24 ≤ k
  | .infinity _ | .notANumber => False

instance (k : Int) : (u : UnpackedFloat) → Decidable (Below k u)
  | .zero _ => .isTrue trivial
  | .finite _ m e _ => inferInstanceAs (Decidable (m < 2 ^ 24 ∧ e + 24 ≤ k))
  | .infinity _ | .notANumber => .isFalse id

theorem Below.mono {k l : Int} {u : UnpackedFloat} (h : Below k u) (le : k ≤ l) : Below l u := by
  cases u with
  | notANumber | infinity s => exact h.elim
  | zero s => trivial
  | finite s m e hm => exact ⟨h.1, Int.le_trans h.2 le⟩

theorem below_unpack {b : BitVec Format.binary32.numBits} {k : Int} (low : -125 ≤ k)
    (finite : unpackExponent b ≠ -1#8) (small : (unpackExponent b).toNat ≤ k + 126) :
    Below k (unpack .binary32 b) := by
  have bias : Format.binary32.exponentBias = 127 := rfl
  unfold UnpackedFloat.unpack
  dsimp only
  rw [if_neg finite]
  split
  · next subnormal =>
    split
    · trivial
    · refine ⟨Nat.lt_of_lt_of_le (BitVec.isLt _) (by decide), ?_⟩
      rw [subnormal, bias, BitVec.toNat_zero]
      omega
  · exact ⟨BitVec.isLt _, by rw [bias]; omega⟩

theorem below_unpack_of_isFinite {b : BitVec Format.binary32.numBits}
    (h : (unpack .binary32 b).isFinite = true) : Below 128 (unpack .binary32 b) := by
  have finite : unpackExponent b ≠ -1#8 := by
    intro ones
    unfold UnpackedFloat.unpack at h
    dsimp only at h
    rw [if_pos ones] at h
    split at h <;> cases h
  have bounded : (unpackExponent b).toNat < 256 := BitVec.isLt _
  have : (unpackExponent b).toNat ≠ 255 := fun ones => finite (BitVec.eq_of_toNat_eq ones)
  exact below_unpack (by decide) finite (by omega)

theorem pack_finite {sign : Sign} {m : Nat} {e : Int} {hm : 0 < m} :
    pack .binary32 (.finite sign m e hm) =
      if 256 ≤ (e + 127 + 23).toNat + 1 then packedInfinity .binary32 sign
      else if m.log2 + 1 = 24 then
        packComponents .binary32 sign (BitVec.ofNat 8 (e + 127 + 23).toNat) (BitVec.ofNat 23 m)
      else packComponents .binary32 sign 0#8 (BitVec.ofNat 23 m) := rfl

theorem unpackExponent_pack (sign : Sign) {m : Nat} {e : Int} (hm : 0 < m)
    (fits : (e + 127 + 23).toNat < 255) :
    unpackExponent (pack .binary32 (.finite sign m e hm)) ≠ -1#8 ∧
      (unpackExponent (pack .binary32 (.finite sign m e hm))).toNat ≤ (e + 127 + 23).toNat := by
  have field : (BitVec.ofNat 8 (e + 127 + 23).toNat).toNat = (e + 127 + 23).toNat := by
    rw [BitVec.toNat_ofNat, Nat.mod_eq_of_lt (by omega)]
  rw [pack_finite, if_neg (by omega)]
  split
  · rw [unpackExponent_packComponents, field]
    refine ⟨fun ones => ?_, Nat.le_refl _⟩
    have biased := congrArg BitVec.toNat ones
    rw [field] at biased
    have : (-1#8 : BitVec 8).toNat = 255 := rfl
    omega
  · rw [unpackExponent_packComponents]
    exact ⟨by decide, Nat.zero_le _⟩

theorem below_unpack_pack {u : UnpackedFloat} {k : Int} (h : Below k u) (low : -125 ≤ k) (high : k ≤ 128) :
    Below k (unpack .binary32 (pack .binary32 u)) := by
  cases u with
  | notANumber | infinity s => exact h.elim
  | zero s => cases s <;> trivial
  | finite s m e hm =>
    obtain ⟨_, small⟩ := h
    obtain ⟨finite, exponent⟩ := unpackExponent_pack s (e := e) hm (by omega)
    exact below_unpack low finite (by omega)

theorem roundedMantissa_le (em : ExtendedMantissa) : em.roundedMantissa ≤ em.mantissa + 1 := by
  obtain ⟨m, roundBit, stickyBit⟩ := em
  cases roundBit <;> cases stickyBit
  · exact Nat.le_succ m
  · exact Nat.le_succ m
  · exact Nat.add_le_add_left (Nat.le_of_lt_succ (Nat.mod_lt m (by decide))) m
  · exact Nat.le_refl _

theorem shiftToTargetExponent_bound (m : Nat) (e : Int) (accuracy : Accuracy) :
    let shifted := shiftToTargetExponent .binary32 m e accuracy
    shifted.1.mantissa < 2 ^ 24 ∧ shifted.2 ≤ max e (max (m.log2 + 1 + e - 24) (-149)) := by
  intro shifted
  obtain ⟨mantissa, exponent⟩ := shiftToTargetExponent_eq m e accuracy
  rw [mantissa, exponent]
  exact ⟨div_pow_lt (by omega), by omega⟩

theorem log2_le_of_lt {n width : Nat} (h : n < 2 ^ (width + 1)) : n.log2 ≤ width := by
  rcases Nat.eq_zero_or_pos n with rfl | positive
  · exact Nat.zero_le width
  · exact Nat.le_of_lt_succ ((Nat.log2_lt (Nat.ne_of_gt positive)).mpr h)

theorem log2_lt_of_lt {n width : Nat} (positive : 0 < n) (h : n < 2 ^ width) : n.log2 < width :=
  (Nat.log2_lt (Nat.ne_of_gt positive)).mpr h

theorem shiftLeft_lt {m width : Nat} (h : m < 2 ^ width) (n : Nat) : m <<< n < 2 ^ (width + n) := by
  rw [Nat.shiftLeft_eq, Nat.pow_add]
  exact Nat.mul_lt_mul_of_pos_right h (Nat.two_pow_pos n)

/-- Rounding may carry into one bit more. -/
theorem below_roundWithAccuracy {sign : Sign} {m : Nat} {e k : Int} {accuracy : Accuracy} (low : -124 ≤ k)
    (exponent : e + 25 ≤ k) (size : m.log2 + 2 + e ≤ k) :
    Below k (roundWithAccuracy .binary32 sign m e accuracy) := by
  let first := shiftToTargetExponent .binary32 m e accuracy
  obtain ⟨short, bound⟩ : first.1.mantissa < 2 ^ 24 ∧ first.2 ≤ _ := shiftToTargetExponent_bound m e accuracy
  have carried : first.1.roundedMantissa.log2 ≤ 24 := by
    apply log2_le_of_lt
    have := roundedMantissa_le first.1
    omega
  obtain ⟨last, final⟩ := shiftToTargetExponent_bound first.1.roundedMantissa first.2 .exact
  have small : (shiftToTargetExponent .binary32 first.1.roundedMantissa first.2 .exact).2 + 24 ≤ k := by omega
  unfold roundWithAccuracy
  dsimp only
  split
  · trivial
  · exact ⟨last, small⟩

/-- Shifting left before rounding drops nothing. -/
theorem below_round {sign : Sign} {m : Nat} {e k : Int} (positive : 0 < m) (low : -124 ≤ k)
    (size : m.log2 + 2 + e ≤ k) : Below k (round .binary32 sign m e) := by
  let target := max (m.log2 + 1 + e - 24) (-149)
  let amount := (e - target).toNat
  have hTarget : Format.binary32.targetExponent (totalExponent m e) = target := rfl
  have long : (m <<< amount).log2 < m.log2 + 1 + amount := by
    have nonempty : 0 < m <<< amount := Nat.shiftLeft_pos_iff.mpr positive
    exact log2_lt_of_lt nonempty (shiftLeft_lt Nat.lt_log2_self amount)
  have lowered : round .binary32 sign m e =
      roundWithAccuracy .binary32 sign (m <<< amount) (e - amount) .exact := rfl
  rw [lowered]
  apply below_roundWithAccuracy low <;> omega

theorem below_normalize {n : Int} {e k : Int} {sign : Sign} (low : -124 ≤ k)
    (size : n.natAbs.log2 + 2 + e ≤ k) : Below k (UnpackedFloat.normalize .binary32 n e sign) := by
  unfold UnpackedFloat.normalize
  split
  · next negative =>
    have negative := Int.compare_eq_lt.mp negative
    rw [show (-n).toNat = n.natAbs by omega]
    exact below_round (by omega) low size
  · trivial
  · next positive =>
    have positive := Int.compare_eq_gt.mp positive
    rw [show n.toNat = n.natAbs by omega]
    exact below_round (by omega) low size

theorem mul_finite (s t : Sign) {m n : Nat} (e f : Int) (hm : 0 < m) (hn : 0 < n) :
    mul .binary32 (.finite s m e hm) (.finite t n f hn) =
      roundWithAccuracy .binary32 (s * t) (m * n) (e + f) .exact := rfl

theorem below_mul {u v : UnpackedFloat} {k l : Int} (hu : Below k u) (hv : Below l v) (low : -125 ≤ k + l) :
    Below (k + l + 1) (mul .binary32 u v) := by
  cases u with
  | notANumber | infinity s => exact hu.elim
  | zero s =>
    cases v with
    | notANumber | infinity t => exact hv.elim
    | zero t | finite t n f hn => trivial
  | finite s m e hm =>
    cases v with
    | notANumber | infinity t => exact hv.elim
    | zero t => trivial
    | finite t n f hn =>
      obtain ⟨shortM, smallE⟩ := hu
      obtain ⟨shortN, smallF⟩ := hv
      have product : m * n < 2 ^ 48 :=
        calc
          m * n < 2 ^ 24 * 2 ^ 24 := Nat.mul_lt_mul'' shortM shortN
          _ = 2 ^ 48 := by decide
      have := log2_lt_of_lt (Nat.mul_pos hm hn) product
      rw [mul_finite]
      exact below_roundWithAccuracy (by omega) (by omega) (by omega)

theorem div_finite (s t : Sign) {m n : Nat} (e f : Int) (hm : 0 < m) (hn : 0 < n) :
    let target := min (e - f) (max (m.log2 + 1 + e - (n.log2 + 1 + f) - 24) (-149))
    let scaled := m <<< (e - f - target).toNat
    div .binary32 (.finite s m e hm) (.finite t n f hn) =
      roundWithAccuracy .binary32 (s / t) (scaled / n) target (accuracyOfFraction (scaled % n) n) := rfl

theorem log2_div_lt {a n width bits : Nat} (short : a < 2 ^ width) (wide : 2 ^ bits ≤ n)
    (positive : 0 < a / n) : (a / n).log2 + bits < width := by
  apply (Nat.pow_lt_pow_iff_right (by decide : 1 < 2)).mp
  calc
    2 ^ ((a / n).log2 + bits) = 2 ^ (a / n).log2 * 2 ^ bits := Nat.pow_add ..
    _ ≤ a / n * n := Nat.mul_le_mul (Nat.log2_self_le (Nat.ne_of_gt positive)) wide
    _ ≤ a := Nat.div_mul_le_self a n
    _ < 2 ^ width := short

/-- The quotient has as many bits less as the divisor has. -/
theorem below_div {u : UnpackedFloat} {k : Int} (hu : Below k u) (sign : Sign) {n bits : Nat} {f : Int}
    (hn : 0 < n) (wide : 2 ^ bits ≤ n) (low : -125 ≤ k - f - bits) :
    Below (k - f - bits + 1) (div .binary32 u (.finite sign n f hn)) := by
  cases u with
  | notANumber | infinity s => exact hu.elim
  | zero s => trivial
  | finite s m e hm =>
    obtain ⟨short, small⟩ := hu
    rw [div_finite]
    generalize hTarget : min (e - f) (max (m.log2 + 1 + e - (n.log2 + 1 + f) - 24) (-149)) = target
    generalize hAmount : (e - f - target).toNat = amount
    have scaled : m <<< amount < 2 ^ (24 + amount) := shiftLeft_lt short amount
    have := log2_lt_of_lt hm short
    have : bits ≤ n.log2 := (Nat.le_log2 (Nat.ne_of_gt hn)).mpr wide
    apply below_roundWithAccuracy (by omega) (by omega)
    rcases Nat.eq_zero_or_pos (m <<< amount / n) with empty | positive
    · rw [empty, Nat.log2_zero]
      omega
    · have := log2_div_lt scaled wide positive
      omega

theorem two_pow_le_shiftLeft_div {m n amount bits : Nat} (hm : 0 < m) (hn : 0 < n)
    (room : bits + n.log2 + 1 ≤ m.log2 + amount) : 2 ^ bits ≤ m <<< amount / n := by
  rw [Nat.le_div_iff_mul_le hn, Nat.shiftLeft_eq]
  calc
    2 ^ bits * n ≤ 2 ^ bits * 2 ^ (n.log2 + 1) := Nat.mul_le_mul_left _ (Nat.le_of_lt Nat.lt_log2_self)
    _ = 2 ^ (bits + n.log2 + 1) := (Nat.pow_add ..).symm
    _ ≤ 2 ^ (m.log2 + amount) := Nat.pow_le_pow_right (by decide) room
    _ = 2 ^ m.log2 * 2 ^ amount := Nat.pow_add ..
    _ ≤ m * 2 ^ amount := Nat.mul_le_mul_right _ (Nat.log2_self_le (Nat.ne_of_gt hm))

theorem positive_div {m n : Nat} {e f : Int} (hm : 0 < m) (hn : 0 < n)
    (size : -148 ≤ e - f + m.log2 - n.log2) : Positive (unpack .binary32 (pack .binary32
      (div .binary32 (.finite .positive m e hm) (.finite .positive n f hn)))) := by
  rw [div_finite]
  generalize hTarget : min (e - f) (max (m.log2 + 1 + e - (n.log2 + 1 + f) - 24) (-149)) = target
  generalize hAmount : (e - f - target).toNat = amount
  generalize hBits : m.log2 + amount - (n.log2 + 1) = bits
  have long : 2 ^ bits ≤ m <<< amount / n := two_pow_le_shiftLeft_div hm hn (by omega)
  have positive : 0 < m <<< amount / n := Nat.lt_of_lt_of_le (Nat.two_pow_pos bits) long
  have := (Nat.le_log2 (Nat.ne_of_gt positive)).mpr long
  exact positive_roundWithAccuracy positive (by omega)

theorem natAbs_apply (sign : Sign) (m : Nat) : (sign.apply m).natAbs = m := by
  cases sign with
  | positive => rfl
  | negative => exact Int.natAbs_neg m

theorem Below.neg {u : UnpackedFloat} {k : Int} (h : Below k u) : Below k u.neg := by
  cases u with
  | notANumber | infinity s => exact h.elim
  | zero s => trivial
  | finite s m e hm => exact h

theorem below_sub {u v : UnpackedFloat} {k : Int} (hu : Below k u) (hv : Below k v) (low : -126 ≤ k) :
    Below (k + 2) (sub .binary32 u v) := by
  cases u with
  | notANumber | infinity s => exact hu.elim
  | zero s =>
    cases v with
    | notANumber | infinity t => exact hv.elim
    | zero t =>
      unfold UnpackedFloat.sub
      dsimp only
      split <;> trivial
    | finite t n f hn => exact Below.mono (u := .finite (-t) n f hn) hv (by omega)
  | finite s m e hm =>
    cases v with
    | notANumber | infinity t => exact hv.elim
    | zero t => exact hu.mono (by omega)
    | finite t n f hn =>
      obtain ⟨shortM, smallE⟩ := hu
      obtain ⟨shortN, smallF⟩ := hv
      let lower := min e f
      let width := 24 + (max e f - lower).toNat
      let left := m <<< (e - lower).toNat
      let right := n <<< (f - lower).toNat
      have difference : sub .binary32 (.finite s m e hm) (.finite t n f hn) =
          UnpackedFloat.normalize .binary32 (s.apply left - t.apply right) lower .positive := rfl
      have wide {n amount : Nat} (short : n < 2 ^ 24) (le : 24 + amount ≤ width) : n <<< amount < 2 ^ width :=
        Nat.lt_of_lt_of_le (shiftLeft_lt short amount) (Nat.pow_le_pow_right (by decide) le)
      have leftWide : left < 2 ^ width := wide shortM (by omega)
      have rightWide : right < 2 ^ width := wide shortN (by omega)
      have bits : (s.apply left - t.apply right).natAbs.log2 ≤ width := by
        have signed := Int.natAbs_sub_le (s.apply left) (t.apply right)
        rw [natAbs_apply, natAbs_apply] at signed
        apply log2_le_of_lt
        rw [Nat.pow_succ]
        omega
      rw [difference]
      exact below_normalize (by omega) (by omega)

theorem unpacked_neg_neg (u : UnpackedFloat) : u.neg.neg = u := by
  cases u with
  | notANumber => rfl
  | infinity s | zero s | finite s m e hm => cases s <;> rfl

theorem sub_eq_add_neg (u v : UnpackedFloat) : sub .binary32 u v = add .binary32 u v.neg := by
  cases u with
  | notANumber => rfl
  | infinity s | zero s =>
    cases v with
    | notANumber | finite t n f hn => rfl
    | infinity t | zero t => cases s <;> cases t <;> rfl
  | finite s m e hm =>
    cases v with
    | notANumber | infinity t | zero t => rfl
    | finite t n f hn =>
      let lower := min e f
      let left := s.apply (m <<< (e - lower).toNat)
      let right := n <<< (f - lower).toNat
      have opposite : left - t.apply right = left + (-t).apply right := by
        cases t with
        | positive => rfl
        | negative => exact Int.sub_neg left right
      exact congrArg (fun sum => UnpackedFloat.normalize .binary32 sum lower .positive) opposite

theorem below_add {u v : UnpackedFloat} {k : Int} (hu : Below k u) (hv : Below k v) (low : -126 ≤ k) :
    Below (k + 2) (add .binary32 u v) := by
  rw [← unpacked_neg_neg v, ← sub_eq_add_neg]
  exact below_sub hu hv.neg low

theorem isNaN_unpack {b : BitVec Format.binary32.numBits} (finite : unpackExponent b ≠ -1#8) :
    (unpack .binary32 b).isNaN = false := by
  unfold UnpackedFloat.unpack
  dsimp only
  rw [if_neg finite]
  split
  · split <;> rfl
  · rfl

theorem isNaN_unpack_pack (u : UnpackedFloat) : (unpack .binary32 (pack .binary32 u)).isNaN = u.isNaN := by
  cases u with
  | notANumber => rfl
  | infinity s | zero s => cases s <;> rfl
  | finite s m e hm =>
    by_cases fits : (e + 127 + 23).toNat < 255
    · exact isNaN_unpack (unpackExponent_pack s hm fits).1
    · rw [pack_finite, if_pos (by omega)]
      cases s <;> rfl

theorem isNaN_roundWithAccuracy (sign : Sign) (m : Nat) (e : Int) (accuracy : Accuracy) :
    (roundWithAccuracy .binary32 sign m e accuracy).isNaN = false := by
  unfold roundWithAccuracy
  dsimp only
  split <;> rfl

theorem isNaN_normalize (n e : Int) (sign : Sign) :
    (UnpackedFloat.normalize .binary32 n e sign).isNaN = false := by
  unfold UnpackedFloat.normalize
  split
  · exact isNaN_roundWithAccuracy ..
  · rfl
  · exact isNaN_roundWithAccuracy ..

theorem isNaN_add {u v : UnpackedFloat} {k : Int} (hu : u.isNaN = false) (hv : Below k v) :
    (add .binary32 u v).isNaN = false := by
  cases v with
  | notANumber | infinity t => exact hv.elim
  | zero t =>
    cases u with
    | notANumber => cases hu
    | infinity s | finite s m e hm => rfl
    | zero s =>
      unfold UnpackedFloat.add
      dsimp only
      split <;> rfl
  | finite t n f hn =>
    cases u with
    | notANumber => cases hu
    | infinity s | zero s => rfl
    | finite s m e hm => exact isNaN_normalize ..

theorem isNaN_sub {u v : UnpackedFloat} {k : Int} (hu : u.isNaN = false) (hv : Below k v) :
    (sub .binary32 u v).isNaN = false := by
  rw [sub_eq_add_neg]
  exact isNaN_add hu hv.neg

theorem isNaN_mul {v : UnpackedFloat} (hv : v.isNaN = false) (s : Sign) {m : Nat} {e : Int} (hm : 0 < m) :
    (mul .binary32 (.finite s m e hm) v).isNaN = false := by
  cases v with
  | notANumber => cases hv
  | infinity t | zero t => rfl
  | finite t n f hn => exact isNaN_roundWithAccuracy ..

theorem isNaN_mul_of_positive {u v : UnpackedFloat} (hu : Positive u) (hv : Positive v) :
    (mul .binary32 u v).isNaN = false := by
  cases u with
  | notANumber | zero s => exact hu.elim
  | infinity s =>
    cases v with
    | notANumber | zero t => exact hv.elim
    | infinity t | finite t n f hn => rfl
  | finite s m e hm =>
    cases v with
    | notANumber | zero t => exact hv.elim
    | infinity t => rfl
    | finite t n f hn => exact isNaN_mul rfl s hm

theorem isNaN_div {u : UnpackedFloat} (hu : u.isNaN = false) (t : Sign) {n : Nat} {f : Int} (hn : 0 < n) :
    (div .binary32 u (.finite t n f hn)).isNaN = false := by
  cases u with
  | notANumber => cases hu
  | infinity s | zero s => rfl
  | finite s m e hm => exact isNaN_roundWithAccuracy ..

theorem Below.isNaN {u : UnpackedFloat} {k : Int} (h : Below k u) : u.isNaN = false := by
  cases u with
  | notANumber | infinity s => exact h.elim
  | zero s | finite s m e hm => rfl

theorem isNaN_of_compare {u v : UnpackedFloat} (h : u.compare v ≠ none) :
    u.isNaN = false ∧ v.isNaN = false := by
  cases u with
  | notANumber => exact absurd rfl h
  | infinity s | zero s | finite s m e hm =>
    cases v with
    | notANumber => cases s <;> exact absurd rfl h
    | infinity t | zero t | finite t n f hn => exact ⟨rfl, rfl⟩

theorem exists_finite {u : UnpackedFloat} {k : Int} (below : Below k u) (positive : Positive u) :
    ∃ m e hm, u = .finite .positive m e hm := by
  cases u with
  | notANumber | infinity s => exact below.elim
  | zero s => exact positive.elim
  | finite s m e hm =>
    rw [show s = .positive from positive]
    exact ⟨m, e, hm, rfl⟩

theorem finite_of_not_lt {u : UnpackedFloat} {k : Int} (h : Below k u) {n : Nat} {f : Int} {hn : 0 < n}
    (least : u.lt (.finite .positive n f hn) = false) :
    ∃ m e hm, u = .finite .positive m e hm ∧ f ≤ e := by
  cases u with
  | notANumber | infinity s => exact h.elim
  | zero s => cases least
  | finite s m e hm =>
    cases s with
    | negative => cases least
    | positive =>
      refine ⟨m, e, hm, rfl, ?_⟩
      by_contra smaller
      have order : compare e f = .lt := Int.compare_eq_lt.mpr (by omega)
      simp [UnpackedFloat.lt, UnpackedFloat.compare, order] at least

theorem Below.of_lt {u : UnpackedFloat} {k : Int} (h : Below k u) (unsigned : Unsigned u) {n : Nat} {f : Int}
    {hn : 0 < n} (most : u.lt (.finite .positive n f hn) = true) : Below (f + 24) u := by
  cases u with
  | notANumber | infinity s => exact h.elim
  | zero s => trivial
  | finite s m e hm =>
    rw [show s = .positive from unsigned] at most
    refine ⟨h.1, ?_⟩
    by_contra larger
    have order : compare e f = .gt := Int.compare_eq_gt.mpr (by omega)
    simp [UnpackedFloat.lt, UnpackedFloat.compare, order] at most

section Singles

variable {x y : Float32} {k l : Int}

theorem isNaN_eq (x : Float32) : x.isNaN = x.toModel.unpack.isNaN := rfl

theorem below_single_mul (hx : Below k x.toModel.unpack) (hy : Below l y.toModel.unpack) (low : -125 ≤ k + l)
    (high : k + l < 128) : Below (k + l + 1) (x * y).toModel.unpack :=
  below_unpack_pack (below_mul hx hy low) (by omega) (by omega)

theorem below_single_sub (hx : Below k x.toModel.unpack) (hy : Below k y.toModel.unpack) (low : -126 ≤ k)
    (high : k ≤ 126) : Below (k + 2) (x - y).toModel.unpack :=
  below_unpack_pack (below_sub hx hy low) (by omega) (by omega)

section Divisor

variable {sign : Sign} {n bits : Nat} {f : Int} {hn : 0 < n} (hy : y.toModel.unpack = .finite sign n f hn)
include hy

theorem unpack_div : (x / y).toModel.unpack =
    unpack .binary32 (pack .binary32 (div .binary32 x.toModel.unpack (.finite sign n f hn))) := by
  rw [← hy]
  rfl

theorem below_single_div (hx : Below k x.toModel.unpack) (wide : 2 ^ bits ≤ n) (low : -125 ≤ k - f - bits)
    (high : k - f - bits < 128) : Below (k - f - bits + 1) (x / y).toModel.unpack := by
  rw [unpack_div hy]
  exact below_unpack_pack (below_div hx sign hn wide low) (by omega) (by omega)

theorem isNaN_single_div (hx : x.isNaN = false) : (x / y).isNaN = false := by
  rw [isNaN_eq, unpack_div hy, isNaN_unpack_pack]
  exact isNaN_div hx sign hn

end Divisor

theorem positive_single_div {m n : Nat} {e f : Int} {hm : 0 < m} {hn : 0 < n}
    (hx : x.toModel.unpack = .finite .positive m e hm) (hy : y.toModel.unpack = .finite .positive n f hn)
    (size : -148 ≤ e - f + m.log2 - n.log2) : Positive (x / y).toModel.unpack := by
  rw [unpack_div hy, hx]
  exact positive_div hm hn size

theorem below_ofScientific {n : Nat} (small : n < 2 ^ 32) :
    Below 35 (UnpackedFloat.ofScientific .binary32 n 0) := by
  have width : (2 : Int) ^ Format.binary32.exponentBits = 256 := rfl
  unfold UnpackedFloat.ofScientific
  split
  · trivial
  · next nonzero =>
    have shifted : 0 < n <<< 24 := Nat.shiftLeft_pos_iff.mpr (Nat.pos_of_ne_zero nonzero)
    have bits := log2_lt_of_lt shifted (shiftLeft_lt small 24)
    have product : n <<< Format.binary32.mantissaBits * 10 ^ (0 : Int).toNat = n <<< 24 := Nat.mul_one _
    rw [width, if_neg (by decide), if_neg (by omega), if_pos (by decide), mul_finite, product]
    have exponent : (-Format.binary32.mantissaBits + 0 : Int) = -24 := rfl
    rw [exponent]
    generalize n <<< 24 = m at bits ⊢
    exact below_roundWithAccuracy (by decide) (by decide) (by omega)

theorem below_ofUInt32 (n : UInt32) : Below 33 n.toFloat32.toModel.unpack := by
  have small := n.toNat_lt
  have bits : (n.toNat : Int).natAbs.log2 ≤ 31 := by
    apply log2_le_of_lt
    omega
  exact below_unpack_pack (below_normalize (by decide) (by omega)) (by decide) (by decide)

theorem below_ofNat {n : Nat} (small : n < 2 ^ 32) : Below 35 (Float32.ofNat n).toModel.unpack := by
  have literal : Float32.ofNat n = Float32.ofScientific n false 0 := rfl
  rw [literal]
  unfold Float32.ofScientific
  split
  · have bits : (n.toUInt64.toNat : Int).natAbs.log2 ≤ 31 := by
      have : n.toUInt64.toNat = n % 2 ^ 64 := rfl
      apply log2_le_of_lt
      omega
    have normalized : Below 33 (n.toUInt64.toFloat32).toModel.unpack :=
      below_unpack_pack (below_normalize (by decide) (by omega)) (by decide) (by decide)
    have one : Below 1 (Float32.ofBits 0x3F800000).toModel.unpack := by decide +kernel
    exact below_single_mul normalized one (by decide) (by decide)
  · exact below_unpack_pack (below_ofScientific small) (by decide) (by decide)

theorem below_ofInt32 (n : Int32) : Below 35 (ofInt32 n).toModel.unpack := by
  have low := n.le_toInt
  have high := n.toInt_lt
  unfold ofInt32 Float32.ofInt
  split
  · next m value =>
    rw [value, Int.ofNat_eq_natCast] at high
    exact below_ofNat (by omega)
  · next m value =>
    rw [value, Int.negSucc_eq] at low
    have positive : Below 35 (Float32.ofNat m.succ).toModel.unpack := below_ofNat (by omega)
    exact below_unpack_pack positive.neg (by decide) (by decide)

theorem isNaN_single_sub (hx : x.isNaN = false) (hy : Below k y.toModel.unpack) : (x - y).isNaN = false :=
  (isNaN_unpack_pack _).trans (isNaN_sub hx hy)

theorem isNaN_single_add (hx : x.isNaN = false) (hy : Below k y.toModel.unpack) : (x + y).isNaN = false :=
  (isNaN_unpack_pack _).trans (isNaN_add hx hy)

theorem isNaN_single_mul {sign : Sign} {m : Nat} {e : Int} {hm : 0 < m}
    (hx : x.toModel.unpack = .finite sign m e hm) (hy : y.isNaN = false) : (x * y).isNaN = false := by
  have product : (x * y).isNaN =
      (unpack .binary32 (pack .binary32 (mul .binary32 x.toModel.unpack y.toModel.unpack))).isNaN := rfl
  rw [product, isNaN_unpack_pack, hx]
  exact isNaN_mul hy sign hm

theorem isNaN_single_neg : (-x).isNaN = x.isNaN := by
  refine (isNaN_unpack_pack _).trans ?_
  rw [isNaN_eq x]
  cases x.toModel.unpack <;> rfl

theorem isNaN_single_abs : x.abs.isNaN = x.isNaN := by
  refine (isNaN_unpack_pack _).trans ?_
  rw [isNaN_eq x]
  cases x.toModel.unpack <;> rfl

theorem unsigned_single_abs : Unsigned x.abs.toModel.unpack := by
  refine unsigned_unpack_pack ?_
  cases x.toModel.unpack <;> trivial

theorem below_abs (h : x.isFinite = true) : Below 128 x.abs.toModel.unpack := by
  refine below_unpack_pack ?_ (by decide) (by decide)
  have finite : Below 128 x.toModel.unpack := below_unpack_of_isFinite h
  revert finite
  cases x.toModel.unpack <;> exact id

theorem below_of_abs_lt {n : Nat} {f : Int} {hn : 0 < n} (hy : y.toModel.unpack = .finite .positive n f hn)
    (h : x.abs < y) : Below (f + 24) x.abs.toModel.unpack := by
  have unsigned : Unsigned x.abs.toModel.unpack := unsigned_single_abs
  rw [lt_iff, hy] at h
  have finite : x.abs.isFinite = true := by
    have unpacked : x.abs.isFinite = x.abs.toModel.unpack.isFinite := rfl
    rw [unpacked]
    cases hx : x.abs.toModel.unpack with
    | notANumber =>
      rw [hx] at h
      cases h
    | infinity s =>
      rw [hx] at h unsigned
      rw [show s = .positive from unsigned] at h
      cases h
    | zero s | finite s m e hm => rfl
  have below : Below 128 x.abs.toModel.unpack := below_unpack_of_isFinite finite
  exact below.of_lt unsigned h

theorem finite_of_not_single_lt (hx : Below k x.toModel.unpack) {n : Nat} {f : Int} {hn : 0 < n}
    (hy : y.toModel.unpack = .finite .positive n f hn) (least : ¬ x < y) :
    ∃ m e hm, x.toModel.unpack = .finite .positive m e hm ∧ f ≤ e := by
  rw [lt_iff, hy] at least
  exact finite_of_not_lt hx (Bool.eq_false_iff.mpr least)

theorem le_iff : x ≤ y ↔ x.toModel.unpack.le y.toModel.unpack = true := decide_eq_true_iff

theorem isNaN_of_le (h : x ≤ y) : x.isNaN = false ∧ y.isNaN = false := by
  apply isNaN_of_compare
  intro none
  rw [le_iff, UnpackedFloat.le, none] at h
  cases h

theorem isNaN_of_lt (h : x < y) : x.isNaN = false ∧ y.isNaN = false := by
  apply isNaN_of_compare
  intro none
  rw [lt_iff, UnpackedFloat.lt, none] at h
  cases h

theorem le_self (number : x.isNaN = false) : x ≤ x := by
  rw [isNaN_eq] at number
  rw [le_iff]
  cases hx : x.toModel.unpack with
  | notANumber =>
    rw [hx] at number
    cases number
  | infinity s | zero s => cases s <;> rfl
  | finite s m e hm => cases s <;> simp [UnpackedFloat.le, UnpackedFloat.compare]

end Singles

end Rover.Single
