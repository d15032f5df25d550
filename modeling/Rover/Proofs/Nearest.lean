import Rover.Proofs.Difference

/-!
# The nearest single

Rounding is to the nearest: no number of 24 bits and an exponent of a single is closer to the exact
result than what a conversion, a sum or a quotient is rounded to. That alone makes rounding keep the
order of the exact results, whichever way it breaks a tie, and it makes a result exact that has the
bits for it.
-/

namespace Rover.Single
open Float.Model
open Float.Model.UnpackedFloat
set_option autoImplicit false

/-- The number that a float stands for which is not negative. -/
def value : UnpackedFloat → ℚ
  | .finite _ m e _ => m * 2 ^ e
  | .infinity _ | .zero _ | .notANumber => 0

/-- What the bits of a single can spell, however large. -/
def Representable (v : ℚ) : Prop := ∃ (n : Nat) (f : Int), n < 2 ^ 24 ∧ -149 ≤ f ∧ v = n * 2 ^ f

/-- Zero or more, and spelled as a single is. -/
def Plain : UnpackedFloat → Prop
  | .zero sign => sign = .positive
  | .finite sign m e _ => sign = .positive ∧ Canonical m e
  | .infinity _ | .notANumber => False

theorem Plain.representable {u : UnpackedFloat} (h : Plain u) : Representable (value u) := by
  cases u with
  | notANumber | infinity s => exact h.elim
  | zero s => exact ⟨0, 0, by decide, by decide, (zero_mul _).symm.trans (by rw [Nat.cast_zero])⟩
  | finite s m e hm => exact ⟨m, e, h.2.short, h.2.low, rfl⟩

theorem value_nonneg (u : UnpackedFloat) : 0 ≤ value u := by
  cases u with
  | notANumber | infinity s | zero s => exact le_refl 0
  | finite s m e hm => exact mul_nonneg (Nat.cast_nonneg m) (zpow_nonneg (by norm_num) e)

theorem value_pos {s : Sign} {m : Nat} {e : Int} (hm : 0 < m) : 0 < value (.finite s m e hm) :=
  mul_pos (Nat.cast_pos.mpr hm) (zpow_pos (by norm_num) e)

/-- A spelling stands for the same number to any lower exponent. -/
theorem shiftLeft_mul_zpow (m : Nat) {e lower : Int} (le : lower ≤ e) :
    ((m <<< (e - lower).toNat : Nat) : ℚ) * 2 ^ lower = m * 2 ^ e := by
  have whole : ((e - lower).toNat : Int) + lower = e := by omega
  rw [Nat.shiftLeft_eq, Nat.cast_mul, Nat.cast_pow, Nat.cast_ofNat, mul_assoc, ← zpow_natCast,
    ← zpow_add₀ (by norm_num), whole]

theorem Canonical.value_lt {m n : Nat} {e f : Int} (hm : Canonical m e) (hn : Canonical n f)
    (less : e < f ∨ e = f ∧ m < n) : (m : ℚ) * 2 ^ e < n * 2 ^ f := by
  have spelled : m <<< (e - e).toNat < n <<< (f - e).toNat := hm.shiftLeft_lt hn less (le_refl e)
  have le : e ≤ f := by omega
  rw [← shiftLeft_mul_zpow m (le_refl e), ← shiftLeft_mul_zpow n le]
  exact mul_lt_mul_of_pos_right (Nat.cast_lt.mpr spelled) (zpow_pos (by norm_num) e)

theorem Plain.le_iff_value {u v : UnpackedFloat} (hu : Plain u) (hv : Plain v) :
    u.le v = true ↔ value u ≤ value v := by
  cases u with
  | notANumber | infinity s => exact hu.elim
  | zero s =>
    refine iff_of_true ?_ (value_nonneg v)
    rw [show s = .positive from hu]
    cases v with
    | notANumber | infinity t => exact hv.elim
    | zero t => rfl
    | finite t n f hn =>
      rw [show t = .positive from hv.1]
      rfl
  | finite s m e hm =>
    obtain ⟨rfl, canonicalM⟩ := hu
    cases v with
    | notANumber | infinity t => exact hv.elim
    | zero t => exact iff_of_false Bool.false_ne_true (not_le_of_gt (value_pos hm))
    | finite t n f hn =>
      obtain ⟨rfl, canonicalN⟩ := hv
      have compared : (UnpackedFloat.finite .positive m e hm).compare (.finite .positive n f hn) =
          some ((compare e f).then (compare m n)) := rfl
      rw [UnpackedFloat.le, compared]
      cases order : (compare e f).then (compare m n) with
      | lt =>
        rw [Ordering.then_eq_lt, Int.compare_eq_lt, Int.compare_eq_eq, Nat.compare_eq_lt] at order
        exact iff_of_true rfl (le_of_lt (canonicalM.value_lt canonicalN order))
      | eq =>
        rw [Ordering.then_eq_eq, Int.compare_eq_eq, Nat.compare_eq_eq] at order
        obtain ⟨rfl, rfl⟩ := order
        exact iff_of_true rfl (le_refl _)
      | gt =>
        rw [Ordering.then_eq_gt, Int.compare_eq_gt, Int.compare_eq_eq, Nat.compare_eq_gt] at order
        have more : f < e ∨ f = e ∧ n < m := order.imp id (And.imp_left Eq.symm)
        exact iff_of_false Bool.false_ne_true (not_le_of_gt (canonicalN.value_lt canonicalM more))

theorem Plain.not_infinity_le {v : UnpackedFloat} (hv : Plain v) : (UnpackedFloat.infinity .positive).le v = false := by
  cases v with
  | notANumber | infinity t => exact hv.elim
  | zero t | finite t n f hn => rfl

theorem Plain.le_of_not_positive {u v : UnpackedFloat} (hv : Plain v) (number : u.isNaN = false)
    (h : ¬ Positive u) : u.le v = true := by
  cases v with
  | notANumber | infinity t => exact hv.elim
  | zero t =>
    cases u with
    | notANumber => cases number
    | zero s => cases s <;> rfl
    | infinity s | finite s m e hm =>
      cases s with
      | positive => exact absurd rfl h
      | negative => rfl
  | finite t n f hn =>
    rw [show t = .positive from hv.1]
    cases u with
    | notANumber => cases number
    | zero s => cases s <;> rfl
    | infinity s | finite s m e hm =>
      cases s with
      | positive => exact absurd rfl h
      | negative => rfl

theorem Plain.eq_of_value {u v : UnpackedFloat} (hu : Plain u) (hv : Plain v) (same : value u = value v) : u = v := by
  cases u with
  | notANumber | infinity s => exact hu.elim
  | zero s =>
    rw [show s = .positive from hu] at same ⊢
    cases v with
    | notANumber | infinity t => exact hv.elim
    | zero t => rw [show t = .positive from hv]
    | finite t n f hn => exact absurd same (ne_of_lt (value_pos hn))
  | finite s m e hm =>
    obtain ⟨rfl, canonicalM⟩ := hu
    cases v with
    | notANumber | infinity t => exact hv.elim
    | zero t => exact absurd same.symm (ne_of_lt (value_pos hm))
    | finite t n f hn =>
      obtain ⟨rfl, canonicalN⟩ := hv
      have notLess : ¬ (e < f ∨ e = f ∧ m < n) := fun less => ne_of_lt (canonicalM.value_lt canonicalN less) same
      have notMore : ¬ (f < e ∨ f = e ∧ n < m) := fun more => ne_of_gt (canonicalN.value_lt canonicalM more) same
      obtain rfl : e = f := by omega
      obtain rfl : m = n := by omega
      rfl

structure Nearest (u : UnpackedFloat) (x : ℚ) : Prop where
  plain : Plain u
  closest {v : ℚ} (representable : Representable v) : |x - value u| ≤ |x - v|

section Nearest

variable {u w : UnpackedFloat} {x y v z : ℚ}

theorem Plain.nearest (h : Plain u) : Nearest u (value u) where
  plain := h
  closest _ := by
    rw [sub_self, abs_zero]
    exact abs_nonneg _

theorem Nearest.eq_value (h : Nearest u x) (representable : Representable x) : value u = x := by
  have close := h.closest representable
  rw [sub_self, abs_zero, abs_nonpos_iff, sub_eq_zero] at close
  exact close.symm

/-- A number lies on the side of the middle of two others that the closer one is on. -/
theorem add_le_of_closer (closer : |x - v| ≤ |x - z|) (less : z < v) : v + z ≤ 2 * x := by
  rw [← sq_le_sq] at closer
  nlinarith

theorem le_add_of_closer (closer : |x - z| ≤ |x - v|) (less : z < v) : 2 * x ≤ v + z := by
  rw [← sq_le_sq] at closer
  nlinarith

theorem Nearest.value_le (h : Nearest u x) (representable : Representable v) (le : x ≤ v) : value u ≤ v := by
  by_contra more
  have middle := add_le_of_closer (h.closest representable) (not_le.mp more)
  linarith

theorem Nearest.le_value (h : Nearest u x) (representable : Representable v) (le : v ≤ x) : v ≤ value u := by
  by_contra less
  have middle := le_add_of_closer (h.closest representable) (not_le.mp less)
  linarith

/-- Were the roundings in the wrong order, one number would lie above their middle and the other below. -/
theorem Nearest.value_le_value (hx : Nearest u x) (hy : Nearest w y) (less : x < y) : value u ≤ value w := by
  by_contra reversed
  have above := add_le_of_closer (hx.closest hy.plain.representable) (not_le.mp reversed)
  have below := le_add_of_closer (hy.closest hx.plain.representable) (not_le.mp reversed)
  linarith

end Nearest

/-- The round bit and the sticky bit tell where a number lies before the next whole one. -/
def Represents : ExtendedMantissa → ℚ → Prop
  | ⟨m, false, false⟩, q => q = m
  | ⟨m, false, true⟩, q => m < q ∧ q < m + 1 / 2
  | ⟨m, true, false⟩, q => q = m + 1 / 2
  | ⟨m, true, true⟩, q => m + 1 / 2 < q ∧ q < m + 1

namespace Represents

variable {em : ExtendedMantissa} {q : ℚ}

theorem between (h : Represents em q) :
    (em.roundBit || em.stickyBit) = false ∧ q = em.mantissa ∨
      (em.roundBit || em.stickyBit) = true ∧ em.mantissa < q ∧ q < em.mantissa + 1 := by
  obtain ⟨m, roundBit, stickyBit⟩ := em
  cases roundBit <;> cases stickyBit <;> dsimp only [Represents] at h
  · exact .inl ⟨rfl, h⟩
  · exact .inr ⟨rfl, h.1, by linarith⟩
  · exact .inr ⟨rfl, by linarith, by linarith⟩
  · exact .inr ⟨rfl, by linarith, h.2⟩

theorem mantissa_le (h : Represents em q) : em.mantissa ≤ q := by
  rcases h.between with ⟨_, rfl⟩ | ⟨_, less, _⟩
  · exact le_refl _
  · exact le_of_lt less

theorem shiftRightOne (h : Represents em q) : Represents em.shiftRightOne (q / 2) := by
  have next := h.between
  obtain ⟨m, roundBit, stickyBit⟩ := em
  dsimp only at next
  unfold ExtendedMantissa.shiftRightOne
  generalize (roundBit || stickyBit) = sticky at next ⊢
  rcases Nat.even_or_odd' m with ⟨half, rfl | rfl⟩
  · rw [Nat.mul_div_cancel_left half (by decide), Nat.mul_mod_right]
    push_cast at next
    rcases next with ⟨rfl, rfl⟩ | ⟨rfl, _, _⟩
    · exact mul_div_cancel_left₀ _ (by norm_num)
    · constructor <;> linarith
  · rw [show (2 * half + 1) / 2 = half by omega, show (2 * half + 1) % 2 = 1 by omega]
    push_cast at next
    rcases next with ⟨rfl, rfl⟩ | ⟨rfl, _, _⟩
    · change _ = _
      ring
    · constructor <;> linarith

theorem shiftRight (h : Represents em q) (n : Nat) : Represents (em >>> n) (q / 2 ^ n) := by
  induction n with
  | zero => rwa [pow_zero, div_one]
  | succ n ih =>
    rw [pow_succ, ← div_div]
    exact ih.shiftRightOne

theorem close_rounded (h : Represents em q) : |q - em.roundedMantissa| ≤ 1 / 2 := by
  obtain ⟨m, roundBit, stickyBit⟩ := em
  rw [abs_le]
  cases roundBit <;> cases stickyBit <;> dsimp only [Represents] at h
  · have kept : ExtendedMantissa.roundedMantissa ⟨m, false, false⟩ = m := rfl
    rw [kept]
    constructor <;> linarith
  · have kept : ExtendedMantissa.roundedMantissa ⟨m, false, true⟩ = m := rfl
    rw [kept]
    constructor <;> linarith
  · -- a tie, which may go either way
    have even : ExtendedMantissa.roundedMantissa ⟨m, true, false⟩ = m + m % 2 := rfl
    have bit : ((m % 2 : Nat) : ℚ) ≤ 1 := Nat.cast_le_one.mpr (Nat.le_of_lt_succ (Nat.mod_lt m (by decide)))
    have : (0 : ℚ) ≤ (m % 2 : Nat) := Nat.cast_nonneg _
    rw [even, Nat.cast_add]
    constructor <;> linarith
  · have up : ExtendedMantissa.roundedMantissa ⟨m, true, true⟩ = m + 1 := rfl
    rw [up, Nat.cast_add, Nat.cast_one]
    constructor <;> linarith

end Represents

/-- No whole number is closer than one at half a unit or less. -/
theorem closest_whole {q : ℚ} {r : Nat} (close : |q - r| ≤ 1 / 2) (n : Nat) : |q - r| ≤ |q - n| := by
  rcases eq_or_ne n r with rfl | differs
  · exact le_refl _
  · have apart : (1 : ℚ) ≤ |(n : ℚ) - r| := by
      have whole : 1 ≤ |(n : ℤ) - r| := Int.one_le_abs (by omega)
      exact_mod_cast whole
    have way := abs_sub_le (n : ℚ) q r
    rw [abs_sub_comm (n : ℚ) q] at way
    linarith

/-- What is rounded to whole units is rounded to the nearest: to spell a number by smaller units, it must be so small
that a whole number of the larger ones lies in between. -/
theorem Represents.closest {em : ExtendedMantissa} {q v : ℚ} (h : Represents em q) {unit : Int}
    (full : unit = -149 ∨ 2 ^ 23 ≤ em.mantissa) (representable : Representable v) :
    |q * 2 ^ unit - em.roundedMantissa * 2 ^ unit| ≤ |q * 2 ^ unit - v| := by
  obtain ⟨n, f, short, low, rfl⟩ := representable
  have scale : (0 : ℚ) < 2 ^ unit := zpow_pos (by norm_num) unit
  have spelled : (n : ℚ) * 2 ^ f = n * 2 ^ (f - unit) * 2 ^ unit := by
    rw [mul_assoc, ← zpow_add₀ (by norm_num), Int.sub_add_cancel]
  rw [spelled, ← sub_mul, ← sub_mul, abs_mul, abs_mul, abs_of_pos scale]
  apply mul_le_mul_of_nonneg_right _ (le_of_lt scale)
  rcases lt_or_ge f unit with smaller | larger
  · have full : 2 ^ 23 ≤ em.mantissa := full.resolve_left (by omega)
    have above : ((2 ^ 23 : Nat) : ℚ) ≤ q := le_trans (Nat.cast_le.mpr full) h.mantissa_le
    have below : (n : ℚ) * 2 ^ (f - unit) ≤ (2 ^ 23 : Nat) := by
      calc
        (n : ℚ) * 2 ^ (f - unit) ≤ (2 ^ 24 : Nat) * 2 ^ (-1 : Int) := by
          apply mul_le_mul (Nat.cast_le.mpr (Nat.le_of_lt short)) _ (zpow_nonneg (by norm_num) _) (Nat.cast_nonneg _)
          exact zpow_le_zpow_right₀ (by norm_num) (by omega)
        _ = (2 ^ 23 : Nat) := by norm_num
    calc
      |q - em.roundedMantissa| ≤ |q - (2 ^ 23 : Nat)| := closest_whole h.close_rounded _
      _ = q - (2 ^ 23 : Nat) := abs_of_nonneg (by linarith)
      _ ≤ q - n * 2 ^ (f - unit) := by linarith
      _ ≤ |q - n * 2 ^ (f - unit)| := le_abs_self _
  · have whole : (n : ℚ) * 2 ^ (f - unit) = (n <<< (f - unit).toNat : Nat) := by
      have spelled := shiftLeft_mul_zpow n (by omega : 0 ≤ f - unit)
      rw [zpow_zero, mul_one, Int.sub_zero] at spelled
      exact spelled.symm
    rw [whole]
    exact closest_whole h.close_rounded _

/-- A mantissa that rounding has carried over by one bit loses that bit again. -/
theorem shiftToTargetExponent_rounded {r : Nat} {unit : Int} (short : r ≤ 2 ^ 24) (low : -149 ≤ unit)
    (full : unit = -149 ∨ 2 ^ 23 ≤ r) :
    let last := shiftToTargetExponent .binary32 r unit .exact
    Canonical last.1.mantissa last.2 ∧ (last.1.mantissa : ℚ) * 2 ^ last.2 = r * 2 ^ unit := by
  intro last
  obtain ⟨mantissa, exponent⟩ := shiftToTargetExponent_eq r unit .exact
  rw [mantissa, exponent]
  rcases Nat.lt_or_eq_of_le short with short | rfl
  · have bits : r.log2 ≤ 23 := log2_le_of_lt short
    have amount : (max (r.log2 + 1 + unit - 24) (-149) - unit).toNat = 0 := by omega
    rw [amount, Nat.pow_zero, Nat.div_one, Nat.cast_zero, Int.add_zero]
    exact ⟨⟨short, low, full⟩, rfl⟩
  · have bits : (2 ^ 24 : Nat).log2 = 24 := Nat.log2_two_pow
    have amount : (max ((2 ^ 24 : Nat).log2 + 1 + unit - 24) (-149) - unit).toNat = 1 := by omega
    rw [amount]
    refine ⟨⟨by decide, by omega, .inr (by decide)⟩, ?_⟩
    rw [Nat.cast_one, zpow_add₀ (by norm_num)]
    norm_num
    ring

/-- Rounding goes to the nearest, if no bits are missing at the low end. -/
theorem nearest_roundWithAccuracy {m : Nat} {e : Int} {accuracy : Accuracy} {q : ℚ}
    (h : Represents (.ofMantissaAndAccuracy m accuracy) q) (fine : e ≤ max (m.log2 + 1 + e - 24) (-149)) :
    Nearest (roundWithAccuracy .binary32 .positive m e accuracy) (q * 2 ^ e) := by
  generalize hAmount : (max (m.log2 + 1 + e - 24) (-149) - e).toNat = amount
  let first := shiftToTargetExponent .binary32 m e accuracy
  have shifted : Represents first.1 (q / 2 ^ amount) := hAmount ▸ h.shiftRight _
  obtain ⟨mantissa, exponent⟩ : first.1.mantissa = _ ∧ first.2 = _ := shiftToTargetExponent_eq m e accuracy
  rw [hAmount] at mantissa exponent
  have full : first.2 = -149 ∨ 2 ^ 23 ≤ first.1.mantissa := by
    rw [mantissa, exponent]
    refine or_iff_not_imp_left.mpr fun high => ?_
    rw [Nat.le_div_iff_mul_le (Nat.two_pow_pos _), ← Nat.pow_add]
    calc
      2 ^ (23 + amount) ≤ 2 ^ m.log2 := Nat.pow_le_pow_right (by decide) (by omega)
      _ ≤ m := Nat.log2_self_le (by rintro rfl; rw [Nat.log2_zero] at fine hAmount; omega)
  have short : first.1.mantissa < 2 ^ 24 := (shiftToTargetExponent_bound m e accuracy).1
  have up := le_roundedMantissa first.1
  have carried := roundedMantissa_le first.1
  obtain ⟨canonical, kept⟩ := shiftToTargetExponent_rounded (by omega : first.1.roundedMantissa ≤ 2 ^ 24)
    (by omega : -149 ≤ first.2) (by omega)
  have exact : q * 2 ^ e = q / 2 ^ amount * 2 ^ first.2 := by
    rw [exponent, zpow_add₀ (by norm_num), zpow_natCast, mul_comm (2 ^ e : ℚ), ← mul_assoc,
      div_mul_cancel₀ _ (by positivity)]
  have closest {v : ℚ} (representable : Representable v) := shifted.closest full representable
  rw [← exact, ← kept] at closest
  unfold roundWithAccuracy
  dsimp only
  split
  · next zero =>
    rw [zero, Nat.cast_zero, zero_mul] at closest
    exact ⟨rfl, closest⟩
  · exact ⟨⟨rfl, canonical⟩, closest⟩

theorem nearest_normalize {n e : Int} (positive : 0 < n) (sign : Sign) :
    Nearest (UnpackedFloat.normalize .binary32 n e sign) (n * 2 ^ e) := by
  obtain ⟨m, rfl⟩ := Int.eq_ofNat_of_zero_le (le_of_lt positive)
  have hm : 0 < m := Int.natCast_pos.mp positive
  rw [normalize_of_pos positive, Int.toNat_natCast]
  generalize hAmount : (e - max (m.log2 + 1 + e - 24) (-149)).toNat = amount
  have wide : m.log2 + amount ≤ (m <<< amount).log2 := by
    rw [Nat.le_log2 (Nat.ne_of_gt (Nat.shiftLeft_pos_iff.mpr hm)), Nat.pow_add, Nat.shiftLeft_eq]
    exact Nat.mul_le_mul_right _ (Nat.log2_self_le (Nat.ne_of_gt hm))
  have exact : Represents (.ofMantissaAndAccuracy (m <<< amount) .exact) (m <<< amount : Nat) := rfl
  have spelled := shiftLeft_mul_zpow m (by omega : e - amount ≤ e)
  rw [show (e - (e - amount)).toNat = amount by omega] at spelled
  rw [Int.cast_natCast, ← spelled]
  exact nearest_roundWithAccuracy exact (by omega)

theorem nearest_add {u v : UnpackedFloat} (hu : Plain u) (hv : Plain v) :
    Nearest (add .binary32 u v) (value u + value v) := by
  cases u with
  | notANumber | infinity s => exact hu.elim
  | zero s =>
    rw [show s = .positive from hu, show value (.zero .positive) = 0 from rfl, zero_add]
    cases v with
    | notANumber | infinity t => exact hv.elim
    | zero t =>
      rw [show t = .positive from hv]
      exact Plain.nearest (u := .zero .positive) rfl
    | finite t n f hn => exact hv.nearest
  | finite s m e hm =>
    obtain ⟨rfl, canonicalM⟩ := hu
    cases v with
    | notANumber | infinity t => exact hv.elim
    | zero t =>
      rw [show value (.zero t) = 0 from rfl, add_zero]
      exact Plain.nearest (u := .finite .positive m e hm) ⟨rfl, canonicalM⟩
    | finite t n f hn =>
      obtain ⟨rfl, canonicalN⟩ := hv
      let lower := min e f
      have sum : add .binary32 (.finite .positive m e hm) (.finite .positive n f hn) =
          UnpackedFloat.normalize .binary32
            ((m <<< (e - lower).toNat : Nat) + (n <<< (f - lower).toNat : Nat)) lower .positive := rfl
      have positive : 0 < m <<< (e - lower).toNat := Nat.shiftLeft_pos_iff.mpr hm
      have total : value (.finite .positive m e hm) + value (.finite .positive n f hn) =
          ((m <<< (e - lower).toNat : Nat) + (n <<< (f - lower).toNat : Nat) : Int) * 2 ^ lower := by
        rw [Int.cast_add, Int.cast_natCast, Int.cast_natCast, add_mul, shiftLeft_mul_zpow m (Int.min_le_left e f),
          shiftLeft_mul_zpow n (Int.min_le_right e f)]
        rfl
      rw [sum, total]
      exact nearest_normalize
        (Int.add_pos_of_pos_of_nonneg (Int.natCast_pos.mpr positive) (Int.natCast_nonneg _)) .positive

theorem represents_fraction {n : Nat} (hn : 0 < n) (m : Nat) :
    Represents (.ofMantissaAndAccuracy (m / n) (accuracyOfFraction (m % n) n)) (m / n : ℚ) := by
  have positive : (0 : ℚ) < n := Nat.cast_pos.mpr hn
  have divided : (m : ℚ) / n = (m / n : Nat) + (m % n : Nat) / n := by
    rw [div_eq_iff (ne_of_gt positive), add_mul, div_mul_cancel₀ _ (ne_of_gt positive), ← Nat.cast_mul,
      ← Nat.cast_add, Nat.mul_comm, Nat.div_add_mod]
  have rest : ((m % n : Nat) : ℚ) < n := Nat.cast_lt.mpr (Nat.mod_lt m hn)
  rw [divided]
  generalize m % n = r at rest ⊢
  unfold accuracyOfFraction
  split
  · next zero =>
    rw [zero, Nat.cast_zero, zero_div, add_zero]
    rfl
  · next nonzero =>
    have part : (0 : ℚ) < r := Nat.cast_pos.mpr (Nat.pos_of_ne_zero nonzero)
    cases half : compare (2 * r) n with
    | lt =>
      have less : (2 * r : ℚ) < n := by exact_mod_cast Nat.compare_eq_lt.mp half
      refine ⟨lt_add_of_pos_right _ (div_pos part positive), ?_⟩
      rw [add_lt_add_iff_left, div_lt_iff₀ positive]
      linarith
    | eq =>
      have tie : (2 * r : ℚ) = n := by exact_mod_cast Nat.compare_eq_eq.mp half
      refine congrArg (fun rest => ((m / n : Nat) : ℚ) + rest) ?_
      rw [div_eq_iff (ne_of_gt positive)]
      linarith
    | gt =>
      have more : (n : ℚ) < 2 * r := by exact_mod_cast Nat.compare_eq_gt.mp half
      refine ⟨?_, ?_⟩
      · rw [add_lt_add_iff_left, lt_div_iff₀ positive]
        linarith
      · rwa [add_lt_add_iff_left, div_lt_one positive]

theorem nearest_div {u : UnpackedFloat} (hu : Plain u) {n : Nat} {f : Int} (hn : 0 < n) :
    Nearest (div .binary32 u (.finite .positive n f hn)) (value u / (n * 2 ^ f)) := by
  cases u with
  | notANumber | infinity s => exact hu.elim
  | zero s =>
    rw [show s = .positive from hu, show value (.zero .positive) = 0 from rfl, zero_div]
    exact Plain.nearest (u := .zero .positive) rfl
  | finite s m e hm =>
    obtain ⟨rfl, _⟩ := hu
    rw [div_finite]
    generalize hTarget : min (e - f) (max (m.log2 + 1 + e - (n.log2 + 1 + f) - 24) (-149)) = target
    have spelled := shiftLeft_mul_zpow m (by omega : target ≤ e - f)
    generalize hAmount : (e - f - target).toNat = amount at spelled ⊢
    have exact : value (.finite .positive m e hm) / (n * 2 ^ f) = (m <<< amount : Nat) / n * 2 ^ target := by
      rw [div_mul_eq_mul_div, spelled, zpow_sub₀ (by norm_num), ← mul_div_assoc, div_div, mul_comm (n : ℚ)]
      rfl
    rw [exact]
    apply nearest_roundWithAccuracy (represents_fraction hn _)
    rcases le_or_gt target (-149) with least | above
    · exact le_max_of_le_right least
    · have full : 2 ^ 23 ≤ m <<< amount / n := two_pow_le_shiftLeft_div hm hn (by omega)
      have long : 23 ≤ (m <<< amount / n).log2 := (Nat.le_log2 (by omega)).mpr full
      exact le_max_of_le_left (by omega)

theorem finite_congr {s : Sign} {m n : Nat} {e f : Int} {hm : 0 < m} {hn : 0 < n} (mantissa : m = n)
    (exponent : e = f) : UnpackedFloat.finite s m e hm = .finite s n f hn := by
  subst mantissa exponent
  rfl

theorem unpack_packComponents_normal {m : Nat} (full : 2 ^ 23 ≤ m) (short : m < 2 ^ 24) {biased : Nat}
    (nonzero : biased ≠ 0) (finite : biased < 255) :
    unpack .binary32 (packComponents .binary32 .positive (BitVec.ofNat 8 biased) (BitVec.ofNat 23 m)) =
      .finite .positive m (biased - 150) (by omega) := by
  have exponent : (BitVec.ofNat 8 biased).toNat = biased := by
    rw [BitVec.toNat_ofNat, Nat.mod_eq_of_lt (by omega)]
  have mantissa : (1#1 ++ BitVec.ofNat 23 m).toNat = m := by
    have implicit : 1 <<< 23 ||| m % 2 ^ 23 = 2 ^ 23 * 1 + m % 2 ^ 23 :=
      (Nat.two_pow_add_eq_or_of_lt (Nat.mod_lt m (Nat.two_pow_pos 23)) 1).symm
    rw [BitVec.toNat_append, BitVec.toNat_ofNat, BitVec.toNat_ofNat, Nat.mod_eq_of_lt (by decide), implicit]
    omega
  have ones : BitVec.ofNat 8 biased ≠ -1#8 := by
    intro h
    have all := congrArg BitVec.toNat h
    rw [exponent] at all
    have : (-1#8 : BitVec 8).toNat = 255 := rfl
    omega
  have zeros : BitVec.ofNat 8 biased ≠ 0#8 := by
    intro h
    have none := congrArg BitVec.toNat h
    rw [exponent, BitVec.toNat_zero] at none
    exact nonzero none
  unfold UnpackedFloat.unpack
  simp only [unpackExponent_packComponents, unpackMantissa_packComponents, unpackSign_packComponents,
    Sign.ofBitVec_toBitVec]
  rw [if_neg ones, if_neg zeros]
  exact finite_congr mantissa (by rw [exponent]; rfl)

theorem unpack_packComponents_subnormal {m : Nat} (hm : 0 < m) (short : m < 2 ^ 23) :
    unpack .binary32 (packComponents .binary32 .positive 0#8 (BitVec.ofNat 23 m)) =
      .finite .positive m (-149) hm := by
  have mantissa : (BitVec.ofNat 23 m).toNat = m := by rw [BitVec.toNat_ofNat, Nat.mod_eq_of_lt short]
  have nonzero : BitVec.ofNat 23 m ≠ 0#23 := by
    intro h
    have none := congrArg BitVec.toNat h
    rw [mantissa, BitVec.toNat_zero] at none
    exact Nat.ne_of_gt hm none
  unfold UnpackedFloat.unpack
  simp only [unpackExponent_packComponents, unpackMantissa_packComponents, unpackSign_packComponents,
    Sign.ofBitVec_toBitVec]
  rw [if_neg (by decide), if_pos trivial, dif_neg nonzero]
  exact finite_congr mantissa rfl

theorem unpack_pack_of_plain {u : UnpackedFloat} (plain : Plain u) (below : Below 128 u) :
    unpack .binary32 (pack .binary32 u) = u := by
  cases u with
  | notANumber | infinity s => exact plain.elim
  | zero s =>
    rw [show s = .positive from plain]
    rfl
  | finite s m e hm =>
    obtain ⟨rfl, canonical⟩ := plain
    obtain ⟨_, small⟩ := below
    have low := canonical.low
    have short := canonical.short
    rw [pack_finite, if_neg (by omega)]
    split
    · next bits =>
      have full : 2 ^ 23 ≤ m := (Nat.le_log2 (Nat.ne_of_gt hm)).mp (by omega)
      rw [unpack_packComponents_normal full short (by omega) (by omega)]
      congr 1
      omega
    · next bits =>
      have long : m.log2 ≤ 23 := log2_le_of_lt short
      have subnormal : m < 2 ^ 23 := (Nat.log2_lt (Nat.ne_of_gt hm)).mp (by omega)
      have least : e = -149 := canonical.full.resolve_right (by omega)
      rw [unpack_packComponents_subnormal hm subnormal, least]

theorem Nearest.unpack_pack {u : UnpackedFloat} {x : ℚ} (h : Nearest u x) (below : Below 128 u) :
    Nearest (unpack .binary32 (pack .binary32 u)) x := by
  rwa [unpack_pack_of_plain h.plain below]

section Singles

variable {x y : Float32} {k : Int}

theorem nearest_ofUInt32 (n : UInt32) : Nearest n.toFloat32.toModel.unpack n.toNat := by
  have packed : n.toFloat32.toModel.unpack = unpack .binary32 (pack .binary32
      (UnpackedFloat.normalize .binary32 n.toNat 0 .positive)) := rfl
  rw [packed]
  rcases Nat.eq_zero_or_pos n.toNat with none | positive
  · rw [none, Nat.cast_zero]
    exact Plain.nearest (u := .zero .positive) rfl
  · have small := n.toNat_lt
    have bits : (n.toNat : Int).natAbs.log2 < 32 := log2_lt_of_lt (by omega) (by omega)
    have below : Below 128 (UnpackedFloat.normalize .binary32 n.toNat 0 .positive) :=
      below_normalize (by decide) (by omega)
    have rounded := nearest_normalize (e := 0) (Int.natCast_pos.mpr positive) .positive
    rw [zpow_zero, mul_one, Int.cast_natCast] at rounded
    exact rounded.unpack_pack below

theorem nearest_single_add (plainX : Plain x.toModel.unpack) (plainY : Plain y.toModel.unpack)
    (belowX : Below k x.toModel.unpack) (belowY : Below k y.toModel.unpack) (low : -126 ≤ k) (high : k ≤ 126) :
    Nearest (x + y).toModel.unpack (value x.toModel.unpack + value y.toModel.unpack) :=
  (nearest_add plainX plainY).unpack_pack ((below_add belowX belowY low).mono (by omega))

theorem nearest_single_div (plain : Plain x.toModel.unpack) {n bits : Nat} {f : Int} {hn : 0 < n}
    (hy : y.toModel.unpack = .finite .positive n f hn) (hx : Below k x.toModel.unpack) (wide : 2 ^ bits ≤ n)
    (low : -125 ≤ k - f - bits) (high : k - f - bits < 128) :
    Nearest (x / y).toModel.unpack (value x.toModel.unpack / (n * 2 ^ f)) := by
  rw [unpack_div hy]
  exact (nearest_div plain hn).unpack_pack ((below_div hx .positive hn wide low).mono (by omega))

section Counts

variable {n : Nat} {f : Int} {hn : 0 < n} (hy : y.toModel.unpack = .finite .positive n f hn)
  (least : 0 ≤ f + n.log2) (size : f + n.log2 ≤ 22) (count : UInt32)
include hy least size

theorem below_ofUInt32_div : Below 34 (count.toFloat32 / y).toModel.unpack :=
  (below_single_div hy (below_ofUInt32 count) (Nat.log2_self_le (Nat.ne_of_gt hn)) (by omega) (by omega)).mono
    (by omega)

theorem nearest_ofUInt32_div : Nearest (count.toFloat32 / y).toModel.unpack
    (value count.toFloat32.toModel.unpack / (n * 2 ^ f)) :=
  nearest_single_div (nearest_ofUInt32 count).plain hy (below_ofUInt32 count) (Nat.log2_self_le (Nat.ne_of_gt hn))
    (by omega) (by omega)

end Counts

theorem le_iff_value (plainX : Plain x.toModel.unpack) (plainY : Plain y.toModel.unpack) :
    x ≤ y ↔ value x.toModel.unpack ≤ value y.toModel.unpack :=
  le_iff.trans (plainX.le_iff_value plainY)

theorem le_of_le_of_value {z : Float32} (plainX : Plain x.toModel.unpack) (plainY : Plain y.toModel.unpack)
    (le : z ≤ x) (more : value x.toModel.unpack ≤ value y.toModel.unpack) : z ≤ y := by
  have number : z.toModel.unpack.isNaN = false := (isNaN_of_le le).1
  rw [le_iff] at le ⊢
  by_cases positive : Positive z.toModel.unpack
  · have plainZ : Plain z.toModel.unpack := by
      cases hz : z.toModel.unpack with
      | notANumber | zero s =>
        rw [hz] at positive
        exact positive.elim
      | infinity s =>
        rw [hz] at positive le
        rw [show s = .positive from positive] at le
        rw [plainX.not_infinity_le] at le
        cases le
      | finite s m e hm =>
        rw [hz] at positive
        exact ⟨positive, canonical_of_unpack hz⟩
    rw [plainZ.le_iff_value plainX] at le
    exact (plainZ.le_iff_value plainY).mpr (le_trans le more)
  · exact plainY.le_of_not_positive number positive

end Singles

end Rover.Single
