import Mathlib
import Rover.Numeric.Single

/-!
# Signs and bits of singles

A product of positive singles is not negative, whatever it is rounded to. The sign is followed
through the float model: packing keeps it, and rounding does not look at it. The bits that spell a
number are those that the number packs to, and just two of them spell zero. A positive number of
seconds is a positive number of milliseconds, down to the smallest single there is.
-/

namespace Rover.Single
open Float.Model
open Float.Model.UnpackedFloat
set_option autoImplicit false

/-- Not less than zero and not negative zero; a NaN counts in. -/
def Unsigned : UnpackedFloat → Prop
  | .infinity sign | .zero sign | .finite sign _ _ _ => sign = .positive
  | .notANumber => True

theorem Unsigned.not_lt_zero {u : UnpackedFloat} (h : Unsigned u) (sign : Sign) : u.lt (.zero sign) = false := by
  cases u with
  | notANumber => rfl
  | infinity s | zero s | finite s m e hm =>
    rw [show s = .positive from h]
    rfl

theorem unsigned_of_zero_lt {u : UnpackedFloat} {sign : Sign} (h : (UnpackedFloat.zero sign).lt u = true) :
    Unsigned u := by
  cases u with
  | notANumber => trivial
  | zero s => cases h
  | infinity s | finite s m e hm =>
    cases s with
    | positive => rfl
    | negative => cases h

theorem unsigned_unpack {spec : Format} {b : BitVec spec.numBits} (h : unpackSign b = Sign.positive.toBitVec) :
    Unsigned (unpack spec b) := by
  have positive : Sign.ofBitVec (unpackSign b) = .positive := by rw [h, Sign.ofBitVec_toBitVec]
  unfold UnpackedFloat.unpack
  dsimp only
  split
  · split
    · exact positive
    · trivial
  · split
    · split <;> exact positive
    · exact positive

theorem unsigned_unpack_pack {spec : Format} {u : UnpackedFloat} (h : Unsigned u) :
    Unsigned (unpack spec (pack spec u)) := by
  apply unsigned_unpack
  cases u with
  | notANumber => exact unpackSign_packComponents ..
  | infinity s | zero s =>
    rw [show s = .positive from h]
    exact unpackSign_packComponents ..
  | finite s m e hm =>
    rw [show s = .positive from h]
    unfold UnpackedFloat.pack
    dsimp only
    split
    · exact unpackSign_packComponents ..
    · split <;> exact unpackSign_packComponents ..

theorem unsigned_roundWithAccuracy (spec : Format) (m : Nat) (e : Int) (accuracy : Accuracy) :
    Unsigned (roundWithAccuracy spec .positive m e accuracy) := by
  unfold roundWithAccuracy
  dsimp only
  split <;> rfl

theorem unsigned_mul (spec : Format) {u v : UnpackedFloat} (hu : Unsigned u) (hv : Unsigned v) :
    Unsigned (mul spec u v) := by
  cases u <;> cases v <;> simp only [Unsigned] at hu hv
  all_goals
    subst_vars
    first
    | trivial
    | exact unsigned_roundWithAccuracy ..

theorem unsigned_div (spec : Format) {u v : UnpackedFloat} (hu : Unsigned u) (hv : Unsigned v) :
    Unsigned (div spec u v) := by
  cases u <;> cases v <;> simp only [Unsigned] at hu hv
  all_goals
    subst_vars
    first
    | trivial
    | exact unsigned_roundWithAccuracy ..

theorem lt_iff {x y : Float32} : x < y ↔ x.toModel.unpack.lt y.toModel.unpack = true :=
  decide_eq_true_iff

theorem not_lt_zero_of_unsigned {x : Float32} (h : Unsigned x.toModel.unpack) : ¬ x < 0 := by
  intro lt
  have negative := (h.not_lt_zero .positive).symm.trans (lt_iff.mp lt)
  cases negative

theorem mul_not_neg {x y : Float32} (hx : 0 < x) (hy : 0 < y) : ¬ x * y < 0 := by
  apply not_lt_zero_of_unsigned
  exact unsigned_unpack_pack
    (unsigned_mul _ (unsigned_of_zero_lt (lt_iff.mp hx)) (unsigned_of_zero_lt (lt_iff.mp hy)))

theorem beq_zero_iff {x : Float32} : (x == 0) = true ↔ x = 0 ∨ x = -0 := by
  constructor
  · intro h
    obtain ⟨_, _, same | ⟨same, _⟩ | ⟨same, _⟩⟩ := Float32.beq_iff_ne_nan_and_eq.mp h
    · exact .inl same
    · exact .inl same
    · exact .inr same
  · rintro (rfl | rfl) <;> decide +kernel

def Positive : UnpackedFloat → Prop
  | .infinity sign | .finite sign _ _ _ => sign = .positive
  | .zero _ | .notANumber => False

theorem positive_iff_zero_lt {u : UnpackedFloat} (sign : Sign) :
    Positive u ↔ (UnpackedFloat.zero sign).lt u = true := by
  cases u with
  | notANumber => exact ⟨False.elim, nofun⟩
  | zero s => exact ⟨False.elim, nofun⟩
  | infinity s | finite s m e hm =>
    cases s with
    | positive => exact iff_of_true rfl rfl
    | negative => exact ⟨nofun, nofun⟩

theorem Positive.not_le_zero {u : UnpackedFloat} (h : Positive u) (sign : Sign) :
    u.le (.zero sign) = false := by
  cases u with
  | notANumber | zero s => exact h.elim
  | infinity s | finite s m e hm =>
    rw [show s = .positive from h]
    rfl

theorem shiftRight_mantissa (em : ExtendedMantissa) (n : Nat) : (em >>> n).mantissa = em.mantissa / 2 ^ n := by
  induction n with
  | zero => exact (Nat.div_one _).symm
  | succ n ih =>
    have last : (em >>> (n + 1)).mantissa = (em >>> n).mantissa / 2 := rfl
    rw [last, ih, Nat.div_div_eq_div_mul, Nat.pow_succ]

theorem le_roundedMantissa (em : ExtendedMantissa) : em.mantissa ≤ em.roundedMantissa := by
  obtain ⟨m, roundBit, stickyBit⟩ := em
  cases roundBit <;> cases stickyBit
  · exact Nat.le_refl m
  · exact Nat.le_refl m
  · exact Nat.le_add_right m (m % 2)
  · exact Nat.le_succ m

theorem div_pow_pos {m k : Nat} (positive : 0 < m) (short : k ≤ m.log2) : 0 < m / 2 ^ k := by
  apply Nat.div_pos _ (Nat.two_pow_pos k)
  calc
    2 ^ k ≤ 2 ^ m.log2 := Nat.pow_le_pow_right (by decide) short
    _ ≤ m := Nat.log2_self_le (Nat.ne_of_gt positive)

theorem div_pow_lt {m k width : Nat} (long : m.log2 < k + width) : m / 2 ^ k < 2 ^ width := by
  rw [Nat.div_lt_iff_lt_mul (Nat.two_pow_pos k), ← Nat.pow_add, Nat.add_comm]
  calc
    m < 2 ^ (m.log2 + 1) := Nat.lt_log2_self
    _ ≤ 2 ^ (k + width) := Nat.pow_le_pow_right (by decide) long

/-- Shifting to the bits of a single, not below the smallest one. -/
theorem shiftToTargetExponent_eq (m : Nat) (e : Int) (accuracy : Accuracy) :
    let amount := (max (m.log2 + 1 + e - 24) (-149) - e).toNat
    let shifted := shiftToTargetExponent .binary32 m e accuracy
    shifted.1.mantissa = m / 2 ^ amount ∧ shifted.2 = e + amount := by
  intro amount shifted
  have whole : (ExtendedMantissa.ofMantissaAndAccuracy m accuracy).mantissa = m := by
    cases accuracy with
    | exact => rfl
    | inexact order => cases order <;> rfl
  have mantissa : shifted.1.mantissa =
      (ExtendedMantissa.ofMantissaAndAccuracy m accuracy).mantissa / 2 ^ amount := shiftRight_mantissa ..
  rw [mantissa, whole]
  exact ⟨rfl, rfl⟩

/-- A number no smaller than the smallest single, cut to the bits of a single, is not zero. -/
theorem shiftToTargetExponent_spec {m : Nat} {e : Int} (accuracy : Accuracy) (positive : 0 < m)
    (size : -149 ≤ e + m.log2) :
    let shifted := shiftToTargetExponent .binary32 m e accuracy
    0 < shifted.1.mantissa ∧ shifted.1.mantissa < 2 ^ 24 ∧ -149 ≤ shifted.2 := by
  intro shifted
  obtain ⟨mantissa, exponent⟩ := shiftToTargetExponent_eq m e accuracy
  rw [mantissa, exponent]
  exact ⟨div_pow_pos positive (by omega), div_pow_lt (by omega), by omega⟩

theorem positive_unpack {exponent : BitVec 8} {mantissa : BitVec 23} (number : exponent ≠ -1#8)
    (nonzero : exponent ≠ 0#8 ∨ mantissa ≠ 0#23) :
    Positive (unpack .binary32 (packComponents .binary32 .positive exponent mantissa)) := by
  have sign : Sign.ofBitVec (unpackSign (packComponents .binary32 .positive exponent mantissa)) = .positive := by
    rw [unpackSign_packComponents, Sign.ofBitVec_toBitVec]
  unfold UnpackedFloat.unpack
  simp only [unpackExponent_packComponents, unpackMantissa_packComponents]
  rw [if_neg number]
  split
  · next subnormal =>
    rw [dif_neg (nonzero.resolve_left (not_not_intro subnormal))]
    exact sign
  · exact sign

theorem positive_pack {m : Nat} {e : Int} (positive : 0 < m) (small : m < 2 ^ 24) (size : -149 ≤ e) :
    Positive (unpack .binary32 (pack .binary32 (.finite .positive m e positive))) := by
  let biased := (e + 127 + 23).toNat
  have ofNat_ne {width n : Nat} (nonzero : n ≠ 0) (fits : n < 2 ^ width) : BitVec.ofNat width n ≠ 0 := by
    intro h
    have zero := congrArg BitVec.toNat h
    rw [BitVec.toNat_ofNat, Nat.mod_eq_of_lt fits] at zero
    exact nonzero zero
  have cases : pack .binary32 (.finite .positive m e positive) =
      if 256 ≤ biased + 1 then packedInfinity .binary32 .positive
      else if m.log2 + 1 = 24 then
        packComponents .binary32 .positive (BitVec.ofNat 8 biased) (BitVec.ofNat 23 m)
      else packComponents .binary32 .positive 0#8 (BitVec.ofNat 23 m) := rfl
  rw [cases]
  split
  · exact show Sign.ofBitVec _ = _ from rfl
  · next finite =>
    split
    · apply positive_unpack
      · intro h
        have ones := congrArg BitVec.toNat h
        rw [BitVec.toNat_ofNat, Nat.mod_eq_of_lt (by omega)] at ones
        have : (-1#8 : BitVec 8).toNat = 255 := rfl
        omega
      · exact .inl (ofNat_ne (by omega) (by omega))
    · next subnormal =>
      have long : m.log2 < 24 := (Nat.log2_lt (Nat.ne_of_gt positive)).mpr small
      have short : m < 2 ^ 23 := (Nat.log2_lt (Nat.ne_of_gt positive)).mp (by omega)
      exact positive_unpack (by decide) (.inr (ofNat_ne (Nat.ne_of_gt positive) short))

theorem positive_roundWithAccuracy {m : Nat} {e : Int} {accuracy : Accuracy} (positive : 0 < m)
    (size : -149 ≤ e + m.log2) :
    Positive (unpack .binary32 (pack .binary32 (roundWithAccuracy .binary32 .positive m e accuracy))) := by
  let shifted := shiftToTargetExponent .binary32 m e accuracy
  obtain ⟨first, _, bound⟩ : 0 < shifted.1.mantissa ∧ _ ∧ -149 ≤ shifted.2 :=
    shiftToTargetExponent_spec accuracy positive size
  have rounded : 0 < shifted.1.roundedMantissa := Nat.lt_of_lt_of_le first (le_roundedMantissa _)
  -- rounding up may need one more shift, which cannot empty the mantissa
  obtain ⟨last, small, final⟩ := shiftToTargetExponent_spec (e := shifted.2) .exact rounded (by omega)
  unfold roundWithAccuracy
  dsimp only
  rw [dif_neg (Nat.ne_of_gt last)]
  exact positive_pack last small final

theorem le_exponent_of_unpack {b : BitVec Format.binary32.numBits} {sign : Sign} {m : Nat} {e : Int} {hm : 0 < m}
    (h : unpack .binary32 b = .finite sign m e hm) : -149 ≤ e := by
  unfold UnpackedFloat.unpack at h
  dsimp only at h
  split at h
  · split at h <;> cases h
  · split at h
    · next subnormal =>
      split at h
      · cases h
      · cases h
        rw [subnormal]
        decide
    · next normal =>
      cases h
      have : (unpackExponent b).toNat ≠ 0 := fun zero => normal (BitVec.eq_of_toNat_eq zero)
      have : Format.binary32.exponentBias = 127 := rfl
      omega

theorem zero_lt_iff {x : Float32} : 0 < x ↔ Positive x.toModel.unpack :=
  lt_iff.trans (positive_iff_zero_lt .positive).symm

theorem not_le_zero {x : Float32} (h : 0 < x) : ¬ x ≤ 0 := by
  intro le
  have le : x.toModel.unpack.le (.zero .positive) = true := of_decide_eq_true le
  rw [(zero_lt_iff.mp h).not_le_zero] at le
  cases le

theorem not_lt_zero {x : Float32} (h : 0 < x) : ¬ x < 0 :=
  not_lt_zero_of_unsigned (unsigned_of_zero_lt (lt_iff.mp h))

theorem unpack_two : (2 : Float32).toModel.unpack = .finite .positive 8388608 (-22) (by decide) := rfl

theorem unpack_thousand : (1000 : Float32).toModel.unpack = .finite .positive 16384000 (-14) (by decide) := rfl

theorem unpack_million : (1000000 : Float32).toModel.unpack = .finite .positive 16000000 (-4) (by decide) := rfl

/-- Milliseconds of a positive time are positive: a thousand is more than enough to make up for
what rounding takes from the smallest singles. -/
theorem zero_lt_mul_thousand {x : Float32} (h : 0 < x) : 0 < x * 1000 := by
  have product : (x * 1000).toModel.unpack =
      unpack .binary32 (pack .binary32 (mul .binary32 x.toModel.unpack (1000 : Float32).toModel.unpack)) := rfl
  rw [zero_lt_iff, product, unpack_thousand]
  have positive := zero_lt_iff.mp h
  cases hUnpack : x.toModel.unpack with
  | notANumber | zero s =>
    rw [hUnpack] at positive
    exact positive.elim
  | infinity s =>
    rw [hUnpack] at positive
    rw [show s = .positive from positive]
    exact show Sign.ofBitVec _ = _ from rfl
  | finite s m e hm =>
    rw [hUnpack] at positive
    rw [show s = .positive from positive]
    have := le_exponent_of_unpack hUnpack
    have long : 14 ≤ (m * 16384000).log2 := by
      rw [Nat.le_log2 (Nat.mul_ne_zero (Nat.ne_of_gt hm) (by decide))]
      omega
    exact positive_roundWithAccuracy (Nat.mul_pos hm (by decide)) (by omega)

end Rover.Single
