import Rover.Proofs.Nearest
import Rover.Proofs.Settled
import Rover.Proofs.Travel

/-!
# Time that has elapsed

Two different times are some seconds apart, however few microseconds lie between them: neither the
thousandth nor the millionth of a count that is not zero is rounded away. So two samples measure a
travel exactly if they were taken at different times.
-/

namespace Rover
open Motion
set_option autoImplicit false

namespace Single
open Float.Model

theorem zero_lt_of_value {x : Float32} (plain : Plain x.toModel.unpack) (positive : 0 < value x.toModel.unpack) :
    0 < x := by
  rw [zero_lt_iff]
  cases hx : x.toModel.unpack with
  | notANumber | infinity s =>
    rw [hx] at plain
    exact plain.elim
  | zero s =>
    rw [hx] at positive
    exact absurd positive (lt_irrefl 0)
  | finite s m e hm =>
    rw [hx] at plain
    exact plain.1

theorem representable_two_zpow {f : Int} (low : -149 ≤ f) : Representable (2 ^ f) :=
  ⟨1, f, by decide, low, by rw [Nat.cast_one, one_mul]⟩

/-- The quotient of a count that is not zero by a number of at most 23 bits does not vanish. -/
theorem le_value_ofUInt32_div {y : Float32} {n : Nat} {f : Int} {hn : 0 < n}
    (hy : y.toModel.unpack = .finite .positive n f hn) (least : 0 ≤ f + n.log2) (size : f + n.log2 ≤ 22)
    {count : UInt32} (nonzero : count ≠ 0) : 2 ^ (-23 : Int) ≤ value (count.toFloat32 / y).toModel.unpack := by
  apply (nearest_ofUInt32_div hy least size count).le_value (representable_two_zpow (by decide))
  have some : (1 : ℚ) ≤ value count.toFloat32.toModel.unpack := by
    have positive : 1 ≤ count.toNat := Nat.pos_of_ne_zero fun zero => nonzero (UInt32.toNat_inj.mp zero)
    have one : Representable 1 := representable_two_zpow (f := 0) (by decide)
    exact (nearest_ofUInt32 count).le_value one (Nat.one_le_cast.mpr positive)
  have divisor : (n : ℚ) * 2 ^ f ≤ 2 ^ (23 : Int) := by
    calc
      (n : ℚ) * 2 ^ f ≤ (2 ^ (n.log2 + 1) : Nat) * 2 ^ f :=
        mul_le_mul_of_nonneg_right (Nat.cast_le.mpr (Nat.le_of_lt Nat.lt_log2_self)) (zpow_nonneg (by norm_num) f)
      _ = 2 ^ ((n.log2 + 1 : Nat) + f) := by
        rw [Nat.cast_pow, Nat.cast_ofNat, ← zpow_natCast, ← zpow_add₀ (by norm_num)]
      _ ≤ 2 ^ (23 : Int) := zpow_le_zpow_right₀ (by norm_num) (by omega)
  rw [le_div_iff₀ (mul_pos (Nat.cast_pos.mpr hn) (zpow_pos (by norm_num) f))]
  calc
    (2 : ℚ) ^ (-23 : Int) * (n * 2 ^ f) ≤ 2 ^ (-23 : Int) * 2 ^ (23 : Int) :=
      mul_le_mul_of_nonneg_left divisor (zpow_nonneg (by norm_num) _)
    _ = 1 := by norm_num
    _ ≤ value count.toFloat32.toModel.unpack := some

end Single

namespace Time

variable {t earlier : Time}

theorem since_eq_zero_iff : t.since earlier = .zero ↔ t = earlier := by
  constructor
  · obtain ⟨millis, micros, below⟩ := t
    obtain ⟨earlierMillis, earlierMicros, earlierBelow⟩ := earlier
    intro h
    unfold since at h
    split at h
    · next le =>
      have whole := congrArg Time.millis h
      have part := congrArg Time.micros h
      dsimp only [zero] at whole part le
      rw [UInt32.sub_eq_iff_eq_add, UInt32.zero_add] at whole
      subst whole
      congr 1
      omega
    · have part := congrArg Time.micros h
      dsimp only [zero] at part
      omega
  · rintro rfl
    exact since_self t

theorem zero_lt_toSeconds (h : t ≠ .zero) : 0 < t.toSeconds := by
  have millis := Single.nearest_ofUInt32_div Single.unpack_thousand (by decide) (by decide) t.millis
  have micros := Single.nearest_ofUInt32_div Single.unpack_million (by decide) (by decide) (.ofNat t.micros)
  have seconds := Single.nearest_single_add millis.plain micros.plain
    (Single.below_ofUInt32_div Single.unpack_thousand (by decide) (by decide) t.millis)
    (Single.below_ofUInt32_div Single.unpack_million (by decide) (by decide) (.ofNat t.micros)) (by decide) (by decide)
  have some : (2 : ℚ) ^ (-23 : Int) ≤ Single.value (t.millis.toFloat32 / 1000).toModel.unpack +
      Single.value (t.microsSingle / 1000000).toModel.unpack := by
    by_cases whole : t.millis = 0
    · apply le_add_of_nonneg_of_le (Single.value_nonneg _)
      refine Single.le_value_ofUInt32_div Single.unpack_million (by decide) (by decide) fun part => h ?_
      obtain ⟨_, n, small⟩ := t
      have none : n % 2 ^ 32 = 0 := congrArg UInt32.toNat part
      rw [Nat.mod_eq_of_lt (by omega)] at none
      cases whole
      cases none
      rfl
    · apply le_add_of_le_of_nonneg _ (Single.value_nonneg _)
      exact Single.le_value_ofUInt32_div Single.unpack_thousand (by decide) (by decide) whole
  have shown := seconds.le_value (Single.representable_two_zpow (by decide)) some
  exact Single.zero_lt_of_value seconds.plain (lt_of_lt_of_le (zpow_pos (by norm_num) _) shown)

theorem zero_lt_toSeconds_since (apart : t ≠ earlier) : 0 < (t.since earlier).toSeconds :=
  zero_lt_toSeconds fun same => apart (since_eq_zero_iff.mp same)

end Time

namespace Motion.Odometer

variable {odometer : Odometer} {sample last : Sample}

theorem advance_of_same_time (h : odometer.last = some last) (same : sample.time = last.time) :
    odometer.advance sample = (none, odometer) := by
  have instant : Time.zero.toSeconds ≤ 0 := by decide +kernel
  simp only [advance, h, same, Time.since_self, if_pos instant]

theorem advance_of_apart (h : odometer.last = some last) (apart : sample.time ≠ last.time) :
    odometer.advance sample = (some (sample.travelFrom last), ⟨some sample⟩) := by
  have passed := Single.not_le_zero (Time.zero_lt_toSeconds_since apart)
  simp only [advance, h, if_neg passed]
  rfl

end Motion.Odometer

end Rover
