import Rover.Agenda
import Rover.Proofs.Clock
import Rover.Proofs.Nearest

/-!
# What has expired stays expired

The milliseconds of a span are rounded twice, once for the whole ones and once for the sum with the
fraction. A longer span has no fewer milliseconds for all that: up to `2 ^ 24` whole milliseconds are
exact and the fraction does not reach the next one; from there on singles are whole and even, and the
fraction, which is less than one, changes nothing. So a flag that was due is due at every later reading.
-/

namespace Rover
open Single
set_option autoImplicit false

namespace Single

theorem representable_natCast {n : Nat} (small : n ≤ 2 ^ 24) : Representable n := by
  rcases Nat.lt_or_eq_of_le small with less | rfl
  · exact ⟨n, 0, less, by decide, by rw [zpow_zero, mul_one]⟩
  · exact ⟨2 ^ 23, 1, by decide, by decide, by norm_num⟩

/-- From `2 ^ 24` on there are no odd singles. -/
theorem Representable.even {v : ℚ} (h : Representable v) (large : 2 ^ 24 ≤ v) : ∃ half : Nat, v = 2 * half := by
  obtain ⟨n, f, short, _, rfl⟩ := h
  have carried : 1 ≤ f := by
    by_contra low
    have unit : (2 : ℚ) ^ f ≤ 1 := zpow_le_one_of_nonpos₀ (by norm_num) (by omega)
    have less : (n : ℚ) < 2 ^ 24 := by exact_mod_cast short
    have := mul_le_of_le_one_right (Nat.cast_nonneg (α := ℚ) n) unit
    linarith
  refine ⟨n <<< (f - 1).toNat, ?_⟩
  have spelled := shiftLeft_mul_zpow n carried
  rw [zpow_one, mul_comm] at spelled
  exact spelled.symm

end Single

namespace Time

variable {t later : Time}

def wholeValue (t : Time) : ℚ := value t.millis.toFloat32.toModel.unpack

def partValue (t : Time) : ℚ := value (t.microsSingle / 1000).toModel.unpack

theorem nearest_wholeValue (t : Time) : Nearest t.millis.toFloat32.toModel.unpack t.millis.toNat :=
  nearest_ofUInt32 t.millis

theorem nearest_partValue (t : Time) : Nearest (t.microsSingle / 1000).toModel.unpack (t.micros / 1000) := by
  have small := t.micros_lt
  have count : (UInt32.ofNat t.micros).toNat = t.micros := UInt32.toNat_ofNat_of_lt (Nat.lt_trans small (by decide))
  have micros := nearest_ofUInt32 (.ofNat t.micros)
  rw [count] at micros
  have exact : value t.microsSingle.toModel.unpack = t.micros :=
    micros.eq_value (representable_natCast (by omega))
  have quotient := nearest_ofUInt32_div unpack_thousand (by decide) (by decide) (.ofNat t.micros)
  have unit : (16384000 : Nat) * (2 : ℚ) ^ (-14 : Int) = 1000 := by norm_num
  rw [unit] at quotient
  exact exact ▸ quotient

theorem nearest_toMillis (t : Time) : Nearest t.toMillis.toModel.unpack (t.wholeValue + t.partValue) :=
  nearest_single_add t.nearest_wholeValue.plain t.nearest_partValue.plain ((below_ofUInt32 _).mono (by decide))
    (below_ofUInt32_div unpack_thousand (by decide) (by decide) _) (by decide) (by decide)

theorem partValue_lt_one (t : Time) : t.partValue < 1 := by
  have representable : Representable ((2 ^ 24 - 1 : Nat) * 2 ^ (-24 : Int)) :=
    ⟨2 ^ 24 - 1, -24, by decide, by decide, rfl⟩
  have small : (t.micros : ℚ) ≤ 999 := by exact_mod_cast Nat.le_of_lt_succ t.micros_lt
  have below : (t.micros : ℚ) / 1000 ≤ (2 ^ 24 - 1 : Nat) * 2 ^ (-24 : Int) := by
    rw [div_le_iff₀ (by norm_num)]
    norm_num
    linarith
  calc
    t.partValue ≤ (2 ^ 24 - 1 : Nat) * 2 ^ (-24 : Int) := t.nearest_partValue.value_le representable below
    _ < 1 := by norm_num

theorem wholeValue_le_toMillis (t : Time) : t.wholeValue ≤ value t.toMillis.toModel.unpack :=
  t.nearest_toMillis.le_value t.nearest_wholeValue.plain.representable (le_add_of_nonneg_right (value_nonneg _))

/-- The fraction never reaches the next millisecond. -/
theorem value_toMillis_le (before : t.millis.toNat < later.millis.toNat) :
    value t.toMillis.toModel.unpack ≤ later.wholeValue := by
  have part := t.partValue_lt_one
  have ahead : (0 : ℚ) ≤ t.partValue := value_nonneg _
  rcases Nat.lt_or_ge t.millis.toNat (2 ^ 24) with small | large
  · have exact : t.wholeValue = t.millis.toNat := t.nearest_wholeValue.eq_value (representable_natCast (by omega))
    have next : Representable (t.millis.toNat + 1 : Nat) := representable_natCast (by omega)
    calc
      value t.toMillis.toModel.unpack ≤ (t.millis.toNat + 1 : Nat) := by
        apply t.nearest_toMillis.value_le next
        rw [exact, Nat.cast_add, Nat.cast_one]
        linarith
      _ ≤ later.wholeValue := later.nearest_wholeValue.le_value next (Nat.cast_le.mpr before)
  · have whole : t.wholeValue ≤ later.wholeValue :=
      t.nearest_wholeValue.value_le_value later.nearest_wholeValue (Nat.cast_lt.mpr before)
    have least : (2 ^ 24 : ℚ) ≤ t.wholeValue := by
      have large : ((2 ^ 24 : Nat) : ℚ) ≤ t.millis.toNat := Nat.cast_le.mpr large
      exact_mod_cast t.nearest_wholeValue.le_value (representable_natCast (le_refl _)) large
    have representable : Representable t.wholeValue := t.nearest_wholeValue.plain.representable
    have sum := t.wholeValue_le_toMillis
    obtain ⟨half, hHalf⟩ := representable.even least
    obtain ⟨sumHalf, hSum⟩ := t.nearest_toMillis.plain.representable.even (le_trans least sum)
    suffices same : value t.toMillis.toModel.unpack ≤ t.wholeValue from le_trans same whole
    -- a sum that is not the whole milliseconds is two away, and they are less than one away from it
    by_contra above
    have middle := add_le_of_closer (t.nearest_toMillis.closest representable) (not_le.mp above)
    have apart : half < sumHalf := by
      have more : (half : ℚ) < sumHalf := by linarith
      exact_mod_cast more
    have apart : (half : ℚ) + 1 ≤ sumHalf := by exact_mod_cast apart
    linarith

theorem value_toMillis_le_of_millis (same : t.millis = later.millis) (less : t.micros < later.micros) :
    value t.toMillis.toModel.unpack ≤ value later.toMillis.toModel.unpack := by
  have whole : t.wholeValue = later.wholeValue := by rw [wholeValue, same, wholeValue]
  have part : t.partValue ≤ later.partValue := by
    apply t.nearest_partValue.value_le_value later.nearest_partValue
    exact div_lt_div_of_pos_right (Nat.cast_lt.mpr less) (by norm_num)
  rcases lt_or_eq_of_le part with less | equal
  · exact t.nearest_toMillis.value_le_value later.nearest_toMillis (by rw [whole]; linarith)
  · have quotient : t.microsSingle / 1000 = later.microsSingle / 1000 :=
      ext_unpack (t.nearest_partValue.plain.eq_of_value later.nearest_partValue.plain equal)
    rw [toMillis, same, quotient, toMillis]

theorem value_toMillis_mono (le : t.toMicros ≤ later.toMicros) :
    value t.toMillis.toModel.unpack ≤ value later.toMillis.toModel.unpack := by
  have small := t.micros_lt
  have laterSmall := later.micros_lt
  unfold toMicros at le
  rcases Nat.lt_trichotomy t.millis.toNat later.millis.toNat with before | same | after
  · exact le_trans (value_toMillis_le before) later.wholeValue_le_toMillis
  · rcases Nat.lt_or_ge t.micros later.micros with less | more
    · exact value_toMillis_le_of_millis (UInt32.toNat_inj.mp same) less
    · rw [toMicros_injective (by unfold toMicros; omega : t.toMicros = later.toMicros)]
  · omega

theorem toMillis_le (le : t.toMicros ≤ later.toMicros) : t.toMillis ≤ later.toMillis :=
  (le_iff_value t.nearest_toMillis.plain later.nearest_toMillis.plain).mpr (value_toMillis_mono le)

theorem le_toMillis (le : t.toMicros ≤ later.toMicros) {duration : Float32} (reached : duration ≤ t.toMillis) :
    duration ≤ later.toMillis :=
  le_of_le_of_value t.nearest_toMillis.plain later.nearest_toMillis.plain reached (value_toMillis_mono le)

end Time

namespace Flag

/-- A flag that is due at one reading is due at every reading that is no less far from its last trigger;
so whoever looks late, but within one turn of the clock, finds it due. -/
theorem expired_stays_expired (flag : Flag) :
    (∀ span longer : Time, span.toMicros ≤ longer.toMicros → span.toMillis ≤ longer.toMillis) ∧
      (∀ now later : Time, (now.since flag.lastTrigger).toMicros ≤ (later.since flag.lastTrigger).toMicros →
        flag.due now = true → flag.due later = true) ∧
      (∀ elapsed more : Nat, elapsed ≤ more → more < Time.wrap →
        flag.due (flag.lastTrigger.after elapsed) = true → flag.due (flag.lastTrigger.after more) = true) := by
  have keeps (now later : Time)
      (le : (now.since flag.lastTrigger).toMicros ≤ (later.since flag.lastTrigger).toMicros)
      (due : flag.due now = true) : flag.due later = true := by
    simp only [Flag.due, Bool.and_eq_true, Bool.or_eq_true, decide_eq_true_eq] at due ⊢
    exact due.imp_right (Or.imp_right (Time.le_toMillis le))
  refine ⟨fun span longer => Time.toMillis_le, keeps, ?_⟩
  intro elapsed more le short
  apply keeps
  rw [Time.toMicros_since_after, Time.toMicros_since_after, Nat.mod_eq_of_lt short,
    Nat.mod_eq_of_lt (Nat.lt_of_le_of_lt le short)]
  exact le

/-- Past `2 ^ 24` milliseconds the last one is rounded away: the flag is due a millisecond early, and stays so while
the clock wraps. -/
theorem expired_stays_expired_rounded :
    let flag : Flag := ⟨true, 16777220, .ofMillis 4294967290⟩
    (Time.ofMillis 16777219).toMillis ≤ (Time.ofParts 16777219 999).toMillis ∧
      flag.due (flag.lastTrigger.after 16777219000) = true ∧ flag.due (flag.lastTrigger.after 16777219999) = true ∧
      flag.due (.ofMillis 4294967289) = true := by
  intro flag
  obtain ⟨spans, readings, moments⟩ := expired_stays_expired flag
  have early : flag.due (flag.lastTrigger.after 16777219000) = true := by decide +kernel
  exact ⟨spans _ _ (by decide +kernel), early, moments 16777219000 16777219999 (by decide) (by decide) early,
    readings _ _ (by decide +kernel) early⟩

end Flag

end Rover
