import Rover.Proofs.Magnitude

/-!
# Negatives and differences of singles

Negation changes the sign bit and nothing else, so it turns comparisons around and keeps the size. A
difference of negatives is the negative of the difference, except that a number less itself makes a
zero that is positive both times. A number less a smaller one is positive: singles are spelled with
as many bits as they have room for, so that the spellings compare as the numbers do, and no
difference is too small for a single.
-/

namespace Rover.Single
open Float.Model
open Float.Model.UnpackedFloat
set_option autoImplicit false

theorem ofBitVec_toBitVec_neg (sign : Sign) :
    Sign.ofBitVec (-sign).toBitVec = -Sign.ofBitVec sign.toBitVec := by
  cases sign <;> rfl

theorem unpack_packComponents_neg (sign : Sign) (exponent : BitVec 8) (mantissa : BitVec 23) :
    unpack .binary32 (packComponents .binary32 (-sign) exponent mantissa) =
      (unpack .binary32 (packComponents .binary32 sign exponent mantissa)).neg := by
  unfold UnpackedFloat.unpack
  simp only [unpackExponent_packComponents, unpackMantissa_packComponents, unpackSign_packComponents,
    ofBitVec_toBitVec_neg]
  split
  · split <;> rfl
  · split
    · split <;> rfl
    · rfl

theorem unpack_pack_neg (u : UnpackedFloat) :
    unpack .binary32 (pack .binary32 u.neg) = (unpack .binary32 (pack .binary32 u)).neg := by
  cases u with
  | notANumber => rfl
  | infinity s | zero s => exact unpack_packComponents_neg ..
  | finite s m e hm =>
    rw [UnpackedFloat.neg, pack_finite, pack_finite]
    split
    · exact unpack_packComponents_neg ..
    · split <;> exact unpack_packComponents_neg ..

theorem unpack_pack_unpack {b : BitVec Format.binary32.numBits} (valid : Format.binary32.Valid b) :
    unpack .binary32 (pack .binary32 (unpack .binary32 b)) = unpack .binary32 b := by
  rw [pack_unpack_of_valid valid]

/-- The bits that spell a finite number: as many as there are, down to the least exponent. -/
structure Canonical (m : Nat) (e : Int) : Prop where
  short : m < 2 ^ 24
  low : -149 ≤ e
  full : e = -149 ∨ 2 ^ 23 ≤ m

theorem canonical_of_unpack {b : BitVec Format.binary32.numBits} {sign : Sign} {m : Nat} {e : Int} {hm : 0 < m}
    (h : unpack .binary32 b = .finite sign m e hm) : Canonical m e := by
  have low := le_exponent_of_unpack h
  unfold UnpackedFloat.unpack at h
  dsimp only at h
  split at h
  · split at h <;> cases h
  · split at h
    · next subnormal =>
      split at h
      · cases h
      · cases h
        refine ⟨Nat.lt_of_lt_of_le (BitVec.isLt _) (by decide), low, .inl ?_⟩
        rw [subnormal]
        rfl
    · cases h
      refine ⟨BitVec.isLt _, low, .inr ?_⟩
      rw [BitVec.toNat_append]
      exact Nat.left_le_or

theorem Canonical.shiftLeft_lt {m n : Nat} {e f lower : Int} (hm : Canonical m e) (hn : Canonical n f)
    (less : e < f ∨ e = f ∧ m < n) (le : lower ≤ e) : m <<< (e - lower).toNat < n <<< (f - lower).toNat := by
  rw [Nat.shiftLeft_eq, Nat.shiftLeft_eq]
  rcases less with less | ⟨rfl, less⟩
  · have := hm.low
    have full : 2 ^ 23 ≤ n := hn.full.resolve_left (by omega)
    calc
      m * 2 ^ (e - lower).toNat < 2 ^ 24 * 2 ^ (e - lower).toNat :=
        Nat.mul_lt_mul_of_pos_right hm.short (Nat.two_pow_pos _)
      _ = 2 ^ 23 * 2 ^ ((e - lower).toNat + 1) := by rw [Nat.pow_succ]; omega
      _ ≤ n * 2 ^ (f - lower).toNat :=
        Nat.mul_le_mul full (Nat.pow_le_pow_right (by decide) (by omega))
  · exact Nat.mul_lt_mul_of_pos_right less (Nat.two_pow_pos _)

theorem swap_compare_then (e f : Int) (m n : Nat) :
    ((compare e f).then (compare m n)).swap = (compare f e).then (compare n m) := by
  rw [Ordering.swap_then, Int.compare_swap, Nat.compare_swap]

theorem compare_swap (u v : UnpackedFloat) : (u.compare v).map Ordering.swap = v.compare u := by
  cases u with
  | notANumber => cases v <;> rfl
  | infinity s | zero s =>
    cases v with
    | notANumber => cases s <;> rfl
    | infinity t | zero t | finite t n f hn => cases s <;> cases t <;> rfl
  | finite s m e hm =>
    cases v with
    | notANumber => cases s <;> rfl
    | infinity t | zero t => cases s <;> cases t <;> rfl
    | finite t n f hn =>
      cases s <;> cases t
      · exact congrArg (fun order => some order.swap) (swap_compare_then e f m n)
      · rfl
      · rfl
      · exact congrArg some (swap_compare_then e f m n)

theorem compare_neg (u v : UnpackedFloat) : u.neg.compare v.neg = v.compare u := by
  rw [← compare_swap u v]
  cases u with
  | notANumber => cases v <;> rfl
  | infinity s | zero s =>
    cases v with
    | notANumber => cases s <;> rfl
    | infinity t | zero t | finite t n f hn => cases s <;> cases t <;> rfl
  | finite s m e hm =>
    cases v with
    | notANumber => cases s <;> rfl
    | infinity t | zero t => cases s <;> cases t <;> rfl
    | finite t n f hn =>
      cases s <;> cases t
      · exact congrArg some Ordering.swap_swap.symm
      · rfl
      · rfl
      · rfl

theorem exists_compare {u v : UnpackedFloat} (hu : u.isNaN = false) (hv : v.isNaN = false) :
    ∃ order, u.compare v = some order := by
  cases u with
  | notANumber => cases hu
  | infinity s | zero s | finite s m e hm =>
    cases v with
    | notANumber => cases hv
    | infinity t | zero t | finite t n f hn => cases s <;> cases t <;> exact ⟨_, rfl⟩

theorem lt_of_not_le {u v : UnpackedFloat} (hu : u.isNaN = false) (hv : v.isNaN = false)
    (h : v.le u = false) : u.lt v = true := by
  obtain ⟨order, compared⟩ := exists_compare hv hu
  rw [UnpackedFloat.le, compared] at h
  rw [UnpackedFloat.lt, ← compare_swap, compared]
  cases order with
  | lt | eq => cases h
  | gt => rfl

theorem round_neg (sign : Sign) (m : Nat) (e : Int) :
    round .binary32 (-sign) m e = (round .binary32 sign m e).neg := by
  unfold UnpackedFloat.round roundWithAccuracy
  dsimp only
  split <;> rfl

theorem normalize_neg (n e : Int) (sign : Sign) :
    UnpackedFloat.normalize .binary32 (-n) e sign =
      if n = 0 then .zero sign else (UnpackedFloat.normalize .binary32 n e sign).neg := by
  unfold UnpackedFloat.normalize
  rcases Int.lt_trichotomy n 0 with negative | rfl | positive
  · rw [if_neg (by omega), Int.compare_eq_gt.mpr (by omega : -n > 0), Int.compare_eq_lt.mpr negative]
    exact round_neg .negative ..
  · rfl
  · rw [if_neg (by omega), Int.compare_eq_lt.mpr (by omega : -n < 0), Int.compare_eq_gt.mpr positive,
      Int.neg_neg]
    exact round_neg .positive ..

theorem apply_neg (sign : Sign) (n : Int) : (-sign).apply n = -sign.apply n := by
  cases sign with
  | positive => rfl
  | negative => exact (Int.neg_neg n).symm

theorem sub_neg_neg (u v : UnpackedFloat) :
    sub .binary32 u.neg v.neg = (sub .binary32 u v).neg ∨
      sub .binary32 u v = .zero .positive ∧ sub .binary32 u.neg v.neg = .zero .positive := by
  cases u with
  | notANumber => exact .inl rfl
  | infinity s | zero s =>
    cases v with
    | notANumber | finite t n f hn => exact .inl rfl
    | infinity t | zero t => cases s <;> cases t <;> first | exact .inl rfl | exact .inr ⟨rfl, rfl⟩
  | finite s m e hm =>
    cases v with
    | notANumber | infinity t | zero t => exact .inl rfl
    | finite t n f hn =>
      let lower := min e f
      let left : Int := m <<< (e - lower).toNat
      let right : Int := n <<< (f - lower).toNat
      have difference (s t : Sign) : sub .binary32 (.finite s m e hm) (.finite t n f hn) =
          UnpackedFloat.normalize .binary32 (s.apply left - t.apply right) lower .positive := rfl
      have opposite : (-s).apply left - (-t).apply right = -(s.apply left - t.apply right) := by
        rw [apply_neg, apply_neg]
        omega
      rw [UnpackedFloat.neg, UnpackedFloat.neg, difference, difference, opposite, normalize_neg]
      split
      · next same =>
        rw [same]
        exact .inr ⟨rfl, rfl⟩
      · exact .inl rfl

theorem normalize_of_pos {n e : Int} (positive : 0 < n) (sign : Sign) :
    let amount := (e - max (n.toNat.log2 + 1 + e - 24) (-149)).toNat
    UnpackedFloat.normalize .binary32 n e sign =
      roundWithAccuracy .binary32 .positive (n.toNat <<< amount) (e - amount) .exact := by
  unfold UnpackedFloat.normalize
  rw [Int.compare_eq_gt.mpr positive]
  rfl

/-- Adding what is not less than zero leaves no number less than zero, nor negative zero. -/
theorem unsigned_add {u v : UnpackedFloat} (hu : Unsigned u) (hv : (UnpackedFloat.zero .positive).le v = true) :
    Unsigned (add .binary32 u v) := by
  cases u with
  | notANumber => trivial
  | infinity s | zero s =>
    rw [show s = .positive from hu]
    cases v with
    | notANumber => trivial
    | zero t => cases t <;> rfl
    | infinity t | finite t n f hn =>
      cases t with
      | negative => cases hv
      | positive => rfl
  | finite s m e hm =>
    rw [show s = .positive from hu]
    cases v with
    | notANumber => trivial
    | zero t => rfl
    | infinity t =>
      cases t with
      | negative => cases hv
      | positive => rfl
    | finite t n f hn =>
      cases t with
      | negative => cases hv
      | positive =>
        let lower := min e f
        have sum : add .binary32 (.finite .positive m e hm) (.finite .positive n f hn) =
            UnpackedFloat.normalize .binary32
              ((m <<< (e - lower).toNat : Nat) + (n <<< (f - lower).toNat : Nat)) lower .positive := rfl
        rw [sum, normalize_of_pos]
        · exact unsigned_roundWithAccuracy ..
        · have left : 0 < m <<< (e - lower).toNat := Nat.shiftLeft_pos_iff.mpr hm
          exact Int.add_pos_of_pos_of_nonneg (Int.natCast_pos.mpr left) (Int.natCast_nonneg _)

/-- Nothing is lost below the smallest single. -/
theorem positive_normalize {n e : Int} (positive : 0 < n) (low : -149 ≤ e) (sign : Sign) : Positive
    (unpack .binary32 (pack .binary32 (UnpackedFloat.normalize .binary32 n e sign))) := by
  rw [normalize_of_pos positive]
  generalize (e - max (n.toNat.log2 + 1 + e - 24) (-149)).toNat = amount
  have shifted : 2 ^ amount ≤ n.toNat <<< amount := by
    rw [Nat.shiftLeft_eq]
    exact Nat.le_mul_of_pos_left _ (by omega)
  have nonempty : 0 < n.toNat <<< amount := Nat.lt_of_lt_of_le (Nat.two_pow_pos _) shifted
  have long : amount ≤ (n.toNat <<< amount).log2 := (Nat.le_log2 (Nat.ne_of_gt nonempty)).mpr shifted
  exact positive_roundWithAccuracy nonempty (by omega)

/-- Numbers compare as their spellings to a common exponent do. -/
theorem apply_lt_apply {s t : Sign} {m n : Nat} {e f lower : Int} {hm : 0 < m} {hn : 0 < n}
    (canonicalM : Canonical m e) (canonicalN : Canonical n f) (lowE : lower ≤ e) (lowF : lower ≤ f)
    (h : (UnpackedFloat.finite s m e hm).lt (.finite t n f hn) = true) :
    s.apply (m <<< (e - lower).toNat : Nat) < t.apply (n <<< (f - lower).toNat : Nat) := by
  have order {e f : Int} {m n : Nat} (lt : (compare e f).then (compare m n) = .lt) :
      e < f ∨ e = f ∧ m < n := by
    rwa [Ordering.then_eq_lt, Int.compare_eq_lt, Int.compare_eq_eq, Nat.compare_eq_lt] at lt
  have compared := beq_iff_eq.mp h
  cases s <;> cases t
  · have less := order ((swap_compare_then e f m n).symm.trans (Option.some.inj compared))
    exact Int.neg_lt_neg (Int.ofNat_lt.mpr (canonicalN.shiftLeft_lt canonicalM less lowF))
  · have : 0 < m <<< (e - lower).toNat := Nat.shiftLeft_pos_iff.mpr hm
    have : 0 < n <<< (f - lower).toNat := Nat.shiftLeft_pos_iff.mpr hn
    dsimp only [Sign.apply]
    omega
  · cases compared
  · exact Int.ofNat_lt.mpr (canonicalM.shiftLeft_lt canonicalN (order (Option.some.inj compared)) lowE)

theorem positive_sub {u v : UnpackedFloat} (hu : ∀ {s m e hm}, u = .finite s m e hm → Canonical m e)
    (hv : ∀ {s m e hm}, v = .finite s m e hm → Canonical m e) (h : u.lt v = true) :
    Positive (unpack .binary32 (pack .binary32 (sub .binary32 v u))) := by
  have infinite : Positive (unpack .binary32 (pack .binary32 (.infinity .positive))) :=
    show Sign.ofBitVec _ = _ from rfl
  cases u with
  | notANumber => cases h
  | infinity s =>
    cases v with
    | notANumber => cases s <;> cases h
    | infinity t | zero t | finite t n f hn => cases s <;> cases t <;> first | exact infinite | cases h
  | zero s =>
    cases v with
    | notANumber | zero t => cases h
    | infinity t => cases t <;> first | exact infinite | cases h
    | finite t n f hn =>
      cases t with
      | negative => cases h
      | positive => exact positive_pack hn (hv rfl).short (hv rfl).low
  | finite s m e hm =>
    cases v with
    | notANumber => cases s <;> cases h
    | infinity t => cases s <;> cases t <;> first | exact infinite | cases h
    | zero t =>
      cases s with
      | negative => exact positive_pack hm (hu rfl).short (hu rfl).low
      | positive => cases h
    | finite t n f hn =>
      have less := apply_lt_apply (hu rfl) (hv rfl) (Int.min_le_right f e) (Int.min_le_left f e) h
      have := (hu rfl).low
      have := (hv rfl).low
      exact positive_normalize (Int.sub_pos.mpr less) (by omega) .positive

section Singles

variable {x y : Float32}

theorem ext_unpack (h : x.toModel.unpack = y.toModel.unpack) : x = y := by
  obtain ⟨⟨a, validA⟩⟩ := x
  obtain ⟨⟨b, validB⟩⟩ := y
  have same : a = b := UInt32.toBitVec_inj.mp ((unpack_inj_of_valid validA validB).mp h)
  subst same
  rfl

theorem unpack_neg (x : Float32) : (-x).toModel.unpack = x.toModel.unpack.neg := by
  have packed : (-x).toModel.unpack = (unpack .binary32 (pack .binary32 x.toModel.unpack)).neg :=
    unpack_pack_neg _
  rw [packed]
  exact congrArg UnpackedFloat.neg (unpack_pack_unpack x.toModel.valid)

theorem unpack_sub (x y : Float32) : (x - y).toModel.unpack =
    unpack .binary32 (pack .binary32 (sub .binary32 x.toModel.unpack y.toModel.unpack)) := rfl

theorem neg_neg (x : Float32) : - -x = x := by
  apply ext_unpack
  rw [unpack_neg, unpack_neg, unpacked_neg_neg]

theorem unpack_abs (x : Float32) :
    x.abs.toModel.unpack = unpack .binary32 (pack .binary32 x.toModel.unpack.abs) := rfl

theorem abs_neg (x : Float32) : (-x).abs = x.abs := by
  have sizeOnly : x.toModel.unpack.neg.abs = x.toModel.unpack.abs := by cases x.toModel.unpack <;> rfl
  apply ext_unpack
  rw [unpack_abs, unpack_abs, unpack_neg, sizeOnly]

theorem neg_lt_neg_iff : -x < -y ↔ y < x := by
  rw [lt_iff, lt_iff, unpack_neg, unpack_neg, UnpackedFloat.lt, compare_neg, UnpackedFloat.lt]

theorem neg_le_neg_iff : -x ≤ -y ↔ y ≤ x := by
  rw [le_iff, le_iff, unpack_neg, unpack_neg, UnpackedFloat.le, compare_neg, UnpackedFloat.le]

theorem zero_lt_neg_iff : 0 < -x ↔ x < 0 := by
  have negativeZero : -0 < -x ↔ (UnpackedFloat.zero .negative).lt (-x).toModel.unpack = true := lt_iff
  rw [zero_lt_iff, positive_iff_zero_lt .negative, ← negativeZero, neg_lt_neg_iff]

theorem neg_lt_zero_iff : -x < 0 ↔ 0 < x := by
  rw [← zero_lt_neg_iff, neg_neg]

theorem not_zero_le (h : x < 0) : ¬ 0 ≤ x := by
  intro le
  rw [← neg_le_neg_iff, le_iff] at le
  have le : (-x).toModel.unpack.le (.zero .negative) = true := le
  rw [(zero_lt_iff.mp (zero_lt_neg_iff.mpr h)).not_le_zero] at le
  cases le

theorem not_lt_of_le (h : x ≤ y) : ¬ y < x := by
  intro lt
  have compared := beq_iff_eq.mp (lt_iff.mp lt)
  rw [le_iff, UnpackedFloat.le, ← compare_swap, compared] at h
  cases h

theorem zero_lt_of_lt_of_le (hx : 0 < x) (h : x ≤ y) : 0 < y := by
  rw [zero_lt_iff] at hx ⊢
  rw [le_iff] at h
  cases hUnpack : x.toModel.unpack with
  | notANumber | zero s =>
    rw [hUnpack] at hx
    exact hx.elim
  | infinity s | finite s m e hm =>
    rw [hUnpack] at hx h
    rw [show s = .positive from hx] at h
    cases hy : y.toModel.unpack with
    | notANumber | zero t =>
      rw [hy] at h
      cases h
    | infinity t | finite t n f hn =>
      rw [hy] at h
      cases t with
      | negative => cases h
      | positive => rfl

theorem zero_lt_or_of_abs (h : 0 < x.abs) : 0 < x ∨ x < 0 := by
  rw [zero_lt_iff, unpack_abs] at h
  rw [← zero_lt_neg_iff, zero_lt_iff, zero_lt_iff, unpack_neg]
  cases hx : x.toModel.unpack with
  | notANumber =>
    rw [hx] at h
    exact h.elim
  | zero s =>
    have none : unpack .binary32 (pack .binary32 (UnpackedFloat.zero s).abs) = .zero .positive :=
      unpack_packedZero
    rw [hx, none] at h
    exact h.elim
  | infinity s | finite s m e hm =>
    cases s with
    | negative => exact .inr rfl
    | positive => exact .inl rfl

theorem zero_lt_or_eq_zero (unsigned : Unsigned x.toModel.unpack) (number : x.isNaN = false) : 0 < x ∨ x = 0 := by
  rw [isNaN_eq] at number
  rw [zero_lt_iff]
  cases hx : x.toModel.unpack with
  | notANumber =>
    rw [hx] at number
    cases number
  | zero s =>
    rw [hx] at unsigned
    rw [show s = .positive from unsigned] at hx
    exact .inr (ext_unpack hx)
  | infinity s | finite s m e hm =>
    rw [hx] at unsigned
    exact .inl unsigned

theorem lt_of_not_single_le (hx : x.isNaN = false) (hy : y.isNaN = false) (h : ¬ y ≤ x) : x < y := by
  rw [le_iff] at h
  exact lt_iff.mpr (lt_of_not_le hx hy (Bool.eq_false_iff.mpr h))

theorem isNaN_sub_of_below {k : Int} (hx : Below k x.toModel.unpack) (hy : y.isNaN = false) :
    (x - y).isNaN = false := by
  have differs {u v : UnpackedFloat} (hu : Below k u) (hv : v.isNaN = false) :
      (sub .binary32 u v).isNaN = false := by
    cases v with
    | notANumber => cases hv
    | infinity t =>
      cases u with
      | notANumber | infinity s => exact hu.elim
      | zero s | finite s m e hm => rfl
    | zero t => exact isNaN_sub hu.isNaN (k := k) trivial
    | finite t n f hn =>
      cases u with
      | notANumber | infinity s => exact hu.elim
      | zero s => rfl
      | finite s m e hm => exact isNaN_normalize ..
  exact (isNaN_unpack_pack _).trans (differs hx hy)

theorem sub_pos (h : x < y) : 0 < y - x := by
  rw [zero_lt_iff, unpack_sub]
  exact positive_sub canonical_of_unpack canonical_of_unpack (lt_iff.mp h)

/-- A number less itself leaves a positive zero, and so do their negatives. -/
theorem neg_sub_neg (x y : Float32) : -x - -y = -(x - y) ∨ x - y = 0 ∧ -x - -y = 0 := by
  have packed : (-(x - y)).toModel.unpack =
      unpack .binary32 (pack .binary32 (sub .binary32 x.toModel.unpack y.toModel.unpack).neg) := by
    rw [unpack_neg, unpack_sub, unpack_pack_neg]
  rcases sub_neg_neg x.toModel.unpack y.toModel.unpack with opposite | ⟨same, negatives⟩
  · refine .inl (ext_unpack ?_)
    rw [packed, unpack_sub, unpack_neg, unpack_neg, opposite]
  · refine .inr ⟨ext_unpack ?_, ext_unpack ?_⟩
    · rw [unpack_sub, same]
      rfl
    · rw [unpack_sub, unpack_neg, unpack_neg, negatives]
      rfl

theorem sub_neg (h : x < y) : x - y < 0 := by
  have opposite : 0 < -x - -y := sub_pos (neg_lt_neg_iff.mpr h)
  rcases neg_sub_neg x y with same | ⟨_, zero⟩
  · rwa [same, zero_lt_neg_iff] at opposite
  · rw [zero] at opposite
    exact absurd opposite (by decide +kernel)

theorem sub_zero (x : Float32) : x - 0 = x := by
  apply ext_unpack
  have kept : sub .binary32 x.toModel.unpack (.zero .positive) = x.toModel.unpack := by
    cases x.toModel.unpack with
    | notANumber => rfl
    | infinity s | zero s | finite s m e hm => cases s <;> rfl
  rw [unpack_sub]
  exact (congrArg (fun u => unpack .binary32 (pack .binary32 u)) kept).trans
    (unpack_pack_unpack x.toModel.valid)

end Singles

end Rover.Single
