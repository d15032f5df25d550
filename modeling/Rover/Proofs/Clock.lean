import Rover.Time

/-!
# Time arithmetic

Times are numbers of microseconds modulo the wrap of the millisecond count: spans are differences,
later times are sums, and a time is its own span after any other. The machine holds a time in words
of 32 and 16 bits and is given a delay in 64. Its operations on words come to the same times, and
leave the range of a word for no pair of times; a delay has to leave room for the microseconds that
it is added to.
-/

namespace Rover
set_option autoImplicit false

namespace Time

def wrap : Nat := 1000 * UInt32.size

variable (t earlier : Time) (micros more : Nat)

theorem wrap_eq : wrap = 4294967296000 := rfl

theorem millis_lt : t.millis.toNat < 4294967296 := t.millis.toNat_lt

theorem toMicros_lt : t.toMicros < wrap := by
  have whole := t.millis_lt
  have part := t.micros_lt
  simp only [toMicros, wrap_eq]
  omega

theorem toMicros_injective {t s : Time} (same : t.toMicros = s.toMicros) : t = s := by
  obtain ⟨millis, micros, below⟩ := t
  obtain ⟨millis', micros', below'⟩ := s
  simp only [toMicros] at same
  obtain rfl : micros = micros' := by omega
  obtain rfl : millis = millis' := UInt32.toNat_inj.mp (by omega)
  rfl

theorem toMicros_since : ((t.since earlier).toMicros : Int) = (t.toMicros - earlier.toMicros) % wrap := by
  have part := t.micros_lt
  have part' := earlier.micros_lt
  have whole := t.millis_lt
  have whole' := earlier.millis_lt
  simp only [toMicros, wrap_eq]
  unfold since
  split
  · simp only [UInt32.toNat_sub]
    omega
  · -- the borrow is taken modulo the wrap too: from no milliseconds it leaves the largest count
    simp only [UInt32.toNat_sub, UInt32.toNat_one]
    omega

theorem toMicros_after : (t.after micros).toMicros = (t.toMicros + micros) % wrap := by
  simp only [toMicros, after, wrap_eq, UInt32.toNat_add, UInt32.toNat_ofNat']
  omega

theorem after_since : earlier.after (t.since earlier).toMicros = t := by
  apply toMicros_injective
  have below := t.toMicros_lt
  have below' := earlier.toMicros_lt
  have span := t.toMicros_since earlier
  rw [toMicros_after]
  rw [wrap_eq] at *
  omega

theorem toMicros_since_after : ((t.after micros).since t).toMicros = micros % wrap := by
  have span := (t.after micros).toMicros_since t
  rw [toMicros_after] at span
  rw [wrap_eq] at *
  omega

theorem after_after : (t.after micros).after more = t.after (micros + more) := by
  apply toMicros_injective
  rw [toMicros_after, toMicros_after, toMicros_after, Nat.mod_add_mod, Nat.add_assoc]

end Time

/-- A time in machine words; nothing keeps its microseconds below a thousand. -/
structure Stamp where
  millis : UInt32
  micros : UInt16
  deriving DecidableEq, Repr

namespace Stamp

def toMicros (s : Stamp) : Nat := 1000 * s.millis.toNat + s.micros.toNat

def ofParts (millis : UInt32) (micros : UInt16) : Stamp := ⟨millis + (micros / 1000).toUInt32, micros % 1000⟩

def ofMillis (millis : UInt32) : Stamp := ⟨millis, 0⟩

/-- None if the sum has more than 16 bits. -/
def sum? (m n : UInt16) : Option UInt16 := if m.toNat + n.toNat < UInt16.size then some (m + n) else none

/-- None if the difference is negative. -/
def difference? (m n : UInt16) : Option UInt16 := if n ≤ m then some (m - n) else none

/-- The milliseconds wrap; none if a word of microseconds overflows. -/
def since? (s earlier : Stamp) : Option Stamp :=
  if earlier.micros ≤ s.micros then
    (difference? s.micros earlier.micros).map fun micros => ⟨s.millis - earlier.millis, micros⟩
  else
    ((sum? s.micros 1000).bind fun raised => difference? raised earlier.micros).map fun micros =>
      ⟨s.millis - earlier.millis - 1, micros⟩

/-- The milliseconds wrap; none if the sum of all microseconds has more than 64 bits. -/
def after? (s : Stamp) (micros : UInt64) : Option Stamp :=
  if s.micros.toNat + micros.toNat < UInt64.size then
    let total := s.micros.toUInt64 + micros
    some ⟨s.millis + (total / 1000).toUInt32, (total % 1000).toUInt16⟩
  else none

/-- The stamps that there are operations for. -/
inductive Built : Stamp → Prop where
  | ofParts (millis : UInt32) (micros : UInt16) : Built (ofParts millis micros)
  | ofMillis (millis : UInt32) : Built (ofMillis millis)
  | since {s earlier span : Stamp} : Built s → Built earlier → s.since? earlier = some span → Built span
  | after {s later : Stamp} (micros : UInt64) : Built s → s.after? micros = some later → Built later

end Stamp

namespace Time

def stamp (t : Time) : Stamp := ⟨t.millis, .ofNat t.micros⟩

variable (t earlier : Time)

theorem micros_lt_size : t.micros < UInt16.size := Nat.lt_trans t.micros_lt (by decide)

theorem toNat_stamp_micros : t.stamp.micros.toNat = t.micros := UInt16.toNat_ofNat_of_lt t.micros_lt_size

theorem toMicros_stamp : t.stamp.toMicros = t.toMicros := by
  rw [Stamp.toMicros, toNat_stamp_micros]
  rfl

theorem stamp_ofParts (millis : UInt32) (micros : UInt16) :
    (ofParts millis micros).stamp = .ofParts millis micros := by
  have whole : UInt32.ofNat (micros.toNat / 1000) = (micros / 1000).toUInt32 := by
    apply UInt32.toNat_inj.mp
    have := micros.toNat_lt
    simp
    omega
  have part : UInt16.ofNat (micros.toNat % 1000) = micros % 1000 := by
    apply UInt16.toNat_inj.mp
    simp
    omega
  simp only [stamp, ofParts, Stamp.ofParts, whole, part]

theorem stamp_micros_le_iff : earlier.stamp.micros ≤ t.stamp.micros ↔ earlier.micros ≤ t.micros :=
  UInt16.ofNat_le_iff_le earlier.micros_lt_size t.micros_lt_size

theorem stamp_since : t.stamp.since? earlier.stamp = some (t.since earlier).stamp := by
  have order := t.stamp_micros_le_iff earlier
  unfold since
  split
  · next ordered =>
    rw [Stamp.since?, if_pos (order.mpr ordered), Stamp.difference?, if_pos (order.mpr ordered), Option.map_some]
    simp only [stamp, UInt16.ofNat_sub ordered]
  · next unordered =>
    -- with a thousand borrowed the sum stays below two thousand, and covers what is taken from it
    have part := t.micros_lt
    have part' := earlier.micros_lt
    have below : t.micros + 1000 < UInt16.size := Nat.lt_trans (Nat.add_lt_add_right part 1000) (by decide)
    have room : t.stamp.micros.toNat + (1000 : UInt16).toNat < UInt16.size := t.toNat_stamp_micros.symm ▸ below
    have raised : t.stamp.micros + 1000 = .ofNat (t.micros + 1000) := (UInt16.ofNat_add ..).symm
    have taken : earlier.micros ≤ t.micros + 1000 := by omega
    have covers : earlier.stamp.micros ≤ .ofNat (t.micros + 1000) :=
      (UInt16.ofNat_le_iff_le earlier.micros_lt_size below).mpr taken
    rw [Stamp.since?, if_neg (mt order.mp unordered), Stamp.sum?, if_pos room, Option.bind_some, raised,
      Stamp.difference?, if_pos covers, Option.map_some]
    simp only [stamp, UInt16.ofNat_sub taken]

theorem stamp_after (micros : UInt64) : t.stamp.after? micros =
    if t.micros + micros.toNat < UInt64.size then some (t.after micros.toNat).stamp else none := by
  rw [Stamp.after?, toNat_stamp_micros]
  split
  · next fits =>
    have total : (t.stamp.micros.toUInt64 + micros).toNat = t.micros + micros.toNat := by
      rw [UInt64.toNat_add, UInt16.toNat_toUInt64, toNat_stamp_micros]
      exact Nat.mod_eq_of_lt fits
    have whole : ((t.stamp.micros.toUInt64 + micros) / 1000).toUInt32 =
        .ofNat ((t.micros + micros.toNat) / 1000) := by
      apply UInt32.toNat_inj.mp
      rw [UInt64.toNat_toUInt32, UInt64.toNat_div, total, UInt32.toNat_ofNat']
      rfl
    have part : ((t.stamp.micros.toUInt64 + micros) % 1000).toUInt16 = .ofNat ((t.micros + micros.toNat) % 1000) := by
      apply UInt16.toNat_inj.mp
      rw [UInt64.toNat_toUInt16, UInt64.toNat_mod, total, UInt16.toNat_ofNat']
      rfl
    simp only [whole, part]
    rfl
  · rfl

theorem stamp_micros_lt : t.stamp.micros < 1000 := by
  rw [UInt16.lt_iff_toNat_lt, toNat_stamp_micros]
  exact t.micros_lt

theorem stamp_after_of_room {delay : UInt64} (room : t.micros + delay.toNat < UInt64.size) :
    t.stamp.after? delay = some (t.after delay.toNat).stamp := by
  rw [stamp_after, if_pos room]

theorem stamp_after_since : earlier.stamp.after? (.ofNat (t.since earlier).toMicros) = some t.stamp := by
  have part := earlier.micros_lt
  have below := (t.since earlier).toMicros_lt
  rw [wrap_eq] at below
  have delay : (UInt64.ofNat (t.since earlier).toMicros).toNat = (t.since earlier).toMicros :=
    UInt64.toNat_ofNat_of_lt (Nat.lt_trans below (by decide))
  have room : earlier.micros + (UInt64.ofNat (t.since earlier).toMicros).toNat < UInt64.size := by
    rw [delay]
    exact Nat.lt_trans (Nat.add_lt_add part below) (by decide)
  rw [stamp_after_of_room _ room, delay, after_since]

theorem stamp_after_after {delay more : UInt64} (room : t.micros + delay.toNat + more.toNat < UInt64.size) :
    (t.stamp.after? delay).bind (·.after? more) = t.stamp.after? (delay + more) := by
  have size : UInt64.size = 18446744073709551616 := rfl
  have total : (delay + more).toNat = delay.toNat + more.toNat := by
    rw [UInt64.toNat_add]
    omega
  have first : t.micros + delay.toNat < UInt64.size := by omega
  have rest : (t.after delay.toNat).micros + more.toNat < UInt64.size := by
    simp only [after]
    omega
  have both : t.micros + (delay + more).toNat < UInt64.size := by omega
  rw [stamp_after_of_room t first, Option.bind_some, stamp_after_of_room _ rest, stamp_after_of_room t both,
    after_after, total]

end Time

theorem Stamp.Built.exists_time {s : Stamp} (h : s.Built) : ∃ t : Time, t.stamp = s := by
  induction h with
  | ofParts millis micros => exact ⟨.ofParts millis micros, Time.stamp_ofParts millis micros⟩
  | ofMillis millis => exact ⟨.ofMillis millis, rfl⟩
  | since _ _ passed ihs ihEarlier =>
    obtain ⟨t, rfl⟩ := ihs
    obtain ⟨earlier, rfl⟩ := ihEarlier
    exact ⟨t.since earlier, Option.some.inj ((t.stamp_since earlier).symm.trans passed)⟩
  | after micros _ passed ih =>
    obtain ⟨t, rfl⟩ := ih
    rw [Time.stamp_after] at passed
    split at passed
    · exact ⟨t.after micros.toNat, Option.some.inj passed⟩
    · cases passed

/-- Whatever times the operations build, spans between them and delays after them are exact modulo the wrap,
and no word overflows on the way. -/
theorem Time.exact_modulo_wrap {s earlier : Stamp} (hs : s.Built) (hEarlier : earlier.Built) :
    ∃ t e : Time, t.stamp = s ∧ e.stamp = earlier ∧
      s.micros < 1000 ∧ s.toMicros = t.toMicros ∧ earlier.micros < 1000 ∧ earlier.toMicros = e.toMicros ∧
      s.since? earlier = some (t.since e).stamp ∧
      ((t.since e).toMicros : Int) = (t.toMicros - e.toMicros) % wrap ∧
      e.after (t.since e).toMicros = t ∧ earlier.after? (.ofNat (t.since e).toMicros) = some s ∧
      ∀ m : UInt64, earlier.micros.toNat + m.toNat < UInt64.size →
        earlier.after? m = some (e.after m.toNat).stamp ∧
          (e.after m.toNat).toMicros = (e.toMicros + m.toNat) % wrap ∧
          ((e.after m.toNat).since e).toMicros = m.toNat % wrap ∧
          ∀ n : UInt64, earlier.micros.toNat + m.toNat + n.toNat < UInt64.size →
            (e.after m.toNat).after n.toNat = e.after (m.toNat + n.toNat) ∧
              (earlier.after? m).bind (·.after? n) = earlier.after? (m + n) := by
  obtain ⟨t, rfl⟩ := hs.exists_time
  obtain ⟨e, rfl⟩ := hEarlier.exists_time
  refine ⟨t, e, rfl, rfl, t.stamp_micros_lt, t.toMicros_stamp, e.stamp_micros_lt, e.toMicros_stamp,
    t.stamp_since e, t.toMicros_since e, t.after_since e, t.stamp_after_since e, fun m room => ?_⟩
  rw [e.toNat_stamp_micros] at room ⊢
  refine ⟨e.stamp_after_of_room room, e.toMicros_after m.toNat, e.toMicros_since_after m.toNat, fun n roomy => ?_⟩
  exact ⟨e.after_after m.toNat n.toNat, e.stamp_after_after roomy⟩

/-- The earlier time lies before the wrap and the later one after it, with fewer microseconds. -/
theorem Time.exact_modulo_wrap_past_it :
    let s := Stamp.ofParts 4 1100
    let earlier := Stamp.ofParts 4294967290 1900
    s.since? earlier = some ⟨9, 200⟩ ∧ earlier.after? 9200 = some s ∧
      ∃ t e : Time, t.stamp = s ∧ e.stamp = earlier ∧
        ((t.since e).toMicros : Int) = (t.toMicros - e.toMicros) % wrap ∧
        ((e.after 9200).since e).toMicros = 9200 % wrap := by
  intro s earlier
  obtain ⟨t, e, hs, hEarlier, -, -, -, -, -, span, -, -, delays⟩ :=
    exact_modulo_wrap (.ofParts 4 1100) (.ofParts 4294967290 1900)
  obtain ⟨-, -, passed, -⟩ := delays 9200 (by decide)
  exact ⟨by decide, by decide, t, e, hs, hEarlier, span, passed⟩

end Rover
