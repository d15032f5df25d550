import Rover.Proofs.Recurrence
import Rover.Proofs.Restart
import Rover.Settings.Load

/-!
# Settings that can be run

Validation looks for the first fault of the settings: of the period, of the left wheel's coefficients,
of the right wheel's. A robot is built from settings, and so is its control state, exactly if they have
no fault, and with the error of validation otherwise. Settings that were loaded can therefore be run,
and in every state from then on both wheels are updated in the period that was validated.
-/

namespace Rover
open Motion Signal Wire
set_option autoImplicit false

theorem Signal.Filter.error_iff {b a : List Float32} {fault : CoefficientFault} :
    ofCoefficients b a = .error fault ↔ fault? b a = some fault := by
  unfold ofCoefficients
  cases fault? b a <;> simp

/-- One to seven coefficients for each side of the equation, and something to divide by. -/
structure Motion.Tuning.Sound (tuning : Tuning) : Prop where
  lengths : tuning.numerator.length = tuning.denominator.length
  nonempty : 1 ≤ tuning.numerator.length
  short : tuning.numerator.length ≤ 7
  lead : ∃ lead rest, tuning.denominator = lead :: rest ∧ lead ≠ 0 ∧ lead ≠ -0

namespace Motion

variable {tuning : Tuning} {period : Float32}

theorem Tuning.Sound.fault?_eq_none (h : tuning.Sound) : Filter.fault? tuning.numerator tuning.denominator = none := by
  obtain ⟨lengths, nonempty, short, lead, rest, leading, positive, negative⟩ := h
  have even : (tuning.numerator.isEmpty || tuning.numerator.length != tuning.denominator.length) = false := by
    rw [lengths, bne_self_eq_false, Bool.or_false, List.isEmpty_eq_false_iff]
    exact List.length_pos_iff.mp nonempty
  have small : ¬ tuning.numerator.length > Signal.maxOrder + 1 := Nat.not_lt.mpr short
  have divides : ¬ (tuning.denominator.headD 0 == 0) = true := by
    rw [leading, List.headD_cons, Single.beq_zero_iff]
    exact not_or.mpr ⟨positive, negative⟩
  unfold Filter.fault?
  rw [even, if_neg Bool.false_ne_true, if_neg small, if_neg divides]

theorem Tuning.sound_of_accepted (accepted : Filter.fault? tuning.numerator tuning.denominator = none) :
    tuning.Sound := by
  obtain ⟨positive, lengths, short⟩ := Filter.lengths_of_accepted accepted
  refine ⟨lengths.symm, positive, short, ?_⟩
  obtain ⟨lead, rest, leading⟩ := List.exists_cons_of_length_pos (lengths.symm ▸ positive)
  refine ⟨lead, rest, leading, ?_⟩
  rw [← not_or, ← Single.beq_zero_iff]
  intro zero
  unfold Filter.fault? at accepted
  rw [leading, List.headD_cons, zero] at accepted
  split at accepted
  · cases accepted
  · split at accepted <;> cases accepted

theorem Tuning.sound_or_fault (tuning : Tuning) :
    tuning.Sound ∨ ∃ fault, Filter.ofCoefficients tuning.numerator tuning.denominator = .error fault := by
  cases hFault : Filter.fault? tuning.numerator tuning.denominator with
  | none => exact .inl (sound_of_accepted hFault)
  | some fault => exact .inr ⟨fault, Filter.error_iff.mpr hFault⟩

theorem Regulator.exists_ofTuning (positive : 0 < period) (sound : tuning.Sound) :
    ∃ r, Regulator.ofTuning tuning period = .ok r := by
  have built := Filter.ok_iff.mpr ⟨sound.fault?_eq_none, rfl⟩
  unfold ofTuning
  rw [if_pos positive, built]
  exact ⟨_, rfl⟩

end Motion

namespace Settings

variable {settings : Settings}

/-- The fault that comes first: the period is judged before any coefficients, and the left wheel's before the right
wheel's. -/
inductive FirstFault (settings : Settings) : RegulatorFault → Prop where
  | period : ¬ 0 < settings.period → FirstFault settings (.period settings.period)
  | left {fault : CoefficientFault} : 0 < settings.period →
      Filter.ofCoefficients settings.tuning.left.numerator settings.tuning.left.denominator = .error fault →
      FirstFault settings (.coefficients fault)
  | right {fault : CoefficientFault} : 0 < settings.period → settings.tuning.left.Sound →
      Filter.ofCoefficients settings.tuning.right.numerator settings.tuning.right.denominator = .error fault →
      FirstFault settings (.coefficients fault)

structure Sound (settings : Settings) : Prop where
  period : 0 < settings.period
  left : settings.tuning.left.Sound
  right : settings.tuning.right.Sound

theorem fault?_of_period (positive : 0 < settings.period) :
    settings.fault? =
      ((Filter.fault? settings.tuning.left.numerator settings.tuning.left.denominator).map .coefficients).or
        ((Filter.fault? settings.tuning.right.numerator settings.tuning.right.denominator).map .coefficients) :=
  if_pos positive

theorem validate_of_sound (h : settings.Sound) : settings.validate = .ok () := by
  have faultless : settings.fault? = none := by
    rw [fault?_of_period h.period, h.left.fault?_eq_none, h.right.fault?_eq_none]
    rfl
  rw [validate, faultless]

theorem validate_of_firstFault {fault : RegulatorFault} (h : settings.FirstFault fault) :
    settings.validate = .error (.regulator fault) := by
  have first : settings.fault? = some fault := by
    cases h with
    | period none => exact if_neg none
    | left positive refused =>
      rw [fault?_of_period positive, Filter.error_iff.mp refused]
      rfl
    | right positive sound refused =>
      rw [fault?_of_period positive, sound.fault?_eq_none, Filter.error_iff.mp refused]
      rfl
  rw [validate, first]

theorem sound_or_firstFault (settings : Settings) : settings.Sound ∨ ∃ fault, settings.FirstFault fault := by
  by_cases positive : 0 < settings.period
  · rcases settings.tuning.left.sound_or_fault with left | ⟨fault, refused⟩
    · rcases settings.tuning.right.sound_or_fault with right | ⟨fault, refused⟩
      · exact .inl ⟨positive, left, right⟩
      · exact .inr ⟨_, .right positive left refused⟩
    · exact .inr ⟨_, .left positive refused⟩
  · exact .inr ⟨_, .period positive⟩

theorem validate_eq_ok_iff : settings.validate = .ok () ↔ settings.Sound := by
  refine ⟨fun accepted => ?_, validate_of_sound⟩
  rcases settings.sound_or_firstFault with sound | ⟨fault, first⟩
  · exact sound
  · rw [validate_of_firstFault first] at accepted
    cases accepted

theorem validate_eq_error_iff {e : SettingsError} :
    settings.validate = .error e ↔ ∃ fault, settings.FirstFault fault ∧ e = .regulator fault := by
  constructor
  · intro refused
    rcases settings.sound_or_firstFault with sound | ⟨fault, first⟩
    · rw [validate_of_sound sound] at refused
      cases refused
    · rw [validate_of_firstFault first] at refused
      cases refused
      exact ⟨fault, first, rfl⟩
  · rintro ⟨fault, first, rfl⟩
    exact validate_of_firstFault first

theorem setup_validates (settings : Settings) : settings.setup.map (fun _ => ()) = settings.validate := by
  rcases settings.sound_or_firstFault with sound | ⟨fault, first⟩
  · obtain ⟨left, hLeft⟩ := Regulator.exists_ofTuning sound.period sound.left
    obtain ⟨right, hRight⟩ := Regulator.exists_ofTuning sound.period sound.right
    unfold setup
    simp only [validate_of_sound sound, hLeft, hRight]
    rfl
  · unfold setup
    simp only [validate_of_firstFault first]
    rfl

theorem ofSettings_validates (settings : Settings) :
    (Control.ofSettings settings).map (fun _ => ()) = settings.validate := by
  rw [← settings.setup_validates, Control.ofSettings_eq]
  cases settings.setup <;> rfl

theorem start_validates (settings : Settings) (board : Board) (link : Link) :
    (Robot.start settings board link).map (fun _ => ()) = settings.validate := by
  rw [← settings.ofSettings_validates, Robot.start]
  cases Control.ofSettings settings <;> rfl

theorem validate_of_load {contents : List UInt8} (h : load contents = .ok settings) : settings.validate = .ok () := by
  unfold load at h
  split at h
  · next text _ =>
    cases hRead : ofText text with
    | error e =>
      rw [hRead] at h
      cases h
    | ok read =>
      rw [hRead] at h
      cases hValid : read.validate with
      | error e =>
        simp only [bind, Except.bind, hValid] at h
        cases h
      | ok _ =>
        simp only [bind, Except.bind, hValid] at h
        cases h
        exact hValid
  · cases h

theorem exists_start (accepted : settings.validate = .ok ()) (board : Board) (link : Link) :
    ∃ r, Robot.start settings board link = .ok r := by
  have built := settings.start_validates board link
  rw [accepted] at built
  cases hStart : Robot.start settings board link with
  | ok r => exact ⟨r, rfl⟩
  | error e =>
    rw [hStart] at built
    cases built

end Settings

def Control.KeepsPeriod (c : Control) (period : Float32) : Prop := ∀ side, (c.wheels.get side).period = period

theorem Control.Follows.keepsPeriod {c : Control} {settings : Settings} (h : c.Follows settings) :
    c.KeepsPeriod settings.period := by
  intro side
  have periods := congrArg (Wheels.get · side) h.periods
  rw [Wheels.get_map] at periods
  rw [periods]
  cases side <;> rfl

namespace Robot

/-- In every state that runs lead to, between passes and within one, when a link fails and when a run ends. -/
structure KeepsPeriod (r : Robot) (period : Float32) : Prop where
  between : ∀ run, (r.passAll run).control.KeepsPeriod period
  polled : ∀ run s, ((r.passAll run).polled s).control.KeepsPeriod period
  atTurn : ∀ run s task, (((r.passAll run).polled s).atTurn task).control.KeepsPeriod period
  halting : ∀ run s, (((r.passAll run).meet s).tickOrHalt).2.control.KeepsPeriod period
  ended : ∀ run loopMicros stepMicros interruptAfter,
    ((r.passAll run).run loopMicros stepMicros interruptAfter).2.control.KeepsPeriod period

variable {settings : Settings} {r : Robot}

theorem follows_stop (h : r.control.Follows settings) : r.stop.control.Follows settings := by
  rw [stop_control]
  exact ⟨h.setup, h.periods⟩

theorem follows_tick (h : r.control.Follows settings) : r.tick.2.control.Follows settings :=
  (follows_invariant settings).tick h

theorem keepsPeriod_of_start {board : Board} {link : Link} (h : Robot.start settings board link = .ok r) :
    r.KeepsPeriod settings.period := by
  have invariant := follows_invariant settings
  have started := invariant.start h
  have reached (run : List Surroundings) : (r.passAll run).control.Follows settings := invariant.passAll started run
  constructor
  · exact fun run => (reached run).keepsPeriod
  · exact fun run s => (invariant.polled (reached run) s).keepsPeriod
  · exact fun run s task => (invariant.turn (reached run) s task).keepsPeriod
  · intro run s
    have met : ((r.passAll run).meet s).control.Follows settings := reached run
    exact (tickOrHalt_induct (P := fun t => t.control.Follows settings) (fun _ _ => id) (fun _ => follows_stop)
      (fun _ => follows_tick) met).keepsPeriod
  · intro run loopMicros stepMicros interruptAfter
    exact (run_induct (P := fun t => t.control.Follows settings) (fun _ _ => id) (fun _ => follows_stop)
      (fun _ => follows_tick) (fun _ _ => id) loopMicros stepMicros interruptAfter (reached run)).keepsPeriod

end Robot

/-- Validation passes settings exactly if they have a positive period and sound coefficients for both wheels, and
otherwise tells their first fault; building the control state or a robot succeeds exactly then and gives the very error
otherwise. What has been loaded has passed, and can be run with its period in every state. -/
theorem Settings.validation_decides (settings : Settings) :
    (settings.validate = .ok () ↔
        0 < settings.period ∧ settings.tuning.left.Sound ∧ settings.tuning.right.Sound) ∧
      (∀ e, settings.validate = .error e ↔ ∃ fault, settings.FirstFault fault ∧ e = .regulator fault) ∧
      (Control.ofSettings settings).map (fun _ => ()) = settings.validate ∧
      (∀ board link, (Robot.start settings board link).map (fun _ => ()) = settings.validate) ∧
      (∀ contents, Settings.load contents = .ok settings → settings.validate = .ok ()) ∧
      (settings.validate = .ok () → ∀ board link, ∃ r, Robot.start settings board link = .ok r ∧
        0 < settings.period ∧ r.KeepsPeriod settings.period) := by
  refine ⟨?_, fun _ => validate_eq_error_iff, settings.ofSettings_validates, settings.start_validates,
    fun _ => validate_of_load, ?_⟩
  · rw [validate_eq_ok_iff]
    exact ⟨fun sound => ⟨sound.period, sound.left, sound.right⟩, fun ⟨period, left, right⟩ => ⟨period, left, right⟩⟩
  · intro accepted board link
    obtain ⟨r, hStart⟩ := exists_start accepted board link
    exact ⟨r, hStart, (validate_eq_ok_iff.mp accepted).period, Robot.keepsPeriod_of_start hStart⟩

/-- Settings with a fault on either wheel are refused for the left one; others are loaded and run. -/
theorem Settings.validation_decides_loaded :
    let left := "\x7b\"kp\": 1, \"b\": [1, 2], \"a\": [-1, 0]\x7d"
    let contents := ("\x7b\"update_period_ms\": 25, \"left\": " ++ left ++ "\x7d").toUTF8.toList
    let settings := { Settings.standard with period := 25, tuning.left := ⟨1, [1, 2], [-1, 0]⟩ }
    let faulty := { settings with tuning := ⟨⟨1, [1], [-0]⟩, ⟨1, [], []⟩⟩ }
    Settings.load contents = .ok settings ∧
      (∃ r, Robot.start settings {} .loopback = .ok r ∧ r.KeepsPeriod 25) ∧
      (Robot.start faulty {} .loopback).map (fun _ => ()) = .error (.regulator (.coefficients .zeroLead)) := by
  intro left contents settings faulty
  have hLoad : Settings.load contents = .ok settings := by decide +kernel
  obtain ⟨_, _, _, _, loaded, runs⟩ := validation_decides settings
  obtain ⟨r, hStart, _, keeps⟩ := runs (loaded contents hLoad) {} .loopback
  obtain ⟨_, refused, _, built, _⟩ := validation_decides faulty
  have zero : faulty.FirstFault (.coefficients .zeroLead) :=
    .left (by decide +kernel) (Filter.error_iff.mpr (by decide +kernel))
  exact ⟨hLoad, ⟨r, hStart, keeps⟩, (built {} .loopback).trans ((refused _).mpr ⟨_, zero, rfl⟩)⟩

end Rover
