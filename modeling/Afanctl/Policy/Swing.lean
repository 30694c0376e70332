import Afanctl.Policy.Run

/-!
How far a curve call moves the slew state.

A speed decision moves it one slew step, to the decided speed. Escalation puts it at the
ceiling and a full sensor loss at the floor, however far those are; a hold or an observe
call leaves it alone. `Banded` collects this with the band, and every run keeps it as long
as the limiter's addition fits above the ceiling.
-/

namespace Afanctl

open Afanctl.Lib

/-- The limiter ends near its base, unless its addition overflows. -/
theorem slewToward_near {base target maxStep : Nat}
    (fits : base ≤ target → base + maxStep ≤ u32Max) :
    absDiff (slewToward base target maxStep) base ≤ maxStep := by
  rw [absDiff_le_iff]
  by_cases up : base ≤ target
  · rw [slewToward_eq target (fits up), if_pos up]
    omega
  · rw [slewToward, if_neg up]
    omega

/-! ### The slew base of a Curve poll -/

/-- Where a decision of `stepCurve` leaves the slew base. -/
def Decision.base (c : Controller) : Decision → Nat
  | .setSpeed rpm => rpm
  | .escalateMax => c.maxRpm
  | .returnToAuto => c.minRpm
  | .observe => c.slewRpm

namespace Controller

variable {c : Controller} {readings : List SensorReading}

/-- Slewing toward this poll's target, the addition stays in range. -/
def Roomy (readings : List SensorReading) (c : Controller) : Prop :=
  match hottest readings with
  | some t => c.slewRpm ≤ (c.targetFor t).1 → c.slewRpm + slewMaxRpmPerPoll ≤ u32Max
  | none => True

instance (readings : List SensorReading) (c : Controller) : Decidable (c.Roomy readings) := by
  unfold Roomy
  split <;> infer_instance

theorem stepCurve_base (readings : List SensorReading) (c : Controller) :
    (c.stepCurve readings).2.slewRpm = (c.stepCurve readings).1.base c := by
  cases seen : hottest readings with
  | some t =>
      by_cases third : overshootPolls ≤ c.overshootCount t
      · rw [stepCurve_fires seen third]
        rfl
      · rw [stepCurve_calm seen third]
        rfl
  | none =>
      rw [stepCurve_lost seen]
      split
      · rfl
      · exact counted_slewRpm readings c

/-- A speed decision is one slew step away from the base. -/
theorem stepCurve_near {rpm : Nat} (roomy : c.Roomy readings)
    (decides : (c.stepCurve readings).1 = .setSpeed rpm) :
    absDiff rpm c.slewRpm ≤ slewMaxRpmPerPoll := by
  cases seen : hottest readings with
  | some t =>
      by_cases third : overshootPolls ≤ c.overshootCount t
      · rw [stepCurve_fires seen third] at decides
        cases decides
      · rw [stepCurve_calm seen third] at decides
        cases decides
        unfold Roomy at roomy
        rw [seen] at roomy
        exact slewToward_near roomy
  | none =>
      rw [stepCurve_lost seen] at decides
      split at decides <;> cases decides

/-! ### The band over whole runs -/

/-- What a decision of `stepCurve` may do: decide a speed inside the band and one slew step
away, jump to the ceiling or to the floor, or leave the slew state alone. -/
def Swings (cfg : Config) (slewRpm next : Nat) : Decision → Prop
  | .setSpeed rpm =>
      next = rpm ∧ cfg.minRpm ≤ rpm ∧ rpm ≤ cfg.maxRpm ∧ absDiff rpm slewRpm ≤ slewMaxRpmPerPoll
  | .escalateMax => next = cfg.maxRpm
  | .returnToAuto => next = cfg.minRpm
  | .observe => next = slewRpm

/-- The slew state is in the band, and each step function moves it as it may. -/
structure Banded (cfg : Config) (c : Controller) : Prop where
  floor : cfg.minRpm ≤ c.slewRpm
  ceiling : c.slewRpm ≤ cfg.maxRpm
  curve : ∀ readings, Swings cfg c.slewRpm (c.stepCurve readings).2.slewRpm
    (c.stepCurve readings).1
  hold : ∀ readings heldRpm, (c.stepHold readings heldRpm).2.slewRpm = c.slewRpm
  observe : ∀ readings, (c.stepObserve readings).2.slewRpm = c.slewRpm

theorem Tame.roomy (tame : c.Tame) (readings : List SensorReading) : c.Roomy readings := by
  unfold Roomy
  split
  · exact fun _ => tame.room
  · trivial

/-- A curve call of a tame controller moves the slew state as its decision may. -/
theorem Tame.swings {cfg : ResolvedConfig} (tame : c.Tame) (tuned : c.Tuned cfg)
    (readings : List SensorReading) :
    Swings cfg.config c.slewRpm (c.stepCurve readings).2.slewRpm (c.stepCurve readings).1 := by
  have base := stepCurve_base readings c
  have after := tame.stepCurve readings
  have tuned' := tuned.step (.curve readings)
  cases decides : (c.stepCurve readings).1 with
  | setSpeed rpm =>
      have lands : (c.stepCurve readings).2.slewRpm = rpm := by rw [base, decides]; rfl
      refine ⟨lands, ?_, ?_, stepCurve_near (tame.roomy readings) decides⟩
      · rw [← lands, ← tuned'.minRpm]
        exact after.floor
      · rw [← lands, ← tuned'.maxRpm]
        exact after.ceiling
  | escalateMax => rw [base, decides]; exact tuned.maxRpm
  | returnToAuto => rw [base, decides]; exact tuned.minRpm
  | observe => rw [base, decides]; rfl

theorem Tame.banded {cfg : ResolvedConfig} (tame : c.Tame) (tuned : c.Tuned cfg) :
    c.Banded cfg.config where
  floor := tuned.minRpm ▸ tame.floor
  ceiling := tuned.maxRpm ▸ tame.ceiling
  curve := tame.swings tuned
  hold := fun readings heldRpm => by rw [stepHold_counted, counted_slewRpm]
  observe := fun readings => by rw [stepObserve_eq, counted_slewRpm]

/-- Whatever the calls and readings, the slew state stays in the band and moves as its
decision may. -/
theorem run_banded {cfg : Config} (accepted : cfg.checkStructural = .ok ())
    (fits : cfg.maxRpm ≤ u32Max - slewMaxRpmPerPoll) (calls : List Call) :
    (controls.run calls (Controller.new (.ofConfig cfg))).Banded cfg := by
  have structural := Config.checkStructural_ok_iff.mp accepted
  have room : cfg.maxRpm + slewMaxRpmPerPoll ≤ u32Max :=
    Nat.add_le_of_le_sub (by decide) fits
  have tame := (Tame.new structural room).run calls
  have tuned := (Tuned.new (.ofConfig cfg)).run calls
  exact tame.banded tuned

/-- Two warm polls of the defaults leave the slew state two steps up, banded. -/
theorem run_banded_ramped :
    (controls.run [.curveAt 80000, .curveAt 80000] (Controller.new (.ofConfig .defaults))).slewRpm
        = 2700 ∧
      (controls.run [.curveAt 80000, .curveAt 80000]
        (Controller.new (.ofConfig .defaults))).Banded .defaults :=
  ⟨by decide, run_banded rfl (by decide) _⟩

end Controller

end Afanctl
