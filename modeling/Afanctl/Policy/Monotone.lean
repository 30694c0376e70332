import Afanctl.Policy.Plateau

/-!
Whether hotter ever means slower.

The curve's targets rise with the temperature, except where a ramping controller holds
its position: just below `high` it keeps commanding the slew state, while from `high` on
the interpolated target may lie below that state. There, and nowhere else, the hotter
poll commands the slower fan.
-/

namespace Afanctl

open Afanctl.Lib

/-- The commanded speed, where escalating is commanding `maxRpm`. -/
def Decision.commanded (maxRpm : Nat) : Decision → Option Nat
  | .setSpeed rpm => some rpm
  | .escalateMax => some maxRpm
  | .observe => none
  | .returnToAuto => none

/-- Between its thresholds the curve rises. -/
theorem linearTarget_mono {t₁ t₂ : MilliC} {highC maxC : Int} {minRpm maxRpm : Nat}
    (above : highC * 1000 ≤ t₁.val) (le : t₁.val ≤ t₂.val) (below : t₂.val < maxC * 1000)
    (band : minRpm ≤ maxRpm) (fits : maxRpm ≤ u32Max) :
    linearTarget t₁ highC maxC minRpm maxRpm ≤ linearTarget t₂ highC maxC minRpm maxRpm := by
  rw [linearTarget_eq above (Int.lt_of_le_of_lt le below) band fits,
    linearTarget_eq (Int.le_trans above le) below band fits]
  apply Nat.add_le_add_left
  apply Nat.div_le_div_right
  exact Nat.mul_le_mul_right _ (by omega)

namespace Controller

/-- A ramping controller holds its position at the cooler temperature, and at the hotter
one, from `high` on and short of the guard, targets less. -/
def Inverts (c : Controller) (t₁ t₂ : MilliC) : Prop :=
  c.ramping = true ∧ c.lowC * 1000 ≤ t₁.val ∧ t₁.val < c.highC * 1000 ∧
    c.highC * 1000 ≤ t₂.val ∧ (c.targetFor t₂).1 < c.slewRpm ∧
    ¬ overshootPolls ≤ c.overshootCount t₂

instance (c : Controller) (t₁ t₂ : MilliC) : Decidable (c.Inverts t₁ t₂) :=
  inferInstanceAs (Decidable (_ ∧ _))

variable {c : Controller} {t t₁ t₂ : MilliC} {readings : List SensorReading}

/-- A curve poll with a valid reading commands the ceiling or one step toward the
target. -/
theorem Tame.stepCurve_commanded (tame : c.Tame) (seen : hottest readings = some t) :
    (c.stepCurve readings).1.commanded c.maxRpm
      = some (if overshootPolls ≤ c.overshootCount t then c.maxRpm
          else toward slewMaxRpmPerPoll c.slewRpm (c.targetFor t).1) := by
  by_cases fires : overshootPolls ≤ c.overshootCount t
  · rw [stepCurve_fires seen fires, if_pos fires]
    rfl
  · rw [stepCurve_calm seen fires, if_neg fires, slewToward_eq_toward _ tame.room]
    rfl

/-- What fires the guard fires it at any higher temperature. -/
theorem overshootCount_mono (le : t₁.val ≤ t₂.val) (fires : overshootPolls ≤ c.overshootCount t₁) :
    overshootPolls ≤ c.overshootCount t₂ := by
  unfold overshootCount at fires ⊢
  split at fires
  · next near => rwa [if_pos (Int.le_trans near le)]
  · cases fires

/-- Where the cooler poll does not hold the position of a ramp, targets rise. -/
theorem Tame.targetFor_mono (tame : c.Tame) (le : t₁.val ≤ t₂.val)
    (free : ¬ (c.ramping = true ∧ c.lowC * 1000 ≤ t₁.val ∧ t₁.val < c.highC * 1000)) :
    (c.targetFor t₁).1 ≤ (c.targetFor t₂).1 := by
  have thresholds := tame.thresholds
  obtain ⟨floor, ceiling⟩ := tame.targetFor_mem t₂
  by_cases cold : t₁.val < c.lowC * 1000
  · rwa [targetFor_cold thresholds cold]
  · by_cases hot : c.maxC * 1000 ≤ t₁.val
    · have hot₂ : c.maxC * 1000 ≤ t₂.val := Int.le_trans hot le
      exact Nat.le_of_eq (by rw [targetFor_hot thresholds hot, targetFor_hot thresholds hot₂])
    · by_cases warm : c.highC * 1000 ≤ t₁.val
      · by_cases hot₂ : c.maxC * 1000 ≤ t₂.val
        · rw [targetFor_hot thresholds hot₂]
          exact (tame.targetFor_mem t₁).2
        · have fits : c.maxRpm ≤ u32Max := Nat.le_trans (Nat.le_add_right _ _) tame.fits
          have below := Int.not_le.mp hot₂
          rw [targetFor_warm thresholds warm (Int.lt_of_le_of_lt le below),
            targetFor_warm thresholds (Int.le_trans warm le) below]
          exact linearTarget_mono warm le below (Nat.le_of_lt tame.band) fits
      · -- not holding a ramp, the cooler poll targets the floor
        have between := Int.not_le.mp warm
        have idle : c.ramping = false := by
          cases ramping : c.ramping with
          | true => exact absurd ⟨ramping, Int.not_lt.mp cold, between⟩ free
          | false => rfl
        rw [targetFor_between thresholds (Int.not_lt.mp cold) between, idle]
        exact floor

/-- Holding the position of a ramp. -/
theorem Tame.targetFor_held (tame : c.Tame) (ramping : c.ramping = true)
    (above : c.lowC * 1000 ≤ t.val) (below : t.val < c.highC * 1000) :
    (c.targetFor t).1 = c.slewRpm := by
  rw [targetFor_between tame.thresholds above below, ramping]
  rfl

/-- The hotter poll commands at least as much, except where it inverts. -/
theorem Tame.commanded_mono_iff (tame : c.Tame) {readings₁ readings₂ : List SensorReading}
    (seen₁ : hottest readings₁ = some t₁) (seen₂ : hottest readings₂ = some t₂)
    (le : t₁.val ≤ t₂.val) :
    ∃ r₁ r₂, (c.stepCurve readings₁).1.commanded c.maxRpm = some r₁ ∧
      (c.stepCurve readings₂).1.commanded c.maxRpm = some r₂ ∧
      (r₁ ≤ r₂ ↔ ¬ c.Inverts t₁ t₂) := by
  refine ⟨_, _, tame.stepCurve_commanded seen₁, tame.stepCurve_commanded seen₂, ?_⟩
  have capped : toward slewMaxRpmPerPoll c.slewRpm (c.targetFor t₁).1 ≤ c.maxRpm :=
    toward_le tame.ceiling (tame.targetFor_mem t₁).2
  by_cases fires₂ : overshootPolls ≤ c.overshootCount t₂
  · -- the ceiling is at least whatever the cooler poll commands
    refine iff_of_true ?_ fun inverts => inverts.2.2.2.2.2 fires₂
    rw [if_pos fires₂]
    split
    · exact Nat.le_refl _
    · exact capped
  · have fires₁ : ¬ overshootPolls ≤ c.overshootCount t₁ :=
      fun fires => fires₂ (overshootCount_mono le fires)
    rw [if_neg fires₁, if_neg fires₂]
    by_cases held : c.ramping = true ∧ c.lowC * 1000 ≤ t₁.val ∧ t₁.val < c.highC * 1000
    · obtain ⟨ramping, above, below⟩ := held
      rw [tame.targetFor_held ramping above below, toward_self, le_toward_iff (by decide)]
      by_cases warm : c.highC * 1000 ≤ t₂.val
      · rw [← Nat.not_lt]
        exact not_congr ⟨fun lower => ⟨ramping, above, below, warm, lower, fires₂⟩,
          fun inverts => inverts.2.2.2.2.1⟩
      · have same := tame.targetFor_held ramping (Int.le_trans above le) (Int.not_le.mp warm)
        exact iff_of_true (Nat.le_of_eq same.symm) fun inverts => warm inverts.2.2.2.1
    · exact iff_of_true (toward_mono (tame.targetFor_mono le held))
        fun inverts => held ⟨inverts.1, inverts.2.1, inverts.2.2.1⟩

end Controller

open Controller

/-- From every reached state, of two curve polls the hotter one commands at least as much,
except where the cooler one holds the position of a ramp above the hotter one's target. -/
theorem curve_mono_iff {hw : Nat × Nat} {cfg : Config} (accepted : cfg.validate hw = .ok ())
    (fits : cfg.maxRpm ≤ u32Max - slewMaxRpmPerPoll) (calls : List Call) {t₁ t₂ : MilliC}
    {readings₁ readings₂ : List SensorReading} (seen₁ : hottest readings₁ = some t₁)
    (seen₂ : hottest readings₂ = some t₂) (le : t₁.val ≤ t₂.val) :
    ∃ r₁ r₂,
      ((controls.run calls (Controller.new (.ofConfig cfg))).step (.curve readings₁)).1.commanded
          cfg.maxRpm = some r₁ ∧
        ((controls.run calls (Controller.new (.ofConfig cfg))).step (.curve readings₂)).1.commanded
          cfg.maxRpm = some r₂ ∧
        (r₁ ≤ r₂ ↔ ¬ (controls.run calls (Controller.new (.ofConfig cfg))).Inverts t₁ t₂) := by
  have room : cfg.maxRpm + slewMaxRpmPerPoll ≤ u32Max := Nat.add_le_of_le_sub (by decide) fits
  have tame := (Tame.new (Config.validate_ok_iff.mp accepted).1 room).run calls
  have tuned := (Tuned.new (.ofConfig cfg)).run calls
  have mono := tame.commanded_mono_iff seen₁ seen₂ le
  rw [tuned.maxRpm] at mono
  exact mono

/-- Across `max - 1` a new controller commands no less at the hotter poll. -/
theorem curve_mono_iff_new :
    ∃ r₁ r₂, ((Controller.new (.ofConfig .defaults)).step (.curveAt 84999)).1.commanded 6200
        = some r₁ ∧
      ((Controller.new (.ofConfig .defaults)).step (.curveAt 85000)).1.commanded 6200 = some r₂ ∧
      (r₁ ≤ r₂ ↔ ¬ (Controller.new (.ofConfig .defaults)).Inverts ⟨84999⟩ ⟨85000⟩) :=
  curve_mono_iff Config.defaults_valid (by decide) [] rfl rfl (by decide)

/-- After a ramp to 5700 rpm, 65.9 °C holds that speed and 66 °C gives some of it up. -/
theorem curve_inverts :
    ((controls.run (List.replicate 6 (.curveAt 84000)) (Controller.new (.ofConfig .defaults))).step
        (.curveAt 65900)).1 = .setSpeed 5700 ∧
      ((controls.run (List.replicate 6 (.curveAt 84000))
        (Controller.new (.ofConfig .defaults))).step (.curveAt 66000)).1 = .setSpeed 4950 := by
  decide +kernel

end Afanctl
