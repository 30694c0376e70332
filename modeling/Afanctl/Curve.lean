import Afanctl.Policy

/-!
The arithmetic of the curve, and when two bands drive alike.

Between its thresholds the curve interpolates inside its band, and over a band no
wider than one slew step the limiter reaches every target at once. A controller
whose floor lies below the hardware's then decides, up to the clamp of the write,
as the controller whose floor is raised, provided the ceiling is one rpm above the
hardware's floor: both leave that floor only for the ceiling. Over a wider band one
temperature inside the ramp tells the two floors apart.
-/

namespace Afanctl

open Afanctl.Lib

/-! ### Interpolation and slewing -/

section Arithmetic

variable {t : MilliC} {highC maxC : Int} {minRpm maxRpm : Nat}

/-- Between the thresholds nothing wraps and nothing is truncated but the quotient. -/
theorem linearTarget_eq (above : highC * 1000 ≤ t.val) (below : t.val < maxC * 1000)
    (band : minRpm ≤ maxRpm) (fits : maxRpm ≤ u32Max) :
    linearTarget t highC maxC minRpm maxRpm
      = minRpm + (t.val - highC * 1000).toNat * (maxRpm - minRpm)
          / ((maxC - highC) * 1000).toNat := by
  obtain ⟨num, numEq⟩ := Int.eq_ofNat_of_zero_le (Int.sub_nonneg.mpr above)
  obtain ⟨denom, denomEq⟩ := Int.eq_ofNat_of_zero_le (a := (maxC - highC) * 1000) (by omega)
  have width : (maxRpm : Int) - minRpm = ((maxRpm - minRpm : Nat) : Int) := by omega
  have inside : num * (maxRpm - minRpm) / denom ≤ maxRpm - minRpm := by
    apply Nat.div_le_of_le_mul
    exact Nat.mul_le_mul_right _ (by omega)
  simp only [linearTarget, numEq, denomEq, width]
  rw [← Int.natCast_mul, ← Int.ofNat_tdiv, asU32_natCast (by omega), wrap32_of_le (by omega),
    Nat.add_comm]
  rfl

/-- Below its upper threshold the curve stays in its band, under the ceiling. -/
theorem linearTarget_mem (above : highC * 1000 ≤ t.val) (below : t.val < maxC * 1000)
    (band : minRpm < maxRpm) (fits : maxRpm ≤ u32Max) :
    minRpm ≤ linearTarget t highC maxC minRpm maxRpm ∧
      linearTarget t highC maxC minRpm maxRpm < maxRpm := by
  rw [linearTarget_eq above below (Nat.le_of_lt band) fits]
  have share : (t.val - highC * 1000).toNat * (maxRpm - minRpm) / ((maxC - highC) * 1000).toNat
      < maxRpm - minRpm := by
    apply Nat.div_lt_of_lt_mul
    exact Nat.mul_lt_mul_of_pos_right (by omega) (by omega)
  exact ⟨Nat.le_add_right _ _, Nat.add_lt_of_lt_sub' share⟩

/-- A target within one step of the base is reached. -/
theorem slewToward_reaches {base target maxStep : Nat} (fits : base + maxStep ≤ u32Max)
    (up : target ≤ base + maxStep) (down : base ≤ target + maxStep) :
    slewToward base target maxStep = target := by
  unfold slewToward
  rw [wrap32_of_le fits]
  split
  · exact Nat.min_eq_right up
  · exact Nat.max_eq_right (by omega)

/-- Some share of a ramp climbs a band of this width by one, and the band that starts
`extra` lower by no more than `extra`. -/
theorem ramp_apart {denom width extra : Nat} (fine : 1000 ≤ denom) (two : 2 ≤ width)
    (narrow : width < slewMaxRpmPerPoll) (deeper : 0 < extra) :
    ∃ num, num < denom ∧ num * width / denom = 1 ∧ num * (width + extra) / denom ≤ extra := by
  have division := Nat.div_add_mod (denom + width - 1) width
  have remainder := Nat.mod_lt (denom + width - 1) (show width > 0 by omega)
  generalize (denom + width - 1) / width = num at division
  rw [Nat.mul_comm] at division
  have wide : width < 750 := narrow
  have several : 2 ≤ num := by
    apply Nat.le_of_not_lt
    intro few
    have : num * width ≤ 1 * width := Nat.mul_le_mul_right width (by omega)
    omega
  -- the share and the width fit into the ramp together
  have room : num + width ≤ denom := by
    obtain ⟨n, rfl⟩ := Nat.exists_eq_add_of_le several
    obtain ⟨w, rfl⟩ := Nat.exists_eq_add_of_le two
    have expand : (2 + n) * (2 + w) = 4 + 2 * n + 2 * w + n * w := by
      simp only [Nat.add_mul, Nat.mul_add]
      omega
    cases n with
    | zero => omega
    | succ n => omega
  have scaled : num * extra + width * extra ≤ denom * extra := by
    rw [← Nat.add_mul]
    exact Nat.mul_le_mul_right extra room
  have once : width ≤ width * extra := Nat.le_mul_of_pos_right width deeper
  refine ⟨num, by omega, Nat.div_eq_of_lt_le (by omega) (by omega), ?_⟩
  apply Nat.le_of_lt_succ
  apply Nat.div_lt_of_lt_mul
  rw [Nat.mul_add, Nat.mul_succ]
  omega

end Arithmetic

/-! ### The regions of the curve -/

/-- Thresholds as validation leaves them. -/
structure Thresholds (highC maxC lowC : Int) : Prop where
  high_nonneg : 0 ≤ highC
  high_lt_max : highC < maxC
  max_le : maxC ≤ 95
  low_eq : lowC = highC - 3

namespace Thresholds

variable {highC maxC lowC : Int}

/-- In milli-degrees the thresholds are far from saturating. -/
theorem unsaturated (thresholds : Thresholds highC maxC lowC) :
    satI32 (lowC * 1000) = lowC * 1000 ∧ satI32 (highC * 1000) = highC * 1000 ∧
      satI32 (maxC * 1000) = maxC * 1000 := by
  obtain ⟨high_nonneg, high_lt_max, max_le, low_eq⟩ := thresholds
  refine ⟨?_, ?_, ?_⟩ <;> exact satI32_of_small (by omega) (by omega)

/-- The guard's threshold is exact as well. -/
theorem guard (thresholds : Thresholds highC maxC lowC) :
    satI32 (satI32 (maxC - 1) * 1000) = (maxC - 1) * 1000 := by
  obtain ⟨high_nonneg, high_lt_max, max_le, -⟩ := thresholds
  rw [satI32_of_small (x := maxC - 1) (by omega) (by omega),
    satI32_of_small (by omega) (by omega)]

end Thresholds

/-- A validated config has its thresholds in order. -/
theorem Config.Structural.thresholds {c : Config} (structural : c.Structural) :
    Thresholds c.highC c.maxC (ResolvedConfig.ofConfig c).lowC := by
  obtain ⟨high_nonneg, high_lt_max, max_le, -⟩ := structural
  exact ⟨high_nonneg, high_lt_max, max_le, satI32_of_small (by omega) (by omega)⟩

namespace Controller

section Regions

variable {c : Controller} {t : MilliC}

theorem targetFor_cold (thresholds : Thresholds c.highC c.maxC c.lowC)
    (cold : t.val < c.lowC * 1000) : c.targetFor t = (c.minRpm, { c with ramping := false }) := by
  obtain ⟨low, -, -⟩ := thresholds.unsaturated
  simp [targetFor, low, cold]

theorem targetFor_hot (thresholds : Thresholds c.highC c.maxC c.lowC)
    (hot : c.maxC * 1000 ≤ t.val) : c.targetFor t = (c.maxRpm, { c with ramping := true }) := by
  obtain ⟨low, -, max⟩ := thresholds.unsaturated
  obtain ⟨-, high_lt_max, -, low_eq⟩ := thresholds
  have cold : ¬ t.val < c.lowC * 1000 := by omega
  simp [targetFor, low, max, cold, hot]

theorem targetFor_warm (thresholds : Thresholds c.highC c.maxC c.lowC)
    (above : c.highC * 1000 ≤ t.val) (below : t.val < c.maxC * 1000) :
    c.targetFor t
      = (linearTarget t c.highC c.maxC c.minRpm c.maxRpm, { c with ramping := true }) := by
  obtain ⟨low, high, max⟩ := thresholds.unsaturated
  obtain ⟨-, -, -, low_eq⟩ := thresholds
  have cold : ¬ t.val < c.lowC * 1000 := by omega
  have hot : ¬ c.maxC * 1000 ≤ t.val := by omega
  simp [targetFor, low, high, max, cold, hot, above]

theorem targetFor_between (thresholds : Thresholds c.highC c.maxC c.lowC)
    (above : c.lowC * 1000 ≤ t.val) (below : t.val < c.highC * 1000) :
    c.targetFor t = (if c.ramping then c.slewRpm else c.minRpm, c) := by
  obtain ⟨low, high, max⟩ := thresholds.unsaturated
  obtain ⟨-, high_lt_max, -, -⟩ := thresholds
  have cold : ¬ t.val < c.lowC * 1000 := by omega
  have hot : ¬ c.maxC * 1000 ≤ t.val := by omega
  have warm : ¬ c.highC * 1000 ≤ t.val := by omega
  simp only [targetFor, low, high, max, cold, hot, warm, ↓reduceIte]
  split <;> rfl

end Regions

end Controller

/-! ### Steps of a controller that sees one temperature -/

namespace Controller

section Steps

variable {c : Controller} {t : MilliC} {readings : List SensorReading}

/-- Absorbing a reading counts the overshoot and changes nothing else that the curve
reads. -/
theorem absorb_some (seen : hottest readings = some t) :
    ∃ count, c.absorb readings
        = (some t, { c with lastTEff := some t, lossStreak := 0, overshootStreak := count }) ∧
      count ≤ c.overshootStreak + 1 ∧
      (satI32 (satI32 (c.maxC - 1) * 1000) ≤ t.val → count = wrap32 (c.overshootStreak + 1)) := by
  by_cases near : satI32 (satI32 (c.maxC - 1) * 1000) ≤ t.val
  · exact ⟨wrap32 (c.overshootStreak + 1), by simp [absorb, seen, overshootCheck, near],
      wrap32_le _, fun _ => rfl⟩
  · exact ⟨0, by simp [absorb, seen, overshootCheck, near], Nat.zero_le _,
      fun hot => absurd hot near⟩

/-- The curve reads no streak. -/
theorem targetFor_streaks (loss count : Nat) (last : Option MilliC) :
    { c with lastTEff := last, lossStreak := loss, overshootStreak := count }.targetFor t
      = ((c.targetFor t).1, { (c.targetFor t).2 with
          lastTEff := last, lossStreak := loss, overshootStreak := count }) := by
  simp only [targetFor]
  split
  · rfl
  · split
    · rfl
    · split
      · rfl
      · split <;> rfl

/-- Targeting sets nothing but the hysteresis latch. -/
theorem targetFor_keeps (c : Controller) (t : MilliC) :
    ∃ ramping, (c.targetFor t).2 = { c with ramping := ramping } := by
  simp only [targetFor]
  split
  · exact ⟨_, rfl⟩
  · split
    · exact ⟨_, rfl⟩
    · split
      · exact ⟨_, rfl⟩
      · split <;> exact ⟨_, rfl⟩

/-- Short of the overshoot guard, a step slews toward the curve. -/
theorem stepCurve_slews (seen : hottest readings = some t)
    (calm : c.overshootStreak + 1 < overshootPolls) :
    (c.stepCurve readings).1
      = .setSpeed (slewToward c.slewRpm (c.targetFor t).1 slewMaxRpmPerPoll) := by
  obtain ⟨count, absorbed, counted, -⟩ := absorb_some (c := c) seen
  obtain ⟨ramping, kept⟩ := c.targetFor_keeps t
  have quiet : ¬ overshootPolls ≤ count := by omega
  simp only [stepCurve, absorbed, quiet, targetFor_streaks, kept, ↓reduceIte]

/-- At the upper threshold a step counts toward the overshoot guard, which fires on
the third count. -/
theorem stepCurve_counts (seen : hottest readings = some t)
    (thresholds : Thresholds c.highC c.maxC c.lowC) (hot : c.maxC * 1000 ≤ t.val)
    (short : c.overshootStreak < u32Max) :
    (overshootPolls ≤ c.overshootStreak + 1 → (c.stepCurve readings).1 = .escalateMax) ∧
      ∃ slewRpm ramping, (c.stepCurve readings).2 = { c with
        lastTEff := some t, lossStreak := 0, overshootStreak := c.overshootStreak + 1,
        slewRpm := slewRpm, ramping := ramping } := by
  obtain ⟨count, absorbed, -, counted⟩ := absorb_some (c := c) seen
  obtain ⟨ramping, kept⟩ := c.targetFor_keeps t
  rw [wrap32_of_le (show c.overshootStreak + 1 ≤ u32Max from short)] at counted
  have near : satI32 (satI32 (c.maxC - 1) * 1000) ≤ t.val := by
    rw [thresholds.guard]
    omega
  rw [← counted near]
  by_cases third : overshootPolls ≤ count
  · simp only [stepCurve, absorbed, third, ↓reduceIte]
    exact ⟨fun _ => trivial, _, _, rfl⟩
  · simp only [stepCurve, absorbed, third, targetFor_streaks, kept, ↓reduceIte]
    exact ⟨fun fires => absurd fires id, _, _, rfl⟩

end Steps

end Controller

/-! ### A band that one step crosses -/

/-- A band that one slew step crosses, with its floor below `lo`, its ceiling one above
`lo`, and the slew state inside. -/
structure OneStep (lo minRpm maxRpm slewRpm : Nat) : Prop where
  below : minRpm < lo
  top : maxRpm = lo + 1
  reach : maxRpm ≤ minRpm + slewMaxRpmPerPoll
  fits : maxRpm + slewMaxRpmPerPoll ≤ u32Max
  floor : minRpm ≤ slewRpm
  ceiling : slewRpm ≤ maxRpm

namespace OneStep

variable {lo minRpm maxRpm slewRpm : Nat}

theorem sunk (step : OneStep lo minRpm maxRpm slewRpm) : max lo minRpm = lo :=
  Nat.max_eq_left (Nat.le_of_lt step.below)

theorem full (step : OneStep lo minRpm maxRpm slewRpm) : max lo maxRpm = maxRpm :=
  Nat.max_eq_right (step.top ▸ Nat.le_succ lo)

theorem wide (step : OneStep lo minRpm maxRpm slewRpm) : minRpm < maxRpm :=
  Nat.lt_trans step.below (step.top ▸ Nat.lt_succ_self lo)

/-- The slew state may be anywhere in the band. -/
theorem slewed {rpm : Nat} (step : OneStep lo minRpm maxRpm slewRpm) (floor : minRpm ≤ rpm)
    (ceiling : rpm ≤ maxRpm) : OneStep lo minRpm maxRpm rpm where
  below := step.below
  top := step.top
  reach := step.reach
  fits := step.fits
  floor := floor
  ceiling := ceiling

/-- One slew step reaches every target, in the band and above `lo`. -/
theorem slewToward_eq (step : OneStep lo minRpm maxRpm slewRpm) {target : Nat}
    (floor : minRpm ≤ target) (ceiling : target ≤ maxRpm) :
    slewToward slewRpm target slewMaxRpmPerPoll = target ∧
      slewToward (max lo slewRpm) (max lo target) slewMaxRpmPerPoll = max lo target := by
  obtain ⟨below, top, reach, fits, slewFloor, slewCeiling⟩ := step
  constructor
  · exact slewToward_reaches (by omega) (by omega) (by omega)
  · exact slewToward_reaches (by omega) (by omega) (by omega)

end OneStep

namespace Decision

/-- The decision as the write clamps it. -/
def clamped (lo hi : Nat) : Decision → Decision
  | .setSpeed rpm => .setSpeed (clamp lo hi rpm)
  | other => other

end Decision

namespace Controller

/-- A controller over such a band. -/
def Narrow (lo : Nat) (c : Controller) : Prop :=
  Thresholds c.highC c.maxC c.lowC ∧ OneStep lo c.minRpm c.maxRpm c.slewRpm

/-- The controller with its floor raised to `lo`. -/
def lifted (lo : Nat) (c : Controller) : Controller :=
  { c with minRpm := lo, slewRpm := max lo c.slewRpm }

variable {lo : Nat} {c : Controller}

theorem overshootCheck_lifted (t : MilliC) (c : Controller) :
    (c.lifted lo).overshootCheck t = (c.overshootCheck t).lifted lo := by
  by_cases near : satI32 (satI32 (c.maxC - 1) * 1000) ≤ t.val <;>
    simp [overshootCheck, lifted, near]

theorem absorb_lifted (readings : List SensorReading) (c : Controller) :
    (c.lifted lo).absorb readings = ((c.absorb readings).1, (c.absorb readings).2.lifted lo) := by
  unfold absorb
  cases hottest readings with
  | none => rfl
  | some t =>
      exact congrArg (some t, ·)
        (overshootCheck_lifted t { c with lastTEff := some t, lossStreak := 0 })

theorem Narrow.absorb (narrow : c.Narrow lo) (readings : List SensorReading) :
    (c.absorb readings).2.Narrow lo := by
  unfold Controller.absorb
  cases hottest readings with
  | none => exact narrow
  | some t =>
      simp only [overshootCheck]
      split <;> exact narrow

/-- The curve's targets differ by the lifted floor. -/
theorem Narrow.targetFor (narrow : c.Narrow lo) (t : MilliC) :
    (c.lifted lo).targetFor t = (max lo (c.targetFor t).1, (c.targetFor t).2.lifted lo) ∧
      (c.targetFor t).2.minRpm ≤ (c.targetFor t).1 ∧
      (c.targetFor t).1 ≤ (c.targetFor t).2.maxRpm ∧ (c.targetFor t).2.Narrow lo := by
  obtain ⟨thresholds, step⟩ := id narrow
  have raised : Thresholds (c.lifted lo).highC (c.lifted lo).maxC (c.lifted lo).lowC := thresholds
  have top := step.top
  have bounded : c.maxRpm ≤ u32Max := Nat.le_trans (Nat.le_add_right _ _) step.fits
  by_cases cold : t.val < c.lowC * 1000
  · rw [targetFor_cold thresholds cold, targetFor_cold raised cold, step.sunk]
    exact ⟨rfl, Nat.le_refl _, Nat.le_of_lt step.wide, narrow⟩
  · by_cases hot : c.maxC * 1000 ≤ t.val
    · rw [targetFor_hot thresholds hot, targetFor_hot raised hot, step.full]
      exact ⟨rfl, Nat.le_of_lt step.wide, Nat.le_refl _, narrow⟩
    · by_cases warm : c.highC * 1000 ≤ t.val
      · have short : t.val < c.maxC * 1000 := Int.not_le.mp hot
        have sloped := linearTarget_mem warm short step.wide bounded
        -- the raised band is one step wide, so under its ceiling there is only its floor
        have flat := linearTarget_mem warm short (show lo < c.maxRpm by omega) bounded
        have floored : linearTarget t c.highC c.maxC lo c.maxRpm
            = max lo (linearTarget t c.highC c.maxC c.minRpm c.maxRpm) := by
          rw [Nat.max_eq_left (by omega)]
          omega
        rw [targetFor_warm thresholds warm short, targetFor_warm raised warm short]
        exact ⟨Prod.ext floored rfl, sloped.1, Nat.le_of_lt sloped.2, narrow⟩
      · have between := Int.not_le.mp warm
        rw [targetFor_between thresholds (Int.not_lt.mp cold) between,
          targetFor_between raised (Int.not_lt.mp cold) between]
        cases ramping : c.ramping with
        | true =>
            simp only [lifted, ramping, ↓reduceIte]
            exact ⟨trivial, step.floor, step.ceiling, narrow⟩
        | false =>
            simp only [lifted, ramping, step.sunk, Bool.false_eq_true, ↓reduceIte]
            exact ⟨trivial, Nat.le_refl _, Nat.le_of_lt step.wide, narrow⟩

/-- Two controller steps decide alike up to the clamp of the write, and leave the
second controller as the first with its floor lifted. -/
structure Alike (lo hi : Nat) (raw raised : Decision × Controller) : Prop where
  decision : raised.1.clamped lo hi = raw.1.clamped lo hi
  controller : raised.2 = raw.2.lifted lo
  narrow : raw.2.Narrow lo

variable {hi : Nat}

theorem Alike.same {decision : Decision} (narrow : c.Narrow lo) :
    Alike lo hi (decision, c) (decision, c.lifted lo) :=
  ⟨rfl, rfl, narrow⟩

theorem Narrow.stepCurve (narrow : c.Narrow lo) (room : lo < hi) (readings : List SensorReading) :
    Alike lo hi (c.stepCurve readings) ((c.lifted lo).stepCurve readings) := by
  have absorbed := narrow.absorb readings
  simp only [Controller.stepCurve, absorb_lifted]
  generalize c.absorb readings = step at absorbed ⊢
  obtain ⟨reading, c⟩ := step
  have step := absorbed.2
  cases reading with
  | none =>
      by_cases lost : sensorLossPolls ≤ c.lossStreak
      · simp only [lifted, lost, resetStreaks, ↓reduceIte]
        exact ⟨rfl, by simp [lifted, step.sunk], absorbed.1,
          step.slewed (Nat.le_refl _) (Nat.le_of_lt step.wide)⟩
      · simp only [lifted, lost, ↓reduceIte]
        exact .same absorbed
  | some t =>
      by_cases fires : overshootPolls ≤ c.overshootStreak
      · simp only [lifted, fires, ↓reduceIte]
        exact ⟨rfl, by simp [lifted, step.full], absorbed.1,
          step.slewed (Nat.le_of_lt step.wide) (Nat.le_refl _)⟩
      · obtain ⟨raised, floor, ceiling, narrow⟩ := absorbed.targetFor t
        have guarded : ¬ overshootPolls ≤ (c.lifted lo).overshootStreak := fires
        simp only [fires, guarded, raised, ↓reduceIte]
        generalize c.targetFor t = curve at floor ceiling narrow ⊢
        obtain ⟨target, c⟩ := curve
        obtain ⟨reached, lifting⟩ := narrow.2.slewToward_eq floor ceiling
        have top : target ≤ lo + 1 := Nat.le_trans ceiling (Nat.le_of_eq narrow.2.top)
        have capped : target ≤ hi := Nat.le_trans top room
        simp only [lifted, reached, lifting]
        exact ⟨congrArg Decision.setSpeed (clamp_floor (Nat.le_of_lt room) capped), rfl, narrow.1,
          narrow.2.slewed floor ceiling⟩

theorem Narrow.stepHold (narrow : c.Narrow lo) (readings : List SensorReading) (heldRpm : Nat) :
    Alike lo hi (c.stepHold readings heldRpm) ((c.lifted lo).stepHold readings heldRpm) := by
  have absorbed := narrow.absorb readings
  simp only [Controller.stepHold, absorb_lifted]
  generalize c.absorb readings = step at absorbed ⊢
  obtain ⟨reading, c⟩ := step
  cases reading with
  | none =>
      by_cases lost : sensorLossPolls ≤ c.lossStreak
      · simp only [lifted, lost, ↓reduceIte]
        exact .same (c := c.resetStreaks) absorbed
      · simp only [lifted, lost, ↓reduceIte]
        exact .same absorbed
  | some t =>
      by_cases fires : overshootPolls ≤ c.overshootStreak
      · simp only [lifted, fires, ↓reduceIte]
        exact .same absorbed
      · simp only [lifted, fires, ↓reduceIte]
        exact .same absorbed

theorem Narrow.stepObserve (narrow : c.Narrow lo) (readings : List SensorReading) :
    Alike lo hi (c.stepObserve readings) ((c.lifted lo).stepObserve readings) := by
  have absorbed := narrow.absorb readings
  simp only [Controller.stepObserve, absorb_lifted]
  generalize c.absorb readings = step at absorbed ⊢
  obtain ⟨reading, c⟩ := step
  cases reading with
  | none =>
      by_cases lost : sensorLossPolls ≤ c.lossStreak
      · simp only [lifted, lost, ↓reduceIte]
        exact .same (c := c.resetStreaks) absorbed
      · simp only [lifted, lost, ↓reduceIte]
        exact .same absorbed
  | some t => exact .same absorbed

end Controller

end Afanctl
