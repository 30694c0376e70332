import Afanctl.Lib.Machine
import Afanctl.Curve

/-!
Runs of the controller.

Each poll calls one of the three step functions, whichever the mode asks for, and
all three share the streaks: `counted` is what any of them does to the streaks, and
only a curve call touches the slew state and the hysteresis latch beside it. A run is
any sequence of calls from a new controller. `Tuned` and `Tame` are what every run
keeps: the configured constants, and a slew state inside its band.
-/

namespace Afanctl

open Afanctl.Lib

/-- One call of a step function. -/
inductive Call where
  | curve (readings : List SensorReading)
  | hold (readings : List SensorReading) (heldRpm : Nat)
  | observe (readings : List SensorReading)
  deriving DecidableEq, Repr

def Call.readings : Call → List SensorReading
  | .curve readings => readings
  | .hold readings _ => readings
  | .observe readings => readings

/-- A curve poll with one valid sensor, at the given milli-degrees. -/
def Call.curveAt (milli : Int) : Call := .curve [⟨"Core 0", some ⟨milli⟩⟩]

namespace Controller

/-- The decision and the next controller of one call. -/
def step : Call → Controller → Decision × Controller
  | .curve readings, c => c.stepCurve readings
  | .hold readings heldRpm, c => c.stepHold readings heldRpm
  | .observe readings, c => c.stepObserve readings

/-- The controller as a machine: each call is an input, each decision an output. -/
def controls : Machine Call Controller Decision where
  next := fun call c => (c.step call).2
  out := fun call c => [(c.step call).1]

/-! ### The streaks, whatever the call -/

/-- The overshoot streak after a valid reading. -/
def overshootCount (t : MilliC) (c : Controller) : Nat :=
  if satI32 (satI32 (c.maxC - 1) * 1000) ≤ t.val then wrap32 (c.overshootStreak + 1) else 0

/-- The loss streak after a poll without one; a full streak starts over. -/
def lossCount (c : Controller) : Nat :=
  if sensorLossPolls ≤ wrap32 (c.lossStreak + 1) then 0 else wrap32 (c.lossStreak + 1)

/-- What every step function does to the streaks. -/
def counted (readings : List SensorReading) (c : Controller) : Controller :=
  match hottest readings with
  | some t =>
      { c with lastTEff := some t, lossStreak := 0, overshootStreak := c.overshootCount t }
  | none => { c with lossStreak := c.lossCount, overshootStreak := 0 }

section Steps

variable {c : Controller} {t : MilliC} {readings : List SensorReading}

theorem counted_some (seen : hottest readings = some t) :
    c.counted readings
      = { c with lastTEff := some t, lossStreak := 0, overshootStreak := c.overshootCount t } := by
  simp only [counted, seen]

theorem counted_none (lost : hottest readings = none) :
    c.counted readings = { c with lossStreak := c.lossCount, overshootStreak := 0 } := by
  simp only [counted, lost]

@[simp] theorem counted_slewRpm (readings : List SensorReading) (c : Controller) :
    (c.counted readings).slewRpm = c.slewRpm := by
  unfold counted
  cases hottest readings <;> rfl

@[simp] theorem counted_ramping (readings : List SensorReading) (c : Controller) :
    (c.counted readings).ramping = c.ramping := by
  unfold counted
  cases hottest readings <;> rfl

theorem absorb_seen (seen : hottest readings = some t) :
    c.absorb readings = (some t, c.counted readings) := by
  simp only [absorb, counted, seen, overshootCheck, overshootCount]
  split <;> rfl

theorem absorb_lost (lost : hottest readings = none) :
    c.absorb readings
      = (none, { c with lossStreak := wrap32 (c.lossStreak + 1), overshootStreak := 0 }) := by
  simp only [absorb, lost]

/-- Observing decides nothing and counts. -/
theorem stepObserve_eq (readings : List SensorReading) (c : Controller) :
    c.stepObserve readings = (.observe, c.counted readings) := by
  cases seen : hottest readings with
  | some t => simp only [stepObserve, absorb_seen seen]
  | none =>
      simp only [stepObserve, absorb_lost seen, counted_none seen, lossCount, resetStreaks]
      split <;> rfl

theorem stepHold_seen (heldRpm : Nat) (seen : hottest readings = some t) :
    c.stepHold readings heldRpm
      = (if overshootPolls ≤ c.overshootCount t then .escalateMax else .setSpeed heldRpm,
          c.counted readings) := by
  simp only [stepHold, absorb_seen seen, counted_some seen]
  split <;> rfl

theorem stepHold_lost (heldRpm : Nat) (lost : hottest readings = none) :
    c.stepHold readings heldRpm
      = (if sensorLossPolls ≤ wrap32 (c.lossStreak + 1) then .returnToAuto else .observe,
          c.counted readings) := by
  simp only [stepHold, absorb_lost lost, counted_none lost, lossCount, resetStreaks]
  split <;> rfl

/-- Holding counts. -/
theorem stepHold_counted (readings : List SensorReading) (heldRpm : Nat) (c : Controller) :
    (c.stepHold readings heldRpm).2 = c.counted readings := by
  cases seen : hottest readings with
  | some t => rw [stepHold_seen heldRpm seen]
  | none => rw [stepHold_lost heldRpm seen]

/-- The guard fires: the slew state jumps to the ceiling. -/
theorem stepCurve_fires (seen : hottest readings = some t)
    (third : overshootPolls ≤ c.overshootCount t) :
    c.stepCurve readings
      = (.escalateMax, { c.counted readings with slewRpm := c.maxRpm, ramping := true }) := by
  simp only [stepCurve, absorb_seen seen, counted_some seen, third, ↓reduceIte]

/-- Short of the guard: one slew step toward the target. -/
theorem stepCurve_calm (seen : hottest readings = some t)
    (calm : ¬ overshootPolls ≤ c.overshootCount t) :
    c.stepCurve readings
      = (.setSpeed (slewToward c.slewRpm (c.targetFor t).1 slewMaxRpmPerPoll),
          { c.counted readings with
            slewRpm := slewToward c.slewRpm (c.targetFor t).1 slewMaxRpmPerPoll,
            ramping := (c.targetFor t).2.ramping }) := by
  obtain ⟨ramping, kept⟩ := c.targetFor_keeps t
  simp only [stepCurve, absorb_seen seen, counted_some seen, calm, targetFor_streaks, kept,
    ↓reduceIte]

/-- A full loss restarts the curve; an interim one keeps everything. -/
theorem stepCurve_lost (lost : hottest readings = none) :
    c.stepCurve readings
      = if sensorLossPolls ≤ wrap32 (c.lossStreak + 1) then
          (.returnToAuto, { c.counted readings with slewRpm := c.minRpm, ramping := false })
        else (.observe, c.counted readings) := by
  simp only [stepCurve, absorb_lost lost, counted_none lost, lossCount, resetStreaks]
  split <;> rfl

/-- A curve call counts, and sets the slew state and the latch. -/
theorem stepCurve_counted (readings : List SensorReading) (c : Controller) :
    ∃ slewRpm ramping, (c.stepCurve readings).2
      = { c.counted readings with slewRpm := slewRpm, ramping := ramping } := by
  cases seen : hottest readings with
  | some t =>
      by_cases third : overshootPolls ≤ c.overshootCount t
      · exact ⟨_, _, congrArg Prod.snd (stepCurve_fires seen third)⟩
      · exact ⟨_, _, congrArg Prod.snd (stepCurve_calm seen third)⟩
  | none =>
      rw [stepCurve_lost seen]
      split
      · exact ⟨_, _, rfl⟩
      · exact ⟨c.slewRpm, c.ramping, by simp only [counted_none seen]⟩

/-- Any call counts; the slew state and the latch are all else it may set. -/
theorem step_counted (call : Call) (c : Controller) :
    ∃ slewRpm ramping, (c.step call).2
      = { c.counted call.readings with slewRpm := slewRpm, ramping := ramping } := by
  cases call with
  | curve readings => exact stepCurve_counted readings c
  | hold readings heldRpm =>
      refine ⟨c.slewRpm, c.ramping, ?_⟩
      rw [step, stepHold_counted]
      cases seen : hottest readings with
      | some t => simp only [Call.readings, counted_some seen]
      | none => simp only [Call.readings, counted_none seen]
  | observe readings =>
      refine ⟨c.slewRpm, c.ramping, ?_⟩
      rw [step, stepObserve_eq]
      cases seen : hottest readings with
      | some t => simp only [Call.readings, counted_some seen]
      | none => simp only [Call.readings, counted_none seen]

end Steps

/-! ### The configured constants -/

/-- The constants are those of the config. -/
structure Tuned (cfg : ResolvedConfig) (c : Controller) : Prop where
  minRpm : c.minRpm = cfg.config.minRpm
  maxRpm : c.maxRpm = cfg.config.maxRpm
  highC : c.highC = cfg.config.highC
  maxC : c.maxC = cfg.config.maxC
  lowC : c.lowC = cfg.lowC

namespace Tuned

variable {cfg : ResolvedConfig} {c : Controller}

theorem new (cfg : ResolvedConfig) : (Controller.new cfg).Tuned cfg :=
  ⟨rfl, rfl, rfl, rfl, rfl⟩

theorem counted (tuned : c.Tuned cfg) (readings : List SensorReading) :
    (c.counted readings).Tuned cfg := by
  cases seen : hottest readings with
  | some t => rw [counted_some seen]; exact { tuned with }
  | none => rw [counted_none seen]; exact { tuned with }

theorem step (tuned : c.Tuned cfg) (call : Call) : (c.step call).2.Tuned cfg := by
  obtain ⟨slewRpm, ramping, eq⟩ := step_counted call c
  have counted := tuned.counted call.readings
  rw [eq]
  exact { counted with }

/-- Every run keeps the constants. -/
theorem run (calls : List Call) (tuned : c.Tuned cfg) : (controls.run calls c).Tuned cfg :=
  Machine.run_invariant (P := fun _ _ => True) (I := Tuned cfg) (fun _ tuned => tuned.step _)
    (Machine.Along.of_forall (fun _ _ => trivial) calls c) tuned

end Tuned

/-! ### The band -/

/-- A controller inside its band, whose slewing cannot overflow. -/
structure Tame (c : Controller) : Prop where
  thresholds : Thresholds c.highC c.maxC c.lowC
  band : c.minRpm < c.maxRpm
  fits : c.maxRpm + slewMaxRpmPerPoll ≤ u32Max
  floor : c.minRpm ≤ c.slewRpm
  ceiling : c.slewRpm ≤ c.maxRpm

end Controller

/-- Away from overflow the limiter is the total order's. -/
theorem slewToward_eq {base maxStep : Nat} (target : Nat) (fits : base + maxStep ≤ u32Max) :
    slewToward base target maxStep
      = if base ≤ target then min (base + maxStep) target else max (base - maxStep) target := by
  rw [slewToward, wrap32_of_le fits]

/-- A slew step ends between its base and its target. -/
theorem slewToward_between {base maxStep : Nat} (target : Nat) (fits : base + maxStep ≤ u32Max) :
    min base target ≤ slewToward base target maxStep ∧
      slewToward base target maxStep ≤ max base target := by
  rw [slewToward_eq target fits]
  split <;> omega

/-- Whatever its addition does, the limiter ends under its base or its target. -/
theorem slewToward_le (base target maxStep : Nat) :
    slewToward base target maxStep ≤ max base target := by
  unfold slewToward
  split <;> omega

namespace Controller

section Ceiling

variable {c : Controller} (thresholds : Thresholds c.highC c.maxC c.lowC)
  (band : c.minRpm < c.maxRpm) (ceiling : c.slewRpm ≤ c.maxRpm)

include thresholds band ceiling

/-- The curve stays under the ceiling, also where it wraps. -/
theorem targetFor_le (t : MilliC) : (c.targetFor t).1 ≤ c.maxRpm := by
  by_cases cold : t.val < c.lowC * 1000
  · rw [targetFor_cold thresholds cold]
    exact Nat.le_of_lt band
  · by_cases hot : c.maxC * 1000 ≤ t.val
    · exact Nat.le_of_eq (congrArg Prod.fst (targetFor_hot thresholds hot))
    · by_cases warm : c.highC * 1000 ≤ t.val
      · rw [targetFor_warm thresholds warm (Int.not_le.mp hot)]
        by_cases bounded : c.maxRpm ≤ u32Max
        · exact Nat.le_of_lt (linearTarget_mem warm (Int.not_le.mp hot) band bounded).2
        · exact Nat.le_trans (wrap32_le_u32Max _) (Nat.le_of_not_le bounded)
      · rw [targetFor_between thresholds (Int.not_lt.mp cold) (Int.not_le.mp warm)]
        split
        · exact ceiling
        · exact Nat.le_of_lt band

end Ceiling

end Controller

namespace Controller.Tame

variable {c : Controller}

theorem new {cfg : Config} (structural : cfg.Structural)
    (fits : cfg.maxRpm + slewMaxRpmPerPoll ≤ u32Max) : (Controller.new (.ofConfig cfg)).Tame where
  thresholds := structural.thresholds
  band := structural.min_lt_max
  fits := fits
  floor := Nat.le_refl _
  ceiling := Nat.le_of_lt structural.min_lt_max

theorem room (tame : c.Tame) : c.slewRpm + slewMaxRpmPerPoll ≤ u32Max :=
  Nat.le_trans (Nat.add_le_add_right tame.ceiling _) tame.fits

/-- The slew state may be anywhere in the band. -/
theorem slewed (tame : c.Tame) {rpm : Nat} (floor : c.minRpm ≤ rpm) (ceiling : rpm ≤ c.maxRpm)
    (ramping : Bool) : { c with slewRpm := rpm, ramping := ramping }.Tame :=
  { tame with floor := floor, ceiling := ceiling }

theorem counted (tame : c.Tame) (readings : List SensorReading) : (c.counted readings).Tame := by
  cases seen : hottest readings with
  | some t => rw [counted_some seen]; exact { tame with }
  | none => rw [counted_none seen]; exact { tame with }

/-- The curve stays in the band. -/
theorem targetFor_mem (tame : c.Tame) (t : MilliC) :
    c.minRpm ≤ (c.targetFor t).1 ∧ (c.targetFor t).1 ≤ c.maxRpm := by
  obtain ⟨thresholds, band, fits, floor, ceiling⟩ := tame
  refine ⟨?_, targetFor_le thresholds band ceiling t⟩
  have bounded : c.maxRpm ≤ u32Max := Nat.le_trans (Nat.le_add_right _ _) fits
  by_cases cold : t.val < c.lowC * 1000
  · exact Nat.le_of_eq (congrArg Prod.fst (targetFor_cold thresholds cold)).symm
  · by_cases hot : c.maxC * 1000 ≤ t.val
    · rw [targetFor_hot thresholds hot]
      exact Nat.le_of_lt band
    · by_cases warm : c.highC * 1000 ≤ t.val
      · rw [targetFor_warm thresholds warm (Int.not_le.mp hot)]
        exact (linearTarget_mem warm (Int.not_le.mp hot) band bounded).1
      · rw [targetFor_between thresholds (Int.not_lt.mp cold) (Int.not_le.mp warm)]
        split
        · exact floor
        · exact Nat.le_refl _

/-- A slew step stays in the band. -/
theorem slewToward_mem (tame : c.Tame) {target : Nat} (floor : c.minRpm ≤ target)
    (ceiling : target ≤ c.maxRpm) :
    c.minRpm ≤ slewToward c.slewRpm target slewMaxRpmPerPoll ∧
      slewToward c.slewRpm target slewMaxRpmPerPoll ≤ c.maxRpm := by
  obtain ⟨below, above⟩ := slewToward_between target tame.room
  exact ⟨Nat.le_trans (Nat.le_min.mpr ⟨tame.floor, floor⟩) below,
    Nat.le_trans above (Nat.max_le.mpr ⟨tame.ceiling, ceiling⟩)⟩

theorem stepCurve (tame : c.Tame) (readings : List SensorReading) :
    (c.stepCurve readings).2.Tame := by
  have counted := tame.counted readings
  cases seen : hottest readings with
  | some t =>
      rw [counted_some seen] at counted
      by_cases third : overshootPolls ≤ c.overshootCount t
      · rw [stepCurve_fires seen third, counted_some seen]
        exact counted.slewed (Nat.le_of_lt tame.band) (Nat.le_refl _) true
      · obtain ⟨floor, ceiling⟩ := tame.targetFor_mem t
        obtain ⟨floor, ceiling⟩ := tame.slewToward_mem floor ceiling
        rw [stepCurve_calm seen third, counted_some seen]
        exact counted.slewed floor ceiling _
  | none =>
      rw [stepCurve_lost seen]
      rw [counted_none seen] at counted ⊢
      split
      · exact counted.slewed (Nat.le_refl _) (Nat.le_of_lt tame.band) false
      · exact counted

theorem step (tame : c.Tame) (call : Call) : (c.step call).2.Tame := by
  have counted := tame.counted call.readings
  cases call with
  | curve readings => exact tame.stepCurve readings
  | hold readings heldRpm =>
      rw [Controller.step, stepHold_counted]
      exact counted
  | observe readings =>
      rw [Controller.step, stepObserve_eq]
      exact counted

/-- Every run stays in the band. -/
theorem run (calls : List Call) (tame : c.Tame) : (controls.run calls c).Tame :=
  Machine.run_invariant (P := fun _ _ => True) (I := Tame) (fun _ tame => tame.step _)
    (Machine.Along.of_forall (fun _ _ => trivial) calls c) tame

end Controller.Tame

end Afanctl
