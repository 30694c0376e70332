import Afanctl.Lib.Approach
import Afanctl.Policy.Run

/-!
What the curve does on a temperature plateau.

Away from the zone that holds the position and below the guard's threshold, the target
is a function of the temperature alone, and every poll moves the slew state one step
toward it. From whatever state a run has left, the outputs then approach that target.
-/

namespace Afanctl

open Afanctl.Lib

/-- The temperatures whose target depends on nothing else and which never count toward
the guard. -/
def OnCurve (cfg : ResolvedConfig) (t : MilliC) : Prop :=
  t.val < cfg.lowC * 1000 ∨
    cfg.config.highC * 1000 ≤ t.val ∧ t.val < (cfg.config.maxC - 1) * 1000

instance (cfg : ResolvedConfig) (t : MilliC) : Decidable (OnCurve cfg t) :=
  inferInstanceAs (Decidable (_ ∨ _))

/-- The curve at such a temperature: the floor, or the interpolated share of the band,
rounded down. -/
def plateauRpm (cfg : ResolvedConfig) (t : MilliC) : Nat :=
  if t.val < cfg.lowC * 1000 then cfg.config.minRpm
  else
    cfg.config.minRpm
      + (t.val - cfg.config.highC * 1000).toNat * (cfg.config.maxRpm - cfg.config.minRpm)
        / ((cfg.config.maxC - cfg.config.highC) * 1000).toNat

/-- Away from overflow the limiter moves at most one step toward its target. -/
theorem slewToward_eq_toward {base maxStep : Nat} (target : Nat) (fits : base + maxStep ≤ u32Max) :
    slewToward base target maxStep = toward maxStep base target :=
  slewToward_eq target fits

namespace Controller

section Plateau

variable {cfg : ResolvedConfig} {c : Controller} {t : MilliC} {readings : List SensorReading}

/-- The target on a plateau is the curve's. -/
theorem Tame.targetFor_plateau (tame : c.Tame) (tuned : c.Tuned cfg) (onCurve : OnCurve cfg t) :
    (c.targetFor t).1 = plateauRpm cfg t := by
  obtain ⟨minRpm, maxRpm, highC, maxC, lowC⟩ := tuned
  have fits : c.maxRpm ≤ u32Max := Nat.le_trans (Nat.le_add_right _ _) tame.fits
  rcases onCurve with cold | ⟨above, below⟩
  · rw [plateauRpm, if_pos cold, targetFor_cold tame.thresholds (by rw [lowC]; exact cold), minRpm]
  · have low : c.lowC = c.highC - 3 := tame.thresholds.low_eq
    have mild : ¬ t.val < cfg.lowC * 1000 := by omega
    rw [plateauRpm, if_neg mild]
    rw [← minRpm, ← maxRpm, ← highC, ← maxC] at *
    have under : t.val < c.maxC * 1000 := by omega
    rw [targetFor_warm tame.thresholds above under]
    exact linearTarget_eq above under (Nat.le_of_lt tame.band) fits

/-- One poll on the plateau: the guard rests, and the slew state takes one step. -/
theorem Tame.stepCurve_plateau (tame : c.Tame) (tuned : c.Tuned cfg) (onCurve : OnCurve cfg t)
    (seen : hottest readings = some t) :
    (c.stepCurve readings).1
        = .setSpeed (toward slewMaxRpmPerPoll c.slewRpm (plateauRpm cfg t)) ∧
      (c.stepCurve readings).2.slewRpm
        = toward slewMaxRpmPerPoll c.slewRpm (plateauRpm cfg t) := by
  have cool : c.overshootCount t = 0 := by
    have far : ¬ satI32 (satI32 (c.maxC - 1) * 1000) ≤ t.val := by
      rw [tame.thresholds.guard]
      obtain ⟨high_nonneg, high_lt_max, max_le, low_eq⟩ := tame.thresholds
      rcases onCurve with cold | ⟨-, below⟩
      · rw [← tuned.lowC] at cold
        omega
      · rw [← tuned.maxC] at below
        omega
    rw [overshootCount, if_neg far]
  have calm : ¬ overshootPolls ≤ c.overshootCount t := by
    rw [cool]
    decide
  rw [stepCurve_calm seen calm, tame.targetFor_plateau tuned onCurve,
    slewToward_eq_toward _ tame.room]
  exact ⟨rfl, rfl⟩

/-- Any number of polls on the plateau: the slew state is where as many moves lead. -/
theorem Tame.run_plateau (tame : c.Tame) (tuned : c.Tuned cfg) (onCurve : OnCurve cfg t)
    (polls : List (List SensorReading)) (constant : ∀ readings ∈ polls, hottest readings = some t) :
    (controls.run (polls.map .curve) c).slewRpm
      = approach slewMaxRpmPerPoll c.slewRpm (plateauRpm cfg t) polls.length := by
  induction polls generalizing c with
  | nil => exact (approach_zero _ _ _).symm
  | cons first polls ih =>
      have seen := constant first List.mem_cons_self
      have moved := (tame.stepCurve_plateau tuned onCurve seen).2
      have rest := ih (tame.step (.curve first)) (tuned.step (.curve first))
        fun readings mem => constant readings (List.mem_cons_of_mem _ mem)
      rw [Controller.step, moved, approach_toward] at rest
      exact rest

end Plateau

end Controller

open Controller

/-- On a plateau the outputs approach the curve, from whatever state a run has left. -/
theorem plateau_approaches {hw : Nat × Nat} {cfg : Config} (accepted : cfg.validate hw = .ok ())
    (fits : cfg.maxRpm ≤ u32Max - slewMaxRpmPerPoll) (calls : List Call) {t : MilliC}
    (onCurve : OnCurve (.ofConfig cfg) t) :
    ∃ x : Nat → Nat,
      Approaches slewMaxRpmPerPoll
          (controls.run calls (Controller.new (.ofConfig cfg))).slewRpm
          (plateauRpm (.ofConfig cfg) t) x ∧
        ∀ (polls : List (List SensorReading)) (last : List SensorReading),
          (∀ readings ∈ polls ++ [last], hottest readings = some t) →
          ((controls.run (polls.map .curve)
              (controls.run calls (Controller.new (.ofConfig cfg)))).step (.curve last)).1
            = .setSpeed (x (polls.length + 1)) := by
  have room : cfg.maxRpm + slewMaxRpmPerPoll ≤ u32Max :=
    Nat.add_le_of_le_sub (by decide) fits
  have tame := (Tame.new (Config.validate_ok_iff.mp accepted).1 room).run calls
  have tuned := (Tuned.new (.ofConfig cfg)).run calls
  refine ⟨_, approach_approaches (by decide), fun polls last constant => ?_⟩
  have seen := constant last (List.mem_append_right _ (List.mem_singleton_self last))
  have before := tame.run_plateau tuned onCurve polls
    fun readings mem => constant readings (List.mem_append_left _ mem)
  have decides := ((tame.run _).stepCurve_plateau (tuned.run (polls.map .curve)) onCurve seen).1
  rw [before, ← approach_succ] at decides
  exact decides

/-- From the floor the outputs at 80 °C approach 4700 rpm. -/
theorem plateau_approaches_80 :
    ∃ x : Nat → Nat, Approaches 750 1200 4700 x ∧
      ∀ (polls : List (List SensorReading)) (last : List SensorReading),
        (∀ readings ∈ polls ++ [last], hottest readings = some ⟨80000⟩) →
        ((controls.run (polls.map .curve) (Controller.new (.ofConfig .defaults))).step
          (.curve last)).1 = .setSpeed (x (polls.length + 1)) :=
  plateau_approaches Config.defaults_valid (by decide) [] (t := ⟨80000⟩) (by decide)

end Afanctl
