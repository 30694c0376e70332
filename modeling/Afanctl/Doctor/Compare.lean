import Afanctl.Lib.Machine
import Afanctl.Policy

/-!
`doctor --compare`: the curve, stepped over a recorded trace of the firmware's fan.

A sample is an effective temperature, `none` for a poll without a reading, and the rpm the
firmware chose there. The report keeps the sum of the deltas where the source divides it by
their number. Its counters are `u32`s, which wrap.
-/

namespace Afanctl

open Afanctl.Lib

/-- One row of the table. -/
structure CompareRow where
  tEff : Option MilliC
  smcRpm : Nat
  ourRpm : Option Nat
  /-- ours less the firmware's -/
  deltaRpm : Option Int
  deriving DecidableEq, Repr

/-- The comparison of a trace. -/
structure CompareReport where
  samples : Nat
  /-- samples without a comparable rpm, and fan reads that failed -/
  lost : Nat
  deltaSum : Int
  maxAbsDeltaRpm : Nat
  quieter : Nat
  louder : Nat
  equal : Nat
  rows : List CompareRow
  deriving DecidableEq, Repr

/-- What the loop over the samples carries. -/
structure Comparison where
  controller : Controller
  rows : List CompareRow
  deltas : List Int
  lost : Nat

/-- The rpm that a decision counts as. A fan handed back to the firmware has none. -/
def ourRpm (cfg : ResolvedConfig) : Decision → Option Nat
  | .setSpeed rpm => some rpm
  | .escalateMax => some cfg.config.maxRpm
  | .returnToAuto => none
  | .observe => none

/-- The reading a sample is stepped with. -/
def compareReadings (tEff : Option MilliC) : List SensorReading :=
  [{ label := "compare", milliC := tEff }]

/-- One sample. -/
def Comparison.sample (cfg : ResolvedConfig) (c : Comparison) (sample : Option MilliC × Nat) :
    Comparison :=
  let (tEff, smcRpm) := sample
  let (decision, controller) := c.controller.stepCurve (compareReadings tEff)
  let ours := ourRpm cfg decision
  let delta := ours.map fun ours => (ours : Int) - smcRpm
  { controller := controller
    rows := c.rows ++ [{ tEff := tEff, smcRpm := smcRpm, ourRpm := ours, deltaRpm := delta }]
    deltas := c.deltas ++ delta.toList
    lost := if delta.isSome then c.lost else wrap32 (c.lost + 1) }

/-- Step the curve over a trace and summarize the deltas. -/
def compareFromTrace (trace : List (Option MilliC × Nat)) (cfg : ResolvedConfig) (dropped : Nat) :
    CompareReport :=
  let c := trace.foldl (Comparison.sample cfg)
    { controller := Controller.new cfg, rows := [], deltas := [], lost := dropped }
  { samples := wrap32 c.deltas.length
    lost := c.lost
    deltaSum := c.deltas.foldl (· + ·) 0
    maxAbsDeltaRpm := c.deltas.foldl (fun m d => max m d.natAbs) 0
    quieter := wrap32 (c.deltas.filter (· < 0)).length
    louder := wrap32 (c.deltas.filter (0 < ·)).length
    equal := wrap32 (c.deltas.filter (· = 0)).length
    rows := c.rows }

/-- The controller of the comparison, as a machine that reports the rpm of each sample. -/
def compared (cfg : ResolvedConfig) : Machine (Option MilliC × Nat) Controller (Option Nat) where
  next sample c := (c.stepCurve (compareReadings sample.1)).2
  out sample c := [ourRpm cfg (c.stepCurve (compareReadings sample.1)).1]

theorem compared_cons (cfg : ResolvedConfig) (tEff : Option MilliC) (smcRpm : Nat)
    (trace : List (Option MilliC × Nat)) (c : Controller) :
    (compared cfg).trace ((tEff, smcRpm) :: trace) c =
      ourRpm cfg (c.stepCurve (compareReadings tEff)).1 ::
        (compared cfg).trace trace (c.stepCurve (compareReadings tEff)).2 := rfl

theorem foldl_ourRpm (cfg : ResolvedConfig) (trace : List (Option MilliC × Nat))
    (c : Comparison) :
    (trace.foldl (Comparison.sample cfg) c).rows.map (·.ourRpm)
      = c.rows.map (·.ourRpm) ++ (compared cfg).trace trace c.controller := by
  induction trace generalizing c with
  | nil => simp [Machine.trace]
  | cons sample trace ih =>
      rw [List.foldl_cons, ih]
      simp [Comparison.sample, Machine.trace, compared]

/-- The column of our rpm is what that machine reports. -/
theorem compareFromTrace_ourRpm (trace : List (Option MilliC × Nat)) (cfg : ResolvedConfig)
    (dropped : Nat) :
    (compareFromTrace trace cfg dropped).rows.map (·.ourRpm)
      = (compared cfg).trace trace (Controller.new cfg) :=
  foldl_ourRpm cfg trace _

end Afanctl
