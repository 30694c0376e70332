import Afanctl.Lib.Word
import Afanctl.Config

/-!
The control policy: the safety constants and the `Controller` state machine.

Each step takes one poll's readings and yields one decision with the next
controller state. Nothing here reads a clock or a file.
-/

namespace Afanctl

open Afanctl.Lib

/-- Construct from whole °C. -/
def MilliC.fromC (c : Int) : MilliC := ⟨satI32 (c * 1000)⟩

/-! ### Safety constants -/

/-- The fan moves at most this many rpm per poll toward its target. -/
def slewMaxRpmPerPoll : Nat := 750

/-- Consecutive all-sensors-failing polls before `returnToAuto`. -/
def sensorLossPolls : Nat := 3

/-- Consecutive polls with `tEff ≥ max - 1` before bypassing the slew. -/
def overshootPolls : Nat := 3

/-- Motionless, off-target polls before the actuator is declared unresponsive. -/
def stallPollsMax : Nat := 10

/-- Deviation from the last written rpm that triggers a re-assert. -/
def verifyToleranceRpm : Nat := 150

/-- Failed writes and re-asserts before AUTO is restored and the daemon latches. -/
def writeFailFallback : Nat := 3

/-- A per-poll tach delta at or below this counts as motionless. -/
def stallTachEpsilonRpm : Nat := 50

/-- The pending-AUTO log is limited to one error every this many polls. -/
def autoRetryLogPollsMax : Nat := 10

/-- Off-target dwell that triggers, and re-triggers, a warning. -/
def offTargetWarnPolls : Nat := 30

/-! ### Decisions and controller state -/

/-- One control decision. Every path produces exactly one, never silence. -/
inductive Decision where
  | observe
  | setSpeed (rpm : Nat)
  | escalateMax
  | returnToAuto
  deriving DecidableEq, Repr

/-- Curve hysteresis, slew state and streak counters. -/
structure Controller where
  minRpm : Nat
  maxRpm : Nat
  highC : Int
  maxC : Int
  lowC : Int
  /-- the slew-limited output the limiter moves from -/
  slewRpm : Nat
  /-- once ramping, stay ramping until `t < low` -/
  ramping : Bool
  lossStreak : Nat
  overshootStreak : Nat
  lastTEff : Option MilliC
  deriving DecidableEq, Repr

/-- Build a controller from fully validated config. -/
def Controller.new (cfg : ResolvedConfig) : Controller where
  minRpm := cfg.config.minRpm
  maxRpm := cfg.config.maxRpm
  highC := cfg.config.highC
  maxC := cfg.config.maxC
  lowC := cfg.lowC
  slewRpm := cfg.config.minRpm
  ramping := false
  lossStreak := 0
  overshootStreak := 0
  lastTEff := none

/-- Slew limiter: move `base` at most `maxStep` rpm toward `target`. The upward
addition is the source's unchecked `u32` one. -/
def slewToward (base target maxStep : Nat) : Nat :=
  if base ≤ target then min (wrap32 (base + maxStep)) target
  else max (base - maxStep) target

/-- Linear interpolation of the fan curve over `[high, max]`, with the source's
truncating `i64` division and `u32` cast. -/
def linearTarget (t : MilliC) (highC maxC : Int) (minRpm maxRpm : Nat) : Nat :=
  let denom := (maxC - highC) * 1000
  let num := t.val - highC * 1000
  wrap32 (asU32 ((num * ((maxRpm : Int) - minRpm)).tdiv denom) + minRpm)

/-- The hottest valid reading, or `none` when every sensor failed. -/
def hottest (readings : List SensorReading) : Option MilliC :=
  (readings.filterMap (·.milliC)).foldl
    (fun best m => match best with
      | some b => if m.val ≤ b.val then some b else some m
      | none => some m) none

namespace Controller

/-- Track the overshoot streak: consecutive polls with `t ≥ max - 1`. The streak is
a `u32` that nothing resets while the polls stay hot. -/
def overshootCheck (t : MilliC) (c : Controller) : Controller :=
  if satI32 (satI32 (c.maxC - 1) * 1000) ≤ t.val then
    { c with overshootStreak := wrap32 (c.overshootStreak + 1) }
  else { c with overshootStreak := 0 }

/-- Update the streaks from this poll's readings and return the effective
temperature. -/
def absorb (readings : List SensorReading) (c : Controller) : Option MilliC × Controller :=
  match hottest readings with
  | some t => (some t, { c with lastTEff := some t, lossStreak := 0 }.overshootCheck t)
  | none => (none, { c with lossStreak := wrap32 (c.lossStreak + 1), overshootStreak := 0 })

/-- Absolute target curve, recomputed every call. -/
def targetFor (t : MilliC) (c : Controller) : Nat × Controller :=
  if t.val < satI32 (c.lowC * 1000) then (c.minRpm, { c with ramping := false })
  else if satI32 (c.maxC * 1000) ≤ t.val then (c.maxRpm, { c with ramping := true })
  else if satI32 (c.highC * 1000) ≤ t.val then
    (linearTarget t c.highC c.maxC c.minRpm c.maxRpm, { c with ramping := true })
  else if c.ramping then (c.slewRpm, c)
  else (c.minRpm, c)

def resetStreaks (c : Controller) : Controller :=
  { c with lossStreak := 0, overshootStreak := 0 }

/-- Curve mode step. Interim sensor loss writes nothing new; the full streak
returns the fan to the firmware and restarts the curve from `minRpm`. -/
def stepCurve (readings : List SensorReading) (c : Controller) : Decision × Controller :=
  match c.absorb readings with
  | (some t, c) =>
      if overshootPolls ≤ c.overshootStreak then
        (.escalateMax, { c with slewRpm := c.maxRpm, ramping := true })
      else
        let (target, c) := c.targetFor t
        let rpm := slewToward c.slewRpm target slewMaxRpmPerPoll
        (.setSpeed rpm, { c with slewRpm := rpm })
  | (none, c) =>
      if sensorLossPolls ≤ c.lossStreak then
        (.returnToAuto, { c.resetStreaks with slewRpm := c.minRpm, ramping := false })
      else (.observe, c)

/-- Hold mode step: the held rpm, unless the overshoot guard overrides it. -/
def stepHold (readings : List SensorReading) (heldRpm : Nat) (c : Controller) :
    Decision × Controller :=
  match c.absorb readings with
  | (some _, c) =>
      if overshootPolls ≤ c.overshootStreak then (.escalateMax, c) else (.setSpeed heldRpm, c)
  | (none, c) =>
      if sensorLossPolls ≤ c.lossStreak then (.returnToAuto, c.resetStreaks) else (.observe, c)

/-- Observe mode step: always `observe`, but the streaks keep counting. -/
def stepObserve (readings : List SensorReading) (c : Controller) : Decision × Controller :=
  match c.absorb readings with
  | (some _, c) => (.observe, c)
  | (none, c) => (.observe, if sensorLossPolls ≤ c.lossStreak then c.resetStreaks else c)

/-- Last effective temperature, for status. -/
def tEff (c : Controller) : Option MilliC := c.lastTEff

end Controller

end Afanctl
