import Afanctl.Lib.Word
import Afanctl.Sensor

/-!
The five user keys, their validation, and the load-time rpm clamp.

`validate` rejects what no controller may run on. `clampedRpm` is the band the
hardware leaves of the configured one; `validate` only checks that it is not
empty.
-/

namespace Afanctl

open Afanctl.Lib

/-! ### Key paths, used verbatim in the error messages -/

def kHigh : String := "thresholds.high"
def kMax : String := "thresholds.max"
def kMinRpm : String := "curve.min_rpm"
def kInterval : String := "poll.interval_s"

/-- The unit's `WatchdogSec`. -/
def watchdogUnitSec : Nat := 15

/-- Largest legal `poll.interval_s`. -/
def maxIntervalS : Nat := 12

/-- The five user-tunable values. -/
structure Config where
  /-- ramp start (°C) -/
  highC : Int
  /-- full-speed threshold (°C) -/
  maxC : Int
  minRpm : Nat
  maxRpm : Nat
  intervalS : Nat
  deriving DecidableEq, Repr

/-- Configuration errors. `invalid` carries the key, the reason and the fix. -/
inductive ConfigError where
  | parse (source : String)
  | io (path source : String)
  | invalid (key reason fix : String)
  deriving DecidableEq, Repr

instance : ToString ConfigError where
  toString
    | .parse source => s!"parse: {source}"
    | .io path source => s!"io {path}: {source}"
    | .invalid key reason fix => s!"invalid {key}: {reason} (fix: {fix})"

def intervalBelowOne (v : Int) : ConfigError :=
  .invalid kInterval s!"interval_s ({v}) must be >= 1" "set `interval_s` to 1 or more seconds"

def intervalStarvesWatchdog (v : Nat) : ConfigError :=
  .invalid kInterval
    (s!"interval_s ({v}) would starve the systemd watchdog (the unit pins " ++
      s!"WatchdogSec={watchdogUnitSec} s, the supervisor pings at the start and end of every poll, " ++
      "and the F19 settle windows block up to ≈2.7 s inside a failing write), crash-looping the " ++
      "daemon (SIGABRT → L2 → Restart=always)")
    (s!"set `interval_s` to at most {maxIntervalS} s (the unit's {watchdogUnitSec} s watchdog " ++
      "budget minus the worst-case poll work with ≥3 s margin)")

namespace Config

/-- The documented defaults. -/
def defaults : Config where
  highC := 66
  maxC := 86
  minRpm := 1200
  maxRpm := 6200
  intervalS := 1

/-- The hardware-independent invariants. -/
def checkStructural (c : Config) : Except ConfigError Unit :=
  if ¬ (0 ≤ c.maxC ∧ c.maxC ≤ 95) then
    .error (.invalid kMax
      (if 95 < c.maxC then s!"max ({c.maxC}) exceeds the 95 °C guard (Tjmax 100 - 5)"
        else s!"max ({c.maxC}) is below 0 °C — a threshold no real temperature can reach")
      "set `max` within the 0..=95 °C band")
  else if ¬ (0 ≤ c.highC ∧ c.highC ≤ 95) then
    .error (.invalid kHigh
      (s!"high ({c.highC}) is outside the 0..=95 °C band — a fan controller's thresholds that " ++
        "can't reproduce a real temperature are a config error")
      "set `high` within 0..=95 °C (and below `max`)")
  else if c.maxC ≤ c.highC then
    .error (.invalid kHigh s!"high ({c.highC}) must be < max ({c.maxC})"
      s!"set `high` below `max` (e.g. high = {satI32 (c.maxC - 1)})")
  else if c.maxRpm ≤ c.minRpm then
    .error (.invalid kMinRpm s!"min_rpm ({c.minRpm}) must be < max_rpm ({c.maxRpm})"
      s!"set `min_rpm` below `max_rpm` (e.g. min_rpm = {c.maxRpm - 1})")
  else if c.intervalS = 0 then .error (intervalBelowOne 0)
  else if maxIntervalS < c.intervalS then .error (intervalStarvesWatchdog c.intervalS)
  else .ok ()

/-- The load-time clamp rule: `min_rpm` up to `fan1_min`, `max_rpm` down to
`fan1_max`. -/
def clampedRpm (hw : Nat × Nat) (c : Config) : Nat × Nat :=
  (max c.minRpm hw.1, min c.maxRpm hw.2)

/-- Validate against the hardware range `(fan1_min, fan1_max)`. -/
def validate (hw : Nat × Nat) (c : Config) : Except ConfigError Unit :=
  match c.checkStructural with
  | .error e => .error e
  | .ok () =>
      let (minRpm, maxRpm) := c.clampedRpm hw
      if maxRpm ≤ minRpm then
        .error (.invalid kMinRpm
          (s!"min_rpm ({c.minRpm}) and max_rpm ({c.maxRpm}) leave no usable band once clamped to " ++
            s!"hardware {hw.1}–{hw.2} rpm")
          (s!"set `min_rpm` below `max_rpm`, both within the hardware band {hw.1}–{hw.2} rpm"))
      else .ok ()

/-- What an accepted config promises, whatever the hardware. -/
structure Structural (c : Config) : Prop where
  high_nonneg : 0 ≤ c.highC
  high_lt_max : c.highC < c.maxC
  max_le : c.maxC ≤ 95
  min_lt_max : c.minRpm < c.maxRpm
  interval_pos : 0 < c.intervalS
  interval_le : c.intervalS ≤ maxIntervalS

theorem checkStructural_ok_iff {c : Config} : c.checkStructural = .ok () ↔ c.Structural := by
  unfold checkStructural
  constructor
  · intro h
    constructor <;> grind
  · rintro ⟨high_nonneg, high_lt_max, max_le, min_lt_max, interval_pos, interval_le⟩
    grind

/-- `validate` accepts exactly the structurally sound configs whose band the
hardware does not empty. -/
theorem validate_ok_iff {hw : Nat × Nat} {c : Config} :
    c.validate hw = .ok () ↔ c.Structural ∧ max c.minRpm hw.1 < min c.maxRpm hw.2 := by
  rw [← checkStructural_ok_iff]
  unfold validate clampedRpm
  cases c.checkStructural with
  | error e => simp
  | ok u =>
      simp only [true_and]
      split
      · next empty => exact ⟨nofun, fun band => absurd empty (Nat.not_le.mpr band)⟩
      · next band => exact ⟨fun _ => Nat.not_le.mp band, fun _ => rfl⟩

/-- The defaults are accepted on a fan that spins from 1200 to 7200 rpm. -/
theorem defaults_valid : defaults.validate (1200, 7200) = .ok () := rfl

end Config

/-- Config and the derived hysteresis floor. -/
structure ResolvedConfig where
  config : Config
  /-- `high - 3` -/
  lowC : Int
  deriving DecidableEq, Repr

/-- Derive `lowC`; saturating, so an unvalidated config cannot overflow here. -/
def ResolvedConfig.ofConfig (config : Config) : ResolvedConfig where
  config := config
  lowC := satI32 (config.highC - 3)

end Afanctl
