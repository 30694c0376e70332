import Afanctl.Lib.Approach
import Afanctl.Safety.Working
import Afanctl.Sysfs.Twin

/-!
The plant as a fan that works.

The adapter over a plant shows a working fan, if the tach follows the speed register at once or
faster than a tach that counts as motionless.
-/

namespace Afanctl

open Afanctl.Lib

namespace Plant

variable (d : Plant)

/-- The tach moves, and by more than one that counts as motionless. -/
def Agile : Prop := ∀ rate, d.lagRate = some rate → d.frozen = false ∧ stallTachEpsilonRpm < rate

/-- The speed that the fan goes to in Manual. -/
def register : Nat := if d.lagRate = none then d.rpm else d.outReg

@[simp] theorem turned_lagRate : d.turned.lagRate = d.lagRate := by
  unfold turned
  split <;> first | rfl | (split <;> rfl)

@[simp] theorem turned_frozen : d.turned.frozen = d.frozen := by
  unfold turned
  split <;> first | rfl | (split <;> rfl)

@[simp] theorem driven_lagRate (speed : Nat) : (d.driven speed).lagRate = d.lagRate := by
  unfold driven
  split <;> rfl

@[simp] theorem driven_frozen (speed : Nat) : (d.driven speed).frozen = d.frozen := by
  unfold driven
  split <;> rfl

@[simp] theorem driven_mode (speed : Nat) : (d.driven speed).mode = d.mode := by
  unfold driven
  split <;> rfl

variable {d}

/-- A turn moves the tach toward the register, and nothing else in Manual. -/
theorem turned_manual (agile : d.Agile) (manual : d.mode = .manual) :
    d.turned.register = d.register ∧
      (absDiff d.turned.rpm d.register = 0 ∨
        d.lagRate ≠ none ∧ stallTachEpsilonRpm < absDiff d.turned.rpm d.rpm) := by
  cases lag : d.lagRate with
  | none =>
      have here : d.turned = d := by simp [turned, lag]
      rw [here]
      exact ⟨rfl, .inl (by simp [register, lag])⟩
  | some rate =>
      obtain ⟨moves, fast⟩ := agile rate lag
      have here : d.turned = { d with rpm := toward rate d.rpm d.outReg } := by
        simp [turned, lag, manual, moves, toward]
      have outReg : d.register = d.outReg := by simp [register, lag]
      rw [here, outReg]
      refine ⟨by simp [register, lag], ?_⟩
      rcases toward_full rate d.rpm d.outReg with arrives | full
      · rw [arrives]
        exact .inl (absDiff_self _)
      · exact .inr ⟨Option.some_ne_none rate, Nat.lt_of_lt_of_eq fast full.symm⟩

/-- No turn takes a register out of its `u32`. -/
theorem turned_le {top : Nat} (rpm : d.rpm ≤ top) (outReg : d.outReg ≤ top) :
    d.turned.rpm ≤ top ∧ d.turned.outReg ≤ top := by
  unfold turned
  split
  · exact ⟨rpm, outReg⟩
  · exact ⟨rpm, rpm⟩
  · split
    · exact ⟨rpm, outReg⟩
    · refine ⟨?_, outReg⟩
      simp only
      split <;> omega

/-- A fan in Manual takes a speed. -/
theorem driven_manual (manual : d.mode = .manual) (speed : Nat) :
    (d.driven speed).outReg = speed ∧ (d.driven speed).register = speed ∧
      (d.lagRate ≠ none → (d.driven speed).rpm = d.rpm) ∧
      (d.driven speed).rpm ≤ max d.rpm speed := by
  cases lag : d.lagRate with
  | none =>
      have here : d.driven speed = { d with rpm := speed, outReg := speed } := by
        simp [driven, lag]
      rw [here]
      exact ⟨rfl, by simp [register, lag], fun lags => absurd rfl lags, Nat.le_max_right _ _⟩
  | some rate =>
      have here : d.driven speed = { d with outReg := speed } := by simp [driven, lag, manual]
      rw [here]
      exact ⟨rfl, by simp [register, lag], fun _ => rfl, Nat.le_max_left _ _⟩

end Plant

namespace SysfsSmc

/-- The adapter over an agile plant, and what there is to know of its fan. -/
structure Spins (lo hi : Nat) (readings : List SensorReading) (a : SysfsSmc Plant) (fan : Fan) :
    Prop where
  fits : a.Fits a.world.device
  hwMin : a.hwMin = lo
  hwMax : a.hwMax = hi
  readings : a.sensors.map a.world.device.reading = readings
  agile : a.world.device.Agile
  mode : a.world.device.mode = fan.mode
  target : fan.mode = .manual → a.world.device.register = fan.target
  seen : a.world.device.lagRate ≠ none → a.world.device.rpm = fan.seen
  small : a.world.device.rpm ≤ u32Max ∧ a.world.device.outReg ≤ u32Max

namespace Spins

variable {lo hi : Nat} {readings : List SensorReading} {a : SysfsSmc Plant} {fan fan' : Fan}
  {d : Plant} {w : World Plant}

/-- What only moves registers leaves the rest to be shown. -/
theorem moved (spins : Spins lo hi readings a fan) (here : w.device = d)
    (fanDir : d.fanDir = a.world.device.fanDir) (abi : d.abi = a.world.device.abi)
    (temps : d.temps = a.world.device.temps) (lagRate : d.lagRate = a.world.device.lagRate)
    (frozen : d.frozen = a.world.device.frozen) (mode : d.mode = fan'.mode)
    (target : fan'.mode = .manual → d.register = fan'.target)
    (seen : d.lagRate ≠ none → d.rpm = fan'.seen) (small : d.rpm ≤ u32Max ∧ d.outReg ≤ u32Max) :
    Spins lo hi readings { a with world := w } fan' := by
  subst here
  have reading : w.device.reading = a.world.device.reading := by
    unfold Plant.reading Plant.celsius
    rw [temps]
  constructor
  · exact spins.fits.moved rfl fanDir abi
  · exact spins.hwMin
  · exact spins.hwMax
  · show a.sensors.map w.device.reading = readings
    rw [reading]
    exact spins.readings
  · intro rate lag
    obtain ⟨moves, fast⟩ := spins.agile rate (lagRate.symm.trans lag)
    exact ⟨frozen.trans moves, fast⟩
  · exact mode
  · exact target
  · exact seen
  · exact small

theorem readSensors (spins : Spins lo hi readings a fan) :
    (Smc.readSensors a).1 = .ok readings ∧
      Spins lo hi readings (Smc.readSensors a).2 fan := by
  obtain ⟨w, read, left⟩ := spins.fits.readSensorFiles
  have real : Smc.readSensors a = (.ok (readSensorFiles a.sensors a.world).1,
      { a with world := (readSensorFiles a.sensors a.world).2 }) := rfl
  rw [real, read, spins.readings]
  exact ⟨rfl, spins.moved left rfl rfl rfl rfl rfl spins.mode spins.target spins.seen spins.small⟩

theorem readFan (spins : Spins lo hi readings a fan) :
    ∃ rpm, (Smc.readFan a).1 = .ok ⟨rpm, fan.mode⟩ ∧
      Spins lo hi readings (Smc.readFan a).2 { fan with seen := rpm } ∧
      (fan.mode = .manual → fan.Follows rpm) := by
  obtain ⟨rpm, outReg⟩ := Plant.turned_le spins.small.1 spins.small.2
  obtain ⟨w, read, left⟩ := spins.fits.readFan rpm
  have real : Smc.readFan a = (a.readFan.1, { a with world := a.readFan.2 }) := rfl
  rw [real, read, spins.mode]
  refine ⟨_, rfl, ?_, ?_⟩
  · refine spins.moved left (Plant.turned_fanDir _) (Plant.turned_abi _) (Plant.turned_temps _)
      (Plant.turned_lagRate _) (Plant.turned_frozen _) ?_ ?_ (fun _ => rfl) ⟨rpm, outReg⟩
    · rw [Plant.turned_mode]
      exact spins.mode
    · intro manual
      rw [(Plant.turned_manual spins.agile (spins.mode.trans manual)).1]
      exact spins.target manual
  · intro manual
    obtain ⟨-, arrives | ⟨lags, moves⟩⟩ :=
      Plant.turned_manual spins.agile (spins.mode.trans manual)
    · rw [spins.target manual] at arrives
      exact .inl (arrives ▸ Nat.zero_le _)
    · rw [spins.seen lags] at moves
      exact .inr moves

theorem writeSpeed (spins : Spins lo hi readings a fan) (rpm : Nat) (manual : fan.mode = .manual) :
    (Smc.writeSpeed rpm a).1 = .ok (clamp lo hi rpm) ∧
      Spins lo hi readings (Smc.writeSpeed rpm a).2 { fan with target := clamp lo hi rpm } := by
  have capped : clamp a.hwMin a.hwMax rpm ≤ u32Max :=
    Nat.le_trans (clamp_mem a.band rpm).2 spins.fits.ceiling
  obtain ⟨outReg, register, tach, bound⟩ := Plant.driven_manual
    (spins.mode.trans manual) (clamp a.hwMin a.hwMax rpm)
  obtain ⟨w, written, left⟩ := spins.fits.writeSpeed rpm (Nat.le_trans (Nat.le_of_eq outReg) capped)
  rw [outReg, absDiff_self, if_pos (Nat.zero_le _), spins.hwMin, spins.hwMax] at written
  rw [spins.hwMin, spins.hwMax] at left register outReg tach bound capped
  have real : Smc.writeSpeed rpm a
      = ((a.writeSpeed rpm).1, { a with world := (a.writeSpeed rpm).2 }) := rfl
  rw [real, written]
  refine ⟨rfl, spins.moved left (Plant.driven_fanDir _ _) (Plant.driven_abi _ _)
    (Plant.driven_temps _ _) (Plant.driven_lagRate _ _) (Plant.driven_frozen _ _) ?_ ?_ ?_ ?_⟩
  · rw [Plant.driven_mode]
    exact spins.mode
  · exact fun _ => register
  · intro lags
    rw [Plant.driven_lagRate] at lags
    exact (tach lags).trans (spins.seen lags)
  · exact ⟨Nat.le_trans bound (Nat.max_le.mpr ⟨spins.small.1, capped⟩),
      Nat.le_trans (Nat.le_of_eq outReg) capped⟩

theorem switched (spins : Spins lo hi readings a fan) (mode : FanMode)
    (here : w.device = a.world.device.switched mode) :
    ∃ target, Spins lo hi readings { a with world := w }
      { fan with mode := mode, target := target } := by
  refine ⟨(a.world.device.switched mode).register,
    spins.moved here rfl rfl rfl rfl rfl rfl (fun _ => rfl) spins.seen ⟨spins.small.1, ?_⟩⟩
  show (if a.world.device.lagRate.isSome ∧ mode = .auto then a.world.device.rpm
    else a.world.device.outReg) ≤ u32Max
  split
  · exact spins.small.1
  · exact spins.small.2

theorem setMode (spins : Spins lo hi readings a fan) (mode : FanMode) :
    (Smc.setMode mode a).1 = .ok mode ∧
      ∃ target, Spins lo hi readings (Smc.setMode mode a).2
        { fan with mode := mode, target := target } := by
  obtain ⟨w, written, left⟩ := spins.fits.setMode mode
  have real : Smc.setMode mode a = ((a.setMode mode).1, { a with world := (a.setMode mode).2 }) :=
    rfl
  rw [real, written]
  exact ⟨rfl, spins.switched mode left⟩

/-- The probe leaves the fan in Auto, or without a descriptor leaves it alone. -/
theorem probe (spins : Spins lo hi readings a fan) :
    ∃ fan', Spins lo hi readings (Smc.probeSafeRestore a).2 fan' ∧
      (fan.mode = .auto → fan'.mode = .auto) := by
  have real : (Smc.probeSafeRestore a).2 = { a with world := a.probeSafeRestore.2 } := rfl
  rw [real]
  rcases a.restoreFile.eq_none_or_eq_some with held | ⟨fd, held⟩
  · have idle : a.probeSafeRestore.2 = a.world := by simp [SysfsSmc.probeSafeRestore, held]
    rw [idle]
    exact ⟨fan, spins, id⟩
  · obtain ⟨w, proven, left⟩ := spins.fits.probeSafeRestore held
    rw [proven]
    obtain ⟨target, spins⟩ := spins.switched .auto left
    exact ⟨_, spins, fun _ => rfl⟩

end Spins

/-- Adapters over agile plants with these readings show working fans. -/
def actuator (lo hi : Nat) (band : lo ≤ hi) (readings : List SensorReading) :
    Actuator (SysfsSmc Plant) where
  lo := lo
  hi := hi
  band := band
  shows := Spins lo hi readings
  hwMin := fun spins => spins.hwMin
  hwMax := fun spins => spins.hwMax
  readSensors := fun spins => ⟨readings, spins.readSensors⟩
  readFan := fun spins => spins.readFan
  writeSpeed := fun rpm spins => spins.writeSpeed rpm
  setMode := fun mode spins => spins.setMode mode
  probe := fun spins => spins.probe

end SysfsSmc

/-- The fan of the lagging plant works. -/
theorem lagging_spins : SysfsSmc.Spins 1200 7200 [⟨"Core 0", some ⟨70000⟩⟩] laggingAdapter
    ⟨.auto, 0, 2000⟩ where
  fits := lagging_twin.fits
  hwMin := rfl
  hwMax := rfl
  readings := by decide
  agile := by
    intro rate lag
    cases lag
    exact ⟨rfl, by decide⟩
  mode := rfl
  target := nofun
  seen := fun _ => rfl
  small := by decide

section Concrete

attribute [local instance] Bench.json

namespace Supervisor

/-- The daemon over the adapter, started. -/
def adapterDaemon : Supervisor (SysfsSmc Plant) :=
  (wired laggingAdapter Bench.config .curve Bench.paths).start Bench.quiet

/-- At 70 °C it holds the lagging fan at 2200 rpm. -/
theorem working_fan_kept_lagging :
    ∃ fan, SysfsSmc.Spins 1200 7200 [⟨"Core 0", some ⟨70000⟩⟩]
        (loop.run [Bench.quiet, Bench.quiet, Bench.quiet] adapterDaemon).smc fan ∧
      fan.held = some 2200 := by
  have folded : ((reports.trace [Bench.quiet, Bench.quiet, Bench.quiet]
      adapterDaemon).map Prod.fst).foldl
      (StepReport.holds 1200 7200 Bench.config.config.maxRpm) none = some 2200 := by decide +kernel
  have kept := working_fan_kept
    (A := SysfsSmc.actuator 1200 7200 (by decide) [⟨"Core 0", some ⟨70000⟩⟩]) lagging_spins
    Bench.config .curve Bench.paths Bench.quiet [Bench.quiet, Bench.quiet, Bench.quiet]
  obtain ⟨fan, spins, held⟩ := kept.2.2.2
  exact ⟨fan, spins, held.trans folded⟩

end Supervisor

end Concrete

end Afanctl
