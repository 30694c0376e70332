import Afanctl.Config.Toml
import Afanctl.Doctor.Compare
import Afanctl.Doctor.Roundtrip
import Afanctl.Doctor.Systemctl
import Afanctl.Json.Text
import Afanctl.Sysfs.Discovery

/-!
`doctor`: the checklist.

One check follows the other on what discovery, the configuration, the service manager and the
daemon's state file give. Nothing is written, but for the write test where it is asked for.
The exit code says whether a check failed.
-/

namespace Afanctl

open Afanctl.Lib

/-! ### Single checks -/

/-- The ceiling of plausible readings. -/
def tjmaxC : Int := 100

section Sensors

-- `deg` prints a temperature, in °C to one decimal
variable (deg : MilliC → String)

/-- The verdict on readings: all failed, or one at the ceiling, is a failure. -/
def classifySensors (readings : List SensorReading) : Check :=
  let name := "sensor plausibility vs Tjmax 100 C"
  match readings.findSome? fun r =>
      (r.milliC.filter (tjmaxC * 1000 ≤ ·.val)).map fun m => (r.label, m) with
  | some (label, m) => .failing name s!"{label} reads {deg m} C (>= Tjmax {tjmaxC} C)"
  | none =>
      let total := readings.length
      let failed := readings.countP (·.milliC.isNone)
      let valid := total - failed
      match hottest readings with
      | none =>
          .failing name s!"no plausible reading among {total} sensor(s) (all failed/invalid)"
      | some m =>
          if 0 < failed then
            .warning name
              s!"t_eff {deg m} C from {valid}/{total} sensors ({failed} failed read(s))"
          else
            .passing name s!"t_eff {deg m} C from {total} sensor(s), all < Tjmax {tjmaxC} C"

/-- The check of the sensors, and the backend it leaves. -/
def sensorCheck {σ : Type} [Smc σ] (smc : σ) : Check × σ :=
  match Smc.readSensors smc with
  | (.error e, smc) => (.failing "sensor plausibility vs Tjmax 100 C" s!"read sensors: {e}", smc)
  | (.ok readings, smc) => (classifySensors deg readings, smc)

end Sensors

/-- The check of the configuration, against a hardware band if there is one. -/
def configCheck [Toml] (path : String) (text : FileText) (hw : Option (Nat × Nat)) : Check :=
  let name := "config validation"
  match Config.load path text with
  | .error e => .failing name s!"{e} (fix: correct the key named above)"
  | .ok (cfg, warnings) =>
      let provenance := if text = .missing then s!"defaults (no file at {path})" else path
      match hw.map cfg.validate with
      | some (.error e) => .failing name s!"{e} [{provenance}]"
      | _ =>
          if warnings = [] then .passing name s!"valid [{provenance}]"
          else
            let joined := "; ".intercalate warnings
            .warning name
              s!"valid with {warnings.length} unknown key(s): {joined} [{provenance}]"

namespace AbiAttrs

/-- The name of the generation. -/
def generation (abi : AbiAttrs) : String := if abi = legacy then "legacy" else "modern"

def kernelRange (abi : AbiAttrs) : String :=
  if abi = legacy then "kernel <= 7.2" else "kernel >= 7.3, commit 94f5081d"

end AbiAttrs

/-- The debug form of a text. -/
def debugText (s : String) : String := debugMode (some s)

namespace Opened

variable {δ : Type}

/-- The evidence for the bound generation. -/
def abiEvidence (o : Opened δ) : String :=
  s!"{o.abi.generation} ({o.abi.kernelRange}): {o.abi.modeAttr} + {o.abi.target}; AUTO restore " ++
    s!"token {debugText o.abi.auto}"

/-- The fan attributes are not only where the unit expects them. -/
def layoutChanged (t : Tree) (o : Opened δ) : Bool :=
  o.fanDir ≠ o.platformDir || (t.hwmonDirWithFanAttrs o.platformDir).isSome

/-- The adapter of an opened backend after a method of it. -/
def left {α : Type} (o : Opened δ) (out : α × SysfsSmc δ) : α × Opened δ :=
  (out.1, { o with toSysfsSmc := out.2 })

end Opened

/-! ### The checklist -/

/-- What the checks see besides the tree. -/
structure Surroundings where
  configPath : String
  config : FileText
  /-- `systemctl show` for the health of the unit -/
  unit : CommandOutput
  /-- `systemctl show` for the running daemon -/
  daemon : CommandOutput
  /-- `date`, for a timestamp -/
  date : String → CommandOutput
  /-- seconds of the last change of a file -/
  mtime : String → Option Int
  state : CmdFile

section Checklist

variable [SerdeJson] [Toml] (deg : MilliC → String)

/-- The checks that need no hardware. -/
def softChecks (hw : Option (Nat × Nat)) (around : Surroundings) : List Check :=
  [configCheck around.configPath around.config hw, systemdCheck around.unit,
    staleBinaryCheck around.date around.mtime around.daemon, daemonModeCheck around.state]

/-- The checklist of an opened backend, and the backend it leaves. -/
def diagnoseOpened {δ : Type} [Sysfs δ] (t : Tree) (around : Surroundings) (o : Opened δ) :
    List Check × Opened δ :=
  let restore := o.safeRestore
  let (sensors, o) := o.left (sensorCheck deg o.toSysfsSmc)
  let (lo, hi) := (o.hwMin, o.hwMax)
  ([.passing "applesmc + coretemp present" "devices discovered",
      .passing "applesmc ABI generation" o.abiEvidence,
      if restore.isSome then
        .passing "fan files present & writable" s!"bound {o.abiEvidence}"
      else
        .failing "fan files present & writable"
          ("the fan mode attribute is not writable (fix: run doctor as root; an unwritable mode " ++
            s!"attribute leaves L2 unarmed). Bound {o.abiEvidence}"),
      sensors,
      if 0 < lo ∧ lo < hi then .passing "fan1_min/max readback" s!"{lo}..{hi} rpm"
      else
        .failing "fan1_min/max readback"
          (s!"invalid hardware band {lo}..{hi} rpm (fix: check fan1_min/fan1_max — both " ++
            "survived the ABI conversion, but fan1_max is read-only on kernel >= 7.3)")] ++
    softChecks (some (lo, hi)) around ++
    [if o.layoutChanged t then
        .warning "applesmc layout unchanged"
          ("hwmon conversion detected: fan attrs under hwmon/* (fix: update the unit's " ++
            "ReadWritePaths, Q4)")
      else .passing "applesmc layout unchanged" "fan1_* directly in the applesmc platform dir",
      match restore with
      | some restore =>
          .passing "L2 fd armed"
            (s!"pre-opened O_WRONLY on the mode attribute; restore payload " ++
              s!"{debugText restore.bytes} ({o.abi.generation} ABI) — proven at daemon arm time")
      | none => .failing "L2 fd armed" "no death-path fd (fix: run doctor as root)"],
    o)

/-- The checklist where discovery failed. -/
def diagnoseFailed (around : Surroundings) (e : SmcError) : List Check :=
  [.failing "applesmc + coretemp present" (toString e),
      .failing "applesmc ABI generation" s!"undetermined: {e}",
      .failing "fan files present & writable" s!"discovery failed: {e}",
      .failing "sensor plausibility vs Tjmax 100 C" s!"discovery failed: {e}",
      .failing "fan1_min/max readback" s!"discovery failed: {e}"] ++
    softChecks none around ++
    [.warning "applesmc layout unchanged" "unknown: discovery failed",
      .failing "L2 fd armed" "hardware discovery failed"]

/-- The checklist, and the backend if there is one. -/
def diagnose {δ : Type} [Sysfs δ] (root : String) (t : Tree) (world : World δ)
    (around : Surroundings) : List Check × Option (Opened δ) :=
  match openAt root t world with
  | .ok o =>
      let (checks, o) := diagnoseOpened deg t around o
      (checks, some o)
  | .error e => (diagnoseFailed around e, none)

end Checklist

/-! ### The comparison and the run -/

section Sampling

variable {σ : Type} [Smc σ]

/-- One sample: the effective temperature and the fan's rpm, or none if the fan was not read. -/
def sampleFan (smc : σ) : Option (Option MilliC × Nat) × σ :=
  let (readings, smc) := Smc.readSensors smc
  let (fan, smc) := Smc.readFan smc
  (fan.toOption.map fun f => (readings.toOption.bind hottest, f.rpm), smc)

/-- So many more samples, each after a pause. -/
def samplesAfter (pass : σ → σ) : Nat → σ → List (Option (Option MilliC × Nat)) × σ
  | 0, smc => ([], smc)
  | n + 1, smc =>
      let (sample, smc) := sampleFan (pass smc)
      let (samples, smc) := samplesAfter pass n smc
      (sample :: samples, smc)

/-- Sample for so many polls, one at least, and compare. -/
def runCompare (pass : σ → σ) (secs : Nat) (cfg : ResolvedConfig) (smc : σ) :
    CompareReport × σ :=
  let (first, smc) := sampleFan smc
  let (rest, smc) := samplesAfter pass (max secs 1 - 1) smc
  let samples := first :: rest
  (compareFromTrace (samples.filterMap id) cfg (wrap32 (samples.countP (·.isNone))), smc)

end Sampling

/-- The whole result. -/
structure Report where
  checks : List Check
  compare : Option CompareReport

/-- Only a failed check drives the exit code. -/
def Report.exitCode (r : Report) : Nat := if r.checks.any (·.status == .fail) then 1 else 0

section Run

variable {δ : Type} [Sysfs δ]

/-- The write test where it is asked for. -/
def withRoundtrip (roundtrip : Bool) (checks : List Check) (smc : Option (Opened δ)) :
    List Check × Option (Opened δ) :=
  if roundtrip then
    match smc with
    | some o =>
        let out := roundtripHeld (SysfsSmc.hold 2) o.toSysfsSmc 2
        (checks ++ [out.2.1], some (o.left out.2).2)
    | none =>
        (checks ++ [.failing "roundtrip manual write test" "cannot run: hardware discovery failed"],
          none)
  else (checks, smc)

variable [SerdeJson] [Toml] (deg : MilliC → String)

/-- The comparison where it is asked for. -/
def withCompare (compareSecs : Option Nat) (around : Surroundings) (checks : List Check)
    (smc : Option (Opened δ)) : Report × Option (Opened δ) :=
  match compareSecs with
  | none => ({ checks := checks, compare := none }, smc)
  | some secs =>
      match smc, (Config.load around.configPath around.config).toOption with
      | some o, some (cfg, _) =>
          let interval := max cfg.intervalS 1
          let (report, o) := o.left
            (runCompare (SysfsSmc.hold interval) secs (.ofConfig cfg) o.toSysfsSmc)
          ({ checks := checks, compare := some report }, some o)
      | smc, _ =>
          ({ checks := checks ++ [.warning "curve comparison"
              "cannot run: hardware discovery or config invalid"], compare := none }, smc)

/-- The doctor suite. -/
def runAt (root : String) (t : Tree) (world : World δ) (around : Surroundings) (roundtrip : Bool)
    (compareSecs : Option Nat) : Report × Option (Opened δ) :=
  let (checks, smc) := diagnose deg root t world around
  let (checks, smc) := withRoundtrip roundtrip checks smc
  withCompare compareSecs around checks smc

end Run

/-! ### Every sample is accounted for -/

section Accounts

variable {σ : Type} [Smc σ]

end Accounts

/-! ### Which checks can fail -/

/-- A valid reading keeps the fold going. -/
theorem hottest_none_iff {readings : List SensorReading} :
    hottest readings = none ↔ ∀ r ∈ readings, r.milliC = none := by
  rw [← List.filterMap_eq_nil_iff]
  unfold hottest
  cases readings.filterMap (·.milliC) with
  | nil => exact ⟨fun _ => rfl, fun _ => rfl⟩
  | cons m ms =>
      refine ⟨fun lost => absurd lost ?_, fun none => by cases none⟩
      rw [List.foldl_cons]
      refine List.foldlRecOn (motive := (· ≠ none)) ms _ (Option.some_ne_none m) ?_
      intro best valid m' _
      cases best with
      | none => exact absurd rfl valid
      | some b =>
          simp only
          split <;> exact Option.some_ne_none _

/-- Readings that a check accepts: one is valid, and none at the ceiling. -/
structure Plausible (readings : List SensorReading) : Prop where
  valid : ∃ r ∈ readings, r.milliC ≠ none
  cool : ∀ r ∈ readings, ∀ m, r.milliC = some m → m.val < tjmaxC * 1000

theorem classifySensors_passes_iff {deg : MilliC → String} {readings : List SensorReading} :
    (classifySensors deg readings).status ≠ .fail ↔ Plausible readings := by
  unfold classifySensors
  simp only
  split
  · next label m found =>
      obtain ⟨r, mem, hot⟩ := List.exists_of_findSome?_eq_some found
      obtain ⟨m', met, -⟩ := Option.map_eq_some_iff.mp hot
      obtain ⟨milli, high⟩ := Option.filter_eq_some_iff.mp met
      refine ⟨fun passes => absurd rfl passes, fun credible => ?_⟩
      exact absurd (credible.cool r mem m' milli) (Int.not_lt.mpr (of_decide_eq_true high))
  · next none =>
      have cool : ∀ r ∈ readings, ∀ m, r.milliC = some m → m.val < tjmaxC * 1000 := by
        intro r mem m milli
        have missed := List.findSome?_eq_none_iff.mp none r mem
        simpa [milli] using missed
      cases lost : hottest readings with
      | none =>
          refine ⟨fun passes => absurd rfl passes, fun credible => ?_⟩
          obtain ⟨r, mem, valid⟩ := credible.valid
          exact absurd (hottest_none_iff.mp lost r mem) valid
      | some m =>
          have valid : ∃ r ∈ readings, r.milliC ≠ Option.none := by
            apply Classical.byContradiction
            intro all
            have lost' : hottest readings = Option.none := hottest_none_iff.mpr fun r mem =>
              Classical.byContradiction fun valid => all ⟨r, mem, valid⟩
            rw [lost] at lost'
            cases lost'
          refine ⟨fun _ => ⟨valid, cool⟩, fun _ => ?_⟩
          simp only
          split <;> nofun

theorem configCheck_passes_iff [Toml] {path : String} {text : FileText}
    {hw : Option (Nat × Nat)} :
    (configCheck path text hw).status ≠ .fail ↔
      ∃ cfg warnings, Config.load path text = .ok (cfg, warnings) ∧
        ∀ band, hw = some band → cfg.validate band = .ok () := by
  unfold configCheck
  simp only
  split
  · next e failed =>
      refine ⟨fun passes => absurd rfl passes, ?_⟩
      rintro ⟨cfg, warnings, loaded, -⟩
      rw [failed] at loaded
      cases loaded
  · next cfg warnings loaded =>
      split
      · next e invalid =>
          refine ⟨fun passes => absurd rfl passes, ?_⟩
          rintro ⟨cfg', warnings', loaded', valid⟩
          cases loaded.symm.trans loaded'
          obtain ⟨band, found, failed⟩ := Option.map_eq_some_iff.mp invalid
          rw [valid band found] at failed
          cases failed
      · next accepted =>
          refine ⟨fun _ => ⟨cfg, warnings, loaded, ?_⟩, fun _ => ?_⟩
          · rintro band rfl
            cases valid : cfg.validate band with
            | ok done => rfl
            | error e => exact absurd (congrArg some valid) (accepted e)
          · split <;> nofun

theorem staleBinaryCheck_passes (date : String → CommandOutput) (mtime : String → Option Int)
    (output : CommandOutput) : (staleBinaryCheck date mtime output).status ≠ .fail := by
  cases output with
  | ok text =>
      simp only [staleBinaryCheck]
      split
      · nofun
      · unfold classifyStaleBinary
        split
        · split <;> nofun
        · nofun
  | exited status => nofun
  | unavailable e => nofun

theorem daemonModeCheck_passes [SerdeJson] (file : CmdFile) :
    (daemonModeCheck file).status ≠ .fail := by
  unfold daemonModeCheck classifyDaemonMode
  split
  · nofun
  · next state _ =>
      simp only
      generalize (if stateFlag "monitor_only" state then ["monitor_only=true"] else []) ++
        (if stateFlag "auto_restore_pending" state then ["auto_restore_pending=true"] else [])
        = flags
      split
      · nofun
      · split <;> nofun

theorem systemdCheck_passes_iff {output : CommandOutput} : (systemdCheck output).status ≠ .fail ↔
    ∀ text, output = .ok text → ¬ Misconfigured fun key => showField key text := by
  cases output with
  | ok text =>
      simp only [systemdCheck, CommandOutput.ok.injEq, forall_eq']
      exact not_congr classifySystemdShow_fail_iff
  | exited status => exact ⟨nofun, nofun⟩
  | unavailable e => exact ⟨nofun, nofun⟩

/-! ### The exit code -/

/-- No check of a list failed. -/
def AllPass (checks : List Check) : Prop := ∀ check ∈ checks, check.status ≠ .fail

theorem exitCode_zero_iff {r : Report} : r.exitCode = 0 ↔ AllPass r.checks := by
  unfold Report.exitCode AllPass
  split
  · next failed =>
      obtain ⟨check, mem, fails⟩ := List.any_eq_true.mp failed
      exact ⟨nofun, fun all => absurd (eq_of_beq fails) (all check mem)⟩
  · next passed =>
      refine ⟨fun _ check mem fails => passed ?_, fun _ => rfl⟩
      exact List.any_eq_true.mpr ⟨check, mem, by rw [fails]; rfl⟩

theorem allPass_append {checks checks' : List Check} :
    AllPass (checks ++ checks') ↔ AllPass checks ∧ AllPass checks' := List.forall_mem_append

theorem allPass_cons {check : Check} {checks : List Check} :
    AllPass (check :: checks) ↔ check.status ≠ .fail ∧ AllPass checks := List.forall_mem_cons

section Verdict

variable {δ : Type} [Sysfs δ] [SerdeJson] [Toml] {deg : MilliC → String} {around : Surroundings}
  {hw : Option (Nat × Nat)} {t : Tree} {root : String} {world : World δ} {o : Opened δ}

omit [Sysfs δ] in
theorem softChecks_pass_iff : AllPass (softChecks hw around) ↔
    (∃ cfg warnings, Config.load around.configPath around.config = .ok (cfg, warnings) ∧
      ∀ band, hw = some band → cfg.validate band = .ok ()) ∧
    ∀ text, around.unit = .ok text → ¬ Misconfigured fun key => showField key text := by
  unfold softChecks
  simp only [allPass_cons, configCheck_passes_iff, systemdCheck_passes_iff]
  constructor
  · exact fun ⟨config, unit, _⟩ => ⟨config, unit⟩
  · exact fun ⟨config, unit⟩ =>
      ⟨config, unit, staleBinaryCheck_passes _ _ _, daemonModeCheck_passes _, nofun⟩

/-- What the checklist asks of an opened backend. -/
structure Fit (around : Surroundings) (o : Opened δ) : Prop where
  writable : o.restoreFile ≠ none
  sensors : Plausible (readSensorFiles o.sensors o.world).1
  spins : 0 < o.hwMin
  /-- the daemon can be constructed on it -/
  config : ∃ cfg warnings, Config.load around.configPath around.config = .ok (cfg, warnings) ∧
    ∀ start paths, ∃ s, Supervisor.new o.toSysfsSmc (.ofConfig cfg) start paths = .ok s
  unit : ∀ text, around.unit = .ok text → ¬ Misconfigured fun key => showField key text

omit [Sysfs δ] [SerdeJson] [Toml] in
theorem safeRestore_isSome : o.safeRestore.isSome ↔ o.restoreFile ≠ none := by
  unfold SysfsSmc.safeRestore
  rw [Option.isSome_map, Option.isSome_iff_ne_none]

omit [SerdeJson] [Toml] in
/-- The configuration passes exactly if the daemon can be constructed with it. -/
theorem config_constructs {cfg : Config} :
    (∀ band, some (o.hwMin, o.hwMax) = some band → cfg.validate band = .ok ()) ↔
      ∀ start paths, ∃ s, Supervisor.new o.toSysfsSmc (.ofConfig cfg) start paths = .ok s := by
  constructor
  · intro valid start paths
    exact ⟨_, Supervisor.new_eq_ok.mpr ⟨valid _ rfl, rfl⟩⟩
  · rintro constructs _ ⟨⟩
    obtain ⟨s, built⟩ := constructs .observe ⟨"", "", ""⟩
    exact (Supervisor.new_eq_ok.mp built).1

theorem diagnoseOpened_pass_iff :
    AllPass (diagnoseOpened deg t around o).1 ↔ Fit around o := by
  have read : (sensorCheck deg o.toSysfsSmc).1
      = classifySensors deg (readSensorFiles o.sensors o.world).1 := rfl
  have same : (sensorCheck deg o.toSysfsSmc).2.hwMin = o.hwMin ∧
      (sensorCheck deg o.toSysfsSmc).2.hwMax = o.hwMax := ⟨rfl, rfl⟩
  unfold diagnoseOpened
  simp only [allPass_append, allPass_cons, softChecks_pass_iff, Opened.left, read,
    classifySensors_passes_iff, same, config_constructs]
  constructor
  · rintro ⟨⟨⟨-, -, writable, credible, spins, -⟩, config, unit⟩, -⟩
    refine ⟨?_, credible, ?_, config, unit⟩
    · apply safeRestore_isSome.mp
      apply Classical.byContradiction
      intro absent
      rw [if_neg absent] at writable
      exact writable rfl
    · apply Classical.byContradiction
      intro still
      rw [if_neg fun band => still band.1] at spins
      exact spins rfl
  · rintro ⟨writable, credible, spins, config, unit⟩
    have armed := safeRestore_isSome.mpr writable
    have band : 0 < o.hwMin ∧ o.hwMin < o.hwMax := by
      obtain ⟨cfg, warnings, -, constructs⟩ := config
      have valid := config_constructs.mpr constructs _ rfl
      have inside := (Config.validate_ok_iff.mp valid).2
      exact ⟨spins, by omega⟩
    refine ⟨⟨⟨nofun, nofun, ?_, credible, ?_, nofun⟩, config, unit⟩, ?_, ?_, nofun⟩
    · rw [if_pos armed]
      nofun
    · rw [if_pos band]
      nofun
    · split <;> nofun
    · split
      · nofun
      · next absent =>
          rw [absent] at armed
          cases armed

theorem diagnoseFailed_fails (around : Surroundings) (e : SmcError) :
    ¬ AllPass (diagnoseFailed around e) := by
  intro all
  exact all _ List.mem_cons_self rfl

omit [SerdeJson] in
/-- A comparison fails nothing. -/
theorem withCompare_pass_iff {compareSecs : Option Nat} {checks : List Check}
    {smc : Option (Opened δ)} :
    AllPass (withCompare compareSecs around checks smc).1.checks ↔ AllPass checks := by
  unfold withCompare
  split
  · exact Iff.rfl
  · split
    · exact Iff.rfl
    · simp only [allPass_append]
      refine ⟨And.left, fun all => ⟨all, ?_⟩⟩
      simp only [allPass_cons]
      exact ⟨nofun, nofun⟩

omit [SerdeJson] [Toml] in
/-- The write test counts where it is asked for. -/
theorem withRoundtrip_pass_iff {roundtrip : Bool} {checks : List Check} :
    AllPass (withRoundtrip roundtrip checks (some o)).1 ↔ AllPass checks ∧
      (roundtrip = true →
        (roundtripHeld (SysfsSmc.hold 2) o.toSysfsSmc 2).2.1.status ≠ .fail) := by
  unfold withRoundtrip
  cases roundtrip with
  | true =>
      simp only [if_true, allPass_append, allPass_cons, forall_const]
      exact ⟨fun ⟨all, test, _⟩ => ⟨all, test⟩, fun ⟨all, test⟩ => ⟨all, test, nofun⟩⟩
  | false =>
      simp only [Bool.false_eq_true, if_false]
      exact ⟨fun all => ⟨all, nofun⟩, And.left⟩

/-- `doctor` exits with 0 exactly if there is an adapter to open whose descriptor, readings and
band are usable, on which the daemon can be constructed with the configuration, and whose unit
is not misconfigured; and if the write test passes, where it is asked for. -/
theorem doctor_exits_iff (deg : MilliC → String) (root : String) (t : Tree) (world : World δ)
    (around : Surroundings) (roundtrip : Bool) (compareSecs : Option Nat) :
    (runAt deg root t world around roundtrip compareSecs).1.exitCode = 0 ↔
      ∃ o : Opened δ, openAt root t world = .ok o ∧ Fit around o ∧
        (roundtrip = true → (roundtripHeld (SysfsSmc.hold 2)
          (diagnoseOpened deg t around o).2.toSysfsSmc 2).2.1.status ≠ .fail) := by
  rw [exitCode_zero_iff]
  unfold runAt diagnose
  simp only [withCompare_pass_iff]
  cases openAt root t world with
  | error e =>
      refine ⟨fun all => ?_, fun ⟨_, found, _⟩ => by cases found⟩
      refine absurd ?_ (diagnoseFailed_fails around e)
      unfold withRoundtrip at all
      cases roundtrip with
      | true => exact (allPass_append.mp all).1
      | false => exact all
  | ok o =>
      simp only [withRoundtrip_pass_iff, diagnoseOpened_pass_iff, Except.ok.injEq,
        exists_eq_left']

end Verdict

/-! ### What is done to the device -/

section Quiet

variable {δ : Type} [Sysfs δ]

/-- `w'` is `w` after operations that write nothing. -/
abbrev World.Watched (w w' : World δ) : Prop := World.Does (fun o => ¬ o.writes) 0 w w'

omit [Sysfs δ] in
theorem watched_of_serviced {op : Op} {s s' : SysfsSmc δ} (serviced : SysfsSmc.Serviced op s s')
    (reads : ∀ o, s.Touches op o → ¬ o.writes) : World.Watched s.world s'.world := by
  obtain ⟨-, ops, journal, journals⟩ := serviced
  have quiet : ∀ o ∈ ops, ¬ o.writes := fun o mem => reads o (journals.touches o mem)
  exact ⟨ops, journal, quiet, Nat.le_of_eq (List.countP_eq_zero.mpr quiet)⟩

theorem watched_readSensors (s : SysfsSmc δ) :
    World.Watched s.world (Smc.readSensors s).2.world := by
  refine watched_of_serviced (SysfsSmc.serviced_readSensors s) ?_
  rintro o ⟨⟩
  nofun

theorem watched_readFan (s : SysfsSmc δ) : World.Watched s.world (Smc.readFan s).2.world := by
  refine watched_of_serviced (SysfsSmc.serviced_readFan s) ?_
  rintro o (_ | _) <;> nofun

theorem watched_hold (seconds : Nat) (s : SysfsSmc δ) :
    World.Watched s.world (s.hold seconds).world := World.does_sleep nofun s.world

theorem watched_sampleFan (s : SysfsSmc δ) : World.Watched s.world (sampleFan s).2.world :=
  (watched_readSensors s).trans (watched_readFan _)

theorem watched_samplesAfter (seconds n : Nat) (s : SysfsSmc δ) :
    World.Watched s.world (samplesAfter (SysfsSmc.hold seconds) n s).2.world := by
  induction n generalizing s with
  | zero => exact World.does_refl _
  | succ n ih =>
      have here := (watched_hold seconds s).trans (watched_sampleFan (s.hold seconds))
      exact here.trans (ih _)

theorem watched_runCompare (seconds secs : Nat) (cfg : ResolvedConfig) (s : SysfsSmc δ) :
    World.Watched s.world (runCompare (SysfsSmc.hold seconds) secs cfg s).2.world :=
  (watched_sampleFan s).trans (watched_samplesAfter seconds _ _)

omit [Sysfs δ] in
/-- Opening asks nothing of the device. -/
theorem openAt_world {root : String} {t : Tree} {world : World δ} {o : Opened δ}
    (opened : openAt root t world = .ok o) : o.world = world := by
  unfold openAt at opened
  obtain ⟨fanDir, -, rest⟩ := bind_ok_iff.mp opened
  split at rest
  · cases rest
  · obtain ⟨hwMin, -, rest⟩ := bind_ok_iff.mp rest
    obtain ⟨hwMax, -, rest⟩ := bind_ok_iff.mp rest
    split at rest
    · obtain ⟨sensors, -, same⟩ := bind_ok_iff.mp rest
      cases same
      rfl
    · cases rest

variable [SerdeJson] [Toml]

omit [SerdeJson] in
theorem watched_withCompare {compareSecs : Option Nat} {around : Surroundings}
    {checks : List Check} {smc : Option (Opened δ)} {o : Opened δ}
    (left : (withCompare compareSecs around checks smc).2 = some o) :
    ∃ o', smc = some o' ∧ World.Watched o'.world o.world := by
  unfold withCompare at left
  split at left
  · exact ⟨o, left, World.does_refl _⟩
  · next secs =>
    split at left
    · next o' cfg _ _ =>
        cases left
        exact ⟨o', rfl, watched_runCompare (max cfg.intervalS 1) secs (.ofConfig cfg) o'.toSysfsSmc⟩
    · exact ⟨o, left, World.does_refl _⟩

/-- Without the write test `doctor` writes nothing, however long it compares: the backend it
opened has only been read. -/
theorem doctor_watches (deg : MilliC → String) (root : String) (t : Tree) (world : World δ)
    (around : Surroundings) (compareSecs : Option Nat) :
    ∀ o ∈ (runAt deg root t world around false compareSecs).2,
      ∃ ops, o.world.journal = world.journal ++ ops ∧ ∀ op ∈ ops, ¬ op.writes := by
  intro o left
  obtain ⟨o', found, compared⟩ := watched_withCompare left
  cases opened : openAt root t world with
  | error e =>
      rw [opened] at found
      cases found
  | ok o'' =>
      rw [opened] at found
      cases found
      have sensed : World.Watched o''.world (Smc.readSensors o''.toSysfsSmc).2.world :=
        watched_readSensors o''.toSysfsSmc
      rw [openAt_world opened] at sensed
      obtain ⟨ops, journal, quiet, -⟩ := sensed.trans compared
      exact ⟨ops, journal, quiet⟩

end Quiet

section Concrete

/-- Without a config file, a unit or a daemon. -/
def bare : Surroundings where
  configPath := "/etc/afanctl.toml"
  config := .missing
  unit := .unavailable "No such file or directory (os error 2)"
  daemon := .unavailable "No such file or directory (os error 2)"
  date _ := .exited "exit status: 1"
  mtime _ := none
  state := .absent

/-- `doctor --compare` for two polls on the tree of two sensor directories. -/
def comparing : Report × Option (Opened Shelf) :=
  @runAt _ _ flatJson defaultsToml (fun m => toString m.val) "/sys" (twoDirs id)
    Shelf.adapter.world bare false (some 2)

theorem doctor_watches_comparing :
    ∃ o ∈ comparing.2,
      ∃ ops, o.world.journal = Shelf.adapter.world.journal ++ ops ∧ ∀ op ∈ ops, ¬ op.writes := by
  have opens : comparing.2.isSome := by decide +kernel
  obtain ⟨o, left⟩ := Option.isSome_iff_exists.mp opens
  exact ⟨o, left, @doctor_watches _ _ flatJson defaultsToml _ _ _ _ bare (some 2) o left⟩

end Concrete

end Afanctl
