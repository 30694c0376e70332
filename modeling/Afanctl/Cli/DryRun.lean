import Afanctl.Bench
import Afanctl.Policy.Run
import Afanctl.Sysfs.Mock
import Afanctl.Verbs

/-!
`once --at-temp` and its `--dry-run`.

Both decide on one simulated reading. The dry run feeds it to the controller as it is; the
simulated poll takes it through the mock backend, which rejects what no sensor can read.
-/

namespace Afanctl

open Afanctl.Lib

/-- The reading of `--at-temp`, at whole °C. -/
def simulatedReading (c : Int) : SensorReading where
  label := "simulated (--at-temp)"
  milliC := some (.fromC c)

/-- What `once --dry-run` decides on: the simulated reading, or what opening the backend and
reading its sensors gives. -/
def dryRunReadings {σ : Type} [Smc σ] (atTemp : Option Int) (opened : Except SmcError σ) :
    Except CliError (List SensorReading) :=
  match atTemp with
  | some c => .ok [simulatedReading c]
  | none => match opened with
    | .error e => .error (.runtime (toString e))
    | .ok smc => match (Smc.readSensors smc).1 with
      | .error e => .error (.runtime (toString e))
      | .ok readings => .ok readings

/-- `once --dry-run`: the controller step alone. -/
def dryRunReport {σ : Type} [Smc σ] (atTemp : Option Int) (opened : Except SmcError σ)
    (config : Config) : Except CliError StepReport :=
  match dryRunReadings atTemp opened with
  | .error e => .error e
  | .ok readings =>
      let (decision, controller) := (Controller.new (.ofConfig config)).stepCurve readings
      .ok
        { mode := .curve, tEff := controller.tEff, decision := decision, appliedRpm := none,
          verified := false, notes := ["dry-run: decision only, no smc writes"] }

section Step

variable [SerdeJson]

/-- The mock of `once --at-temp`, over the configured band. -/
def simulated (c : Int) (config : Config) : MockSmc :=
  (MockSmc.new config.minRpm config.maxRpm).setSensors [simulatedReading c]

/-- `once --at-temp`: one poll in Curve over the mock. -/
def simulatedReport (c : Int) (config : Config) (paths : RuntimePaths) (host : Host) :
    Except CliError StepReport :=
  match Supervisor.new (simulated c config) (.ofConfig config) .curve paths with
  | .error e => .error (.runtime (toString e))
  | .ok supervisor => .ok (supervisor.stepOnce host).report

/-- `once` without `--dry-run`. -/
def stepOnceReport {σ : Type} [Smc σ] (atTemp : Option Int) (opened : Except SmcError σ)
    (reopen : σ → Except SmcError σ) (config : Config) (paths : RuntimePaths) (host : Host) :
    List Deed × Except CliError StepReport :=
  match atTemp with
  | some c =>
      let result := simulatedReport c config paths host
      ([.reported result.isOk], result)
  | none => liveOnceReport opened reopen config paths host

end Step

/-! ### The decision of either -/

namespace Controller

/-- A curve step keeps the temperature it saw, or the last one. -/
theorem stepCurve_tEff (readings : List SensorReading) (c : Controller) :
    (c.stepCurve readings).2.tEff = (hottest readings).or c.tEff := by
  obtain ⟨slewRpm, ramping, eq⟩ := stepCurve_counted readings c
  rw [eq]
  unfold tEff
  cases seen : hottest readings with
  | some t => rw [counted_some seen]; rfl
  | none => rw [counted_none seen]; rfl

end Controller

/-- A simulated reading passes the mock's window exactly in the sensors' range. -/
theorem filtered_simulated (c : Int) :
    MockSmc.filtered (simulatedReading c)
      = if 0 ≤ c ∧ c ≤ 120 then simulatedReading c
        else { simulatedReading c with milliC := none } := by
  have window : (milliCMin ≤ (MilliC.fromC c).val ∧ (MilliC.fromC c).val ≤ milliCMax) ↔
      0 ≤ c ∧ c ≤ 120 := by
    show (0 ≤ satI32 (c * 1000) ∧ satI32 (c * 1000) ≤ 120000) ↔ _
    rw [satI32_eq]
    omega
  simp only [MockSmc.filtered, simulatedReading, Option.filter, window]
  split <;> simp_all

section Poll

variable [SerdeJson] {config : Config}

/-- The simulated poll steps the curve on the mock's readings. -/
theorem simulatedReport_eq (accepted : config.checkStructural = .ok ()) (c : Int)
    (paths : RuntimePaths) {host : Host} (absent : host.cmd = .absent) :
    ∃ report, simulatedReport c config paths host = .ok report ∧
      report.decision = ((Controller.new (.ofConfig config)).stepCurve
        [MockSmc.filtered (simulatedReading c)]).1 ∧
      report.tEff = ((Controller.new (.ofConfig config)).stepCurve
        [MockSmc.filtered (simulatedReading c)]).2.tEff := by
  have structural := Config.checkStructural_ok_iff.mp accepted
  have valid : config.validate (config.minRpm, config.maxRpm) = .ok () := by
    refine Config.validate_ok_iff.mpr ⟨structural, ?_⟩
    rw [Nat.max_self, Nat.min_self]
    exact structural.min_lt_max
  have built : Supervisor.new (simulated c config) (.ofConfig config) .curve paths
      = .ok (.wired (simulated c config) (.ofConfig config) .curve paths) :=
    Supervisor.new_eq_ok.mpr ⟨valid, rfl⟩
  have quiet : ¬ (Supervisor.wired (simulated c config) (.ofConfig config) .curve paths).Applies
      host := by
    rintro ⟨requested, fresh, -⟩
    rw [Supervisor.freshCommand, absent] at fresh
    cases fresh
  obtain ⟨_, _, _, _, _, _, eq⟩ := Supervisor.sensed_unapplied quiet rfl
  have decided : (Supervisor.wired (simulated c config) (.ofConfig config) .curve paths).decided
      host = (Controller.new (.ofConfig config)).stepCurve
        [MockSmc.filtered (simulatedReading c)] := by
    unfold Supervisor.decided
    rw [eq]
    rfl
  refine ⟨_, by rw [simulatedReport, built], ?_, ?_⟩
  · exact congrArg Prod.fst decided
  · exact congrArg (·.2.tEff) decided

/-- For every accepted config, every temperature and whatever else the host and the real
backend do: with no command file, the dry run and the simulated poll agree on the decision
and the effective temperature exactly for temperatures a sensor can read. -/
theorem dryRun_predicts_iff {σ : Type} [Smc σ] (accepted : config.checkStructural = .ok ())
    (c : Int) (opened : Except SmcError σ) (reopen : σ → Except SmcError σ)
    (paths : RuntimePaths) {host : Host} (absent : host.cmd = .absent) :
    (∃ dry real, dryRunReport (some c) opened config = .ok dry ∧
      (stepOnceReport (some c) opened reopen config paths host).2 = .ok real ∧
      dry.decision = real.decision ∧ dry.tEff = real.tEff) ↔ 0 ≤ c ∧ c ≤ 120 := by
  obtain ⟨report, eq, decision, tEff⟩ := simulatedReport_eq accepted c paths absent
  rw [filtered_simulated] at decision tEff
  constructor
  · rintro ⟨dry, real, dryEq, realEq, -, same⟩
    cases dryEq
    cases eq.symm.trans realEq
    apply Decidable.byContradiction
    intro outside
    rw [if_neg outside] at tEff
    rw [tEff, Controller.stepCurve_tEff] at same
    cases ((Controller.stepCurve_tEff [simulatedReading c] _).symm.trans same)
  · intro inside
    rw [if_pos inside] at decision tEff
    exact ⟨_, report, rfl, eq, decision.symm, tEff.symm⟩

end Poll

section Implausible

attribute [local instance] Bench.json

theorem dryRun_predicts_warm :
    ∃ dry real, dryRunReport (some 80) (.ok Bench.healthy) .defaults = .ok dry ∧
      (stepOnceReport (some 80) (.ok Bench.healthy) .ok .defaults Bench.paths Bench.quiet).2
        = .ok real ∧
      dry.decision = real.decision ∧ dry.tEff = real.tEff :=
  (dryRun_predicts_iff rfl 80 (.ok Bench.healthy) .ok Bench.paths rfl).mpr (by decide)

/-- At 121 °C the dry run decides on full speed, and the poll on nothing. -/
theorem dryRun_implausible :
    Config.defaults.checkStructural = .ok () ∧ Bench.quiet.cmd = .absent ∧
      (dryRunReport (some 121) (.ok Bench.healthy) .defaults).toOption.map
        (fun r => (r.decision, r.tEff)) = some (.setSpeed 1950, some ⟨121000⟩) ∧
      (stepOnceReport (some 121) (.ok Bench.healthy) .ok .defaults Bench.paths
        Bench.quiet).2.toOption.map (fun r => (r.decision, r.tEff)) = some (.observe, none) :=
  ⟨rfl, rfl, by decide +kernel, by decide⟩

end Implausible

end Afanctl
