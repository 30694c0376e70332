import Afanctl.Supervisor.Poll

/-!
Construction, and what `run` does before its loop: the inherited mode is read
first, then the restore probe arms L2, then a fan left in Manual is reconciled.
-/

namespace Afanctl

open Afanctl.Lib

/-- Construction errors. -/
inductive SupError where
  | config (e : ConfigError)
  deriving DecidableEq, Repr

instance : ToString SupError where
  toString
    | .config e => s!"supervisor: config invalid for hardware: {e}"

/-- A commanded hold is always within the hardware band. -/
def startMode (hw : Nat × Nat) : RunMode → RunMode
  | .hold rpm => .hold (clamp hw.1 hw.2 rpm)
  | other => other

/-- The supervisor construction wires up. -/
def Supervisor.wired {σ : Type} [Smc σ] (smc : σ) (cfg : ResolvedConfig) (start : RunMode)
    (paths : RuntimePaths) : Supervisor σ where
  controller := Controller.new cfg
  cfgMaxRpm := cfg.config.maxRpm
  interval := cfg.config.intervalS
  smc := smc
  mode := startMode (Smc.hwMinRpm smc, Smc.hwMaxRpm smc) start
  monitorOnly := false
  manualArmed := false
  autoRestorePending := false
  autoRestoreAttempts := 0
  autoRetryLogPolls := 0
  lastWritten := none
  lastActual := none
  prevActual := none
  writeFailures := 0
  stallPolls := 0
  offTargetPolls := 0
  l2Absent := false
  hwMin := Smc.hwMinRpm smc
  hwMax := Smc.hwMaxRpm smc
  lastCmd := none
  watchdogPings := 0
  polls := 0
  paths := paths
  capabilities := Smc.safetyCapabilities smc
  recentErrors := []

/-- Wire up a supervisor, once the config band is validated against the hardware. -/
def Supervisor.new {σ : Type} [Smc σ] (smc : σ) (cfg : ResolvedConfig) (start : RunMode)
    (paths : RuntimePaths) : Except SupError (Supervisor σ) :=
  match cfg.config.validate (Smc.hwMinRpm smc, Smc.hwMaxRpm smc) with
  | .error e => .error (.config e)
  | .ok () => .ok (.wired smc cfg start paths)

/-- Construction succeeds exactly on a config that validates. -/
theorem Supervisor.new_eq_ok {σ : Type} [Smc σ] {smc : σ} {cfg : ResolvedConfig} {start : RunMode}
    {paths : RuntimePaths} {s : Supervisor σ} :
    Supervisor.new smc cfg start paths = .ok s ↔
      cfg.config.validate (Smc.hwMinRpm smc, Smc.hwMaxRpm smc) = .ok () ∧
        s = .wired smc cfg start paths := by
  unfold Supervisor.new
  cases cfg.config.validate (Smc.hwMinRpm smc, Smc.hwMaxRpm smc) with
  | error e => simp
  | ok u => simp [eq_comm]

namespace Frame

variable {σ : Type} [Smc σ]

/-- Startup degradation latch: all writes off, mode observe. -/
def degradeStartupToObserve (p : Frame σ) : Frame σ :=
  { p with
    mode := .observe, monitorOnly := true, manualArmed := false, lastWritten := none,
    writeFailures := 0, stallPolls := 0, offTargetPolls := 0, autoRestorePending := false,
    autoRestoreAttempts := 0, autoRetryLogPolls := 0 }

/-- Startup reconcile of the mode inherited from a predecessor. -/
def reconcileStaleState (inherited : Except SmcError FanMode) (p : Frame σ) : Frame σ :=
  match inherited with
  | .error e =>
      if p.mode = .observe then p
      else
        p.noteRecent (s!"startup reconcile: cannot read fan state: {e} (fix: check applesmc fan " ++
            "files are readable); degrading to observe + monitor-only: AUTO cannot be confirmed")
          |>.degradeStartupToObserve
  | .ok .auto => p
  | .ok .manual =>
      match p.setMode .reconcile .auto with
      | (.ok _, p) =>
          { p with manualArmed := false, lastWritten := none }
            |>.noteRecent "startup reconcile: stale manual mode restored to AUTO"
      | (.error e, p) =>
          p.noteRecent (s!"startup reconcile: restoring AUTO failed: {e} (fix: run as root so the " ++
              "fan mode attribute is writable); degrading to observe + monitor-only: never command " ++
              "manual while AUTO cannot be restored")
            |>.degradeStartupToObserve

/-- The arm-time restore probe: a failed one leaves the daemon without L2, and
then no control mode is entered. -/
def armL2 (p : Frame σ) : Frame σ :=
  let p := match p.probeSafeRestore .run with
    | (.ok _, p) => { p with l2Absent := false }
    | (.error e, p) =>
        { p.noteRecent (s!"L2 death path ABSENT: the arm-time restore probe failed: {e} (fix: run " ++
            "as root so the fan mode attribute is writable, then check `afanctl doctor`); " ++
            "refusing to arm an unproven restore, so no control mode will be entered") with
          l2Absent := true }
  if p.mode ≠ .observe ∧ p.l2Absent = true then { p with mode := .observe } else p

/-- `run` up to its loop. -/
def startup (p : Frame σ) : Frame σ :=
  let p := { p with polls := 0 }
  let (fan, p) := p.readFan .run
  p.armL2.reconcileStaleState (fan.map (·.mode))

end Frame

namespace Supervisor

variable {σ : Type} [Smc σ]

/-- The frame `run` enters its loop with. -/
def started (host : Host) (s : Supervisor σ) : Frame σ := (s.frame host).startup

/-- The supervisor `run` enters its loop with. -/
def start (host : Host) (s : Supervisor σ) : Supervisor σ :=
  { (s.started host).toDaemon with controller := s.controller }

end Supervisor

end Afanctl
