import Afanctl.Supervisor.Command
import Afanctl.Supervisor.L1

/-!
One poll: `stepOnce` and its stages.

The stages are named by the frame they leave behind: `commanded`, `retried`,
`sensed`, `decided`, `acted`, `checked`. `stepOnce` publishes what the last one
leaves. Statements about one stage of a poll speak of these frames.
-/

namespace Afanctl

open Afanctl.Lib

/-- Report of exactly one poll. -/
structure StepReport where
  mode : RunMode
  tEff : Option MilliC
  decision : Decision
  /-- verified write result, `none` if no write -/
  appliedRpm : Option Nat
  /-- L1 check outcome this poll -/
  verified : Bool
  notes : List String
  deriving DecidableEq, Repr

/-- Which safety layers are armed, published every poll. -/
structure SafetyLayers where
  backend : String
  l1Verify : Bool
  l2DeathPath : Bool
  l3WatchdogNotify : Bool
  hwWatchdog : Bool
  firmwareAutoOnSuspend : Option Bool
  deriving DecidableEq, Repr

/-- The schema id of `state.json`. -/
def stateSchema : String := "afanctl.state.v1"

/-- One published `state.json`. -/
structure StateFile where
  schema : String
  ts : String
  mode : String
  tEff : Option MilliC
  targetRpm : Option Nat
  lastWrittenRpm : Option Nat
  actualRpm : Option Nat
  verified : Bool
  monitorOnly : Bool
  autoRestorePending : Bool
  watchdogPings : Nat
  polls : Nat
  safety : SafetyLayers
  recentErrors : List RecentError
  deriving DecidableEq, Repr

/-- Controller step for the current, possibly degraded, mode. -/
def controllerStep (c : Custody) (readings : List SensorReading) (controller : Controller) :
    Decision × Controller :=
  if c.monitorOnly = true ∨ c.mode = .observe then controller.stepObserve readings
  else match c.mode with
    | .curve => controller.stepCurve readings
    | .hold rpm => controller.stepHold readings rpm
    | .observe => controller.stepObserve readings

namespace Frame

variable {σ : Type}

/-- The safety layers armed right now. -/
def safetyLayers (p : Frame σ) : SafetyLayers where
  backend := p.capabilities.backend
  l1Verify := !p.monitorOnly
  l2DeathPath := p.host.isArmed
  l3WatchdogNotify := p.host.notifySocket
  hwWatchdog := p.capabilities.hwWatchdog
  firmwareAutoOnSuspend := p.capabilities.firmwareAutoOnSuspend

/-- The published target: a speed target in the hardware band, the configured
ceiling on escalation, nothing otherwise. -/
def targetRpm (decision : Decision) (p : Frame σ) : Option Nat :=
  match decision with
  | .setSpeed rpm => some (clamp p.hwMin p.hwMax rpm)
  | .escalateMax => some p.cfgMaxRpm
  | .observe => none
  | .returnToAuto => none

/-- The content of `state.json`. -/
def stateFile (decision : Decision) (tEff : Option MilliC) (applied : Option Nat) (verified : Bool)
    (p : Frame σ) : StateFile where
  schema := stateSchema
  ts := p.isoTime
  mode := modeToken p.mode
  tEff := tEff
  targetRpm := p.targetRpm decision
  lastWrittenRpm := applied.or p.lastWritten
  actualRpm := p.lastActual
  verified := verified
  monitorOnly := p.monitorOnly
  autoRestorePending := p.autoRestorePending
  watchdogPings := p.watchdogPings
  polls := p.polls
  safety := p.safetyLayers
  recentErrors := p.recentErrors

/-- Rewrite `state.json`, for which the clock is read; a failure is recorded and never aborts
control. -/
def publishState (p : Frame σ) : Frame σ :=
  match p.host.publishError with
  | none => p.tick
  | some e => p.tick.noteRecent s!"state publish {p.paths.state}: {e}"

@[simp] theorem publishState_toCustody (p : Frame σ) : p.publishState.toCustody = p.toCustody := by
  unfold publishState
  cases p.host.publishError <;> rfl

@[simp] theorem publishState_log (p : Frame σ) : p.publishState.log = p.log := by
  unfold publishState
  cases p.host.publishError <;> rfl

@[simp] theorem publishState_smc (p : Frame σ) : p.publishState.smc = p.smc := by
  unfold publishState
  cases p.host.publishError <;> rfl

end Frame

namespace Supervisor

variable {σ : Type}

/-- The frame a poll starts from. -/
def frame (host : Host) (s : Supervisor σ) : Frame σ :=
  { s.toDaemon with host := host, ticks := 0, notes := [], log := [] }

variable [Smc σ] [SerdeJson]

/-! ### The stages of a poll -/

/-- After the first ping and the command stage. -/
def commanded (host : Host) (s : Supervisor σ) : Frame σ :=
  (s.frame host).pingWatchdog.applyCmdFile

/-- After the pending-release retry. -/
def retried (host : Host) (s : Supervisor σ) : Frame σ :=
  (s.commanded host).autoRestoreRetry

/-- After the sensor read. A failed read degrades to an empty set, so the loss
streak drives fail-toward-AUTO. -/
def sensed (host : Host) (s : Supervisor σ) : List SensorReading × Frame σ :=
  match (s.retried host).readSensors .stepOnce with
  | (.ok readings, p) => (readings, p)
  | (.error e, p) => ([], p.noteRecent s!"sensor read failed: {e}")

/-- The controller step on this poll's readings. -/
def decided (host : Host) (s : Supervisor σ) : Decision × Controller :=
  controllerStep (s.sensed host).2.toCustody (s.sensed host).1 s.controller

/-- After acting on the decision, with the verified write. -/
def acted (host : Host) (s : Supervisor σ) : Frame σ × Option Nat :=
  (s.sensed host).2.act (s.decided host).1

/-- After L1, with its verdict. -/
def checked (host : Host) (s : Supervisor σ) : Frame σ × Bool :=
  (s.acted host).1.l1Poll (s.acted host).2

end Supervisor

/-- What one poll leaves: the supervisor, its report, the published state and
the recorded calls. -/
structure PollResult (σ : Type) where
  sup : Supervisor σ
  report : StepReport
  state : StateFile
  log : List Event

namespace Supervisor

variable {σ : Type} [Smc σ] [SerdeJson]

/-- Exactly one poll iteration. -/
def stepOnce (host : Host) (s : Supervisor σ) : PollResult σ :=
  let (decision, controller) := s.decided host
  let applied := (s.acted host).2
  let (p, l1Ok) := s.checked host
  let verified := !p.monitorOnly && l1Ok
  let p := { p with polls := p.polls + 1 }
  let state := p.stateFile decision controller.tEff applied verified
  let p := p.publishState.pingWatchdog
  { sup := { p.toDaemon with controller := controller }
    report :=
      { mode := p.mode, tEff := controller.tEff, decision := decision, appliedRpm := applied,
        verified := verified, notes := p.notes }
    state := state
    log := p.log }

/-- The state after one poll. -/
def next (host : Host) (s : Supervisor σ) : Supervisor σ := (s.stepOnce host).sup

/-- The calls of one poll. -/
def calls (host : Host) (s : Supervisor σ) : List Event := (s.stepOnce host).log

/-- After L1 a poll counts itself, pings and publishes, and takes the stepped
controller over. -/
theorem next_eq (host : Host) (s : Supervisor σ) :
    ∃ pings polls errors, s.next host
      = { { (s.checked host).1.toDaemon with
            watchdogPings := pings, polls := polls, recentErrors := errors } with
          controller := (s.decided host).2 } := by
  unfold next stepOnce
  simp only [Frame.publishState]
  cases (s.checked host).1.host.publishError <;> exact ⟨_, _, _, rfl⟩

/-- Publishing and the pings leave custody as L1 left it. -/
@[simp] theorem next_toCustody (host : Host) (s : Supervisor σ) :
    (s.next host).toCustody = (s.checked host).1.toCustody :=
  Frame.publishState_toCustody _

/-- And they leave the backend alone. -/
@[simp] theorem next_smc (host : Host) (s : Supervisor σ) :
    (s.next host).smc = (s.checked host).1.smc :=
  Frame.publishState_smc _

/-- A poll makes no call after L1. -/
@[simp] theorem calls_eq (host : Host) (s : Supervisor σ) :
    s.calls host = (s.checked host).1.log :=
  Frame.publishState_log _

end Supervisor

end Afanctl
