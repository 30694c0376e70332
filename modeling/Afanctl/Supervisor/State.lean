import Afanctl.Clock
import Afanctl.Policy
import Afanctl.Smc

/-!
The supervisor's state, the frame one poll threads, and the recorded backend
calls.

The source keeps one flat record. Here it is layered without renaming anything:
`Custody` holds who owns the fan and with what authority, `Daemon` adds the rest
of the loop's fields, and `Supervisor` adds the controller, which only the
controller step touches. A `Frame` is a `Daemon` with what one poll carries
along: the host it sees, the report notes, and the log of its backend calls. The
log is not in the source; it is what statements about calls speak of.
-/

namespace Afanctl

open Afanctl.Lib

/-- Daemon run modes. -/
inductive RunMode where
  | observe
  | curve
  | hold (rpm : Nat)
  deriving DecidableEq, Repr

/-- Human mode string; hold carries its target. -/
def modeName : RunMode → String
  | .observe => "observe"
  | .curve => "curve"
  | .hold rpm => s!"hold {rpm}"

/-- Schema-token mode name for `state.json`. -/
def modeToken : RunMode → String
  | .observe => "observe"
  | .curve => "curve"
  | .hold _ => "hold"

/-- Who owns the fan, and with what authority to drive it. -/
structure Custody where
  mode : RunMode
  /-- latched degradation: all control writes suppressed -/
  monitorOnly : Bool
  /-- we own the fan: its mode was verified Manual -/
  manualArmed : Bool
  /-- a failed release: the loop re-attempts AUTO until verified -/
  autoRestorePending : Bool
  /-- only ever set from a verified write result -/
  lastWritten : Option Nat
  /-- failed writes and re-asserts toward the fallback -/
  writeFailures : Nat
  /-- the arm-time restore probe did not pass -/
  l2Absent : Bool
  deriving DecidableEq, Repr

/-- The custody in which control writes are allowed. -/
def Custody.Driving (c : Custody) : Prop := c.mode ≠ .observe ∧ c.monitorOnly = false

instance (c : Custody) : Decidable c.Driving := inferInstanceAs (Decidable (_ ∧ _))

/-- One `recent_errors` entry. -/
structure RecentError where
  ts : String
  msg : String
  deriving DecidableEq, Repr

/-- Filesystem locations of the plugin-facing files. -/
structure RuntimePaths where
  cmd : String
  state : String
  configSource : String
  deriving DecidableEq, Repr

/-- Every field of the supervisor but the controller. -/
structure Daemon (σ : Type) extends Custody where
  smc : σ
  autoRestoreAttempts : Nat
  autoRetryLogPolls : Nat
  lastActual : Option Nat
  /-- tach of the previous poll -/
  prevActual : Option Nat
  /-- consecutive motionless, off-target polls -/
  stallPolls : Nat
  /-- length of the current off-target excursion -/
  offTargetPolls : Nat
  cfgMaxRpm : Nat
  hwMin : Nat
  hwMax : Nat
  /-- seconds between polls -/
  interval : Nat
  /-- raw content of the last applied command -/
  lastCmd : Option String
  watchdogPings : Nat
  polls : Nat
  paths : RuntimePaths
  capabilities : SafetyCapabilities
  recentErrors : List RecentError

/-- The supervisor: single poller, no threads. -/
structure Supervisor (σ : Type) extends Daemon σ where
  controller : Controller

/-! ### What a poll sees and records -/

/-- What reading `cmd.json` gave. -/
inductive CmdFile where
  | absent
  | unreadable (error : String)
  | content (raw : String)
  deriving DecidableEq, Repr

/-- What one poll sees of the process outside the backend: the command file, the
clock, the outcome of publishing `state.json`, whether a death path is armed and
whether systemd listens. -/
structure Host where
  cmd : CmdFile
  /-- what the clock says when the poll reads it for the n-th time -/
  now : Nat → Nat
  publishError : Option String
  isArmed : Bool
  notifySocket : Bool

/-- A backend call with its answer. -/
inductive Op where
  | readSensors (answer : Except SmcError (List SensorReading))
  | readFan (answer : Except SmcError FanState)
  | writeSpeed (rpm : Nat) (answer : Except SmcError Nat)
  | setMode (mode : FanMode) (answer : Except SmcError FanMode)
  | probeSafeRestore (answer : Except SmcError SafeRestore)

/-- The place in the source a call is made from. -/
inductive Site where
  | run
  | reconcile
  | applyMode
  | autoRestoreRetry
  | stepOnce
  | act
  | writeControlled
  | enterManual
  | l1Poll
  | degradeToAuto
  deriving DecidableEq, Repr

/-- One recorded call: its site, the call and answer, and the custody at the
moment it was made. -/
structure Event where
  site : Site
  op : Op
  custody : Custody

/-- The state one poll threads. -/
structure Frame (σ : Type) extends Daemon σ where
  host : Host
  /-- how often the clock has been read -/
  ticks : Nat
  notes : List String
  log : List Event

/-- `state.json` keeps the last five errors. -/
def recentErrorsMax : Nat := 5

namespace Frame

variable {σ : Type}

/-- Append a report note. -/
def note (msg : String) (p : Frame σ) : Frame σ :=
  { p with notes := p.notes ++ [msg] }

/-- The time at which the poll looks at the clock next. -/
def isoTime (p : Frame σ) : String := isoNow (p.host.now p.ticks)

/-- The clock has been read. -/
def tick (p : Frame σ) : Frame σ := { p with ticks := p.ticks + 1 }

/-- Append a bounded `recent_errors` entry. -/
def noteRecent (msg : String) (p : Frame σ) : Frame σ :=
  let pushed := p.recentErrors ++ [⟨p.isoTime, msg⟩]
  { p with
    ticks := p.ticks + 1
    recentErrors := if recentErrorsMax < pushed.length then pushed.drop 1 else pushed }

/-- One `WATCHDOG=1` notification. -/
def pingWatchdog (p : Frame σ) : Frame σ :=
  { p with watchdogPings := p.watchdogPings + 1 }

/-! ### Backend calls -/

variable [Smc σ]

/-- Record a call made at `site` that left the backend in `smc`. -/
def called (site : Site) (op : Op) (smc : σ) (p : Frame σ) : Frame σ :=
  { p with smc := smc, log := p.log ++ [⟨site, op, p.toCustody⟩] }

def readSensors (site : Site) (p : Frame σ) : Except SmcError (List SensorReading) × Frame σ :=
  let answer := Smc.readSensors p.smc
  (answer.1, p.called site (.readSensors answer.1) answer.2)

def readFan (site : Site) (p : Frame σ) : Except SmcError FanState × Frame σ :=
  let answer := Smc.readFan p.smc
  (answer.1, p.called site (.readFan answer.1) answer.2)

def writeSpeed (site : Site) (rpm : Nat) (p : Frame σ) : Except SmcError Nat × Frame σ :=
  let answer := Smc.writeSpeed rpm p.smc
  (answer.1, p.called site (.writeSpeed rpm answer.1) answer.2)

def setMode (site : Site) (mode : FanMode) (p : Frame σ) : Except SmcError FanMode × Frame σ :=
  let answer := Smc.setMode mode p.smc
  (answer.1, p.called site (.setMode mode answer.1) answer.2)

def probeSafeRestore (site : Site) (p : Frame σ) : Except SmcError SafeRestore × Frame σ :=
  let answer := Smc.probeSafeRestore p.smc
  (answer.1, p.called site (.probeSafeRestore answer.1) answer.2)

end Frame

end Afanctl
