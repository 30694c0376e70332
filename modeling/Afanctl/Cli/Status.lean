import Afanctl.Json.Document
import Afanctl.Lib.Word
import Afanctl.Verbs

/-!
`status`: the configuration, the sensors and the fan as they are now, and what the daemon
last published, if it runs.
-/

namespace Afanctl

open Afanctl.Lib

/-- `u64::saturating_mul`. -/
def satMulU64 (a b : Nat) : Nat := min (a * b) u64Max

/-- The published state; what cannot be read or decoded counts as a daemon that is not
running. -/
def readState [SerdeJson] (file : CmdFile) : Option Value :=
  match file with
  | .content text => (SerdeJson.fromStr text).toOption
  | .absent => none
  | .unreadable _ => none

/-- The merged snapshot. -/
structure StatusData where
  sensors : List SensorReading
  fan : FanState
  hwMin : Nat
  hwMax : Nat
  tEff : Option MilliC
  state : Option Value
  source : String
  config : Config

namespace StatusData

def stateField (key : String) (d : StatusData) : Option Value := d.state.bind (·.get key)

/-- The latched degradation. -/
def monitorOnly (d : StatusData) : Bool :=
  ((d.stateField "monitor_only").bind Value.asBool).getD false

/-- The pending AUTO restore. -/
def autoRestorePending (d : StatusData) : Bool :=
  ((d.stateField "auto_restore_pending").bind Value.asBool).getD false

def mode (d : StatusData) : String := ((d.stateField "mode").bind Value.asStr).getD "observe"

/-- Completed polls times the interval; a daemon that publishes no polls pings once a poll. -/
def uptimeS (d : StatusData) : Nat :=
  match ((d.stateField "polls").bind Value.asU64).or
      ((d.stateField "watchdog_pings").bind Value.asU64) with
  | some n => satMulU64 n d.config.intervalS
  | none => 0

end StatusData

/-- Gather the snapshot: `config` and `opened` are what loading the configuration and opening
the backend gave, `source` names the configuration. -/
def gatherStatus {σ : Type} [Smc σ] [SerdeJson] (config : Except ConfigError Config)
    (opened : Except SmcError σ) (source : String) (file : CmdFile) :
    Except CliError StatusData :=
  match config with
  | .error e => .error (.runtime (toString e))
  | .ok config => match opened with
    | .error e => .error (.runtime (toString e))
    | .ok smc => match Smc.readSensors smc with
      | (.error e, _) => .error (.runtime (toString e))
      | (.ok sensors, smc) => match Smc.readFan smc with
        | (.error e, _) => .error (.runtime (toString e))
        | (.ok fan, smc) =>
            .ok
              { sensors := sensors, fan := fan, hwMin := Smc.hwMinRpm smc,
                hwMax := Smc.hwMaxRpm smc, tEff := hottest sensors, state := readState file,
                source := source, config := config }

/-- The snapshot's daemon is what the state file holds. -/
theorem gatherStatus_state {σ : Type} [Smc σ] [SerdeJson] {config : Except ConfigError Config}
    {opened : Except SmcError σ} {source : String} {file : CmdFile} {d : StatusData}
    (gathered : gatherStatus config opened source file = .ok d) : d.state = readState file := by
  unfold gatherStatus at gathered
  split at gathered
  · cases gathered
  · split at gathered
    · cases gathered
    · split at gathered
      · cases gathered
      · split at gathered
        · cases gathered
        · cases gathered
          rfl

/-- A temperature, or null. -/
def tempC (t : Option MilliC) : Value := .ofOption (fun m => .ofMilli m.val) t

/-- `status --json`. -/
def statusJson (d : StatusData) : Value :=
  let running := d.state.isSome
  .object
    [("schema", .string "afanctl.status.v1"),
      ("daemon", .object
        [("running", .bool running), ("mode", .string d.mode),
          ("monitor_only", .bool d.monitorOnly),
          ("auto_restore_pending", .bool d.autoRestorePending), ("watchdog_armed", .bool running),
          ("uptime_s", .ofNat d.uptimeS)]),
      ("sensors", .array (d.sensors.map fun s =>
        .object [("label", .string s.label), ("temp_c", tempC s.milliC)])),
      ("effective", .object [("temp_c", tempC d.tEff), ("method", .string "max")]),
      ("fan", .object
        [("rpm", .ofNat d.fan.rpm), ("min_rpm", .ofNat d.hwMin), ("max_rpm", .ofNat d.hwMax),
          ("target_rpm", (d.stateField "target_rpm").getD .null),
          ("manual", .bool (d.fan.mode == .manual))]),
      ("config", .object
        [("high_c", .ofInt d.config.highC), ("max_c", .ofInt d.config.maxC),
          ("min_rpm", .ofNat d.config.minRpm), ("max_rpm", .ofNat d.config.maxRpm),
          ("interval_s", .ofNat d.config.intervalS), ("source", .string d.source)]),
      ("safety", (d.stateField "safety").getD .null),
      ("recent_errors", (d.stateField "recent_errors").getD (.array []))]

end Afanctl
