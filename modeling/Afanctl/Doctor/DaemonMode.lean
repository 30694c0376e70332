import Afanctl.Cli.Status
import Afanctl.Sysfs.World

/-!
The daemon-mode check of `doctor`: a held or degraded daemon is a warning.
-/

namespace Afanctl

namespace Check

def passing (name detail : String) : Check := ⟨name, .pass, detail⟩

def warning (name detail : String) : Check := ⟨name, .warn, detail⟩

end Check

/-- The newest of the recent errors, as the check appends it. -/
def newestError (state : Value) : String :=
  match ((state.get "recent_errors").bind Value.asArray).bind List.getLast? with
  | none => ""
  | some err =>
      let ts := ((err.get "ts").bind Value.asStr).getD ""
      let msg := ((err.get "msg").bind Value.asStr).getD ""
      let joined := trim s!"{ts} {msg}"
      if joined = "" then "" else s!"; newest error: {joined}"

/-- The held speed: the target, or else the last write, or else a marker. -/
def heldRpm (state : Value) : String :=
  match ((state.get "target_rpm").or (state.get "last_written_rpm")).bind Value.asU64 with
  | some rpm => toString rpm
  | none => "unknown"

/-- A flag of the published state. -/
def stateFlag (key : String) (state : Value) : Bool :=
  ((state.get key).bind Value.asBool).getD false

/-- The control characters. -/
def isControl (c : Char) : Bool := c.toNat < 32 || (127 ≤ c.toNat && c.toNat < 160)

/-- A character as debug output shows it in a string. Of those that Unicode does not print, only the
control characters are escaped here. -/
def debugChar (c : Char) : String :=
  if c = '"' then "\\\""
  else if c = '\\' then "\\\\"
  else if c = '\n' then "\\n"
  else if c = '\r' then "\\r"
  else if c = '\t' then "\\t"
  else if c = '\x00' then "\\0"
  else if isControl c then "\\u\x7b" ++ String.ofList (Nat.toDigits 16 c.toNat) ++ "\x7d"
  else String.singleton c

/-- The debug form of a mode. -/
def debugMode (mode : Option String) : String :=
  match mode with
  | some m => "\"" ++ String.join (m.toList.map debugChar) ++ "\""
  | none => "(missing)"

/-- The verdict on the published state. -/
def classifyDaemonMode (state : Option Value) : Check :=
  let name := "daemon mode"
  match state with
  | none => .passing name "no running daemon (observe is the default)"
  | some state =>
      let mode := (state.get "mode").bind Value.asStr
      let flags :=
        (if stateFlag "monitor_only" state then ["monitor_only=true"] else []) ++
          (if stateFlag "auto_restore_pending" state then ["auto_restore_pending=true"] else [])
      if flags ≠ [] then
        let joined := ", ".intercalate flags
        let requested := mode.getD "unknown"
        .warning name s!"{joined} (requested {requested}, writing nothing){newestError state}"
      else match mode with
        | some "hold" =>
            .warning name (s!"hold active ({heldRpm state} rpm, manual=true) — overshoot guard " ++
              "still applies; release with `afanctl observe`")
        | some "curve" => .passing name "mode: curve (daemon is driving the fan)"
        | some "observe" => .passing name "mode: observe (firmware owns the fan)"
        | other =>
            .warning name (s!"unknown mode {debugMode other} in state.json (fix: the daemon " ++
              "writes observe/curve/hold)")

/-- The check on what the state file holds. -/
def daemonModeCheck [SerdeJson] (file : CmdFile) : Check := classifyDaemonMode (readState file)

end Afanctl
