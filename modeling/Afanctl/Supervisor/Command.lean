import Afanctl.Json
import Afanctl.Supervisor.Act

/-!
The command file: validation, the freshness gate, and applying a mode.
-/

namespace Afanctl

open Afanctl.Lib

/-- The schema id of `cmd.json`. -/
def cmdSchema : String := "afanctl.cmd.v1"

section Parse

variable [SerdeJson]

/-- Validate a command document; an error is the note that says why it is
ignored. -/
def parseCmd (raw : String) : Except String RunMode :=
  match SerdeJson.fromStr raw with
  | .error e => .error s!"cmd.json ignored: parse error: {e}"
  | .ok value =>
      if (value.get "schema").bind Value.asStr ≠ some cmdSchema then
        .error s!"cmd.json ignored: schema must be `{cmdSchema}`"
      else match (value.get "mode").bind Value.asStr with
        | some "observe" => .ok .observe
        | some "curve" => .ok .curve
        | some "hold" =>
            match (value.get "rpm").bind Value.asU64 with
            | some rpm =>
                if rpm ≤ u32Max then .ok (.hold rpm)
                else .error "cmd.json ignored: `hold` needs an integer rpm"
            | none => .error "cmd.json ignored: `hold` needs an integer rpm"
        | some other =>
            .error s!"cmd.json ignored: unknown mode `{other}` (fix: observe|curve|hold)"
        | none => .error "cmd.json ignored: missing `mode`"

end Parse

/-- Refusal of a control mode when the startup probe did not pass. -/
def noL2Msg : String :=
  "L2 death path unavailable (the arm-time restore probe did not pass at startup); refusing to " ++
    "enter control from cmd.json (fix: restart as root so the fan mode attribute is writable)"

namespace Frame

variable {σ : Type} [Smc σ]

/-- A deliberate re-command after degradation re-arms control and supersedes the
pending release. -/
def rearm (requested : RunMode) (p : Frame σ) : Frame σ :=
  if p.monitorOnly = true ∧ requested ≠ .observe then
    { p with
      monitorOnly := false, writeFailures := 0, autoRestorePending := false,
      autoRestoreAttempts := 0, autoRetryLogPolls := 0 }
  else p

/-- Leave control: release an owned fan to AUTO. A failed release keeps the fan
owned and arms the retry; the mode becomes `observe` either way. -/
def leaveControl (p : Frame σ) : Frame σ :=
  let p := if p.manualArmed then
      match p.setMode .applyMode .auto with
      | (.ok _, p) =>
          { p with
            manualArmed := false, lastWritten := none, autoRestorePending := false,
            autoRestoreAttempts := 0, autoRetryLogPolls := 0 }
            |>.note "cmd applied: observe (fan released to AUTO)"
      | (.error e, p) =>
          { p with
            autoRestorePending := true, autoRestoreAttempts := 1,
            autoRetryLogPolls := autoRetryLogPollsMax }
            |>.failWrite s!"cmd observe: set AUTO error: {e}"
    else p.note "cmd applied: observe"
  { p with mode := .observe }

/-- Apply a validated command: refuse control without L2, re-arm after a latch,
ignore an unchanged mode, else enter control or leave it. -/
def applyMode (requested : RunMode) (p : Frame σ) : Frame σ :=
  if p.l2Absent = true ∧ requested ≠ .observe then
    p.noteRecent noL2Msg |>.note "cmd refused: no L2"
  else
    let p := p.rearm requested
    if requested = p.mode then p
    else if requested = .observe then p.leaveControl
    else { p.note s!"cmd applied: {modeName requested}" with mode := requested }

/-- Read, validate and apply `cmd.json`. Content equal to the last applied
command never re-applies. -/
def applyCmdFile [SerdeJson] (p : Frame σ) : Frame σ :=
  match p.host.cmd with
  | .absent => p
  | .unreadable e => p.noteRecent s!"cmd file {p.paths.cmd}: {e} (fix: check file permissions)"
  | .content raw =>
      if p.lastCmd = some raw then p
      else match parseCmd raw with
        | .error ignored => p.note ignored
        | .ok requested => { p with lastCmd := some raw } |>.applyMode requested

end Frame

end Afanctl
