import Afanctl.Supervisor.State

/-!
The write paths: counted failures and their fallback, the pending-release retry,
and acting on a decision.
-/

namespace Afanctl

open Afanctl.Lib

namespace Frame

variable {σ : Type} [Smc σ]

/-- Fallback: restore AUTO and latch monitor-only. Only a verified restore
releases the fan; a failed one keeps it owned and arms the every-poll retry. -/
def degradeToAuto (p : Frame σ) : Frame σ :=
  let p := { p with
    monitorOnly := true, lastWritten := none, writeFailures := 0, stallPolls := 0,
    offTargetPolls := 0 }
  let p := match p.setMode .degradeToAuto .auto with
    | (.ok _, p) =>
        { p with manualArmed := false, autoRestorePending := false, autoRestoreAttempts := 0 }
          |>.noteRecent (s!"L1 fallback: {writeFailFallback} failed writes → AUTO restored, " ++
            "degrading to monitor-only")
          |>.noteRecent "L1 fallback: monitor-only degradation after repeated write failures"
          |>.note "fallback: AUTO + monitor-only"
    | (.error e, p) =>
        let msg := s!"L1 fallback: {writeFailFallback} failed writes → AUTO restore FAILED ({e}); " ++
          "fan still Manual, retrying AUTO every poll, monitor-only"
        { p with
          autoRestorePending := true, autoRestoreAttempts := 1,
          autoRetryLogPolls := autoRetryLogPollsMax }
          |>.noteRecent msg |>.note msg
  p.note "fallback: monitor-only"

/-- One more write or re-assert failure, escalated at `writeFailFallback`. -/
def failWrite (msg : String) (p : Frame σ) : Frame σ :=
  let p := p.noteRecent msg |>.note "write/re-assert failed"
  let p := { p with writeFailures := p.writeFailures + 1 }
  if writeFailFallback ≤ p.writeFailures then p.degradeToAuto else p

/-- Put the fan into Manual through the verify path; `false` on failure. -/
def enterManual (p : Frame σ) : Frame σ × Bool :=
  match p.setMode .enterManual .manual with
  | (.ok _, p) => ({ p with manualArmed := true }, true)
  | (.error e, p) => (p.failWrite s!"set Manual write error: {e}", false)

/-- The clamped write of an owned fan; the last verified value is not rewritten. -/
def writeOwned (rpm : Nat) (p : Frame σ) : Frame σ × Option Nat :=
  let target := clamp p.hwMin p.hwMax rpm
  if p.lastWritten = some target then (p, none)
  else match p.writeSpeed .writeControlled target with
    | (.ok verified, p) => ({ p with lastWritten := some verified }, some verified)
    | (.error e, p) => (p.failWrite s!"rpm target {target}: {e}", none)

/-- Write a controlled rpm: ensure Manual, clamp, then write. -/
def writeControlled (rpm : Nat) (p : Frame σ) : Frame σ × Option Nat :=
  if p.manualArmed then p.writeOwned rpm
  else match p.enterManual with
    | (p, true) => p.writeOwned rpm
    | (p, false) => (p, none)

/-- Apply a decision. `observe` writes nothing new, `returnToAuto` restores the
firmware, speed targets go through the verify path. -/
def act (decision : Decision) (p : Frame σ) : Frame σ × Option Nat :=
  if p.monitorOnly then (p, none)
  else match decision with
    | .observe => (p, none)
    | .returnToAuto =>
        if p.manualArmed then
          match p.setMode .act .auto with
          | (.ok _, p) =>
              ({ p with manualArmed := false, lastWritten := none }
                |>.note "fan returned to AUTO (sensor loss)", none)
          | (.error e, p) => (p.failWrite s!"ReturnToAuto: set AUTO error: {e}", none)
        else (p, none)
    | .setSpeed rpm => p.writeControlled rpm
    | .escalateMax => p.writeControlled p.cfgMaxRpm

/-- The pending release has been verified. -/
def autoRestored (p : Frame σ) : Frame σ :=
  let msg := s!"AUTO restored after {p.autoRestoreAttempts} attempts (fan mode verified Auto)"
  { p with
    autoRestorePending := false, manualArmed := false, lastWritten := none, stallPolls := 0,
    offTargetPolls := 0 }
    |>.noteRecent msg |>.note msg

/-- A release attempt failed: the error is logged at most every
`autoRetryLogPollsMax` polls, the retry itself never stops. -/
def autoRestoreFailed (p : Frame σ) : Frame σ :=
  if p.autoRetryLogPolls = 0 then
    { p.noteRecent (s!"AUTO restore still pending: {p.autoRestoreAttempts} failed attempts, fan " ++
        "still in Manual; retrying AUTO every poll") with
      autoRetryLogPolls := autoRetryLogPollsMax }
  else { p with autoRetryLogPolls := p.autoRetryLogPolls - 1 }

/-- One best-effort AUTO restore per poll while one is pending. A register that
already reads `auto` counts as restored. -/
def autoRestoreRetry (p : Frame σ) : Frame σ :=
  if p.autoRestorePending then
    let p := { p with autoRestoreAttempts := min (p.autoRestoreAttempts + 1) u32Max }
    match p.readFan .autoRestoreRetry with
    | (.ok ⟨_, .auto⟩, p) => p.autoRestored
    | (_, p) => match p.setMode .autoRestoreRetry .auto with
      | (.ok _, p) => p.autoRestored
      | (.error _, p) => p.autoRestoreFailed
  else p

end Frame

end Afanctl
