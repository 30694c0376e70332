import Afanctl.Supervisor.Act

/-!
L1, the per-poll verification of an owned fan: mode drift, tracking, the stall
detector, and the verdict that may reset the failure count.
-/

namespace Afanctl

open Afanctl.Lib

/-- The tach moved since the previous poll. -/
def tachMoved (rpm : Nat) (prevActual : Option Nat) : Bool :=
  match prevActual with
  | some prev => decide (stallTachEpsilonRpm < absDiff rpm prev)
  | none => false

namespace Frame

variable {σ : Type} [Smc σ]

/-- Mode drift: a fan we own that does not read Manual is taken over again. The
flag says that the re-assert failed. -/
def l1ModeDrift (fan : FanState) (p : Frame σ) : Frame σ × Bool :=
  if fan.mode = .manual then (p, false)
  else match p.enterManual with
    | (p, true) => (p.note "L1: manual mode re-asserted", false)
    | (p, false) => (p, true)

/-- Tracking: a deviation beyond tolerance re-asserts the written value, unless
this poll already wrote it. -/
def l1Tracking (dev written : Nat) (applied : Option Nat) (failed : Bool) (p : Frame σ) :
    Frame σ × Bool :=
  if p.monitorOnly = false ∧ verifyToleranceRpm < dev ∧ applied = none then
    let p := p.note
      s!"L1: tracking {dev} rpm from written {written}; re-asserting (not a failure)"
    match p.writeSpeed .l1Poll written with
    | (.ok verified, p) =>
        ({ p with lastWritten := some verified }.note s!"L1: re-asserted at {verified} rpm", failed)
    | (.error e, p) => (p.failWrite s!"L1 re-assert {written}: {e}", true)
  else (p, failed)

/-- Off-target dwell: the warning repeats while the excursion lasts. -/
def l1Dwell (p : Frame σ) : Frame σ :=
  let p := { p with offTargetPolls := min (p.offTargetPolls + 1) u32Max }
  if p.offTargetPolls % offTargetWarnPolls = 0 then
    let msg := s!"fan rpm off target for {p.offTargetPolls} polls (moving, not stalled)"
    p.noteRecent msg |>.note msg
  else p

/-- Stall detector: only tach movement or convergence resets the window. The
flag says that the window filled and the fallback fired. -/
def l1Stall (dev rpm : Nat) (prevActual : Option Nat) (p : Frame σ) : Frame σ × Bool :=
  if verifyToleranceRpm < dev then
    let p := p.l1Dwell
    if tachMoved rpm prevActual then ({ p with stallPolls := 0 }, false)
    else
      let p := { p with stallPolls := min (p.stallPolls + 1) u32Max }
      if stallPollsMax ≤ p.stallPolls then
        let msg := s!"stall detector: fan stuck {dev} rpm off target with a motionless tach for " ++
          s!"{stallPollsMax} polls; actuator unresponsive"
        let p := p.noteRecent msg |>.note msg
        ({ p with stallPolls := 0, offTargetPolls := 0 }.degradeToAuto, true)
      else (p, false)
  else ({ p with stallPolls := 0, offTargetPolls := 0 }, false)

/-- The verdict: a healthy poll with a live written target resets the failure
count, and nothing else does. -/
def l1Verdict (failed : Bool) (p : Frame σ) : Frame σ × Bool :=
  if failed then (p, false)
  else if p.lastWritten.isSome then ({ p with writeFailures := 0 }, true)
  else (p, true)

/-- The stall detector, and the verdict unless its fallback fired. -/
def l1Window (dev rpm : Nat) (prevActual : Option Nat) (failed : Bool) (p : Frame σ) :
    Frame σ × Bool :=
  match p.l1Stall dev rpm prevActual with
  | (p, true) => (p, false)
  | (p, false) => p.l1Verdict failed

/-- The checks of the live target, if there is one. -/
def l1Target (fan : FanState) (prevActual applied : Option Nat) (failed : Bool) (p : Frame σ) :
    Frame σ × Bool :=
  match p.lastWritten with
  | none => p.l1Verdict failed
  | some written =>
      let dev := absDiff fan.rpm written
      let (p, failed) := p.l1Tracking dev written applied failed
      p.l1Window dev fan.rpm prevActual failed

/-- The checks of a fan that is owned and not being released. -/
def l1Checks (fan : FanState) (prevActual applied : Option Nat) (p : Frame σ) : Frame σ × Bool :=
  let (p, failed) := p.l1ModeDrift fan
  p.l1Target fan prevActual applied failed

/-- The L1 stage of one poll; `false` is a failed verdict. -/
def l1Poll (applied : Option Nat) (p : Frame σ) : Frame σ × Bool :=
  match p.readFan .l1Poll with
  | (.error e, p) =>
      (p.noteRecent s!"L1 fan read failed: {e}"
        |>.failWrite "L1 poll defeated by fan read failure", false)
  | (.ok fan, p) =>
      let prevActual := p.prevActual
      let p := { p with lastActual := some fan.rpm, prevActual := some fan.rpm }
      if p.manualArmed = false then ({ p with stallPolls := 0, offTargetPolls := 0 }, true)
      else if p.autoRestorePending then (p, true)
      else p.l1Checks fan prevActual applied

end Frame

end Afanctl
