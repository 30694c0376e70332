import Afanctl.Supervisor.Reach

/-!
The daemon sees of its backend only the answers.

A map of backends that commutes with the calls commutes with a poll: what is recorded,
reported and published is the same, but for the capabilities that are published as they
stand. So two backends whose states can be related so that they answer alike run the daemon
alike.
-/

namespace Afanctl

open Afanctl.Lib

variable {σ τ : Type} [Smc σ] [Smc τ]

/-- `f` commutes with the calls that a poll makes. -/
structure Commutes (f : σ → τ) : Prop where
  readSensors : ∀ smc, Smc.readSensors (f smc) = (Smc.readSensors smc).map id f
  readFan : ∀ smc, Smc.readFan (f smc) = (Smc.readFan smc).map id f
  writeSpeed : ∀ rpm smc, Smc.writeSpeed rpm (f smc) = (Smc.writeSpeed rpm smc).map id f
  setMode : ∀ mode smc, Smc.setMode mode (f smc) = (Smc.setMode mode smc).map id f

namespace Frame

/-- The frame over another backend. -/
def onto (f : σ → τ) (caps : SafetyCapabilities) (p : Frame σ) : Frame τ :=
  { p with smc := f p.smc, capabilities := caps }

section Fields

variable (f : σ → τ) (caps : SafetyCapabilities) (p : Frame σ)

omit [Smc σ] [Smc τ]

@[simp] theorem onto_lastWritten : (p.onto f caps).lastWritten = p.lastWritten := rfl
@[simp] theorem onto_manualArmed : (p.onto f caps).manualArmed = p.manualArmed := rfl
@[simp] theorem onto_hwMin : (p.onto f caps).hwMin = p.hwMin := rfl
@[simp] theorem onto_hwMax : (p.onto f caps).hwMax = p.hwMax := rfl
@[simp] theorem onto_host : (p.onto f caps).host = p.host := rfl

end Fields

section Over

variable {f : σ → τ} (caps : SafetyCapabilities) (commutes : Commutes f)

include commutes

theorem readSensors_onto (site : Site) (p : Frame σ) :
    (p.onto f caps).readSensors site = (p.readSensors site).map id (onto f caps) := by
  simp only [readSensors, onto, commutes.readSensors]
  rfl

theorem readFan_onto (site : Site) (p : Frame σ) :
    (p.onto f caps).readFan site = (p.readFan site).map id (onto f caps) := by
  simp only [readFan, onto, commutes.readFan]
  rfl

theorem writeSpeed_onto (site : Site) (rpm : Nat) (p : Frame σ) :
    (p.onto f caps).writeSpeed site rpm = (p.writeSpeed site rpm).map id (onto f caps) := by
  simp only [writeSpeed, onto, commutes.writeSpeed]
  rfl

theorem setMode_onto (site : Site) (mode : FanMode) (p : Frame σ) :
    (p.onto f caps).setMode site mode = (p.setMode site mode).map id (onto f caps) := by
  simp only [setMode, onto, commutes.setMode]
  rfl

/-! ### The write paths -/

theorem degradeToAuto_onto (p : Frame σ) :
    (p.onto f caps).degradeToAuto = p.degradeToAuto.onto f caps := by
  let latched : Frame σ := { p with
    monitorOnly := true, lastWritten := none, writeFailures := 0, stallPolls := 0,
    offTargetPolls := 0 }
  have asked := setMode_onto caps commutes .degradeToAuto .auto latched
  unfold degradeToAuto
  simp only
  erw [asked]
  cases answer : latched.setMode .degradeToAuto .auto with
  | mk verified q => cases verified <;> rfl

theorem failWrite_onto (msg : String) (p : Frame σ) :
    (p.onto f caps).failWrite msg = (p.failWrite msg).onto f caps := by
  let struck : Frame σ := { p.noteRecent msg |>.note "write/re-assert failed" with
    writeFailures := p.writeFailures + 1 }
  show (if writeFailFallback ≤ struck.writeFailures then (struck.onto f caps).degradeToAuto
      else struck.onto f caps)
    = (if writeFailFallback ≤ struck.writeFailures
        then struck.degradeToAuto else struck).onto f caps
  rw [degradeToAuto_onto caps commutes]
  split <;> rfl

theorem enterManual_onto (p : Frame σ) :
    (p.onto f caps).enterManual = p.enterManual.map (onto f caps) id := by
  unfold enterManual
  rw [setMode_onto caps commutes]
  cases p.setMode .enterManual .manual with
  | mk verified q =>
      cases verified with
      | ok mode => rfl
      | error e => exact congrArg (·, false) (failWrite_onto caps commutes _ q)

theorem writeOwned_onto (rpm : Nat) (p : Frame σ) :
    (p.onto f caps).writeOwned rpm = (p.writeOwned rpm).map (onto f caps) id := by
  unfold writeOwned
  simp only
  rw [onto_lastWritten, onto_hwMin, onto_hwMax, writeSpeed_onto caps commutes]
  split
  · rfl
  · cases p.writeSpeed .writeControlled (clamp p.hwMin p.hwMax rpm) with
    | mk verified q =>
        cases verified with
        | ok v => rfl
        | error e => exact congrArg (·, none) (failWrite_onto caps commutes _ q)

theorem writeControlled_onto (rpm : Nat) (p : Frame σ) :
    (p.onto f caps).writeControlled rpm = (p.writeControlled rpm).map (onto f caps) id := by
  unfold writeControlled
  rw [onto_manualArmed, enterManual_onto caps commutes]
  split
  · exact writeOwned_onto caps commutes rpm p
  · cases p.enterManual with
    | mk q taken =>
        cases taken with
        | true => exact writeOwned_onto caps commutes rpm q
        | false => rfl

theorem act_onto (decision : Decision) (p : Frame σ) :
    (p.onto f caps).act decision = (p.act decision).map (onto f caps) id := by
  unfold act
  show (if p.monitorOnly then (p.onto f caps, none) else _) = _
  split
  · rfl
  · cases decision with
    | observe => rfl
    | setSpeed rpm => exact writeControlled_onto caps commutes rpm p
    | escalateMax => exact writeControlled_onto caps commutes p.cfgMaxRpm p
    | returnToAuto =>
        simp only
        show (if p.manualArmed then _ else (p.onto f caps, none)) = _
        rw [setMode_onto caps commutes]
        split
        · cases p.setMode .act .auto with
          | mk verified q =>
              cases verified with
              | ok mode => rfl
              | error e => exact congrArg (·, none) (failWrite_onto caps commutes _ q)
        · rfl

/-! ### The retry and the command -/

omit commutes [Smc σ] [Smc τ] in
theorem autoRestoreFailed_onto (p : Frame σ) :
    (p.onto f caps).autoRestoreFailed = p.autoRestoreFailed.onto f caps := by
  unfold autoRestoreFailed
  show (if p.autoRetryLogPolls = 0 then _ else _) = _
  split <;> rfl

theorem autoRestoreRetry_onto (p : Frame σ) :
    (p.onto f caps).autoRestoreRetry = p.autoRestoreRetry.onto f caps := by
  let trying : Frame σ := { p with
    autoRestoreAttempts := min (p.autoRestoreAttempts + 1) u32Max }
  have looked := readFan_onto caps commutes .autoRestoreRetry trying
  unfold autoRestoreRetry
  simp only
  show (if p.autoRestorePending then _ else p.onto f caps) = _
  erw [looked]
  split
  · cases trying.readFan .autoRestoreRetry with
    | mk fan q =>
        have asked := setMode_onto caps commutes .autoRestoreRetry .auto q
        simp only [Prod.map, id]
        -- unless the register reads Auto, the mode is asked for
        rcases fan with e | ⟨rpm, mode⟩
        · simp only
          rw [asked]
          rcases q.setMode .autoRestoreRetry .auto with ⟨verified, q'⟩
          cases verified with
          | ok mode => rfl
          | error e => exact autoRestoreFailed_onto caps q'
        · cases mode with
          | auto => rfl
          | manual =>
              simp only
              rw [asked]
              rcases q.setMode .autoRestoreRetry .auto with ⟨verified, q'⟩
              cases verified with
              | ok mode => rfl
              | error e => exact autoRestoreFailed_onto caps q'
  · rfl

theorem leaveControl_onto (p : Frame σ) :
    (p.onto f caps).leaveControl = p.leaveControl.onto f caps := by
  unfold leaveControl
  simp only
  rw [setMode_onto caps commutes]
  cases armed : p.manualArmed with
  | false =>
      have armed : (p.onto f caps).manualArmed = false := armed
      simp only [armed, Bool.false_eq_true, if_false]
      rfl
  | true =>
      have armed : (p.onto f caps).manualArmed = true := armed
      simp only [armed, if_true]
      cases p.setMode .applyMode .auto with
      | mk verified q =>
          cases verified with
          | ok mode => rfl
          | error e =>
              have failed := failWrite_onto caps commutes s!"cmd observe: set AUTO error: {e}"
                { q with
                  autoRestorePending := true, autoRestoreAttempts := 1,
                  autoRetryLogPolls := autoRetryLogPollsMax }
              exact congrArg (fun r : Frame τ => { r with mode := .observe }) failed

omit commutes [Smc σ] [Smc τ] in
theorem rearm_onto (requested : RunMode) (p : Frame σ) :
    (p.onto f caps).rearm requested = (p.rearm requested).onto f caps := by
  unfold rearm
  show (if p.monitorOnly = true ∧ requested ≠ .observe then _ else _) = _
  split <;> rfl

theorem applyMode_onto (requested : RunMode) (p : Frame σ) :
    (p.onto f caps).applyMode requested = (p.applyMode requested).onto f caps := by
  unfold applyMode
  simp only
  rw [rearm_onto]
  show (if p.l2Absent = true ∧ requested ≠ .observe then _ else
    if requested = (p.rearm requested).mode then _ else _) = _
  split
  · rfl
  · split
    · rfl
    · split
      · exact leaveControl_onto caps commutes _
      · rfl

theorem applyCmdFile_onto [SerdeJson] (p : Frame σ) :
    (p.onto f caps).applyCmdFile = p.applyCmdFile.onto f caps := by
  unfold applyCmdFile
  rw [onto_host]
  cases p.host.cmd with
  | absent => rfl
  | unreadable e => rfl
  | content raw =>
      simp only
      show (if p.lastCmd = some raw then _ else _) = _
      split
      · rfl
      · cases parseCmd raw with
        | error ignored => rfl
        | ok requested =>
            exact applyMode_onto caps commutes requested { p with lastCmd := some raw }

/-! ### L1 -/

theorem l1ModeDrift_onto (fan : FanState) (p : Frame σ) :
    (p.onto f caps).l1ModeDrift fan = (p.l1ModeDrift fan).map (onto f caps) id := by
  unfold l1ModeDrift
  rw [enterManual_onto caps commutes]
  split
  · rfl
  · cases p.enterManual with
    | mk q taken => cases taken <;> rfl

theorem l1Tracking_onto (dev written : Nat) (applied : Option Nat) (failed : Bool) (p : Frame σ) :
    (p.onto f caps).l1Tracking dev written applied failed
      = (p.l1Tracking dev written applied failed).map (onto f caps) id := by
  unfold l1Tracking
  simp only
  show (if p.monitorOnly = false ∧ verifyToleranceRpm < dev ∧ applied = none then _ else _) = _
  split
  · have asked := writeSpeed_onto caps commutes .l1Poll written
      (p.note s!"L1: tracking {dev} rpm from written {written}; re-asserting (not a failure)")
    erw [asked]
    cases
      (p.note s!"L1: tracking {dev} rpm from written {written}; re-asserting (not a failure)")
        |>.writeSpeed .l1Poll written with
    | mk verified q =>
        cases verified with
        | ok v => rfl
        | error e => exact congrArg (·, true) (failWrite_onto caps commutes _ q)
  · rfl

omit commutes [Smc σ] [Smc τ] in
theorem l1Dwell_onto (p : Frame σ) : (p.onto f caps).l1Dwell = p.l1Dwell.onto f caps := by
  unfold l1Dwell
  simp only
  show (if min (p.offTargetPolls + 1) u32Max % offTargetWarnPolls = 0 then _ else _) = _
  split <;> rfl

theorem l1Stall_onto (dev rpm : Nat) (prevActual : Option Nat) (p : Frame σ) :
    (p.onto f caps).l1Stall dev rpm prevActual
      = (p.l1Stall dev rpm prevActual).map (onto f caps) id := by
  unfold l1Stall
  simp only
  rw [l1Dwell_onto]
  split
  · split
    · rfl
    · show (if stallPollsMax ≤ min (p.l1Dwell.stallPolls + 1) u32Max then _ else _) = _
      split
      · let msg := s!"stall detector: fan stuck {dev} rpm off target with a motionless tach for " ++
          s!"{stallPollsMax} polls; actuator unresponsive"
        have fell := degradeToAuto_onto caps commutes
          { p.l1Dwell.noteRecent msg |>.note msg with stallPolls := 0, offTargetPolls := 0 }
        exact congrArg (·, true) fell
      · rfl
  · rfl

omit commutes [Smc σ] [Smc τ] in
theorem l1Verdict_onto (failed : Bool) (p : Frame σ) :
    (p.onto f caps).l1Verdict failed = (p.l1Verdict failed).map (onto f caps) id := by
  unfold l1Verdict
  show (if failed then _ else if p.lastWritten.isSome then _ else _) = _
  split
  · rfl
  · split <;> rfl

theorem l1Window_onto (dev rpm : Nat) (prevActual : Option Nat) (failed : Bool) (p : Frame σ) :
    (p.onto f caps).l1Window dev rpm prevActual failed
      = (p.l1Window dev rpm prevActual failed).map (onto f caps) id := by
  unfold l1Window
  rw [l1Stall_onto caps commutes]
  cases p.l1Stall dev rpm prevActual with
  | mk q fired =>
      cases fired with
      | true => rfl
      | false => exact l1Verdict_onto caps failed q

theorem l1Target_onto (fan : FanState) (prevActual applied : Option Nat) (failed : Bool)
    (p : Frame σ) :
    (p.onto f caps).l1Target fan prevActual applied failed
      = (p.l1Target fan prevActual applied failed).map (onto f caps) id := by
  unfold l1Target
  rw [onto_lastWritten]
  cases p.lastWritten with
  | none => exact l1Verdict_onto caps failed p
  | some written =>
      simp only
      rw [l1Tracking_onto caps commutes]
      exact l1Window_onto caps commutes _ _ _ _ _

theorem l1Checks_onto (fan : FanState) (prevActual applied : Option Nat) (p : Frame σ) :
    (p.onto f caps).l1Checks fan prevActual applied
      = (p.l1Checks fan prevActual applied).map (onto f caps) id := by
  unfold l1Checks
  rw [l1ModeDrift_onto caps commutes]
  exact l1Target_onto caps commutes _ _ _ _ _

theorem l1Poll_onto (applied : Option Nat) (p : Frame σ) :
    (p.onto f caps).l1Poll applied = (p.l1Poll applied).map (onto f caps) id := by
  unfold l1Poll
  rw [readFan_onto caps commutes]
  cases p.readFan .l1Poll with
  | mk answer q =>
      cases answer with
      | error e =>
          have failed := failWrite_onto caps commutes "L1 poll defeated by fan read failure"
            (q.noteRecent s!"L1 fan read failed: {e}")
          exact congrArg (·, false) failed
      | ok fan =>
          let seen : Frame σ := { q with lastActual := some fan.rpm, prevActual := some fan.rpm }
          have checked := l1Checks_onto caps commutes fan q.prevActual applied seen
          show (if seen.manualArmed = false then
              (onto f caps { seen with stallPolls := 0, offTargetPolls := 0 }, true)
            else if seen.autoRestorePending then (seen.onto f caps, true)
            else (seen.onto f caps).l1Checks fan q.prevActual applied) = Prod.map (onto f caps) id
              (if seen.manualArmed = false then
                ({ seen with stallPolls := 0, offTargetPolls := 0 }, true)
              else if seen.autoRestorePending then (seen, true)
              else seen.l1Checks fan q.prevActual applied)
          rw [checked]
          split
          · rfl
          · split <;> rfl

/-! ### Publishing and startup -/

omit commutes [Smc σ] [Smc τ] in
theorem publishState_onto (p : Frame σ) :
    (p.onto f caps).publishState = p.publishState.onto f caps := by
  unfold publishState
  rw [onto_host]
  cases p.host.publishError <;> rfl

omit commutes in
theorem armL2_onto {p : Frame σ}
    (probes : Smc.probeSafeRestore (f p.smc) = (Smc.probeSafeRestore p.smc).map id f) :
    (p.onto f caps).armL2 = p.armL2.onto f caps := by
  have probed : (p.onto f caps).probeSafeRestore .run
      = (p.probeSafeRestore .run).map id (onto f caps) := by
    simp only [probeSafeRestore, onto, probes]
    rfl
  have settles (armed : Frame σ) :
      (if armed.mode ≠ .observe ∧ armed.l2Absent = true then
        { armed.onto f caps with mode := .observe } else armed.onto f caps)
      = onto f caps (if armed.mode ≠ .observe ∧ armed.l2Absent = true then
        { armed with mode := .observe } else armed) := by
    split <;> rfl
  unfold armL2
  rw [probed]
  cases p.probeSafeRestore .run with
  | mk answer q =>
      cases answer with
      | ok restore => exact settles { q with l2Absent := false }
      | error e =>
          let msg := s!"L2 death path ABSENT: the arm-time restore probe failed: {e} (fix: run " ++
            "as root so the fan mode attribute is writable, then check `afanctl doctor`); " ++
            "refusing to arm an unproven restore, so no control mode will be entered"
          exact settles { q.noteRecent msg with l2Absent := true }

theorem reconcileStaleState_onto (inherited : Except SmcError FanMode) (p : Frame σ) :
    (p.onto f caps).reconcileStaleState inherited
      = (p.reconcileStaleState inherited).onto f caps := by
  unfold reconcileStaleState
  cases inherited with
  | error e =>
      show (if p.mode = .observe then p.onto f caps else _) = _
      simp only
      split <;> rfl
  | ok mode =>
      cases mode with
      | auto => rfl
      | manual =>
          simp only
          rw [setMode_onto caps commutes]
          cases p.setMode .reconcile .auto with
          | mk verified q => cases verified <;> rfl

end Over

end Frame

/-! ### Polls -/

/-- The published file of a daemon with other capabilities. -/
def StateFile.onto (caps : SafetyCapabilities) (file : StateFile) : StateFile :=
  { file with
    safety :=
      { file.safety with
        backend := caps.backend
        hwWatchdog := caps.hwWatchdog
        firmwareAutoOnSuspend := caps.firmwareAutoOnSuspend } }

namespace Supervisor

/-- The daemon over another backend. -/
def onto (f : σ → τ) (caps : SafetyCapabilities) (s : Supervisor σ) : Supervisor τ :=
  { s with smc := f s.smc, capabilities := caps }

/-- What the polls report and publish. -/
def reports [SerdeJson] : Machine Host (Supervisor σ) (StepReport × StateFile) where
  next := next
  out host s := [((s.stepOnce host).report, (s.stepOnce host).state)]

section Over

variable [SerdeJson] {f : σ → τ} (caps : SafetyCapabilities) (commutes : Commutes f) (host : Host)
  (s : Supervisor σ)

include commutes

theorem commanded_onto : (s.onto f caps).commanded host = (s.commanded host).onto f caps :=
  Frame.applyCmdFile_onto caps commutes (s.frame host).pingWatchdog

theorem retried_onto : (s.onto f caps).retried host = (s.retried host).onto f caps := by
  unfold retried
  rw [commanded_onto caps commutes host s]
  exact Frame.autoRestoreRetry_onto caps commutes _

theorem sensed_onto :
    (s.onto f caps).sensed host = (s.sensed host).map id (Frame.onto f caps) := by
  unfold sensed
  rw [retried_onto caps commutes host s, Frame.readSensors_onto caps commutes]
  cases (s.retried host).readSensors .stepOnce with
  | mk answer p => cases answer <;> rfl

theorem decided_onto : (s.onto f caps).decided host = s.decided host := by
  unfold decided
  rw [sensed_onto caps commutes host s]
  rfl

theorem acted_onto :
    (s.onto f caps).acted host = (s.acted host).map (Frame.onto f caps) id := by
  unfold acted
  rw [sensed_onto caps commutes host s, decided_onto caps commutes host s]
  exact Frame.act_onto caps commutes _ _

theorem checked_onto :
    (s.onto f caps).checked host = (s.checked host).map (Frame.onto f caps) id := by
  unfold checked
  rw [acted_onto caps commutes host s]
  exact Frame.l1Poll_onto caps commutes _ _

/-- A poll over the other backend is the poll, over the other backend. -/
theorem stepOnce_onto :
    (s.onto f caps).stepOnce host =
      { sup := (s.next host).onto f caps
        report := (s.stepOnce host).report
        state := (s.stepOnce host).state.onto caps
        log := s.calls host } := by
  unfold next calls stepOnce
  simp only [decided_onto caps commutes host s, acted_onto caps commutes host s,
    checked_onto caps commutes host s]
  generalize s.checked host = checked, s.decided host = decided, s.acted host = acted
  obtain ⟨p, verdict⟩ := checked
  obtain ⟨decision, controller⟩ := decided
  simp only [Prod.map]
  have published := Frame.publishState_onto (f := f) caps { p with polls := p.polls + 1 }
  refine congr (congr (congr (congrArg PollResult.mk ?_) ?_) ?_) ?_
  · exact congrArg (fun q : Frame τ => (⟨q.pingWatchdog.toDaemon, controller⟩ : Supervisor τ))
      published
  · exact congrArg (fun q : Frame τ => (⟨q.pingWatchdog.mode, controller.tEff, decision, acted.2,
      !p.monitorOnly && verdict, q.pingWatchdog.notes⟩ : StepReport)) published
  · rfl
  · exact congrArg (fun q : Frame τ => q.pingWatchdog.log) published

omit [SerdeJson] in
/-- Startup over the other backend, if the probe is answered alike where it is made. -/
theorem start_onto (host : Host)
    (probes : Smc.probeSafeRestore (f (s.inherited host).smc)
      = (Smc.probeSafeRestore (s.inherited host).smc).map id f) :
    (s.onto f caps).start host = (s.start host).onto f caps ∧
      ((s.onto f caps).started host).log = (s.started host).log := by
  have looked := Frame.readFan_onto caps commutes .run { s.frame host with polls := 0 }
  have same : (s.onto f caps).started host = (s.started host).onto f caps := by
    unfold started Frame.startup
    simp only
    erw [looked]
    have armed := Frame.armL2_onto caps probes
    show ((s.inherited host).onto f caps).armL2.reconcileStaleState _ = _
    rw [armed]
    exact Frame.reconcileStaleState_onto caps commutes _ _
  unfold start
  rw [same]
  exact ⟨rfl, rfl⟩

end Over

end Supervisor

/-! ### Backends that answer alike -/

/-- Backends related by `R` give the same answers to the calls of a poll, and stay related. -/
structure Alike (R : σ → τ → Prop) : Prop where
  readSensors : ∀ {a b}, R a b → (Smc.readSensors a).1 = (Smc.readSensors b).1 ∧
    R (Smc.readSensors a).2 (Smc.readSensors b).2
  readFan : ∀ {a b}, R a b → (Smc.readFan a).1 = (Smc.readFan b).1 ∧
    R (Smc.readFan a).2 (Smc.readFan b).2
  writeSpeed : ∀ {a b} (rpm), R a b → (Smc.writeSpeed rpm a).1 = (Smc.writeSpeed rpm b).1 ∧
    R (Smc.writeSpeed rpm a).2 (Smc.writeSpeed rpm b).2
  setMode : ∀ {a b} (mode), R a b → (Smc.setMode mode a).1 = (Smc.setMode mode b).1 ∧
    R (Smc.setMode mode a).2 (Smc.setMode mode b).2

/-- Two related backends, side by side. -/
abbrev Span (R : σ → τ → Prop) : Type := { pair : σ × τ // R pair.1 pair.2 }

namespace Span

variable {R : σ → τ → Prop}

open Classical in
/-- Both are asked, and the first one answers. A probe is not known to keep the relation; the
pair stays where it is if it does not. -/
@[reducible] noncomputable def smc (alike : Alike R) : Smc (Span R) where
  readSensors s := ((Smc.readSensors s.1.1).1,
    ⟨((Smc.readSensors s.1.1).2, (Smc.readSensors s.1.2).2), (alike.readSensors s.2).2⟩)
  readFan s := ((Smc.readFan s.1.1).1,
    ⟨((Smc.readFan s.1.1).2, (Smc.readFan s.1.2).2), (alike.readFan s.2).2⟩)
  hwMinRpm s := Smc.hwMinRpm s.1.1
  hwMaxRpm s := Smc.hwMaxRpm s.1.1
  writeSpeed rpm s := ((Smc.writeSpeed rpm s.1.1).1,
    ⟨((Smc.writeSpeed rpm s.1.1).2, (Smc.writeSpeed rpm s.1.2).2), (alike.writeSpeed rpm s.2).2⟩)
  setMode mode s := ((Smc.setMode mode s.1.1).1,
    ⟨((Smc.setMode mode s.1.1).2, (Smc.setMode mode s.1.2).2), (alike.setMode mode s.2).2⟩)
  safeRestore s := Smc.safeRestore s.1.1
  probeSafeRestore s := ((Smc.probeSafeRestore s.1.1).1,
    if kept : R (Smc.probeSafeRestore s.1.1).2 (Smc.probeSafeRestore s.1.2).2 then
      ⟨((Smc.probeSafeRestore s.1.1).2, (Smc.probeSafeRestore s.1.2).2), kept⟩
    else s)
  safetyCapabilities s := Smc.safetyCapabilities s.1.1

theorem commutes_fst (alike : Alike R) :
    @Commutes _ _ (smc alike) _ (fun s : Span R => s.1.1) :=
  let := smc alike
  ⟨fun _ => rfl, fun _ => rfl, fun _ _ => rfl, fun _ _ => rfl⟩

theorem commutes_snd (alike : Alike R) :
    @Commutes _ _ (smc alike) _ (fun s : Span R => s.1.2) :=
  let := smc alike
  ⟨fun s => Prod.ext (alike.readSensors s.2).1.symm rfl,
    fun s => Prod.ext (alike.readFan s.2).1.symm rfl,
    fun rpm s => Prod.ext (alike.writeSpeed rpm s.2).1.symm rfl,
    fun mode s => Prod.ext (alike.setMode mode s.2).1.symm rfl⟩

end Span

namespace Supervisor

variable {R : σ → τ → Prop}

/-- The same daemon over related backends; the capabilities may differ. -/
structure Mirrors (R : σ → τ → Prop) (s : Supervisor σ) (t : Supervisor τ) : Prop where
  smc : R s.smc t.smc
  same : t = s.onto (fun _ => t.smc) t.capabilities

omit [Smc σ] [Smc τ] in
/-- What the two have in common. -/
theorem Mirrors.span {s : Supervisor σ} {t : Supervisor τ} (mirrors : s.Mirrors R t) :
    ∃ w : Supervisor (Span R), s = w.onto (fun p => p.1.1) s.capabilities ∧
      t = w.onto (fun p => p.1.2) t.capabilities :=
  ⟨s.onto (fun _ => ⟨(s.smc, t.smc), mirrors.smc⟩) s.capabilities, rfl, mirrors.same⟩

omit [Smc σ] [Smc τ] in
theorem mirrors_of_span {w : Supervisor (Span R)} (caps caps' : SafetyCapabilities) :
    (w.onto (fun p => p.1.1) caps).Mirrors R (w.onto (fun p => p.1.2) caps') :=
  ⟨w.smc.2, rfl⟩

/-- Startup keeps the mirror, if the probe is answered alike where it is made. -/
theorem Mirrors.start (alike : Alike R) {s : Supervisor σ} {t : Supervisor τ}
    (mirrors : s.Mirrors R t) (host : Host)
    (probes : ∀ {a b}, R a b → a = (Smc.readFan s.smc).2 → b = (Smc.readFan t.smc).2 →
      (Smc.probeSafeRestore a).1 = (Smc.probeSafeRestore b).1 ∧
        R (Smc.probeSafeRestore a).2 (Smc.probeSafeRestore b).2) :
    (s.start host).Mirrors R (t.start host) ∧ (s.started host).log = (t.started host).log ∧
      (t.start host).capabilities = t.capabilities := by
  let := Span.smc alike
  obtain ⟨w, first, second⟩ := mirrors.span
  obtain ⟨same, kept⟩ : (Smc.probeSafeRestore (w.inherited host).smc.1.1).1
        = (Smc.probeSafeRestore (w.inherited host).smc.1.2).1 ∧
      R (Smc.probeSafeRestore (w.inherited host).smc.1.1).2
        (Smc.probeSafeRestore (w.inherited host).smc.1.2).2 :=
    probes (w.inherited host).smc.2 (by rw [first]; rfl) (by rw [second]; rfl)
  have paired : (Smc.probeSafeRestore (w.inherited host).smc).2
      = ⟨((Smc.probeSafeRestore (w.inherited host).smc.1.1).2,
        (Smc.probeSafeRestore (w.inherited host).smc.1.2).2), kept⟩ := dif_pos kept
  obtain ⟨left, leftLog⟩ := start_onto s.capabilities (Span.commutes_fst alike) w host
    (Prod.ext rfl (congrArg (·.1.1) paired).symm)
  obtain ⟨right, rightLog⟩ := start_onto t.capabilities (Span.commutes_snd alike) w host
    (Prod.ext same.symm (congrArg (·.1.2) paired).symm)
  rw [← first] at left leftLog
  rw [← second] at right rightLog
  rw [left, right, leftLog, rightLog]
  exact ⟨mirrors_of_span _ _, rfl, rfl⟩

variable [SerdeJson]

/-- A poll keeps the mirror, and makes the same calls with the same answers. -/
theorem Mirrors.poll (alike : Alike R) {s : Supervisor σ} {t : Supervisor τ}
    (mirrors : s.Mirrors R t) (host : Host) :
    (s.next host).Mirrors R (t.next host) ∧ s.calls host = t.calls host ∧
      (t.stepOnce host).report = (s.stepOnce host).report ∧
      (t.stepOnce host).state = (s.stepOnce host).state.onto t.capabilities ∧
      (t.next host).capabilities = t.capabilities := by
  let := Span.smc alike
  obtain ⟨w, first, second⟩ := mirrors.span
  have left := stepOnce_onto s.capabilities (Span.commutes_fst alike) host w
  have right := stepOnce_onto t.capabilities (Span.commutes_snd alike) host w
  rw [← first] at left
  rw [← second] at right
  refine ⟨?_, ?_, ?_, ?_, ?_⟩
  · unfold next
    rw [left, right]
    exact mirrors_of_span _ _
  · unfold calls
    rw [left, right]
  · rw [left, right]
  · rw [left, right]
    rfl
  · unfold next
    rw [right]
    rfl

/-- So does a run. -/
theorem Mirrors.run (alike : Alike R) (hosts : List Host) {s : Supervisor σ} {t : Supervisor τ}
    (mirrors : s.Mirrors R t) :
    (loop.run hosts s).Mirrors R (loop.run hosts t) ∧ loop.trace hosts s = loop.trace hosts t ∧
      reports.trace hosts t
        = (reports.trace hosts s).map (Prod.map id (StateFile.onto t.capabilities)) := by
  induction hosts generalizing s t with
  | nil => exact ⟨mirrors, rfl, rfl⟩
  | cons host hosts ih =>
      obtain ⟨next, calls, report, state, caps⟩ := mirrors.poll alike host
      obtain ⟨ends, trace, published⟩ := ih next
      refine ⟨ends, ?_, ?_⟩
      · show s.calls host ++ loop.trace hosts (s.next host)
          = t.calls host ++ loop.trace hosts (t.next host)
        rw [calls, trace]
      · show ((t.stepOnce host).report, (t.stepOnce host).state)
            :: reports.trace hosts (t.next host)
          = ((s.stepOnce host).report, (s.stepOnce host).state.onto t.capabilities)
            :: (reports.trace hosts (s.next host)).map _
        rw [report, state, published, caps]

end Supervisor

end Afanctl
