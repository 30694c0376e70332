import Afanctl.Supervisor.Refinement
import Afanctl.Supervisor.Startup

/-!
The band of a supervisor is fixed at construction.

The hardware limits and the escalation ceiling are read by the write paths and by
the published state, and no stage of startup or of a poll assigns them.
-/

namespace Afanctl

open Afanctl.Lib

/-- The hardware limits and the ceiling that escalation commands. -/
structure Band where
  hwMin : Nat
  hwMax : Nat
  cfgMaxRpm : Nat
  deriving DecidableEq, Repr

def Daemon.band {σ : Type} (d : Daemon σ) : Band := ⟨d.hwMin, d.hwMax, d.cfgMaxRpm⟩

namespace Frame

variable {σ : Type}

@[simp] theorem autoRestoreFailed_band (p : Frame σ) : p.autoRestoreFailed.band = p.band := by
  unfold autoRestoreFailed
  split <;> rfl

@[simp] theorem l1Dwell_band (p : Frame σ) : p.l1Dwell.band = p.band := by
  simp only [l1Dwell]
  split <;> rfl

@[simp] theorem l1Verdict_band (failed : Bool) (p : Frame σ) :
    (p.l1Verdict failed).1.band = p.band := by
  unfold l1Verdict
  split
  · rfl
  · split <;> rfl

@[simp] theorem rearm_band (requested : RunMode) (p : Frame σ) :
    (p.rearm requested).band = p.band := by
  unfold rearm
  split <;> rfl

variable [Smc σ]

/-! ### The write paths -/

@[simp] theorem degradeToAuto_band (p : Frame σ) : p.degradeToAuto.band = p.band := by
  unfold degradeToAuto setMode
  cases answer : (Smc.setMode .auto p.smc).1 <;> simp only [answer] <;> rfl

@[simp] theorem failWrite_band (msg : String) (p : Frame σ) : (p.failWrite msg).band = p.band := by
  simp only [failWrite]
  split
  · exact degradeToAuto_band _
  · rfl

@[simp] theorem enterManual_band (p : Frame σ) : p.enterManual.1.band = p.band := by
  cases answer : (Smc.setMode .manual p.smc).1 with
  | ok mode => rw [enterManual_ok answer]; rfl
  | error e => rw [enterManual_error answer]; exact failWrite_band _ _

@[simp] theorem writeOwned_band (rpm : Nat) (p : Frame σ) : (p.writeOwned rpm).1.band = p.band := by
  by_cases same : p.lastWritten = some (clamp p.hwMin p.hwMax rpm)
  · rw [writeOwned_same same]
  · cases answer : (Smc.writeSpeed (clamp p.hwMin p.hwMax rpm) p.smc).1 with
    | ok verified => rw [writeOwned_ok same answer]; rfl
    | error e => rw [writeOwned_error same answer]; exact failWrite_band _ _

@[simp] theorem writeControlled_band (rpm : Nat) (p : Frame σ) :
    (p.writeControlled rpm).1.band = p.band := by
  cases armed : p.manualArmed with
  | true => rw [writeControlled_armed rpm armed]; exact writeOwned_band rpm p
  | false =>
      cases answer : (Smc.setMode .manual p.smc).1 with
      | ok mode => rw [writeControlled_taken armed answer]; exact writeOwned_band rpm _
      | error e => rw [writeControlled_refused armed answer]; exact failWrite_band _ _

@[simp] theorem act_band (decision : Decision) (p : Frame σ) :
    (p.act decision).1.band = p.band := by
  cases latched : p.monitorOnly with
  | true => rw [act_latched decision latched]
  | false =>
      cases decision with
      | observe => rw [act_observe]
      | setSpeed rpm => rw [act_setSpeed rpm latched]; exact writeControlled_band rpm p
      | escalateMax => rw [act_escalateMax latched]; exact writeControlled_band _ p
      | returnToAuto =>
          cases armed : p.manualArmed with
          | false => rw [act_returnToAuto_free armed]
          | true =>
              cases answer : (Smc.setMode .auto p.smc).1 with
              | ok mode => rw [act_returnToAuto_ok latched armed answer]; rfl
              | error e =>
                  rw [act_returnToAuto_error latched armed answer]
                  exact failWrite_band _ _

@[simp] theorem autoRestoreRetry_band (p : Frame σ) : p.autoRestoreRetry.band = p.band := by
  cases pending : p.autoRestorePending with
  | false => rw [autoRestoreRetry_idle pending]
  | true =>
      by_cases seen : ∃ rpm, (Smc.readFan p.smc).1 = .ok ⟨rpm, .auto⟩
      · obtain ⟨rpm, answer⟩ := seen
        rw [autoRestoreRetry_seen pending answer]
        rfl
      · have unseen : ∀ rpm, (Smc.readFan p.smc).1 ≠ .ok ⟨rpm, .auto⟩ :=
          fun rpm answer => seen ⟨rpm, answer⟩
        cases answer : (Smc.setMode .auto (Smc.readFan p.smc).2).1 with
        | ok mode => rw [autoRestoreRetry_restored pending unseen answer]; rfl
        | error e =>
            rw [autoRestoreRetry_failed pending unseen answer]
            exact autoRestoreFailed_band _

/-! ### The command file -/

@[simp] theorem leaveControl_band (p : Frame σ) : p.leaveControl.band = p.band := by
  cases armed : p.manualArmed with
  | false => rw [leaveControl_free armed]; rfl
  | true =>
      cases answer : (Smc.setMode .auto p.smc).1 with
      | ok mode => simp only [leaveControl, armed, setMode, answer, ↓reduceIte]; rfl
      | error e => rw [leaveControl_error armed answer]; exact failWrite_band _ p.releaseFailed

@[simp] theorem applyMode_band (requested : RunMode) (p : Frame σ) :
    (p.applyMode requested).band = p.band := by
  simp only [applyMode]
  split
  · rfl
  · split
    · exact rearm_band requested p
    · split
      · exact (leaveControl_band _).trans (rearm_band requested p)
      · exact rearm_band requested p

@[simp] theorem applyCmdFile_band [SerdeJson] (p : Frame σ) : p.applyCmdFile.band = p.band := by
  unfold applyCmdFile
  split
  · rfl
  · rfl
  · split
    · rfl
    · split
      · rfl
      · exact applyMode_band _ _

/-! ### L1 -/

@[simp] theorem l1ModeDrift_band (fan : FanState) (p : Frame σ) :
    (p.l1ModeDrift fan).1.band = p.band := by
  by_cases manual : fan.mode = .manual
  · rw [l1ModeDrift_manual manual]
  · cases answer : (Smc.setMode .manual p.smc).1 with
    | ok mode => rw [l1ModeDrift_ok manual answer]; rfl
    | error e => rw [l1ModeDrift_error manual answer]; exact failWrite_band _ _

@[simp] theorem l1Tracking_band (dev written : Nat) (applied : Option Nat) (failed : Bool)
    (p : Frame σ) : (p.l1Tracking dev written applied failed).1.band = p.band := by
  by_cases off : p.Reasserts dev applied
  · cases answer : (Smc.writeSpeed written p.smc).1 with
    | ok verified => rw [l1Tracking_ok off answer]; rfl
    | error e => rw [l1Tracking_error off answer]; exact failWrite_band _ _
  · rw [l1Tracking_skip off]

@[simp] theorem l1Stall_band (dev rpm : Nat) (prevActual : Option Nat) (p : Frame σ) :
    (p.l1Stall dev rpm prevActual).1.band = p.band := by
  simp only [l1Stall]
  split
  · split
    · exact l1Dwell_band p
    · split
      · exact (degradeToAuto_band _).trans (l1Dwell_band p)
      · exact l1Dwell_band p
  · rfl

@[simp] theorem l1Target_band (fan : FanState) (prevActual applied : Option Nat) (failed : Bool)
    (p : Frame σ) : (p.l1Target fan prevActual applied failed).1.band = p.band := by
  cases live : p.lastWritten with
  | none => simp only [l1Target, live, l1Verdict_band]
  | some written =>
      rw [l1Target_live live]
      have stalled := l1Stall_band (absDiff fan.rpm written) fan.rpm prevActual
        (p.l1Tracking (absDiff fan.rpm written) written applied failed).1
      rw [l1Tracking_band] at stalled
      unfold l1Window
      split
      · next fired => rw [fired] at stalled; exact stalled
      · next quiet => rw [quiet] at stalled; exact (l1Verdict_band _ _).trans stalled

@[simp] theorem l1Poll_band (applied : Option Nat) (p : Frame σ) :
    (p.l1Poll applied).1.band = p.band := by
  cases answer : (Smc.readFan p.smc).1 with
  | error e => rw [l1Poll_error answer]; exact failWrite_band _ _
  | ok fan =>
      cases armed : p.manualArmed with
      | false => rw [l1Poll_free answer armed]; rfl
      | true =>
          cases pending : p.autoRestorePending with
          | true => rw [l1Poll_releasing answer armed pending]; rfl
          | false =>
              rw [l1Poll_owned answer armed pending]
              simp only [l1Checks, l1Target_band, l1ModeDrift_band]
              rfl

/-! ### Startup -/

@[simp] theorem armL2_band (p : Frame σ) : p.armL2.band = p.band := by
  unfold armL2 probeSafeRestore
  cases answer : (Smc.probeSafeRestore p.smc).1 <;> simp only [answer] <;> split <;> rfl

@[simp] theorem reconcileStaleState_band (inherited : Except SmcError FanMode) (p : Frame σ) :
    (p.reconcileStaleState inherited).band = p.band := by
  unfold reconcileStaleState setMode
  split
  · split <;> rfl
  · rfl
  · cases answer : (Smc.setMode .auto p.smc).1 <;> simp only [answer] <;> rfl

end Frame

namespace Supervisor

variable {σ : Type} [Smc σ]

theorem start_band (host : Host) (s : Supervisor σ) : (s.start host).band = s.band :=
  (Frame.reconcileStaleState_band _ _).trans (Frame.armL2_band _)

variable [SerdeJson]

theorem sensed_band (host : Host) (s : Supervisor σ) : (s.sensed host).2.band = s.band := by
  have retried : (s.retried host).band = s.band :=
    (Frame.autoRestoreRetry_band _).trans (Frame.applyCmdFile_band _)
  cases answer : (Smc.readSensors (s.retried host).smc).1 with
  | ok readings => rw [sensed_ok answer]; exact retried
  | error e => rw [sensed_error answer]; exact retried

theorem checked_band (host : Host) (s : Supervisor σ) : (s.checked host).1.band = s.band :=
  (Frame.l1Poll_band _ _).trans ((Frame.act_band _ _).trans (sensed_band host s))

/-- A poll leaves the band as construction set it. -/
theorem next_band (host : Host) (s : Supervisor σ) : (s.next host).band = s.band := by
  obtain ⟨pings, polls, errors, eq⟩ := next_eq host s
  rw [eq]
  exact checked_band host s

end Supervisor

end Afanctl
