import Afanctl.Supervisor.Requests

/-!
The log is what happened.

Nothing in the source keeps a log, so what the model records has to be what the backend was
asked: the recorded calls, made one after the other on the state a poll starts from, are
answered as recorded and lead to the state it ends with.
-/

namespace Afanctl

open Afanctl.Lib

variable {σ : Type} [Smc σ]

/-- One call on a backend, as it is recorded. -/
inductive Serve : σ → List Event → σ → Prop where
  | readSensors {smc : σ} (site : Site) (c : Custody) :
      Serve smc [⟨site, .readSensors (Smc.readSensors smc).1, c⟩] (Smc.readSensors smc).2
  | readFan {smc : σ} (site : Site) (c : Custody) :
      Serve smc [⟨site, .readFan (Smc.readFan smc).1, c⟩] (Smc.readFan smc).2
  | writeSpeed {smc : σ} (site : Site) (rpm : Nat) (c : Custody) :
      Serve smc [⟨site, .writeSpeed rpm (Smc.writeSpeed rpm smc).1, c⟩] (Smc.writeSpeed rpm smc).2
  | setMode {smc : σ} (site : Site) (mode : FanMode) (c : Custody) :
      Serve smc [⟨site, .setMode mode (Smc.setMode mode smc).1, c⟩] (Smc.setMode mode smc).2

/-- Recorded calls, made one after the other. -/
abbrev Serves : σ → List Event → σ → Prop := Steps Serve

namespace Frame

variable {p q r : Frame σ}

/-- What is recorded between two frames leads from the one backend to the other. -/
def Faithful (p q : Frame σ) : Prop := ∃ es, q.log = p.log ++ es ∧ Serves p.smc es q.smc

namespace Faithful

theorem of_eq (log : q.log = p.log) (smc : q.smc = p.smc) : Faithful p q :=
  ⟨[], by simpa using log, smc ▸ .refl _⟩

theorem refl (p : Frame σ) : Faithful p p := of_eq rfl rfl

theorem trans (first : Faithful p q) (second : Faithful q r) : Faithful p r := by
  obtain ⟨es, log, serves⟩ := first
  obtain ⟨es', log', serves'⟩ := second
  exact ⟨es ++ es', by rw [log', log, List.append_assoc], serves.trans serves'⟩

end Faithful

theorem faithful_readSensors (site : Site) (p : Frame σ) : Faithful p (p.readSensors site).2 :=
  ⟨_, rfl, .single (.readSensors site _)⟩

theorem faithful_readFan (site : Site) (p : Frame σ) : Faithful p (p.readFan site).2 :=
  ⟨_, rfl, .single (.readFan site _)⟩

theorem faithful_writeSpeed (site : Site) (rpm : Nat) (p : Frame σ) :
    Faithful p (p.writeSpeed site rpm).2 :=
  ⟨_, rfl, .single (.writeSpeed site rpm _)⟩

theorem faithful_setMode (site : Site) (mode : FanMode) (p : Frame σ) :
    Faithful p (p.setMode site mode).2 :=
  ⟨_, rfl, .single (.setMode site mode _)⟩

/-! ### The write paths -/

theorem degradeToAuto_smc (p : Frame σ) : p.degradeToAuto.smc = (Smc.setMode .auto p.smc).2 := by
  unfold degradeToAuto setMode
  cases answer : (Smc.setMode .auto p.smc).1 <;> simp only [answer] <;> rfl

theorem faithful_degradeToAuto (p : Frame σ) : Faithful p p.degradeToAuto :=
  ⟨_, degradeToAuto_log p, degradeToAuto_smc p ▸ .single (.setMode .degradeToAuto .auto _)⟩

theorem faithful_failWrite (msg : String) (p : Frame σ) : Faithful p (p.failWrite msg) := by
  unfold failWrite
  simp only
  split
  · exact .trans (.of_eq rfl rfl) (faithful_degradeToAuto _)
  · exact .of_eq rfl rfl

theorem faithful_enterManual (p : Frame σ) : Faithful p p.enterManual.1 := by
  have asked := faithful_setMode .enterManual .manual p
  cases answer : (Smc.setMode .manual p.smc).1 with
  | ok mode =>
      rw [enterManual_ok answer]
      exact asked
  | error e =>
      rw [enterManual_error answer]
      exact asked.trans (faithful_failWrite _ _)

theorem faithful_writeOwned (rpm : Nat) (p : Frame σ) : Faithful p (p.writeOwned rpm).1 := by
  have asked := faithful_writeSpeed .writeControlled (clamp p.hwMin p.hwMax rpm) p
  by_cases same : p.lastWritten = some (clamp p.hwMin p.hwMax rpm)
  · rw [writeOwned_same same]
    exact .refl p
  · cases answer : (Smc.writeSpeed (clamp p.hwMin p.hwMax rpm) p.smc).1 with
    | ok verified =>
        rw [writeOwned_ok same answer]
        exact asked
    | error e =>
        rw [writeOwned_error same answer]
        exact asked.trans (faithful_failWrite _ _)

theorem faithful_writeControlled (rpm : Nat) (p : Frame σ) :
    Faithful p (p.writeControlled rpm).1 := by
  cases armed : p.manualArmed with
  | true =>
      rw [writeControlled_armed rpm armed]
      exact faithful_writeOwned rpm p
  | false =>
      have asked := faithful_setMode .enterManual .manual p
      cases answer : (Smc.setMode .manual p.smc).1 with
      | ok mode =>
          rw [writeControlled_taken armed answer]
          have entered : Faithful p { (p.setMode .enterManual .manual).2 with
            manualArmed := true } := asked
          exact entered.trans (faithful_writeOwned rpm _)
      | error e =>
          rw [writeControlled_refused armed answer]
          exact asked.trans (faithful_failWrite _ _)

theorem faithful_act (decision : Decision) (p : Frame σ) : Faithful p (p.act decision).1 := by
  cases latched : p.monitorOnly with
  | true =>
      rw [act_latched decision latched]
      exact .refl p
  | false =>
      cases decision with
      | observe =>
          rw [act_observe]
          exact .refl p
      | setSpeed rpm =>
          rw [act_setSpeed rpm latched]
          exact faithful_writeControlled rpm p
      | escalateMax =>
          rw [act_escalateMax latched]
          exact faithful_writeControlled p.cfgMaxRpm p
      | returnToAuto =>
          cases armed : p.manualArmed with
          | false =>
              rw [act_returnToAuto_free armed]
              exact .refl p
          | true =>
              have asked := faithful_setMode .act .auto p
              cases answer : (Smc.setMode .auto p.smc).1 with
              | ok mode =>
                  rw [act_returnToAuto_ok latched armed answer]
                  exact asked
              | error e =>
                  rw [act_returnToAuto_error latched armed answer]
                  exact asked.trans (faithful_failWrite _ _)

/-! ### The retry and the command -/

theorem faithful_autoRestoreRetry (p : Frame σ) : Faithful p p.autoRestoreRetry := by
  cases pending : p.autoRestorePending with
  | false =>
      rw [autoRestoreRetry_idle pending]
      exact .refl p
  | true =>
      have looked : Faithful p (p.attempting.readFan .autoRestoreRetry).2 :=
        .trans (.of_eq rfl rfl) (faithful_readFan .autoRestoreRetry p.attempting)
      by_cases seen : ∃ rpm, (Smc.readFan p.smc).1 = .ok ⟨rpm, .auto⟩
      · obtain ⟨rpm, answer⟩ := seen
        rw [autoRestoreRetry_seen pending answer]
        exact looked
      · have unseen : ∀ rpm, (Smc.readFan p.smc).1 ≠ .ok ⟨rpm, .auto⟩ :=
          fun rpm answer => seen ⟨rpm, answer⟩
        have asked := looked.trans (faithful_setMode .autoRestoreRetry .auto _)
        cases answer : (Smc.setMode .auto (Smc.readFan p.smc).2).1 with
        | ok mode =>
            rw [autoRestoreRetry_restored pending unseen answer]
            exact asked
        | error e =>
            rw [autoRestoreRetry_failed pending unseen answer]
            exact asked.trans (.of_eq (autoRestoreFailed_log _) (autoRestoreFailed_smc _))

theorem faithful_leaveControl (p : Frame σ) : Faithful p p.leaveControl := by
  have asked := faithful_setMode .applyMode .auto p
  cases armed : p.manualArmed with
  | false =>
      rw [leaveControl_free armed]
      exact .of_eq rfl rfl
  | true =>
      cases answer : (Smc.setMode .auto p.smc).1 with
      | ok mode =>
          refine asked.trans (.of_eq ?_ ?_) <;>
            simp [leaveControl, armed, setMode, answer, note]
      | error e =>
          rw [leaveControl_error armed answer]
          have failed : Faithful p p.releaseFailed := asked
          exact failed.trans (faithful_failWrite _ _)

theorem faithful_applyMode (requested : RunMode) (p : Frame σ) :
    Faithful p (p.applyMode requested) := by
  have rearmed : Faithful p (p.rearm requested) := by
    refine .of_eq (rearm_log requested) ?_
    unfold rearm
    split <;> rfl
  unfold applyMode
  split
  · exact .of_eq rfl rfl
  · simp only
    split
    · exact rearmed
    · split
      · exact rearmed.trans (faithful_leaveControl _)
      · exact rearmed.trans (.of_eq rfl rfl)

theorem faithful_applyCmdFile [SerdeJson] (p : Frame σ) : Faithful p p.applyCmdFile := by
  unfold applyCmdFile
  split
  · exact .refl p
  · exact .of_eq rfl rfl
  · split
    · exact .refl p
    · split
      · exact .of_eq rfl rfl
      · exact .trans (.of_eq rfl rfl) (faithful_applyMode _ _)

/-! ### L1 -/

theorem faithful_l1ModeDrift (fan : FanState) (p : Frame σ) :
    Faithful p (p.l1ModeDrift fan).1 := by
  unfold l1ModeDrift
  split
  · exact .refl p
  · have entered := faithful_enterManual p
    split
    · next taken =>
        rw [taken] at entered
        exact entered
    · next refused =>
        rw [refused] at entered
        exact entered

theorem faithful_l1Tracking (dev written : Nat) (applied : Option Nat) (failed : Bool)
    (p : Frame σ) : Faithful p (p.l1Tracking dev written applied failed).1 := by
  have asked : Faithful p (p.reasserted dev written) :=
    .trans (.of_eq rfl rfl) (faithful_writeSpeed .l1Poll written (p.note _))
  by_cases off : p.Reasserts dev applied
  · cases answer : (Smc.writeSpeed written p.smc).1 with
    | ok verified =>
        rw [l1Tracking_ok off answer]
        exact asked
    | error e =>
        rw [l1Tracking_error off answer]
        exact asked.trans (faithful_failWrite _ _)
  · rw [l1Tracking_skip off]
    exact .refl p

theorem faithful_l1Stall (dev rpm : Nat) (prevActual : Option Nat) (p : Frame σ) :
    Faithful p (p.l1Stall dev rpm prevActual).1 := by
  have dwelt : Faithful p p.l1Dwell := .of_eq (l1Dwell_log p) (l1Dwell_smc p)
  unfold l1Stall
  simp only
  split
  · split
    · exact dwelt
    · split
      · exact dwelt.trans (.trans (.of_eq rfl rfl) (faithful_degradeToAuto _))
      · exact dwelt
  · exact .of_eq rfl rfl

theorem faithful_l1Verdict (failed : Bool) (p : Frame σ) :
    Faithful p (p.l1Verdict failed).1 := by
  refine .of_eq (l1Verdict_log failed p) ?_
  unfold l1Verdict
  split
  · rfl
  · split <;> rfl

theorem faithful_l1Window (dev rpm : Nat) (prevActual : Option Nat) (failed : Bool) (p : Frame σ) :
    Faithful p (p.l1Window dev rpm prevActual failed).1 := by
  have watched := faithful_l1Stall dev rpm prevActual p
  unfold l1Window
  split
  · next fired =>
      rw [fired] at watched
      exact watched
  · next quiet =>
      rw [quiet] at watched
      exact watched.trans (faithful_l1Verdict _ _)

theorem faithful_l1Target (fan : FanState) (prevActual applied : Option Nat) (failed : Bool)
    (p : Frame σ) : Faithful p (p.l1Target fan prevActual applied failed).1 := by
  cases live : p.lastWritten with
  | none =>
      simp only [l1Target, live]
      exact faithful_l1Verdict failed p
  | some written =>
      rw [l1Target_live live]
      exact (faithful_l1Tracking ..).trans (faithful_l1Window ..)

theorem faithful_l1Checks (fan : FanState) (prevActual applied : Option Nat) (p : Frame σ) :
    Faithful p (p.l1Checks fan prevActual applied).1 := by
  have drifted := faithful_l1ModeDrift fan p
  unfold l1Checks
  split
  next eq =>
  rw [eq] at drifted
  exact drifted.trans (faithful_l1Target ..)

theorem faithful_l1Poll (applied : Option Nat) (p : Frame σ) :
    Faithful p (p.l1Poll applied).1 := by
  have looked := faithful_readFan .l1Poll p
  cases answer : (Smc.readFan p.smc).1 with
  | error e =>
      rw [l1Poll_error answer]
      have noted : Faithful p
          ((p.readFan .l1Poll).2.noteRecent s!"L1 fan read failed: {e}") := looked
      exact noted.trans (faithful_failWrite _ _)
  | ok fan =>
      have looked : Faithful p (p.looked fan) := looked
      cases armed : p.manualArmed with
      | false =>
          rw [l1Poll_free answer armed]
          exact looked
      | true =>
          cases pending : p.autoRestorePending with
          | true =>
              rw [l1Poll_releasing answer armed pending]
              exact looked
          | false =>
              rw [l1Poll_owned answer armed pending]
              exact looked.trans (faithful_l1Checks ..)

end Frame

namespace Supervisor

variable [SerdeJson] {s : Supervisor σ}

theorem faithful_sensed (host : Host) (s : Supervisor σ) :
    Frame.Faithful (s.frame host) (s.sensed host).2 := by
  have pinged : Frame.Faithful (s.frame host) (s.frame host).pingWatchdog := .of_eq rfl rfl
  have commanded : Frame.Faithful (s.frame host) (s.commanded host) :=
    pinged.trans (Frame.faithful_applyCmdFile _)
  have retried : Frame.Faithful (s.frame host) (s.retried host) :=
    commanded.trans (Frame.faithful_autoRestoreRetry _)
  have read := retried.trans (Frame.faithful_readSensors .stepOnce _)
  unfold sensed
  split
  · next eq =>
      rw [eq] at read
      exact read
  · next eq =>
      rw [eq] at read
      exact read

theorem faithful_checked (host : Host) (s : Supervisor σ) :
    Frame.Faithful (s.sensed host).2 (s.checked host).1 :=
  (Frame.faithful_act (s.decided host).1 _).trans (Frame.faithful_l1Poll (s.acted host).2 _)

/-- The calls of a poll, made on the backend it found, leave the backend it left. -/
theorem calls_served (host : Host) (s : Supervisor σ) :
    Serves s.smc (s.calls host) (s.next host).smc := by
  obtain ⟨es, log, serves⟩ := (faithful_sensed host s).trans (faithful_checked host s)
  rw [calls_eq, next_smc]
  exact (log : (s.checked host).1.log = es) ▸ serves

/-- Those after its sensor read are made on the backend that the read left, and read no
sensor again. -/
theorem acts_served (host : Host) (s : Supervisor σ) :
    ∃ es, (∀ e ∈ es, ¬ e.senses) ∧ Serves (s.sensed host).2.smc es (s.next host).smc := by
  obtain ⟨es, log, serves⟩ := faithful_checked host s
  obtain ⟨es', acting, acts⟩ := calls_act (s := s) (Q := fun _ _ => True) host fun _ _ => trivial
  rw [calls_eq, log] at acting
  rw [← List.append_cancel_left acting] at acts
  rw [next_smc]
  exact ⟨es, fun e mem => (acts e mem).blind, serves⟩

end Supervisor

end Afanctl
