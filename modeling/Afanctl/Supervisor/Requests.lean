import Afanctl.Policy.Decisions
import Afanctl.Supervisor.Band

/-!
What the daemon asks of the controller and of the backend.

Every speed write of a poll either asks for the written value again, as the re-assert of
L1 does, or for the clamped speed of the poll's decision, from the custody that acting
began with.
-/

namespace Afanctl

open Afanctl.Lib

/-! ### The controller -/

/-- The speed that a decision commands, with the ceiling that escalation commands. -/
def Decision.speed (top : Nat) : Decision → Option Nat
  | .setSpeed rpm => some rpm
  | .escalateMax => some top
  | .observe => none
  | .returnToAuto => none

/-- The call that a poll makes of the controller. -/
def Custody.call (c : Custody) (readings : List SensorReading) : Call :=
  if c.monitorOnly = true ∨ c.mode = .observe then .observe readings
  else match c.mode with
    | .curve => .curve readings
    | .hold rpm => .hold readings rpm
    | .observe => .observe readings

theorem controllerStep_eq (c : Custody) (readings : List SensorReading) (controller : Controller) :
    controllerStep c readings controller = controller.step (c.call readings) := by
  unfold controllerStep Custody.call
  split
  · rfl
  · cases c.mode <;> rfl

section Calls

variable {c : Custody} {readings : List SensorReading}

@[simp] theorem Custody.call_readings : (c.call readings).readings = readings := by
  unfold Custody.call
  split
  · rfl
  · cases c.mode <;> rfl

/-- A driving custody has the controller command. -/
theorem Custody.Driving.call_commands (driving : c.Driving) : (c.call readings).Commands := by
  obtain ⟨mode, control⟩ := driving
  unfold Custody.call
  cases asked : c.mode with
  | observe => exact absurd asked mode
  | curve | hold => simp [control, Call.Commands]

/-- Without a valid reading no speed is decided. -/
theorem controllerStep_lost (controller : Controller) (lost : hottest readings = none) :
    (controllerStep c readings controller).1 = .observe ∨
      (controllerStep c readings controller).1 = .returnToAuto := by
  by_cases driving : c.Driving
  · have invalid : hottest (c.call readings).readings = none := by rw [Custody.call_readings, lost]
    rw [controllerStep_eq, Controller.step_lost controller driving.call_commands invalid]
    split
    · exact .inr rfl
    · exact .inl rfl
  · refine .inl (controllerStep_observe ?_)
    by_cases observe : c.mode = .observe
    · exact .inl observe
    · exact .inr (by simpa [Custody.Driving, observe] using driving)

/-- With one, a driving daemon decides a speed. -/
theorem controllerStep_seen {t : MilliC} (controller : Controller) (driving : c.Driving)
    (seen : hottest readings = some t) (top : Nat) :
    ∃ rpm, (controllerStep c readings controller).1.speed top = some rpm := by
  have valid : hottest (c.call readings).readings = some t := by rw [Custody.call_readings, seen]
  obtain ⟨rpm, decides, -⟩ := Controller.step_seen controller driving.call_commands valid
  rw [controllerStep_eq, decides]
  split
  · exact ⟨_, rfl⟩
  · exact ⟨_, rfl⟩

end Calls

/-! ### The backend -/

namespace Event

/-- A speed write asks for the written value again, or for one that `Q` grants. -/
def Asks (Q : Nat → Custody → Prop) (e : Event) : Prop :=
  ∀ rpm answer, e.op = .writeSpeed rpm answer →
    e.custody.lastWritten = some rpm ∨ Q rpm e.custody

theorem Asks.of_quiet {Q : Nat → Custody → Prop} {e : Event} (quiet : ¬ e.control) :
    e.Asks Q := by
  intro rpm answer op
  exact absurd (by simp [control, op]) quiet

/-- A sensor read. -/
def senses (e : Event) : Bool :=
  match e.op with
  | .readSensors _ => true
  | _ => false

/-- A call after a poll's sensor read: it asks as granted, and reads no sensor again. -/
structure Acts (Q : Nat → Custody → Prop) (e : Event) : Prop where
  asks : e.Asks Q
  blind : ¬ e.senses

namespace Acts

variable {Q : Nat → Custody → Prop} {site : Site} {c : Custody}

theorem of_setMode (mode : FanMode) (answer : Except SmcError FanMode) :
    (Event.mk site (.setMode mode answer) c).Acts Q := by
  refine ⟨?_, Bool.false_ne_true⟩
  intro rpm asked op
  cases op

theorem of_readFan (answer : Except SmcError FanState) :
    (Event.mk site (.readFan answer) c).Acts Q :=
  ⟨.of_quiet Bool.false_ne_true, Bool.false_ne_true⟩

theorem of_writeSpeed {rpm : Nat} {answer : Except SmcError Nat}
    (granted : c.lastWritten = some rpm ∨ Q rpm c) :
    (Event.mk site (.writeSpeed rpm answer) c).Acts Q := by
  refine ⟨?_, Bool.false_ne_true⟩
  intro asked answered op
  cases op
  exact granted

theorem of_autoAttempt {e : Event} (attempt : e.autoAttempt) : e.Acts Q := by
  refine ⟨.of_quiet (not_control_of_autoAttempt attempt), ?_⟩
  obtain ⟨site, op, custody⟩ := e
  cases op with
  | readSensors answer => cases attempt
  | _ => exact Bool.false_ne_true

end Acts

end Event

namespace Frame

variable {σ : Type} {Q : Nat → Custody → Prop} {p : Frame σ}

variable [Smc σ]

theorem degradeToAuto_asks (p : Frame σ) : Emits (Event.Acts Q) p p.degradeToAuto :=
  .of_event (degradeToAuto_log p) (.of_autoAttempt rfl)

theorem failWrite_asks (msg : String) (p : Frame σ) :
    Emits (Event.Acts Q) p (p.failWrite msg) :=
  ⟨_, failWrite_log msg p, fun e mem => .of_autoAttempt (Custody.struckLog_attempts _ _ e mem)⟩

theorem enterManual_asks (p : Frame σ) : Emits (Event.Acts Q) p p.enterManual.1 := by
  have entered : Emits (Event.Acts Q) p (p.setMode .enterManual .manual).2 :=
    .of_event (setMode_log ..) (.of_setMode ..)
  cases answer : (Smc.setMode .manual p.smc).1 with
  | ok mode =>
      rw [enterManual_ok answer]
      exact entered
  | error e =>
      rw [enterManual_error answer]
      exact entered.trans (failWrite_asks _ _)

theorem writeOwned_asks {rpm : Nat} (granted : Q (clamp p.hwMin p.hwMax rpm) p.toCustody) :
    Emits (Event.Acts Q) p (p.writeOwned rpm).1 := by
  have asked : Emits (Event.Acts Q) p
      (p.writeSpeed .writeControlled (clamp p.hwMin p.hwMax rpm)).2 :=
    .of_event (writeSpeed_log ..) (.of_writeSpeed (.inr granted))
  by_cases same : p.lastWritten = some (clamp p.hwMin p.hwMax rpm)
  · rw [writeOwned_same same]
    exact .of_log rfl
  · cases answer : (Smc.writeSpeed (clamp p.hwMin p.hwMax rpm) p.smc).1 with
    | ok verified =>
        rw [writeOwned_ok same answer]
        exact asked
    | error e =>
        rw [writeOwned_error same answer]
        exact asked.trans (failWrite_asks _ _)

/-- The write is made with the fan taken over. -/
theorem writeControlled_asks {rpm : Nat}
    (granted : Q (clamp p.hwMin p.hwMax rpm) { p.toCustody with manualArmed := true }) :
    Emits (Event.Acts Q) p (p.writeControlled rpm).1 := by
  cases armed : p.manualArmed with
  | true =>
      rw [writeControlled_armed rpm armed]
      rw [← armed] at granted
      exact writeOwned_asks granted
  | false =>
      have entered : Emits (Event.Acts Q) p p.enterManual.1 := enterManual_asks p
      cases answer : (Smc.setMode .manual p.smc).1 with
      | ok mode =>
          rw [writeControlled_taken armed answer]
          rw [enterManual_ok answer] at entered
          refine entered.trans (writeOwned_asks ?_)
          exact granted
      | error e =>
          rw [writeControlled_refused armed answer]
          rw [enterManual_error answer] at entered
          exact entered

/-- A speed decision is the controlled write of its speed. -/
theorem act_speed {decision : Decision} {rpm : Nat} (control : p.monitorOnly = false)
    (commands : decision.speed p.cfgMaxRpm = some rpm) :
    p.act decision = p.writeControlled rpm := by
  cases decision with
  | setSpeed commanded =>
      cases commands
      exact act_setSpeed rpm control
  | escalateMax =>
      cases commands
      exact act_escalateMax control
  | observe | returnToAuto => cases commands

theorem act_asks {decision : Decision}
    (granted : ∀ rpm, decision.speed p.cfgMaxRpm = some rpm →
      Q (clamp p.hwMin p.hwMax rpm) { p.toCustody with manualArmed := true }) :
    Emits (Event.Acts Q) p (p.act decision).1 := by
  cases latched : p.monitorOnly with
  | true =>
      rw [act_latched decision latched]
      exact .of_log rfl
  | false =>
      cases decision with
      | observe =>
          rw [act_observe]
          exact .of_log rfl
      | setSpeed | escalateMax =>
          rw [act_speed latched rfl]
          exact writeControlled_asks (granted _ rfl)
      | returnToAuto =>
          cases armed : p.manualArmed with
          | false =>
              rw [act_returnToAuto_free armed]
              exact .of_log rfl
          | true =>
              have released : Emits (Event.Acts Q) p (p.setMode .act .auto).2 :=
                .of_event (setMode_log ..) (.of_setMode ..)
              cases answer : (Smc.setMode .auto p.smc).1 with
              | ok mode =>
                  rw [act_returnToAuto_ok latched armed answer]
                  exact released
              | error e =>
                  rw [act_returnToAuto_error latched armed answer]
                  exact released.trans (failWrite_asks _ _)

/-! ### L1 -/

theorem l1ModeDrift_asks (fan : FanState) (p : Frame σ) :
    Emits (Event.Acts Q) p (p.l1ModeDrift fan).1 := by
  have entered : Emits (Event.Acts Q) p p.enterManual.1 := enterManual_asks p
  by_cases manual : fan.mode = .manual
  · rw [l1ModeDrift_manual manual]
    exact .of_log rfl
  · cases answer : (Smc.setMode .manual p.smc).1 with
    | ok mode =>
        rw [enterManual_ok answer] at entered
        rw [l1ModeDrift_ok manual answer]
        exact entered
    | error e =>
        rw [enterManual_error answer] at entered
        rw [l1ModeDrift_error manual answer]
        exact entered

/-- L1 re-asserts what is written. -/
theorem l1Tracking_asks {dev written : Nat} {applied : Option Nat} {failed : Bool}
    (live : p.lastWritten = some written) :
    Emits (Event.Acts Q) p (p.l1Tracking dev written applied failed).1 := by
  have asked : Emits (Event.Acts Q) p (p.reasserted dev written) :=
    .of_event (writeSpeed_log ..) (.of_writeSpeed (.inl live))
  by_cases off : p.Reasserts dev applied
  · cases answer : (Smc.writeSpeed written p.smc).1 with
    | ok verified =>
        rw [l1Tracking_ok off answer]
        exact asked
    | error e =>
        rw [l1Tracking_error off answer]
        exact asked.trans (failWrite_asks _ _)
  · rw [l1Tracking_skip off]
    exact .of_log rfl

theorem l1Window_asks (dev rpm : Nat) (prevActual : Option Nat) (failed : Bool) (p : Frame σ) :
    Emits (Event.Acts Q) p (p.l1Window dev rpm prevActual failed).1 := by
  unfold l1Window
  by_cases fires : p.StallFires dev rpm prevActual
  · obtain ⟨q, eq, -, log, -⟩ := l1Stall_fires fires
    rw [eq]
    exact (Emits.of_log log).trans (degradeToAuto_asks q)
  · obtain ⟨q, eq, -, log, -⟩ := l1Stall_quiet fires
    rw [eq]
    exact (Emits.of_log log).trans (.of_log (l1Verdict_log failed q))

theorem l1Target_asks (fan : FanState) (prevActual applied : Option Nat) (failed : Bool)
    (p : Frame σ) : Emits (Event.Acts Q) p (p.l1Target fan prevActual applied failed).1 := by
  cases live : p.lastWritten with
  | none =>
      simp only [l1Target, live]
      exact .of_log (l1Verdict_log failed p)
  | some written =>
      rw [l1Target_live live]
      exact (l1Tracking_asks live).trans (l1Window_asks _ _ _ _ _)

theorem l1Poll_asks (applied : Option Nat) (p : Frame σ) :
    Emits (Event.Acts Q) p (p.l1Poll applied).1 := by
  have looked : Emits (Event.Acts Q) p (p.readFan .l1Poll).2 :=
    .of_event (readFan_log ..) (.of_readFan _)
  cases answer : (Smc.readFan p.smc).1 with
  | error e =>
      rw [l1Poll_error answer]
      refine Emits.trans ?_ (failWrite_asks _ _)
      exact looked.trans (.of_log (noteRecent_log _ _))
  | ok fan =>
      cases armed : p.manualArmed with
      | false =>
          rw [l1Poll_free answer armed]
          exact looked
      | true =>
          cases pending : p.autoRestorePending with
          | true =>
              rw [l1Poll_releasing answer armed pending]
              exact looked
          | false =>
              rw [l1Poll_owned answer armed pending]
              have looked : Emits (Event.Acts Q) p (p.looked fan) := looked
              have drifted := looked.trans (l1ModeDrift_asks fan (p.looked fan))
              exact drifted.trans (l1Target_asks fan p.prevActual applied _ _)

end Frame

namespace Supervisor

variable {σ : Type} [Smc σ] [SerdeJson] {s : Supervisor σ}

/-- After its sensor read a poll acts and runs L1: calls that read no sensor, with the
clamped speed of the decision for a speed write, or what is written. -/
theorem calls_act {Q : Nat → Custody → Prop} (host : Host)
    (granted : ∀ rpm, (s.decided host).1.speed s.cfgMaxRpm = some rpm →
      Q (clamp s.hwMin s.hwMax rpm) { (s.sensed host).2.toCustody with manualArmed := true }) :
    ∃ es, s.calls host = (s.sensed host).2.log ++ es ∧ ∀ e ∈ es, e.Acts Q := by
  have band := sensed_band host s
  have hwMin : (s.sensed host).2.hwMin = s.hwMin := congrArg Band.hwMin band
  have hwMax : (s.sensed host).2.hwMax = s.hwMax := congrArg Band.hwMax band
  have top : (s.sensed host).2.cfgMaxRpm = s.cfgMaxRpm := congrArg Band.cfgMaxRpm band
  rw [← hwMin, ← hwMax, ← top] at granted
  have acted := Frame.act_asks granted
  obtain ⟨es, log, acts⟩ := acted.trans (Frame.l1Poll_asks (s.acted host).2 (s.acted host).1)
  exact ⟨es, (calls_eq host s).trans log, acts⟩

/-- Every speed write of a poll asks for what is written, or for the clamped speed of the
decision. -/
theorem calls_ask {Q : Nat → Custody → Prop} (host : Host)
    (granted : ∀ rpm, (s.decided host).1.speed s.cfgMaxRpm = some rpm →
      Q (clamp s.hwMin s.hwMax rpm) { (s.sensed host).2.toCustody with manualArmed := true }) :
    ∀ e ∈ s.calls host, e.Asks Q := by
  have commanded : ∀ e ∈ (s.commanded host).log, ¬ e.control := fun e mem =>
    Event.not_control_of_autoAttempt ((commanded_obeys host s).attempts e mem)
  obtain ⟨es, retried, attempts⟩ := (s.commanded host).autoRestoreRetry_emits
  have sensed : ∀ e ∈ (s.sensed host).2.log, ¬ e.control := by
    intro e mem
    rw [sensed_log, Supervisor.retried, retried] at mem
    simp only [List.mem_append, List.mem_singleton] at mem
    rcases mem with (mem | mem) | rfl
    · exact commanded e mem
    · exact (attempts e mem).2
    · exact nofun
  obtain ⟨es', log, acts⟩ := calls_act host granted
  intro e mem
  rw [log] at mem
  rcases List.mem_append.mp mem with mem | mem
  · exact .of_quiet (sensed e mem)
  · exact (acts e mem).asks

end Supervisor

end Afanctl
