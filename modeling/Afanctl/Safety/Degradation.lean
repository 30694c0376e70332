import Afanctl.Bench
import Afanctl.Supervisor.Fallback

/-!
What a degradation leaves behind.

The fallback resets the written value, the strikes and both windows, and either releases
the fan or arms the retry of an owned one. It fires in the middle of functions that go on
afterwards, so a poll need not end with what it left: a fan read that fails later in the
same poll is counted afresh, and the checks behind a failed re-assert restart the windows
it closed. And a fan that was not owned is not owned after a failed release either, with
the retry armed. `Event.soils` is the condition of exactly these three.
-/

namespace Afanctl

open Afanctl.Lib

/-- An answer after which a degradation does not end clean: L1's fan read fails though the
daemon is latched, its re-assert fails as the last strike, or the fallback's AUTO write
fails for a fan that is not owned. -/
def Event.soils (e : Event) : Bool :=
  match e.site, e.op with
  | .l1Poll, .readFan (.error _) => e.custody.monitorOnly
  | .l1Poll, .writeSpeed _ (.error _) => decide (writeFailFallback ≤ e.custody.writeFailures + 1)
  | .degradeToAuto, .setMode _ (.error _) => !e.custody.manualArmed
  | _, _ => false

/-- The weight that marks the soiling calls. -/
def Event.stain (e : Event) : Nat := e.soils.toNat

theorem stain_act : ActWeight Event.stain 0 0 where
  release := fun _ _ => Nat.le_refl 0
  enter := fun _ _ _ => Nat.le_refl 0
  write := fun _ _ _ => Nat.le_refl 0

/-- The state a degradation is meant to leave: everything reset, and the fan either
released with nothing pending or still owned with the retry armed. -/
structure Daemon.Tidy {σ : Type} (d : Daemon σ) : Prop where
  uncounted : d.writeFailures = 0
  motionless : d.stallPolls = 0
  offTarget : d.offTargetPolls = 0
  unwritten : d.lastWritten = none
  owned : d.manualArmed = d.autoRestorePending

theorem Daemon.Reset.tidy_iff {σ : Type} {d : Daemon σ} (reset : d.Reset) :
    d.Tidy ↔ d.manualArmed = d.autoRestorePending :=
  ⟨Daemon.Tidy.owned, fun owned =>
    ⟨reset.uncounted, reset.motionless, reset.offTarget, reset.unwritten, owned⟩⟩

namespace Frame

variable {σ : Type} {p q r : Frame σ}

/-! ### From control to degradation -/

/-- No call between two frames soils. -/
def Spotless (p q : Frame σ) : Prop := Emits (fun e => ¬ e.soils) p q

theorem Spotless.of_spends (spends : Spends Event.stain 0 p q) : Spotless p q := by
  obtain ⟨es, log, light⟩ := spends
  exact ⟨es, log, weight_marks.mp light⟩

/-- A poll so far has control on, or latched, and then it is clean unless a call soils. -/
def Concludes (p q : Frame σ) : Prop :=
  q.monitorOnly = false ∨
    q.monitorOnly = true ∧ ∃ es, q.log = p.log ++ es ∧ (q.Tidy ↔ ∀ e ∈ es, ¬ e.soils)

theorem Concludes.after (first : Spotless p q) (second : Concludes q r) : Concludes p r := by
  rcases second with control | ⟨latched, es', log', clean⟩
  · exact .inl control
  · obtain ⟨es, log, quiet⟩ := first
    refine .inr ⟨latched, es ++ es', by rw [log', log, List.append_assoc], clean.trans ?_⟩
    constructor
    · intro rest e mem
      exact (List.mem_append.mp mem).elim (quiet e) (rest e)
    · exact fun all e mem => all e (List.mem_append_right es mem)

/-- A degradation between two frames: everything is reset, and the fan is owned as it is
pending unless a call soils. -/
def Degrades (p q : Frame σ) : Prop :=
  q.Reset ∧ ∃ es, q.log = p.log ++ es ∧
    (q.manualArmed = q.autoRestorePending ↔ ∀ e ∈ es, ¬ e.soils)

theorem Degrades.concludes (degrades : Degrades p q) : Concludes p q := by
  obtain ⟨reset, es, log, owned⟩ := degrades
  exact .inr ⟨reset.latched, es, log, reset.tidy_iff.trans owned⟩

/-- Calls that do not soil keep it one, as long as the fan stays owned as it is. -/
theorem Degrades.before (degrades : Degrades p q) (spotless : Spotless q r) (reset : r.Reset)
    (armed : r.manualArmed = q.manualArmed)
    (pending : r.autoRestorePending = q.autoRestorePending) : Degrades p r := by
  obtain ⟨-, es, log, owned⟩ := degrades
  obtain ⟨es', log', quiet⟩ := spotless
  refine ⟨reset, es ++ es', by rw [log', log, List.append_assoc], ?_⟩
  rw [armed, pending, owned]
  constructor
  · intro clean e mem
    exact (List.mem_append.mp mem).elim (clean e) (quiet e)
  · exact fun all e mem => all e (List.mem_append_left es' mem)

/-- Only an AUTO write that fails for a fan that is not owned leaves a retry without an
owner. -/
theorem degraded_owned (answer : Except SmcError FanMode) (c : Custody) :
    (c.degraded answer).manualArmed = (c.degraded answer).autoRestorePending ↔
      ¬ (c.degradeEvent answer).soils := by
  cases answer with
  | ok mode => simp [Custody.degraded, Custody.released, Custody.degradeEvent, Event.soils]
  | error e =>
      simp [Custody.degraded, Custody.releasing, Custody.latched, Custody.degradeEvent,
        Event.soils]

/-- The fallback degrades, if no call before it soils. -/
theorem Falls.degrades (falls : Falls Event.stain 0 p q) : Degrades p q := by
  obtain ⟨reset, es, c, answer, log, light, armed, pending⟩ := falls
  have quiet := weight_marks.mp light
  refine ⟨reset, _, log, ?_⟩
  rw [armed, pending, degraded_owned]
  constructor
  · intro last e mem
    rcases List.mem_append.mp mem with mem | mem
    · exact quiet e mem
    · rw [List.mem_singleton.mp mem]
      exact last
  · exact fun all => all _ (List.mem_append_right es (List.mem_singleton_self _))

theorem Proceeds.concludes (proceeds : Proceeds Event.stain 0 p q) : Concludes p q :=
  proceeds.elim (fun on => .inl on.1) (fun falls => falls.degrades.concludes)

/-- Control is on, or a degradation is clean so far. -/
def Standing (p : Frame σ) : Prop :=
  p.monitorOnly = false ∨ p.Reset ∧ p.manualArmed = p.autoRestorePending

/-- A degradation whose calls do not soil has the fan owned as it is pending. -/
theorem Degrades.owned (degrades : Degrades p q) (clean : Spotless p q) :
    q.manualArmed = q.autoRestorePending := by
  obtain ⟨-, es, log, owned⟩ := degrades
  obtain ⟨es', log', clean⟩ := clean
  have same : es = es' := List.append_cancel_left (log.symm.trans log')
  exact owned.mpr (same ▸ clean)

theorem autoRestoreFailed_reset (reset : p.Reset) : p.autoRestoreFailed.Reset := by
  unfold autoRestoreFailed
  split <;> exact { reset with }

@[simp] theorem l1Verdict_monitorOnly (failed : Bool) (p : Frame σ) :
    (p.l1Verdict failed).1.monitorOnly = p.monitorOnly := by
  unfold l1Verdict
  split
  · rfl
  · split <;> rfl

variable [Smc σ]

/-! ### The stages before L1 -/

theorem spotless_setMode {site : Site} {mode : FanMode} (elsewhere : site ≠ .degradeToAuto) :
    Spotless p (p.setMode site mode).2 := by
  refine .of_event (setMode_log ..) ?_
  unfold Event.soils
  split <;> simp_all

/-- The fallback of an owned fan does not soil. -/
theorem spotless_failWrite (msg : String) (armed : p.manualArmed = true) :
    Spotless p (p.failWrite msg) := by
  refine ⟨_, failWrite_log msg p, fun e mem => ?_⟩
  unfold Custody.struckLog at mem
  split at mem
  · rw [List.mem_singleton.mp mem]
    cases answer : (Smc.setMode .auto p.smc).1 <;>
      simp [Custody.degradeEvent, Custody.latched, Event.soils, armed]
  · cases mem

theorem standing_leaveControl (control : p.monitorOnly = false) :
    p.leaveControl.Standing ∧ Spotless p p.leaveControl := by
  have proceeds := proceeds_leaveControl (w := Event.stain) (n := 0) control
    fun _ => Nat.le_refl 0
  have spotless : Spotless p p.leaveControl := by
    cases armed : p.manualArmed with
    | false =>
        rw [leaveControl_free armed]
        exact .of_log rfl
    | true =>
        cases answer : (Smc.setMode .auto p.smc).1 with
        | ok m => exact .of_event (leaveControl_ok armed answer).2 nofun
        | error e =>
            rw [leaveControl_error armed answer]
            have asked : Spotless p p.releaseFailed := spotless_setMode nofun
            exact asked.trans (spotless_failWrite (p := p.releaseFailed) _ armed)
  refine ⟨?_, spotless⟩
  rcases proceeds with on | falls
  · exact .inl on.1
  · exact .inr ⟨falls.1, falls.degrades.owned spotless⟩

/-- The retry leaves a clean degradation clean. -/
theorem standing_autoRestoreRetry (standing : p.Standing) :
    p.autoRestoreRetry.Standing ∧ Spotless p p.autoRestoreRetry := by
  obtain ⟨es, log, calls⟩ := autoRestoreRetry_emits p
  refine ⟨?_, es, log, fun e mem soils => ?_⟩
  · rcases standing with control | ⟨reset, owned⟩
    · left
      rcases autoRestoreRetry_toCustody p with same | released
      · rw [same]; exact control
      · rw [released]; exact control
    · right
      cases pending : p.autoRestorePending with
      | false =>
          rw [autoRestoreRetry_idle pending]
          exact ⟨reset, owned⟩
      | true =>
          by_cases seen : ∃ rpm, (Smc.readFan p.smc).1 = .ok ⟨rpm, .auto⟩
          · obtain ⟨rpm, answer⟩ := seen
            rw [autoRestoreRetry_seen pending answer]
            exact ⟨⟨reset.latched, rfl, reset.uncounted, rfl, rfl⟩, rfl⟩
          · have unseen : ∀ rpm, (Smc.readFan p.smc).1 ≠ .ok ⟨rpm, .auto⟩ :=
              fun rpm answer => seen ⟨rpm, answer⟩
            cases answer : (Smc.setMode .auto (Smc.readFan p.smc).2).1 with
            | ok mode =>
                rw [autoRestoreRetry_restored pending unseen answer]
                exact ⟨⟨reset.latched, rfl, reset.uncounted, rfl, rfl⟩, rfl⟩
            | error e =>
                rw [autoRestoreRetry_failed pending unseen answer]
                refine ⟨autoRestoreFailed_reset { reset with }, ?_⟩
                rw [autoRestoreFailed_toCustody]
                exact owned
  · obtain ⟨site, -⟩ := calls e mem
    unfold Event.soils at soils
    rw [site] at soils
    cases soils

/-! ### L1 -/

theorem concludes_l1Window (dev rpm : Nat) (previous : Option Nat) (failed : Bool)
    (control : p.monitorOnly = false) : Concludes p (p.l1Window dev rpm previous failed).1 := by
  by_cases fires : p.StallFires dev rpm previous
  · obtain ⟨q, eq, -, log, -⟩ := l1Stall_fires fires
    simp only [l1Window, eq]
    exact (falls_degradeToAuto log).degrades.concludes
  · obtain ⟨q, eq, custody, -⟩ := l1Stall_quiet fires
    simp only [l1Window, eq]
    exact .inl ((l1Verdict_monitorOnly failed q).trans (by rw [custody]; exact control))

/-- Off target, the checks behind a failed re-assert open the excursion that the fallback
closed. -/
theorem l1Window_reopens {dev : Nat} (rpm : Nat) (previous : Option Nat)
    (off : verifyToleranceRpm < dev) (reset : p.Reset) :
    (p.l1Window dev rpm previous true).1.monitorOnly = true ∧
      (p.l1Window dev rpm previous true).1.log = p.log ∧
      (p.l1Window dev rpm previous true).1.offTargetPolls = 1 := by
  have dwell : p.l1Dwell = { p with offTargetPolls := 1 } := by
    simp [l1Dwell, reset.offTarget, offTargetWarnPolls, u32Max]
  cases moved : tachMoved rpm previous <;>
    simp [l1Window, l1Stall, l1Verdict, off, dwell, moved, reset.motionless, reset.latched,
      stallPollsMax, u32Max]

/-- A re-assert fails: one more strike, after which the window decides, or the last one,
whose fallback is not the end of the checks. -/
theorem concludes_reassertFailed {dev rpm written : Nat} {previous : Option Nat} {e : SmcError}
    (msg : String) (off : verifyToleranceRpm < dev) (control : p.monitorOnly = false)
    (answer : (Smc.writeSpeed written p.smc).1 = .error e) :
    Concludes p (((p.reasserted dev written).failWrite msg).l1Window dev rpm previous true).1 := by
  have asked : (p.reasserted dev written).log
      = p.log ++ [⟨.l1Poll, .writeSpeed written (.error e), p.toCustody⟩] := by
    rw [← answer]
    exact reasserted_log ..
  by_cases below : p.writeFailures + 1 < writeFailFallback
  · obtain ⟨custody, log, -⟩ := failWrite_below (p := p.reasserted dev written) msg below
    have quiet : Spotless p ((p.reasserted dev written).failWrite msg) := by
      refine .of_event (log.trans asked) ?_
      simpa [Event.soils] using below
    exact .after quiet (concludes_l1Window _ _ _ _ (by rw [custody]; exact control))
  · have last : writeFailFallback ≤ p.writeFailures + 1 := Nat.not_lt.mp below
    obtain ⟨reset, es, log, -⟩ :=
      (falls_failWrite (p := p.reasserted dev written) msg last).degrades
    obtain ⟨latched, kept, reopened⟩ := l1Window_reopens rpm previous off reset
    refine .inr ⟨latched, _, by rw [kept, log, asked, List.append_assoc], ?_⟩
    constructor
    · intro clean
      rw [clean.offTarget] at reopened
      cases reopened
    · intro quiet
      refine absurd ?_ (quiet _ (List.mem_append_left es (List.mem_singleton_self _)))
      simpa [Event.soils] using last

theorem concludes_l1Target (fan : FanState) (previous applied : Option Nat) (failed : Bool)
    (control : p.monitorOnly = false) : Concludes p (p.l1Target fan previous applied failed).1 := by
  cases live : p.lastWritten with
  | none =>
      simp only [l1Target, live]
      exact .inl ((l1Verdict_monitorOnly failed p).trans control)
  | some written =>
      rw [l1Target_live live]
      by_cases reasserts : p.Reasserts (absDiff fan.rpm written) applied
      · cases answer : (Smc.writeSpeed written p.smc).1 with
        | ok verified =>
            rw [l1Tracking_ok reasserts answer]
            have asked : Spotless p
                (p.reasserted (absDiff fan.rpm written) written) :=
              .of_event (reasserted_log ..) (by simp [Event.soils, answer])
            exact .after asked (concludes_l1Window _ _ _ _ control)
        | error e =>
            rw [l1Tracking_error reasserts answer]
            exact concludes_reassertFailed _ reasserts.2.1 control answer
      · rw [l1Tracking_skip reasserts]
        exact concludes_l1Window _ _ _ _ control

theorem concludes_l1Checks (fan : FanState) (previous applied : Option Nat)
    (control : p.monitorOnly = false) : Concludes p (p.l1Checks fan previous applied).1 := by
  by_cases manual : fan.mode = .manual
  · simp only [l1Checks, l1ModeDrift_manual manual]
    exact concludes_l1Target fan previous applied false control
  · have elsewhere : Site.enterManual ≠ .degradeToAuto := by decide
    have asked : Spotless p (p.setMode .enterManual .manual).2 := spotless_setMode elsewhere
    cases answer : (Smc.setMode .manual p.smc).1 with
    | ok mode =>
        simp only [l1Checks, l1ModeDrift_ok manual answer]
        have asked : Spotless p
            ({ (p.setMode .enterManual .manual).2 with manualArmed := true }.note
              "L1: manual mode re-asserted") := asked
        exact .after asked (concludes_l1Target _ _ _ _ control)
    | error e =>
        simp only [l1Checks, l1ModeDrift_error manual answer]
        refine .after asked ?_
        rcases proceeds_failWrite (w := Event.stain) (n := 0) s!"set Manual write error: {e}"
          (p := (p.setMode .enterManual .manual).2) control with on | falls
        · exact .after (.of_spends on.2) (concludes_l1Target fan previous applied true on.1)
        · rw [l1Target_reset fan previous applied falls.1]
          exact falls.degrades.concludes

/-- L1 behind a poll with control on. -/
theorem concludes_l1Poll (applied : Option Nat) (control : p.monitorOnly = false) :
    Concludes p (p.l1Poll applied).1 := by
  have looked : Spotless p (p.readFan .l1Poll).2 := by
    refine .of_event (readFan_log ..) ?_
    cases answer : (Smc.readFan p.smc).1 <;> simp [Event.soils, control]
  cases answer : (Smc.readFan p.smc).1 with
  | error e =>
      rw [l1Poll_error answer]
      have noted := looked.trans (.of_log (noteRecent_log s!"L1 fan read failed: {e}" _))
      have kept : ((p.readFan .l1Poll).2.noteRecent s!"L1 fan read failed: {e}").monitorOnly
          = false := control
      exact .after noted (proceeds_failWrite "L1 poll defeated by fan read failure" kept).concludes
  | ok fan =>
      cases armed : p.manualArmed with
      | false =>
          rw [l1Poll_free answer armed]
          exact .inl control
      | true =>
          cases pending : p.autoRestorePending with
          | true =>
              rw [l1Poll_releasing answer armed pending]
              exact .inl control
          | false =>
              rw [l1Poll_owned answer armed pending]
              have looked : Spotless p (p.looked fan) := looked
              exact .after looked (concludes_l1Checks fan p.prevActual applied control)

/-- L1 behind a degradation counts a failed fan read, and leaves the rest alone. -/
theorem Degrades.l1Poll (degrades : Degrades p q) (applied : Option Nat)
    (releasing : q.manualArmed = true → q.autoRestorePending = true) :
    Concludes p (q.l1Poll applied).1 := by
  have reset := degrades.1
  have looked := readFan_log .l1Poll q
  cases answer : (Smc.readFan q.smc).1 with
  | error e =>
      obtain ⟨-, es, log, -⟩ := degrades
      rw [l1Poll_error answer]
      have short : q.writeFailures + 1 < writeFailFallback := by rw [reset.uncounted]; decide
      obtain ⟨custody, kept, -⟩ := failWrite_below
        (p := (q.readFan .l1Poll).2.noteRecent s!"L1 fan read failed: {e}")
        "L1 poll defeated by fan read failure" short
      refine .inr ⟨by rw [custody]; exact reset.latched, _,
        by rw [kept, noteRecent_log, looked, log, List.append_assoc], ?_⟩
      constructor
      · intro clean
        have counted := clean.uncounted
        rw [custody] at counted
        cases counted
      · intro quiet
        refine absurd ?_ (quiet _ (List.mem_append_right es (List.mem_singleton_self _)))
        simpa [Event.soils, answer] using reset.latched
  | ok fan =>
      rw [answer] at looked
      have spotless : Spotless q (q.looked fan) := .of_event looked nofun
      cases armed : q.manualArmed with
      | false =>
          have reset' : { q.looked fan with stallPolls := 0, offTargetPolls := 0 }.Reset :=
            ⟨reset.latched, reset.unwritten, reset.uncounted, rfl, rfl⟩
          have still : Spotless q { q.looked fan with stallPolls := 0, offTargetPolls := 0 } :=
            spotless.trans (.of_log rfl)
          rw [l1Poll_free answer armed]
          exact (degrades.before still reset' rfl rfl).concludes
      | true =>
          rw [l1Poll_releasing answer armed (releasing armed)]
          exact (degrades.before spotless { reset with } rfl rfl).concludes

end Frame

namespace Supervisor

section Polls

variable {σ : Type} [Smc σ] [SerdeJson] {host : Host} {s : Supervisor σ}

/-- The latch goes up in this poll: control is on when it starts, or the poll accepts a
control command, and at its end the daemon is latched. -/
def Degrades (host : Host) (s : Supervisor σ) : Prop :=
  (s.monitorOnly = false ∨ s.Accepts host) ∧ (s.next host).monitorOnly = true

instance (host : Host) (s : Supervisor σ) : Decidable (s.Degrades host) :=
  inferInstanceAs (Decidable ((_ ∨ _) ∧ _))

/-- The command stage leaves control on, or a clean degradation. -/
theorem commanded_standing (control : s.monitorOnly = false ∨ s.Accepts host) :
    (s.commanded host).Standing ∧
      Frame.Spotless (s.frame host) (s.commanded host) := by
  cases fresh : s.freshCommand host with
  | none =>
      have unaccepted : ¬ s.Accepts host := by
        rintro ⟨_, parsed, -⟩
        simp [fresh] at parsed
      have control : s.monitorOnly = false := control.resolve_right unaccepted
      obtain ⟨ticks, errors, notes, eq⟩ := commanded_stale fresh
      rw [eq]
      exact ⟨.inl control, .of_log rfl⟩
  | some requested =>
      obtain ⟨raw, -, eq⟩ := commanded_fresh fresh
      rw [eq]
      by_cases observe : requested = .observe
      · have unaccepted : ¬ s.Accepts host := by
          rintro ⟨_, parsed, other, -⟩
          exact other (Option.some.inj (parsed.symm.trans fresh) ▸ observe)
        have control : s.monitorOnly = false := control.resolve_right unaccepted
        subst observe
        by_cases mode : s.mode = .observe
        · rw [Frame.applyMode_already mode]
          exact ⟨.inl control, .of_log rfl⟩
        · rw [Frame.applyMode_observe mode]
          exact Frame.standing_leaveControl (p := { (s.frame host).pingWatchdog with
            lastCmd := some raw }) control
      · cases absent : s.l2Absent with
        | true =>
            have unaccepted : ¬ s.Accepts host := by
              rintro ⟨_, -, -, proven⟩
              simp [absent] at proven
            have control : s.monitorOnly = false := control.resolve_right unaccepted
            rw [Frame.applyMode_refused observe absent]
            exact ⟨.inl control, .of_log rfl⟩
        | false =>
            obtain ⟨custody, log⟩ := Frame.applyMode_accepted
              (p := { (s.frame host).pingWatchdog with lastCmd := some raw }) observe absent
            refine ⟨.inl ?_, .of_log log⟩
            rw [custody]
            unfold Custody.accepting
            split
            · rfl
            · next off => simpa using off

/-- So does every stage up to the sensor read. -/
theorem sensed_standing (control : s.monitorOnly = false ∨ s.Accepts host) :
    (s.sensed host).2.Standing ∧
      Frame.Spotless (s.frame host) (s.sensed host).2 := by
  obtain ⟨standing, commanded⟩ := commanded_standing control
  obtain ⟨standing, retried⟩ := Frame.standing_autoRestoreRetry standing
  have read : Frame.Spotless (s.retried host) (s.sensed host).2 :=
    .of_event (sensed_log host s) nofun
  refine ⟨?_, (commanded.trans retried).trans read⟩
  cases answer : (Smc.readSensors (s.retried host).smc).1 with
  | ok readings =>
      rw [sensed_ok answer]
      exact standing.imp id fun ⟨reset, owned⟩ => ⟨{ reset with }, owned⟩
  | error e =>
      rw [sensed_error answer]
      exact standing.imp id fun ⟨reset, owned⟩ => ⟨{ reset with }, owned⟩

/-- A poll that latches ends clean unless one of its calls soils. -/
theorem checked_concludes (sound : s.Sound) (control : s.monitorOnly = false ∨ s.Accepts host) :
    Frame.Concludes (s.frame host) (s.checked host).1 := by
  obtain ⟨standing, emits⟩ := sensed_standing control
  have releasing := @acted_releasing σ _ _ host s sound
  rcases standing with control | ⟨reset, owned⟩
  · rcases Frame.proceeds_act (s.decided host).1 stain_act control with on | falls
    · have spotless := Frame.Spotless.of_spends on.2
      exact .after (emits.trans spotless) (Frame.concludes_l1Poll (s.acted host).2 on.1)
    · exact .after emits (falls.degrades.l1Poll (s.acted host).2 (releasing falls.1.latched))
  · -- The command stage degraded, and a latched daemon does not act.
    have idle : s.acted host = ((s.sensed host).2, none) := Frame.act_latched _ reset.latched
    have degrades : Frame.Degrades (s.sensed host).2 (s.sensed host).2 :=
      ⟨reset, [], by simp, fun _ e mem => absurd mem List.not_mem_nil, fun _ => owned⟩
    rw [idle] at releasing
    refine .after emits ?_
    unfold checked
    rw [idle]
    exact degrades.l1Poll none (releasing reset.latched)

/-- In every reachable state and every poll that latches: the poll ends clean exactly if
none of its calls is answered so that it does not. -/
theorem degraded_tidy_iff {history : List Event} (reachable : Reachable s history) (host : Host)
    (degrades : s.Degrades host) : (s.next host).Tidy ↔ ∀ e ∈ s.calls host, ¬ e.soils := by
  have custody := next_toCustody host s
  obtain ⟨pings, polls, errors, eq⟩ := next_eq host s
  have latched : (s.checked host).1.monitorOnly = true :=
    (congrArg Custody.monitorOnly custody).symm.trans degrades.2
  have same : (s.next host).Tidy ↔ (s.checked host).1.Tidy := by
    rw [eq]
    exact ⟨fun clean => { clean with }, fun clean => { clean with }⟩
  rw [same, calls_eq]
  rcases checked_concludes (reach_sound reachable) degrades.1 with control | ⟨-, es, log, clean⟩
  · rw [control] at latched
    cases latched
  · have all : (s.checked host).1.log = es := log
    rw [clean, all]

end Polls

section Third

attribute [local instance] Bench.json

/-- A bench daemon told to hold 5000 rpm, after some polls with the given speed writes. -/
def struckDaemon (speed : List (Option SmcError)) (polls : Nat) : Supervisor Bench :=
  loop.run (List.replicate polls Bench.quiet)
    (Bench.daemon { Bench.healthy with speed := speed } (.hold 5000))

/-- The third refused decision write, which soils nothing. -/
theorem degraded_tidy_iff_refused :
    (struckDaemon (List.replicate 3 (some Bench.refused)) 2).Degrades Bench.quiet ∧
      ((struckDaemon (List.replicate 3 (some Bench.refused)) 2).next Bench.quiet).Tidy :=
  ⟨by decide, (degraded_tidy_iff (Bench.daemon_reachable _ ⟨rfl, rfl⟩ (.hold 5000) _) Bench.quiet
    (by decide)).mpr (by decide)⟩

/-- The third refused re-assert: the poll ends with both windows running again. -/
theorem degraded_reopened :
    (∃ history,
        Reachable (struckDaemon (none :: List.replicate 3 (some Bench.refused)) 3) history) ∧
      (struckDaemon (none :: List.replicate 3 (some Bench.refused)) 3).Degrades Bench.quiet ∧
      ((struckDaemon (none :: List.replicate 3 (some Bench.refused)) 3).next
        Bench.quiet).stallPolls = 1 ∧
      ((struckDaemon (none :: List.replicate 3 (some Bench.refused)) 3).next
        Bench.quiet).offTargetPolls = 1 :=
  ⟨⟨_, Bench.daemon_reachable _ ⟨rfl, rfl⟩ (.hold 5000) _⟩, by decide, by decide, by decide⟩

end Third

end Supervisor

end Afanctl
