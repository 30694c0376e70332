import Afanctl.Bench
import Afanctl.Sysfs.Timing

/-!
How long a poll blocks between its two pings.

Calls are charged by kind: a mode write costs `mode`, a speed write `speed`. A poll that does
not drive the fan makes at most four mode writes. One that does is either behind a release,
and then has no target to re-assert, or has made no release, and then writes one speed in
`act` and one in L1; and the fallback fires at most once, since it leaves nothing to count.
-/

namespace Afanctl

open Afanctl.Lib

/-- Milliseconds in nanoseconds. -/
def millis (n : Nat) : Nat := n * 1000000

variable {mode speed n : Nat}

theorem cost_act : ActWeight (Event.cost mode speed) mode speed where
  release := fun _ _ => Nat.le_refl mode
  enter := fun _ _ _ => Nat.le_refl mode
  write := fun _ _ _ => Nat.le_refl speed

namespace Custody

variable {c : Custody}

/-- A strike costs the fallback at most. -/
theorem struckLog_cost (answer : Except SmcError FanMode) :
    weight (Event.cost mode speed) (c.struckLog answer) ≤ mode := by
  unfold struckLog
  split
  · exact Nat.le_refl mode
  · exact Nat.zero_le mode

/-- A command costs a release and its fallback at most. -/
theorem Obeys.cost_le {command : Option RunMode} {c' : Custody} {es : List Event}
    (obeys : Obeys command c es c') : weight (Event.cost mode speed) es ≤ mode + mode := by
  cases obeys with
  | released => exact Nat.le_add_left mode mode
  | releaseFailed e answer => exact Nat.add_le_add_left (struckLog_cost answer) mode
  | _ => exact Nat.zero_le _

end Custody

namespace Frame

variable {σ : Type} {p q : Frame σ}

theorem Falls.spends (falls : Falls (Event.cost mode speed) n p q) :
    Spends (Event.cost mode speed) (n + mode) p q := by
  obtain ⟨-, es, c, answer, log, light, -⟩ := falls
  refine ⟨_, log, ?_⟩
  rw [weight_append]
  exact Nat.add_le_add_right light mode

theorem Falls.releasing {w : Event → Nat} (falls : Falls w n p q) (armed : q.manualArmed = true) :
    q.autoRestorePending = true := by
  obtain ⟨-, es, c, answer, -, -, owned, pending⟩ := falls
  rw [pending]
  cases answer with
  | ok _ =>
      rw [owned] at armed
      cases armed
  | error _ => rfl

/-- What acting leaves to L1: the pending release as it was, and a target only if there was
one or this poll wrote it. -/
def Hands (p : Frame σ) (result : Frame σ × Option Nat) : Prop :=
  result.1.autoRestorePending = p.autoRestorePending ∧
    (result.1.lastWritten ≠ none → result.2 = none → p.lastWritten ≠ none)

theorem Hands.of_kept {result : Frame σ × Option Nat}
    (kept : result.1.autoRestorePending = p.autoRestorePending ∧
      result.1.lastWritten = p.lastWritten) : p.Hands result :=
  ⟨kept.1, fun live _ => kept.2 ▸ live⟩

variable [Smc σ] {applied : Option Nat}

theorem spends_failWrite (msg : String) (p : Frame σ) :
    Spends (Event.cost mode speed) mode p (p.failWrite msg) :=
  ⟨_, failWrite_log msg p, Custody.struckLog_cost _⟩

/-- A first strike costs nothing. -/
theorem spends_failWrite_first {w : Event → Nat} (msg : String) (first : p.writeFailures = 0) :
    Spends w 0 p (p.failWrite msg) :=
  .of_log (failWrite_below msg (by rw [first]; decide)).2.1

/-! ### L1 -/

/-- The window costs the fallback at most. -/
theorem spends_l1Window (dev rpm : Nat) (previous : Option Nat) (failed : Bool) (p : Frame σ) :
    Spends (Event.cost mode speed) mode p (p.l1Window dev rpm previous failed).1 := by
  unfold l1Window
  by_cases fires : p.StallFires dev rpm previous
  · obtain ⟨q, eq, -, log, -⟩ := l1Stall_fires fires
    simp only [eq]
    have fired := degradeToAuto_log q
    rw [log] at fired
    exact .of_event fired (Nat.le_refl mode)
  · obtain ⟨q, eq, -, log, -⟩ := l1Stall_quiet fires
    simp only [eq]
    exact .of_log (by rw [l1Verdict_log, log])

/-- A window that is not running cannot fill. -/
theorem spends_l1Window_reset {w : Event → Nat} (dev rpm : Nat) (previous : Option Nat)
    (failed : Bool) (motionless : p.stallPolls = 0) :
    Spends w 0 p (p.l1Window dev rpm previous failed).1 := by
  have quiet : ¬ p.StallFires dev rpm previous := by
    rintro ⟨-, -, full⟩
    rw [motionless] at full
    revert full
    decide
  obtain ⟨q, eq, -, log, -⟩ := l1Stall_quiet quiet
  unfold l1Window
  simp only [eq]
  exact .of_log (by rw [l1Verdict_log, log])

/-- The checks of a target cost a speed write, unless this poll wrote already, and the
fallback. -/
theorem spends_l1Target (fan : FanState) (previous : Option Nat) (failed : Bool)
    (control : p.monitorOnly = false)
    (light : p.lastWritten ≠ none → applied = none → speed ≤ n) :
    Spends (Event.cost mode speed) (n + mode) p (p.l1Target fan previous applied failed).1 := by
  cases live : p.lastWritten with
  | none =>
      simp only [l1Target, live]
      exact .of_log (l1Verdict_log failed p)
  | some written =>
      rw [l1Target_live live]
      by_cases off : p.Reasserts (absDiff fan.rpm written) applied
      · have asked : Spends (Event.cost mode speed) n p
            (p.reasserted (absDiff fan.rpm written) written) :=
          .of_event (reasserted_log ..) (light (by simp [live]) off.2.2)
        cases answer : (Smc.writeSpeed written p.smc).1 with
        | ok verified =>
            rw [l1Tracking_ok off answer]
            have taken : Spends (Event.cost mode speed) n p
                ({ p.reasserted (absDiff fan.rpm written) written with
                  lastWritten := some verified }.note
                    s!"L1: re-asserted at {verified} rpm") := asked
            exact taken.trans (spends_l1Window ..)
        | error e =>
            rw [l1Tracking_error off answer]
            rcases proceeds_failWrite (w := Event.cost mode speed) (n := 0)
              s!"L1 re-assert {written}: {e}"
              (p := p.reasserted (absDiff fan.rpm written) written) control with on | falls
            · exact asked.trans ((on.2.trans (spends_l1Window ..)).mono (by simp))
            · exact asked.trans ((falls.spends.trans
                (spends_l1Window_reset _ _ _ _ falls.1.motionless)).mono (by simp))
      · rw [l1Tracking_skip off]
        exact (spends_l1Window ..).mono (Nat.le_add_left mode n)

/-- The checks of an owned fan cost a takeover besides. -/
theorem spends_l1Checks (fan : FanState) (previous : Option Nat) (control : p.monitorOnly = false)
    (light : p.lastWritten ≠ none → applied = none → speed ≤ n) :
    Spends (Event.cost mode speed) (mode + (n + mode)) p (p.l1Checks fan previous applied).1 := by
  by_cases manual : fan.mode = .manual
  · simp only [l1Checks, l1ModeDrift_manual manual]
    exact (spends_l1Target fan previous false control light).mono (Nat.le_add_left _ mode)
  · have asked : Spends (Event.cost mode speed) mode p (p.setMode .enterManual .manual).2 :=
      .of_event (setMode_log ..) (Nat.le_refl mode)
    cases answer : (Smc.setMode .manual p.smc).1 with
    | ok m =>
        simp only [l1Checks, l1ModeDrift_ok manual answer]
        have taken : Spends (Event.cost mode speed) mode p
            ({ (p.setMode .enterManual .manual).2 with manualArmed := true }.note
              "L1: manual mode re-asserted") := asked
        exact taken.trans (spends_l1Target fan previous false control light)
    | error e =>
        simp only [l1Checks, l1ModeDrift_error manual answer]
        refine asked.trans ?_
        by_cases below : p.writeFailures + 1 < writeFailFallback
        · obtain ⟨ticks, errors, notes, eq⟩ := failWrite_short
            (p := (p.setMode .enterManual .manual).2) s!"set Manual write error: {e}" below
          rw [eq]
          have counted : Spends (Event.cost mode speed) 0 (p.setMode .enterManual .manual).2
              { (p.setMode .enterManual .manual).2 with
                writeFailures := p.writeFailures + 1, ticks := ticks, recentErrors := errors,
                notes := notes } :=
            .of_log rfl
          exact (counted.trans (spends_l1Target fan previous true control light)).mono
            (Nat.le_of_eq (Nat.zero_add _))
        · have falls : Falls (Event.cost mode speed) 0 (p.setMode .enterManual .manual).2
              ((p.setMode .enterManual .manual).2.failWrite s!"set Manual write error: {e}") :=
            falls_failWrite _ (Nat.not_lt.mp below)
          rw [l1Target_reset fan previous applied falls.1]
          exact falls.spends.mono (Nat.add_le_add_right (Nat.zero_le n) mode)

/-- A fan read costs nothing. -/
theorem spends_readFan (site : Site) (p : Frame σ) :
    Spends (Event.cost mode speed) 0 p (p.readFan site).2 :=
  .of_event (readFan_log ..) (Nat.le_refl 0)

/-- A failed fan read is one more strike. -/
theorem spends_l1Poll_error {e : SmcError} (answer : (Smc.readFan p.smc).1 = .error e) :
    Spends (Event.cost mode speed) mode p (p.l1Poll applied).1 := by
  rw [l1Poll_error answer]
  have looked : Spends (Event.cost mode speed) 0 p
      ((p.readFan .l1Poll).2.noteRecent s!"L1 fan read failed: {e}") := spends_readFan .l1Poll p
  exact (looked.trans (spends_failWrite _ _)).mono (Nat.le_of_eq (Nat.zero_add mode))

/-- L1 costs no more than its checks do. -/
theorem spends_l1Poll (control : p.monitorOnly = false)
    (light : p.lastWritten ≠ none → applied = none → speed ≤ n) :
    Spends (Event.cost mode speed) (mode + (n + mode)) p (p.l1Poll applied).1 := by
  cases answer : (Smc.readFan p.smc).1 with
  | error e => exact (spends_l1Poll_error answer).mono (Nat.le_add_right mode _)
  | ok fan =>
      have looked : Spends (Event.cost mode speed) 0 p (p.looked fan) := spends_readFan .l1Poll p
      cases armed : p.manualArmed with
      | false =>
          rw [l1Poll_free answer armed]
          exact looked.mono (Nat.zero_le _)
      | true =>
          cases pending : p.autoRestorePending with
          | true =>
              rw [l1Poll_releasing answer armed pending]
              exact looked.mono (Nat.zero_le _)
          | false =>
              rw [l1Poll_owned answer armed pending]
              exact (looked.trans (spends_l1Checks (p := p.looked fan) fan p.prevActual control
                light)).mono (Nat.le_of_eq (Nat.zero_add _))

/-- Of a fan that is not owned, or is being released, L1 checks nothing. -/
theorem spends_l1Poll_idle (idle : p.manualArmed = true → p.autoRestorePending = true) :
    Spends (Event.cost mode speed) mode p (p.l1Poll applied).1 := by
  cases answer : (Smc.readFan p.smc).1 with
  | error e => exact spends_l1Poll_error answer
  | ok fan =>
      have looked : Spends (Event.cost mode speed) mode p (p.looked fan) :=
        (spends_readFan .l1Poll p).mono (Nat.zero_le mode)
      cases armed : p.manualArmed with
      | false =>
          rw [l1Poll_free answer armed]
          exact looked
      | true =>
          rw [l1Poll_releasing answer armed (idle armed)]
          exact looked

/-- Behind a degradation a failed read is a first strike. -/
theorem spends_l1Poll_reset (reset : p.Reset)
    (idle : p.manualArmed = true → p.autoRestorePending = true) :
    Spends (Event.cost mode speed) 0 p (p.l1Poll applied).1 := by
  cases answer : (Smc.readFan p.smc).1 with
  | error e =>
      rw [l1Poll_error answer]
      have looked : Spends (Event.cost mode speed) 0 p
          ((p.readFan .l1Poll).2.noteRecent s!"L1 fan read failed: {e}") :=
        spends_readFan .l1Poll p
      exact looked.trans (spends_failWrite_first _ reset.uncounted)
  | ok fan =>
      have looked : Spends (Event.cost mode speed) 0 p (p.looked fan) := spends_readFan .l1Poll p
      cases armed : p.manualArmed with
      | false =>
          rw [l1Poll_free answer armed]
          exact looked
      | true =>
          rw [l1Poll_releasing answer armed (idle armed)]
          exact looked

/-! ### Acting, and L1 behind it -/

/-- While control stays on, a counted failure keeps the target and the pending release. -/
theorem failWrite_keeps (msg : String) (on : (p.failWrite msg).monitorOnly = false) :
    (p.failWrite msg).autoRestorePending = p.autoRestorePending ∧
      (p.failWrite msg).lastWritten = p.lastWritten := by
  by_cases below : p.writeFailures + 1 < writeFailFallback
  · obtain ⟨ticks, errors, notes, eq⟩ := failWrite_short msg below
    rw [eq]
    exact ⟨rfl, rfl⟩
  · have falls : Falls (Event.cost 0 0) 0 p (p.failWrite msg) :=
      falls_failWrite msg (Nat.not_lt.mp below)
    rw [falls.1.latched] at on
    cases on

theorem writeOwned_hands (rpm : Nat) (on : (p.writeOwned rpm).1.monitorOnly = false) :
    p.Hands (p.writeOwned rpm) := by
  by_cases same : p.lastWritten = some (clamp p.hwMin p.hwMax rpm)
  · rw [writeOwned_same same]
    exact .of_kept ⟨rfl, rfl⟩
  · cases answer : (Smc.writeSpeed (clamp p.hwMin p.hwMax rpm) p.smc).1 with
    | ok verified =>
        rw [writeOwned_ok same answer]
        exact ⟨rfl, nofun⟩
    | error e =>
        rw [writeOwned_error same answer] at on ⊢
        exact .of_kept (failWrite_keeps _ on)

theorem writeControlled_hands (rpm : Nat) (on : (p.writeControlled rpm).1.monitorOnly = false) :
    p.Hands (p.writeControlled rpm) := by
  cases armed : p.manualArmed with
  | true =>
      rw [writeControlled_armed rpm armed] at on ⊢
      exact writeOwned_hands rpm on
  | false =>
      cases answer : (Smc.setMode .manual p.smc).1 with
      | ok _ =>
          rw [writeControlled_taken armed answer] at on ⊢
          exact writeOwned_hands (p := { (p.setMode .enterManual .manual).2 with
            manualArmed := true }) rpm on
      | error e =>
          rw [writeControlled_refused armed answer] at on ⊢
          exact .of_kept (failWrite_keeps _ on)

theorem act_hands (decision : Decision) (control : p.monitorOnly = false)
    (on : (p.act decision).1.monitorOnly = false) : p.Hands (p.act decision) := by
  cases decision with
  | observe =>
      rw [act_observe]
      exact .of_kept ⟨rfl, rfl⟩
  | setSpeed | escalateMax =>
      rw [act_speed control rfl] at on ⊢
      exact writeControlled_hands _ on
  | returnToAuto =>
      cases armed : p.manualArmed with
      | false =>
          rw [act_returnToAuto_free armed]
          exact .of_kept ⟨rfl, rfl⟩
      | true =>
          cases answer : (Smc.setMode .auto p.smc).1 with
          | ok _ =>
              rw [act_returnToAuto_ok control armed answer]
              exact ⟨rfl, fun live => absurd rfl live⟩
          | error e =>
              rw [act_returnToAuto_error control armed answer] at on ⊢
              exact .of_kept (failWrite_keeps _ on)

/-- What follows a fallback in `act` costs nothing. -/
theorem Falls.spends_l1Poll (falls : Falls (Event.cost mode speed) n p q) :
    Spends (Event.cost mode speed) (n + mode) p (q.l1Poll applied).1 :=
  falls.spends.trans (spends_l1Poll_reset falls.1 falls.releasing)

section Acting

variable (decision : Decision)

/-- With a release pending, L1 checks nothing. -/
theorem spends_releasing (control : p.monitorOnly = false)
    (pending : p.autoRestorePending = true) :
    Spends (Event.cost mode speed) (mode + speed + mode) p
      ((p.act decision).1.l1Poll (p.act decision).2).1 := by
  rcases proceeds_act decision cost_act control with on | falls
  · have hands := act_hands decision control on.1
    exact on.2.trans (spends_l1Poll_idle fun _ => hands.1.trans pending)
  · exact falls.spends_l1Poll

/-- An owned fan costs a speed write in `act` and one in L1. -/
theorem spends_owned (control : p.monitorOnly = false) (armed : p.manualArmed = true) :
    Spends (Event.cost mode speed) (max mode speed + (mode + (speed + mode))) p
      ((p.act decision).1.l1Poll (p.act decision).2).1 := by
  rcases proceeds_act_owned decision cost_act control armed with on | falls
  · exact on.2.trans (spends_l1Poll on.1 fun _ _ => Nat.le_refl speed)
  · exact falls.spends_l1Poll.mono (by omega)

/-- A fan that is not owned has no target for L1 but the one just written. -/
theorem spends_free (control : p.monitorOnly = false) (free : p.manualArmed = false)
    (unwritten : p.lastWritten = none) :
    Spends (Event.cost mode speed) (mode + speed + (mode + (0 + mode))) p
      ((p.act decision).1.l1Poll (p.act decision).2).1 := by
  rcases proceeds_act_unowned decision cost_act control free with on | falls
  · have hands := act_hands decision control on.1
    exact on.2.trans (spends_l1Poll on.1 fun live idle => absurd unwritten (hands.2 live idle))
  · exact falls.spends_l1Poll.mono (by omega)

end Acting

/-! ### The retry -/

theorem spends_autoRestoreRetry (p : Frame σ) :
    Spends (Event.cost mode speed) mode p p.autoRestoreRetry := by
  rcases autoRestoreRetry_cases p with ⟨-, same⟩ | ⟨-, rpm, -, -, log⟩ | ⟨-, -, log, -⟩
  · rw [same]
    exact .of_log rfl
  · exact .of_event log (Nat.zero_le mode)
  · have looked : Spends (Event.cost mode speed) 0 p (p.readFan .autoRestoreRetry).2 :=
      spends_readFan .autoRestoreRetry p
    exact (looked.trans (.of_event log (Nat.le_refl mode))).mono (Nat.le_of_eq (Nat.zero_add mode))

/-- A retry that leaves an owned fan with nothing pending found nothing pending. -/
theorem autoRestoreRetry_owned (armed : p.autoRestoreRetry.manualArmed = true)
    (idle : p.autoRestoreRetry.autoRestorePending = false) : p.autoRestoreRetry = p := by
  rcases autoRestoreRetry_cases p with ⟨-, same⟩ | ⟨-, rpm, -, custody, -⟩ |
    ⟨pending, -, -, ⟨m, -, custody⟩ | ⟨e, -, custody⟩⟩
  · exact same
  · rw [custody] at armed
    cases armed
  · rw [custody] at armed
    cases armed
  · rw [custody, pending] at idle
    cases idle

end Frame

namespace Supervisor

variable {σ : Type} [Smc σ] [SerdeJson] {s : Supervisor σ}

theorem commanded_spends (host : Host) (s : Supervisor σ) :
    Frame.Spends (Event.cost mode speed) (mode + mode) (s.frame host) (s.commanded host) :=
  ⟨_, rfl, (commanded_obeys host s).cost_le⟩

theorem retried_spends (host : Host) (s : Supervisor σ) :
    Frame.Spends (Event.cost mode speed) mode (s.commanded host) (s.retried host) :=
  Frame.spends_autoRestoreRetry _

theorem sensed_spends (host : Host) (s : Supervisor σ) :
    Frame.Spends (Event.cost mode speed) 0 (s.retried host) (s.sensed host).2 :=
  .of_event (sensed_log host s) (Nat.le_refl 0)

theorem cost_of_spends {host : Host}
    (spends : Frame.Spends (Event.cost mode speed) n (s.frame host) (s.checked host).1) :
    weight (Event.cost mode speed) (s.calls host) ≤ n := by
  obtain ⟨es, log, light⟩ := spends
  rw [calls_eq, log]
  exact light

/-- A poll that does not drive the fan writes only modes. -/
theorem calls_cost_idle (mode speed : Nat) (host : Host) (sound : s.Sound)
    (off : ¬ (s.sensed host).2.Driving) :
    weight (Event.cost mode speed) (s.calls host) ≤ mode + mode + mode + 0 + mode := by
  have idle : s.acted host = ((s.sensed host).2, none) := by
    cases latched : (s.sensed host).2.monitorOnly with
    | true => exact Frame.act_latched _ latched
    | false =>
        have observe : (s.sensed host).2.mode = .observe :=
          Decidable.byContradiction fun control => off ⟨control, latched⟩
        exact acted_of_observe (controllerStep_observe (.inl observe))
  refine cost_of_spends ((((commanded_spends host s).trans (retried_spends host s)).trans
    (sensed_spends host s)).trans ?_)
  unfold checked
  rw [idle]
  exact Frame.spends_l1Poll_idle fun armed => (sensed_sound host sound).owned armed off

/-- One that does has made no call for its command. -/
theorem sensed_of_driving {host : Host} (driving : (s.sensed host).2.Driving) :
    (s.commanded host).log = [] := by
  refine (commanded_obeys host s).silent fun observe => driving.1 ?_
  rw [sensed_toCustody, (moves_retried host s).mode_eq.1]
  exact observe

/-- The calls of a poll: four mode writes and a speed write at most, or two mode writes, a
speed write and another write. -/
theorem calls_cost (mode speed : Nat) (host : Host) (sound : s.Sound) :
    weight (Event.cost mode speed) (s.calls host)
      ≤ max (4 * mode + speed) (2 * mode + speed + max mode speed) := by
  by_cases driving : (s.sensed host).2.Driving
  · have silent : Frame.Spends (Event.cost mode speed) 0 (s.frame host) (s.commanded host) :=
      .of_log (sensed_of_driving driving)
    have before := (silent.trans (retried_spends host s)).trans (sensed_spends host s)
    cases pending : (s.sensed host).2.autoRestorePending with
    | true =>
        have spent := cost_of_spends (before.trans
          (Frame.spends_releasing (s.decided host).1 driving.2 pending))
        omega
    | false =>
        cases armed : (s.sensed host).2.manualArmed with
        | true =>
            rw [sensed_toCustody] at armed pending
            have found : s.retried host = s.commanded host :=
              Frame.autoRestoreRetry_owned armed pending
            have before := (silent.trans (.of_log (n := 0) (congrArg Frame.log found))).trans
              (sensed_spends host s)
            rw [← sensed_toCustody] at armed
            have spent := cost_of_spends (before.trans
              (Frame.spends_owned (s.decided host).1 driving.2 armed))
            omega
        | false =>
            have unwritten : (s.sensed host).2.lastWritten = none := by
              cases live : (s.sensed host).2.lastWritten with
              | none => rfl
              | some written =>
                  have owned := (sensed_sound host sound).written (by rw [live]; rfl)
                  rw [armed] at owned
                  cases owned
            have spent := cost_of_spends (before.trans
              (Frame.spends_free (s.decided host).1 driving.2 armed unwritten))
            omega
  · have spent := calls_cost_idle mode speed host sound driving
    omega

end Supervisor

namespace Supervisor

variable {δ : Type} [Sysfs δ] [SerdeJson]

/-- In every reachable state, whatever the command and the device: a poll sleeps at most ten
seconds, less than the largest interval and the watchdog's budget. -/
theorem poll_sleeps {s : Supervisor (SysfsSmc δ)} {history : List Event}
    (reachable : Reachable s history) (host : Host) :
    ∃ ops, (s.next host).smc.world.journal = s.smc.world.journal ++ ops ∧
      slept ops ≤ millis 10000 ∧ slept ops < millis (maxIntervalS * 1000) ∧
      slept ops < millis (watchdogUnitSec * 1000) := by
  have modes : settleNs modeSettleMs ≤ millis 1800 := by decide
  have speeds : settleNs echoSettleMs ≤ millis 2700 := by decide
  obtain ⟨ops, journal, brief⟩ := serves_within modes speeds (calls_served host s)
  have cost := calls_cost (millis 1800) (millis 2700) host (reach_sound reachable)
  refine ⟨ops, journal, ?_⟩
  unfold millis at cost brief ⊢
  unfold maxIntervalS watchdogUnitSec
  omega

end Supervisor

section Deaf

attribute [local instance] Bench.json

/-- A device that takes every write and heeds none. -/
structure Deaf where
  shelf : Shelf

instance : Sysfs Deaf where
  read path d := ((Sysfs.read path d.shelf).1, d)
  write path _ d := ((Sysfs.read path d.shelf).1.map fun _ => (), d)
  writeHeld _ d := (.ok (), d)
  sleep _ d := d

/-- The daemon over a deaf shelf of files, as it is built. -/
def deafDaemon : Supervisor (SysfsSmc Deaf) :=
  Supervisor.wired
    { Shelf.adapter with
      restoreFile := some 7, world := { device := ⟨Shelf.adapter.world.device⟩, journal := [] } }
    Bench.config .curve Bench.paths

/-- Its first takeover sleeps through both windows. -/
theorem Supervisor.poll_sleeps_deaf :
    slept (deafDaemon.next Bench.quiet).smc.world.journal = millis 1800 ∧
      ∃ ops, (deafDaemon.next Bench.quiet).smc.world.journal
          = deafDaemon.smc.world.journal ++ ops ∧
        slept ops ≤ millis 10000 ∧ slept ops < millis (maxIntervalS * 1000) ∧
        slept ops < millis (watchdogUnitSec * 1000) :=
  ⟨by decide +kernel, Supervisor.poll_sleeps
    (.start (.built (Supervisor.new_eq_ok.mpr ⟨Bench.config_valid, rfl⟩))) Bench.quiet⟩

end Deaf

end Afanctl
