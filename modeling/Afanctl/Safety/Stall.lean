import Afanctl.Lib.Streak
import Afanctl.Supervisor.Requests
import Afanctl.Bench

/-!
The stall detector on a backend that answers every call with `Ok`.

Without failures the daemon is `Steady` between its stages: nothing is pending, and
the fan is owned exactly while a target is live. Then L1 judges a target in every poll
that owns the fan, so the window counts the polls of the current stuck sequence, and
only a full window latches. A latch empties the window, so it counts modulo the
window's length; a re-command in the very next poll continues the sequence.
-/

namespace Afanctl

open Afanctl.Lib

/-- The call was answered with `Ok`. -/
def Event.answered (e : Event) : Bool :=
  match e.op with
  | .readSensors (.ok _) => true
  | .readFan (.ok _) => true
  | .writeSpeed _ (.ok _) => true
  | .setMode _ (.ok _) => true
  | .probeSafeRestore (.ok _) => true
  | _ => false

namespace Custody

variable {c c' : Custody} {es : List Event}

/-- The custody between the stages of a poll without failures. -/
structure Steady (c : Custody) : Prop where
  idle : c.autoRestorePending = false
  live : c.manualArmed = c.lastWritten.isSome
  latched : c.monitorOnly = true → c.manualArmed = false

/-- A command without failures keeps the custody steady, and does not latch. -/
theorem Obeys.steady {command : Option RunMode} (obeys : Obeys command c es c')
    (answered : ∀ e ∈ es, e.answered) (steady : c.Steady) :
    c'.Steady ∧ (c'.monitorOnly = true → c.monitorOnly = true) := by
  cases obeys with
  | accepted =>
      unfold accepting
      split
      · exact ⟨⟨rfl, steady.live, nofun⟩, nofun⟩
      · exact ⟨⟨steady.idle, steady.live, steady.latched⟩, id⟩
  | left => exact ⟨⟨steady.idle, steady.live, steady.latched⟩, id⟩
  | released => exact ⟨⟨rfl, rfl, fun _ => rfl⟩, id⟩
  | releaseFailed => exact absurd (answered _ List.mem_cons_self) nofun
  | _ => exact ⟨steady, id⟩

end Custody

namespace Frame

variable {σ : Type}

/-- The stall window and the tach it compares with. -/
def window (p : Frame σ) : Nat × Option Nat := (p.stallPolls, p.prevActual)

variable {p : Frame σ}

theorem rearm_window (requested : RunMode) : (p.rearm requested).window = p.window := by
  unfold rearm
  split <;> rfl

theorem stallPollsMax_pos : 0 < stallPollsMax := by decide

/-- One more fills a window that counts modulo its length. -/
theorem window_fills {n : Nat} : n % stallPollsMax + 1 = stallPollsMax ↔ stallPollsMax ∣ n + 1 := by
  unfold stallPollsMax
  omega

theorem stallPollsMax_le_u32Max : stallPollsMax ≤ u32Max := by decide

/-- The detector fires off target, with a motionless tach and a window about to fill. -/
theorem stallFires_iff_full (dev rpm : Nat) (previous : Option Nat) :
    p.StallFires dev rpm previous ↔
      (decide (verifyToleranceRpm < dev) && !tachMoved rpm previous) = true ∧
        stallPollsMax ≤ p.stallPolls + 1 := by
  have bound := stallPollsMax_le_u32Max
  simp only [StallFires, Bool.and_eq_true, decide_eq_true_eq, Bool.not_eq_true', and_assoc]
  refine and_congr_right fun _ => and_congr_right fun _ => ?_
  omega

theorem stallFires_iff (dev rpm : Nat) (previous : Option Nat)
    (open' : p.stallPolls < stallPollsMax) :
    p.StallFires dev rpm previous ↔
      (decide (verifyToleranceRpm < dev) && !tachMoved rpm previous) = true ∧
        p.stallPolls + 1 = stallPollsMax := by
  rw [stallFires_iff_full]
  refine and_congr_right fun _ => ?_
  omega

/-- Below its length the window counts off-target polls modulo it. -/
theorem stallWindow_eq (dev rpm : Nat) (previous : Option Nat)
    (open' : p.stallPolls < stallPollsMax) (quiet : ¬ p.StallFires dev rpm previous) :
    p.stallWindow dev rpm previous
      = if decide (verifyToleranceRpm < dev) && !tachMoved rpm previous then
          (p.stallPolls + 1) % stallPollsMax
        else 0 := by
  have bound := stallPollsMax_le_u32Max
  rw [stallFires_iff dev rpm previous open'] at quiet
  simp only [stallWindow, Bool.and_eq_true, decide_eq_true_eq, Bool.not_eq_true'] at quiet ⊢
  split
  · next off =>
      have open' : p.stallPolls + 1 < stallPollsMax :=
        Nat.lt_of_le_of_ne open' fun full => quiet ⟨off, full⟩
      rw [Nat.mod_eq_of_lt open']
      omega
  · rfl

/-- An owned fan with a live target, as the checks of L1 leave it. -/
structure Judged (p : Frame σ) : Prop where
  armed : p.manualArmed = true
  live : p.lastWritten.isSome
  idle : p.autoRestorePending = false
  control : p.monitorOnly = false
  open' : p.stallPolls < stallPollsMax

/-- The window after a poll off target (`off`) or on it, and whether it fired. -/
structure Windowed (off : Bool) (p q : Frame σ) : Prop where
  steady : q.Steady
  window : q.window = (if off then (p.stallPolls + 1) % stallPollsMax else 0, p.prevActual)
  control : q.monitorOnly = true ↔ off = true ∧ p.stallPolls + 1 = stallPollsMax

theorem Windowed.congr {off : Bool} {q r : Frame σ} (windowed : q.Windowed off r)
    (same : q.window = p.window) : p.Windowed off r := by
  obtain ⟨polls, prev⟩ := Prod.mk.inj same
  exact ⟨windowed.steady, polls ▸ prev ▸ windowed.window, polls ▸ windowed.control⟩

theorem Judged.congr {q : Frame σ} (target : Option Nat) (judged : p.Judged)
    (custody : q.toCustody = { p.toCustody with manualArmed := true, lastWritten := target })
    (live : target.isSome) (same : q.window = p.window) : q.Judged where
  armed := congrArg Custody.manualArmed custody
  live := (congrArg (·.lastWritten.isSome) custody).trans live
  idle := (congrArg Custody.autoRestorePending custody).trans judged.idle
  control := (congrArg Custody.monitorOnly custody).trans judged.control
  open' := by
    rw [show q.stallPolls = p.stallPolls from congrArg Prod.fst same]
    exact judged.open'

variable [Smc σ]

/-- Where every call was answered, no strike follows a refused one. -/
theorem refused_absurd {q : Frame σ} {e : Event} {msg : String} {goal : Prop}
    (answered : ∀ e ∈ (q.failWrite msg).log, e.answered) (log : q.log = p.log ++ [e])
    (refused : e.answered = false) : goal := by
  have mem : e ∈ (q.failWrite msg).log := by
    rw [failWrite_log, log]
    simp
  exact Bool.noConfusion (refused.symm.trans (answered e mem))

theorem leaveControl_window {mode : FanMode} (armed : p.manualArmed = true)
    (answer : (Smc.setMode .auto p.smc).1 = .ok mode) : p.leaveControl.window = p.window := by
  simp [leaveControl, armed, setMode, answer, note, called, window]

theorem applyMode_window (requested : RunMode)
    (answered : ∀ e ∈ (p.applyMode requested).log, e.answered) :
    (p.applyMode requested).window = p.window := by
  by_cases observe : requested = .observe
  · subst observe
    by_cases mode : p.mode = .observe
    · rw [applyMode_already mode]
    · rw [applyMode_observe mode] at answered ⊢
      cases armed : p.manualArmed with
      | false =>
          rw [leaveControl_free armed]
          rfl
      | true =>
          cases answer : (Smc.setMode .auto p.smc).1 with
          | ok m => exact leaveControl_window armed answer
          | error e =>
              rw [leaveControl_error armed answer] at answered
              exact refused_absurd answered (q := p.releaseFailed) (setMode_log ..)
                (by rw [answer]; rfl)
  · cases absent : p.l2Absent with
    | true =>
        rw [applyMode_refused observe absent]
        rfl
    | false =>
        simp only [applyMode, absent, observe, Bool.false_eq_true, false_and, ↓reduceIte]
        split
        · exact rearm_window requested
        · exact rearm_window requested

/-! ### Acting -/

/-- From `p` to `q` the custody stays steady, and neither the window nor the latch
changes. -/
structure Carries (p q : Frame σ) : Prop where
  steady : q.Steady
  window : q.window = p.window
  control : q.monitorOnly = p.monitorOnly

theorem writeOwned_carries {rpm : Nat} (armed : p.manualArmed = true)
    (idle : p.autoRestorePending = false) (control : p.monitorOnly = false)
    (answered : ∀ e ∈ (p.writeOwned rpm).1.log, e.answered) : p.Carries (p.writeOwned rpm).1 := by
  have unlatched : ∀ {c : Prop}, p.monitorOnly = true → c := fun latched =>
    Bool.noConfusion (control.symm.trans latched)
  by_cases same : p.lastWritten = some (clamp p.hwMin p.hwMax rpm)
  · rw [writeOwned_same same]
    exact ⟨⟨idle, by rw [armed, same]; rfl, unlatched⟩, rfl, rfl⟩
  · cases answer : (Smc.writeSpeed (clamp p.hwMin p.hwMax rpm) p.smc).1 with
    | ok verified =>
        rw [writeOwned_ok same answer]
        exact ⟨⟨idle, armed, unlatched⟩, rfl, rfl⟩
    | error e =>
        rw [writeOwned_error same answer] at answered
        exact refused_absurd answered (writeSpeed_log ..) (by rw [answer]; rfl)

theorem writeControlled_carries {rpm : Nat} (steady : p.Steady) (control : p.monitorOnly = false)
    (answered : ∀ e ∈ (p.writeControlled rpm).1.log, e.answered) :
    p.Carries (p.writeControlled rpm).1 := by
  cases armed : p.manualArmed with
  | true =>
      rw [writeControlled_armed rpm armed] at answered ⊢
      exact writeOwned_carries armed steady.idle control answered
  | false =>
      cases answer : (Smc.setMode .manual p.smc).1 with
      | ok mode =>
          rw [writeControlled_taken armed answer] at answered ⊢
          obtain ⟨steady, window, kept⟩ := writeOwned_carries
            (p := { (p.setMode .enterManual .manual).2 with manualArmed := true }) rfl steady.idle
            control answered
          exact ⟨steady, window, kept⟩
      | error e =>
          rw [writeControlled_refused armed answer] at answered
          exact refused_absurd answered (setMode_log ..) (by rw [answer]; rfl)

theorem act_carries (decision : Decision) (steady : p.Steady)
    (answered : ∀ e ∈ (p.act decision).1.log, e.answered) : p.Carries (p.act decision).1 := by
  cases control : p.monitorOnly with
  | true =>
      rw [act_latched decision control]
      exact ⟨steady, rfl, rfl⟩
  | false =>
      cases decision with
      | observe =>
          rw [act_observe]
          exact ⟨steady, rfl, rfl⟩
      | returnToAuto =>
          cases armed : p.manualArmed with
          | false =>
              rw [act_returnToAuto_free armed]
              exact ⟨steady, rfl, rfl⟩
          | true =>
              cases answer : (Smc.setMode .auto p.smc).1 with
              | ok mode =>
                  rw [act_returnToAuto_ok control armed answer]
                  exact ⟨⟨steady.idle, rfl, fun _ => rfl⟩, rfl, rfl⟩
              | error e =>
                  rw [act_returnToAuto_error control armed answer] at answered
                  exact refused_absurd answered (setMode_log ..) (by rw [answer]; rfl)
      | setSpeed rpm =>
          rw [act_setSpeed rpm control] at answered ⊢
          exact writeControlled_carries steady control answered
      | escalateMax =>
          rw [act_escalateMax control] at answered ⊢
          exact writeControlled_carries steady control answered

/-! ### L1 -/

/-- The tach that L1 reads. -/
def tach (p : Frame σ) : Option Nat :=
  match (Smc.readFan p.smc).1 with
  | .ok fan => some fan.rpm
  | .error _ => none

/-- L1 finds an owned fan off its target, with a tach that has not moved since
`previous`. -/
def stuck (previous : Option Nat) (p : Frame σ) : Bool :=
  match p.tach, p.lastWritten with
  | some rpm, some written =>
      p.manualArmed && decide (verifyToleranceRpm < absDiff rpm written) && !tachMoved rpm previous
  | _, _ => false

/-- A latched daemon owns no fan that could be stuck. -/
theorem unstuck_of_latched {p : Frame σ} (steady : p.Steady) (latched : p.monitorOnly = true)
    (previous : Option Nat) : p.stuck previous = false := by
  have free := steady.latched latched
  unfold stuck
  split <;> simp [free]

theorem degradeToAuto_window (p : Frame σ) : p.degradeToAuto.window = (0, p.prevActual) := by
  unfold degradeToAuto setMode
  cases answer : (Smc.setMode .auto p.smc).1 <;> simp [answer, window, note, noteRecent, called]

theorem degradeToAuto_steady (answered : ∀ e ∈ p.degradeToAuto.log, e.answered) :
    p.degradeToAuto.Steady ∧ p.degradeToAuto.monitorOnly = true := by
  rw [degradeToAuto_log] at answered
  rw [degradeToAuto_toCustody]
  cases answer : (Smc.setMode .auto p.smc).1 with
  | ok mode => exact ⟨⟨rfl, rfl, fun _ => rfl⟩, rfl⟩
  | error e =>
      refine absurd (answered _ (List.mem_append_right _ (List.mem_singleton.mpr rfl))) ?_
      rw [answer]
      nofun

theorem l1Window_windowed {dev rpm : Nat} {previous : Option Nat} (judged : p.Judged)
    (answered : ∀ e ∈ (p.l1Window dev rpm previous false).1.log, e.answered) :
    p.Windowed (decide (verifyToleranceRpm < dev) && !tachMoved rpm previous)
      (p.l1Window dev rpm previous false).1 := by
  have fires_iff := stallFires_iff dev rpm previous judged.open'
  by_cases fires : p.StallFires dev rpm previous
  · obtain ⟨off, full⟩ := fires_iff.mp fires
    obtain ⟨q, eq, -, -, kept⟩ := l1Stall_fires fires
    simp only [l1Window, eq] at answered ⊢
    obtain ⟨steady, latched⟩ := degradeToAuto_steady answered
    refine ⟨steady, ?_, ⟨fun _ => ⟨off, full⟩, fun _ => latched⟩⟩
    rw [degradeToAuto_window, off, full, kept]
    simp
  · obtain ⟨q, eq, custody, -, window, kept⟩ := l1Stall_quiet fires
    have live : q.lastWritten.isSome := by
      rw [custody]
      exact judged.live
    have owned : q.manualArmed = true := (congrArg Custody.manualArmed custody).trans judged.armed
    have control : q.monitorOnly = false :=
      (congrArg Custody.monitorOnly custody).trans judged.control
    simp only [l1Window, eq, l1Verdict, live, Bool.false_eq_true, ↓reduceIte]
    refine ⟨⟨(congrArg Custody.autoRestorePending custody).trans judged.idle, owned.trans live.symm,
      fun latched => Bool.noConfusion (control.symm.trans latched)⟩, ?_, ?_⟩
    · rw [← stallWindow_eq dev rpm previous judged.open' fires, ← window, ← kept]
      rfl
    · exact ⟨fun latched => Bool.noConfusion (control.symm.trans latched),
        fun full => absurd (fires_iff.mpr full) fires⟩

/-! The calls of each check of L1 are calls of the whole. -/

theorem log_subset_l1Window (dev rpm : Nat) (previous : Option Nat) (failed : Bool) :
    p.log ⊆ (p.l1Window dev rpm previous failed).1.log :=
  (l1Window_asks (Q := fun _ _ => True) dev rpm previous failed p).log_subset

theorem log_subset_l1Target (fan : FanState) (previous applied : Option Nat) (failed : Bool) :
    p.log ⊆ (p.l1Target fan previous applied failed).1.log :=
  (l1Target_asks (Q := fun _ _ => True) fan previous applied failed p).log_subset

theorem l1Tracking_answered {dev written : Nat} {applied : Option Nat} (judged : p.Judged)
    (answered : ∀ e ∈ (p.l1Tracking dev written applied false).1.log, e.answered) :
    ∃ q, p.l1Tracking dev written applied false = (q, false) ∧ q.Judged ∧ q.window = p.window := by
  by_cases off : p.Reasserts dev applied
  · cases answer : (Smc.writeSpeed written p.smc).1 with
    | ok verified =>
        refine ⟨_, l1Tracking_ok off answer, judged.congr (some verified) ?_ rfl rfl, rfl⟩
        rw [← judged.armed]
        rfl
    | error e =>
        rw [l1Tracking_error off answer] at answered
        have log : (p.reasserted dev written).log
            = p.log ++ [⟨.l1Poll, .writeSpeed written (.error e), p.toCustody⟩] := by
          rw [← answer]
          rfl
        exact refused_absurd answered log rfl
  · exact ⟨p, l1Tracking_skip off, judged, rfl⟩

theorem l1Target_windowed {fan : FanState} {previous applied : Option Nat} {written : Nat}
    (judged : p.Judged) (live : p.lastWritten = some written)
    (answered : ∀ e ∈ (p.l1Target fan previous applied false).1.log, e.answered) :
    p.Windowed
      (decide (verifyToleranceRpm < absDiff fan.rpm written) && !tachMoved fan.rpm previous)
      (p.l1Target fan previous applied false).1 := by
  rw [l1Target_live live] at answered ⊢
  obtain ⟨q, eq, judged, same⟩ := l1Tracking_answered judged fun e mem =>
    answered e (log_subset_l1Window _ _ _ _ mem)
  rw [eq] at answered ⊢
  exact (l1Window_windowed judged answered).congr same

theorem l1Checks_windowed {fan : FanState} {previous applied : Option Nat} {written : Nat}
    (judged : p.Judged) (live : p.lastWritten = some written)
    (answered : ∀ e ∈ (p.l1Checks fan previous applied).1.log, e.answered) :
    p.Windowed
      (decide (verifyToleranceRpm < absDiff fan.rpm written) && !tachMoved fan.rpm previous)
      (p.l1Checks fan previous applied).1 := by
  unfold l1Checks at answered ⊢
  by_cases manual : fan.mode = .manual
  · rw [l1ModeDrift_manual manual] at answered ⊢
    exact l1Target_windowed judged live answered
  · cases answer : (Smc.setMode .manual p.smc).1 with
    | ok mode =>
        rw [l1ModeDrift_ok manual answer] at answered ⊢
        have judged := judged.congr (q := { (p.setMode .enterManual .manual).2 with
          manualArmed := true }.note "L1: manual mode re-asserted") (some written)
          (by rw [← live]; rfl) rfl rfl
        exact (l1Target_windowed judged live answered).congr rfl
    | error e =>
        rw [l1ModeDrift_error manual answer] at answered
        exact refused_absurd (fun e mem => answered e (log_subset_l1Target _ _ _ _ mem))
          (setMode_log ..) (by rw [answer]; rfl)

/-- What L1 makes of the window: a stuck poll counts, any other empties it, and a full
one latches and is empty again. -/
structure Counts (p q : Frame σ) : Prop where
  steady : q.Steady
  window : q.window
    = (if p.stuck p.prevActual then (p.stallPolls + 1) % stallPollsMax else 0, p.tach)
  control : q.monitorOnly = true ↔
    p.monitorOnly = true ∨ p.stuck p.prevActual = true ∧ p.stallPolls + 1 = stallPollsMax

theorem l1Poll_counts (applied : Option Nat) (steady : p.Steady)
    (open' : p.stallPolls < stallPollsMax)
    (answered : ∀ e ∈ (p.l1Poll applied).1.log, e.answered) : p.Counts (p.l1Poll applied).1 := by
  cases answer : (Smc.readFan p.smc).1 with
  | error e =>
      rw [l1Poll_error answer] at answered
      have log : ((p.readFan .l1Poll).2.noteRecent s!"L1 fan read failed: {e}").log
          = p.log ++ [⟨.l1Poll, .readFan (.error e), p.toCustody⟩] := by
        rw [noteRecent_log, readFan_log, answer]
      exact refused_absurd answered log rfl
  | ok fan =>
      have tach : p.tach = some fan.rpm := by simp [tach, answer]
      cases armed : p.manualArmed with
      | false =>
          have free : p.stuck p.prevActual = false := by
            unfold stuck
            split <;> simp [armed]
          rw [l1Poll_free answer armed]
          exact ⟨steady, by rw [free, tach]; rfl, by simp [free, looked, readFan, called]⟩
      | true =>
          have control : p.monitorOnly = false := by
            cases latched : p.monitorOnly with
            | false => rfl
            | true => exact Bool.noConfusion (armed.symm.trans (steady.latched latched))
          have isSome := steady.live.symm.trans armed
          obtain ⟨written, live⟩ := Option.isSome_iff_exists.mp isSome
          have judged : (p.looked fan).Judged := ⟨armed, isSome, steady.idle, control, open'⟩
          have off : p.stuck p.prevActual = (decide (verifyToleranceRpm < absDiff fan.rpm written)
              && !tachMoved fan.rpm p.prevActual) := by
            simp [stuck, tach, live, armed]
          rw [l1Poll_owned answer armed steady.idle] at answered ⊢
          obtain ⟨steady, window, latches⟩ := l1Checks_windowed judged live answered
          refine ⟨steady, ?_, ?_⟩
          · rw [window, off, tach]
            rfl
          · rw [latches, off, control]
            simp [looked, readFan, called]

end Frame

namespace Supervisor

section Runs

variable {σ : Type} [Smc σ]

/-! ### Launching -/

theorem armL2_window (p : Frame σ) : p.armL2.window = p.window := by
  cases answer : (Smc.probeSafeRestore p.smc).1 with
  | ok restore =>
      rw [Frame.armL2_ok answer]
      rfl
  | error e =>
      simp only [Frame.armL2, Frame.probeSafeRestore, answer]
      split <;> rfl

theorem reconcile_window (inherited : Except SmcError FanMode) {p : Frame σ}
    (start : p.window = (0, none)) : (p.reconcileStaleState inherited).window = (0, none) := by
  have prev : p.prevActual = none := congrArg Prod.snd start
  unfold Frame.reconcileStaleState
  cases inherited with
  | error e =>
      simp only
      split
      · exact start
      · exact congrArg (Prod.mk 0) prev
  | ok mode =>
      cases mode with
      | auto => exact start
      | manual =>
          cases answer : (Smc.setMode .auto p.smc).1 with
          | ok m =>
              simp only [Frame.setMode, answer]
              exact start
          | error e =>
              simp only [Frame.setMode, answer]
              exact congrArg (Prod.mk 0) prev

theorem started_window (host : Host) {s : Supervisor σ}
    (start : (s.frame host).window = (0, none)) :
    (s.started host).window = (0, none) :=
  reconcile_window _ ((armL2_window (s.inherited host)).trans start)

theorem launched_window {s : Supervisor σ} {log : List Event} (launched : Launched s log) :
    s.stallPolls = 0 ∧ s.prevActual = none := by
  cases launched with
  | built built =>
      obtain ⟨-, rfl⟩ := new_eq_ok.mp built
      exact ⟨rfl, rfl⟩
  | started host built =>
      obtain ⟨-, rfl⟩ := new_eq_ok.mp built
      exact Prod.mk.inj (started_window host rfl)

/-! ### Runs -/

/-- After a run with these flags, the window counts its stuck sequence. -/
structure Counting (previous : Option Nat) (flags : List Bool) (s : Supervisor σ) : Prop where
  sound : s.Sound
  steady : s.Steady
  window : s.stallPolls = streak flags % stallPollsMax
  seen : s.prevActual = previous
  latched : s.monitorOnly = true → s.stallPolls = 0

theorem Launched.counting {s : Supervisor σ} {log : List Event} (launched : Launched s log) :
    s.Counting none [] where
  sound := launched.sound
  steady := by
    obtain ⟨free, idle, unwritten, -⟩ := launched.unowned
    exact ⟨idle, by rw [free, unwritten]; rfl, fun _ => free⟩
  window := (launched_window launched).1
  seen := (launched_window launched).2
  latched := fun _ => (launched_window launched).1

variable [SerdeJson] {host : Host} {s : Supervisor σ}

/-- The flags of a run, one a poll: whether its L1 is stuck, against the tach of the
poll before. -/
def stuckFlags : Option Nat → List Host → Supervisor σ → List Bool
  | _, [], _ => []
  | previous, host :: hosts, s =>
      (s.acted host).1.stuck previous :: stuckFlags (s.acted host).1.tach hosts (s.next host)

theorem commanded_window (answered : ∀ e ∈ (s.commanded host).log, e.answered) :
    (s.commanded host).window = (s.stallPolls, s.prevActual) := by
  cases fresh : s.freshCommand host with
  | none =>
      obtain ⟨ticks, errors, notes, eq⟩ := commanded_stale fresh
      rw [eq]
      rfl
  | some requested =>
      obtain ⟨raw, -, eq⟩ := commanded_fresh fresh
      rw [eq] at answered ⊢
      rw [Frame.applyMode_window requested answered]
      rfl

theorem sensed_window (host : Host) (s : Supervisor σ) :
    (s.sensed host).2.window = (s.retried host).window := by
  cases answer : (Smc.readSensors (s.retried host).smc).1 with
  | ok readings =>
      rw [sensed_ok answer]
      rfl
  | error e =>
      rw [sensed_error answer]
      rfl

/-- A steady daemon has nothing to retry after the command stage, and acts on a steady
custody. -/
theorem sensed_steady (sound : s.Sound) (steady : s.Steady)
    (answered : ∀ e ∈ s.calls host, e.answered) :
    s.retried host = s.commanded host ∧
      (s.sensed host).2.toCustody = (s.commanded host).toCustody ∧ (s.sensed host).2.Steady := by
  obtain ⟨commanded, -⟩ := (commanded_obeys host s).steady
    (fun e mem => answered e (commanded_log_subset host sound mem)) steady
  have retried : s.retried host = s.commanded host := Frame.autoRestoreRetry_idle commanded.idle
  have custody : (s.sensed host).2.toCustody = (s.commanded host).toCustody := by
    rw [sensed_toCustody, retried]
  exact ⟨retried, custody, custody ▸ commanded⟩

/-- Up to L1, a poll without failures carries its custody and its window along. -/
theorem acted_carries (sound : s.Sound) (steady : s.Steady)
    (answered : ∀ e ∈ s.calls host, e.answered) :
    (s.acted host).1.Steady ∧ (s.acted host).1.window = (s.stallPolls, s.prevActual) ∧
      ((s.acted host).1.monitorOnly = true → s.monitorOnly = true) := by
  have commandedAnswered : ∀ e ∈ (s.commanded host).log, e.answered := fun e mem =>
    answered e (commanded_log_subset host sound mem)
  obtain ⟨-, control⟩ := (commanded_obeys host s).steady commandedAnswered steady
  obtain ⟨retried, custody, sensed⟩ := sensed_steady sound steady answered
  obtain ⟨acted, window, kept⟩ := Frame.act_carries (s.decided host).1 sensed fun e mem =>
    answered e (acted_log_subset host sound mem)
  refine ⟨acted, ?_, fun latched => control ?_⟩
  · exact window.trans ((sensed_window host s).trans (retried ▸ commanded_window commandedAnswered))
  · rw [← custody, ← kept]
    exact latched

theorem next_window (host : Host) (s : Supervisor σ) :
    ((s.next host).stallPolls, (s.next host).prevActual) = (s.checked host).1.window := by
  obtain ⟨pings, polls, errors, eq⟩ := next_eq host s
  rw [eq]
  rfl

/-- One poll: the window goes on counting the stuck sequence, and the poll latches
exactly when it is stuck and the sequence reaches a multiple of the window. -/
theorem next_counting {previous : Option Nat} {flags : List Bool}
    (counting : s.Counting previous flags) (answered : ∀ e ∈ s.calls host, e.answered) :
    (s.next host).Counting (s.acted host).1.tach (flags ++ [(s.acted host).1.stuck previous]) ∧
      (s.monitorOnly = false ∧ (s.next host).monitorOnly = true ↔
        (s.acted host).1.stuck previous = true ∧ stallPollsMax ∣ streak flags + 1) := by
  obtain ⟨sound, steady, window, seen, latched⟩ := counting
  obtain ⟨acted, kept, control⟩ := acted_carries sound steady answered
  obtain ⟨polls, prev⟩ := Prod.mk.inj kept
  have open' : (s.acted host).1.stallPolls < stallPollsMax := by
    rw [polls, window]
    exact Nat.mod_lt _ Frame.stallPollsMax_pos
  obtain ⟨ended, counted, latches⟩ := Frame.l1Poll_counts (s.acted host).2 acted open'
    fun e mem => answered e (calls_eq host s ▸ mem)
  rw [prev, seen, polls] at counted latches
  obtain ⟨count, tach⟩ := Prod.mk.inj ((next_window host s).trans counted)
  have custody := next_toCustody host s
  have control' : (s.next host).monitorOnly = true ↔ (s.acted host).1.monitorOnly = true ∨
      (s.acted host).1.stuck previous = true ∧ s.stallPolls + 1 = stallPollsMax := by
    rw [custody]
    exact latches
  have full : s.stallPolls + 1 = stallPollsMax ↔ stallPollsMax ∣ streak flags + 1 := by
    rw [window, Frame.window_fills]
  refine ⟨⟨next_sound host sound, custody ▸ ended, ?_, tach, fun held => ?_⟩, ?_⟩
  · rw [count, streak_concat, window]
    split
    · exact Nat.mod_add_mod _ _ _
    · rfl
  · rw [count]
    rcases control'.mp held with held | ⟨stuck, filled⟩
    · simp [Frame.unstuck_of_latched acted held]
    · simp [stuck, filled]
  · rw [control', ← full]
    constructor
    · rintro ⟨unlatched, held | fires⟩
      · exact Bool.noConfusion (unlatched.symm.trans (control held))
      · exact fires
    · rintro ⟨stuck, filled⟩
      refine ⟨?_, .inr ⟨stuck, filled⟩⟩
      cases held : s.monitorOnly with
      | false => rfl
      | true =>
          rw [latched held] at filled
          cases filled

/-- The last poll of a run latches exactly when it is stuck and its place in the
unbroken stuck sequence is a multiple of the window. -/
theorem latches_iff {previous : Option Nat} {flags : List Bool}
    (counting : s.Counting previous flags) (hosts : List Host) (host : Host)
    (answered : ∀ e ∈ loop.trace (hosts ++ [host]) s, e.answered) :
    (loop.run hosts s).monitorOnly = false ∧ (loop.run (hosts ++ [host]) s).monitorOnly = true ↔
      0 < streak (flags ++ stuckFlags previous (hosts ++ [host]) s) ∧
        stallPollsMax ∣ streak (flags ++ stuckFlags previous (hosts ++ [host]) s) := by
  induction hosts generalizing s previous flags with
  | nil =>
      have latches := (next_counting counting fun e mem =>
        answered e (List.mem_append_left _ mem)).2
      show s.monitorOnly = false ∧ (s.next host).monitorOnly = true ↔
        0 < streak (flags ++ [(s.acted host).1.stuck previous]) ∧
          stallPollsMax ∣ streak (flags ++ [(s.acted host).1.stuck previous])
      rw [latches, streak_concat]
      cases (s.acted host).1.stuck previous <;> simp
  | cons first hosts ih =>
      have counted := (next_counting counting fun e mem =>
        answered e (List.mem_append_left _ mem)).1
      have rest := ih counted fun e mem => answered e (List.mem_append_right _ mem)
      rw [List.append_assoc] at rest
      exact rest

/-- Over any run whose calls are all answered: a poll latches exactly if its place in
the unbroken sequence of stuck polls it ends is a positive multiple of the window. -/
theorem stall_exact {log : List Event} (launched : Launched s log) (hosts : List Host)
    (host : Host) (answered : ∀ e ∈ loop.trace (hosts ++ [host]) s, e.answered) :
    (loop.run hosts s).monitorOnly = false ∧ (loop.run (hosts ++ [host]) s).monitorOnly = true ↔
      0 < streak (stuckFlags none (hosts ++ [host]) s) ∧
        stallPollsMax ∣ streak (stuckFlags none (hosts ++ [host]) s) :=
  latches_iff launched.counting hosts host answered

end Runs

section Frozen

attribute [local instance] Bench.json

/-- A bench daemon that holds 3000 rpm over a fan frozen at 2000. -/
def frozenDaemon : Supervisor Bench :=
  Bench.daemon { Bench.healthy with restFan := ⟨2000, .manual⟩ } (.hold 3000)

/-- The first nine polls: stuck, but not latched. -/
def frozenHosts : List Host := List.replicate 9 Bench.quiet

/-- Ten polls that latch, a Hold command right after them, and eight more. -/
def recommandedHosts : List Host :=
  frozenHosts ++ Bench.quiet :: Bench.commanding Bench.holdText :: List.replicate 8 Bench.quiet

theorem frozenDaemon_launched : ∃ log, Launched frozenDaemon log :=
  ⟨_, .started Bench.quiet (new_eq_ok.mpr ⟨Bench.config_valid, rfl⟩)⟩

theorem stall_exact_frozen :
    (loop.run frozenHosts frozenDaemon).monitorOnly = false ∧
        (loop.run (frozenHosts ++ [Bench.quiet]) frozenDaemon).monitorOnly = true ↔
      0 < streak (stuckFlags none (frozenHosts ++ [Bench.quiet]) frozenDaemon) ∧
        stallPollsMax ∣ streak (stuckFlags none (frozenHosts ++ [Bench.quiet]) frozenDaemon) := by
  obtain ⟨log, launched⟩ := frozenDaemon_launched
  exact stall_exact launched frozenHosts Bench.quiet (by decide)

/-- A poll that latches as the twentieth of one unbroken sequence of stuck polls. -/
theorem stall_exact_twentieth :
    (∃ log, Launched frozenDaemon log) ∧
      (∀ e ∈ loop.trace (recommandedHosts ++ [Bench.quiet]) frozenDaemon, e.answered) ∧
      (loop.run recommandedHosts frozenDaemon).monitorOnly = false ∧
      (loop.run (recommandedHosts ++ [Bench.quiet]) frozenDaemon).monitorOnly = true ∧
      streak (stuckFlags none (recommandedHosts ++ [Bench.quiet]) frozenDaemon)
        = 2 * stallPollsMax :=
  ⟨frozenDaemon_launched, by decide, by decide, by decide, by decide +kernel⟩

end Frozen

end Supervisor

end Afanctl
