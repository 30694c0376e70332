import Afanctl.Safety.Stall
import Afanctl.Safety.Verified

/-!
What stands written at the end of a poll whose calls all succeed.

On a backend that verifies what it is asked for, a speed decision leaves the fan driven
at the clamped target, whatever the fan was driven at before: a takeover precedes the
write where one is needed, L1 re-asserts the same value, and only a stall drops it.
-/

namespace Afanctl

open Afanctl.Lib

/-- The call was answered with `Ok`, and a speed of the band was verified as asked. -/
def Event.exact (b : Band) (e : Event) : Bool :=
  e.answered && match e.op with
    | .writeSpeed rpm (.ok v) => decide (b.hwMin ≤ rpm → rpm ≤ b.hwMax → v = rpm)
    | _ => true

namespace Event

variable {b : Band}

theorem answered_of_exact {e : Event} (exact : e.exact b) : e.answered := by
  unfold Event.exact at exact
  exact (Bool.and_eq_true_iff.mp exact).1

theorem exact_writeSpeed {site : Site} {rpm v : Nat} {c : Custody}
    (exact : (Event.mk site (.writeSpeed rpm (.ok v)) c).exact b) (low : b.hwMin ≤ rpm)
    (high : rpm ≤ b.hwMax) : v = rpm := by
  unfold Event.exact at exact
  exact of_decide_eq_true (Bool.and_eq_true_iff.mp exact).2 low high

end Event

/-- The fan is driven, and `rpm` stands written. -/
structure Custody.DrivenAt (rpm : Nat) (c : Custody) : Prop where
  armed : c.manualArmed = true
  written : c.lastWritten = some rpm
  idle : c.autoRestorePending = false
  control : c.monitorOnly = false

namespace Frame

variable {σ : Type}

/-- L1 keeps the fan driven at `rpm`, unless the stall fallback fired. -/
structure Ends (fired : Prop) (rpm : Nat) (q : Frame σ) : Prop where
  driven : ¬ fired → q.DrivenAt rpm
  dropped : fired → q.monitorOnly = true ∧ q.lastWritten = none

variable [Smc σ] {b : Band} {p : Frame σ} {rpm : Nat}

/-- L1 will find the fan stuck for the poll that fills the window. -/
def StallsOut (p : Frame σ) : Prop :=
  p.stuck p.prevActual = true ∧ stallPollsMax ≤ p.stallPolls + 1

instance (p : Frame σ) : Decidable p.StallsOut := inferInstanceAs (Decidable (_ ∧ _))

/-! ### Acting -/

theorem writeOwned_driven (room : b.hwMin ≤ b.hwMax) (band : p.band = b)
    (armed : p.manualArmed = true) (idle : p.autoRestorePending = false)
    (control : p.monitorOnly = false) (exact : ∀ e ∈ (p.writeOwned rpm).1.log, e.exact b) :
    (p.writeOwned rpm).1.DrivenAt (clamp b.hwMin b.hwMax rpm) := by
  subst band
  by_cases same : p.lastWritten = some (clamp p.hwMin p.hwMax rpm)
  · rw [writeOwned_same same]
    exact ⟨armed, same, idle, control⟩
  · cases answer : (Smc.writeSpeed (clamp p.hwMin p.hwMax rpm) p.smc).1 with
    | ok verified =>
        rw [writeOwned_ok same answer] at exact ⊢
        have asked := exact ⟨.writeControlled, .writeSpeed (clamp p.hwMin p.hwMax rpm)
          (.ok verified), p.toCustody⟩ (by simp [writeSpeed, called, answer])
        have inside := clamp_mem room rpm
        have verbatim := Event.exact_writeSpeed asked inside.1 inside.2
        exact ⟨armed, congrArg some verbatim, idle, control⟩
    | error e =>
        have answered : ∀ e ∈ (p.writeOwned rpm).1.log, e.answered := fun e mem =>
          Event.answered_of_exact (exact e mem)
        rw [writeOwned_error same answer] at answered
        exact refused_absurd answered (writeSpeed_log ..) (by rw [answer]; rfl)

theorem writeControlled_driven (room : b.hwMin ≤ b.hwMax) (band : p.band = b)
    (idle : p.autoRestorePending = false) (control : p.monitorOnly = false)
    (exact : ∀ e ∈ (p.writeControlled rpm).1.log, e.exact b) :
    (p.writeControlled rpm).1.DrivenAt (clamp b.hwMin b.hwMax rpm) := by
  cases armed : p.manualArmed with
  | true =>
      rw [writeControlled_armed rpm armed] at exact ⊢
      exact writeOwned_driven room band armed idle control exact
  | false =>
      cases answer : (Smc.setMode .manual p.smc).1 with
      | ok mode =>
          rw [writeControlled_taken armed answer] at exact ⊢
          exact writeOwned_driven (p := { (p.setMode .enterManual .manual).2 with
            manualArmed := true }) room band rfl idle control exact
      | error e =>
          have answered : ∀ e ∈ (p.writeControlled rpm).1.log, e.answered := fun e mem =>
            Event.answered_of_exact (exact e mem)
          rw [writeControlled_refused armed answer] at answered
          exact refused_absurd answered (setMode_log ..) (by rw [answer]; rfl)

/-! ### L1 -/

theorem l1Window_ends (dev tach : Nat) (previous : Option Nat) (driven : p.DrivenAt rpm) :
    (p.l1Window dev tach previous false).1.Ends (p.StallFires dev tach previous) rpm := by
  by_cases fires : p.StallFires dev tach previous
  · obtain ⟨q, eq, -⟩ := l1Stall_fires fires
    refine ⟨fun quiet => absurd fires quiet, fun _ => ?_⟩
    simp only [l1Window, eq, degradeToAuto_toCustody]
    cases (Smc.setMode .auto q.smc).1 <;> exact ⟨rfl, rfl⟩
  · obtain ⟨q, eq, custody, -⟩ := l1Stall_quiet fires
    obtain ⟨armed, written, idle, control⟩ := driven
    rw [← custody] at armed written idle control
    refine ⟨fun _ => ?_, fun fired => absurd fired fires⟩
    simp only [l1Window, eq, l1Verdict, written, Option.isSome_some, Bool.false_eq_true,
      ↓reduceIte]
    exact ⟨armed, rfl, idle, control⟩

/-- The re-assert of a value of the band leaves the value written. -/
theorem l1Tracking_driven {dev : Nat} {applied : Option Nat} (low : b.hwMin ≤ rpm)
    (high : rpm ≤ b.hwMax) (driven : p.DrivenAt rpm)
    (exact : ∀ e ∈ (p.l1Tracking dev rpm applied false).1.log, e.exact b) :
    ∃ q, p.l1Tracking dev rpm applied false = (q, false) ∧ q.DrivenAt rpm ∧
      q.window = p.window := by
  by_cases off : p.Reasserts dev applied
  · have log : ∀ answer, (Smc.writeSpeed rpm p.smc).1 = answer → (p.reasserted dev rpm).log
        = p.log ++ [⟨.l1Poll, .writeSpeed rpm answer, p.toCustody⟩] := by
      rintro answer rfl
      rfl
    cases answer : (Smc.writeSpeed rpm p.smc).1 with
    | ok verified =>
        rw [l1Tracking_ok off answer] at exact
        have asked := exact ⟨.l1Poll, .writeSpeed rpm (.ok verified), p.toCustody⟩
          (by simp [log _ answer])
        have verbatim := Event.exact_writeSpeed asked low high
        exact ⟨_, l1Tracking_ok off answer,
          ⟨driven.armed, congrArg some verbatim, driven.idle, driven.control⟩, rfl⟩
    | error e =>
        have answered : ∀ e ∈ (p.l1Tracking dev rpm applied false).1.log, e.answered :=
          fun e mem => Event.answered_of_exact (exact e mem)
        rw [l1Tracking_error off answer] at answered
        exact refused_absurd answered (log _ answer) rfl
  · exact ⟨p, l1Tracking_skip off, driven, rfl⟩

theorem l1Target_ends {fan : FanState} {previous applied : Option Nat} (low : b.hwMin ≤ rpm)
    (high : rpm ≤ b.hwMax) (driven : p.DrivenAt rpm)
    (exact : ∀ e ∈ (p.l1Target fan previous applied false).1.log, e.exact b) :
    (p.l1Target fan previous applied false).1.Ends
      (p.StallFires (absDiff fan.rpm rpm) fan.rpm previous) rpm := by
  rw [l1Target_live driven.written] at exact ⊢
  obtain ⟨q, eq, tracked, same⟩ := l1Tracking_driven low high driven fun e mem =>
    exact e (log_subset_l1Window _ _ _ _ mem)
  have kept : q.stallPolls = p.stallPolls := congrArg Prod.fst same
  have ends := l1Window_ends (absDiff fan.rpm rpm) fan.rpm previous tracked
  rw [eq]
  unfold StallFires at ends ⊢
  rw [← kept]
  exact ends

/-- L1 keeps an owned fan at what stands written, or the stall fallback fires. -/
theorem l1Poll_ends (applied : Option Nat) (low : b.hwMin ≤ rpm) (high : rpm ≤ b.hwMax)
    (driven : p.DrivenAt rpm) (exact : ∀ e ∈ (p.l1Poll applied).1.log, e.exact b) :
    (p.l1Poll applied).1.Ends p.StallsOut rpm := by
  have answered : ∀ e ∈ (p.l1Poll applied).1.log, e.answered := fun e mem =>
    Event.answered_of_exact (exact e mem)
  cases answer : (Smc.readFan p.smc).1 with
  | error e =>
      rw [l1Poll_error answer] at answered
      have log : ((p.readFan .l1Poll).2.noteRecent s!"L1 fan read failed: {e}").log
          = p.log ++ [⟨.l1Poll, .readFan (.error e), p.toCustody⟩] := by
        rw [noteRecent_log, readFan_log, answer]
      exact refused_absurd answered log rfl
  | ok fan =>
      have fires : p.StallsOut ↔
          p.StallFires (absDiff fan.rpm rpm) fan.rpm p.prevActual := by
        rw [stallFires_iff_full]
        simp [StallsOut, stuck, tach, answer, driven.written, driven.armed]
      have looked : (p.looked fan).DrivenAt rpm :=
        ⟨driven.armed, driven.written, driven.idle, driven.control⟩
      rw [l1Poll_owned answer driven.armed driven.idle] at exact answered ⊢
      unfold l1Checks at exact answered ⊢
      rw [fires]
      by_cases manual : fan.mode = .manual
      · rw [l1ModeDrift_manual manual] at exact ⊢
        exact l1Target_ends low high looked exact
      · cases entered : (Smc.setMode .manual (p.looked fan).smc).1 with
        | ok mode =>
            rw [l1ModeDrift_ok manual entered] at exact ⊢
            exact l1Target_ends low high (p := { ((p.looked fan).setMode .enterManual .manual).2
              with manualArmed := true }.note "L1: manual mode re-asserted")
              ⟨rfl, driven.written, driven.idle, driven.control⟩ exact
        | error e =>
            rw [l1ModeDrift_error manual entered] at answered
            exact refused_absurd (fun e mem => answered e (log_subset_l1Target _ _ _ _ mem))
              (setMode_log ..) (by rw [entered]; rfl)

end Frame

namespace Supervisor

/-! ### A poll -/

variable {σ : Type} [Smc σ] [SerdeJson] {host : Host} {s : Supervisor σ}

/-- Where every call was answered, a pending release has succeeded. -/
theorem retried_idle (answered : ∀ e ∈ (s.retried host).log, e.answered) :
    (s.retried host).autoRestorePending = false := by
  unfold retried at answered ⊢
  rcases (s.commanded host).autoRestoreRetry_cases with ⟨idle, same⟩ | ⟨-, rpm, -, released, -⟩ |
    ⟨-, -, log, ⟨mode, -, released⟩ | ⟨e, answer, -⟩⟩
  · rw [same]
    exact idle
  · rw [released]
    rfl
  · rw [released]
    rfl
  · have refused := answered _ (log ▸ List.mem_concat_self)
    rw [answer] at refused
    cases refused

/-- Only a driving daemon decides anything but `observe`. -/
theorem decided_driving (decides : (s.decided host).1 ≠ .observe) : (s.sensed host).2.Driving := by
  have awake : ¬ ((s.sensed host).2.mode = .observe ∨ (s.sensed host).2.monitorOnly = true) :=
    fun off => decides (controllerStep_observe off)
  refine ⟨fun observe => awake (.inl observe), ?_⟩
  cases latched : (s.sensed host).2.monitorOnly with
  | false => rfl
  | true => exact absurd (.inr latched) awake

/-- A poll that commands a speed leaves it written and the fan driven, up to L1. -/
theorem acted_driven {rpm : Nat} (sound : s.Sound) (room : s.band.hwMin ≤ s.band.hwMax)
    (commands : (s.decided host).1.speed s.cfgMaxRpm = some rpm)
    (exact : ∀ e ∈ s.calls host, e.exact s.band) :
    (s.acted host).1.DrivenAt (clamp s.hwMin s.hwMax rpm) := by
  have control : (s.sensed host).2.monitorOnly = false := by
    refine (decided_driving fun observes => ?_).2
    rw [observes] at commands
    cases commands
  have writes : s.acted host = (s.sensed host).2.writeControlled rpm := by
    refine Frame.act_speed control ?_
    have top : (s.sensed host).2.cfgMaxRpm = s.cfgMaxRpm :=
      congrArg Band.cfgMaxRpm (sensed_band host s)
    rw [top]
    exact commands
  have retried := (moves_retried host s).sound (sound.obeys (commanded_obeys host s))
  have idle : (s.sensed host).2.autoRestorePending = false := by
    rw [sensed_toCustody]
    exact retried_idle fun e mem =>
      Event.answered_of_exact (exact e (retried_log_subset host s retried mem))
  have log : ∀ e ∈ ((s.sensed host).2.writeControlled rpm).1.log, e.exact s.band := fun e mem =>
    exact e (acted_log_subset host sound (writes ▸ mem))
  rw [writes]
  exact Frame.writeControlled_driven room (sensed_band host s) idle control log

/-- And past L1, unless it finds the fan stalled. -/
theorem next_ends {rpm : Nat} (room : s.band.hwMin ≤ s.band.hwMax)
    (driven : (s.acted host).1.DrivenAt (clamp s.hwMin s.hwMax rpm))
    (exact : ∀ e ∈ s.calls host, e.exact s.band) :
    (s.checked host).1.Ends (s.acted host).1.StallsOut (clamp s.hwMin s.hwMax rpm) := by
  have inside := clamp_mem room rpm
  exact Frame.l1Poll_ends (b := s.band) (s.acted host).2 inside.1 inside.2 driven fun e mem =>
    exact e (calls_eq host s ▸ mem)

end Supervisor

end Afanctl
