import Afanctl.Safety.Latch
import Afanctl.Supervisor.Fallback

/-!
The verdict a poll reports.

`verified` is the verdict of L1 as long as control is on. L1 judges its own calls: the fan
read, the takeover of a fan it owns, the re-assert. What acting failed to write is none of
them, and reaches the verdict only through the fallback. `Event.loud` are the calls that do,
and a poll with a failed call reports unverified exactly if one of its calls is loud.
-/

namespace Afanctl

open Afanctl.Lib

namespace Event

/-- A failed call of `act` or `l1_poll`, their helpers included: a write, a mode change, or
L1's fan read. -/
def fails (e : Event) : Bool :=
  match e.site, e.op with
  | .l1Poll, .readFan (.error _) => true
  | .l1Poll, .writeSpeed _ (.error _) => true
  | .writeControlled, .writeSpeed _ (.error _) => true
  | .enterManual, .setMode _ (.error _) => true
  | .act, .setMode _ (.error _) => true
  | .degradeToAuto, .setMode _ (.error _) => true
  | _, _ => false

/-- A call that L1 judges and that failed, or the fallback's. A takeover is L1's if the fan
is owned already. -/
def loud (e : Event) : Bool :=
  match e.site, e.op with
  | .l1Poll, .readFan (.error _) => true
  | .l1Poll, .writeSpeed _ (.error _) => true
  | .enterManual, .setMode _ (.error _) => e.custody.manualArmed
  | .degradeToAuto, _ => true
  | _, _ => false

/-- The weight that marks the loud calls. -/
def loudness (e : Event) : Nat := e.loud.toNat

end Event

theorem loudness_act : ActWeight Event.loudness 0 0 where
  release := fun _ _ => Nat.le_refl 0
  enter := fun answer c free => by cases answer <;> simp [Event.loudness, Event.loud, free]
  write := fun _ _ _ => Nat.le_refl 0

namespace Frame

variable {σ : Type} {p q r : Frame σ} {result : Frame σ × Bool}

/-! ### Loud calls -/

/-- No call between two frames is loud. -/
def Hushed (p q : Frame σ) : Prop := Emits (fun e => ¬ e.loud) p q

/-- Some call between two frames is. -/
def Loud (p q : Frame σ) : Prop := ∃ es, q.log = p.log ++ es ∧ ∃ e ∈ es, e.loud

theorem Loud.of_event {e : Event} (log : q.log = p.log ++ [e]) (loud : e.loud) : Loud p q :=
  ⟨[e], log, e, List.mem_singleton_self e, loud⟩

theorem Loud.after {P : Event → Prop} (first : Emits P p q) (second : Loud q r) : Loud p r := by
  obtain ⟨es, log, -⟩ := first
  obtain ⟨es', log', e, mem, loud⟩ := second
  exact ⟨es ++ es', by rw [log', log, List.append_assoc], e, List.mem_append_right es mem, loud⟩

theorem Loud.before {P : Event → Prop} (first : Loud p q) (second : Emits P q r) : Loud p r := by
  obtain ⟨es, log, e, mem, loud⟩ := first
  obtain ⟨es', log', -⟩ := second
  exact ⟨es ++ es', by rw [log', log, List.append_assoc], e, List.mem_append_left es' mem, loud⟩

/-- The fallback is loud. -/
theorem Falls.loud {w : Event → Nat} {n : Nat} (falls : Falls w n p q) : Loud p q := by
  obtain ⟨-, es, c, answer, log, -⟩ := falls
  exact ⟨_, log, _, List.mem_append_right es (List.mem_singleton_self _), rfl⟩

theorem Hushed.of_spends (spends : Spends Event.loudness 0 p q) : Hushed p q := by
  obtain ⟨es, log, light⟩ := spends
  exact ⟨es, log, weight_marks.mp light⟩

/-! ### L1 judges its own calls -/

/-- The verdict and the calls agree: no call is loud and the frame passes with control on,
or one is and it does not. -/
def Judges (p : Frame σ) (result : Frame σ × Bool) : Prop :=
  result.1.monitorOnly = false ∧ result.2 = true ∧ Hushed p result.1 ∨
    (result.1.monitorOnly = true ∨ result.2 = false) ∧ Loud p result.1

theorem Judges.after (first : Hushed p q) (second : Judges q result) : Judges p result := by
  rcases second with ⟨control, passes, hushed⟩ | ⟨fails, loud⟩
  · exact .inl ⟨control, passes, first.trans hushed⟩
  · exact .inr ⟨fails, .after first loud⟩

/-- Judged calls that are all there are tell the verdict. -/
theorem Judges.verdict (judges : Judges p result) (fresh : p.log = []) :
    (!result.1.monitorOnly && result.2) = false ↔ ∃ e ∈ result.1.log, e.loud := by
  rcases judges with ⟨control, passes, es, log, hushed⟩ | ⟨fails, es, log, e, mem, loud⟩
  · rw [fresh, List.nil_append] at log
    rw [log, control, passes]
    constructor
    · intro off
      cases off
    · rintro ⟨e, mem, loud⟩
      exact absurd loud (hushed e mem)
  · rw [fresh, List.nil_append] at log
    rw [log]
    refine ⟨fun _ => ⟨e, mem, loud⟩, fun _ => ?_⟩
    rcases fails with latched | lost
    · simp [latched]
    · simp [lost]

variable [Smc σ]

theorem judges_l1Window (dev rpm : Nat) (previous : Option Nat) (control : p.monitorOnly = false) :
    Judges p (p.l1Window dev rpm previous false) := by
  by_cases fires : p.StallFires dev rpm previous
  · obtain ⟨q, eq, -, log, -⟩ := l1Stall_fires fires
    simp only [l1Window, eq]
    exact .inr ⟨.inr rfl, (falls_degradeToAuto (w := Event.loudness) (n := 0) log).loud⟩
  · obtain ⟨q, eq, custody, log, -⟩ := l1Stall_quiet fires
    have control : q.monitorOnly = false := by rw [custody]; exact control
    refine .inl ?_
    simp only [l1Window, eq, l1Verdict, Bool.false_eq_true, ↓reduceIte]
    split <;> exact ⟨control, rfl, .of_log log⟩

/-- A verdict that is lost stays lost. -/
theorem l1Window_lost (dev rpm : Nat) (previous : Option Nat) (p : Frame σ) :
    (p.l1Window dev rpm previous true).2 = false := by
  simp only [l1Window]
  split <;> rfl

theorem l1Target_lost (fan : FanState) (previous applied : Option Nat) (p : Frame σ) :
    (p.l1Target fan previous applied true).2 = false := by
  cases live : p.lastWritten with
  | none => simp [l1Target, live, l1Verdict]
  | some written =>
      rw [l1Target_live live, l1Tracking_failed]
      exact l1Window_lost ..

theorem judges_l1Target (fan : FanState) (previous applied : Option Nat)
    (control : p.monitorOnly = false) : Judges p (p.l1Target fan previous applied false) := by
  cases live : p.lastWritten with
  | none =>
      simp only [l1Target, live, l1Verdict, Option.isSome_none, Bool.false_eq_true, ↓reduceIte]
      exact .inl ⟨control, rfl, .of_log rfl⟩
  | some written =>
      rw [l1Target_live live]
      by_cases off : p.Reasserts (absDiff fan.rpm written) applied
      · have asked := reasserted_log (absDiff fan.rpm written) written p
        cases answer : (Smc.writeSpeed written p.smc).1 with
        | ok verified =>
            rw [l1Tracking_ok off answer]
            rw [answer] at asked
            have hushed : Hushed p (p.reasserted (absDiff fan.rpm written) written) :=
              .of_event asked Bool.false_ne_true
            exact .after hushed (judges_l1Window _ _ _ control)
        | error e =>
            rw [l1Tracking_error off answer]
            rw [answer] at asked
            have loud : Loud p (p.reasserted (absDiff fan.rpm written) written) :=
              .of_event asked rfl
            refine .inr ⟨.inr (l1Window_lost ..), ?_⟩
            have struck := failWrite_asks (Q := fun _ _ => True) s!"L1 re-assert {written}: {e}"
              (p.reasserted (absDiff fan.rpm written) written)
            exact loud.before (struck.trans (l1Window_asks ..))
      · rw [l1Tracking_skip off]
        exact judges_l1Window _ _ _ control

/-- A drifted fan is owned, so the takeover is L1's own. -/
theorem judges_l1Checks (fan : FanState) (previous applied : Option Nat)
    (control : p.monitorOnly = false) (armed : p.manualArmed = true) :
    Judges p (p.l1Checks fan previous applied) := by
  by_cases manual : fan.mode = .manual
  · simp only [l1Checks, l1ModeDrift_manual manual]
    exact judges_l1Target fan previous applied control
  · have asked := setMode_log .enterManual p .manual
    cases answer : (Smc.setMode .manual p.smc).1 with
    | ok mode =>
        simp only [l1Checks, l1ModeDrift_ok manual answer]
        rw [answer] at asked
        have hushed : Hushed p ({ (p.setMode .enterManual .manual).2 with
          manualArmed := true }.note "L1: manual mode re-asserted") :=
          .of_event asked Bool.false_ne_true
        exact .after hushed (judges_l1Target _ _ _ control)
    | error e =>
        simp only [l1Checks, l1ModeDrift_error manual answer]
        rw [answer] at asked
        have loud : Loud p (p.setMode .enterManual .manual).2 := .of_event asked armed
        refine .inr ⟨.inr (l1Target_lost ..), ?_⟩
        have struck := failWrite_asks (Q := fun _ _ => True) s!"set Manual write error: {e}"
          (p.setMode .enterManual .manual).2
        exact loud.before (struck.trans (l1Target_asks ..))

/-- L1 of a poll with control on judges. -/
theorem judges_l1Poll (applied : Option Nat) (control : p.monitorOnly = false) :
    Judges p (p.l1Poll applied) := by
  have looked := readFan_log .l1Poll p
  cases answer : (Smc.readFan p.smc).1 with
  | error e =>
      rw [l1Poll_error answer]
      rw [answer] at looked
      have loud : Loud p ((p.readFan .l1Poll).2.noteRecent s!"L1 fan read failed: {e}") :=
        .of_event looked rfl
      exact .inr ⟨.inr rfl, loud.before (failWrite_asks (Q := fun _ _ => True) _ _)⟩
  | ok fan =>
      rw [answer] at looked
      have hushed : Hushed p (p.looked fan) := .of_event looked nofun
      cases armed : p.manualArmed with
      | false =>
          rw [l1Poll_free answer armed]
          exact .inl ⟨control, rfl, hushed⟩
      | true =>
          cases pending : p.autoRestorePending with
          | true =>
              rw [l1Poll_releasing answer armed pending]
              exact .inl ⟨control, rfl, hushed⟩
          | false =>
              rw [l1Poll_owned answer armed pending]
              exact .after hushed (judges_l1Checks fan p.prevActual applied control armed)

/-- A latched daemon only reads the fan, and a failed read is loud. -/
theorem l1Poll_latched (applied : Option Nat) (latched : p.monitorOnly = true)
    (releasing : p.manualArmed = true → p.autoRestorePending = true) :
    (p.l1Poll applied).1.monitorOnly = true ∧
      Emits (fun e => e.fails → e.loud) p (p.l1Poll applied).1 := by
  have looked := readFan_log .l1Poll p
  cases answer : (Smc.readFan p.smc).1 with
  | error e =>
      rw [l1Poll_error answer]
      rw [answer] at looked
      have read : Emits (fun e => e.fails → e.loud) p
          ((p.readFan .l1Poll).2.noteRecent s!"L1 fan read failed: {e}") :=
        .of_event looked fun _ => rfl
      refine ⟨?_, read.trans ⟨_, failWrite_log _ _, fun e mem _ => ?_⟩⟩
      · rw [failWrite_toCustody]
        exact Custody.struck_latched _ latched
      · unfold Custody.struckLog at mem
        split at mem
        · rw [List.mem_singleton.mp mem]
          rfl
        · cases mem
  | ok fan =>
      have quiet : Emits (fun e => e.fails → e.loud) p (p.looked fan) := by
        rw [answer] at looked
        exact .of_event looked nofun
      cases armed : p.manualArmed with
      | false =>
          rw [l1Poll_free answer armed]
          exact ⟨latched, quiet⟩
      | true =>
          rw [l1Poll_releasing answer armed (releasing armed)]
          exact ⟨latched, quiet⟩

end Frame

namespace Supervisor

section Polls

variable {σ : Type} [Smc σ] [SerdeJson] {s : Supervisor σ}

/-- Up to the sensor read, a poll in a control mode neither fails nor is loud. -/
theorem sensed_hushed (host : Host) (sound : s.Sound) (mode : (s.next host).mode ≠ .observe) :
    Frame.Emits (fun e => ¬ e.fails ∧ ¬ e.loud) (s.frame host) (s.sensed host).2 := by
  rw [← commanded_mode host sound] at mode
  have commanded : (s.commanded host).log = [] := (commanded_obeys host s).silent mode
  obtain ⟨es, retried, calls⟩ := (s.commanded host).autoRestoreRetry_emits
  refine .trans (q := s.retried host) ⟨es, by rw [Supervisor.retried, retried, commanded]; rfl, ?_⟩
    (.of_event (sensed_log host s) ⟨Bool.false_ne_true, Bool.false_ne_true⟩)
  intro e mem
  have site := (calls e mem).1
  unfold Event.fails Event.loud
  rw [site]
  exact ⟨Bool.false_ne_true, Bool.false_ne_true⟩

/-- A poll reports what L1 found, and latched it reports unverified. -/
theorem report_verified (host : Host) (s : Supervisor σ) :
    (s.stepOnce host).report.verified = (!(s.checked host).1.monitorOnly && (s.checked host).2) ∧
      (s.stepOnce host).state.verified = (s.stepOnce host).report.verified :=
  ⟨rfl, rfl⟩

/-- In every reachable state and every poll in a control mode with a failed call: the report
and the published state are unverified exactly if one of its calls is loud. -/
theorem failed_unverified_iff {history : List Event} (reachable : Reachable s history)
    (host : Host) (mode : (s.stepOnce host).report.mode ≠ .observe)
    (failed : ∃ e ∈ s.calls host, e.fails) :
    (s.stepOnce host).report.verified = false ∧ (s.stepOnce host).state.verified = false ↔
      ∃ e ∈ s.calls host, e.loud := by
  have mode : (s.next host).mode ≠ .observe := mode
  have sound := reach_sound reachable
  obtain ⟨verdict, published⟩ := report_verified host s
  rw [published, and_self, verdict]
  have quiet := sensed_hushed host sound mode
  have hushed : Frame.Hushed (s.frame host) (s.sensed host).2 := quiet.mono fun _ => And.right
  have releasing := @acted_releasing σ _ _ host s sound
  rw [calls_eq]
  cases control : (s.sensed host).2.monitorOnly with
  | false =>
      refine Frame.Judges.verdict (p := s.frame host) ?_ rfl
      rcases Frame.proceeds_act (s.decided host).1 loudness_act control with on | falls
      · exact .after (hushed.trans (Frame.Hushed.of_spends on.2))
          (Frame.judges_l1Poll (s.acted host).2 on.1)
      · obtain ⟨latched, emits⟩ := Frame.l1Poll_latched (s.acted host).2 falls.1.latched
          (releasing falls.1.latched)
        exact .inr ⟨.inl latched, .before (.after hushed falls.loud) emits⟩
  | true =>
      have idle : s.acted host = ((s.sensed host).2, none) := Frame.act_latched _ control
      rw [idle] at releasing
      obtain ⟨latched, emits⟩ := Frame.l1Poll_latched none control (releasing control)
      have whole : (s.sensed host).2.l1Poll none = s.checked host := by rw [checked, idle]
      rw [whole] at latched emits
      refine ⟨fun _ => ?_, fun _ => by simp [latched]⟩
      obtain ⟨es, log, reads⟩ :=
        (quiet.mono fun e silent fails => absurd fails silent.1).trans emits
      have all : (s.checked host).1.log = es := log
      obtain ⟨e, mem, fails⟩ := failed
      rw [calls_eq, all] at mem
      exact ⟨e, all ▸ mem, reads e mem fails⟩

end Polls

section Refused

attribute [local instance] Bench.json

/-- A bench daemon that holds 5000 rpm and cannot read the fan in its first poll. -/
def sightlessDaemon : Supervisor Bench :=
  Bench.daemon { Bench.healthy with fan := [.ok ⟨2000, .auto⟩, .error Bench.unread] } (.hold 5000)

theorem failed_unverified_iff_unread :
    (sightlessDaemon.stepOnce Bench.quiet).report.verified = false ∧
      (sightlessDaemon.stepOnce Bench.quiet).state.verified = false :=
  (failed_unverified_iff (Bench.daemon_reachable _ ⟨rfl, rfl⟩ (.hold 5000) []) Bench.quiet
    (by decide) (by decide)).mpr (by decide)

/-- A bench daemon that is to hold 5000 rpm and is refused its first takeover. -/
def deniedDaemon : Supervisor Bench :=
  Bench.daemon { Bench.healthy with mode := [some Bench.refused] } (.hold 5000)

/-- A refused takeover short of the last strike is reported verified. -/
theorem refused_reported_verified :
    (∃ history, Reachable deniedDaemon history) ∧
      (deniedDaemon.stepOnce Bench.quiet).report.mode = .hold 5000 ∧
      (∃ e ∈ deniedDaemon.calls Bench.quiet, e.fails) ∧
      (deniedDaemon.stepOnce Bench.quiet).report.verified = true ∧
      (deniedDaemon.stepOnce Bench.quiet).state.verified = true :=
  ⟨⟨_, Bench.daemon_reachable _ ⟨rfl, rfl⟩ (.hold 5000) []⟩, by decide, by decide, by decide,
    by decide⟩

end Refused

end Supervisor

end Afanctl
