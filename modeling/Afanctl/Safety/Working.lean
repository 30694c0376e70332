import Afanctl.Safety.Verdict
import Afanctl.Supervisor.Band
import Afanctl.Supervisor.Over
import Afanctl.Supervisor.Reach

/-!
A fan that works.

Such a fan takes every call, adopts the speed it is told in Manual, and its tach is near that
speed or on the move. The daemon never gives it up, whatever the temperatures and the commands:
every poll is verified, and the fan is held at what the reports decide.
-/

namespace Afanctl

open Afanctl.Lib

/-! ### The fan -/

/-- What is to be known of a fan. -/
structure Fan where
  mode : FanMode
  /-- the speed it has adopted, while in Manual -/
  target : Nat
  /-- what the tach last read -/
  seen : Nat

/-- The speed the fan is held at; the firmware has it otherwise. -/
def Fan.held (fan : Fan) : Option Nat := if fan.mode = .manual then some fan.target else none

theorem Fan.held_of_auto (fan : Fan) (auto : fan.mode = .auto) : fan.held = none :=
  if_neg (by rw [auto]; exact nofun)

/-- A tach reading of a fan that follows its speed: near it, or on the move. -/
def Fan.Follows (fan : Fan) (rpm : Nat) : Prop :=
  absDiff rpm fan.target ≤ verifyToleranceRpm ∨ stallTachEpsilonRpm < absDiff rpm fan.seen

/-- Backends that show a working fan: no call of theirs fails. -/
structure Actuator (σ : Type) [Smc σ] where
  lo : Nat
  hi : Nat
  band : lo ≤ hi
  shows : σ → Fan → Prop
  hwMin : ∀ {smc fan}, shows smc fan → Smc.hwMinRpm smc = lo
  hwMax : ∀ {smc fan}, shows smc fan → Smc.hwMaxRpm smc = hi
  readSensors : ∀ {smc fan}, shows smc fan →
    ∃ readings, (Smc.readSensors smc).1 = .ok readings ∧ shows (Smc.readSensors smc).2 fan
  readFan : ∀ {smc fan}, shows smc fan →
    ∃ rpm, (Smc.readFan smc).1 = .ok ⟨rpm, fan.mode⟩ ∧
      shows (Smc.readFan smc).2 { fan with seen := rpm } ∧ (fan.mode = .manual → fan.Follows rpm)
  writeSpeed : ∀ {smc fan} (rpm : Nat), shows smc fan → fan.mode = .manual →
    (Smc.writeSpeed rpm smc).1 = .ok (clamp lo hi rpm) ∧
      shows (Smc.writeSpeed rpm smc).2 { fan with target := clamp lo hi rpm }
  setMode : ∀ {smc fan} (mode : FanMode), shows smc fan →
    (Smc.setMode mode smc).1 = .ok mode ∧
      ∃ target, shows (Smc.setMode mode smc).2 { fan with mode := mode, target := target }
  /-- the probe may fail, but takes no fan from the firmware -/
  probe : ∀ {smc fan}, shows smc fan →
    ∃ fan', shows (Smc.probeSafeRestore smc).2 fan' ∧ (fan.mode = .auto → fan'.mode = .auto)

/-- What a decision leaves the fan held at. -/
def Decision.holds (lo hi ceiling : Nat) (held : Option Nat) : Decision → Option Nat
  | .observe => held
  | .returnToAuto => none
  | .setSpeed rpm => some (clamp lo hi rpm)
  | .escalateMax => some (clamp lo hi ceiling)

/-- What a poll leaves it held at, as its report tells. -/
def StepReport.holds (lo hi ceiling : Nat) (held : Option Nat) (r : StepReport) : Option Nat :=
  if r.mode = .observe then none else r.decision.holds lo hi ceiling held

namespace Actuator

variable {σ : Type} [Smc σ]

/-- The daemon has nothing against the fan, and owns it exactly in Manual. -/
structure Trusts (A : Actuator σ) (fan : Fan) (d : Daemon σ) : Prop where
  shows : A.shows d.smc fan
  hwMin : d.hwMin = A.lo
  hwMax : d.hwMax = A.hi
  trusted : d.monitorOnly = false
  settled : d.autoRestorePending = false
  owned : d.manualArmed = true ↔ fan.mode = .manual
  idle : d.mode = .observe → fan.mode = .auto
  previous : d.prevActual = none ∧ d.stallPolls = 0 ∨ d.prevActual = some fan.seen
  window : d.stallPolls ≤ 1

/-- It also knows the speed the fan is held at, which is one of the band. -/
structure Tends (A : Actuator σ) (fan : Fan) (d : Daemon σ) : Prop extends A.Trusts fan d where
  written : d.lastWritten = fan.held
  banded : ∀ rpm ∈ fan.held, clamp A.lo A.hi rpm = rpm

variable {A : Actuator σ} {fan : Fan} {p : Frame σ}

theorem clamp_clamp (A : Actuator σ) (rpm : Nat) :
    clamp A.lo A.hi (clamp A.lo A.hi rpm) = clamp A.lo A.hi rpm :=
  clamp_eq_self (clamp_mem A.band rpm).1 (clamp_mem A.band rpm).2

/-! ### The calls -/

theorem readFan_eq {rpm : Nat} {mode : FanMode} (site : Site)
    (answer : (Smc.readFan p.smc).1 = .ok ⟨rpm, mode⟩) :
    p.readFan site
      = (.ok ⟨rpm, mode⟩, p.called site (.readFan (.ok ⟨rpm, mode⟩)) (Smc.readFan p.smc).2) := by
  unfold Frame.readFan
  simp only [answer]

theorem setMode_eq {mode : FanMode} (site : Site) (shown : A.shows p.smc fan) :
    p.setMode site mode
      = (.ok mode, p.called site (.setMode mode (.ok mode)) (Smc.setMode mode p.smc).2) := by
  unfold Frame.setMode
  simp only [(A.setMode mode shown).1]

theorem writeSpeed_eq {rpm : Nat} (site : Site) (shown : A.shows p.smc fan)
    (manual : fan.mode = .manual) :
    p.writeSpeed site rpm = (.ok (clamp A.lo A.hi rpm),
      p.called site (.writeSpeed rpm (.ok (clamp A.lo A.hi rpm)))
        (Smc.writeSpeed rpm p.smc).2) := by
  unfold Frame.writeSpeed
  simp only [(A.writeSpeed rpm shown manual).1]

namespace Trusts

theorem auto_of_free (trusts : A.Trusts fan p.toDaemon) (free : p.manualArmed = false) :
    fan.mode = .auto := by
  cases mode : fan.mode with
  | auto => rfl
  | manual =>
      rw [trusts.owned.mpr mode] at free
      cases free

theorem held_of_free (trusts : A.Trusts fan p.toDaemon) (free : p.manualArmed = false) :
    fan.held = none :=
  fan.held_of_auto (trusts.auto_of_free free)

/-- A fan that is released. -/
theorem release (trusts : A.Trusts fan p.toDaemon) (site : Site) (op : Op) :
    ∃ fan' : Fan, fan'.mode = .auto ∧
      A.Tends fan' ({ p.called site op (Smc.setMode .auto p.smc).2 with
        manualArmed := false, lastWritten := none } : Frame σ).toDaemon := by
  obtain ⟨-, target, shown⟩ := A.setMode .auto trusts.shows
  refine ⟨{ fan with mode := .auto, target := target }, rfl, ?_⟩
  constructor
  · constructor
    · exact shown
    · exact trusts.hwMin
    · exact trusts.hwMax
    · exact trusts.trusted
    · exact trusts.settled
    · exact ⟨nofun, nofun⟩
    · exact fun _ => rfl
    · exact trusts.previous
    · exact trusts.window
  · rfl
  · nofun

/-- A fan that is taken over. Its speed is anyone's. -/
theorem takeOver (trusts : A.Trusts fan p.toDaemon) (control : p.mode ≠ .observe) (site : Site)
    (op : Op) :
    ∃ fan' : Fan, fan'.mode = .manual ∧
      A.Trusts fan' ({ p.called site op (Smc.setMode .manual p.smc).2 with
        manualArmed := true } : Frame σ).toDaemon := by
  obtain ⟨-, target, shown⟩ := A.setMode .manual trusts.shows
  refine ⟨{ fan with mode := .manual, target := target }, rfl, ?_⟩
  constructor
  · exact shown
  · exact trusts.hwMin
  · exact trusts.hwMax
  · exact trusts.trusted
  · exact trusts.settled
  · exact ⟨fun _ => rfl, fun _ => rfl⟩
  · exact fun observes => absurd observes control
  · exact trusts.previous
  · exact trusts.window

/-- A fan in Manual that takes a speed. -/
theorem drive (trusts : A.Trusts fan p.toDaemon) (manual : fan.mode = .manual) (rpm : Nat)
    (site : Site) (op : Op) :
    A.Tends { fan with target := clamp A.lo A.hi rpm }
      ({ p.called site op (Smc.writeSpeed rpm p.smc).2 with
        lastWritten := some (clamp A.lo A.hi rpm) } : Frame σ).toDaemon := by
  obtain ⟨-, shown⟩ := A.writeSpeed rpm trusts.shows manual
  have held : ({ fan with target := clamp A.lo A.hi rpm } : Fan).held
      = some (clamp A.lo A.hi rpm) := if_pos manual
  constructor
  · exact { trusts with shows := shown }
  · exact held.symm
  · intro rpm' mem
    rw [held] at mem
    cases mem
    exact A.clamp_clamp rpm

end Trusts

namespace Tends

/-! ### The command and the decision -/

/-- A fan that nothing was done to is as it was; observing, that is nobody's. -/
theorem undisturbed (tends : A.Tends fan p.toDaemon) :
    ∃ fan', A.Tends fan' p.toDaemon ∧
      fan'.held = if p.mode = .observe then none else fan.held := by
  refine ⟨fan, tends, ?_⟩
  split
  · next observes => exact fan.held_of_auto (tends.idle observes)
  · rfl

theorem leaveControl (tends : A.Tends fan p.toDaemon) :
    ∃ fan', A.Tends fan' p.leaveControl.toDaemon ∧ fan'.held = none := by
  unfold Frame.leaveControl
  cases armed : p.manualArmed with
  | true =>
      simp only [if_true, setMode_eq .applyMode tends.shows]
      obtain ⟨fan', auto, left⟩ := tends.release .applyMode (.setMode .auto (.ok .auto))
      exact ⟨fan', { left with settled := rfl, idle := fun _ => auto }, fan'.held_of_auto auto⟩
  | false =>
      simp only [Bool.false_eq_true, if_false]
      exact ⟨fan, { tends with idle := fun _ => tends.auto_of_free armed },
        tends.held_of_free armed⟩

/-- A request takes the fan from control exactly if it leaves the daemon observing. -/
theorem applyMode (tends : A.Tends fan p.toDaemon) (requested : RunMode) :
    ∃ fan', A.Tends fan' (p.applyMode requested).toDaemon ∧
      fan'.held = if (p.applyMode requested).mode = .observe then none else fan.held := by
  have trusted : p.monitorOnly = false := tends.trusted
  have armed : p.rearm requested = p := by simp [Frame.rearm, trusted]
  unfold Frame.applyMode
  rw [armed]
  split
  · exact undisturbed { tends with }
  · simp only
    split
    · exact undisturbed tends
    · split
      · obtain ⟨fan', left, released⟩ := tends.leaveControl
        exact ⟨fan', left, released.trans (if_pos rfl).symm⟩
      · next control =>
          exact ⟨fan, { tends with idle := fun observes => absurd observes control }, rfl⟩

theorem applyCmdFile [SerdeJson] (tends : A.Tends fan p.toDaemon) :
    ∃ fan', A.Tends fan' p.applyCmdFile.toDaemon ∧
      fan'.held = if p.applyCmdFile.mode = .observe then none else fan.held := by
  unfold Frame.applyCmdFile
  cases p.host.cmd with
  | absent => exact undisturbed tends
  | unreadable e => exact undisturbed { tends with }
  | content raw =>
      simp only
      split
      · exact undisturbed tends
      · cases parseCmd raw with
        | error ignored => exact undisturbed { tends with }
        | ok requested =>
            exact applyMode (p := { p with lastCmd := some raw }) { tends with } requested

end Tends

/-- The write of an owned fan; its last speed is not written again. -/
theorem Trusts.writeOwned (trusts : A.Trusts fan p.toDaemon) (manual : fan.mode = .manual)
    (known : p.lastWritten ≠ none → A.Tends fan p.toDaemon) (rpm : Nat) :
    ∃ fan', A.Tends fan' (p.writeOwned rpm).1.toDaemon ∧
      fan'.held = some (clamp A.lo A.hi rpm) ∧ (p.writeOwned rpm).1.mode = p.mode := by
  have low : p.hwMin = A.lo := trusts.hwMin
  have high : p.hwMax = A.hi := trusts.hwMax
  unfold Frame.writeOwned
  simp only
  rw [low, high]
  split
  · next same =>
      have tends := known (by rw [same]; exact nofun)
      exact ⟨fan, tends, tends.written.symm.trans same, rfl⟩
  · rw [writeSpeed_eq .writeControlled trusts.shows manual]
    have left := trusts.drive manual (clamp A.lo A.hi rpm) .writeControlled
      (.writeSpeed (clamp A.lo A.hi rpm) (.ok (clamp A.lo A.hi rpm)))
    rw [A.clamp_clamp] at left
    rw [A.clamp_clamp]
    exact ⟨_, left, if_pos manual, rfl⟩

namespace Tends

/-- A fan that is not owned is taken over first. -/
theorem writeControlled (tends : A.Tends fan p.toDaemon) (control : p.mode ≠ .observe)
    (rpm : Nat) :
    ∃ fan', A.Tends fan' (p.writeControlled rpm).1.toDaemon ∧
      fan'.held = some (clamp A.lo A.hi rpm) ∧ (p.writeControlled rpm).1.mode = p.mode := by
  unfold Frame.writeControlled
  cases armed : p.manualArmed with
  | true =>
      simp only [if_true]
      exact tends.writeOwned (tends.owned.mp armed) (fun _ => tends) rpm
  | false =>
      simp only [Bool.false_eq_true, if_false, Frame.enterManual,
        setMode_eq .enterManual tends.shows]
      obtain ⟨fan', manual, taken⟩ :=
        tends.takeOver control .enterManual (.setMode .manual (.ok .manual))
      have unwritten : p.lastWritten = none := tends.written.trans (tends.held_of_free armed)
      exact taken.writeOwned manual (fun written => absurd unwritten written) rpm

/-- Acting on a decision leaves the fan held at what was decided. -/
theorem act (tends : A.Tends fan p.toDaemon) {decision : Decision}
    (control : decision = .observe ∨ p.mode ≠ .observe) :
    ∃ fan', A.Tends fan' (p.act decision).1.toDaemon ∧
      fan'.held = decision.holds A.lo A.hi p.cfgMaxRpm fan.held ∧
      (p.act decision).1.mode = p.mode := by
  have trusted : p.monitorOnly = false := tends.trusted
  unfold Frame.act
  rw [trusted]
  cases decision with
  | observe => exact ⟨fan, tends, rfl, rfl⟩
  | returnToAuto =>
      cases armed : p.manualArmed with
      | true =>
          simp only [Bool.false_eq_true, if_false, if_true, setMode_eq .act tends.shows]
          obtain ⟨fan', auto, left⟩ := tends.release .act (.setMode .auto (.ok .auto))
          exact ⟨fan', { left with }, fan'.held_of_auto auto, rfl⟩
      | false =>
          exact ⟨fan, tends, tends.held_of_free armed, rfl⟩
  | setSpeed rpm =>
      exact tends.writeControlled (control.resolve_left nofun) rpm
  | escalateMax =>
      exact tends.writeControlled (control.resolve_left nofun) p.cfgMaxRpm

/-! ### L1 -/

/-- A re-assert writes the speed the fan is held at. -/
theorem l1Tracking (tends : A.Tends fan p.toDaemon) (manual : fan.mode = .manual) (dev : Nat)
    (applied : Option Nat) :
    ∃ q : Frame σ, p.l1Tracking dev fan.target applied false = (q, false) ∧
      A.Tends fan q.toDaemon ∧ q.mode = p.mode ∧ q.stallPolls = p.stallPolls ∧
      q.prevActual = p.prevActual := by
  have same : clamp A.lo A.hi fan.target = fan.target := tends.banded _ (if_pos manual)
  have noted (msg : String) : A.Tends fan (p.note msg).toDaemon := { tends with }
  unfold Frame.l1Tracking
  split
  · have left := (noted
      s!"L1: tracking {dev} rpm from written {fan.target}; re-asserting (not a failure)").drive
        manual fan.target .l1Poll (.writeSpeed fan.target (.ok fan.target))
    simp only
    rw [writeSpeed_eq .l1Poll (noted _).shows manual, same]
    rw [same] at left
    exact ⟨_, rfl, { left with }, rfl, rfl, rfl⟩
  · exact ⟨p, rfl, tends, rfl, rfl, rfl⟩

/-- A fan that follows its speed fills no stall window. -/
theorem l1Stall (tends : A.Tends fan p.toDaemon) {dev rpm : Nat} {previous : Option Nat}
    (read : p.prevActual = some fan.seen)
    (moves : verifyToleranceRpm < dev →
      previous = none ∧ p.stallPolls = 0 ∨ tachMoved rpm previous = true) :
    A.Tends fan (p.l1Stall dev rpm previous).1.toDaemon ∧
      (p.l1Stall dev rpm previous).2 = false ∧
      (p.l1Stall dev rpm previous).1.mode = p.mode := by
  have dwelt : A.Tends fan p.l1Dwell.toDaemon ∧ p.l1Dwell.stallPolls = p.stallPolls ∧
      p.l1Dwell.prevActual = p.prevActual ∧ p.l1Dwell.mode = p.mode := by
    unfold Frame.l1Dwell
    simp only
    split
    · exact ⟨{ tends with }, rfl, rfl, rfl⟩
    · exact ⟨{ tends with }, rfl, rfl, rfl⟩
  obtain ⟨dwells, polls, prev, mode⟩ := dwelt
  have seen : p.l1Dwell.prevActual = some fan.seen := prev.trans read
  unfold Frame.l1Stall
  split
  · next off =>
      simp only
      split
      · exact ⟨{ dwells with previous := .inr seen, window := Nat.zero_le 1 }, rfl, mode⟩
      · next still =>
          -- the first poll has nothing to compare its reading with
          obtain ⟨-, first⟩ := (moves off).resolve_right still
          rw [polls, first]
          have short : ¬ stallPollsMax ≤ min (0 + 1) u32Max := by decide
          rw [if_neg short]
          have one : min (0 + 1) u32Max ≤ 1 := by decide
          exact ⟨{ dwells with previous := .inr seen, window := one }, rfl, mode⟩
  · exact ⟨{ tends with previous := .inr read, window := Nat.zero_le 1 }, rfl, rfl⟩

theorem l1Verdict (tends : A.Tends fan p.toDaemon) :
    A.Tends fan (p.l1Verdict false).1.toDaemon ∧ (p.l1Verdict false).2 = true ∧
      (p.l1Verdict false).1.mode = p.mode := by
  unfold Frame.l1Verdict
  simp only [Bool.false_eq_true, if_false]
  split
  · exact ⟨{ tends with }, rfl, rfl⟩
  · exact ⟨tends, rfl, rfl⟩

/-- The checks of an owned fan, whose tach has just been read. -/
theorem l1Checks (tends : A.Tends fan p.toDaemon) (manual : fan.mode = .manual)
    (read : p.prevActual = some fan.seen) {previous : Option Nat}
    (moves : verifyToleranceRpm < absDiff fan.seen fan.target →
      previous = none ∧ p.stallPolls = 0 ∨ tachMoved fan.seen previous = true)
    (applied : Option Nat) :
    A.Tends fan (p.l1Checks ⟨fan.seen, fan.mode⟩ previous applied).1.toDaemon ∧
      (p.l1Checks ⟨fan.seen, fan.mode⟩ previous applied).2 = true ∧
      (p.l1Checks ⟨fan.seen, fan.mode⟩ previous applied).1.mode = p.mode := by
  have written : p.lastWritten = some fan.target := tends.written.trans (if_pos manual)
  obtain ⟨q, tracked, asserted, mode, polls, prev⟩ :=
    tends.l1Tracking manual (absDiff fan.seen fan.target) applied
  rw [← polls] at moves
  obtain ⟨watched, calm, mode'⟩ := asserted.l1Stall (prev.trans read) moves
  obtain ⟨passed, verdict, mode''⟩ := watched.l1Verdict
  have window : q.l1Window (absDiff fan.seen fan.target) fan.seen previous false
      = (q.l1Stall (absDiff fan.seen fan.target) fan.seen previous).1.l1Verdict false := by
    unfold Frame.l1Window
    generalize q.l1Stall (absDiff fan.seen fan.target) fan.seen previous = stalled at calm ⊢
    obtain ⟨left, fired⟩ := stalled
    cases calm
    rfl
  have checks : p.l1Checks ⟨fan.seen, fan.mode⟩ previous applied
      = q.l1Window (absDiff fan.seen fan.target) fan.seen previous false := by
    unfold Frame.l1Checks Frame.l1ModeDrift Frame.l1Target
    simp only [manual, if_true, written, tracked]
  rw [checks, window]
  exact ⟨passed, verdict, mode''.trans (mode'.trans mode)⟩

/-- L1 finds nothing wrong with the fan, and leaves it held as it is. -/
theorem l1Poll (tends : A.Tends fan p.toDaemon) (applied : Option Nat) :
    ∃ fan', A.Tends fan' (p.l1Poll applied).1.toDaemon ∧ fan'.held = fan.held ∧
      (p.l1Poll applied).2 = true ∧ (p.l1Poll applied).1.mode = p.mode := by
  obtain ⟨rpm, answer, shown, follows⟩ := A.readFan tends.shows
  have seen : A.Tends { fan with seen := rpm } ({ p.called .l1Poll (.readFan (.ok ⟨rpm, fan.mode⟩))
      (Smc.readFan p.smc).2 with
        lastActual := some rpm, prevActual := some rpm } : Frame σ).toDaemon :=
    { tends with shows := shown, previous := .inr rfl }
  have settled : p.autoRestorePending = false := tends.settled
  refine ⟨{ fan with seen := rpm }, ?_⟩
  unfold Frame.l1Poll
  rw [readFan_eq .l1Poll answer]
  simp only
  split
  · exact ⟨{ seen with previous := .inr rfl, window := Nat.zero_le 1 }, rfl, rfl, rfl⟩
  · next armed =>
      have manual : fan.mode = .manual := tends.owned.mp (eq_true_of_ne_false armed)
      split
      · next pending => exact absurd (settled.symm.trans pending) nofun
      · have moves : verifyToleranceRpm < absDiff rpm fan.target →
            p.prevActual = none ∧ p.stallPolls = 0 ∨ tachMoved rpm p.prevActual = true := by
          intro off
          rcases tends.previous with first | before
          · exact .inl first
          · refine .inr ?_
            rw [before]
            exact decide_eq_true ((follows manual).resolve_left (Nat.not_le.mpr off))
        obtain ⟨checked, passed, mode⟩ := seen.l1Checks manual rfl moves applied
        exact ⟨checked, rfl, passed, mode⟩

end Tends

end Actuator

/-! ### Polls -/

namespace Supervisor

variable {σ : Type} [Smc σ] [SerdeJson] {A : Actuator σ} {fan : Fan} {s : Supervisor σ}

theorem sensed_eq {host : Host} (settled : (s.commanded host).autoRestorePending = false)
    {readings : List SensorReading}
    (answer : (Smc.readSensors (s.commanded host).smc).1 = .ok readings) :
    s.sensed host = (readings, (s.commanded host).called .stepOnce (.readSensors (.ok readings))
      (Smc.readSensors (s.commanded host).smc).2) := by
  have retried : s.retried host = s.commanded host := by
    simp [Supervisor.retried, Frame.autoRestoreRetry, settled]
  unfold Supervisor.sensed Frame.readSensors
  rw [retried]
  simp only [answer]

theorem report_mode (host : Host) (s : Supervisor σ) :
    (s.stepOnce host).report.mode = (s.checked host).1.mode :=
  congrArg Custody.mode (Frame.publishState_toCustody _)

/-- The sensors are read of the fan that the command left. -/
theorem sensed_tends {host : Host} (told : A.Tends fan (s.commanded host).toDaemon) :
    A.Tends fan (s.sensed host).2.toDaemon ∧
      (s.sensed host).2.mode = (s.commanded host).mode := by
  obtain ⟨readings, answer, shown⟩ := A.readSensors told.shows
  rw [sensed_eq told.settled answer]
  exact ⟨{ told with shows := shown }, rfl⟩

/-- What the command left in good hands, the rest of the poll verifies, keeps in its mode and
leaves held at what it decided. -/
theorem tends_of_commanded {host : Host} (told : A.Tends fan (s.commanded host).toDaemon) :
    ∃ fan', A.Tends fan' (s.next host).toDaemon ∧
      fan'.held = (s.stepOnce host).report.holds A.lo A.hi s.cfgMaxRpm fan.held ∧
      (s.stepOnce host).report.verified = true ∧
      (s.next host).mode = (s.commanded host).mode := by
  obtain ⟨sensed, mode⟩ := sensed_tends told
  have control : (s.decided host).1 = .observe ∨ (s.sensed host).2.mode ≠ .observe := by
    by_cases observes : (s.sensed host).2.mode = .observe
    · exact .inl (controllerStep_observe (.inl observes))
    · exact .inr observes
  obtain ⟨fan', acted, decided, mode'⟩ := sensed.act control
  obtain ⟨fan'', checked, kept, passed, mode''⟩ := acted.l1Poll (s.acted host).2
  have ends : (s.checked host).1.mode = (s.commanded host).mode := mode''.trans (mode'.trans mode)
  have ceiling : (s.sensed host).2.cfgMaxRpm = s.cfgMaxRpm :=
    congrArg Band.cfgMaxRpm (sensed_band host s)
  refine ⟨fan'', ?_, ?_, ?_, ?_⟩
  · obtain ⟨pings, polls, errors, eq⟩ := next_eq host s
    rw [eq]
    exact { checked with }
  · rw [kept, decided, ceiling, StepReport.holds, report_mode, ends]
    by_cases observes : (s.commanded host).mode = .observe
    · rw [if_pos observes, fan.held_of_auto (told.idle observes),
        control.resolve_right fun driving => driving (mode.trans observes)]
      rfl
    · rw [if_neg observes]
      rfl
  · have trusted : (s.checked host).1.monitorOnly = false := checked.trusted
    have verdict : (s.checked host).2 = true := passed
    rw [(report_verified host s).1, trusted, verdict]
    rfl
  · exact (congrArg Custody.mode (next_toCustody host s)).trans ends

/-- The command stage of a tended fan: it leaves control exactly if the daemon then observes. -/
theorem commanded_tends (tends : A.Tends fan s.toDaemon) (host : Host) :
    ∃ told, A.Tends told (s.commanded host).toDaemon ∧
      told.held = if (s.commanded host).mode = .observe then none else fan.held :=
  Actuator.Tends.applyCmdFile (p := (s.frame host).pingWatchdog) { tends with }

/-- A poll of a working fan is verified, keeps the mode the command left, and leaves the fan held
at what it decided. -/
theorem next_tends (tends : A.Tends fan s.toDaemon) (host : Host) :
    ∃ fan', A.Tends fan' (s.next host).toDaemon ∧
      fan'.held = (s.stepOnce host).report.holds A.lo A.hi s.cfgMaxRpm fan.held ∧
      (s.stepOnce host).report.verified = true ∧
      (s.next host).mode = (s.commanded host).mode := by
  obtain ⟨told, commanded, taken⟩ := commanded_tends tends host
  obtain ⟨fan', tended, held, verified, mode⟩ := tends_of_commanded commanded
  refine ⟨fan', tended, ?_, verified, mode⟩
  have reported : (s.stepOnce host).report.mode = (s.commanded host).mode :=
    (report_mode host s).trans ((congrArg Custody.mode (next_toCustody host s)).symm.trans mode)
  rw [held, StepReport.holds, StepReport.holds, reported, taken]
  split
  · rfl
  · rfl

/-- The fan over a run: every poll is verified, and the reports say what the fan is held at. -/
theorem run_tends (tends : A.Tends fan s.toDaemon) (hosts : List Host) :
    ∃ fan', A.Tends fan' (loop.run hosts s).toDaemon ∧
      fan'.held = ((reports.trace hosts s).map Prod.fst).foldl
        (StepReport.holds A.lo A.hi s.cfgMaxRpm) fan.held ∧
      ∀ r ∈ (reports.trace hosts s).map Prod.fst, r.verified = true := by
  induction hosts generalizing s fan with
  | nil => exact ⟨fan, tends, rfl, nofun⟩
  | cons host hosts ih =>
      obtain ⟨fan', tended, held, verified, -⟩ := next_tends tends host
      obtain ⟨fan'', ends, kept, told⟩ := ih tended
      have ceiling : (s.next host).cfgMaxRpm = s.cfgMaxRpm :=
        congrArg Band.cfgMaxRpm (next_band host s)
      refine ⟨fan'', ends, ?_, ?_⟩
      · rw [kept, held, ceiling]
        rfl
      · intro r mem
        rcases List.mem_cons.mp mem with rfl | mem
        · exact verified
        · exact told r mem

end Supervisor

/-! ### Startup -/

namespace Actuator

variable {σ : Type} [Smc σ]

/-- Nothing was done yet: the fan is as it was found. -/
structure Finds (A : Actuator σ) (fan : Fan) (d : Daemon σ) : Prop where
  shows : A.shows d.smc fan
  hwMin : d.hwMin = A.lo
  hwMax : d.hwMax = A.hi
  trusted : d.monitorOnly = false
  settled : d.autoRestorePending = false
  free : d.manualArmed = false
  unwritten : d.lastWritten = none
  unread : d.prevActual = none ∧ d.stallPolls = 0

namespace Finds

variable {A : Actuator σ} {fan : Fan} {d : Daemon σ} {p : Frame σ}

/-- A fan that is found in Auto is tended. -/
theorem tends (finds : A.Finds fan d) (auto : fan.mode = .auto) : A.Tends fan d := by
  have held : fan.held = none := fan.held_of_auto auto
  constructor
  · constructor
    · exact finds.shows
    · exact finds.hwMin
    · exact finds.hwMax
    · exact finds.trusted
    · exact finds.settled
    · rw [finds.free, auto]
      exact ⟨nofun, nofun⟩
    · exact fun _ => auto
    · exact .inl finds.unread
    · rw [finds.unread.2]
      exact Nat.zero_le 1
  · rw [finds.unwritten, held]
  · rw [held]
    nofun

theorem armL2 (finds : A.Finds fan p.toDaemon) :
    ∃ fan', A.Finds fan' p.armL2.toDaemon ∧ (fan.mode = .auto → fan'.mode = .auto) := by
  obtain ⟨fan', shown, auto⟩ := A.probe finds.shows
  refine ⟨fan', ?_, auto⟩
  cases answer : (Smc.probeSafeRestore p.smc).1 with
  | ok restore =>
      rw [Frame.armL2_ok answer]
      exact { finds with shows := shown }
  | error e =>
      simp only [Frame.armL2, Frame.probeSafeRestore, answer]
      split
      · exact { finds with shows := shown }
      · exact { finds with shows := shown }

theorem reconcile (finds : A.Finds fan p.toDaemon) {mode : FanMode}
    (auto : mode = .auto → fan.mode = .auto) :
    ∃ fan', A.Finds fan' (p.reconcileStaleState (.ok mode)).toDaemon ∧ fan'.mode = .auto := by
  cases mode with
  | auto => exact ⟨fan, finds, auto rfl⟩
  | manual =>
      obtain ⟨-, target, shown⟩ := A.setMode .auto finds.shows
      refine ⟨{ fan with mode := .auto, target := target }, ?_, rfl⟩
      unfold Frame.reconcileStaleState
      simp only
      rw [setMode_eq .reconcile finds.shows]
      exact { finds with shows := shown, free := rfl, unwritten := rfl }

end Finds

end Actuator

namespace Supervisor

variable {σ : Type} [Smc σ] {A : Actuator σ} {fan : Fan}

/-- Startup leaves a working fan to the firmware. -/
theorem start_tends {smc : σ} (shown : A.shows smc fan) (cfg : ResolvedConfig) (start : RunMode)
    (paths : RuntimePaths) (boot : Host) :
    ∃ fan', A.Tends fan' ((wired smc cfg start paths).start boot).toDaemon ∧ fan'.held = none := by
  obtain ⟨rpm, answer, looked, -⟩ := A.readFan shown
  have finds : A.Finds { fan with seen := rpm }
      ((wired smc cfg start paths).inherited boot).toDaemon :=
    ⟨looked, A.hwMin shown, A.hwMax shown, rfl, rfl, rfl, rfl, rfl, rfl⟩
  obtain ⟨fan', armed, auto⟩ := finds.armL2
  obtain ⟨fan'', found, released⟩ := armed.reconcile auto
  have started : (wired smc cfg start paths).started boot
      = ((wired smc cfg start paths).inherited boot).armL2.reconcileStaleState (.ok fan.mode) := by
    show ((wired smc cfg start paths).inherited boot).armL2.reconcileStaleState
      ((Smc.readFan smc).1.map (·.mode)) = _
    rw [answer]
    rfl
  refine ⟨fan'', ?_, fan''.held_of_auto released⟩
  unfold Supervisor.start
  rw [started]
  exact found.tends released

/-- The daemon over a working fan never gives it up: whatever the temperatures, the commands and
the host do, every poll is verified, control stays on, and the fan is held at what the reports
decided, which is at nothing before the first. -/
theorem working_fan_kept [SerdeJson] {smc : σ} (shown : A.shows smc fan) (cfg : ResolvedConfig)
    (start : RunMode) (paths : RuntimePaths) (boot : Host) (hosts : List Host) :
    let s := (wired smc cfg start paths).start boot
    let told := (reports.trace hosts s).map Prod.fst
    let ends := loop.run hosts s
    ends.monitorOnly = false ∧ ends.autoRestorePending = false ∧
      (∀ r ∈ told, r.verified = true) ∧
      ∃ fan', A.shows ends.smc fan' ∧
        fan'.held = told.foldl (StepReport.holds A.lo A.hi cfg.config.maxRpm) none := by
  intro s told ends
  obtain ⟨found, tends, released⟩ := start_tends shown cfg start paths boot
  obtain ⟨fan', tended, held, verified⟩ := run_tends tends hosts
  have ceiling : s.cfgMaxRpm = cfg.config.maxRpm :=
    congrArg Band.cfgMaxRpm (start_band boot (wired smc cfg start paths))
  rw [released] at held
  exact ⟨tended.trusted, tended.settled, verified, fan', tended.shows, ceiling ▸ held⟩

end Supervisor

end Afanctl
