import Afanctl.Bench
import Afanctl.Policy.Swing
import Afanctl.Safety.Commanded
import Afanctl.Safety.Supersede

/-!
Bounded speed transitions of Curve polls.

The limiter moves from the controller's slew base, while holds, releases and latches move
the fan. The two agree at the first Curve poll of a daemon that starts there, and every
Curve poll keeps them together; so the written speeds of a curve session are bounded if
the base agrees with the fan when the command that begins it is applied.
-/

namespace Afanctl

open Afanctl.Lib

namespace Controller

/-- No call changes the configured band. -/
theorem step_band (call : Call) (c : Controller) :
    (c.step call).2.minRpm = c.minRpm ∧ (c.step call).2.maxRpm = c.maxRpm := by
  obtain ⟨slewRpm, ramping, eq⟩ := step_counted call c
  rw [eq]
  unfold counted
  cases hottest call.readings <;> exact ⟨rfl, rfl⟩

end Controller

namespace Custody

variable {c c' : Custody} {es : List Event}

/-- A curve session: Curve mode, and not latched. -/
def InCurve (c : Custody) : Prop := c.mode = .curve ∧ c.monitorOnly = false

instance (c : Custody) : Decidable c.InCurve := inferInstanceAs (Decidable (_ ∧ _))

theorem InCurve.call (session : c.InCurve) (readings : List SensorReading) :
    c.call readings = .curve readings := by
  simp [Custody.call, session.1, session.2]

/-- A command stage that ends in a curve session has only accepted the command for it, if
anything. -/
theorem Obeys.session {command : Option RunMode} (obeys : Obeys command c es c')
    (session : c'.InCurve) :
    c'.lastWritten = c.lastWritten ∧ (c' = c ∨ command = some .curve ∧ c.l2Absent = false) := by
  cases obeys with
  | ignored | refused | already => exact ⟨rfl, .inl rfl⟩
  | @accepted _ requested control proven =>
      obtain ⟨mode, live⟩ := accepting_kept requested c
      exact ⟨live, .inr ⟨congrArg some (mode.symm.trans session.1), proven⟩⟩
  | left | released | releaseFailed => cases session.1

end Custody

namespace Supervisor

section Runs

variable {σ : Type} [Smc σ]

/-- The slew base, as a write clamps it, is what the fan is commanded to; with nothing
written it is the clamped floor. -/
def Based (s : Supervisor σ) : Prop :=
  clamp s.hwMin s.hwMax s.controller.slewRpm
    = s.lastWritten.getD (clamp s.hwMin s.hwMax s.controller.minRpm)

instance (s : Supervisor σ) : Decidable s.Based := inferInstanceAs (Decidable (_ = _))

variable [SerdeJson] {host : Host} {s : Supervisor σ}

/-- A Curve command is applied only with the base in agreement with the fan, and no Curve
poll overflows. -/
def Clean (host : Host) (s : Supervisor σ) : Prop :=
  (s.freshCommand host = some .curve → s.Applies host → s.Based) ∧
    ((s.sensed host).2.InCurve → s.controller.Roomy (s.sensed host).1)

instance (host : Host) (s : Supervisor σ) : Decidable (s.Clean host) :=
  inferInstanceAs (Decidable (_ ∧ _))

/-- Each speed write of a Curve poll that decides on a speed is at most one slew step away
from the value that stands written, and at most one above the clamped floor if none does. -/
def Bounded (host : Host) (s : Supervisor σ) : Prop :=
  (s.sensed host).2.mode = .curve → ∀ target, (s.decided host).1 = .setSpeed target →
    ∀ e ∈ s.calls host, ∀ r answer, e.op = .writeSpeed r answer →
      (∀ w, e.custody.lastWritten = some w → absDiff r w ≤ slewMaxRpmPerPoll) ∧
      (e.custody.lastWritten = none →
        r ≤ clamp s.hwMin s.hwMax s.controller.minRpm + slewMaxRpmPerPoll)

/-- What holds between the polls of a clean run: in a curve session the base agrees with
the fan. -/
structure Paced (s : Supervisor σ) : Prop where
  counting : ∃ previous flags, s.Counting previous flags
  based : s.InCurve → s.Based
  top : s.controller.maxRpm = s.cfgMaxRpm
  room : s.band.hwMin ≤ s.band.hwMax

omit [SerdeJson] in
theorem Launched.paced {log : List Event} (launched : Launched s log) : s.Paced := by
  have counting := launched.counting
  have room := launched.accounted.room
  have based : s.controller.slewRpm = s.controller.minRpm ∧
      s.controller.maxRpm = s.cfgMaxRpm := by
    cases launched with
    | built built =>
        obtain ⟨-, rfl⟩ := new_eq_ok.mp built
        exact ⟨rfl, rfl⟩
    | @started smc cfg start paths s host built =>
        obtain ⟨-, rfl⟩ := new_eq_ok.mp built
        exact ⟨rfl, (congrArg Band.cfgMaxRpm
          (start_band host (.wired smc cfg start paths))).symm⟩
  refine ⟨⟨_, _, counting⟩, fun _ => ?_, based.2, room⟩
  have unowned := counting.steady.live
  unfold Based
  rw [based.1, launched.unowned.unwritten]
  rfl

theorem next_controller (host : Host) (s : Supervisor σ) :
    (s.next host).controller = (s.decided host).2 := by
  obtain ⟨pings, polls, errors, eq⟩ := next_eq host s
  rw [eq]

theorem decided_eq (host : Host) (s : Supervisor σ) :
    s.decided host = s.controller.step ((s.sensed host).2.call (s.sensed host).1) :=
  controllerStep_eq _ _ _

/-- In a curve session, the poll steps the curve. -/
theorem decided_curve (session : (s.sensed host).2.InCurve) :
    s.decided host = s.controller.stepCurve (s.sensed host).1 := by
  rw [decided_eq, session.call]
  rfl

/-- The poll that acts in a curve session finds the base in agreement with the fan. -/
theorem Paced.sensed (paced : s.Paced) (clean : s.Clean host)
    (answered : ∀ e ∈ s.calls host, e.answered) (session : (s.sensed host).2.InCurve) :
    s.Based ∧ (s.sensed host).2.lastWritten = s.lastWritten := by
  obtain ⟨previous, flags, counting⟩ := paced.counting
  obtain ⟨-, custody, -⟩ := sensed_steady counting.sound counting.steady answered
  rw [custody] at session ⊢
  obtain ⟨live, same | ⟨curve, proven⟩⟩ := (commanded_obeys host s).session session
  · rw [same] at session
    exact ⟨paced.based session, live⟩
  · refine ⟨?_, live⟩
    by_cases applied : s.Applies host
    · exact clean.1 curve applied
    · have control : s.monitorOnly = false := by
        cases latched : s.monitorOnly with
        | false => rfl
        | true =>
            have accepted : s.Accepts host := ⟨.curve, curve, nofun, proven⟩
            exact absurd accepted (unaccepted_of_latched latched applied)
      have mode : s.mode = .curve := by
        apply Decidable.byContradiction
        intro other
        have allowed : ¬ (s.l2Absent = true ∧ RunMode.curve ≠ .observe) := by simp [proven]
        exact applied ⟨.curve, curve, allowed, .inl (Ne.symm other)⟩
      exact paced.based ⟨mode, control⟩

/-- So its speed writes are bounded. -/
theorem Paced.bounded (paced : s.Paced) (clean : s.Clean host)
    (answered : ∀ e ∈ s.calls host, e.answered) : s.Bounded host := by
  intro mode target decides e mem r answer op
  have driving := decided_driving (by rw [decides]; nofun)
  have session : (s.sensed host).2.InCurve := ⟨mode, driving.2⟩
  obtain ⟨based, live⟩ := paced.sensed clean answered session
  have near : absDiff target s.controller.slewRpm ≤ slewMaxRpmPerPoll := by
    rw [decided_curve session] at decides
    exact Controller.stepCurve_near (clean.2 session) decides
  have clamped := absDiff_clamp paced.room near
  have asks := calls_ask (Q := fun r c => r = clamp s.hwMin s.hwMax target ∧
    c.lastWritten = s.lastWritten) host (fun rpm speed => by
      rw [decides] at speed
      cases speed
      exact ⟨rfl, live⟩) e mem r answer op
  unfold Based at based
  rcases asks with again | ⟨rfl, before⟩
  · rw [again]
    refine ⟨fun w same => ?_, nofun⟩
    cases same
    rw [absDiff_self]
    exact Nat.zero_le _
  · rw [before]
    refine ⟨fun w written => ?_, fun unwritten => ?_⟩
    · rw [written] at based
      cases based
      exact clamped
    · rw [unwritten] at based
      rw [Option.getD_none] at based
      rw [← based]
      exact (absDiff_le_iff.mp clamped).1

/-! ### A poll keeps the pace -/

/-- A poll that ends in a curve session acted in it. -/
theorem sensed_session (sound : s.Sound) (session : (s.next host).InCurve) :
    (s.sensed host).2.InCurve := by
  have retried := (moves_retried host s).sound (sound.obeys (commanded_obeys host s))
  obtain ⟨q, moves, ends⟩ := moves_sensed_checked host s retried
  have session : q.InCurve := by
    rw [next_toCustody] at session
    rcases ends with ⟨custody, -⟩ | ⟨custody, -⟩
    · exact custody ▸ session
    · rw [custody] at session
      exact session
  obtain ⟨mode, control⟩ := session
  refine ⟨moves.mode_eq.1.symm.trans mode, ?_⟩
  cases latched : (s.sensed host).2.monitorOnly with
  | false => rfl
  | true =>
      obtain ⟨es, -, steps⟩ := moves
      have kept : q.monitorOnly = true :=
        steps.invariant (I := fun c => c.monitorOnly = true) Custody.Move.latched latched
      exact Bool.noConfusion (control.symm.trans kept)

/-- In a poll that ends in a curve session, L1 leaves what it found written. -/
theorem written_of_driven {rpm : Nat} (room : s.band.hwMin ≤ s.band.hwMax)
    (driven : (s.acted host).1.DrivenAt (clamp s.hwMin s.hwMax rpm))
    (exact : ∀ e ∈ s.calls host, e.exact s.band) (session : (s.next host).InCurve) :
    (s.next host).lastWritten = some (clamp s.hwMin s.hwMax rpm) := by
  have ends := next_ends room driven exact
  rw [next_toCustody] at session ⊢
  refine (ends.driven fun stalls => ?_).written
  exact Bool.noConfusion (session.2.symm.trans (ends.dropped stalls).1)

/-- And it leaves a free fan free. -/
theorem written_of_free (answered : ∀ e ∈ s.calls host, e.answered)
    (free : (s.acted host).1.manualArmed = false)
    (unwritten : (s.acted host).1.lastWritten = none) :
    (s.next host).lastWritten = none := by
  rw [calls_eq] at answered
  rw [next_toCustody]
  unfold checked at answered ⊢
  cases answer : (Smc.readFan (s.acted host).1.smc).1 with
  | ok fan =>
      rw [Frame.l1Poll_free answer free]
      exact unwritten
  | error e =>
      rw [Frame.l1Poll_error answer] at answered
      have log : (((s.acted host).1.readFan .l1Poll).2.noteRecent s!"L1 fan read failed: {e}").log
          = (s.acted host).1.log
            ++ [⟨.l1Poll, .readFan (.error e), (s.acted host).1.toCustody⟩] := by
        rw [Frame.noteRecent_log, Frame.readFan_log, answer]
      exact Frame.refused_absurd answered log rfl

/-- A release leaves the fan free. -/
theorem acted_released (sound : s.Sound) (steady : (s.sensed host).2.Steady)
    (session : (s.sensed host).2.InCurve) (answered : ∀ e ∈ s.calls host, e.answered)
    (releases : (s.decided host).1 = .returnToAuto) :
    (s.acted host).1.manualArmed = false ∧ (s.acted host).1.lastWritten = none := by
  have answered : ∀ e ∈ (s.acted host).1.log, e.answered := fun e mem =>
    answered e (acted_log_subset host sound mem)
  unfold acted at answered ⊢
  rw [releases] at answered ⊢
  cases armed : (s.sensed host).2.manualArmed with
  | false =>
      rw [Frame.act_returnToAuto_free armed]
      have live := steady.live
      rw [armed] at live
      exact ⟨armed, Option.not_isSome_iff_eq_none.mp (by rw [← live]; nofun)⟩
  | true =>
      cases answer : (Smc.setMode .auto (s.sensed host).2.smc).1 with
      | ok mode =>
          rw [Frame.act_returnToAuto_ok session.2 armed answer]
          exact ⟨rfl, rfl⟩
      | error e =>
          rw [Frame.act_returnToAuto_error session.2 armed answer] at answered
          exact Frame.refused_absurd answered (Frame.setMode_log ..) (by rw [answer]; rfl)

/-- A poll that observes leaves written what was in agreement with the base. -/
theorem written_observed {base floor : Nat} (room : s.band.hwMin ≤ s.band.hwMax)
    (steady : (s.sensed host).2.Steady) (sensed : (s.sensed host).2.InCurve)
    (observes : (s.decided host).1 = .observe) (exact : ∀ e ∈ s.calls host, e.exact s.band)
    (session : (s.next host).InCurve)
    (based : clamp s.hwMin s.hwMax base = (s.sensed host).2.lastWritten.getD floor) :
    clamp s.hwMin s.hwMax base = (s.next host).lastWritten.getD floor := by
  have same : (s.acted host).1 = (s.sensed host).2 :=
    congrArg Prod.fst (acted_of_observe observes)
  have owned := steady.live
  cases written : (s.sensed host).2.lastWritten with
  | none =>
      have answered : ∀ e ∈ s.calls host, e.answered := fun e mem =>
        Event.answered_of_exact (exact e mem)
      rw [written] at owned based
      rw [written_of_free answered (same ▸ owned) (same ▸ written)]
      exact based
  | some w =>
      rw [written] at owned based
      have driven : (s.acted host).1.DrivenAt (clamp s.hwMin s.hwMax base) := by
        rw [same, based]
        exact ⟨owned, written, steady.idle, sensed.2⟩
      rw [written_of_driven room driven exact session]
      rfl

/-- A Curve poll leaves written where its decision leaves the base. -/
theorem Paced.written (paced : s.Paced) (clean : s.Clean host)
    (exact : ∀ e ∈ s.calls host, e.exact s.band) (session : (s.next host).InCurve) :
    clamp s.hwMin s.hwMax ((s.decided host).1.base s.controller)
      = (s.next host).lastWritten.getD (clamp s.hwMin s.hwMax s.controller.minRpm) := by
  have answered : ∀ e ∈ s.calls host, e.answered := fun e mem =>
    Event.answered_of_exact (exact e mem)
  obtain ⟨previous, flags, counting⟩ := paced.counting
  have sensed := sensed_session counting.sound session
  obtain ⟨-, -, steady⟩ := sensed_steady counting.sound counting.steady answered
  obtain ⟨based, live⟩ := paced.sensed clean answered sensed
  cases decides : (s.decided host).1 with
  | setSpeed rpm =>
      have commands : (s.decided host).1.speed s.cfgMaxRpm = some rpm := by
        rw [decides]
        rfl
      have driven := acted_driven counting.sound paced.room commands exact
      rw [written_of_driven paced.room driven exact session]
      rfl
  | escalateMax =>
      have commands : (s.decided host).1.speed s.cfgMaxRpm = some s.cfgMaxRpm := by
        rw [decides]
        rfl
      have driven := acted_driven counting.sound paced.room commands exact
      rw [written_of_driven paced.room driven exact session, ← paced.top]
      rfl
  | returnToAuto =>
      obtain ⟨free, unwritten⟩ := acted_released counting.sound steady sensed answered decides
      rw [written_of_free answered free unwritten]
      rfl
  | observe =>
      refine written_observed paced.room steady sensed decides exact session ?_
      rw [live]
      exact based

/-- So a clean poll keeps the pace. -/
theorem Paced.next (paced : s.Paced) (clean : s.Clean host)
    (exact : ∀ e ∈ s.calls host, e.exact s.band) : (s.next host).Paced := by
  have answered : ∀ e ∈ s.calls host, e.answered := fun e mem =>
    Event.answered_of_exact (exact e mem)
  obtain ⟨previous, flags, counting⟩ := paced.counting
  have band := next_band host s
  obtain ⟨floor, ceiling⟩ := s.controller.step_band
    ((s.sensed host).2.call (s.sensed host).1)
  rw [← decided_eq, ← next_controller] at floor ceiling
  refine ⟨⟨_, _, (next_counting counting answered).1⟩, fun session => ?_, ?_, ?_⟩
  · have written := paced.written clean exact session
    have base : (s.next host).controller.slewRpm = (s.decided host).1.base s.controller := by
      rw [next_controller, decided_curve (sensed_session counting.sound session)]
      exact Controller.stepCurve_base _ _
    have hwMin : (s.next host).hwMin = s.hwMin := congrArg Band.hwMin band
    have hwMax : (s.next host).hwMax = s.hwMax := congrArg Band.hwMax band
    unfold Based
    rw [hwMin, hwMax, base, floor]
    exact written
  · rw [ceiling, paced.top]
    exact (congrArg Band.cfgMaxRpm band).symm
  · rw [band]
    exact paced.room

/-- In every run whose calls succeed and whose Curve commands find the slew base in
agreement with the fan, every speed write of a Curve poll is bounded. -/
theorem curve_writes_bounded {log : List Event} (launched : Launched s log) {hosts : List Host}
    (exact : loop.Along (fun host s => ∀ e ∈ s.calls host, e.exact s.band) hosts s)
    (clean : loop.Along Clean hosts s) : loop.Along Bounded hosts s := by
  refine Machine.along_invariant (I := Paced) ?_ ?_ (exact.and clean) launched.paced
  · rintro host s ⟨exact, clean⟩ paced
    exact paced.next clean exact
  · rintro host s ⟨exact, clean⟩ paced
    exact paced.bounded clean fun e mem => Event.answered_of_exact (exact e mem)

end Runs

section Concrete

attribute [local instance] Bench.json

/-- A bench daemon that starts in Curve. -/
def curveDaemon : Supervisor Bench := Bench.daemon Bench.healthy .curve

theorem curveDaemon_launched : ∃ log, Launched curveDaemon log :=
  ⟨_, .started Bench.quiet (new_eq_ok.mpr ⟨Bench.config_valid, rfl⟩)⟩

theorem curve_writes_bounded_session :
    loop.Along Bounded [Bench.quiet, Bench.quiet, Bench.quiet] curveDaemon := by
  obtain ⟨log, launched⟩ := curveDaemon_launched
  exact curve_writes_bounded launched (by decide) (by decide)

/-- A bench daemon that holds 5000 rpm. -/
def steadyDaemon : Supervisor Bench := Bench.daemon Bench.healthy (.hold 5000)

set_option maxRecDepth 4000 in
/-- A Curve command to it drops the fan from 5000 to 1950 rpm in one poll. -/
theorem curve_jumps :
    (∃ log, Launched steadyDaemon log) ∧
      loop.Along (fun host s => ∀ e ∈ s.calls host, e.exact s.band)
        [Bench.quiet, Bench.commanding Bench.curveText] steadyDaemon ∧
      ¬ loop.Along Bounded [Bench.quiet, Bench.commanding Bench.curveText] steadyDaemon := by
  refine ⟨⟨_, .started Bench.quiet (new_eq_ok.mpr ⟨Bench.config_valid, rfl⟩)⟩, by decide, ?_⟩
  rintro ⟨-, bounded, -⟩
  have bounded : (steadyDaemon.next Bench.quiet).Bounded (Bench.commanding Bench.curveText) :=
    bounded
  -- the second call of the second poll, after its sensor read
  have second : 1 < ((steadyDaemon.next Bench.quiet).calls
      (Bench.commanding Bench.curveText)).length := by decide
  have op : (((steadyDaemon.next Bench.quiet).calls
      (Bench.commanding Bench.curveText)).get ⟨1, second⟩).op = .writeSpeed 1950 (.ok 1950) := by
    rfl
  have jump := bounded (by decide +kernel) 1950 (by decide +kernel) _ (List.get_mem _ ⟨1, second⟩)
    1950 (.ok 1950) op
  exact absurd (jump.1 5000 rfl) (by decide)

end Concrete

end Supervisor

end Afanctl
