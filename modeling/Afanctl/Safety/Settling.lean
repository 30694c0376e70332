import Afanctl.Policy.Plateau
import Afanctl.Safety.Slew
import Afanctl.Sysfs.Following

/-!
Where a fan that works ends up.

While the hottest sensor stands still and no command comes, the loop through the backend closes:
the fan is held one slew step nearer to the curve with every poll, and stays there. Three polls of
overheating bring it to the ceiling, and three polls without a reading to the firmware, whatever
is commanded meanwhile.
-/

namespace Afanctl

open Afanctl.Lib

namespace Supervisor

variable {σ : Type} [Smc σ] [SerdeJson] {A : Actuator σ} {cfg : ResolvedConfig} {fan : Fan}
  {t : MilliC} {host : Host} {s : Supervisor σ}

/-- A poll with nothing to obey, whose hottest sensor reads `t`. -/
def Steady (t : MilliC) (host : Host) (s : Supervisor σ) : Prop :=
  s.freshCommand host = none ∧ hottest (s.sensed host).1 = some t

instance (t : MilliC) (host : Host) (s : Supervisor σ) : Decidable (s.Steady t host) :=
  inferInstanceAs (Decidable (_ ∧ _))

/-! ### The controller over a run -/

/-- What every call of the controller keeps, a run of the daemon keeps. -/
theorem run_controller {I : Controller → Prop}
    (keeps : ∀ {c : Controller} (call : Call), I c → I (c.step call).2) (hosts : List Host)
    (start : I s.controller) : I (loop.run hosts s).controller := by
  refine Machine.run_invariant (P := fun _ _ => True) (I := fun s => I s.controller) ?_
    (Machine.Along.of_forall (fun _ _ => trivial) hosts s) start
  intro host s _ holds
  show I (s.next host).controller
  rw [next_controller, decided_eq]
  exact keeps _ holds

/-! ### One poll -/

/-- A daemon that follows the curve with a working fan. -/
structure Settles (A : Actuator σ) (cfg : ResolvedConfig) (fan : Fan) (s : Supervisor σ) : Prop
    extends A.Tends fan s.toDaemon where
  curve : s.mode = .curve
  tame : s.controller.Tame
  tuned : s.controller.Tuned cfg

/-- A poll with nothing new to obey goes on with the daemon and the hardware it found. -/
theorem commanded_unmoved (stale : s.freshCommand host = none) :
    (s.commanded host).toCustody = s.toCustody ∧ (s.commanded host).smc = s.smc := by
  obtain ⟨ticks, errors, notes, eq⟩ := commanded_stale stale
  rw [eq]
  exact ⟨rfl, rfl⟩

/-- Nothing to obey, and nothing pending: the sensor read finds the daemon as it was. -/
theorem sensed_stale (tends : A.Tends fan s.toDaemon) (stale : s.freshCommand host = none) :
    (s.commanded host).toCustody = s.toCustody ∧ (s.sensed host).2.toCustody = s.toCustody := by
  obtain ⟨commanded, smc⟩ := commanded_unmoved stale
  have settled : (s.commanded host).autoRestorePending = false :=
    (congrArg Custody.autoRestorePending commanded).trans tends.settled
  obtain ⟨readings, answer, -⟩ := A.readSensors tends.shows
  rw [← smc] at answer
  refine ⟨commanded, ?_⟩
  rw [sensed_eq settled answer]
  exact commanded

/-- A steady poll takes the controller and the fan one slew step toward the curve. -/
theorem Settles.next (settles : s.Settles A cfg fan) (steady : s.Steady t host)
    (onCurve : OnCurve cfg t) :
    ∃ fan', (s.next host).Settles A cfg fan' ∧
      (s.next host).controller.slewRpm
        = toward slewMaxRpmPerPoll s.controller.slewRpm (plateauRpm cfg t) ∧
      fan'.held = some (clamp A.lo A.hi
        (toward slewMaxRpmPerPoll s.controller.slewRpm (plateauRpm cfg t))) := by
  obtain ⟨stale, seen⟩ := steady
  obtain ⟨commanded, sensed⟩ := sensed_stale settles.toTends stale
  have session : (s.sensed host).2.InCurve := by
    rw [sensed]
    exact ⟨settles.curve, settles.trusted⟩
  obtain ⟨decides, slews⟩ := settles.tame.stepCurve_plateau settles.tuned onCurve seen
  obtain ⟨fan', tended, held, _, mode⟩ := next_tends settles.toTends host
  have curve : (s.next host).mode = .curve :=
    mode.trans ((congrArg Custody.mode commanded).trans settles.curve)
  have told : (s.stepOnce host).report.mode = .curve :=
    (report_mode host s).trans ((congrArg Custody.mode (next_toCustody host s)).symm.trans curve)
  have decision : (s.stepOnce host).report.decision
      = .setSpeed (toward slewMaxRpmPerPoll s.controller.slewRpm (plateauRpm cfg t)) := by
    show (s.decided host).1 = _
    rw [decided_curve session, decides]
  refine ⟨fan', ⟨tended, curve, ?_, ?_⟩, ?_, ?_⟩
  · rw [next_controller, decided_eq]
    exact settles.tame.step _
  · rw [next_controller, decided_eq]
    exact settles.tuned.step _
  · rw [next_controller, decided_curve session, slews]
  · rw [held, StepReport.holds, told, decision]
    rfl

/-- Any number of steady polls: controller and fan are where as many steps lead. -/
theorem Settles.run (settles : s.Settles A cfg fan) (onCurve : OnCurve cfg t) (hosts : List Host)
    (steady : loop.Along (Steady t) hosts s) :
    ∃ fan', (loop.run hosts s).Settles A cfg fan' ∧
      fan'.held = if hosts = [] then fan.held else some (clamp A.lo A.hi
        (approach slewMaxRpmPerPoll s.controller.slewRpm (plateauRpm cfg t) hosts.length)) := by
  induction hosts generalizing s fan with
  | nil => exact ⟨fan, settles, rfl⟩
  | cons host hosts ih =>
      obtain ⟨fan', settles, slews, held⟩ := settles.next steady.1 onCurve
      obtain ⟨fan'', ends, kept⟩ := ih settles steady.2
      rw [slews, approach_toward] at kept
      refine ⟨fan'', ends, ?_⟩
      rw [kept, if_neg (List.cons_ne_nil host hosts)]
      split
      · next last =>
          rw [held, last, List.length_singleton, ← approach_toward, approach_zero]
      · rfl

/-! ### Streaks -/

/-- A poll that ends in control was in control when it decided, and what it decided the fan is
held at. -/
theorem next_decides (tends : A.Tends fan s.toDaemon) (drives : (s.next host).mode ≠ .observe) :
    ∃ fan', A.Tends fan' (s.next host).toDaemon ∧ (s.sensed host).2.Driving ∧
      (s.sensed host).2.mode = (s.next host).mode ∧
      fan'.held = (s.decided host).1.holds A.lo A.hi s.cfgMaxRpm fan.held := by
  obtain ⟨told, commanded, -⟩ := commanded_tends tends host
  obtain ⟨sensed, moded⟩ := sensed_tends commanded
  obtain ⟨fan', tended, held, -, mode⟩ := next_tends tends host
  have same : (s.sensed host).2.mode = (s.next host).mode := moded.trans mode.symm
  have reported : (s.stepOnce host).report.mode = (s.next host).mode :=
    (report_mode host s).trans (congrArg Custody.mode (next_toCustody host s)).symm
  refine ⟨fan', tended, ⟨?_, sensed.trusted⟩, same, ?_⟩
  · rw [same]
    exact drives
  · rw [held, StepReport.holds, reported, if_neg drives]
    rfl

/-- The controller's side of it. -/
theorem next_commands (tends : A.Tends fan s.toDaemon) (drives : (s.next host).mode ≠ .observe) :
    ∃ fan' call, A.Tends fan' (s.next host).toDaemon ∧ call.Commands ∧
      call.readings = (s.sensed host).1 ∧
      (s.next host).controller = (s.controller.step call).2 ∧
      fan'.held = (s.controller.step call).1.holds A.lo A.hi s.cfgMaxRpm fan.held := by
  obtain ⟨fan', tended, driving, -, held⟩ := next_decides tends drives
  rw [decided_eq] at held
  refine ⟨fan', _, tended, driving.call_commands, Custody.call_readings, ?_, held⟩
  rw [next_controller, decided_eq]

/-- A poll that ends in Curve leaves the speed that it decided on as the next base of slewing. -/
theorem next_slewRpm {rpm : Nat} (tends : A.Tends fan s.toDaemon)
    (curve : (s.next host).mode = .curve)
    (decides : (s.stepOnce host).report.decision = .setSpeed rpm) :
    (s.next host).controller.slewRpm = rpm := by
  have drives : (s.next host).mode ≠ .observe := by
    rw [curve]
    nofun
  obtain ⟨-, -, driving, same, -⟩ := next_decides tends drives
  have session : (s.sensed host).2.InCurve := ⟨same.trans curve, driving.2⟩
  have decides : (s.decided host).1 = .setSpeed rpm := decides
  rw [decided_curve session] at decides
  rw [next_controller, decided_curve session, Controller.stepCurve_base, decides]
  rfl

/-- A poll that observes leaves the fan to the firmware. -/
theorem next_observes (tends : A.Tends fan s.toDaemon) (idle : (s.next host).mode = .observe) :
    ∃ fan', A.Tends fan' (s.next host).toDaemon ∧ fan'.held = none := by
  obtain ⟨fan', tended, -⟩ := next_tends tends host
  exact ⟨fan', tended, fan'.held_of_auto (tended.idle idle)⟩

end Supervisor

namespace Controller

variable {c : Controller} {t : MilliC}

theorem step_overshoot (call : Call) (seen : hottest call.readings = some t) :
    (c.step call).2.overshootStreak = c.overshootCount t := by
  obtain ⟨slewRpm, ramping, eq⟩ := step_counted call c
  rw [eq, counted_some seen]

theorem step_overshoot_le (call : Call) :
    (c.step call).2.overshootStreak ≤ c.overshootStreak + 1 := by
  obtain ⟨slewRpm, ramping, eq⟩ := step_counted call c
  rw [eq]
  cases seen : hottest call.readings with
  | none =>
      rw [counted_none seen]
      exact Nat.zero_le _
  | some t =>
      rw [counted_some seen]
      show c.overshootCount t ≤ c.overshootStreak + 1
      unfold overshootCount
      split
      · exact Nat.mod_le _ _
      · exact Nat.zero_le _

theorem step_loss (call : Call) (lost : hottest call.readings = none) :
    (c.step call).2.lossStreak = c.lossCount := by
  obtain ⟨slewRpm, ramping, eq⟩ := step_counted call c
  rw [eq, counted_none lost]

theorem lossCount_lt (c : Controller) : c.lossCount < sensorLossPolls := by
  unfold lossCount
  split
  · decide
  · next short => exact Nat.lt_of_not_le short

/-- The loss streak is never full between polls. -/
theorem step_loss_lt (call : Call) : (c.step call).2.lossStreak < sensorLossPolls := by
  cases seen : hottest call.readings with
  | none =>
      rw [step_loss call seen]
      exact c.lossCount_lt
  | some t =>
      obtain ⟨slewRpm, ramping, eq⟩ := step_counted call c
      rw [eq, counted_some seen]
      exact Nat.zero_lt_succ 2

end Controller

namespace Supervisor

variable {σ : Type} [Smc σ] [SerdeJson] {A : Actuator σ} {cfg : ResolvedConfig} {fan : Fan}
  {t : MilliC} {host : Host} {s : Supervisor σ}

/-- A poll whose hottest sensor is at the guard's threshold. -/
def Overheats (cfg : ResolvedConfig) (host : Host) (s : Supervisor σ) : Prop :=
  ∃ t ∈ hottest (s.sensed host).1, (cfg.config.maxC - 1) * 1000 ≤ t.val

instance (cfg : ResolvedConfig) (host : Host) (s : Supervisor σ) :
    Decidable (s.Overheats cfg host) :=
  inferInstanceAs (Decidable (∃ t ∈ hottest _, _))

/-- A poll without a valid reading. -/
def Blind (host : Host) (s : Supervisor σ) : Prop := hottest (s.sensed host).1 = none

instance (host : Host) (s : Supervisor σ) : Decidable (s.Blind host) :=
  inferInstanceAs (Decidable (_ = _))

theorem run_overshoot_le (hosts : List Host) :
    (loop.run hosts s).controller.overshootStreak
      ≤ s.controller.overshootStreak + hosts.length := by
  induction hosts generalizing s with
  | nil => exact Nat.le_refl _
  | cons host hosts ih =>
      have rest := ih (s := s.next host)
      have here : (s.next host).controller.overshootStreak
          ≤ s.controller.overshootStreak + 1 := by
        rw [next_controller, decided_eq]
        exact Controller.step_overshoot_le _
      show (loop.run hosts (s.next host)).controller.overshootStreak ≤ _
      rw [List.length_cons]
      omega

/-- One more poll of overheating. -/
theorem Overheats.counts (overheats : s.Overheats cfg host) (tuned : s.controller.Tuned cfg)
    (thresholds : Thresholds cfg.config.highC cfg.config.maxC cfg.lowC)
    (fits : s.controller.overshootStreak + 1 ≤ u32Max) :
    ∃ t, hottest (s.sensed host).1 = some t ∧
      s.controller.overshootCount t = s.controller.overshootStreak + 1 := by
  obtain ⟨t, seen, hot⟩ := overheats
  refine ⟨t, seen, ?_⟩
  rw [Controller.overshootCount, tuned.maxC, thresholds.guard, if_pos hot, wrap32_of_le fits]

/-- Polls of overheating, as many as the guard asks for: the fan is held at the ceiling, if the
last of them drives. -/
theorem run_overheats (tends : A.Tends fan s.toDaemon) (tuned : s.controller.Tuned cfg)
    (thresholds : Thresholds cfg.config.highC cfg.config.maxC cfg.lowC) (hosts : List Host)
    (ran : hosts ≠ []) (overheats : loop.Along (Overheats cfg) hosts s)
    (enough : overshootPolls ≤ s.controller.overshootStreak + hosts.length)
    (fits : s.controller.overshootStreak + hosts.length ≤ u32Max)
    (drives : (loop.run hosts s).mode ≠ .observe) :
    ∃ fan', A.Tends fan' (loop.run hosts s).toDaemon ∧
      fan'.held = some (clamp A.lo A.hi s.cfgMaxRpm) := by
  induction hosts generalizing s fan with
  | nil => exact absurd rfl ran
  | cons host hosts ih =>
      rw [List.length_cons] at enough fits
      obtain ⟨t, seen, counts⟩ := overheats.1.counts tuned thresholds (by omega)
      by_cases last : hosts = []
      · subst last
        obtain ⟨fan', call, tended, commands, readings, -, held⟩ := next_commands tends drives
        have valid : hottest call.readings = some t := readings ▸ seen
        obtain ⟨rpm, decides, -⟩ := Controller.step_seen s.controller commands valid
        rw [decides, if_pos (counts ▸ enough)] at held
        exact ⟨fan', tended, held⟩
      · obtain ⟨fan', tended, -⟩ := next_tends tends host
        have counted : (s.next host).controller.overshootStreak
            = s.controller.overshootStreak + 1 := by
          rw [next_controller, decided_eq, Controller.step_overshoot _ (t := t), counts]
          rw [Custody.call_readings]
          exact seen
        have ceiling : (s.next host).cfgMaxRpm = s.cfgMaxRpm :=
          congrArg Band.cfgMaxRpm (next_band host s)
        have tuned : (s.next host).controller.Tuned cfg := by
          rw [next_controller, decided_eq]
          exact tuned.step _
        have enough : overshootPolls
            ≤ (s.next host).controller.overshootStreak + hosts.length := by
          rw [counted]
          omega
        have fits : (s.next host).controller.overshootStreak + hosts.length ≤ u32Max := by
          rw [counted]
          omega
        rw [← ceiling]
        exact ih tended tuned last overheats.2 enough fits drives

/-- Polls without a reading, until the streak is full: nothing holds the fan any more. -/
theorem run_blind (tends : A.Tends fan s.toDaemon) (hosts : List Host)
    (blind : loop.Along Blind hosts s) (few : s.controller.lossStreak < sensorLossPolls)
    (enough : fan.held = none ∨ sensorLossPolls ≤ s.controller.lossStreak + hosts.length) :
    ∃ fan', A.Tends fan' (loop.run hosts s).toDaemon ∧ fan'.held = none := by
  induction hosts generalizing s fan with
  | nil => exact ⟨fan, tends, enough.resolve_right (Nat.not_le.mpr few)⟩
  | cons host hosts ih =>
      have few' : (s.next host).controller.lossStreak < sensorLossPolls := by
        rw [next_controller, decided_eq]
        exact Controller.step_loss_lt _
      by_cases idle : (s.next host).mode = .observe
      · obtain ⟨fan', tended, released⟩ := next_observes tends idle
        exact ih tended blind.2 few' (.inl released)
      · obtain ⟨fan', call, tended, commands, readings, controller, held⟩ :=
          next_commands tends idle
        have lost : hottest call.readings = none := readings ▸ blind.1
        rw [Controller.step_lost s.controller commands lost] at held
        split at held
        · exact ih tended blind.2 few' (.inl held)
        · next short =>
            refine ih tended blind.2 few' (enough.imp held.trans fun full => ?_)
            have small : s.controller.lossStreak + 1 ≤ u32Max :=
              Nat.le_trans few (by decide)
            have counted : (s.next host).controller.lossStreak = s.controller.lossStreak + 1 := by
              rw [controller, Controller.step_loss call lost, Controller.lossCount, if_neg short,
                wrap32_of_le small]
            show sensorLossPolls ≤ (s.next host).controller.lossStreak + hosts.length
            rw [counted, Nat.add_assoc, Nat.add_comm 1]
            exact full

/-! ### From the start -/

theorem run_band (hosts : List Host) : (loop.run hosts s).band = s.band := by
  induction hosts generalizing s with
  | nil => rfl
  | cons host hosts ih => exact (ih (s := s.next host)).trans (next_band host s)

/-- What any run over a working fan leaves. -/
theorem run_started {smc : σ} (shown : A.shows smc fan) (cfg : ResolvedConfig) (start : RunMode)
    (paths : RuntimePaths) (boot : Host) (before : List Host) :
    ∃ fan', A.Tends fan'
        (loop.run before ((wired smc cfg start paths).start boot)).toDaemon ∧
      (loop.run before ((wired smc cfg start paths).start boot)).controller.Tuned cfg ∧
      (loop.run before ((wired smc cfg start paths).start boot)).cfgMaxRpm = cfg.config.maxRpm := by
  obtain ⟨found, tends, -⟩ := start_tends shown cfg start paths boot
  obtain ⟨fan', tended, -, -⟩ := run_tends tends before
  have tuned := Controller.Tuned.new cfg
  refine ⟨fan', tended, run_controller (fun call tuned => tuned.step call) before tuned, ?_⟩
  exact (congrArg Band.cfgMaxRpm (run_band before)).trans
    (congrArg Band.cfgMaxRpm (start_band boot (wired smc cfg start paths)))

/-- On a temperature plateau the fan approaches the curve: whatever commands and temperatures came
before, a daemon that is left in Curve mode over a working fan holds it at the speeds that lead
from its base of slewing to the curve's speed, one way only and by full slew steps but the last,
and then keeps it there. The base is what the poll before decided on, if it decided on a speed;
after a Hold or a loss of sensors it need not be what the fan is held at, and the first of these
speeds may be a jump. -/
theorem plateau_settles {smc : σ} (shown : A.shows smc fan) {config : Config} {start : RunMode}
    {paths : RuntimePaths} (built : Supervisor.new smc (.ofConfig config) start paths = .ok s)
    (fits : config.maxRpm ≤ u32Max - slewMaxRpmPerPoll) (onCurve : OnCurve (.ofConfig config) t)
    (boot : Host) (before : List Host)
    (curve : (loop.run before (s.start boot)).mode = .curve) :
    (∀ front last rpm, before = front ++ [last] →
        ((loop.run front (s.start boot)).stepOnce last).report.decision = .setSpeed rpm →
        (loop.run before (s.start boot)).controller.slewRpm = rpm) ∧
      ∃ x : Nat → Nat,
        Approaches slewMaxRpmPerPoll (loop.run before (s.start boot)).controller.slewRpm
            (plateauRpm (.ofConfig config) t) x ∧
          ∀ hosts, loop.Along (Steady t) hosts (loop.run before (s.start boot)) → hosts ≠ [] →
            ∃ fan', A.shows (loop.run hosts (loop.run before (s.start boot))).smc fan' ∧
              fan'.held = some (clamp A.lo A.hi (x hosts.length)) := by
  obtain ⟨accepted, rfl⟩ := new_eq_ok.mp built
  have room : config.maxRpm + slewMaxRpmPerPoll ≤ u32Max := Nat.add_le_of_le_sub (by decide) fits
  refine ⟨?_, ?_⟩
  · rintro front last rpm rfl decides
    obtain ⟨held, tended, -, -⟩ := run_started shown (.ofConfig config) start paths boot front
    rw [Machine.run_append] at curve ⊢
    exact next_slewRpm tended curve decides
  · obtain ⟨kept, tended, tuned, -⟩ :=
      run_started shown (.ofConfig config) start paths boot before
    have tame := Controller.Tame.new (Config.validate_ok_iff.mp accepted).1 room
    have settles : (loop.run before
        ((wired smc (.ofConfig config) start paths).start boot)).Settles
          A (.ofConfig config) kept :=
      ⟨tended, curve, run_controller (fun call tame => tame.step call) before tame, tuned⟩
    refine ⟨_, approach_approaches (by decide), fun hosts steady ran => ?_⟩
    obtain ⟨fan', ends, held⟩ := settles.run onCurve hosts steady
    rw [if_neg ran] at held
    exact ⟨fan', ends.shows, held⟩

/-- Three polls of overheating: whatever came before and whatever is commanded meanwhile, the fan is
then held at the configured ceiling, as the hardware band has it, unless the last command was to
observe. -/
theorem overheating_escalates {smc : σ} (shown : A.shows smc fan) {config : Config}
    {start : RunMode} {paths : RuntimePaths}
    (built : Supervisor.new smc (.ofConfig config) start paths = .ok s) (boot : Host)
    (before hosts : List Host)
    (overheats : loop.Along (Overheats (.ofConfig config)) hosts (loop.run before (s.start boot)))
    (enough : overshootPolls ≤ hosts.length) (fits : before.length + hosts.length ≤ u32Max)
    (drives : (loop.run hosts (loop.run before (s.start boot))).mode ≠ .observe) :
    ∃ fan', A.shows (loop.run hosts (loop.run before (s.start boot))).smc fan' ∧
      fan'.held = some (clamp A.lo A.hi config.maxRpm) := by
  obtain ⟨accepted, rfl⟩ := new_eq_ok.mp built
  have thresholds := (Config.validate_ok_iff.mp accepted).1.thresholds
  obtain ⟨kept, tended, tuned, ceiling⟩ :=
    run_started shown (.ofConfig config) start paths boot before
  have few := run_overshoot_le before
    (s := (wired smc (.ofConfig config) start paths).start boot)
  have rested : ((wired smc (.ofConfig config) start paths).start boot).controller.overshootStreak
      = 0 := rfl
  have ran : hosts ≠ [] := by
    rintro rfl
    exact absurd enough (by decide)
  rw [rested, Nat.zero_add] at few
  have sum := Nat.le_trans (Nat.add_le_add_right few hosts.length) fits
  obtain ⟨fan', ends, held⟩ := run_overheats tended tuned thresholds hosts ran overheats
    (Nat.le_trans enough (Nat.le_add_left _ _)) sum drives
  rw [ceiling] at held
  exact ⟨fan', ends.shows, held⟩

/-- Three polls without a valid reading: whatever came before and whatever is commanded meanwhile,
the fan is then the firmware's. -/
theorem lost_sensors_release {smc : σ} (shown : A.shows smc fan) (cfg : ResolvedConfig)
    (start : RunMode) (paths : RuntimePaths) (boot : Host) (before hosts : List Host)
    (blind : loop.Along Blind hosts
      (loop.run before ((wired smc cfg start paths).start boot)))
    (enough : sensorLossPolls ≤ hosts.length) :
    ∃ fan', A.shows
        (loop.run hosts (loop.run before ((wired smc cfg start paths).start boot))).smc fan' ∧
      fan'.held = none := by
  obtain ⟨kept, tended, -⟩ := run_started shown cfg start paths boot before
  have rested : ((wired smc cfg start paths).start boot).controller.lossStreak
      < sensorLossPolls := Nat.zero_lt_succ 2
  have few := run_controller (I := fun c => c.lossStreak < sensorLossPolls)
    (fun call _ => Controller.step_loss_lt call) before rested
  obtain ⟨fan', ends, released⟩ := run_blind tended hosts blind few
    (.inr (Nat.le_trans enough (Nat.le_add_left _ _)))
  exact ⟨fan', ends.shows, released⟩

end Supervisor

section Concrete

attribute [local instance] Bench.json

/-- The lagging fan's adapter, with other files of temperatures. -/
def laggingAt (temps : List (String × String)) : SysfsSmc Plant :=
  { laggingAdapter with world := { device := { laggingPlant with temps := temps }, journal := [] } }

theorem laggingAt_spins (temps : List (String × String)) :
    SysfsSmc.Spins 1200 7200
      [({ laggingPlant with temps := temps } : Plant).reading ("/temp1_input", "Core 0")]
      (laggingAt temps) ⟨.auto, 0, 2000⟩ :=
  { lagging_spins with
    fits := ⟨rfl, rfl, rfl, lagging_twin.fits.apart, lagging_twin.fits.ceiling⟩
    readings := rfl
    agile := lagging_spins.agile }

namespace Supervisor

/-- The lagging fan at 70 °C is at 2200 rpm from its second poll on. -/
theorem plateau_settles_lagging :
    ∃ fan, SysfsSmc.Spins 1200 7200 [⟨"Core 0", some ⟨70000⟩⟩]
        (loop.run [Bench.quiet, Bench.quiet] adapterDaemon).smc fan ∧ fan.held = some 2200 := by
  have built : Supervisor.new laggingAdapter Bench.config .curve Bench.paths = .ok _ :=
    new_eq_ok.mpr ⟨Bench.config_valid, rfl⟩
  have curve : adapterDaemon.mode = .curve := by decide +kernel
  have steady : loop.Along (Steady ⟨70000⟩) [Bench.quiet, Bench.quiet] adapterDaemon := by
    decide +kernel
  obtain ⟨-, x, approaches, settles⟩ := plateau_settles (t := ⟨70000⟩)
    (A := SysfsSmc.actuator 1200 7200 (by decide) [⟨"Core 0", some ⟨70000⟩⟩]) lagging_spins
    built (by decide) (by decide) Bench.quiet [] curve
  obtain ⟨fan, spins, held⟩ := settles [Bench.quiet, Bench.quiet] steady nofun
  have arrived : x 2 = 2200 := approaches.arrives 2 (by decide +kernel)
  refine ⟨fan, spins, held.trans ?_⟩
  show some (clamp 1200 7200 (x 2)) = some 2200
  rw [arrived]
  rfl

/-- A daemon over the overheating fan, told meanwhile to hold 5000 rpm. -/
def hotFan : Supervisor (SysfsSmc Plant) :=
  (wired (laggingAt [("/temp1_input", "90000\n")]) Bench.config .curve Bench.paths).start
    Bench.quiet

theorem overheating_escalates_hold :
    ∃ fan, SysfsSmc.Spins 1200 7200 [⟨"Core 0", some ⟨90000⟩⟩]
        (loop.run [Bench.quiet, Bench.quiet, Bench.commanding Bench.holdText]
          hotFan).smc fan ∧
      fan.held = some 6200 := by
  have built : Supervisor.new (laggingAt [("/temp1_input", "90000\n")]) Bench.config .curve
      Bench.paths = .ok _ :=
    new_eq_ok.mpr ⟨Bench.config_valid, rfl⟩
  have overheats : loop.Along (Overheats Bench.config)
      [Bench.quiet, Bench.quiet, Bench.commanding Bench.holdText] hotFan := by
    decide +kernel
  have drives : (loop.run [Bench.quiet, Bench.quiet, Bench.commanding Bench.holdText]
      hotFan).mode ≠ .observe := by
    decide +kernel
  exact overheating_escalates
    (A := SysfsSmc.actuator 1200 7200 (by decide) [⟨"Core 0", some ⟨90000⟩⟩])
    (laggingAt_spins [("/temp1_input", "90000\n")]) built Bench.quiet []
    [Bench.quiet, Bench.quiet, Bench.commanding Bench.holdText] overheats (by decide) (by decide)
    drives

/-- A daemon over the fan without a file of temperatures. -/
def unreadFan : Supervisor (SysfsSmc Plant) :=
  (wired (laggingAt []) Bench.config .curve Bench.paths).start Bench.quiet

theorem lost_sensors_release_hold :
    ∃ fan, SysfsSmc.Spins 1200 7200 [⟨"Core 0", none⟩]
        (loop.run [Bench.quiet, Bench.quiet, Bench.commanding Bench.holdText] unreadFan).smc fan ∧
      fan.held = none := by
  have blind : loop.Along Blind [Bench.quiet, Bench.quiet, Bench.commanding Bench.holdText]
      unreadFan := by
    decide +kernel
  exact lost_sensors_release (A := SysfsSmc.actuator 1200 7200 (by decide) [⟨"Core 0", none⟩])
    (laggingAt_spins []) Bench.config .curve Bench.paths Bench.quiet []
    [Bench.quiet, Bench.quiet, Bench.commanding Bench.holdText] blind (by decide)

end Supervisor

end Concrete

end Afanctl
