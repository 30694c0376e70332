import Afanctl.Curve
import Afanctl.Supervisor.Band
import Afanctl.Bench

/-!
The load-time rpm clamp.

Construction validates the clamped band and then drives with the raw one: the
controller interpolates over it, and escalation writes and publishes its ceiling.
So a daemon drives as its clamped config would where the clamp changes nothing, and
where it changes what no write and no published target can show. Everywhere else, if
slewing from the hardware limits cannot overflow, there is a backend on which three
polls tell the two apart.
-/

namespace Afanctl

open Afanctl.Lib

namespace Config

/-- The config with the load-time clamp applied. -/
def clamped (hw : Nat × Nat) (c : Config) : Config :=
  { c with minRpm := (c.clampedRpm hw).1, maxRpm := (c.clampedRpm hw).2 }

/-- The clamp changes nothing, or it raises the floor to one rpm below the ceiling, in
a band that one slew step crosses. -/
def ClampInert (hw : Nat × Nat) (c : Config) : Prop :=
  (hw.1 ≤ c.minRpm ∧ c.maxRpm ≤ hw.2) ∨
    (c.maxRpm ≤ hw.2 ∧ OneStep hw.1 c.minRpm c.maxRpm c.minRpm)

variable {hw : Nat × Nat} {c : Config}

theorem clamped_of_inside (floor : hw.1 ≤ c.minRpm) (ceiling : c.maxRpm ≤ hw.2) :
    c.clamped hw = c := by
  simp only [clamped, clampedRpm, Nat.max_eq_left floor, Nat.min_eq_left ceiling]

theorem clamped_of_below (floor : c.minRpm ≤ hw.1) (ceiling : c.maxRpm ≤ hw.2) :
    c.clamped hw = { c with minRpm := hw.1 } := by
  simp only [clamped, clampedRpm, Nat.max_eq_right floor, Nat.min_eq_left ceiling]

/-- The clamped config validates with the raw one. -/
theorem validate_clamped (valid : c.validate hw = .ok ()) :
    (c.clamped hw).validate hw = .ok () := by
  obtain ⟨structural, band⟩ := validate_ok_iff.mp valid
  refine validate_ok_iff.mpr ⟨{ structural with min_lt_max := band }, ?_⟩
  simp only [clamped, clampedRpm]
  omega

end Config

namespace Frame

variable {σ : Type} {p q : Frame σ}

/-- The published target reads the band and the decision as it is clamped. -/
theorem targetRpm_congr {decision decision' : Decision} (band : p.band = q.band)
    (same : decision.clamped p.hwMin p.hwMax = decision'.clamped p.hwMin p.hwMax) :
    p.targetRpm decision = q.targetRpm decision' := by
  have hwMin : p.hwMin = q.hwMin := congrArg Band.hwMin band
  have hwMax : p.hwMax = q.hwMax := congrArg Band.hwMax band
  have cfgMaxRpm : p.cfgMaxRpm = q.cfgMaxRpm := congrArg Band.cfgMaxRpm band
  cases decision <;> cases decision' <;> simp_all [Decision.clamped, targetRpm]

variable [Smc σ]

theorem writeOwned_congr {rpm rpm' : Nat}
    (same : clamp p.hwMin p.hwMax rpm = clamp p.hwMin p.hwMax rpm') :
    p.writeOwned rpm = p.writeOwned rpm' := by
  simp only [writeOwned, same]

/-- Acting clamps before it does anything else with the target. -/
theorem act_congr {decision decision' : Decision}
    (same : decision.clamped p.hwMin p.hwMax = decision'.clamped p.hwMin p.hwMax) :
    p.act decision = p.act decision' := by
  cases decision with
  | setSpeed rpm =>
      cases decision' with
      | setSpeed rpm' =>
          have owned : ∀ q : Frame σ, q.band = p.band → q.writeOwned rpm = q.writeOwned rpm' := by
            intro q band
            apply writeOwned_congr
            rw [show q.hwMin = p.hwMin from congrArg Band.hwMin band,
              show q.hwMax = p.hwMax from congrArg Band.hwMax band]
            exact Decision.setSpeed.inj same
          have entered := enterManual_band p
          simp only [act, writeControlled, owned p rfl]
          generalize p.enterManual = taken at entered
          obtain ⟨q, _ | _⟩ := taken
          · rfl
          · simp only [owned q entered]
      | _ => cases same
  | _ => cases decision' <;> first | rfl | cases same

end Frame

namespace Supervisor

section Start

variable {σ : Type} [Smc σ]

/-! ### Same daemon, alike controllers -/

/-- The clamped daemon differs from the raw one in the lifted controller alone. -/
structure Shadows (lo : Nat) (raw clamped : Supervisor σ) : Prop where
  daemon : clamped.toDaemon = raw.toDaemon
  controller : clamped.controller = raw.controller.lifted lo
  narrow : raw.controller.Narrow lo
  floor : raw.hwMin = lo
  room : lo < raw.hwMax

/-- Over a band that one step crosses, the daemon with the raised floor shadows the
raw one from the start. -/
theorem start_shadows {smc : σ} {c : Config} (structural : c.Structural)
    (step : OneStep (Smc.hwMinRpm smc) c.minRpm c.maxRpm c.minRpm)
    (room : Smc.hwMinRpm smc < Smc.hwMaxRpm smc) (start : RunMode) (paths : RuntimePaths)
    (boot : Host) :
    Shadows (Smc.hwMinRpm smc) ((wired smc (.ofConfig c) start paths).start boot)
      ((wired smc (.ofConfig { c with minRpm := Smc.hwMinRpm smc }) start paths).start boot) := by
  have band := start_band boot (wired smc (.ofConfig c) start paths)
  have hwMax : ((wired smc (.ofConfig c) start paths).start boot).hwMax = Smc.hwMaxRpm smc :=
    congrArg Band.hwMax band
  refine ⟨rfl, ?_, ⟨structural.thresholds, step⟩, congrArg Band.hwMin band, hwMax ▸ room⟩
  show Controller.new _ = (Controller.new _).lifted _
  simp only [Controller.new, Controller.lifted, ResolvedConfig.ofConfig, step.sunk]

end Start

section Drive

variable {σ : Type} [Smc σ] [SerdeJson]

/-- What one poll does to the fan and publishes of it. -/
structure Driven where
  calls : List Op
  mode : String
  targetRpm : Option Nat
  lastWrittenRpm : Option Nat

/-- The calls of a poll, and the mode and rpm fields of its `state.json`. -/
def driven (host : Host) (s : Supervisor σ) : Driven where
  calls := (s.calls host).map (·.op)
  mode := (s.stepOnce host).state.mode
  targetRpm := (s.stepOnce host).state.targetRpm
  lastWrittenRpm := (s.stepOnce host).state.lastWrittenRpm

/-- The poll loop, seen from the fan and from `state.json`. -/
def drive : Machine Host (Supervisor σ) Driven where
  next := next
  out := fun host s => [s.driven host]

/-- Built from `c` and started, the daemon makes the calls and publishes the fields
it would if built from the clamped config, whose curve runs between the clamped
endpoints, and no target outside the hardware band: over every backend with these
limits, and in every run. -/
def DrivesClamped (hw : Nat × Nat) (c : Config) : Prop :=
  ∀ (σ : Type) [Smc σ] (smc : σ) (start : RunMode) (paths : RuntimePaths),
    (Smc.hwMinRpm smc, Smc.hwMaxRpm smc) = hw →
    ∃ raw clamped, Supervisor.new smc (.ofConfig c) start paths = .ok raw ∧
      Supervisor.new smc (.ofConfig (c.clamped hw)) start paths = .ok clamped ∧
      ∀ (boot : Host) (hosts : List Host),
        (raw.started boot).log.map (·.op) = (clamped.started boot).log.map (·.op) ∧
        drive.trace hosts (raw.start boot) = drive.trace hosts (clamped.start boot) ∧
        ∀ o ∈ drive.trace hosts (raw.start boot), ∀ rpm, o.targetRpm = some rpm →
          hw.1 ≤ rpm ∧ rpm ≤ hw.2

variable {host : Host} {s t : Supervisor σ}

/-- A poll is seen through what L1 leaves and what was decided. -/
theorem driven_eq (host : Host) (s : Supervisor σ) :
    s.driven host
      = { calls := (s.checked host).1.log.map (·.op)
          mode := modeToken (s.checked host).1.mode
          targetRpm := (s.checked host).1.targetRpm (s.decided host).1
          lastWrittenRpm := (s.acted host).2.or (s.checked host).1.lastWritten } := by
  unfold driven
  rw [calls_eq]
  rfl

/-! ### A poll of both -/

theorem sensed_congr (host : Host) (daemon : t.toDaemon = s.toDaemon) :
    t.sensed host = s.sensed host := by
  simp only [sensed, retried, commanded, frame, daemon]

variable {lo : Nat}

theorem Shadows.decided (shadows : Shadows lo s t) (host : Host) :
    Controller.Alike lo s.hwMax (s.decided host) (t.decided host) := by
  unfold Supervisor.decided controllerStep
  rw [sensed_congr host shadows.daemon, shadows.controller]
  split
  · exact shadows.narrow.stepObserve _
  · split
    · exact shadows.narrow.stepCurve shadows.room _
    · exact shadows.narrow.stepHold _ _
    · exact shadows.narrow.stepObserve _

/-- The decisions are one to the write and to the published target. -/
theorem Shadows.clamped (shadows : Shadows lo s t) (host : Host) {p : Frame σ}
    (band : p.band = s.band) :
    (t.decided host).1.clamped p.hwMin p.hwMax = (s.decided host).1.clamped p.hwMin p.hwMax := by
  rw [show p.hwMin = lo from (congrArg Band.hwMin band).trans shadows.floor,
    show p.hwMax = s.hwMax from congrArg Band.hwMax band]
  exact (shadows.decided host).decision

theorem Shadows.acted (shadows : Shadows lo s t) (host : Host) : t.acted host = s.acted host := by
  unfold Supervisor.acted
  rw [sensed_congr host shadows.daemon]
  exact Frame.act_congr (shadows.clamped host (sensed_band host s))

theorem Shadows.checked (shadows : Shadows lo s t) (host : Host) :
    t.checked host = s.checked host := by
  unfold Supervisor.checked
  rw [shadows.acted host]

/-- A poll of both is seen alike, and the shadow stays one. -/
theorem Shadows.next (shadows : Shadows lo s t) (host : Host) :
    Shadows lo (s.next host) (t.next host) ∧ s.driven host = t.driven host := by
  have checked := shadows.checked host
  have alike := shadows.decided host
  have band := next_band host s
  constructor
  · refine ⟨?_, alike.controller, alike.narrow, ?_, ?_⟩
    · show ({ (t.checked host).1 with polls := (t.checked host).1.polls + 1 } : Frame σ
        ).publishState.pingWatchdog.toDaemon = _
      rw [checked]
      rfl
    · exact (congrArg Band.hwMin band).trans shadows.floor
    · rw [show (s.next host).hwMax = s.hwMax from congrArg Band.hwMax band]
      exact shadows.room
  · have published := Frame.targetRpm_congr rfl (shadows.clamped host (checked_band host s))
    rw [driven_eq, driven_eq, checked, shadows.acted host, published]

theorem drive_related (shadows : Shadows lo s t) :
    Shadows lo (drive.next host s) (drive.next host t) ∧ drive.out host s = drive.out host t :=
  (shadows.next host).imp id (congrArg fun o => [o])

/-! ### Published targets -/

/-- The band and the decision are all that a published target shows. -/
theorem driven_target (host : Host) (s : Supervisor σ) :
    (s.driven host).targetRpm = (s.frame host).targetRpm (s.decided host).1 := by
  rw [driven_eq]
  exact Frame.targetRpm_congr (checked_band host s) rfl

/-- Every published target lies in the hardware band, if the ceiling does. -/
theorem driven_target_mem {hw : Nat × Nat} {top : Nat} (inside : hw.1 ≤ top ∧ top ≤ hw.2)
    (band : s.band = ⟨hw.1, hw.2, top⟩) {rpm : Nat}
    (published : (s.driven host).targetRpm = some rpm) : hw.1 ≤ rpm ∧ rpm ≤ hw.2 := by
  have hwMin : (s.frame host).hwMin = hw.1 := congrArg Band.hwMin band
  have hwMax : (s.frame host).hwMax = hw.2 := congrArg Band.hwMax band
  have cfgMaxRpm : (s.frame host).cfgMaxRpm = top := congrArg Band.cfgMaxRpm band
  rw [driven_target] at published
  simp only [Frame.targetRpm, hwMin, hwMax, cfgMaxRpm] at published
  cases decision : (s.decided host).1 with
  | observe => simp [decision] at published
  | returnToAuto => simp [decision] at published
  | escalateMax =>
      simp only [decision, Option.some.injEq] at published
      exact published ▸ inside
  | setSpeed target =>
      simp only [decision, Option.some.injEq] at published
      exact published ▸ clamp_mem (Nat.le_trans inside.1 inside.2) target

theorem trace_target_mem (hw : Nat × Nat) {top : Nat} (inside : hw.1 ≤ top ∧ top ≤ hw.2)
    (band : s.band = ⟨hw.1, hw.2, top⟩) (hosts : List Host) :
    ∀ o ∈ drive.trace hosts s, ∀ rpm, o.targetRpm = some rpm → hw.1 ≤ rpm ∧ rpm ≤ hw.2 := by
  refine Machine.trace_forall (P := fun _ _ => True) (I := fun t => t.band = ⟨hw.1, hw.2, top⟩)
    ?_ ?_ (Machine.Along.of_forall (fun _ _ => trivial) hosts s) band
  · exact fun _ kept => (next_band _ _).trans kept
  · intro host t _ kept o mem rpm published
    rw [List.mem_singleton.mp mem] at published
    exact driven_target_mem inside kept published

/-! ### An inert clamp -/

variable {hw : Nat × Nat} {c : Config}

theorem drivesClamped_of_inert (valid : c.validate hw = .ok ()) (inert : c.ClampInert hw) :
    DrivesClamped hw c := by
  rintro σ _ smc start paths rfl
  refine ⟨_, _, new_eq_ok.mpr ⟨valid, rfl⟩, new_eq_ok.mpr ⟨Config.validate_clamped valid, rfl⟩,
    fun boot hosts => ?_⟩
  obtain ⟨structural, band⟩ := Config.validate_ok_iff.mp valid
  have ceiling : c.maxRpm ≤ Smc.hwMaxRpm smc := inert.elim (·.2) (·.1)
  have floor : Smc.hwMinRpm smc ≤ c.maxRpm := by omega
  have targets := trace_target_mem (Smc.hwMinRpm smc, Smc.hwMaxRpm smc) ⟨floor, ceiling⟩
    (start_band boot (wired smc (.ofConfig c) start paths)) hosts
  rcases inert with ⟨above, -⟩ | ⟨-, step⟩
  · rw [Config.clamped_of_inside above ceiling]
    exact ⟨rfl, rfl, targets⟩
  · have shadows := start_shadows structural step (by omega) start paths boot
    obtain ⟨-, same⟩ := Machine.run_related drive_related hosts shadows
    rw [Config.clamped_of_below (Nat.le_of_lt step.below) ceiling]
    exact ⟨rfl, same, targets⟩

end Drive

end Supervisor

/-! ### The first poll's target -/

namespace Config

variable {c : Config}

/-- The unclamped target of a first poll at the given temperature. -/
def firstTarget (milli : Int) (c : Config) : Nat :=
  slewToward c.minRpm ((Controller.new (.ofConfig c)).targetFor ⟨milli⟩).1 slewMaxRpmPerPoll

/-- A first poll's target above the floor is reached or one slew step away. -/
theorem firstTarget_eq {milli : Int} {target : Nat} (fits : c.minRpm + slewMaxRpmPerPoll ≤ u32Max)
    (targeted : ((Controller.new (.ofConfig c)).targetFor ⟨milli⟩).1 = target)
    (above : c.minRpm ≤ target) :
    c.firstTarget milli = min (c.minRpm + slewMaxRpmPerPoll) target := by
  unfold firstTarget slewToward
  rw [targeted, if_pos above, wrap32_of_le fits]

theorem firstTarget_hot (structural : c.Structural)
    (fits : c.minRpm + slewMaxRpmPerPoll ≤ u32Max) :
    c.firstTarget (c.maxC * 1000) = min (c.minRpm + slewMaxRpmPerPoll) c.maxRpm := by
  have targeted := Controller.targetFor_hot (c := Controller.new (.ofConfig c))
    structural.thresholds (Int.le_refl (c.maxC * 1000))
  exact firstTarget_eq fits (congrArg Prod.fst targeted) (Nat.le_of_lt structural.min_lt_max)

theorem firstTarget_warm (structural : c.Structural)
    (fits : c.minRpm + slewMaxRpmPerPoll ≤ u32Max) (ceiling : c.maxRpm ≤ u32Max) {num : Nat}
    (inside : num < ((c.maxC - c.highC) * 1000).toNat) :
    c.firstTarget (c.highC * 1000 + num) = min (c.minRpm + slewMaxRpmPerPoll)
      (c.minRpm + num * (c.maxRpm - c.minRpm) / ((c.maxC - c.highC) * 1000).toNat) := by
  have above : c.highC * 1000 ≤ c.highC * 1000 + num := by omega
  have below : c.highC * 1000 + num < c.maxC * 1000 := by omega
  have targeted := Controller.targetFor_warm (c := Controller.new (.ofConfig c))
    (t := ⟨c.highC * 1000 + num⟩) structural.thresholds above below
  have interpolated := linearTarget_eq (t := ⟨c.highC * 1000 + num⟩) above below
    (Nat.le_of_lt structural.min_lt_max) ceiling
  have share : (c.highC * 1000 + num - c.highC * 1000 : Int).toNat = num := by omega
  simp only [share] at interpolated
  exact firstTarget_eq fits ((congrArg Prod.fst targeted).trans interpolated)
    (Nat.le_add_right _ _)

end Config

/-! ### Telling the two apart -/

/-- A backend at one temperature whose fan stays with the firmware. -/
structure Unyielding where
  hwMin : Nat
  hwMax : Nat
  milli : Int

instance : Smc Unyielding where
  readSensors b := (.ok (Bench.reading b.milli), b)
  readFan b := (.ok ⟨2000, .auto⟩, b)
  hwMinRpm b := b.hwMin
  hwMaxRpm b := b.hwMax
  writeSpeed _ b := (.error Bench.refused, b)
  setMode _ b := (.error Bench.refused, b)
  safeRestore _ := some Bench.restore
  probeSafeRestore b := (.ok Bench.restore, b)
  safetyCapabilities _ := ⟨"unyielding", false, none⟩

theorem Unyielding.seen (b : Unyielding) :
    hottest (Bench.reading b.milli) = some ⟨b.milli⟩ := rfl

namespace Supervisor

section Apart

variable {b : Unyielding}

/-- In Curve over that backend, with the fan not yet taken. -/
structure Poised (b : Unyielding) (strikes : Nat) (s : Supervisor Unyielding) : Prop where
  smc : s.smc = b
  custody : s.toCustody
    = { mode := .curve, monitorOnly := false, manualArmed := false, autoRestorePending := false
        lastWritten := none, writeFailures := strikes, l2Absent := false }

theorem start_poised (cfg : ResolvedConfig) (paths : RuntimePaths) :
    Poised b 0 ((wired b cfg .curve paths).start Bench.quiet) :=
  ⟨rfl, rfl⟩

variable [SerdeJson] {strikes : Nat} {s : Supervisor Unyielding}

theorem third_mem {host : Host} :
    ((s.next host).next host).driven host ∈ drive.trace [host, host, host] s :=
  .tail _ (.tail _ (.head _))

theorem quiet_unapplied {σ : Type} {s : Supervisor σ} : ¬ s.Applies Bench.quiet := by
  rintro ⟨requested, fresh, -⟩
  cases fresh

/-- A quiet poll steps the curve on the backend's temperature. -/
theorem Poised.decided (poised : Poised b strikes s) :
    s.decided Bench.quiet = s.controller.stepCurve (Bench.reading b.milli) := by
  have idle : s.autoRestorePending = false := congrArg Custody.autoRestorePending poised.custody
  obtain ⟨_, _, _, _, _, _, eq⟩ := sensed_unapplied quiet_unapplied idle
  have mode : (s.observed Bench.quiet).mode = .curve := congrArg Custody.mode poised.custody
  have control : (s.observed Bench.quiet).monitorOnly = false :=
    congrArg Custody.monitorOnly poised.custody
  have seen : readings s.smc = Bench.reading b.milli := by rw [poised.smc]; rfl
  unfold Supervisor.decided
  rw [eq, seen]
  simp [controllerStep, mode, control]

/-- Its refused takeover is one more strike, and nothing else. -/
theorem Poised.next (poised : Poised b strikes s) (below : strikes + 1 < writeFailFallback)
    {rpm : Nat} (decision : (s.decided Bench.quiet).1 = .setSpeed rpm) :
    Poised b (strikes + 1) (s.next Bench.quiet) := by
  have idle : s.autoRestorePending = false := congrArg Custody.autoRestorePending poised.custody
  obtain ⟨_, _, _, _, _, _, eq⟩ := sensed_unapplied quiet_unapplied idle
  generalize sensed : (s.sensed Bench.quiet).2 = p at *
  have custody : p.toCustody = s.toCustody := by rw [← sensed, eq]; rfl
  have smc : p.smc = b := by rw [← sensed, eq, ← poised.smc]; rfl
  rw [poised.custody] at custody
  have free : p.manualArmed = false := congrArg Custody.manualArmed custody
  have count : p.writeFailures = strikes := congrArg Custody.writeFailures custody
  have acted : s.acted Bench.quiet
      = ((p.setMode .enterManual .manual).2.failWrite s!"set Manual write error: {Bench.refused}",
          none) := by
    unfold Supervisor.acted
    rw [sensed, decision, Frame.act_setSpeed rpm (congrArg Custody.monitorOnly custody),
      Frame.writeControlled_refused free (by rw [smc]; rfl)]
  obtain ⟨struck, -, kept⟩ := (p.setMode .enterManual .manual).2.failWrite_below
    s!"set Manual write error: {Bench.refused}" (count ▸ below)
  generalize (p.setMode .enterManual .manual).2.failWrite _ = q at acted struck kept
  rw [Frame.setMode_toCustody, custody] at struck
  have untaken : q.smc = b := kept.trans smc
  have checked : s.checked Bench.quiet
      = ({ q.looked ⟨2000, .auto⟩ with stallPolls := 0, offTargetPolls := 0 }, true) := by
    unfold Supervisor.checked
    rw [acted]
    exact Frame.l1Poll_free (by rw [untaken]; rfl) (congrArg Custody.manualArmed struck)
  refine ⟨?_, ?_⟩
  · rw [next_smc, checked, ← untaken]
    rfl
  · rw [next_toCustody, checked]
    exact struck

/-- Poised with the overshoot streak in step with the strikes. -/
structure Heating (b : Unyielding) (polls : Nat) (s : Supervisor Unyielding) : Prop where
  poised : Poised b polls s
  thresholds : Thresholds s.controller.highC s.controller.maxC s.controller.lowC
  hot : s.controller.maxC * 1000 ≤ b.milli
  streak : s.controller.overshootStreak = polls
  few : polls < writeFailFallback

omit [SerdeJson] in
theorem Heating.short {polls : Nat} (heating : Heating b polls s) :
    s.controller.overshootStreak < u32Max :=
  heating.streak ▸ Nat.lt_trans heating.few (by decide)

theorem Heating.next {polls : Nat} (heating : Heating b polls s)
    (below : polls + 1 < writeFailFallback) : Heating b (polls + 1) (s.next Bench.quiet) := by
  have decided := heating.poised.decided
  have slews := Controller.stepCurve_slews (c := s.controller) b.seen (heating.streak ▸ below)
  obtain ⟨-, slewRpm, ramping, stepped⟩ := Controller.stepCurve_counts (c := s.controller) b.seen
    heating.thresholds heating.hot heating.short
  have controller : (s.next Bench.quiet).controller = _ :=
    (congrArg Prod.snd decided).trans stepped
  exact
    { poised := heating.poised.next below ((congrArg Prod.fst decided).trans slews)
      thresholds := controller ▸ heating.thresholds
      hot := controller ▸ heating.hot
      streak := by rw [controller, ← heating.streak]
      few := below }

/-- The third hot poll publishes the configured ceiling. -/
theorem Heating.fires {polls : Nat} (heating : Heating b polls s)
    (third : overshootPolls ≤ polls + 1) :
    (s.driven Bench.quiet).targetRpm = some s.cfgMaxRpm := by
  obtain ⟨fires, -⟩ := Controller.stepCurve_counts (c := s.controller) b.seen
    heating.thresholds heating.hot heating.short
  rw [driven_target, heating.poised.decided, fires (heating.streak ▸ third)]
  rfl

/-! ### Where the clamp shows -/

theorem first_driven (b : Unyielding) (c : Config) (paths : RuntimePaths) :
    (((wired b (.ofConfig c) .curve paths).start Bench.quiet).driven Bench.quiet).targetRpm
      = some (clamp b.hwMin b.hwMax (c.firstTarget b.milli)) := by
  have slews := Controller.stepCurve_slews (c := Controller.new (.ofConfig c)) b.seen
    (show 0 + 1 < overshootPolls by decide)
  rw [driven_target, (start_poised _ _).decided]
  show Frame.targetRpm (Controller.stepCurve _ (Controller.new (.ofConfig c))).1 _ = _
  rw [slews]
  rfl

variable {hw : Nat × Nat} {c : Config}

theorem next_cfgMaxRpm (host : Host) (s : Supervisor Unyielding) :
    (s.next host).cfgMaxRpm = s.cfgMaxRpm :=
  congrArg Band.cfgMaxRpm (next_band host s)

/-- Three polls at the upper threshold end in escalation, published as configured. -/
theorem third_driven (b : Unyielding) (structural : c.Structural) (paths : RuntimePaths)
    (hot : b.milli = c.maxC * 1000) :
    (((((wired b (.ofConfig c) .curve paths).start Bench.quiet).next Bench.quiet).next
      Bench.quiet).driven Bench.quiet).targetRpm = some c.maxRpm := by
  have first : Heating b 0 ((wired b (.ofConfig c) .curve paths).start Bench.quiet) :=
    ⟨start_poised _ _, structural.thresholds, Int.le_of_eq hot.symm, rfl, by decide⟩
  have third := (first.next (by decide)).next (by decide)
  have started := start_band Bench.quiet (wired b (.ofConfig c) .curve paths)
  rw [third.fires (by decide), next_cfgMaxRpm, next_cfgMaxRpm]
  exact congrArg some (congrArg Band.cfgMaxRpm started)

/-- First polls publish alike at every temperature. -/
theorem DrivesClamped.first (drives : DrivesClamped hw c) (milli : Int) :
    clamp hw.1 hw.2 (c.firstTarget milli) = clamp hw.1 hw.2 ((c.clamped hw).firstTarget milli) := by
  obtain ⟨raw, clamped, built, built', runs⟩ :=
    drives Unyielding ⟨hw.1, hw.2, milli⟩ .curve Bench.paths rfl
  obtain ⟨-, rfl⟩ := new_eq_ok.mp built
  obtain ⟨-, rfl⟩ := new_eq_ok.mp built'
  obtain ⟨-, same, -⟩ := runs Bench.quiet [Bench.quiet]
  have published := congrArg Driven.targetRpm (List.cons.inj same).1
  rw [first_driven, first_driven] at published
  exact Option.some.inj published

/-- The ceiling that escalation publishes lies in the hardware band. -/
theorem DrivesClamped.ceiling (drives : DrivesClamped hw c) (structural : c.Structural) :
    c.maxRpm ≤ hw.2 := by
  obtain ⟨raw, clamped, built, -, runs⟩ :=
    drives Unyielding ⟨hw.1, hw.2, c.maxC * 1000⟩ .curve Bench.paths rfl
  obtain ⟨-, rfl⟩ := new_eq_ok.mp built
  obtain ⟨-, -, targets⟩ := runs Bench.quiet [Bench.quiet, Bench.quiet, Bench.quiet]
  have third := third_driven ⟨hw.1, hw.2, c.maxC * 1000⟩ structural Bench.paths rfl
  exact (targets _ third_mem c.maxRpm third).2

/-- Away from an inert clamp, first polls at the upper threshold or inside the ramp
tell the raw floor from the clamped one. -/
theorem inert_of_drivesClamped (valid : c.validate hw = .ok ())
    (fits : hw.2 + slewMaxRpmPerPoll ≤ u32Max) (drives : DrivesClamped hw c) : c.ClampInert hw := by
  obtain ⟨structural, band⟩ := Config.validate_ok_iff.mp valid
  obtain ⟨raised, -⟩ := Config.validate_ok_iff.mp (Config.validate_clamped valid)
  have ceiling := drives.ceiling structural
  by_cases floor : hw.1 ≤ c.minRpm
  · exact .inl ⟨floor, ceiling⟩
  · have first := drives.first
    rw [Config.clamped_of_below (by omega) ceiling] at raised first
    have low : c.minRpm + slewMaxRpmPerPoll ≤ u32Max := by omega
    have high : hw.1 + slewMaxRpmPerPoll ≤ u32Max := by omega
    have bounded : c.maxRpm ≤ u32Max := by omega
    have moves : 0 < slewMaxRpmPerPoll := by decide
    have reach : c.maxRpm ≤ c.minRpm + slewMaxRpmPerPoll := by
      have hot := first (c.maxC * 1000)
      rw [Config.firstTarget_hot structural low, Config.firstTarget_hot raised high,
        clamp_of_le (Nat.le_trans (Nat.min_le_right _ _) ceiling),
        clamp_of_le (Nat.le_trans (Nat.min_le_right _ _) ceiling)] at hot
      change max hw.1 (min (c.minRpm + slewMaxRpmPerPoll) c.maxRpm)
        = max hw.1 (min (hw.1 + slewMaxRpmPerPoll) c.maxRpm) at hot
      omega
    have step : c.maxRpm = hw.1 + 1 := by
      apply Decidable.byContradiction
      intro wider
      have fine : 1000 ≤ ((c.maxC - c.highC) * 1000).toNat := by
        have := structural.high_lt_max
        omega
      have two : 2 ≤ c.maxRpm - hw.1 := by omega
      have narrow : c.maxRpm - hw.1 < slewMaxRpmPerPoll := by omega
      have deeper : 0 < hw.1 - c.minRpm := by omega
      obtain ⟨num, inside, once, under⟩ := ramp_apart fine two narrow deeper
      have warm := first (c.highC * 1000 + num)
      rw [Config.firstTarget_warm structural low bounded inside,
        Config.firstTarget_warm raised high bounded inside] at warm
      change clamp hw.1 hw.2 (min (c.minRpm + slewMaxRpmPerPoll)
          (c.minRpm + num * (c.maxRpm - c.minRpm) / ((c.maxC - c.highC) * 1000).toNat))
        = clamp hw.1 hw.2 (min (hw.1 + slewMaxRpmPerPoll)
          (hw.1 + num * (c.maxRpm - hw.1) / ((c.maxC - c.highC) * 1000).toNat)) at warm
      rw [show c.maxRpm - c.minRpm = c.maxRpm - hw.1 + (hw.1 - c.minRpm) by omega, once] at warm
      generalize num * _ / _ = climbed at warm under
      rw [clamp_of_le (by omega), clamp_of_le (by omega)] at warm
      omega
    exact .inr ⟨ceiling, by omega, step, reach, by omega, Nat.le_refl _, by omega⟩

/-- A validated config drives as its clamped one exactly if the clamp is inert; the
converse is over hardware whose ceiling a slew step does not overflow. -/
theorem clamp_drives (valid : c.validate hw = .ok ()) :
    (c.ClampInert hw → DrivesClamped hw c) ∧
      (hw.2 + slewMaxRpmPerPoll ≤ u32Max → DrivesClamped hw c → c.ClampInert hw) :=
  ⟨drivesClamped_of_inert valid, inert_of_drivesClamped valid⟩

end Apart

section Overdriven

attribute [local instance] Bench.json

theorem clamp_drives_inside :
    DrivesClamped (1200, 7200) Bench.config.config ∧
      Bench.config.config.ClampInert (1200, 7200) := by
  have inside : Bench.config.config.ClampInert (1200, 7200) := .inl ⟨by decide, by decide⟩
  have drives := (clamp_drives Bench.config_valid).1 inside
  exact ⟨drives, (clamp_drives Bench.config_valid).2 (by decide) drives⟩

/-- A ceiling beyond the hardware's. -/
def overdriven : Config := { Bench.config.config with maxRpm := 9000 }

/-- A bench daemon in Curve at 90 °C. -/
def hotDaemon (c : Config) : Supervisor Bench :=
  (wired { Bench.healthy with restSensors := Bench.reading 90000 } (.ofConfig c) .curve
    Bench.paths).start Bench.quiet

/-- The third hot poll publishes a target that the hardware does not have, and that
the clamped config would not publish. -/
theorem clamp_drives_escalation :
    overdriven.validate (1200, 7200) = .ok () ∧
      ((drive.trace [Bench.quiet, Bench.quiet, Bench.quiet] (hotDaemon overdriven)).map
        (·.targetRpm)) = [some 1950, some 2700, some 9000] ∧
      ((drive.trace [Bench.quiet, Bench.quiet, Bench.quiet]
        (hotDaemon (overdriven.clamped (1200, 7200)))).map (·.targetRpm))
        = [some 1950, some 2700, some 7200] ∧
      ¬ DrivesClamped (1200, 7200) overdriven := by
  refine ⟨rfl, by decide, by decide, fun drives => ?_⟩
  obtain ⟨raw, clamped, built, -, runs⟩ := drives Bench
    { Bench.healthy with restSensors := Bench.reading 90000 } .curve Bench.paths rfl
  obtain ⟨-, rfl⟩ := new_eq_ok.mp built
  have third : some 9000 ∈ (drive.trace [Bench.quiet, Bench.quiet, Bench.quiet]
      (hotDaemon overdriven)).map (·.targetRpm) := by decide
  obtain ⟨o, mem, published⟩ := List.mem_map.mp third
  have inside := (runs Bench.quiet [Bench.quiet, Bench.quiet, Bench.quiet]).2.2 o mem 9000 published
  exact absurd inside.2 (by decide)

end Overdriven

end Supervisor

end Afanctl
