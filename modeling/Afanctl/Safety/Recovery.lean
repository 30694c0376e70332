import Afanctl.Safety.Latch
import Afanctl.Safety.Settling

/-!
How the daemon comes back.

It may have let go of the fan for any reason. Once the fan works again, a pending release ends
with the next poll, and the next command to drive brings the daemon back to where a fan that
works never lets it go.
-/

namespace Afanctl

open Afanctl.Lib

/-! ### A fan let go -/

namespace Custody

variable {c : Custody}

theorem idle_of_not_driving (idle : ¬ c.Driving) :
    c.mode = .observe ∨ c.monitorOnly = true := by
  by_cases mode : c.mode = .observe
  · exact .inl mode
  · exact .inr (eq_true_of_ne_false fun trusted => idle ⟨mode, trusted⟩)

/-- With nothing to release, what does not drive owns nothing. -/
theorem Sound.free_of_settled (sound : c.Sound) (idle : ¬ c.Driving)
    (settled : c.autoRestorePending = false) : c.manualArmed = false := by
  cases armed : c.manualArmed with
  | false => rfl
  | true => exact absurd (settled.symm.trans (sound.owned armed idle)) nofun

theorem Sound.released_of_settled (sound : c.Sound) (idle : ¬ c.Driving)
    (settled : c.autoRestorePending = false) : c.released = c := by
  have free : c.manualArmed = false := sound.free_of_settled idle settled
  have unwritten : c.lastWritten = none := by
    cases written : c.lastWritten with
    | none => rfl
    | some rpm => exact absurd (free.symm.trans (sound.written (by rw [written]; rfl))) nofun
  cases c
  cases free
  cases settled
  cases unwritten
  rfl

end Custody

namespace Actuator

variable {σ : Type} [Smc σ]

/-- The fan is the firmware's, and the daemon knows it and what the tach last read. -/
structure Rests (A : Actuator σ) (fan : Fan) (d : Daemon σ) : Prop where
  shows : A.shows d.smc fan
  hwMin : d.hwMin = A.lo
  hwMax : d.hwMax = A.hi
  auto : fan.mode = .auto
  settled : d.autoRestorePending = false
  free : d.manualArmed = false
  unwritten : d.lastWritten = none
  read : d.prevActual = some fan.seen
  window : d.stallPolls = 0

variable {A : Actuator σ} {fan : Fan} {d : Daemon σ} {p : Frame σ}

/-- Once it is to drive, it tends the fan. -/
theorem Rests.tends (rests : A.Rests fan d) (trusted : d.monitorOnly = false)
    (control : d.mode ≠ .observe) : A.Tends fan d := by
  have held : fan.held = none := fan.held_of_auto rests.auto
  constructor
  · constructor
    · exact rests.shows
    · exact rests.hwMin
    · exact rests.hwMax
    · exact trusted
    · exact rests.settled
    · rw [rests.free, rests.auto]
      exact ⟨nofun, nofun⟩
    · exact fun observes => absurd observes control
    · exact .inr rests.read
    · rw [rests.window]
      exact Nat.zero_le 1
  · rw [rests.unwritten, held]
  · rw [held]
    nofun

/-- A command to drive ends the latch, and the rest. -/
theorem Rests.applyMode (rests : A.Rests fan p.toDaemon) (proven : p.l2Absent = false)
    {requested : RunMode} (control : requested ≠ .observe) :
    A.Tends fan (p.applyMode requested).toDaemon ∧ (p.applyMode requested).mode = requested := by
  have heeded : ¬ (p.l2Absent = true ∧ requested ≠ .observe) := by
    rintro ⟨absent, -⟩
    exact absurd (proven.symm.trans absent) nofun
  have rearmed : A.Rests fan (p.rearm requested).toDaemon ∧
      (p.rearm requested).monitorOnly = false := by
    unfold Frame.rearm
    split
    · exact ⟨{ rests with settled := rfl }, rfl⟩
    · next unlatched =>
        exact ⟨rests, eq_false_of_ne_true fun latched => unlatched ⟨latched, control⟩⟩
  obtain ⟨rested, trusted⟩ := rearmed
  unfold Frame.applyMode
  simp only
  rw [if_neg heeded]
  split
  · next same => exact ⟨rested.tends trusted (same ▸ control), same.symm⟩
  · exact ⟨Rests.tends { rested with } trusted control, rfl⟩

/-! ### A release that ends -/

/-- Over a working fan the attempt of a pending release succeeds. -/
theorem release_ends (shown : A.shows p.smc fan) (sound : p.Sound) (idle : ¬ p.Driving)
    (known : fan.mode = .manual → p.manualArmed = true) :
    ∃ fan', A.shows p.autoRestoreRetry.smc fan' ∧ fan'.mode = .auto ∧
      p.autoRestoreRetry.toCustody = p.toCustody.released := by
  cases pending : p.autoRestorePending with
  | false =>
      have auto : fan.mode = .auto := by
        cases mode : fan.mode with
        | auto => rfl
        | manual =>
            exact absurd ((sound.free_of_settled idle pending).symm.trans (known mode)) nofun
      rw [Frame.autoRestoreRetry_idle pending]
      exact ⟨fan, shown, auto, (sound.released_of_settled idle pending).symm⟩
  | true =>
      obtain ⟨rpm, answer, looked, -⟩ := A.readFan shown
      cases mode : fan.mode with
      | auto =>
          rw [mode] at answer
          rw [Frame.autoRestoreRetry_seen pending answer]
          refine ⟨{ fan with seen := rpm }, ?_, mode, by simp⟩
          simpa using looked
      | manual =>
          rw [mode] at answer
          obtain ⟨restored, target, released⟩ := A.setMode .auto looked
          have unseen : ∀ rpm', (Smc.readFan p.smc).1 ≠ .ok ⟨rpm', .auto⟩ := by
            intro rpm' seen
            rw [answer] at seen
            cases seen
          rw [Frame.autoRestoreRetry_restored pending unseen restored]
          refine ⟨{ fan with seen := rpm, mode := .auto, target := target }, ?_, rfl, by simp⟩
          exact released

end Actuator

namespace Supervisor

variable {σ : Type} [Smc σ] [SerdeJson] {A : Actuator σ} {fan : Fan} {host : Host}
  {s : Supervisor σ}

/-- The release attempt of a daemon that does not drive, and the sensor read after it. -/
theorem sensed_released (shown : A.shows s.smc fan) (sound : s.Sound) (idle : ¬ s.Driving)
    (known : fan.mode = .manual → s.manualArmed = true) (stale : s.freshCommand host = none) :
    ∃ free, A.shows (s.sensed host).2.smc free ∧ free.mode = .auto ∧
      (s.sensed host).2.toCustody = s.toCustody.released := by
  obtain ⟨custody, smc⟩ := commanded_unmoved stale
  rw [← custody] at sound idle
  obtain ⟨free, release, auto, released⟩ := A.release_ends (smc ▸ shown) sound idle fun manual =>
    (congrArg Custody.manualArmed custody).trans (known manual)
  obtain ⟨readings, answer, read⟩ := A.readSensors release
  refine ⟨free, ?_, auto, ?_⟩
  · rw [sensed_ok answer]
    exact read
  · rw [sensed_toCustody, ← custody]
    exact released

/-- A poll that observes with no fan owned looks at it, and no more. -/
theorem checked_of_observe {seen : FanState} (observes : (s.decided host).1 = .observe)
    (free : (s.sensed host).2.manualArmed = false)
    (look : (Smc.readFan (s.sensed host).2.smc).1 = .ok seen) :
    s.checked host
      = ({ (s.sensed host).2.looked seen with stallPolls := 0, offTargetPolls := 0 }, true) := by
  rw [checked, acted_of_observe observes]
  exact Frame.l1Poll_free look free

/-- A poll that tells a daemon that does not drive nothing new leaves the fan to the firmware. -/
theorem next_rests (shown : A.shows s.smc fan) (floor : s.hwMin = A.lo) (ceiling : s.hwMax = A.hi)
    (sound : s.Sound) (idle : ¬ s.Driving) (known : fan.mode = .manual → s.manualArmed = true)
    (stale : s.freshCommand host = none) :
    ∃ fan', A.Rests fan' (s.next host).toDaemon ∧
      (s.next host).toCustody = s.toCustody.released := by
  obtain ⟨free, read, auto, released⟩ := sensed_released shown sound idle known stale
  have observes : (s.decided host).1 = .observe := by
    apply controllerStep_observe
    rw [released]
    exact Custody.idle_of_not_driving idle
  obtain ⟨rpm, look, looked, -⟩ := A.readFan read
  have checked := checked_of_observe observes (congrArg Custody.manualArmed released) look
  have left : (s.next host).toCustody = s.toCustody.released := by
    rw [next_toCustody, checked]
    exact released
  have band := next_band host s
  obtain ⟨pings, polls, history, eq⟩ := next_eq host s
  refine ⟨{ free with seen := rpm }, ?_, left⟩
  constructor
  · rw [next_smc, checked]
    exact looked
  · exact (congrArg Band.hwMin band).trans floor
  · exact (congrArg Band.hwMax band).trans ceiling
  · exact auto
  · exact congrArg Custody.autoRestorePending left
  · exact congrArg Custody.manualArmed left
  · exact congrArg Custody.lastWritten left
  · rw [eq, checked]
    rfl
  · rw [eq, checked]

/-- So does any number of them. -/
theorem run_rests (shown : A.shows s.smc fan) (floor : s.hwMin = A.lo) (ceiling : s.hwMax = A.hi)
    (sound : s.Sound) (idle : ¬ s.Driving) (known : fan.mode = .manual → s.manualArmed = true)
    {waits : List Host} (waited : waits ≠ [])
    (quiet : loop.Along (fun host s => s.freshCommand host = none) waits s) :
    ∃ fan', A.Rests fan' (loop.run waits s).toDaemon ∧
      (loop.run waits s).toCustody = s.toCustody.released := by
  induction waits generalizing s fan with
  | nil => exact absurd rfl waited
  | cons host waits ih =>
      obtain ⟨free, rests, left⟩ := next_rests shown floor ceiling sound idle known quiet.1
      by_cases last : waits = []
      · subst last
        exact ⟨free, rests, left⟩
      · have still : ¬ (s.next host).Driving := by
          rw [left]
          exact idle
        have unheld : free.mode = .manual → (s.next host).manualArmed = true := by
          rw [rests.auto]
          nofun
        obtain ⟨free', rests', left'⟩ := ih rests.shows rests.hwMin rests.hwMax
          (next_sound host sound) still unheld last quiet.2
        refine ⟨free', rests', left'.trans ?_⟩
        rw [left]
        rfl

/-- A fan that works again. The daemon may be latched or in Observe for any reason, with a release
pending or not; only a fan in Manual is one that it knows it owns. It is told nothing new for one
poll at least: from that poll on, and as long as that is so, the fan is the firmware's. And from
the poll on that then brings a command to drive, if the death path is proven, every poll is
verified, the fan is not given up any more, and it is held at what the reports decide. -/
theorem recommand_recovers (shown : A.shows s.smc fan) (floor : s.hwMin = A.lo)
    (ceiling : s.hwMax = A.hi) (sound : s.Sound) (idle : ¬ s.Driving)
    (known : fan.mode = .manual → s.manualArmed = true) {waits : List Host} (waited : waits ≠ [])
    (quiet : loop.Along (fun host s => s.freshCommand host = none) waits s) :
    let rested := loop.run waits s
    (∃ fan', A.shows rested.smc fan' ∧ fan'.held = none) ∧
      (s.l2Absent = false → ∀ host requested, rested.freshCommand host = some requested →
        requested ≠ .observe → ∀ hosts,
          let told := (reports.trace (host :: hosts) rested).map Prod.fst
          let ends := loop.run (host :: hosts) rested
          (rested.next host).mode = requested ∧ ends.monitorOnly = false ∧
            ends.autoRestorePending = false ∧ (∀ r ∈ told, r.verified = true) ∧
            ∃ fan', A.shows ends.smc fan' ∧
              fan'.held = told.foldl (StepReport.holds A.lo A.hi s.cfgMaxRpm) none) := by
  intro rested
  obtain ⟨free, rests, left⟩ := run_rests shown floor ceiling sound idle known waited quiet
  refine ⟨⟨free, rests.shows, free.held_of_auto rests.auto⟩, ?_⟩
  intro proven host requested fresh control hosts told ends
  obtain ⟨raw, -, eq⟩ := commanded_fresh fresh
  have armed : ({ (rested.frame host).pingWatchdog with lastCmd := some raw } : Frame σ).l2Absent
      = false := (congrArg Custody.l2Absent left).trans proven
  obtain ⟨commanded, mode⟩ := Actuator.Rests.applyMode
    (p := { (rested.frame host).pingWatchdog with lastCmd := some raw }) { rests with } armed
    control
  rw [← eq] at commanded mode
  obtain ⟨fan', tended, held, verified, kept⟩ := tends_of_commanded commanded
  obtain ⟨fan'', tends, folded, passed⟩ := run_tends tended hosts
  have top : rested.cfgMaxRpm = s.cfgMaxRpm := congrArg Band.cfgMaxRpm (run_band waits)
  have top' : (rested.next host).cfgMaxRpm = s.cfgMaxRpm :=
    (congrArg Band.cfgMaxRpm (next_band host rested)).trans top
  refine ⟨kept.trans mode, tends.trusted, tends.settled, ?_, fan'', tends.shows, ?_⟩
  · intro r mem
    rcases List.mem_cons.mp mem with rfl | mem
    · exact verified
    · exact passed r mem
  · rw [folded, held, free.held_of_auto rests.auto, top, top']
    rfl

end Supervisor

section Concrete

attribute [local instance] Bench.json

namespace Supervisor

/-- The daemon of the lagging fan, after three polls without its files. -/
def strayed : Supervisor (SysfsSmc Plant) :=
  loop.run [Bench.quiet, Bench.quiet, Bench.quiet]
    { adapterDaemon with
      smc := { laggingAdapter with
        world := { device := { laggingPlant with fanDir := "/gone" }, journal := [] } } }

/-- The files are back. -/
def regained : Supervisor (SysfsSmc Plant) := { strayed with smc := laggingAdapter }

theorem regained_sound : regained.Sound := by
  constructor
  · decide +kernel
  · decide +kernel
  · decide +kernel
  · decide +kernel

/-- It is latched with a release pending, and holds 5000 rpm when told to. -/
theorem recommand_recovers_regained :
    (regained.monitorOnly = true ∧ regained.autoRestorePending = true) ∧
      ∃ fan, SysfsSmc.Spins 1200 7200 [⟨"Core 0", some ⟨70000⟩⟩]
          (loop.run [Bench.commanding Bench.holdText, Bench.quiet]
            (loop.run [Bench.quiet] regained)).smc fan ∧
        fan.held = some 5000 := by
  have latched : regained.monitorOnly = true ∧ regained.autoRestorePending = true := by
    decide +kernel
  have proven : regained.l2Absent = false := by decide +kernel
  have floor : regained.hwMin = 1200 := by decide +kernel
  have ceiling : regained.hwMax = 7200 := by decide +kernel
  have spinning : SysfsSmc.Spins 1200 7200 [⟨"Core 0", some ⟨70000⟩⟩] regained.smc
      ⟨.auto, 0, 2000⟩ := lagging_spins
  have quiet : loop.Along (fun host s => s.freshCommand host = none) [Bench.quiet] regained := by
    decide +kernel
  have fresh : (loop.run [Bench.quiet] regained).freshCommand (Bench.commanding Bench.holdText)
      = some (.hold 5000) := by
    decide +kernel
  have told : ((reports.trace [Bench.commanding Bench.holdText, Bench.quiet]
      (loop.run [Bench.quiet] regained)).map Prod.fst).foldl
        (StepReport.holds 1200 7200 regained.cfgMaxRpm) none = some 5000 := by
    decide +kernel
  obtain ⟨-, returns⟩ := recommand_recovers
    (A := SysfsSmc.actuator 1200 7200 (by decide) [⟨"Core 0", some ⟨70000⟩⟩]) spinning
    floor ceiling regained_sound (Custody.not_driving latched.1) nofun
    (List.cons_ne_nil Bench.quiet []) quiet
  obtain ⟨-, -, -, -, fan, spins, held⟩ :=
    returns proven (Bench.commanding Bench.holdText) (.hold 5000) fresh nofun [Bench.quiet]
  exact ⟨latched, fan, spins, held.trans told⟩

end Supervisor

end Concrete

end Afanctl
