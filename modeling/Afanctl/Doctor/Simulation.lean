import Afanctl.Doctor.Compare
import Afanctl.Policy.Overflow
import Afanctl.Safety.Clamp
import Afanctl.Safety.Slew
import Afanctl.Supervisor.Served

/-!
`doctor --compare` next to the daemon it simulates.

The comparison steps the daemon's own controller and reports what that decides. The daemon
clamps the decided speed to the hardware band before it writes it, and the comparison does
not. So they report one rpm where the curve stays inside the band; for a config whose curve
leaves it there are traces on which they differ.
-/

namespace Afanctl

open Afanctl.Lib

theorem ourRpm_eq_speed (cfg : ResolvedConfig) (decision : Decision) :
    ourRpm cfg decision = decision.speed cfg.config.maxRpm := by
  cases decision <;> rfl

theorem hottest_compareReadings (tEff : Option MilliC) : hottest (compareReadings tEff) = tEff := by
  cases tEff <;> rfl

/-- The curve reads nothing but the hottest reading. -/
theorem Controller.stepCurve_congr {readings readings' : List SensorReading} (c : Controller)
    (same : hottest readings = hottest readings') :
    c.stepCurve readings = c.stepCurve readings' := by
  simp only [Controller.stepCurve, Controller.absorb, same]

namespace Supervisor

section Replay

variable {σ : Type} [Smc σ] [SerdeJson]

/-- The rpm a poll commands: the speed of its decision, clamped as `writeControlled` does. -/
def commandedRpm (host : Host) (s : Supervisor σ) : Option Nat :=
  ((s.decided host).1.speed s.cfgMaxRpm).map (clamp s.hwMin s.hwMax)

/-- The polls of a daemon next to the samples of a trace, with the rpm it commands. -/
def replay : Machine (Host × (Option MilliC × Nat)) (Supervisor σ) (Option Nat) where
  next poll s := s.next poll.1
  out poll s := [s.commandedRpm poll.1]

/-- A poll in Curve mode that sees the temperature of its sample, over a backend whose calls
succeed and whose fan does not stall. -/
structure Replayed (poll : Host × (Option MilliC × Nat)) (s : Supervisor σ) : Prop where
  mode : (s.sensed poll.1).2.mode = .curve
  fed : hottest (s.sensed poll.1).1 = poll.2.1
  answered : ∀ e ∈ s.calls poll.1, e.answered
  turning : ¬ (s.acted poll.1).1.StallsOut

instance (poll : Host × (Option MilliC × Nat)) (s : Supervisor σ) :
    Decidable (s.Replayed poll) :=
  decidable_of_iff ((s.sensed poll.1).2.mode = .curve ∧ hottest (s.sensed poll.1).1 = poll.2.1 ∧
      (∀ e ∈ s.calls poll.1, e.answered) ∧ ¬ (s.acted poll.1).1.StallsOut)
    ⟨fun ⟨mode, fed, answered, turning⟩ => ⟨mode, fed, answered, turning⟩,
      fun ⟨mode, fed, answered, turning⟩ => ⟨mode, fed, answered, turning⟩⟩

omit [SerdeJson] in
/-- A daemon in Curve mode as its loop begins, built from `cfg` on the hardware band `hw`. -/
structure Curving (hw : Nat × Nat) (cfg : ResolvedConfig) (s : Supervisor σ) : Prop where
  built : ∃ smc paths built, (Smc.hwMinRpm smc, Smc.hwMaxRpm smc) = hw ∧
    Supervisor.new smc cfg .curve paths = .ok built ∧ (s = built ∨ ∃ boot, s = built.start boot)
  session : s.InCurve

/-- The comparison reports the rpm that a daemon on the same temperatures commands: over
every backend with these limits and every trace. -/
def Compares (hw : Nat × Nat) (c : Config) : Prop :=
  ∀ (σ : Type) [Smc σ] (s : Supervisor σ), Curving hw (.ofConfig c) s →
    ∀ polls, replay.Along Replayed polls s → ∀ dropped,
      (compareFromTrace (polls.map (·.2)) (.ofConfig c) dropped).rows.map (·.ourRpm)
        = replay.trace polls s

/-! ### The daemon follows the comparison's controller -/

/-- What holds between the polls of a replay: the daemon holds the comparison's controller,
and is not latched. -/
structure Tracks (hw : Nat × Nat) (top : Nat) (c : Controller) (s : Supervisor σ) : Prop where
  counting : ∃ previous flags, s.Counting previous flags
  control : s.monitorOnly = false
  controller : s.controller = c
  band : s.band = ⟨hw.1, hw.2, top⟩

omit [SerdeJson] in
theorem Curving.tracks {hw : Nat × Nat} {cfg : ResolvedConfig} {s : Supervisor σ}
    (curving : s.Curving hw cfg) : s.Tracks hw cfg.config.maxRpm (Controller.new cfg) := by
  obtain ⟨⟨smc, paths, built, rfl, new, begins⟩, -, control⟩ := curving
  obtain ⟨-, rfl⟩ := new_eq_ok.mp new
  rcases begins with rfl | ⟨boot, rfl⟩
  · exact ⟨⟨_, _, (Launched.built new).counting⟩, control, rfl, rfl⟩
  · exact ⟨⟨_, _, (Launched.started boot new).counting⟩, control, rfl, start_band boot _⟩

variable {hw : Nat × Nat} {top : Nat} {c : Controller} {s : Supervisor σ}
  {poll : Host × (Option MilliC × Nat)}

/-- A replayed poll decides as the comparison does on its sample. -/
theorem Tracks.decided (tracks : s.Tracks hw top c) (replayed : s.Replayed poll) :
    s.decided poll.1 = c.stepCurve (compareReadings poll.2.1) := by
  obtain ⟨previous, flags, counting⟩ := tracks.counting
  obtain ⟨-, custody, -⟩ := sensed_steady counting.sound counting.steady replayed.answered
  have quiet : (s.sensed poll.1).2.monitorOnly = false := by
    cases latched : (s.sensed poll.1).2.monitorOnly with
    | false => rfl
    | true =>
        have commanded := commanded_log_subset poll.1 counting.sound
        have kept := ((commanded_obeys poll.1 s).steady
          (fun e mem => replayed.answered e (commanded mem)) counting.steady).2
        rw [custody] at latched
        exact Bool.noConfusion (tracks.control.symm.trans (kept latched))
  rw [decided_curve ⟨replayed.mode, quiet⟩, tracks.controller]
  exact c.stepCurve_congr (replayed.fed.trans (hottest_compareReadings _).symm)

/-- So it commands the comparison's rpm, clamped, and goes on tracking it. -/
theorem Tracks.next (tracks : s.Tracks hw top c) (replayed : s.Replayed poll) :
    s.commandedRpm poll.1
        = ((c.stepCurve (compareReadings poll.2.1)).1.speed top).map (clamp hw.1 hw.2) ∧
      (s.next poll.1).Tracks hw top (c.stepCurve (compareReadings poll.2.1)).2 := by
  have decided := tracks.decided replayed
  have hwMin : s.hwMin = hw.1 := congrArg Band.hwMin tracks.band
  have hwMax : s.hwMax = hw.2 := congrArg Band.hwMax tracks.band
  have ceiling : s.cfgMaxRpm = top := congrArg Band.cfgMaxRpm tracks.band
  obtain ⟨previous, flags, counting⟩ := tracks.counting
  obtain ⟨counted, latches⟩ := next_counting counting replayed.answered
  refine ⟨by rw [commandedRpm, decided, hwMin, hwMax, ceiling], ⟨_, _, counted⟩, ?_, ?_, ?_⟩
  · cases latched : (s.next poll.1).monitorOnly with
    | false => rfl
    | true =>
        -- a latch is a full window, and the fan turns
        obtain ⟨stuck, full⟩ := latches.mp ⟨tracks.control, latched⟩
        obtain ⟨-, window, -⟩ := acted_carries counting.sound counting.steady replayed.answered
        obtain ⟨count, seen⟩ := Prod.mk.inj window
        refine absurd ⟨?_, ?_⟩ replayed.turning
        · rw [seen, counting.seen]
          exact stuck
        · rw [count, counting.window]
          unfold stallPollsMax at full ⊢
          omega
  · rw [next_controller, decided]
  · exact (next_band poll.1 s).trans tracks.band

/-- Over a whole replay, the daemon commands what the comparison reports, clamped. -/
theorem Tracks.trace {cfg : ResolvedConfig} {polls : List (Host × (Option MilliC × Nat))}
    (tracks : s.Tracks hw cfg.config.maxRpm c) (along : replay.Along Replayed polls s) :
    replay.trace polls s
      = ((compared cfg).trace (polls.map (·.2)) c).map (Option.map (clamp hw.1 hw.2)) := by
  induction polls generalizing s c with
  | nil => rfl
  | cons poll polls ih =>
      obtain ⟨commands, onward⟩ := tracks.next along.1
      have rest := ih onward along.2
      show s.commandedRpm poll.1 :: replay.trace polls (s.next poll.1) = _
      rw [commands, rest, ← ourRpm_eq_speed]
      rfl

end Replay

end Supervisor

/-! ### What the comparison reports -/

/-- At the upper threshold the comparison reports the ceiling once the overshoot guard
fires. -/
theorem compared_escalates (cfg : ResolvedConfig) {c : Controller} {t : MilliC} {k : Nat}
    (thresholds : Thresholds c.highC c.maxC c.lowC) (hot : c.maxC * 1000 ≤ t.val)
    (fires : c.overshootStreak + k + 1 = overshootPolls) :
    some cfg.config.maxRpm ∈ (compared cfg).trace (List.replicate (k + 1) (some t, 0)) c := by
  induction k generalizing c with
  | zero =>
      have short : c.overshootStreak < u32Max := by unfold overshootPolls u32Max at *; omega
      obtain ⟨third, -⟩ := Controller.stepCurve_counts (hottest_compareReadings (some t))
        thresholds hot short
      rw [List.replicate_succ, compared_cons, third (by omega)]
      exact List.mem_cons_self
  | succ k ih =>
      have short : c.overshootStreak < u32Max := by unfold overshootPolls u32Max at *; omega
      obtain ⟨-, slewRpm, ramping, counted⟩ := Controller.stepCurve_counts
        (hottest_compareReadings (some t)) thresholds hot short
      have later : c.overshootStreak + 1 + k + 1 = overshootPolls := by omega
      rw [List.replicate_succ, compared_cons, counted]
      exact List.mem_cons_of_mem _ (ih thresholds hot later)

/-- A bench whose sensor reads the samples of `script` and whose fan stands still. -/
def Bench.still (hw : Nat × Nat) (script : List (Option MilliC)) : Bench where
  hwMin := hw.1
  hwMax := hw.2
  restSensors := []
  restFan := ⟨0, .manual⟩
  sensors := script.map fun tEff => .ok (compareReadings tEff)
  fan := []
  speed := []
  mode := []

/-- It answers every call, and only a sensor read takes a sample. -/
theorem Serve.still {hw : Nat × Nat} {script : List (Option MilliC)} {b b' : Bench}
    {es : List Event} (serve : Serve b es b') (still : b = .still hw script) :
    (∃ rest, b' = .still hw rest) ∧ (∀ e ∈ es, e.answered) ∧ ((∃ e ∈ es, e.senses) ∨ b' = b) := by
  subst still
  cases serve with
  | readSensors site custody =>
      cases script with
      | nil =>
          exact ⟨⟨[], rfl⟩, fun e mem => List.mem_singleton.mp mem ▸ rfl, .inr rfl⟩
      | cons tEff script =>
          exact ⟨⟨script, rfl⟩, fun e mem => List.mem_singleton.mp mem ▸ rfl,
            .inl ⟨_, List.mem_singleton_self _, rfl⟩⟩
  | readFan | writeSpeed | setMode =>
      exact ⟨⟨script, rfl⟩, fun e mem => List.mem_singleton.mp mem ▸ rfl, .inr rfl⟩

section Still

variable {hw : Nat × Nat} {script : List (Option MilliC)} {b' : Bench} {es : List Event}

theorem Serves.still_answered (serves : Serves (.still hw script) es b') :
    ∀ e ∈ es, e.answered :=
  serves.emits (I := fun b => ∃ script, b = .still hw script)
    (fun serve ⟨_, still⟩ => (serve.still still).1)
    (fun serve ⟨_, still⟩ => (serve.still still).2.1) ⟨script, rfl⟩

theorem Serves.still_blind (serves : Serves (.still hw script) es b')
    (blind : ∀ e ∈ es, ¬ e.senses) : b' = .still hw script := by
  have moves := serves.emits_or_related (Q := fun e => e.senses)
    (R := fun a b => ∀ script, a = .still hw script → b = a) (fun _ _ _ => rfl) ?_ ?_
  · rcases moves with ⟨e, mem, senses⟩ | kept
    · exact absurd senses (blind e mem)
    · exact kept script rfl
  · intro a b c first second script still
    have same := first script still
    exact (second script (same.trans still)).trans same
  · intro a os b serve
    by_cases plays : ∃ script, a = .still hw script
    · obtain ⟨script, still⟩ := plays
      exact (serve.still still).2.2.imp id fun kept _ _ => kept
    · exact .inr fun script still => absurd ⟨script, still⟩ plays

end Still

namespace Supervisor

section Apart

variable [SerdeJson] {hw : Nat × Nat} {script : List (Option MilliC)} {tEff : Option MilliC}
  {s : Supervisor Bench} {n : Nat}

/-- In Curve over that backend, after `n` quiet polls. -/
structure Idling (hw : Nat × Nat) (script : List (Option MilliC)) (n : Nat)
    (s : Supervisor Bench) : Prop where
  smc : s.smc = .still hw script
  session : s.InCurve
  counting : ∃ previous flags, s.Counting previous flags ∧ flags.length = n

/-- A quiet poll on a sample of the script. -/
def idlePoll (tEff : Option MilliC) : Host × (Option MilliC × Nat) := (Bench.quiet, tEff, 0)

/-- Before the stall window can fill, a quiet poll is a replayed one. -/
theorem Idling.replayed (idling : Idling hw (tEff :: script) n s)
    (few : n + 1 < stallPollsMax) : s.Replayed (idlePoll tEff) := by
  obtain ⟨previous, flags, counting, length⟩ := idling.counting
  have served := calls_served Bench.quiet s
  rw [idling.smc] at served
  have answered : ∀ e ∈ s.calls Bench.quiet, e.answered := served.still_answered
  obtain ⟨_, _, _, _, _, _, eq⟩ := sensed_unapplied (s := s) quiet_unapplied counting.steady.idle
  refine ⟨?_, ?_, answered, fun stalls => ?_⟩
  · show (s.sensed Bench.quiet).2.mode = .curve
    rw [eq]
    exact idling.session.1
  · show hottest (s.sensed Bench.quiet).1 = tEff
    rw [eq, idling.smc]
    exact hottest_compareReadings tEff
  · obtain ⟨-, window, -⟩ := acted_carries counting.sound counting.steady answered
    have count : (s.acted Bench.quiet).1.stallPolls = s.stallPolls := congrArg Prod.fst window
    have full : stallPollsMax ≤ (s.acted Bench.quiet).1.stallPolls + 1 := stalls.2
    have short := streak_le_length flags
    have low := Nat.mod_le (streak flags) stallPollsMax
    rw [count, counting.window] at full
    omega

/-- It takes one sample. -/
theorem Idling.next (idling : Idling hw (tEff :: script) n s) (few : n + 1 < stallPollsMax) :
    Idling hw script (n + 1) (s.next Bench.quiet) := by
  obtain ⟨previous, flags, counting, length⟩ := idling.counting
  have replayed := idling.replayed few
  have tracks : s.Tracks (s.hwMin, s.hwMax) s.cfgMaxRpm s.controller :=
    ⟨⟨_, _, counting⟩, idling.session.2, rfl, rfl⟩
  refine ⟨?_, ⟨?_, (tracks.next replayed).2.control⟩, _, _, (next_counting counting
    replayed.answered).1, ?_⟩
  · obtain ⟨es, blind, serves⟩ := acts_served Bench.quiet s
    obtain ⟨_, _, _, _, _, _, eq⟩ := sensed_unapplied (s := s) quiet_unapplied counting.steady.idle
    have read : (s.sensed Bench.quiet).2.smc = .still hw script := by
      rw [eq]
      show (Smc.readSensors s.smc).2 = _
      rw [idling.smc]
      rfl
    rw [read] at serves
    exact serves.still_blind blind
  · rw [← commanded_mode Bench.quiet counting.sound]
    have stale : s.freshCommand Bench.quiet = none := rfl
    obtain ⟨_, _, _, eq⟩ := commanded_stale stale
    rw [eq]
    exact idling.session.1
  · rw [List.length_append, length]
    rfl

theorem Idling.along (idling : Idling hw script n s) (few : n + script.length < stallPollsMax) :
    replay.Along Replayed (script.map idlePoll) s := by
  induction script generalizing n s with
  | nil => trivial
  | cons tEff script ih =>
      rw [List.length_cons] at few
      have now : n + 1 < stallPollsMax := by omega
      exact ⟨idling.replayed now, ih (idling.next now) (by omega)⟩

variable {c : Config}

/-- If the comparison is right, what it reports of a short trace lies in the hardware band. -/
theorem Compares.reported_mem (compares : Compares hw c) (valid : c.validate hw = .ok ())
    (few : script.length < stallPollsMax) {r : Nat}
    (reported : some r ∈ (compared (.ofConfig c)).trace (script.map (·, 0))
      (Controller.new (.ofConfig c))) : hw.1 ≤ r ∧ r ≤ hw.2 := by
  obtain ⟨-, room⟩ := Config.validate_ok_iff.mp valid
  have new : new (Bench.still hw script) (.ofConfig c) .curve Bench.paths
      = .ok (wired (.still hw script) (.ofConfig c) .curve Bench.paths) :=
    new_eq_ok.mpr ⟨valid, rfl⟩
  have curving : Curving hw (.ofConfig c) (wired (Bench.still hw script) (.ofConfig c) .curve
      Bench.paths) :=
    ⟨⟨_, _, _, rfl, new, .inl rfl⟩, rfl, rfl⟩
  have idling : Idling hw script 0 (wired (.still hw script) (.ofConfig c) .curve Bench.paths) :=
    ⟨rfl, ⟨rfl, rfl⟩, _, _, (Launched.built new).counting, rfl⟩
  have along := idling.along (by omega)
  have same := compares Bench _ curving _ along 0
  rw [compareFromTrace_ourRpm, curving.tracks.trace along, List.map_map] at same
  rw [show script.map (·, 0) = script.map ((·.2) ∘ idlePoll) from rfl, same] at reported
  obtain ⟨o, -, clamped⟩ := List.mem_map.mp reported
  cases o with
  | none => cases clamped
  | some x =>
      cases clamped
      exact clamp_mem (by omega) x

/-- A cold first sample is reported at most at the floor. -/
theorem Compares.floor (compares : Compares hw c) (valid : c.validate hw = .ok ()) :
    hw.1 ≤ c.minRpm := by
  obtain ⟨structural, -⟩ := Config.validate_ok_iff.mp valid
  have cold := Controller.targetFor_cold (c := Controller.new (.ofConfig c))
    (t := ⟨(ResolvedConfig.ofConfig c).lowC * 1000 - 1⟩) structural.thresholds
    (Int.sub_one_lt_of_le (Int.le_refl _))
  have slews := Controller.stepCurve_slews (c := Controller.new (.ofConfig c))
    (hottest_compareReadings (some ⟨(ResolvedConfig.ofConfig c).lowC * 1000 - 1⟩))
    (show 0 + 1 < overshootPolls by decide)
  have few : [some (⟨(ResolvedConfig.ofConfig c).lowC * 1000 - 1⟩ : MilliC)].length
      < stallPollsMax := show 1 < 10 by decide
  have first := compares.reported_mem valid few
    (r := slewToward c.minRpm c.minRpm slewMaxRpmPerPoll) (by
      rw [List.map_singleton, compared_cons, slews, cold]
      exact List.mem_cons_self)
  exact Nat.le_trans first.1 (Nat.le_trans (slewToward_le _ _ _) (Nat.le_of_eq (Nat.max_self _)))

/-- A trace at the upper threshold is reported up to the ceiling. -/
theorem Compares.ceiling (compares : Compares hw c) (valid : c.validate hw = .ok ()) :
    c.maxRpm ≤ hw.2 := by
  obtain ⟨structural, -⟩ := Config.validate_ok_iff.mp valid
  have third := compared_escalates (.ofConfig c) (t := ⟨c.maxC * 1000⟩) (k := 2)
    (c := Controller.new (.ofConfig c)) structural.thresholds (Int.le_refl (c.maxC * 1000)) rfl
  have few : (List.replicate 3 (some (⟨c.maxC * 1000⟩ : MilliC))).length < stallPollsMax :=
    show 3 < 10 by decide
  exact (compares.reported_mem valid few third).2

end Apart

section Overdriven

attribute [local instance] Bench.json

end Overdriven

end Supervisor

end Afanctl
