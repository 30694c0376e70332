import Afanctl.Lib.Since
import Afanctl.Policy.Decisions

/-!
The hysteresis latch and the temperature history.

`Heated` is what the latch is for: the last poll outside the zone between `low` and
`high`, in any mode, was at `high` or above, and no full sensor loss came after it.
`Latched` is what the latch is: the same of the curve polls alone, for hold and observe
polls absorb temperatures without touching it. Between the thresholds a curve poll
therefore follows the history exactly where the two agree or nothing is left to give up.
-/

namespace Afanctl

open Afanctl.Lib

namespace Call

/-- The hottest valid reading is below `low`. -/
def cold (cfg : ResolvedConfig) (call : Call) : Bool :=
  (hottest call.readings).any fun t => t.val < (MilliC.fromC cfg.lowC).val

/-- The hottest valid reading is at `high` or above. -/
def warm (cfg : ResolvedConfig) (call : Call) : Bool :=
  (hottest call.readings).any fun t => (MilliC.fromC cfg.config.highC).val ≤ t.val

def isCurve : Call → Bool
  | .curve _ => true
  | _ => false

/-- A poll without a valid reading that completes a full sensor loss. -/
def FullLoss (seen : List Call) (call : Call) : Prop :=
  call.lost = true ∧ sensorLossPolls ∣ streak ((seen ++ [call]).map Call.lost)

instance (seen : List Call) (call : Call) : Decidable (FullLoss seen call) :=
  inferInstanceAs (Decidable (_ ∧ _))

end Call

/-- The last poll outside `[low, high)` was at `high` or above, with no full sensor loss
since. -/
def Heated (cfg : ResolvedConfig) : List Call → Prop :=
  Since (fun _ call => call.warm cfg = true)
    (fun seen call => call.cold cfg = false ∧ ¬ Call.FullLoss seen call)

/-- The same of the curve polls alone. -/
def Latched (cfg : ResolvedConfig) : List Call → Prop :=
  Since (fun _ call => call.isCurve = true ∧ call.warm cfg = true)
    (fun seen call => call.isCurve = true → call.cold cfg = false ∧ ¬ Call.FullLoss seen call)

/-- The thresholds are in order. -/
structure ResolvedConfig.Ordered (cfg : ResolvedConfig) : Prop where
  low_lt_high : cfg.lowC < cfg.config.highC
  high_lt_max : cfg.config.highC < cfg.config.maxC

theorem ResolvedConfig.Ordered.fromC_le {cfg : ResolvedConfig} (ordered : cfg.Ordered) :
    (MilliC.fromC cfg.lowC).val ≤ (MilliC.fromC cfg.config.highC).val ∧
      (MilliC.fromC cfg.config.highC).val ≤ (MilliC.fromC cfg.config.maxC).val := by
  obtain ⟨low_lt_high, high_lt_max⟩ := ordered
  exact ⟨satI32_mono (by omega), satI32_mono (by omega)⟩

/-- A poll below `low` is not at `high`. -/
theorem Call.warm_of_cold {cfg : ResolvedConfig} (ordered : cfg.Ordered) {call : Call}
    (cold : call.cold cfg = true) : call.warm cfg = false := by
  have below := ordered.fromC_le.1
  unfold Call.cold at cold
  unfold Call.warm
  cases valid : hottest call.readings with
  | none => rfl
  | some t =>
      rw [valid, Option.any_some, decide_eq_true_eq] at cold
      rw [Option.any_some, decide_eq_false_iff_not]
      omega

namespace Controller

section Latch

variable {cfg : ResolvedConfig} {c : Controller} {t : MilliC} {readings : List SensorReading}

/-- Targeting sets the latch by the two lower thresholds. -/
theorem Tuned.targetFor_ramping (tuned : c.Tuned cfg) (ordered : cfg.Ordered) (t : MilliC) :
    (c.targetFor t).2.ramping
      = if t.val < (MilliC.fromC cfg.lowC).val then false
        else if (MilliC.fromC cfg.config.highC).val ≤ t.val then true else c.ramping := by
  have top : satI32 (c.highC * 1000) ≤ satI32 (c.maxC * 1000) := by
    rw [tuned.highC, tuned.maxC]
    exact ordered.fromC_le.2
  simp only [targetFor, MilliC.fromC, ← tuned.lowC, ← tuned.highC]
  split
  · rfl
  · split
    · next hot => rw [if_pos (Int.le_trans top hot)]
    · split
      · rfl
      · split <;> rfl

/-- In between it targets the slew state or the floor. -/
theorem Tuned.targetFor_between (tuned : c.Tuned cfg) (ordered : cfg.Ordered)
    (above : (MilliC.fromC cfg.lowC).val ≤ t.val)
    (below : t.val < (MilliC.fromC cfg.config.highC).val) :
    (c.targetFor t).1 = if c.ramping then c.slewRpm else cfg.config.minRpm := by
  have top : satI32 (c.highC * 1000) ≤ satI32 (c.maxC * 1000) := by
    rw [tuned.highC, tuned.maxC]
    exact ordered.fromC_le.2
  simp only [MilliC.fromC, ← tuned.lowC, ← tuned.highC] at above below
  rw [targetFor, if_neg (Int.not_lt.mpr above), if_neg (by omega), if_neg (by omega),
    ← tuned.minRpm]
  split <;> rfl

/-- What the guard counts is at `high` or above. -/
theorem Tuned.overshootCount_warm (tuned : c.Tuned cfg) (ordered : cfg.Ordered)
    (fires : overshootPolls ≤ c.overshootCount t) :
    (MilliC.fromC cfg.config.highC).val ≤ t.val := by
  have near : satI32 (satI32 (c.maxC - 1) * 1000) ≤ t.val := by
    unfold overshootCount at fires
    split at fires
    · assumption
    · cases fires
  rw [tuned.maxC] at near
  have := ordered.high_lt_max
  apply Int.le_trans _ near
  show satI32 (cfg.config.highC * 1000) ≤ satI32 (satI32 (cfg.config.maxC - 1) * 1000)
  rw [satI32_eq, satI32_eq, satI32_eq]
  omega

/-- What a call does to the latch. -/
theorem Tuned.step_ramping (tuned : c.Tuned cfg) (ordered : cfg.Ordered) {seen : List Call}
    (loss : c.lossStreak = streak (seen.map Call.lost) % sensorLossPolls) (call : Call) :
    (c.step call).2.ramping = true ↔
      call.isCurve = true ∧ call.warm cfg = true ∨
        c.ramping = true ∧
          (call.isCurve = true → call.cold cfg = false ∧ ¬ Call.FullLoss seen call) := by
  cases call with
  | curve readings =>
      simp only [Call.isCurve, Call.warm, Call.cold, Call.FullLoss, Call.lost, Call.readings,
        Controller.step, true_and, forall_const]
      cases valid : hottest readings with
      | some t =>
          simp only [Option.any_some, decide_eq_true_eq, decide_eq_false_iff_not,
            Option.isNone_some, Bool.false_eq_true, false_and, not_false_eq_true, and_true]
          have below := ordered.fromC_le.1
          by_cases fires : overshootPolls ≤ c.overshootCount t
          · rw [stepCurve_fires valid fires]
            exact iff_of_true rfl (.inl (tuned.overshootCount_warm ordered fires))
          · rw [stepCurve_calm valid fires]
            simp only [tuned.targetFor_ramping ordered t]
            split
            · next cold => simp [cold, Int.not_le.mpr (Int.lt_of_lt_of_le cold below)]
            · next mild =>
                split
                · next warm => exact iff_of_true rfl (.inl warm)
                · next between => simp [mild, between]
      | none =>
          have full : streak ((seen ++ [Call.curve readings]).map Call.lost)
              = streak (seen.map Call.lost) + 1 := by
            simp [Call.lost, Call.readings, valid]
          have fires := (loss_succ (streak (seen.map Call.lost))).2
          rw [← loss, ← full] at fires
          simp only [Option.any_none, Bool.false_eq_true, false_or, Option.isNone_none, true_and,
            stepCurve_lost valid, ← fires]
          split
          · next lost => simp [lost]
          · next interim => simp [interim]
  | hold readings heldRpm => simp [Call.isCurve, Controller.step, stepHold_counted]
  | observe readings => simp [Call.isCurve, Controller.step, stepObserve_eq]

/-- The latch is what the curve polls so far make of it. -/
structure Follows (cfg : ResolvedConfig) (seen : List Call) (c : Controller) : Prop where
  tuned : c.Tuned cfg
  loss : c.lossStreak = streak (seen.map Call.lost) % sensorLossPolls
  ramping : c.ramping = true ↔ Latched cfg seen

theorem Follows.new (cfg : ResolvedConfig) : (Controller.new cfg).Follows cfg [] where
  tuned := .new cfg
  loss := rfl
  ramping := iff_of_false Bool.false_ne_true not_since_nil

theorem Follows.step {seen : List Call} (follows : c.Follows cfg seen) (ordered : cfg.Ordered)
    (call : Call) : (c.step call).2.Follows cfg (seen ++ [call]) where
  tuned := follows.tuned.step call
  loss := step_lossStreak follows.loss call
  ramping := by
    rw [follows.tuned.step_ramping ordered follows.loss call, follows.ramping, Latched,
      since_concat]

/-- The latch of every run is what its curve polls make of it. -/
theorem Follows.run (ordered : cfg.Ordered) (calls : List Call) :
    (controls.run calls (Controller.new cfg)).Follows cfg calls := by
  have begun : (Controller.new cfg).Follows cfg [] := .new cfg
  have ran := Machine.run_history (m := controls) (T := fun calls c => Follows cfg calls c)
    (fun follows => follows.step ordered _) calls begun
  exact ran

/-- A curve poll between the thresholds slews toward its target. -/
theorem Tuned.stepCurve_between (tuned : c.Tuned cfg) (ordered : cfg.Ordered)
    (valid : hottest readings = some t) (below : t.val < (MilliC.fromC cfg.config.highC).val) :
    (c.stepCurve readings).1
      = .setSpeed (slewToward c.slewRpm (c.targetFor t).1 slewMaxRpmPerPoll) := by
  have calm : ¬ overshootPolls ≤ c.overshootCount t :=
    fun fires => absurd (tuned.overshootCount_warm ordered fires) (Int.not_le.mpr below)
  rw [stepCurve_calm valid calm]

end Latch

end Controller

open Controller

/-- A curve poll between the thresholds that the history does not let ramp targets the
floor exactly if the latch is free as well or the slew state is at the floor; and a poll
below `low` leaves the latch free exactly if it is a curve poll or the latch was. -/
theorem hysteresis_follows_iff {cfg : ResolvedConfig} (ordered : cfg.Ordered) (seen : List Call) :
    (∀ readings t, hottest readings = some t → (MilliC.fromC cfg.lowC).val ≤ t.val →
        t.val < (MilliC.fromC cfg.config.highC).val →
        let c := controls.run seen (Controller.new cfg)
        (c.step (.curve readings)).1
            = .setSpeed (slewToward c.slewRpm (c.targetFor t).1 slewMaxRpmPerPoll) ∧
          ((¬ Heated cfg seen → (c.targetFor t).1 = cfg.config.minRpm) ↔
            Heated cfg seen ∨ ¬ Latched cfg seen ∨ c.slewRpm = cfg.config.minRpm)) ∧
      ∀ call, call.cold cfg = true →
        (((controls.run seen (Controller.new cfg)).step call).2.ramping = false ↔
          call.isCurve = true ∨ ¬ Latched cfg seen) := by
  have follows := Follows.run ordered seen
  refine ⟨fun readings t valid above below => ⟨?_, ?_⟩, fun call cold => ?_⟩
  · exact follows.tuned.stepCurve_between ordered valid below
  · rw [follows.tuned.targetFor_between ordered above below, ← follows.ramping]
    split
    · next ramping => by_cases heated : Heated cfg seen <;> simp [ramping, heated]
    · next idle => simp [idle]
  · have freed := follows.tuned.step_ramping ordered follows.loss call
    rw [Call.warm_of_cold ordered cold, cold] at freed
    rw [← Bool.not_eq_true, freed, follows.ramping]
    cases call.isCurve <;> simp

theorem defaults_ordered : (ResolvedConfig.ofConfig .defaults).Ordered := ⟨by decide, by decide⟩

/-- After one curve poll at 70 °C the law holds at 64 °C. -/
theorem hysteresis_follows_iff_ramped :
    let c := controls.run [.curveAt 70000] (Controller.new (.ofConfig .defaults))
    (¬ Heated (.ofConfig .defaults) [.curveAt 70000] → (c.targetFor ⟨64000⟩).1 = 1200) ↔
      Heated (.ofConfig .defaults) [.curveAt 70000] ∨
        ¬ Latched (.ofConfig .defaults) [.curveAt 70000] ∨ c.slewRpm = 1200 :=
  ((hysteresis_follows_iff defaults_ordered [.curveAt 70000]).1 [⟨"Core 0", some ⟨64000⟩⟩]
    ⟨64000⟩ rfl (by decide) (by decide)).2

/-- An observe poll at 60 °C leaves the latch set, and the next curve poll at 64 °C holds
1950 rpm. -/
theorem hysteresis_stale :
    let seen := [.curveAt 70000, .observe [⟨"Core 0", some ⟨60000⟩⟩]]
    let c := controls.run seen (Controller.new (.ofConfig .defaults))
    ¬ Heated (.ofConfig .defaults) seen ∧ c.ramping = true ∧
      (c.targetFor ⟨64000⟩).1 = 1950 ∧ (c.step (.curveAt 64000)).1 = .setSpeed 1950 := by
  refine ⟨fun heated => ?_, by decide, by decide, by decide +kernel⟩
  have split : [Call.curveAt 70000, .observe [⟨"Core 0", some ⟨60000⟩⟩]]
      = [.curveAt 70000] ++ [.observe [⟨"Core 0", some ⟨60000⟩⟩]] := rfl
  rw [Heated, split, since_concat] at heated
  rcases heated with warm | ⟨-, mild, -⟩
  · exact absurd warm (by decide)
  · exact absurd mild (by decide)

end Afanctl
