import Afanctl.Lib.Streak
import Afanctl.Policy.Run

/-!
The kind of every decision, read off the sensor history.

`Tallies` ties the two streaks to the polls before, whatever calls they were: the loss
streak is the number of consecutive polls without a reading, modulo the polls of a full
loss, and the overshoot streak is the number of consecutive hot polls as a `u32` holds
it. A commanding poll then decides by the history exactly while that `u32` still tells
three hot polls from fewer.
-/

namespace Afanctl

open Afanctl.Lib

namespace Call

/-- No sensor gave a valid reading. -/
def lost (call : Call) : Bool := (hottest call.readings).isNone

/-- The hottest valid reading is at most one degree below `max`. -/
def hot (maxC : Int) (call : Call) : Bool :=
  (hottest call.readings).any fun t => (maxC - 1) * 1000 ≤ t.val

/-- Curve and hold polls command the fan. -/
def Commands : Call → Prop
  | .observe _ => False
  | _ => True

instance : ∀ call : Call, Decidable call.Commands
  | .curve _ => isTrue trivial
  | .hold _ _ => isTrue trivial
  | .observe _ => isFalse id

theorem curveAt_commands (milli : Int) : (curveAt milli).Commands := trivial

end Call

/-- The decision of a commanding poll, as the polls up to and including it determine
its kind. -/
structure ByHistory (maxC : Int) (seen : List Call) (call : Call) (decision : Decision) :
    Prop where
  escalates : call.lost = false →
    (decision = .escalateMax ↔ Trailing overshootPolls (Call.hot maxC · = true) (seen ++ [call]))
  commands : call.lost = false → decision ≠ .escalateMax → ∃ rpm, decision = .setSpeed rpm
  releases : call.lost = true →
    (decision = .returnToAuto ↔ sensorLossPolls ∣ streak ((seen ++ [call]).map Call.lost))
  waits : call.lost = true → decision ≠ .returnToAuto → decision = .observe
  held : ∀ {readings heldRpm rpm}, call = .hold readings heldRpm → decision = .setSpeed rpm →
    rpm = heldRpm

namespace Controller

/-- The streaks are those of the polls so far. -/
structure Tallies (cfg : ResolvedConfig) (seen : List Call) (c : Controller) : Prop where
  tuned : c.Tuned cfg
  loss : c.lossStreak = streak (seen.map Call.lost) % sensorLossPolls
  overshoot : c.overshootStreak = wrap32 (streak (seen.map (Call.hot cfg.config.maxC)))

/-- The next count of a `u32` that starts over at `sensorLossPolls`. -/
theorem loss_succ (n : Nat) :
    (if sensorLossPolls ≤ wrap32 (n % sensorLossPolls + 1) then 0
      else wrap32 (n % sensorLossPolls + 1)) = (n + 1) % sensorLossPolls ∧
    (sensorLossPolls ≤ wrap32 (n % sensorLossPolls + 1) ↔ sensorLossPolls ∣ n + 1) := by
  have small : n % sensorLossPolls < sensorLossPolls := Nat.mod_lt _ (by decide)
  rw [wrap32_of_le (Nat.le_trans small (by decide))]
  unfold sensorLossPolls at small ⊢
  constructor
  · split <;> omega
  · omega

/-- Every call carries the loss streak on. -/
theorem step_lossStreak {seen : List Call} {c : Controller}
    (loss : c.lossStreak = streak (seen.map Call.lost) % sensorLossPolls) (call : Call) :
    (c.step call).2.lossStreak = streak ((seen ++ [call]).map Call.lost) % sensorLossPolls := by
  obtain ⟨slewRpm, ramping, eq⟩ := step_counted call c
  rw [eq, List.map_append, List.map_singleton, streak_concat]
  cases valid : hottest call.readings with
  | some t => simp [counted_some valid, Call.lost, valid]
  | none =>
      simp only [counted_none valid, lossCount, loss, Call.lost, valid, Option.isNone_none,
        ↓reduceIte]
      exact (loss_succ _).1

namespace Tallies

variable {cfg : ResolvedConfig} {seen : List Call} {c : Controller} {call : Call} {t : MilliC}

theorem new (cfg : ResolvedConfig) : (Controller.new cfg).Tallies cfg [] :=
  ⟨.new cfg, rfl, rfl⟩

section Seen

variable (thresholds : Thresholds cfg.config.highC cfg.config.maxC cfg.lowC)

include thresholds in
/-- A valid reading counts toward the guard as the history does. -/
theorem overshootCount (tallies : c.Tallies cfg seen) (valid : hottest call.readings = some t) :
    c.overshootCount t
      = wrap32 (streak ((seen ++ [call]).map (Call.hot cfg.config.maxC))) := by
  have hot : Call.hot cfg.config.maxC call = decide ((cfg.config.maxC - 1) * 1000 ≤ t.val) := by
    rw [Call.hot, valid, Option.any_some]
  rw [Controller.overshootCount, tallies.tuned.maxC, thresholds.guard, tallies.overshoot,
    wrap32_add, List.map_append, List.map_singleton, streak_concat, hot]
  by_cases near : (cfg.config.maxC - 1) * 1000 ≤ t.val
  · simp only [near, decide_true, ↓reduceIte]
  · simp only [near, decide_false, Bool.false_eq_true, ↓reduceIte]
    rfl

include thresholds in
/-- Every call carries the tallies on. -/
theorem step (tallies : c.Tallies cfg seen) (call : Call) :
    (c.step call).2.Tallies cfg (seen ++ [call]) := by
  obtain ⟨slewRpm, ramping, eq⟩ := step_counted call c
  refine ⟨tallies.tuned.step call, step_lossStreak tallies.loss call, ?_⟩
  rw [eq]
  cases valid : hottest call.readings with
  | some t =>
      simp only [counted_some valid]
      exact tallies.overshootCount thresholds valid
  | none => simp [counted_none valid, Call.hot, valid, wrap32]

include thresholds in
/-- The streaks of every run are those of its calls. -/
theorem run (calls : List Call) :
    (controls.run calls (Controller.new cfg)).Tallies cfg calls := by
  have begun : (Controller.new cfg).Tallies cfg [] := .new cfg
  have ran := Machine.run_history (m := controls) (T := fun calls c => Tallies cfg calls c)
    (fun tallies => tallies.step thresholds _) calls begun
  exact ran

end Seen

end Tallies

/-! ### The decision of a commanding poll -/

section Commanding

variable {c : Controller} {call : Call} {t : MilliC}

/-- With a valid reading the guard decides, and a hold commands what it holds. -/
theorem step_seen (c : Controller) (commands : call.Commands)
    (valid : hottest call.readings = some t) :
    ∃ rpm, (c.step call).1
        = (if overshootPolls ≤ c.overshootCount t then .escalateMax else .setSpeed rpm) ∧
      ∀ {readings heldRpm}, call = .hold readings heldRpm → rpm = heldRpm := by
  cases call with
  | curve readings =>
      rw [Call.readings] at valid
      by_cases fires : overshootPolls ≤ c.overshootCount t
      · refine ⟨0, by rw [step, stepCurve_fires valid fires, if_pos fires], ?_⟩
        intro readings heldRpm hold
        cases hold
      · refine ⟨_, by rw [step, stepCurve_calm valid fires, if_neg fires], ?_⟩
        intro readings heldRpm hold
        cases hold
  | hold readings heldRpm =>
      rw [Call.readings] at valid
      refine ⟨heldRpm, by rw [step, stepHold_seen heldRpm valid], fun same => ?_⟩
      cases same
      rfl
  | observe readings => exact commands.elim

/-- Without one the loss streak decides. -/
theorem step_lost (c : Controller) (commands : call.Commands)
    (lost : hottest call.readings = none) :
    (c.step call).1
      = if sensorLossPolls ≤ wrap32 (c.lossStreak + 1) then .returnToAuto else .observe := by
  cases call with
  | curve readings =>
      rw [Call.readings] at lost
      rw [step, stepCurve_lost lost]
      split <;> rfl
  | hold readings heldRpm =>
      rw [Call.readings] at lost
      rw [step, stepHold_lost heldRpm lost]
  | observe readings => exact commands.elim

end Commanding

/-- The `u32` streak tells whether the last three polls were hot: it has not wrapped, or
has counted up to the guard again since. -/
def TellsOvershoot (maxC : Int) (calls : List Call) : Prop :=
  streak (calls.map (Call.hot maxC)) ≤ u32Max ∨
    overshootPolls ≤ wrap32 (streak (calls.map (Call.hot maxC)))

instance (maxC : Int) (calls : List Call) : Decidable (TellsOvershoot maxC calls) :=
  inferInstanceAs (Decidable (_ ∨ _))

theorem tellsOvershoot_iff {maxC : Int} {calls : List Call} :
    TellsOvershoot maxC calls ↔
      (overshootPolls ≤ wrap32 (streak (calls.map (Call.hot maxC))) ↔
        Trailing overshootPolls (Call.hot maxC · = true) calls) := by
  rw [TellsOvershoot, ← le_streak_iff]
  generalize streak (calls.map (Call.hot maxC)) = n
  unfold wrap32 overshootPolls u32Max
  omega

namespace Tallies

variable {cfg : ResolvedConfig} {seen : List Call} {c : Controller} {call : Call} {t : MilliC}

/-- With a valid reading the overshoot streak has to tell it. -/
theorem byHistory_seen (thresholds : Thresholds cfg.config.highC cfg.config.maxC cfg.lowC)
    (tallies : c.Tallies cfg seen) (commands : call.Commands)
    (valid : hottest call.readings = some t) :
    ByHistory cfg.config.maxC seen call (c.step call).1 ↔
      TellsOvershoot cfg.config.maxC (seen ++ [call]) := by
  have present : call.lost = false := by simp [Call.lost, valid]
  obtain ⟨rpm, decides, held⟩ := step_seen c commands valid
  rw [tallies.overshootCount thresholds valid] at decides
  rw [tellsOvershoot_iff, decides]
  constructor
  · intro byHistory
    rw [← byHistory.escalates present]
    split <;> simp_all
  · intro tells
    refine ⟨fun _ => ?_, fun _ calm => ⟨rpm, ?_⟩, fun lost => ?_, fun lost => ?_, ?_⟩
    · rw [← tells]
      split <;> simp_all
    · split at calm
      · exact absurd rfl calm
      · next quiet => rw [if_neg quiet]
    · rw [present] at lost
      cases lost
    · rw [present] at lost
      cases lost
    · intro readings heldRpm commanded same speed
      split at speed
      · cases speed
      · cases speed
        exact held same

/-- Without one the loss streak decides, and it always tells. -/
theorem byHistory_lost (tallies : c.Tallies cfg seen) (commands : call.Commands)
    (invalid : hottest call.readings = none) :
    ByHistory cfg.config.maxC seen call (c.step call).1 := by
  have lost : call.lost = true := by simp [Call.lost, invalid]
  have decides := step_lost c commands invalid
  rw [tallies.loss] at decides
  refine ⟨fun present => ?_, fun present => ?_, fun _ => ?_, fun _ held => ?_, ?_⟩
  · rw [lost] at present
    cases present
  · rw [lost] at present
    cases present
  · rw [decides, List.map_append, List.map_singleton, streak_concat, if_pos lost,
      ← (loss_succ _).2]
    split <;> simp_all
  · rw [decides] at held ⊢
    split at held
    · exact absurd rfl held
    · next short => rw [if_neg short]
  · intro readings heldRpm rpm same speed
    rw [decides] at speed
    split at speed <;> cases speed

/-- A commanding poll decides by the history exactly where the overshoot streak still
tells it. -/
theorem byHistory_iff (thresholds : Thresholds cfg.config.highC cfg.config.maxC cfg.lowC)
    (tallies : c.Tallies cfg seen) (commands : call.Commands) :
    ByHistory cfg.config.maxC seen call (c.step call).1 ↔
      TellsOvershoot cfg.config.maxC (seen ++ [call]) := by
  cases valid : hottest call.readings with
  | some t => exact tallies.byHistory_seen thresholds commands valid
  | none =>
      have cool : Call.hot cfg.config.maxC call = false := by simp [Call.hot, valid]
      have tells : TellsOvershoot cfg.config.maxC (seen ++ [call]) := by
        simp [TellsOvershoot, cool]
      exact iff_of_true (tallies.byHistory_lost commands valid) tells

end Tallies

end Controller

open Controller

/-- Every commanding poll of every run decides by the sensor history exactly where the
overshoot streak still tells it. -/
theorem decision_byHistory_iff {hw : Nat × Nat} {cfg : Config} (accepted : cfg.validate hw = .ok ())
    (seen : List Call) {call : Call} (commands : call.Commands) :
    ByHistory cfg.maxC seen call
        ((controls.run seen (Controller.new (.ofConfig cfg))).step call).1 ↔
      TellsOvershoot cfg.maxC (seen ++ [call]) := by
  have thresholds := (Config.validate_ok_iff.mp accepted).1.thresholds
  have tallies : Tallies (.ofConfig cfg) seen
      (controls.run seen (Controller.new (.ofConfig cfg))) := .run thresholds seen
  exact tallies.byHistory_iff thresholds commands

/-- The third hot poll in a row escalates as it should. -/
theorem decision_byHistory_iff_third :
    ByHistory 86 [.curveAt 85000, .curveAt 85000] (.curveAt 85000)
      ((controls.run [.curveAt 85000, .curveAt 85000] (Controller.new (.ofConfig .defaults))).step
        (.curveAt 85000)).1 :=
  (decision_byHistory_iff Config.defaults_valid [.curveAt 85000, .curveAt 85000]
    (Call.curveAt_commands 85000)).mpr (by decide)

/-- After `2 ^ 32` hot polls in a row the streak is zero, and the poll commands a speed. -/
theorem decision_not_byHistory :
    ¬ ByHistory 86 (List.replicate u32Max (.curveAt 85000)) (.curveAt 85000)
      ((controls.run (List.replicate u32Max (.curveAt 85000))
        (Controller.new (.ofConfig .defaults))).step (.curveAt 85000)).1 := by
  have thresholds := (Config.validate_ok_iff.mp Config.defaults_valid).1.thresholds
  have tallies : Tallies (.ofConfig .defaults) (List.replicate u32Max (.curveAt 85000)) _ :=
    .run thresholds _
  have hot : Call.hot 86 (.curveAt 85000) = true := rfl
  have wrapped : ¬ TellsOvershoot 86
      (List.replicate u32Max (.curveAt 85000) ++ [.curveAt 85000]) := by
    rw [TellsOvershoot, ← List.replicate_succ', List.map_replicate, hot, streak_replicate]
    decide
  exact fun byHistory => wrapped
    ((tallies.byHistory_iff thresholds (Call.curveAt_commands 85000)).mp byHistory)

end Afanctl
