import Afanctl.Lib.Checked
import Afanctl.Policy.Decisions

/-!
When the controller's arithmetic overflows.

The definitions up to `stepChecked` are the controller's functions once more, with every
addition, subtraction, multiplication, division and cast of the source checked: a step
has a result exactly if nothing in it overflows, and the release build then computes that
result. Over fewer than `2 ^ 32` polls no streak can overflow, and the curve's own
arithmetic fits its types for every valid config, so what decides is the limiter's
addition: it moves up from the ceiling once the guard has put the slew state there.
-/

namespace Afanctl

open Afanctl.Lib

/-! ### The controller, checked -/

/-- The sum of two `u32`. -/
def addU32 (a b : Nat) : Option Nat := (u32.add a b).map Int.toNat

/-- `slewToward`; the downward subtraction saturates. -/
def slewTowardChecked (base target maxStep : Nat) : Option Nat :=
  if base ≤ target then (addU32 base maxStep).map (min · target)
  else some (max (base - maxStep) target)

/-- `linearTarget`. The width in degrees is an `i32`; only the last cast and the last
addition are not `i64`. -/
def linearTargetChecked (t : MilliC) (highC maxC : Int) (minRpm maxRpm : Nat) : Option Nat := do
  let degrees ← i32.sub maxC highC
  let denom ← i64.mul degrees 1000
  let high ← i64.mul highC 1000
  let num ← i64.sub t.val high
  let width ← i64.sub maxRpm minRpm
  let scaled ← i64.mul num width
  let quotient ← i64.div scaled denom
  let share ← u32.fit quotient
  addU32 share.toNat minRpm

namespace Controller

def overshootCheckChecked (t : MilliC) (c : Controller) : Option Controller :=
  if satI32 (satI32 (c.maxC - 1) * 1000) ≤ t.val then
    (addU32 c.overshootStreak 1).map fun streak => { c with overshootStreak := streak }
  else some { c with overshootStreak := 0 }

def absorbChecked (readings : List SensorReading) (c : Controller) :
    Option (Option MilliC × Controller) :=
  match hottest readings with
  | some t =>
      ({ c with lastTEff := some t, lossStreak := 0 }.overshootCheckChecked t).map (some t, ·)
  | none =>
      (addU32 c.lossStreak 1).map fun streak =>
        (none, { c with lossStreak := streak, overshootStreak := 0 })

def targetForChecked (t : MilliC) (c : Controller) : Option (Nat × Controller) :=
  if t.val < satI32 (c.lowC * 1000) then some (c.minRpm, { c with ramping := false })
  else if satI32 (c.maxC * 1000) ≤ t.val then some (c.maxRpm, { c with ramping := true })
  else if satI32 (c.highC * 1000) ≤ t.val then
    (linearTargetChecked t c.highC c.maxC c.minRpm c.maxRpm).map (·, { c with ramping := true })
  else if c.ramping then some (c.slewRpm, c)
  else some (c.minRpm, c)

def stepCurveChecked (readings : List SensorReading) (c : Controller) :
    Option (Decision × Controller) := do
  match ← c.absorbChecked readings with
  | (some t, c) =>
      if overshootPolls ≤ c.overshootStreak then
        return (.escalateMax, { c with slewRpm := c.maxRpm, ramping := true })
      else
        let (target, c) ← c.targetForChecked t
        let rpm ← slewTowardChecked c.slewRpm target slewMaxRpmPerPoll
        return (.setSpeed rpm, { c with slewRpm := rpm })
  | (none, c) =>
      if sensorLossPolls ≤ c.lossStreak then
        return (.returnToAuto, { c.resetStreaks with slewRpm := c.minRpm, ramping := false })
      else return (.observe, c)

def stepHoldChecked (readings : List SensorReading) (heldRpm : Nat) (c : Controller) :
    Option (Decision × Controller) := do
  match ← c.absorbChecked readings with
  | (some _, c) =>
      if overshootPolls ≤ c.overshootStreak then return (.escalateMax, c)
      else return (.setSpeed heldRpm, c)
  | (none, c) =>
      if sensorLossPolls ≤ c.lossStreak then return (.returnToAuto, c.resetStreaks)
      else return (.observe, c)

def stepObserveChecked (readings : List SensorReading) (c : Controller) :
    Option (Decision × Controller) := do
  match ← c.absorbChecked readings with
  | (some _, c) => return (.observe, c)
  | (none, c) =>
      return (.observe, if sensorLossPolls ≤ c.lossStreak then c.resetStreaks else c)

def stepChecked : Call → Controller → Option (Decision × Controller)
  | .curve readings, c => c.stepCurveChecked readings
  | .hold readings heldRpm, c => c.stepHoldChecked readings heldRpm
  | .observe readings, c => c.stepObserveChecked readings

/-- The controller after a call, if nothing overflowed. -/
def nextChecked (call : Call) (c : Controller) : Option Controller :=
  (c.stepChecked call).map Prod.snd

end Controller

/-! ### What the operations compute -/

theorem addU32_of_le {a b : Nat} (fits : a + b ≤ u32Max) : addU32 a b = some (a + b) := by
  unfold u32Max at fits
  rw [addU32, IntType.add, IntType.u32_fit (by omega) (by omega)]
  exact congrArg some (Int.toNat_natCast (a + b))

/-- A checked sum fits, and is the wrapping one. -/
theorem addU32_eq_some {a b n : Nat} (sum : addU32 a b = some n) :
    a + b ≤ u32Max ∧ wrap32 (a + b) = n := by
  obtain ⟨x, added, rfl⟩ := Option.map_eq_some_iff.mp sum
  obtain ⟨⟨-, high⟩, rfl⟩ := IntType.fit_eq_some.mp added
  have fits : a + b ≤ u32Max := by
    have high : (a + b : Int) ≤ 4294967295 := high
    unfold u32Max
    omega
  exact ⟨fits, (wrap32_of_le fits).trans (Int.toNat_natCast (a + b)).symm⟩

theorem slewTowardChecked_agrees {base target maxStep rpm : Nat}
    (result : slewTowardChecked base target maxStep = some rpm) :
    slewToward base target maxStep = rpm := by
  unfold slewTowardChecked at result
  unfold slewToward
  split at result
  · next up =>
      obtain ⟨sum, added, rfl⟩ := Option.map_eq_some_iff.mp result
      rw [if_pos up, (addU32_eq_some added).2]
  · next down =>
      rw [if_neg down]
      exact Option.some.inj result

theorem linearTargetChecked_agrees {t : MilliC} {highC maxC : Int} {minRpm maxRpm rpm : Nat}
    (result : linearTargetChecked t highC maxC minRpm maxRpm = some rpm) :
    linearTarget t highC maxC minRpm maxRpm = rpm := by
  simp only [linearTargetChecked, Option.bind_eq_bind, Option.bind_eq_some_iff] at result
  obtain ⟨degrees, hd, denom, hdenom, high, hhigh, num, hnum, width, hwidth, scaled, hscaled,
    quotient, hquotient, share, hshare, added⟩ := result
  obtain ⟨-, rfl⟩ := IntType.fit_eq_some.mp hd
  obtain ⟨-, rfl⟩ := IntType.fit_eq_some.mp hdenom
  obtain ⟨-, rfl⟩ := IntType.fit_eq_some.mp hhigh
  obtain ⟨-, rfl⟩ := IntType.fit_eq_some.mp hnum
  obtain ⟨-, rfl⟩ := IntType.fit_eq_some.mp hwidth
  obtain ⟨-, rfl⟩ := IntType.fit_eq_some.mp hscaled
  obtain ⟨-, -, rfl⟩ := IntType.div_eq_some hquotient
  obtain ⟨⟨low, high⟩, rfl⟩ := IntType.fit_eq_some.mp hshare
  obtain ⟨-, sum⟩ := addU32_eq_some added
  rw [← sum, linearTarget, asU32_of_mem low high]

/-- Between the thresholds the curve's arithmetic fits its types. -/
theorem linearTargetChecked_total {t : MilliC} {highC maxC lowC : Int} {minRpm maxRpm : Nat}
    (thresholds : Thresholds highC maxC lowC) (above : highC * 1000 ≤ t.val)
    (below : t.val < maxC * 1000) (band : minRpm < maxRpm) (fits : maxRpm ≤ u32Max) :
    ∃ rpm, linearTargetChecked t highC maxC minRpm maxRpm = some rpm := by
  obtain ⟨high_nonneg, high_lt_max, max_le, -⟩ := thresholds
  have bounded : (maxRpm : Int) ≤ 4294967295 := Int.ofNat_le.mpr fits
  have width_pos : 0 ≤ (maxRpm : Int) - minRpm := by omega
  have num_nonneg : 0 ≤ t.val - highC * 1000 := by omega
  have scaled_nonneg := Int.mul_nonneg num_nonneg width_pos
  have share_le : ((t.val - highC * 1000) * (maxRpm - minRpm)).tdiv ((maxC - highC) * 1000)
      ≤ maxRpm - minRpm := by
    rw [Int.tdiv_eq_ediv_of_nonneg scaled_nonneg]
    apply Int.ediv_le_of_le_mul (by omega)
    rw [Int.mul_comm (maxRpm - minRpm : Int)]
    exact Int.mul_le_mul_of_nonneg_right (by omega) width_pos
  have share_nonneg := Int.tdiv_nonneg scaled_nonneg (show 0 ≤ (maxC - highC) * 1000 by omega)
  have scaled_le : (t.val - highC * 1000) * (maxRpm - minRpm) ≤ 95000 * 4294967295 :=
    Int.mul_le_mul (by omega) (by omega) width_pos (by omega)
  have nonzero : (maxC - highC) * 1000 ≠ 0 := by omega
  rw [← Option.isSome_iff_exists]
  simp only [linearTargetChecked, IntType.sub, IntType.mul, Option.bind_eq_bind]
  rw [IntType.i32_fit (by omega) (by omega), Option.bind_some,
    IntType.i64_fit (by omega) (by omega), Option.bind_some,
    IntType.i64_fit (by omega) (by omega), Option.bind_some,
    IntType.i64_fit (by omega) (by omega), Option.bind_some,
    IntType.i64_fit (by omega) (by omega), Option.bind_some,
    IntType.i64_fit (by omega) (by omega), Option.bind_some,
    IntType.div_of_ne nonzero, IntType.i64_fit (by omega) (by omega), Option.bind_some,
    IntType.u32_fit share_nonneg (by omega), Option.bind_some,
    addU32_of_le (by unfold u32Max; omega)]
  rfl

theorem slewTowardChecked_total {base maxStep : Nat} (target : Nat)
    (fits : base + maxStep ≤ u32Max) : ∃ rpm, slewTowardChecked base target maxStep = some rpm := by
  unfold slewTowardChecked
  split
  · exact ⟨_, by rw [addU32_of_le fits, Option.map_some]⟩
  · exact ⟨_, rfl⟩

namespace Controller

section Agreement

variable {c : Controller} {t : MilliC} {readings : List SensorReading}

theorem overshootCheckChecked_agrees {c' : Controller}
    (result : c.overshootCheckChecked t = some c') : c.overshootCheck t = c' := by
  unfold overshootCheckChecked at result
  unfold overshootCheck
  split at result
  · next near =>
      obtain ⟨streak, added, rfl⟩ := Option.map_eq_some_iff.mp result
      rw [if_pos near, (addU32_eq_some added).2]
  · next far =>
      rw [if_neg far]
      exact Option.some.inj result

theorem absorbChecked_agrees {out : Option MilliC × Controller}
    (result : c.absorbChecked readings = some out) : c.absorb readings = out := by
  unfold absorbChecked at result
  unfold absorb
  cases seen : hottest readings with
  | some t =>
      simp only [seen] at result ⊢
      obtain ⟨c', checked, rfl⟩ := Option.map_eq_some_iff.mp result
      rw [overshootCheckChecked_agrees checked]
  | none =>
      simp only [seen] at result ⊢
      obtain ⟨streak, added, rfl⟩ := Option.map_eq_some_iff.mp result
      rw [(addU32_eq_some added).2]

theorem targetForChecked_agrees {out : Nat × Controller}
    (result : c.targetForChecked t = some out) : c.targetFor t = out := by
  unfold targetForChecked at result
  unfold targetFor
  split at result
  · next cold => rw [if_pos cold, Option.some.inj result]
  · next mild =>
      rw [if_neg mild]
      split at result
      · next hot => rw [if_pos hot, Option.some.inj result]
      · next bearable =>
          rw [if_neg bearable]
          split at result
          · next warm =>
              obtain ⟨rpm, linear, rfl⟩ := Option.map_eq_some_iff.mp result
              rw [if_pos warm, linearTargetChecked_agrees linear]
          · next between =>
              rw [if_neg between]
              split at result
              · next ramping => rw [if_pos ramping, Option.some.inj result]
              · next idle => rw [if_neg idle, Option.some.inj result]

/-- A call in which nothing overflows does what the release build does. -/
theorem stepChecked_agrees {call : Call} {out : Decision × Controller}
    (result : c.stepChecked call = some out) : c.step call = out := by
  cases call with
  | curve readings =>
      obtain ⟨⟨reading, c'⟩, absorbed, rest⟩ := Option.bind_eq_some_iff.mp result
      rw [step, stepCurve, absorbChecked_agrees absorbed]
      cases reading with
      | some t =>
          simp only at rest ⊢
          split at rest
          · next fires => rw [if_pos fires, Option.some.inj rest]
          · next calm =>
              obtain ⟨⟨target, c''⟩, targeted, rest⟩ := Option.bind_eq_some_iff.mp rest
              obtain ⟨rpm, slewed, rest⟩ := Option.bind_eq_some_iff.mp rest
              rw [if_neg calm, targetForChecked_agrees targeted]
              simp only
              rw [slewTowardChecked_agrees slewed, Option.some.inj rest]
      | none =>
          simp only at rest ⊢
          split at rest
          · next full => rw [if_pos full, Option.some.inj rest]
          · next interim => rw [if_neg interim, Option.some.inj rest]
  | hold readings heldRpm =>
      obtain ⟨⟨reading, c'⟩, absorbed, rest⟩ := Option.bind_eq_some_iff.mp result
      rw [step, stepHold, absorbChecked_agrees absorbed]
      cases reading with
      | some t =>
          simp only at rest ⊢
          split at rest
          · next fires => rw [if_pos fires, Option.some.inj rest]
          · next calm => rw [if_neg calm, Option.some.inj rest]
      | none =>
          simp only at rest ⊢
          split at rest
          · next full => rw [if_pos full, Option.some.inj rest]
          · next interim => rw [if_neg interim, Option.some.inj rest]
  | observe readings =>
      obtain ⟨⟨reading, c'⟩, absorbed, rest⟩ := Option.bind_eq_some_iff.mp result
      rw [step, stepObserve, absorbChecked_agrees absorbed]
      cases reading with
      | some t => exact Option.some.inj rest
      | none => exact Option.some.inj rest

theorem nextChecked_agrees {call : Call} {c' : Controller}
    (result : c.nextChecked call = some c') : controls.next call c = c' := by
  obtain ⟨out, checked, rfl⟩ := Option.map_eq_some_iff.mp result
  exact congrArg Prod.snd (stepChecked_agrees checked)

end Agreement

/-! ### A controller in its band -/

section Totality

variable {c : Controller}

theorem absorbChecked_total (readings : List SensorReading) (overshoot : c.overshootStreak < u32Max)
    (loss : c.lossStreak < u32Max) : ∃ out, c.absorbChecked readings = some out := by
  unfold absorbChecked
  cases hottest readings with
  | some t =>
      simp only [overshootCheckChecked]
      split
      · exact ⟨_, by rw [addU32_of_le overshoot, Option.map_some, Option.map_some]⟩
      · exact ⟨_, rfl⟩
  | none => exact ⟨_, by rw [addU32_of_le loss, Option.map_some]⟩

theorem Tame.targetForChecked_total (tame : c.Tame) (t : MilliC) :
    ∃ out, c.targetForChecked t = some out := by
  obtain ⟨low, high, max⟩ := tame.thresholds.unsaturated
  have fits : c.maxRpm ≤ u32Max := Nat.le_trans (Nat.le_add_right _ _) tame.fits
  simp only [targetForChecked, low, high, max]
  split
  · exact ⟨_, rfl⟩
  · split
    · exact ⟨_, rfl⟩
    · next bearable =>
        split
        · next warm =>
            obtain ⟨rpm, linear⟩ := linearTargetChecked_total tame.thresholds warm
              (Int.not_le.mp bearable) tame.band fits
            exact ⟨_, by rw [linear, Option.map_some]⟩
        · split <;> exact ⟨_, rfl⟩

/-- In a band with headroom a curve call overflows nowhere. -/
theorem Tame.stepCurveChecked_total (tame : c.Tame) (readings : List SensorReading)
    (overshoot : c.overshootStreak < u32Max) (loss : c.lossStreak < u32Max) :
    ∃ out, c.stepCurveChecked readings = some out := by
  obtain ⟨⟨reading, c'⟩, absorbed⟩ := absorbChecked_total readings overshoot loss
  have agrees := absorbChecked_agrees absorbed
  rw [stepCurveChecked, absorbed, Option.bind_eq_bind, Option.bind_some]
  cases seen : hottest readings with
  | some t =>
      rw [absorb_seen seen, Prod.mk.injEq] at agrees
      obtain ⟨rfl, rfl⟩ := agrees
      have counted := tame.counted readings
      simp only
      split
      · exact ⟨_, rfl⟩
      · obtain ⟨⟨target, c''⟩, targeted⟩ := counted.targetForChecked_total t
        obtain ⟨ramping, kept⟩ := (c.counted readings).targetFor_keeps t
        rw [targetForChecked_agrees targeted] at kept
        have room : c''.slewRpm + slewMaxRpmPerPoll ≤ u32Max := by
          rw [show c'' = _ from kept]
          exact counted.room
        obtain ⟨rpm, slewed⟩ := slewTowardChecked_total target room
        refine ⟨(.setSpeed rpm, { c'' with slewRpm := rpm }), ?_⟩
        rw [targeted, Option.bind_eq_bind, Option.bind_some]
        simp only
        rw [slewed]
        rfl
  | none =>
      rw [absorb_lost seen, Prod.mk.injEq] at agrees
      obtain ⟨rfl, rfl⟩ := agrees
      simp only
      split <;> exact ⟨_, rfl⟩

theorem Tame.stepChecked_total (tame : c.Tame) (call : Call)
    (overshoot : c.overshootStreak < u32Max) (loss : c.lossStreak < u32Max) :
    ∃ out, c.stepChecked call = some out := by
  cases call with
  | curve readings => exact tame.stepCurveChecked_total readings overshoot loss
  | hold readings heldRpm =>
      obtain ⟨⟨reading, c'⟩, absorbed⟩ := absorbChecked_total readings overshoot loss
      rw [stepChecked, stepHoldChecked, absorbed, Option.bind_eq_bind, Option.bind_some]
      cases reading with
      | some t =>
          simp only
          split <;> exact ⟨_, rfl⟩
      | none =>
          simp only
          split <;> exact ⟨_, rfl⟩
  | observe readings =>
      obtain ⟨⟨reading, c'⟩, absorbed⟩ := absorbChecked_total readings overshoot loss
      rw [stepChecked, stepObserveChecked, absorbed, Option.bind_eq_bind, Option.bind_some]
      cases reading with
      | some t => exact ⟨_, rfl⟩
      | none => exact ⟨_, rfl⟩

/-- After `n` polls no streak is longer than `n`. -/
structure Within (n : Nat) (c : Controller) : Prop where
  tame : c.Tame
  overshoot : c.overshootStreak ≤ n
  loss : c.lossStreak ≤ n

theorem Within.step {n : Nat} (within : Within n c) (call : Call) :
    Within (n + 1) (c.step call).2 := by
  obtain ⟨slewRpm, ramping, eq⟩ := step_counted call c
  refine ⟨within.tame.step call, ?_, ?_⟩
  · rw [eq]
    cases seen : hottest call.readings with
    | some t =>
        simp only [counted_some seen, overshootCount]
        split
        · exact Nat.le_trans (wrap32_le _) (Nat.succ_le_succ within.overshoot)
        · exact Nat.zero_le _
    | none =>
        simp only [counted_none seen]
        exact Nat.zero_le _
  · rw [eq]
    cases seen : hottest call.readings with
    | some t =>
        simp only [counted_some seen]
        exact Nat.zero_le _
    | none =>
        simp only [counted_none seen, lossCount]
        split
        · exact Nat.zero_le _
        · exact Nat.le_trans (wrap32_le _) (Nat.succ_le_succ within.loss)

theorem Within.nextChecked {n : Nat} (within : Within n c) (fits : n < u32Max) (call : Call) :
    ∃ c', c.nextChecked call = some c' ∧ Within (n + 1) c' := by
  obtain ⟨out, checked⟩ := within.tame.stepChecked_total call
    (Nat.lt_of_le_of_lt within.overshoot fits) (Nat.lt_of_le_of_lt within.loss fits)
  refine ⟨out.2, by rw [Controller.nextChecked, checked, Option.map_some], ?_⟩
  rw [← stepChecked_agrees checked]
  exact within.step call

end Totality

end Controller

/-! ### The headroom -/

/-- Every valid reading is between 0 and 120 °C. -/
def Call.Plausible (call : Call) : Prop :=
  ∀ reading ∈ call.readings, ∀ t, reading.milliC = some t → 0 ≤ t.val ∧ t.val ≤ 120000

/-- No run of fewer than `2 ^ 32` polls on plausible readings overflows anywhere. -/
def NeverOverflows (cfg : Config) : Prop :=
  ∀ calls : List Call, calls.length < 4294967296 → (∀ call ∈ calls, call.Plausible) →
    ∃ c, runChecked Controller.nextChecked calls (Controller.new (.ofConfig cfg)) = some c

namespace Controller

theorem Tame.neverOverflows {cfg : Config} (tame : (Controller.new (.ofConfig cfg)).Tame) :
    NeverOverflows cfg := by
  intro calls short _
  have start : Within 0 (Controller.new (.ofConfig cfg)) := ⟨tame, Nat.le_refl _, Nat.le_refl _⟩
  have fits : 0 + calls.length ≤ u32Max := by
    unfold u32Max
    omega
  obtain ⟨c, result, -⟩ := runChecked_total (I := Within) (P := fun _ => True)
    (fun fits _ within => within.nextChecked fits _) fits (fun _ _ => trivial) start
  exact ⟨c, result⟩

/-- A curve call that slews upward has the room for it. -/
theorem stepCurveChecked_room {c : Controller} {t : MilliC} {readings : List SensorReading}
    {out : Decision × Controller} (seen : hottest readings = some t)
    (calm : ¬ overshootPolls ≤ c.overshootCount t) (up : c.slewRpm ≤ (c.targetFor t).1)
    (result : c.stepCurveChecked readings = some out) :
    c.slewRpm + slewMaxRpmPerPoll ≤ u32Max := by
  obtain ⟨⟨reading, c'⟩, absorbed, rest⟩ := Option.bind_eq_some_iff.mp result
  have agrees := absorbChecked_agrees absorbed
  rw [absorb_seen seen, Prod.mk.injEq] at agrees
  obtain ⟨rfl, rfl⟩ := agrees
  simp only [counted_some seen, if_neg calm] at rest
  obtain ⟨⟨target, c''⟩, targeted, rest⟩ := Option.bind_eq_some_iff.mp rest
  have targeted := targetForChecked_agrees targeted
  obtain ⟨ramping, kept⟩ := c.targetFor_keeps t
  rw [targetFor_streaks, kept, Prod.mk.injEq] at targeted
  obtain ⟨rfl, rfl⟩ := targeted
  obtain ⟨rpm, slewed, -⟩ := Option.bind_eq_some_iff.mp rest
  rw [slewTowardChecked, if_pos up] at slewed
  obtain ⟨sum, added, -⟩ := Option.map_eq_some_iff.mp slewed
  exact (addU32_eq_some added).1

/-- The guard leaves the slew state at the ceiling. -/
theorem stepCurve_ceiling {c : Controller} {t : MilliC} {readings : List SensorReading}
    (seen : hottest readings = some t) (third : overshootPolls ≤ c.overshootCount t) :
    (c.stepCurve readings).2.slewRpm = c.maxRpm ∧ (c.stepCurve readings).2.lossStreak = 0 := by
  rw [stepCurve_fires seen third, counted_some seen]
  exact ⟨rfl, rfl⟩

/-- The first poll without a reading keeps the slew state and rests the guard. -/
theorem stepCurve_dark {c : Controller} (first : c.lossStreak = 0) :
    (c.stepCurve []).2.slewRpm = c.slewRpm ∧ (c.stepCurve []).2.overshootStreak = 0 := by
  have dark : hottest [] = none := rfl
  rw [stepCurve_lost dark, counted_none dark, first]
  exact ⟨rfl, rfl⟩

/-- Three polls at `max` fire the guard, one without a reading rests it, and the fifth
slews up from the ceiling. -/
def climb (readings : List SensorReading) : List Call :=
  [.curve readings, .curve readings, .curve readings, .curve []]

theorem climb_top {cfg : ResolvedConfig} {readings : List SensorReading}
    (thresholds : Thresholds cfg.config.highC cfg.config.maxC cfg.lowC)
    (seen : hottest readings = some ⟨cfg.config.maxC * 1000⟩) :
    (controls.run (climb readings) (Controller.new cfg)).slewRpm = cfg.config.maxRpm ∧
      (controls.run (climb readings) (Controller.new cfg)).overshootStreak = 0 := by
  have hot : Call.hot cfg.config.maxC (.curve readings) = true := by
    rw [Call.hot, Call.readings, seen, Option.any_some]
    exact decide_eq_true (show (cfg.config.maxC - 1) * 1000 ≤ cfg.config.maxC * 1000 by omega)
  have two : Tallies cfg [.curve readings, .curve readings]
      (controls.run [.curve readings, .curve readings] (Controller.new cfg)) :=
    .run thresholds _
  have third := two.overshootCount thresholds
    (show hottest (Call.curve readings).readings = _ from seen)
  simp only [List.cons_append, List.nil_append, List.map_cons, List.map_nil, hot] at third
  obtain ⟨ceiling, rested⟩ := stepCurve_ceiling seen (show overshootPolls ≤ _ by rw [third]; decide)
  obtain ⟨kept, quiet⟩ := stepCurve_dark rested
  exact ⟨kept.trans (ceiling.trans two.tuned.maxRpm), quiet⟩

/-- Slewing up from the ceiling takes the headroom. -/
theorem climb_room {cfg : ResolvedConfig} {readings : List SensorReading} {c : Controller}
    (thresholds : Thresholds cfg.config.highC cfg.config.maxC cfg.lowC)
    (seen : hottest readings = some ⟨cfg.config.maxC * 1000⟩)
    (result : runChecked nextChecked (climb readings ++ [.curve readings]) (Controller.new cfg)
      = some c) :
    cfg.config.maxRpm + slewMaxRpmPerPoll ≤ u32Max := by
  rw [runChecked_append] at result
  obtain ⟨top, climbed, fifth⟩ := Option.bind_eq_some_iff.mp result
  obtain ⟨next, checked, -⟩ := Option.bind_eq_some_iff.mp fifth
  obtain ⟨out, last, -⟩ := Option.map_eq_some_iff.mp checked
  have same : controls.run (climb readings) (Controller.new cfg) = top :=
    runChecked_agrees nextChecked_agrees climbed
  have tuned : top.Tuned cfg := same ▸ .run (climb readings) (.new cfg)
  obtain ⟨slewed, quiet⟩ := climb_top thresholds seen
  rw [same] at slewed quiet
  have calm : ¬ overshootPolls ≤ top.overshootCount ⟨cfg.config.maxC * 1000⟩ := by
    rw [overshootCount, quiet]
    split <;> decide
  have hot : (top.targetFor ⟨cfg.config.maxC * 1000⟩).1 = top.maxRpm := by
    have valid : Thresholds top.highC top.maxC top.lowC := by
      rw [tuned.highC, tuned.maxC, tuned.lowC]
      exact thresholds
    rw [targetFor_hot valid (Int.le_of_eq (congrArg (· * 1000) tuned.maxC))]
  have up : top.slewRpm ≤ (top.targetFor ⟨cfg.config.maxC * 1000⟩).1 :=
    Nat.le_of_eq (by rw [hot, slewed, tuned.maxRpm])
  have room := stepCurveChecked_room seen calm up last
  rwa [slewed] at room

end Controller

/-- One sensor, at `max`. -/
def Config.atMax (cfg : Config) : List SensorReading := [⟨"Core 0", some ⟨cfg.maxC * 1000⟩⟩]

theorem Config.Structural.climb_plausible {cfg : Config} (structural : cfg.Structural) :
    ∀ call ∈ Controller.climb cfg.atMax ++ [.curve cfg.atMax], call.Plausible := by
  obtain ⟨high_nonneg, high_lt_max, max_le, -⟩ := structural
  intro call mem reading among t valid
  have readings : call.readings = cfg.atMax ∨ call.readings = [] := by
    simp only [Controller.climb, List.cons_append, List.nil_append, List.mem_cons,
      List.not_mem_nil, or_false] at mem
    rcases mem with rfl | rfl | rfl | rfl | rfl <;> simp [Call.readings]
  rcases readings with same | none
  · rw [same, Config.atMax, List.mem_singleton] at among
    rw [among, Option.some_inj] at valid
    rw [← valid]
    exact ⟨show 0 ≤ cfg.maxC * 1000 by omega, show cfg.maxC * 1000 ≤ 120000 by omega⟩
  · rw [none] at among
    cases among

/-- Without the headroom the climb overflows. -/
theorem NeverOverflows.room {cfg : Config} (structural : cfg.Structural)
    (never : NeverOverflows cfg) : cfg.maxRpm + slewMaxRpmPerPoll ≤ u32Max := by
  have short : (Controller.climb cfg.atMax ++ [Call.curve cfg.atMax]).length < 4294967296 :=
    show 5 < 4294967296 by decide
  obtain ⟨c, result⟩ := never _ short structural.climb_plausible
  exact Controller.climb_room structural.thresholds rfl result

/-- Nothing overflows in any run exactly if the ceiling leaves the limiter the room of
one step. -/
theorem neverOverflows_iff {hw : Nat × Nat} {cfg : Config} (accepted : cfg.validate hw = .ok ()) :
    NeverOverflows cfg ↔ cfg.maxRpm + slewMaxRpmPerPoll ≤ u32Max := by
  have structural := (Config.validate_ok_iff.mp accepted).1
  exact ⟨fun never => never.room structural,
    fun fits => (Controller.Tame.new structural fits).neverOverflows⟩

theorem neverOverflows_defaults : NeverOverflows .defaults :=
  (neverOverflows_iff Config.defaults_valid).mpr (by decide)

/-- The defaults without a ceiling of their own. -/
def Config.uncapped : Config := { Config.defaults with maxRpm := u32Max }

theorem Config.uncapped_valid : Config.uncapped.validate (1200, 7200) = .ok () := rfl

/-- A fan that caps the speed at its own limit does not keep the limiter from
overflowing. -/
theorem uncapped_overflows :
    Config.uncapped.maxRpm ≤ u32Max ∧ Config.uncapped.validate (1200, 7200) = .ok () ∧
      ¬ NeverOverflows .uncapped := by
  refine ⟨Nat.le_refl _, Config.uncapped_valid, fun never => ?_⟩
  have structural := (Config.validate_ok_iff.mp Config.uncapped_valid).1
  exact absurd (never.room structural) (by decide)

end Afanctl
