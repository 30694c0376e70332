import Afanctl.Lib.Word

/-!
Approaching a target by bounded steps.

`toward` moves at most one step toward its target and never past it, and `approach` is
where `n` moves lead. `Approaches` says what that amounts to: the values move one way
only, each by a full step but the last, and arrive after the number of steps that the
distance takes.
-/

namespace Afanctl.Lib

/-- At most `step` from `base` toward `target`. -/
def toward (step base target : Nat) : Nat :=
  if base ≤ target then min (base + step) target else max (base - step) target

/-- Where `n` moves lead. -/
def approach (step base target n : Nat) : Nat :=
  if base ≤ target then min (base + n * step) target else max (base - n * step) target

/-- The distance in steps, rounded up. -/
def stepsToward (step base target : Nat) : Nat := (absDiff base target + (step - 1)) / step

/-- The values `x` approach `target` from `base`. -/
structure Approaches (step base target : Nat) (x : Nat → Nat) : Prop where
  start : x 0 = base
  up : base ≤ target → ∀ n, x n ≤ x (n + 1) ∧ x (n + 1) ≤ target
  down : target ≤ base → ∀ n, x (n + 1) ≤ x n ∧ target ≤ x (n + 1)
  full : ∀ n, n + 1 < stepsToward step base target → absDiff (x n) (x (n + 1)) = step
  arrives : ∀ n, stepsToward step base target ≤ n → x n = target

variable {step base target n : Nat}

theorem toward_mono {target' : Nat} (le : target ≤ target') :
    toward step base target ≤ toward step base target' := by
  unfold toward
  split <;> split <;> omega

@[simp] theorem toward_self (step base : Nat) : toward step base base = base := by
  simp [toward]

/-- A move goes down exactly if its target lies below. -/
theorem le_toward_iff (pos : 0 < step) : base ≤ toward step base target ↔ base ≤ target := by
  unfold toward
  split <;> omega

/-- A move arrives, or is a full step. -/
theorem toward_full (step base target : Nat) :
    toward step base target = target ∨ absDiff (toward step base target) base = step := by
  unfold toward absDiff
  split
  · rcases Nat.le_total target (base + step) with arrives | short
    · exact .inl (Nat.min_eq_right arrives)
    · refine .inr ?_
      rw [Nat.min_eq_left short]
      split <;> omega
  · rcases Nat.le_total (base - step) target with arrives | short
    · exact .inl (Nat.max_eq_right arrives)
    · by_cases deep : step ≤ base
      · refine .inr ?_
        rw [Nat.max_eq_left short]
        split <;> omega
      · refine .inl ?_
        omega

theorem toward_le {bound : Nat} (low : base ≤ bound) (le : target ≤ bound) :
    toward step base target ≤ bound := by
  unfold toward
  split <;> omega

theorem stepsToward_le (pos : 0 < step) :
    stepsToward step base target ≤ n ↔ absDiff base target ≤ n * step := by
  rw [stepsToward, ← Nat.lt_succ_iff, Nat.div_lt_iff_lt_mul pos, Nat.succ_mul]
  omega

theorem approach_zero (step base target : Nat) : approach step base target 0 = base := by
  unfold approach
  split <;> omega

/-- One more move. -/
theorem approach_succ (step base target n : Nat) :
    approach step base target (n + 1) = toward step (approach step base target n) target := by
  simp only [approach, toward, Nat.succ_mul]
  split
  · rw [if_pos (Nat.min_le_right _ _)]
    omega
  · split <;> omega

/-- One move first. -/
theorem approach_toward (step base target n : Nat) :
    approach step (toward step base target) target n = approach step base target (n + 1) := by
  simp only [approach, toward, Nat.succ_mul]
  split
  · rw [if_pos (Nat.min_le_right _ _)]
    omega
  · split <;> omega

/-- The moves approach their target. -/
theorem approach_approaches (pos : 0 < step) :
    Approaches step base target (approach step base target) where
  start := approach_zero step base target
  up := fun below n => by
    simp only [approach, if_pos below, Nat.succ_mul]
    omega
  down := fun above n => by
    unfold approach
    rw [Nat.succ_mul]
    split <;> omega
  full := fun n early => by
    have far : n * step + step < absDiff base target := by
      rw [← Nat.succ_mul, ← Nat.not_le, ← stepsToward_le pos]
      omega
    unfold absDiff at far
    unfold absDiff approach
    rw [Nat.succ_mul]
    split at far <;> split <;> split <;> omega
  arrives := fun n late => by
    have near := (stepsToward_le pos).mp late
    unfold absDiff at near
    unfold approach
    split at near <;> split <;> omega

end Afanctl.Lib
