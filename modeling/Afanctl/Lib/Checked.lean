import Afanctl.Lib.Machine

/-!
Checked fixed-width arithmetic.

An integer type is its range. A checked operation has its exact result where that fits
the type and none where it does not, so a computation over checked operations has a
result exactly if nothing in it overflows. `runChecked` runs such a computation step by
step.
-/

namespace Afanctl.Lib

/-- The range of an integer type. -/
structure IntType where
  lo : Int
  hi : Int

def u32 : IntType := ⟨0, 4294967295⟩

def i32 : IntType := ⟨-2147483648, 2147483647⟩

def i64 : IntType := ⟨-9223372036854775808, 9223372036854775807⟩

namespace IntType

variable (ty : IntType)

/-- The value, if the type holds it; also the checked cast. -/
def fit (x : Int) : Option Int := if ty.lo ≤ x ∧ x ≤ ty.hi then some x else none

def add (a b : Int) : Option Int := ty.fit (a + b)

def sub (a b : Int) : Option Int := ty.fit (a - b)

def mul (a b : Int) : Option Int := ty.fit (a * b)

/-- Truncating division; dividing by zero has no result. -/
def div (a b : Int) : Option Int := if b = 0 then none else ty.fit (a.tdiv b)

variable {ty} {a b x y : Int}

theorem fit_of_mem (low : ty.lo ≤ x) (high : x ≤ ty.hi) : ty.fit x = some x :=
  if_pos ⟨low, high⟩

theorem fit_eq_some : ty.fit x = some y ↔ (ty.lo ≤ x ∧ x ≤ ty.hi) ∧ x = y := by
  rw [fit, Option.ite_none_right_eq_some, Option.some_inj]

theorem u32_fit (low : 0 ≤ x) (high : x ≤ 4294967295) : u32.fit x = some x :=
  fit_of_mem low high

theorem i32_fit (low : -2147483648 ≤ x) (high : x ≤ 2147483647) : i32.fit x = some x :=
  fit_of_mem low high

theorem i64_fit (low : -9223372036854775808 ≤ x) (high : x ≤ 9223372036854775807) :
    i64.fit x = some x :=
  fit_of_mem low high

theorem div_of_ne (nonzero : b ≠ 0) : ty.div a b = ty.fit (a.tdiv b) := if_neg nonzero

/-- A division of a natural number rounds down, and fits if the number does. -/
theorem i64_div_of_nonneg (low : 0 ≤ a) (high : a ≤ 9223372036854775807) (pos : 0 < b) :
    i64.div a b = some (a / b) := by
  have nonneg := Int.ediv_nonneg low (Int.le_of_lt pos)
  rw [div_of_ne (Int.ne_of_gt pos), Int.tdiv_eq_ediv_of_nonneg low]
  exact i64_fit (by omega) (Int.le_trans (Int.ediv_le_self b low) high)

/-- A checked division that has a result did not divide by zero. -/
theorem div_eq_some (h : ty.div a b = some y) :
    b ≠ 0 ∧ (ty.lo ≤ a.tdiv b ∧ a.tdiv b ≤ ty.hi) ∧ a.tdiv b = y := by
  unfold div at h
  split at h
  · cases h
  · next nonzero => exact ⟨nonzero, fit_eq_some.mp h⟩

end IntType

/-- A checked computation goes on with its first result. -/
theorem bind_of_eq_some {α β : Type} {x : Option α} {f : α → Option β} {a : α} {r : Option β}
    (first : x = some a) (rest : f a = r) : (x >>= f) = r := by
  rw [first]
  exact rest

section Bind

variable {β : Type} {f : Int → Option β} {r : Option β} {a b x : Int}

theorem i64_bind (low : -9223372036854775808 ≤ x) (high : x ≤ 9223372036854775807)
    (rest : f x = r) : (i64.fit x >>= f) = r :=
  bind_of_eq_some (IntType.i64_fit low high) rest

theorem i64_bind_div (low : 0 ≤ a) (high : a ≤ 9223372036854775807) (pos : 0 < b)
    (rest : f (a / b) = r) : (i64.div a b >>= f) = r :=
  bind_of_eq_some (IntType.i64_div_of_nonneg low high pos) rest

end Bind

/-! ### Runs of checked steps -/

variable {ι σ : Type} {step : ι → σ → Option σ}

/-- The state after a list of inputs, if every step has a result. -/
def runChecked (step : ι → σ → Option σ) : List ι → σ → Option σ
  | [], s => some s
  | i :: is, s => (step i s).bind (runChecked step is)

theorem runChecked_append (is js : List ι) (s : σ) :
    runChecked step (is ++ js) s = (runChecked step is s).bind (runChecked step js) := by
  induction is generalizing s with
  | nil => rfl
  | cons i is ih =>
      cases next : step i s with
      | none => simp [runChecked, next]
      | some t => simp [runChecked, next, ih]

/-- The totality rule: a run has a result if each step within the budget has one that
carries the invariant on. -/
theorem runChecked_total {I : Nat → σ → Prop} {P : ι → Prop} {budget : Nat}
    (total : ∀ {n i s}, n < budget → P i → I n s → ∃ t, step i s = some t ∧ I (n + 1) t)
    {is : List ι} {n : Nat} {s : σ} (fits : n + is.length ≤ budget) (inputs : ∀ i ∈ is, P i)
    (start : I n s) : ∃ t, runChecked step is s = some t ∧ I (n + is.length) t := by
  induction is generalizing n s with
  | nil => exact ⟨s, rfl, start⟩
  | cons i is ih =>
      rw [List.length_cons] at fits ⊢
      obtain ⟨t, next, kept⟩ := total (by omega) (inputs i List.mem_cons_self) start
      obtain ⟨u, rest, kept⟩ := ih (by omega)
        (fun j mem => inputs j (List.mem_cons_of_mem _ mem)) kept
      refine ⟨u, ?_, ?_⟩
      · rw [runChecked, next, Option.bind_some, rest]
      · rwa [Nat.add_comm is.length 1, ← Nat.add_assoc]

/-- The agreement rule: steps that agree with a machine's run as the machine does. -/
theorem runChecked_agrees {ω : Type} {m : Machine ι σ ω}
    (agrees : ∀ {i s t}, step i s = some t → m.next i s = t) {is : List ι} {s t : σ}
    (result : runChecked step is s = some t) : m.run is s = t := by
  induction is generalizing s with
  | nil => exact Option.some.inj result
  | cons i is ih =>
      obtain ⟨u, next, rest⟩ := Option.bind_eq_some_iff.mp result
      rw [Machine.run, agrees next]
      exact ih rest

end Afanctl.Lib
