/-!
Fixed-width arithmetic over the unbounded numbers.

Unsigned 32-bit values are natural numbers, signed ones are integers. An
operation that can leave its range says so: `wrap32` is the release-build
addition, `asU32` the truncating cast, `satI32` the saturating result. `clamp`
and `absDiff` are the total order's own.
-/

namespace Afanctl.Lib

/-- The largest unsigned 32-bit value. -/
def u32Max : Nat := 4294967295

/-- The largest unsigned 64-bit value. -/
def u64Max : Nat := 18446744073709551615

theorem u32Max_le_u64Max : u32Max ≤ u64Max := by decide

/-- Reduce a natural number modulo `2 ^ 32`. -/
def wrap32 (n : Nat) : Nat := n % 4294967296

/-- Truncate an integer to its low 32 bits. -/
def asU32 (x : Int) : Nat := (x % 4294967296).toNat

/-- Saturate an integer into the signed 32-bit range. -/
def satI32 (x : Int) : Int :=
  if x < -2147483648 then -2147483648 else if 2147483647 < x then 2147483647 else x

/-- The value of `x` brought into `[lo, hi]`. -/
def clamp (lo hi x : Nat) : Nat :=
  if x < lo then lo else if hi < x then hi else x

/-- The distance between two values. -/
def absDiff (a b : Nat) : Nat := if a < b then b - a else a - b

theorem wrap32_of_le {n : Nat} (h : n ≤ u32Max) : wrap32 n = n := by
  unfold wrap32
  unfold u32Max at h
  omega

theorem wrap32_le (n : Nat) : wrap32 n ≤ n := Nat.mod_le n _

theorem wrap32_le_u32Max (n : Nat) : wrap32 n ≤ u32Max :=
  Nat.le_of_lt_succ (Nat.mod_lt n (show 0 < 4294967296 by decide))

/-- Counting on from a wrapped count is counting on, wrapped. -/
theorem wrap32_add (m n : Nat) : wrap32 (wrap32 m + n) = wrap32 (m + n) := Nat.mod_add_mod m _ n

theorem asU32_natCast {n : Nat} (h : n ≤ u32Max) : asU32 (n : Int) = n := by
  unfold asU32
  unfold u32Max at h
  omega

/-- A value that fits is cast exactly. -/
theorem asU32_of_mem {x : Int} (low : 0 ≤ x) (high : x ≤ 4294967295) : asU32 x = x.toNat := by
  unfold asU32
  rw [Int.emod_eq_of_lt low (by omega)]

theorem satI32_of_small {x : Int} (low : -2147483648 ≤ x) (high : x ≤ 2147483647) :
    satI32 x = x := by
  unfold satI32
  split
  · omega
  · split <;> omega

theorem satI32_eq (x : Int) : satI32 x = max (-2147483648) (min x 2147483647) := by
  unfold satI32
  split
  · omega
  · split <;> omega

theorem satI32_mono {x y : Int} (le : x ≤ y) : satI32 x ≤ satI32 y := by
  rw [satI32_eq, satI32_eq]
  omega

theorem clamp_mem {lo hi : Nat} (h : lo ≤ hi) (x : Nat) :
    lo ≤ clamp lo hi x ∧ clamp lo hi x ≤ hi := by
  unfold clamp
  split
  · exact ⟨Nat.le_refl _, h⟩
  · split <;> omega

/-- Clamping below the ceiling is taking the maximum with the floor. -/
theorem clamp_of_le {lo hi x : Nat} (h : x ≤ hi) : clamp lo hi x = max lo x := by
  unfold clamp
  split
  · omega
  · split <;> omega

/-- A value of the range is its own clamp. -/
theorem clamp_eq_self {lo hi x : Nat} (floor : lo ≤ x) (ceiling : x ≤ hi) : clamp lo hi x = x := by
  rw [clamp_of_le ceiling, Nat.max_eq_right floor]

/-- Raising a value to the floor first changes nothing. -/
theorem clamp_floor {lo hi x : Nat} (room : lo ≤ hi) (capped : x ≤ hi) :
    clamp lo hi (max lo x) = clamp lo hi x := by
  rw [clamp_of_le capped, clamp_of_le (Nat.max_le.mpr ⟨room, capped⟩), ← Nat.max_assoc,
    Nat.max_self]

theorem absDiff_le_iff {a b d : Nat} : absDiff a b ≤ d ↔ a ≤ b + d ∧ b ≤ a + d := by
  unfold absDiff
  split <;> omega

@[simp] theorem absDiff_self (a : Nat) : absDiff a a = 0 := by
  simp [absDiff]

theorem clamp_eq {lo hi : Nat} (room : lo ≤ hi) (x : Nat) :
    clamp lo hi x = max lo (min hi x) := by
  unfold clamp
  split
  · omega
  · split <;> omega

/-- Clamping raises no value further above another. -/
theorem clamp_le_add {lo hi a b d : Nat} (room : lo ≤ hi) (near : a ≤ b + d) :
    clamp lo hi a ≤ clamp lo hi b + d := by
  rw [clamp_eq room, clamp_eq room]
  omega

/-- Nor brings it any two values further apart. -/
theorem absDiff_clamp {lo hi a b d : Nat} (room : lo ≤ hi) (near : absDiff a b ≤ d) :
    absDiff (clamp lo hi a) (clamp lo hi b) ≤ d := by
  obtain ⟨above, below⟩ := absDiff_le_iff.mp near
  exact absDiff_le_iff.mpr ⟨clamp_le_add room above, clamp_le_add room below⟩

end Afanctl.Lib
