/-!
The length of the unbroken sequence a list of flags ends with.
-/

namespace Afanctl.Lib

/-- How many flags in a row, counted from the end, are set. -/
def streak (flags : List Bool) : Nat :=
  flags.foldl (fun n flag => if flag then n + 1 else 0) 0

@[simp] theorem streak_concat (flags : List Bool) (flag : Bool) :
    streak (flags ++ [flag]) = if flag then streak flags + 1 else 0 := by
  simp [streak]

theorem streak_replicate (n : Nat) : streak (List.replicate n true) = n := by
  induction n with
  | zero => rfl
  | succ n ih => rw [List.replicate_succ', streak_concat, ih, if_pos rfl]

theorem streak_le_length (flags : List Bool) : streak flags ≤ flags.length := by
  induction length : flags.length generalizing flags with
  | zero =>
      rw [List.length_eq_zero_iff.mp length]
      exact Nat.le_refl 0
  | succ n ih =>
      rcases List.eq_nil_or_concat flags with rfl | ⟨init, flag, rfl⟩
      · cases length
      · rw [List.concat_eq_append] at length ⊢
        have short := ih init (by simpa using length)
        rw [streak_concat]
        split
        · exact Nat.succ_le_succ short
        · exact Nat.zero_le _

variable {α : Type}

/-- The last `n` entries exist and all meet `P`. -/
def Trailing (n : Nat) (P : α → Prop) (xs : List α) : Prop :=
  ∃ before last, xs = before ++ last ∧ last.length = n ∧ ∀ x ∈ last, P x

theorem trailing_concat {n : Nat} {P : α → Prop} {xs : List α} {x : α} :
    Trailing (n + 1) P (xs ++ [x]) ↔ Trailing n P xs ∧ P x := by
  constructor
  · rintro ⟨before, last, split, length, all⟩
    rcases List.eq_nil_or_concat last with rfl | ⟨init, final, rfl⟩
    · cases length
    · rw [List.concat_eq_append] at split length all
      rw [← List.append_assoc] at split
      obtain ⟨front, same⟩ := List.append_inj' split rfl
      cases same
      refine ⟨⟨before, init, front, by simpa using length, fun y mem => ?_⟩, all x (by simp)⟩
      exact all y (List.mem_append_left _ mem)
  · rintro ⟨⟨before, last, rfl, length, all⟩, meets⟩
    refine ⟨before, last ++ [x], by rw [List.append_assoc], by simp [length], fun y mem => ?_⟩
    rcases List.mem_append.mp mem with mem | mem
    · exact all y mem
    · exact List.mem_singleton.mp mem ▸ meets

/-- A streak reaches `n` exactly if the last `n` entries are flagged. -/
theorem le_streak_iff {n : Nat} {flag : α → Bool} {xs : List α} :
    n ≤ streak (xs.map flag) ↔ Trailing n (flag · = true) xs := by
  induction n generalizing xs with
  | zero => exact ⟨fun _ => ⟨xs, [], by simp, rfl, by simp⟩, fun _ => Nat.zero_le _⟩
  | succ n ih =>
      rcases List.eq_nil_or_concat xs with rfl | ⟨init, x, rfl⟩
      · refine ⟨nofun, ?_⟩
        rintro ⟨before, last, split, length, -⟩
        rw [(List.append_eq_nil_iff.mp split.symm).2] at length
        cases length
      · rw [List.concat_eq_append, trailing_concat, ← ih, List.map_append, List.map_singleton,
          streak_concat]
        cases flag x <;> simp

end Afanctl.Lib
