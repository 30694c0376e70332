/-!
Lists cut at a separator.

Joining parts by a separator and cutting the result there gives the parts back only if none
of them holds the separator. What holds of any parts is `splitOn_intercalate_flatMap`: the
cut does not tell the joints from separators inside the parts.
-/

namespace Afanctl.Lib

variable {α β : Type}

/-- Cutting joined parts gives the cuts of each. -/
theorem splitOn_intercalate_flatMap [BEq α] [LawfulBEq α] (sep : α) {parts : List (List α)}
    (nonempty : parts ≠ []) :
    ([sep].intercalate parts).splitOn sep = parts.flatMap (List.splitOn sep) := by
  induction parts with
  | nil => exact absurd rfl nonempty
  | cons part parts ih =>
      cases parts with
      | nil => rw [List.intercalate_singleton, List.flatMap_singleton]
      | cons next parts =>
          rw [List.intercalate_cons_cons, List.append_assoc, List.singleton_append,
            List.splitOn_append_cons_self, ih (List.cons_ne_nil _ _)]
          exact List.flatMap_cons.symm

section Counting

variable {f : α → List β} (nonempty : ∀ a, f a ≠ [])

include nonempty

theorem flatMap_eq_nil {as : List α} (eq : as.flatMap f = []) : as = [] := by
  rw [List.flatMap_eq_nil_iff] at eq
  exact List.eq_nil_iff_forall_not_mem.mpr fun a mem => nonempty a (eq a mem)

/-- If every part gives something, one result comes from one part. -/
theorem flatMap_eq_singleton {as : List α} {x : β} (eq : as.flatMap f = [x]) :
    ∃ a, as = [a] ∧ f a = [x] := by
  cases as with
  | nil => cases eq
  | cons a as =>
      rw [List.flatMap_cons, List.append_eq_singleton_iff] at eq
      rcases eq with ⟨none, -⟩ | ⟨one, rest⟩
      · exact absurd none (nonempty a)
      · exact ⟨a, by rw [flatMap_eq_nil nonempty rest], one⟩

/-- Two results come from one part or one each from two. -/
theorem flatMap_eq_pair {as : List α} {x y : β} (eq : as.flatMap f = [x, y]) :
    (∃ a, as = [a] ∧ f a = [x, y]) ∨ ∃ a b, as = [a, b] ∧ f a = [x] ∧ f b = [y] := by
  cases as with
  | nil => cases eq
  | cons a as =>
      rw [List.flatMap_cons] at eq
      cases first : f a with
      | nil => exact absurd first (nonempty a)
      | cons x' more =>
          rw [first, List.cons_append, List.cons.injEq] at eq
          obtain ⟨rfl, eq⟩ := eq
          cases more with
          | nil =>
              obtain ⟨b, rfl, second⟩ := flatMap_eq_singleton nonempty eq
              exact Or.inr ⟨a, b, rfl, first, second⟩
          | cons y' more =>
              rw [List.cons_append, List.cons.injEq, List.append_eq_nil_iff] at eq
              obtain ⟨rfl, rfl, rest⟩ := eq
              exact Or.inl ⟨a, by rw [flatMap_eq_nil nonempty rest], first⟩

end Counting

end Afanctl.Lib
