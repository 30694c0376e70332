/-!
The past operator "since" over a growing history.

`Since P Q xs` says that some entry of `xs` met `P` and that every entry after it met
`Q`; both may look at what came before the entry. One rule tells what another entry does
to it.
-/

namespace Afanctl.Lib

variable {α : Type}

/-- Where an entry lies in a history with another one at its end. -/
theorem concat_split {xs before rest : List α} {x y : α} (split : xs ++ [y] = before ++ x :: rest) :
    (rest = [] ∧ before = xs ∧ x = y) ∨ ∃ init, rest = init ++ [y] ∧ xs = before ++ x :: init := by
  rcases List.eq_nil_or_concat rest with rfl | ⟨init, last, rfl⟩
  · obtain ⟨front, same⟩ := List.append_inj' split rfl
    exact .inl ⟨rfl, front.symm, (List.cons.inj same).1.symm⟩
  · rw [List.concat_eq_append, ← List.cons_append, ← List.append_assoc] at split
    obtain ⟨front, same⟩ := List.append_inj' split rfl
    exact .inr ⟨init, by rw [List.concat_eq_append, (List.cons.inj same).1], front⟩

/-- Some entry met `P`, and every later one `Q`. -/
def Since (P Q : List α → α → Prop) (xs : List α) : Prop :=
  ∃ before x rest, xs = before ++ x :: rest ∧ P before x ∧
    ∀ earlier y later, rest = earlier ++ y :: later → Q (before ++ x :: earlier) y

variable {P Q : List α → α → Prop} {xs : List α} {y : α}

@[simp] theorem not_since_nil : ¬ Since P Q [] := by
  rintro ⟨before, x, rest, split, -⟩
  cases before <;> cases split

/-- Another entry starts anew or carries on. -/
theorem since_concat : Since P Q (xs ++ [y]) ↔ P xs y ∨ Since P Q xs ∧ Q xs y := by
  constructor
  · rintro ⟨before, x, rest, split, start, holds⟩
    rcases concat_split split with ⟨rfl, rfl, rfl⟩ | ⟨init, rfl, rfl⟩
    · exact .inl start
    · refine .inr ⟨⟨before, x, init, rfl, start, fun earlier z later middle => ?_⟩, ?_⟩
      · exact holds earlier z (later ++ [y]) (by simp [middle])
      · exact holds init y [] rfl
  · rintro (now | ⟨⟨before, x, rest, rfl, start, holds⟩, last⟩)
    · exact ⟨xs, y, [], rfl, now, fun earlier z later split => by cases earlier <;> cases split⟩
    · refine ⟨before, x, rest ++ [y], by simp, start, fun earlier z later split => ?_⟩
      rcases concat_split split with ⟨rfl, rfl, rfl⟩ | ⟨init, rfl, rfl⟩
      · exact last
      · exact holds earlier z init rfl

end Afanctl.Lib
