/-!
Finite sequences of steps that emit.

A step relation `step a os b` takes `a` to `b` and emits the list `os`. `Steps`
is its closure, with the emissions concatenated. Four rules carry every use: an
invariant of the steps holds at the end, also one that speaks of everything emitted
before, a property of what each step emits holds of everything emitted, and steps that
emit nothing of a kind stay within a preorder.
-/

namespace Afanctl.Lib

variable {α ω : Type}

/-- `Steps step a os b`: finitely many steps lead from `a` to `b`, emitting `os`. -/
inductive Steps (step : α → List ω → α → Prop) : α → List ω → α → Prop where
  | refl (a : α) : Steps step a [] a
  | tail {a b c : α} {os os' : List ω} :
      Steps step a os b → step b os' c → Steps step a (os ++ os') c

namespace Steps

variable {step : α → List ω → α → Prop} {a b c : α} {os os' : List ω}

theorem single (h : step a os b) : Steps step a os b := by
  simpa using Steps.tail (.refl a) h

theorem trans (first : Steps step a os b) (second : Steps step b os' c) :
    Steps step a (os ++ os') c := by
  induction second with
  | refl => simpa using first
  | tail _ last ih =>
      rw [← List.append_assoc]
      exact ih.tail last

/-- What every step preserves holds at the end. -/
theorem invariant {I : α → Prop} (keeps : ∀ {a os b}, step a os b → I a → I b)
    (steps : Steps step a os b) (start : I a) : I b := by
  induction steps with
  | refl => exact start
  | tail _ last ih => exact keeps last ih

/-- What every step carries from the emissions before it to those with its own holds at
the end. -/
theorem history {I : α → List ω → Prop}
    (keeps : ∀ {a os b past}, step a os b → I a past → I b (past ++ os)) {past : List ω}
    (steps : Steps step a os b) (start : I a past) : I b (past ++ os) := by
  induction steps with
  | refl =>
      rw [List.append_nil]
      exact start
  | tail _ last ih =>
      rw [← List.append_assoc]
      exact keeps last ih

/-- What every step from an invariant state says of its emissions holds of all
of them. -/
theorem emits {I : α → Prop} {Q : ω → Prop} (keeps : ∀ {a os b}, step a os b → I a → I b)
    (tells : ∀ {a os b}, step a os b → I a → ∀ o ∈ os, Q o) (steps : Steps step a os b)
    (start : I a) : ∀ o ∈ os, Q o := by
  induction steps with
  | refl => simp
  | tail before last ih =>
      intro o mem
      rcases List.mem_append.mp mem with mem | mem
      · exact ih o mem
      · exact tells last (before.invariant keeps start) o mem

/-- Steps that each emit a `Q` or stay within a preorder `R` do so as a whole. -/
theorem emits_or_related {R : α → α → Prop} {Q : ω → Prop} (refl : ∀ a, R a a)
    (trans : ∀ {a b c}, R a b → R b c → R a c)
    (each : ∀ {a os b}, step a os b → (∃ o ∈ os, Q o) ∨ R a b) (steps : Steps step a os b) :
    (∃ o ∈ os, Q o) ∨ R a b := by
  induction steps with
  | refl => exact .inr (refl _)
  | tail _ last ih =>
      rcases ih with ⟨o, mem, emitted⟩ | related
      · exact .inl ⟨o, List.mem_append.mpr (.inl mem), emitted⟩
      · rcases each last with ⟨o, mem, emitted⟩ | kept
        · exact .inl ⟨o, List.mem_append.mpr (.inr mem), emitted⟩
        · exact .inr (trans related kept)

end Steps

end Afanctl.Lib
