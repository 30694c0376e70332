/-!
When a computation that may fail succeeds, and what it fails with.
-/

namespace Afanctl.Lib

variable {ε α β : Type}

/-- A sequence succeeds exactly if both its parts do. -/
theorem bind_ok_iff {x : Except ε α} {f : α → Except ε β} {b : β} :
    x >>= f = .ok b ↔ ∃ a, x = .ok a ∧ f a = .ok b := by
  cases x with
  | error e => exact ⟨nofun, fun ⟨_, eq, _⟩ => nomatch eq⟩
  | ok a => exact ⟨fun eq => ⟨a, rfl, eq⟩, fun ⟨_, same, eq⟩ => Except.ok.inj same ▸ eq⟩

theorem map_ok_iff {x : Except ε α} {f : α → β} {b : β} :
    x.map f = .ok b ↔ ∃ a, x = .ok a ∧ f a = b := by
  cases x with
  | error e => exact ⟨nofun, fun ⟨_, eq, _⟩ => nomatch eq⟩
  | ok a =>
      exact ⟨fun eq => ⟨a, rfl, Except.ok.inj eq⟩,
        fun ⟨_, same, eq⟩ => congrArg Except.ok (Except.ok.inj same ▸ eq)⟩

/-! ### Errors -/

/-- Every error that a computation can fail with has a property. -/
def FailsWith (P : ε → Prop) (x : Except ε α) : Prop := ∀ e, x = .error e → P e

section Errors

variable {P : ε → Prop}

theorem failsWith_ok (a : α) : FailsWith P (.ok a) := by
  intro e error
  cases error

theorem failsWith_error {e : ε} (h : P e) : FailsWith P (.error e : Except ε α) := by
  intro e' error
  cases error
  exact h

theorem FailsWith.bind {x : Except ε α} {f : α → Except ε β} (first : FailsWith P x)
    (rest : ∀ a, FailsWith P (f a)) : FailsWith P (x >>= f) := by
  intro e error
  cases x with
  | error e' =>
      cases error
      exact first e rfl
  | ok a => exact rest a e error

theorem FailsWith.map {x : Except ε α} (f : α → β) (only : FailsWith P x) :
    FailsWith P (x.map f) := by
  intro e error
  cases x with
  | error e' =>
      cases error
      exact only e rfl
  | ok a => cases error

end Errors

end Afanctl.Lib
