/-!
Deterministic machines that emit.

Each input moves the state and emits a list of outputs. `run` and `trace` are the
state and the outputs after a list of inputs, `Along` says that a condition holds
at every step of such a run, and `Reach` collects the states of all runs together
with everything emitted on the way. The rules below are the inductions over runs.
-/

namespace Afanctl.Lib

/-- A deterministic machine with inputs `ι`, states `σ` and outputs `ω`. -/
structure Machine (ι σ ω : Type) where
  next : ι → σ → σ
  out : ι → σ → List ω

namespace Machine

variable {ι σ ω : Type} (m : Machine ι σ ω)

/-- The state after a list of inputs. -/
def run : List ι → σ → σ
  | [], s => s
  | i :: is, s => run is (m.next i s)

/-- The outputs of a list of inputs. -/
def trace : List ι → σ → List ω
  | [], _ => []
  | i :: is, s => m.out i s ++ trace is (m.next i s)

/-- The condition `P` holds at every step of the run. -/
def Along (P : ι → σ → Prop) : List ι → σ → Prop
  | [], _ => True
  | i :: is, s => P i s ∧ Along P is (m.next i s)

instance instDecidableAlong (P : ι → σ → Prop) [∀ i s, Decidable (P i s)] :
    ∀ (is : List ι) (s : σ), Decidable (m.Along P is s)
  | [], _ => isTrue trivial
  | i :: is, s =>
      have := instDecidableAlong P is (m.next i s)
      inferInstanceAs (Decidable (P i s ∧ m.Along P is (m.next i s)))

/-- Every step of every run from `init` is `allowed`; the list is everything
emitted so far. -/
inductive Reach (init : σ → List ω → Prop) (allowed : ι → σ → Prop) : σ → List ω → Prop where
  | start {s : σ} {os : List ω} : init s os → Reach init allowed s os
  | step {s : σ} {os : List ω} (i : ι) :
      Reach init allowed s os → allowed i s → Reach init allowed (m.next i s) (os ++ m.out i s)

variable {m}

/-- The run rule: what every step meeting `P` preserves holds after the run. -/
theorem run_invariant {P : ι → σ → Prop} {I : σ → Prop}
    (keeps : ∀ {i s}, P i s → I s → I (m.next i s)) {is : List ι} {s : σ}
    (along : m.Along P is s) (start : I s) : I (m.run is s) := by
  induction is generalizing s with
  | nil => exact start
  | cons i is ih => exact ih along.2 (keeps along.1 start)

/-- The output rule: what every step meeting `P` says of its outputs holds of all
of them. -/
theorem trace_forall {P : ι → σ → Prop} {I : σ → Prop} {Q : ω → Prop}
    (keeps : ∀ {i s}, P i s → I s → I (m.next i s))
    (tells : ∀ {i s}, P i s → I s → ∀ o ∈ m.out i s, Q o) {is : List ι} {s : σ}
    (along : m.Along P is s) (start : I s) : ∀ o ∈ m.trace is s, Q o := by
  induction is generalizing s with
  | nil => intro o mem; cases mem
  | cons i is ih =>
      intro o mem
      rcases List.mem_append.mp mem with mem | mem
      · exact tells along.1 start o mem
      · exact ih along.2 (keeps along.1 start) o mem

/-- The step rule: what every step meeting `P` preserves and what it then says of the step
hold along the run. -/
theorem along_invariant {P Q : ι → σ → Prop} {I : σ → Prop}
    (keeps : ∀ {i s}, P i s → I s → I (m.next i s)) (tells : ∀ {i s}, P i s → I s → Q i s)
    {is : List ι} {s : σ} (along : m.Along P is s) (start : I s) : m.Along Q is s := by
  induction is generalizing s with
  | nil => trivial
  | cons i is ih => exact ⟨tells along.1 start, ih along.2 (keeps along.1 start)⟩

/-- The history rule: what every step carries from the inputs so far to one more
holds of all of them. -/
theorem run_history {T : List ι → σ → Prop}
    (keeps : ∀ {seen i s}, T seen s → T (seen ++ [i]) (m.next i s)) (is : List ι)
    {seen : List ι} {s : σ} (start : T seen s) : T (seen ++ is) (m.run is s) := by
  induction is generalizing seen s with
  | nil =>
      rw [List.append_nil]
      exact start
  | cons i is ih =>
      have rest := ih (keeps (i := i) start)
      rwa [List.append_assoc] at rest

theorem run_append (is js : List ι) (s : σ) :
    m.run (is ++ js) s = m.run js (m.run is s) := by
  induction is generalizing s with
  | nil => rfl
  | cons i is ih => exact ih (m.next i s)

/-- A condition holds along a run exactly if it does along both its parts. -/
theorem along_append {P : ι → σ → Prop} {is js : List ι} {s : σ} :
    m.Along P (is ++ js) s ↔ m.Along P is s ∧ m.Along P js (m.run is s) := by
  induction is generalizing s with
  | nil => simp [Along, Machine.run]
  | cons i is ih => simp only [List.cons_append, Along, Machine.run, ih, and_assoc]

theorem Along.mono {P Q : ι → σ → Prop} (sub : ∀ {i s}, P i s → Q i s) {is : List ι} {s : σ}
    (along : m.Along P is s) : m.Along Q is s := by
  induction is generalizing s with
  | nil => trivial
  | cons i is ih => exact ⟨sub along.1, ih along.2⟩

theorem Along.and {P Q : ι → σ → Prop} {is : List ι} {s : σ} (first : m.Along P is s)
    (second : m.Along Q is s) : m.Along (fun i s => P i s ∧ Q i s) is s := by
  induction is generalizing s with
  | nil => trivial
  | cons i is ih => exact ⟨⟨first.1, second.1⟩, ih first.2 second.2⟩

theorem Along.of_forall {P : ι → σ → Prop} (all : ∀ i s, P i s) (is : List ι) (s : σ) :
    m.Along P is s := by
  induction is generalizing s with
  | nil => trivial
  | cons i is ih => exact ⟨all i s, ih _⟩

theorem Along.of_mem {P : ι → Prop} {is : List ι} (all : ∀ i ∈ is, P i) (s : σ) :
    m.Along (fun i _ => P i) is s := by
  induction is generalizing s with
  | nil => trivial
  | cons i is ih => exact ⟨all i List.mem_cons_self, ih (fun j mem => all j (.tail i mem)) _⟩

/-- The simulation rule: related states that emit alike and stay related run
alike. -/
theorem run_related {m' : Machine ι σ ω} {R : σ → σ → Prop}
    (sim : ∀ {i s t}, R s t → R (m.next i s) (m'.next i t) ∧ m.out i s = m'.out i t)
    (is : List ι) {s t : σ} (start : R s t) :
    R (m.run is s) (m'.run is t) ∧ m.trace is s = m'.trace is t := by
  induction is generalizing s t with
  | nil => exact ⟨start, rfl⟩
  | cons i is ih =>
      obtain ⟨related, same⟩ := sim (i := i) start
      obtain ⟨related, rest⟩ := ih related
      refine ⟨related, ?_⟩
      show m.out i s ++ m.trace is (m.next i s) = m'.out i t ++ m'.trace is (m'.next i t)
      rw [same, rest]

namespace Reach

variable {init : σ → List ω → Prop} {allowed : ι → σ → Prop} {s : σ} {os : List ω}

/-- An invariant of the allowed steps holds wherever they lead. -/
theorem invariant {I : σ → List ω → Prop} (base : ∀ {s os}, init s os → I s os)
    (keeps : ∀ {i s os}, allowed i s → I s os → I (m.next i s) (os ++ m.out i s))
    (reach : m.Reach init allowed s os) : I s os := by
  induction reach with
  | start launched => exact base launched
  | step i _ allow ih => exact keeps allow ih

/-- A run from a reached state reaches its end. -/
theorem run (reach : m.Reach init allowed s os) {is : List ι} (along : m.Along allowed is s) :
    m.Reach init allowed (m.run is s) (os ++ m.trace is s) := by
  induction is generalizing s os with
  | nil => simpa [Machine.run, trace] using reach
  | cons i is ih =>
      have := ih (reach.step i along.1) along.2
      rwa [List.append_assoc] at this

end Reach

end Machine

end Afanctl.Lib
