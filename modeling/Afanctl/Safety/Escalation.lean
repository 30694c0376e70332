import Afanctl.Bench
import Afanctl.Safety.Commanded

/-!
The overshoot guard commands the configured ceiling.

Whatever the fan was driven at, a poll that escalates ends with `max_rpm`, clamped to the
hardware band, as the written value; only a stall of the same poll drops it. The guard
raises a held speed below that ceiling and lowers one above it.
-/

namespace Afanctl

open Afanctl.Lib

namespace Supervisor

section Runs

variable {σ : Type} [Smc σ] [SerdeJson] {host : Host} {s : Supervisor σ}

/-- What an escalation commands. -/
def ceiling (s : Supervisor σ) : Nat := clamp s.hwMin s.hwMax s.cfgMaxRpm

/-- An escalating poll whose calls succeed ends with the ceiling written, or with the stall
fallback; so it keeps the fan at least at what stood written exactly if that was not above
the ceiling and the fan is not stalled. -/
theorem escalation_commands_ceiling {history : List Event} (reach : Reachable s history)
    (host : Host) (escalates : (s.decided host).1 = .escalateMax)
    (exact : ∀ e ∈ s.calls host, e.exact s.band) :
    (s.next host).lastWritten
        = (if (s.acted host).1.StallsOut then none else some s.ceiling) ∧
      ((s.next host).monitorOnly = true ↔ (s.acted host).1.StallsOut) ∧
      ∀ w, s.lastWritten = some w →
        ((∃ r, (s.next host).lastWritten = some r ∧ w ≤ r) ↔
          w ≤ s.ceiling ∧ ¬ (s.acted host).1.StallsOut) := by
  obtain ⟨sound, -, -, room⟩ := reach_accounted reach
  have commands : (s.decided host).1.speed s.cfgMaxRpm = some s.cfgMaxRpm := by
    rw [escalates]
    rfl
  have ends := next_ends room (acted_driven sound room commands exact) exact
  have written : (s.next host).lastWritten
      = (if (s.acted host).1.StallsOut then none else some s.ceiling) := by
    rw [next_toCustody]
    split
    · next stalls => exact (ends.dropped stalls).2
    · next moves => exact (ends.driven moves).written
  refine ⟨written, ?_, fun w _ => ?_⟩
  · rw [next_toCustody]
    constructor
    · intro latched
      apply Decidable.byContradiction
      intro moves
      exact Bool.noConfusion ((ends.driven moves).control.symm.trans latched)
    · exact fun stalls => (ends.dropped stalls).1
  · rw [written]
    by_cases stalls : (s.acted host).1.StallsOut
    · simp [stalls]
    · simp [stalls]

end Runs

section Concrete

attribute [local instance] Bench.json

/-- A bench daemon in Hold over a core at 90 °C, as its third hot poll begins. -/
def overheated (rpm : Nat) : Supervisor Bench :=
  loop.run [Bench.quiet, Bench.quiet]
    (Bench.daemon { Bench.healthy with restSensors := Bench.reading 90000 } (.hold rpm))

theorem overheated_reachable (rpm : Nat) : ∃ history, Reachable (overheated rpm) history :=
  ⟨_, Bench.daemon_reachable { Bench.healthy with restSensors := Bench.reading 90000 } ⟨rfl, rfl⟩
    (.hold rpm) [Bench.quiet, Bench.quiet]⟩

/-- From a hold of 3000 rpm the guard raises the fan to the ceiling. -/
theorem escalation_commands_ceiling_raises :
    ((overheated 3000).next Bench.quiet).lastWritten = some 6200 ∧
      ∃ r, ((overheated 3000).next Bench.quiet).lastWritten = some r ∧ 3000 ≤ r := by
  obtain ⟨history, reach⟩ := overheated_reachable 3000
  obtain ⟨written, -, keeps⟩ :=
    escalation_commands_ceiling reach Bench.quiet (by decide) (by decide)
  refine ⟨written.trans (by decide), (keeps 3000 (by decide)).mpr (by decide)⟩

/-- From a hold of 7000 rpm, which the band admits, the guard slows it to the ceiling. -/
theorem escalation_slows :
    (∃ history, Reachable (overheated 7000) history) ∧
      (overheated 7000).mode = .hold 7000 ∧ (overheated 7000).manualArmed = true ∧
      (overheated 7000).lastWritten = some 7000 ∧
      ((overheated 7000).decided Bench.quiet).1 = .escalateMax ∧
      (∀ e ∈ (overheated 7000).calls Bench.quiet, e.exact (overheated 7000).band) ∧
      ((overheated 7000).next Bench.quiet).lastWritten = some 6200 :=
  ⟨overheated_reachable 7000, by decide, by decide, by decide, by decide, by decide, by decide⟩

end Concrete

end Supervisor

end Afanctl
