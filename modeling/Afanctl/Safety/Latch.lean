import Afanctl.Safety.Authority

/-!
The monitor-only latch.

No move unlatches, and none of a latched custody changes the hardware but towards
AUTO. Only the command stage unlatches, on a fresh Curve or Hold command with a
proven L2, so the latch lasts until the first poll that accepts one.
-/

namespace Afanctl

open Afanctl.Lib

namespace Custody

variable {c c' : Custody} {es : List Event}

theorem degraded_latched (answer : Except SmcError FanMode) (c : Custody) :
    (c.degraded answer).monitorOnly = true := by
  cases answer <;> rfl

theorem struck_latched (answer : Except SmcError FanMode) (latched : c.monitorOnly = true) :
    (c.struck answer).monitorOnly = true := by
  unfold struck
  split
  · exact degraded_latched answer c
  · exact latched

/-- A latched custody is not driving. -/
theorem not_driving (latched : c.monitorOnly = true) : ¬ c.Driving := by
  rintro ⟨-, control⟩
  simp [latched] at control

/-- Moves keep the latch. -/
theorem Move.latched (move : Move c es c') (latched : c.monitorOnly = true) :
    c'.monitorOnly = true := by
  cases move with
  | lookFailed _ answer => exact struck_latched answer latched
  | takeoverFailed _ _ answer => exact struck_latched answer latched
  | writeFailed _ _ _ answer => exact struck_latched answer latched
  | releaseFailed _ answer => exact struck_latched answer latched
  | degrade answer => exact degraded_latched answer c
  | _ => exact latched

/-- A latched custody changes the hardware towards AUTO only. -/
theorem Move.latched_silent (move : Move c es c') (latched : c.monitorOnly = true) :
    ∀ e ∈ es, e.changing → e.autoAttempt := by
  intro e mem changes
  cases move with
  | takeover _ _ driving => exact absurd driving (not_driving latched)
  | write _ _ _ driving => exact absurd driving (not_driving latched)
  | takeoverFailed _ _ _ driving => exact absurd driving (not_driving latched)
  | writeFailed _ _ _ _ driving => exact absurd driving (not_driving latched)
  | lookFailed =>
      rcases mem_strike mem with rfl | attempt
      · cases changes
      · exact attempt
  | releaseFailed =>
      rcases mem_strike mem with rfl | attempt
      · rfl
      · exact attempt
  | release | restore | restoreFailed | degrade =>
      rw [List.mem_singleton.mp mem]
      rfl
  | _ =>
      rw [List.mem_singleton.mp mem] at changes
      cases changes

/-- The command stage keeps the latch unless it accepts a control mode. -/
theorem Obeys.latched {command : Option RunMode} (obeys : Obeys command c es c')
    (unaccepted : ∀ requested, command = some requested → requested ≠ .observe → c.l2Absent = true)
    (latched : c.monitorOnly = true) : c'.monitorOnly = true := by
  cases obeys with
  | accepted control proven => simp [unaccepted _ rfl control] at proven
  | releaseFailed _ answer =>
      exact struck_latched (c := c.releasing) answer latched
  | _ => exact latched

/-- Without an accepted control command, a poll keeps the latch and changes the
hardware towards AUTO only. -/
theorem Poll.latched {command : Option RunMode} (poll : Poll command c es c')
    (unaccepted : ∀ requested, command = some requested → requested ≠ .observe → c.l2Absent = true)
    (latched : c.monitorOnly = true) :
    c'.monitorOnly = true ∧ ∀ e ∈ es, e.changing → e.autoAttempt := by
  obtain ⟨commanded, es₁, moved, es₂, obeys, steps, rfl, ends⟩ := poll
  have commanded_latched := obeys.latched unaccepted latched
  have moved_latched : moved.monitorOnly = true :=
    steps.invariant (I := fun x => x.monitorOnly = true) (fun move => move.latched)
      commanded_latched
  refine ⟨by rcases ends with rfl | rfl <;> exact moved_latched, fun e mem changes => ?_⟩
  rcases List.mem_append.mp mem with mem | mem
  · exact obeys.attempts e mem
  · exact steps.emits (I := fun x => x.monitorOnly = true) (fun move => move.latched)
      (fun move latched => move.latched_silent latched) commanded_latched e mem changes

/-- An accepted control command unlatches. -/
theorem accepting_unlatched (requested : RunMode) (c : Custody) :
    (c.accepting requested).monitorOnly = false := by
  unfold accepting
  cases latched : c.monitorOnly with
  | true => rfl
  | false => rfl

end Custody

namespace Supervisor

section Runs

variable {σ : Type} [Smc σ] [SerdeJson]

theorem next_latched {host : Host} {s : Supervisor σ} (sound : s.Sound)
    (unaccepted : ¬ s.Accepts host) (latched : s.monitorOnly = true) :
    (s.next host).monitorOnly = true ∧ ∀ e ∈ s.calls host, e.changing → e.autoAttempt := by
  refine (poll_refines host s sound).latched (fun requested fresh control => ?_) latched
  cases proven : s.l2Absent with
  | true => rfl
  | false => exact absurd ⟨requested, fresh, control, proven⟩ unaccepted

theorem commanded_unlatched {host : Host} {s : Supervisor σ} (accepts : s.Accepts host) :
    (s.commanded host).monitorOnly = false := by
  obtain ⟨requested, fresh, control, proven⟩ := accepts
  have obeys := commanded_obeys host s
  rw [fresh] at obeys
  generalize (s.commanded host).log = es, (s.commanded host).toCustody = c at obeys ⊢
  cases obeys with
  | accepted => exact Custody.accepting_unlatched requested _
  | refused _ absent => simp [proven] at absent
  | _ => exact absurd rfl control

/-- From any reached latched state, over any run of polls that accept no fresh
Curve or Hold command, the latch stays and the only state-changing calls are
`setMode auto`; the first poll that accepts one unlatches in its command stage. -/
theorem latch_persists {s : Supervisor σ} {history : List Event} (reach : Reachable s history)
    (latched : s.monitorOnly = true) {hosts : List Host}
    (unaccepted : loop.Along (fun host s => ¬ s.Accepts host) hosts s) :
    (loop.run hosts s).monitorOnly = true ∧
      (∀ e ∈ loop.trace hosts s, e.changing → e.autoAttempt) ∧
      ∀ host, (loop.run hosts s).Accepts host →
        ((loop.run hosts s).commanded host).monitorOnly = false := by
  have start : s.Sound ∧ s.monitorOnly = true := ⟨reach_sound reach, latched⟩
  have keeps : ∀ {host : Host} {s : Supervisor σ}, ¬ s.Accepts host →
      s.Sound ∧ s.monitorOnly = true → (s.next host).Sound ∧ (s.next host).monitorOnly = true :=
    fun unaccepted kept => ⟨next_sound _ kept.1, (next_latched kept.1 unaccepted kept.2).1⟩
  refine ⟨(loop.run_invariant (I := fun s => s.Sound ∧ s.monitorOnly = true) keeps unaccepted
    start).2, ?_, fun host accepts => commanded_unlatched accepts⟩
  exact loop.trace_forall (I := fun s => s.Sound ∧ s.monitorOnly = true)
    (Q := fun e => e.changing → e.autoAttempt) keeps
    (fun unaccepted kept => (next_latched kept.1 unaccepted kept.2).2) unaccepted start

end Runs

section Refused

attribute [local instance] Bench.json

/-- A bench daemon whose first three takeovers were refused. -/
def refusedDaemon : Supervisor Bench :=
  loop.run [Bench.quiet, Bench.quiet, Bench.quiet] (Bench.daemon Bench.refusing (.hold 3000))

/-- An observe command, a garbled file and a quiet poll. -/
def refusedHosts : List Host :=
  [Bench.commanding Bench.observeText, Bench.commanding "garbled", Bench.quiet]

theorem latch_persists_refused :
    (loop.run refusedHosts refusedDaemon).monitorOnly = true ∧
      (∀ e ∈ loop.trace refusedHosts refusedDaemon, e.changing → e.autoAttempt) ∧
      ∀ host, (loop.run refusedHosts refusedDaemon).Accepts host →
        ((loop.run refusedHosts refusedDaemon).commanded host).monitorOnly = false :=
  latch_persists (Bench.daemon_reachable Bench.refusing ⟨rfl, rfl⟩ (.hold 3000) _) (by decide)
    (by decide)

end Refused

end Supervisor

end Afanctl
