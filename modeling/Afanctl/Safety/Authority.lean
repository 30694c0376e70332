import Afanctl.Bench

/-!
The authority to drive.

A takeover or a speed write is made only in a driving custody with a proven L2,
and a latched custody makes no call that changes the hardware but AUTO. Both are
facts about the moves of the automaton; a poll has them because it refines it.
-/

namespace Afanctl

open Afanctl.Lib

namespace Custody

variable {c c' : Custody} {es : List Event}

/-! ### Control writes need authority -/

/-- The authority a control write is made with. -/
def Authorized (c : Custody) : Prop := c.Driving ∧ c.l2Absent = false

/-- A control write is made in the custody the move starts from, and that has the
authority. -/
theorem Move.authorized (move : Move c es c') :
    ∀ e ∈ es, e.control → e.custody = c ∧ c.Authorized := by
  intro e mem control
  cases move with
  | takeover _ _ driving proven | write _ _ _ driving proven =>
      rw [List.mem_singleton.mp mem]
      exact ⟨rfl, driving, proven⟩
  | takeoverFailed _ _ _ driving proven | writeFailed _ _ _ _ driving proven =>
      rcases mem_strike mem with rfl | attempt
      · exact ⟨rfl, driving, proven⟩
      · exact absurd control (Event.not_control_of_autoAttempt attempt)
  | lookFailed | releaseFailed =>
      rcases mem_strike mem with rfl | attempt
      · cases control
      · exact absurd control (Event.not_control_of_autoAttempt attempt)
  | _ =>
      rw [List.mem_singleton.mp mem] at control
      cases control

/-- The command stage learns nothing about L2. -/
theorem Obeys.l2Absent_eq {command : Option RunMode} (obeys : Obeys command c es c') :
    c'.l2Absent = c.l2Absent := by
  cases obeys with
  | accepted =>
      unfold accepting
      split <;> rfl
  | releaseFailed _ answer => exact (struck_mode answer c.releasing).2
  | _ => rfl

/-- A poll learns nothing about L2. -/
theorem Poll.l2Absent_eq {command : Option RunMode} (poll : Poll command c es c') :
    c'.l2Absent = c.l2Absent := by
  obtain ⟨commanded, es₁, moved, es₂, obeys, steps, -, ends⟩ := poll
  have kept : moved.l2Absent = c.l2Absent :=
    steps.invariant (I := fun x => x.l2Absent = c.l2Absent)
      (fun move kept => move.mode_eq.2.trans kept) obeys.l2Absent_eq
  rcases ends with rfl | rfl <;> exact kept

/-- A control write of a poll is made with authority, and only under a proven L2. -/
theorem Poll.authorized {command : Option RunMode} (poll : Poll command c es c') :
    ∀ e ∈ es, e.control → e.custody.Authorized ∧ c.l2Absent = false := by
  intro e mem control
  obtain ⟨commanded, es₁, moved, es₂, obeys, steps, rfl, -⟩ := poll
  rcases List.mem_append.mp mem with mem | mem
  · exact absurd control (Event.not_control_of_autoAttempt (obeys.attempts e mem))
  · refine steps.emits (I := fun x => x.l2Absent = c.l2Absent)
      (Q := fun e => e.control → e.custody.Authorized ∧ c.l2Absent = false)
      (fun move kept => move.mode_eq.2.trans kept) ?_ obeys.l2Absent_eq e mem control
    intro a os b move kept e mem control
    obtain ⟨at_start, authorized⟩ := move.authorized e mem control
    exact ⟨at_start ▸ authorized, kept.symm.trans authorized.2⟩

end Custody

/-! ### Over whole runs -/

namespace Supervisor

section Runs

variable {σ : Type} [Smc σ] [SerdeJson]

theorem next_l2Absent (host : Host) {s : Supervisor σ} (sound : s.Sound) :
    (s.next host).l2Absent = s.l2Absent :=
  (poll_refines host s sound).l2Absent_eq

/-- Control writes of a run from a sound state have authority, under a proven L2. -/
theorem trace_authorized (hosts : List Host) {s : Supervisor σ} (sound : s.Sound) :
    ∀ e ∈ loop.trace hosts s, e.control → e.custody.Authorized ∧ s.l2Absent = false :=
  loop.trace_forall (P := fun _ _ => True)
    (I := fun t : Supervisor σ => t.Sound ∧ t.l2Absent = s.l2Absent)
    (Q := fun e => e.control → e.custody.Authorized ∧ s.l2Absent = false)
    (fun _ kept => ⟨next_sound _ kept.1, (next_l2Absent _ kept.1).trans kept.2⟩)
    (fun {i t} _ kept e mem control =>
      have ⟨authorized, proven⟩ := (poll_refines i t kept.1).authorized e mem control
      ⟨authorized, kept.2.symm.trans proven⟩)
    (Machine.Along.of_forall (fun _ _ => trivial) hosts s) ⟨sound, rfl⟩

/-- Over any run from construction, through startup and any number of polls, every
takeover and every speed write is made in Curve or Hold, out of the latch, and with
an L2 that the startup probe proved. -/
theorem control_writes_authorized {smc : σ} {cfg : ResolvedConfig} {start : RunMode}
    {paths : RuntimePaths} {s : Supervisor σ} (built : Supervisor.new smc cfg start paths = .ok s)
    (boot : Host) (hosts : List Host) :
    ∀ e ∈ (s.started boot).log ++ loop.trace hosts (s.start boot), e.control →
      e.custody.mode ≠ .observe ∧ e.custody.monitorOnly = false ∧ e.custody.l2Absent = false ∧
        ∃ probe ∈ (s.started boot).log, ∃ restore,
          probe.site = .run ∧ probe.op = .probeSafeRestore (.ok restore) := by
  intro e mem control
  have up := started_startsUp boot (new_unowned built).1
  have sound : (s.start boot).Sound := up.unowned.sound up.observes
  rcases List.mem_append.mp mem with mem | mem
  · exact absurd control (up.silent e mem)
  · obtain ⟨⟨driving, proven⟩, armed⟩ := trace_authorized hosts sound e mem control
    exact ⟨driving.1, driving.2, proven, up.probed armed⟩

end Runs

section Held

attribute [local instance] Bench.json

/-- A supervisor built to hold 3000 rpm. -/
def heldSupervisor : Supervisor Bench :=
  .wired Bench.healthy Bench.config (.hold 3000) Bench.paths

/-- Its run has a takeover and a speed write, both authorized. -/
theorem control_writes_authorized_held :
    (loop.trace [Bench.quiet, Bench.quiet] (heldSupervisor.start Bench.quiet)).countP
        (·.control) = 2 ∧
      ∀ e ∈ (heldSupervisor.started Bench.quiet).log
          ++ loop.trace [Bench.quiet, Bench.quiet] (heldSupervisor.start Bench.quiet), e.control →
        e.custody.mode ≠ .observe ∧ e.custody.monitorOnly = false ∧ e.custody.l2Absent = false ∧
          ∃ probe ∈ (heldSupervisor.started Bench.quiet).log, ∃ restore,
            probe.site = .run ∧ probe.op = .probeSafeRestore (.ok restore) :=
  ⟨by decide, control_writes_authorized (Supervisor.new_eq_ok.mpr ⟨Bench.config_valid, rfl⟩)
    Bench.quiet [Bench.quiet, Bench.quiet]⟩

end Held

end Supervisor

end Afanctl
