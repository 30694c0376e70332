import Afanctl.Safety.Latch

/-!
Who gives the fan up, and when.

Every move either verifies AUTO or keeps the fan owned and a pending release
pending. So an owned fan is dropped, and a pending release forgotten, only in a poll
that verified AUTO; a release is also superseded by an accepted control command.
-/

namespace Afanctl

open Afanctl.Lib

namespace Custody

variable {c c' : Custody} {es : List Event}

/-- What is owned stays owned, and what is being released stays so. -/
def Keeps (c c' : Custody) : Prop :=
  (c.manualArmed = true → c'.manualArmed = true) ∧
    (c.autoRestorePending = true → c'.autoRestorePending = true)

theorem Keeps.refl (c : Custody) : c.Keeps c := ⟨id, id⟩

theorem Keeps.trans {c₁ c₂ c₃ : Custody} (first : c₁.Keeps c₂) (second : c₂.Keeps c₃) :
    c₁.Keeps c₃ :=
  ⟨second.1 ∘ first.1, second.2 ∘ first.2⟩

/-- The fallback's AUTO write is verified, or its failure keeps everything. -/
theorem degraded_keeps (answer : Except SmcError FanMode) (c : Custody) :
    (c.degradeEvent answer).verifiesAuto ∨ c.Keeps (c.degraded answer) := by
  cases answer with
  | ok _ => exact .inl rfl
  | error _ => exact .inr ⟨id, fun _ => rfl⟩

theorem struck_keeps (answer : Except SmcError FanMode) (c : Custody) :
    (∃ e ∈ c.struckLog answer, e.verifiesAuto) ∨ c.Keeps (c.struck answer) := by
  unfold struckLog struck
  split
  · exact (degraded_keeps answer c).imp
      (fun verified => ⟨_, List.mem_singleton.mpr rfl, verified⟩) id
  · exact .inr ⟨id, id⟩

theorem strike_keeps (first : Event) (answer : Except SmcError FanMode) (c : Custody) :
    (∃ e ∈ first :: c.struckLog answer, e.verifiesAuto) ∨ c.Keeps (c.struck answer) :=
  (struck_keeps answer c).imp
    (fun ⟨e, mem, verified⟩ => ⟨e, List.mem_cons_of_mem first mem, verified⟩) id

/-- A move verifies AUTO or keeps ownership and pending releases. -/
theorem Move.keeps (move : Move c es c') : (∃ e ∈ es, e.verifiesAuto) ∨ c.Keeps c' := by
  cases move with
  | lookFailed _ answer => exact strike_keeps _ answer c
  | takeoverFailed _ _ answer => exact strike_keeps _ answer c
  | writeFailed _ _ _ answer => exact strike_keeps _ answer c
  | releaseFailed _ answer => exact strike_keeps _ answer c
  | degrade answer =>
      exact (degraded_keeps answer c).imp
        (fun verified => ⟨_, List.mem_singleton.mpr rfl, verified⟩) id
  | release | seeAuto | restore => exact .inl ⟨_, List.mem_singleton.mpr rfl, rfl⟩
  | takeover => exact .inr ⟨fun _ => rfl, id⟩
  | sense | look | write | restoreFailed => exact .inr ⟨id, id⟩

theorem steps_keep (steps : Steps Move c es c') :
    (∃ e ∈ es, e.verifiesAuto) ∨ c.Keeps c' :=
  steps.emits_or_related Keeps.refl Keeps.trans Move.keeps

/-- So does the command stage, unless it accepts a control mode. -/
theorem Obeys.keeps {command : Option RunMode} (obeys : Obeys command c es c') :
    (∃ e ∈ es, e.verifiesAuto) ∨ c.Keeps c' ∨
      (c.manualArmed = true → c'.manualArmed = true) ∧
        ∃ requested, command = some requested ∧ requested ≠ .observe ∧ c.l2Absent = false := by
  cases obeys with
  | ignored | refused | already | left => exact .inr (.inl ⟨id, id⟩)
  | accepted control proven =>
      refine .inr (.inr ⟨fun armed => ?_, _, rfl, control, proven⟩)
      unfold accepting
      split <;> exact armed
  | released mode => exact .inl ⟨_, List.mem_singleton.mpr rfl, rfl⟩
  | releaseFailed e answer =>
      rcases strike_keeps ⟨.applyMode, .setMode .auto (.error e), c⟩ answer c.releasing with
        verified | kept
      · exact .inl verified
      · exact .inr (.inl ⟨kept.1, fun _ => kept.2 rfl⟩)

/-- An owned fan is given up only by a poll that verified AUTO. -/
theorem Poll.armed_given_up {command : Option RunMode} (poll : Poll command c es c')
    (owned : c.manualArmed = true) (dropped : c'.manualArmed = false) :
    ∃ e ∈ es, e.verifiesAuto := by
  obtain ⟨commanded, es₁, moved, es₂, obeys, steps, rfl, ends⟩ := poll
  have dropped : moved.manualArmed = false := by
    rcases ends with rfl | rfl <;> exact dropped
  have kept : (∃ e ∈ es₁, e.verifiesAuto) ∨ commanded.manualArmed = true :=
    obeys.keeps.imp id fun kept => kept.elim (·.1 owned) (·.1 owned)
  rcases kept with ⟨e, mem, verified⟩ | owned
  · exact ⟨e, List.mem_append.mpr (.inl mem), verified⟩
  · rcases steps_keep steps with ⟨e, mem, verified⟩ | kept
    · exact ⟨e, List.mem_append.mpr (.inr mem), verified⟩
    · simp [kept.1 owned] at dropped

/-- A pending release ends only in a poll that verified AUTO or accepted a control
mode. -/
theorem Poll.pending_ended {command : Option RunMode} (poll : Poll command c es c')
    (pending : c.autoRestorePending = true) (ended : c'.autoRestorePending = false) :
    (∃ e ∈ es, e.verifiesAuto) ∨
      ∃ requested, command = some requested ∧ requested ≠ .observe ∧ c.l2Absent = false := by
  obtain ⟨commanded, es₁, moved, es₂, obeys, steps, rfl, ends⟩ := poll
  have ended : moved.autoRestorePending = false := by
    rcases ends with rfl | rfl <;> exact ended
  rcases obeys.keeps with ⟨e, mem, verified⟩ | kept | ⟨-, accepted⟩
  · exact .inl ⟨e, List.mem_append.mpr (.inl mem), verified⟩
  · rcases steps_keep steps with ⟨e, mem, verified⟩ | kept'
    · exact .inl ⟨e, List.mem_append.mpr (.inr mem), verified⟩
    · simp [kept'.2 (kept.2 pending)] at ended
  · exact .inr accepted

end Custody

namespace Supervisor

section Runs

variable {σ : Type} [Smc σ] [SerdeJson]

/-- A release that is pending after the command stage is attempted in that poll:
the retry writes AUTO or reads it. -/
theorem pending_attempted {host : Host} {s : Supervisor σ} (sound : s.Sound)
    (pending : (s.commanded host).autoRestorePending = true) :
    ∃ e ∈ s.calls host, e.site = .autoRestoreRetry ∧
      (e.autoAttempt ∨ ∃ rpm, e.op = .readFan (.ok ⟨rpm, .auto⟩)) := by
  have sound := (moves_retried host s).sound (sound.obeys (commanded_obeys host s))
  have inside := retried_log_subset host s sound
  rcases Frame.autoRestoreRetry_cases (s.commanded host) with ⟨idle, -⟩ | ⟨-, rpm, -, -, log⟩ |
    ⟨-, -, log, -⟩
  · simp [pending] at idle
  · refine ⟨⟨.autoRestoreRetry, .readFan (.ok ⟨rpm, .auto⟩), (s.commanded host).toCustody⟩,
      inside ?_, rfl, .inr ⟨rpm, rfl⟩⟩
    unfold retried
    rw [log]
    exact List.mem_append_right _ (List.mem_singleton.mpr rfl)
  · have last : ⟨.autoRestoreRetry, .setMode .auto
        (Smc.setMode .auto (Smc.readFan (s.commanded host).smc).2).1,
        (s.commanded host).toCustody⟩ ∈ (s.retried host).log := by
      unfold retried
      rw [log]
      exact List.mem_append_right _ (List.mem_singleton.mpr rfl)
    exact ⟨_, inside last, rfl, .inl rfl⟩

/-- What one poll from `s` never does to an owned fan. -/
structure NeverStrands (host : Host) (s : Supervisor σ) : Prop where
  /-- (a) an owned fan is given up only if AUTO was verified -/
  dropped : s.manualArmed = true → (s.next host).manualArmed = false →
    ∃ e ∈ s.calls host, e.verifiesAuto
  /-- (b) a fan still owned while the daemon does not control it is being released -/
  covered : (s.next host).manualArmed = true →
    (s.next host).mode = .observe ∨ (s.next host).monitorOnly = true →
    (s.next host).autoRestorePending = true
  /-- (c) a pending release ends only if AUTO was verified or a control command accepted -/
  ended : s.autoRestorePending = true → (s.next host).autoRestorePending = false →
    (∃ e ∈ s.calls host, e.verifiesAuto) ∨ s.Accepts host
  /-- (d) a release pending after the command stage is attempted -/
  attempted : (s.commanded host).autoRestorePending = true →
    ∃ e ∈ s.calls host, e.site = .autoRestoreRetry ∧
      (e.autoAttempt ∨ ∃ rpm, e.op = .readFan (.ok ⟨rpm, .auto⟩))

/-- No poll from any reached state drops or strands an owned fan. -/
theorem owned_never_stranded {s : Supervisor σ} {history : List Event}
    (reach : Reachable s history) (host : Host) : s.NeverStrands host := by
  have sound := reach_sound reach
  have poll := poll_refines host s sound
  refine ⟨poll.armed_given_up, fun owned idle => ?_, poll.pending_ended,
    pending_attempted sound⟩
  refine (sound.poll poll).owned owned fun driving => ?_
  rcases idle with observe | latched
  · exact driving.1 observe
  · exact Custody.not_driving latched driving

end Runs

section Refused

attribute [local instance] Bench.json

/-- A bench daemon that owns the fan and is about to be refused an observe release. -/
def strandedDaemon : Supervisor Bench :=
  loop.run [Bench.quiet]
    (Bench.daemon { Bench.healthy with mode := [none, some Bench.refused, some Bench.refused] }
      (.hold 3000))

theorem owned_never_stranded_refused :
    strandedDaemon.NeverStrands (Bench.commanding Bench.observeText) :=
  owned_never_stranded (Bench.daemon_reachable _ ⟨rfl, rfl⟩ (.hold 3000) [Bench.quiet]) _

/-- The refused release is still pending after that poll. -/
example : (strandedDaemon.next (Bench.commanding Bench.observeText)).autoRestorePending = true := by
  decide

end Refused

end Supervisor

end Afanctl
