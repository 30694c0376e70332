import Afanctl.Safety.Latch

/-!
Releasing and driving.

A pending release and a driving custody are meant to exclude each other: the moves
keep them apart, and the command stage does when it leaves control or re-arms out
of a latch. It does not when it accepts a control mode while a failed observe
release is pending without the latch; `Supersedes` is the condition that excludes
exactly this.
-/

namespace Afanctl

open Afanctl.Lib

namespace Custody

variable {c c' : Custody} {es : List Event}

/-- A pending release only out of a driving custody. -/
def Apart (c : Custody) : Prop := c.autoRestorePending = true → ¬ c.Driving

theorem degraded_apart (answer : Except SmcError FanMode) (c : Custody) :
    (c.degraded answer).Apart :=
  fun _ => not_driving (degraded_latched answer c)

theorem struck_apart (answer : Except SmcError FanMode) (apart : c.Apart) :
    (c.struck answer).Apart := by
  unfold struck
  split
  · exact degraded_apart answer c
  · exact apart

theorem released_apart (c : Custody) : c.released.Apart := nofun

/-- Moves keep releasing and driving apart. -/
theorem Move.apart (move : Move c es c') (apart : c.Apart) : c'.Apart := by
  cases move with
  | lookFailed _ answer => exact struck_apart answer apart
  | takeoverFailed _ _ answer => exact struck_apart answer apart
  | writeFailed _ _ _ answer => exact struck_apart answer apart
  | releaseFailed _ answer => exact struck_apart answer apart
  | degrade answer => exact degraded_apart answer c
  | seeAuto | restore => exact released_apart c
  | _ => exact apart

theorem accepting_pending (requested : RunMode) (c : Custody) :
    (c.accepting requested).autoRestorePending = (c.autoRestorePending && !c.monitorOnly) := by
  unfold accepting
  cases c.monitorOnly <;> simp

theorem observing_apart (c : Custody) : { c with mode := .observe }.Apart :=
  fun _ driving => driving.1 rfl

/-- So does the command stage, if a control mode accepted over a pending release is
accepted out of a latch. -/
theorem Obeys.apart {command : Option RunMode} (obeys : Obeys command c es c')
    (supersedes : ∀ requested, command = some requested → requested ≠ .observe →
      c.l2Absent = false → c.autoRestorePending = true → c.monitorOnly = true)
    (apart : c.Apart) : c'.Apart := by
  cases obeys with
  | accepted control proven =>
      intro pending
      rw [accepting_pending] at pending
      cases held : c.autoRestorePending with
      | true => simp [held, supersedes _ rfl control proven held] at pending
      | false => simp [held] at pending
  | left | released | releaseFailed => exact observing_apart _
  | _ => exact apart

/-- An idle custody stays idle. -/
theorem Move.idle (move : Move c es c') (idle : ¬ c.Driving) : ¬ c'.Driving := by
  intro driving
  rw [Driving, move.mode_eq.1] at driving
  refine idle ⟨driving.1, ?_⟩
  cases latched : c.monitorOnly with
  | true => simp [move.latched latched] at driving
  | false => rfl

/-- And it makes no control write. -/
theorem steps_idle_silent (steps : Steps Move c es c') (idle : ¬ c.Driving) :
    ∀ e ∈ es, ¬ e.control :=
  steps.emits (I := fun c => ¬ c.Driving) (fun move => move.idle)
    (fun move idle e mem control => idle (move.authorized e mem control).2.1) idle

end Custody

namespace Supervisor

section Runs

variable {σ : Type} [Smc σ] [SerdeJson]

/-- A control mode accepted while a release is pending is accepted out of a latch. -/
def Supersedes (host : Host) (s : Supervisor σ) : Prop :=
  s.Accepts host → s.autoRestorePending = true → s.monitorOnly = true

instance (host : Host) (s : Supervisor σ) : Decidable (s.Supersedes host) :=
  inferInstanceAs (Decidable (_ → _ → _))

/-- Releasing and driving do not overlap in one poll from `s`. -/
structure ReleasesAlone (host : Host) (s : Supervisor σ) : Prop where
  /-- at the end of the poll a pending release means latched or Observe -/
  apart : (s.next host).autoRestorePending = true →
    (s.next host).monitorOnly = true ∨ (s.next host).mode = .observe
  /-- an accepted control command supersedes the pending release -/
  superseded : s.Accepts host → (s.commanded host).autoRestorePending = false
  /-- a poll with a release to retry takes nothing over and writes no speed -/
  exclusive : (s.commanded host).autoRestorePending = true → ∀ e ∈ s.calls host, ¬ e.control

theorem commanded_idle_silent {host : Host} {s : Supervisor σ} (sound : s.Sound)
    (idle : ¬ (s.commanded host).Driving) : ∀ e ∈ s.calls host, ¬ e.control := by
  obtain ⟨es, moved, calls, steps, -⟩ := next_moves host sound
  intro e mem
  rw [calls] at mem
  rcases List.mem_append.mp mem with mem | mem
  · exact Event.not_control_of_autoAttempt ((commanded_obeys host s).attempts e mem)
  · exact Custody.steps_idle_silent steps idle e mem

theorem commanded_apart {host : Host} {s : Supervisor σ} (supersedes : s.Supersedes host)
    (apart : s.Apart) : (s.commanded host).Apart :=
  (commanded_obeys host s).apart
    (fun requested fresh control proven => supersedes ⟨requested, fresh, control, proven⟩) apart

theorem next_apart {host : Host} {s : Supervisor σ} (sound : s.Sound)
    (supersedes : s.Supersedes host) (apart : s.Apart) : (s.next host).Apart := by
  obtain ⟨es, moved, -, steps, ends⟩ := next_moves host sound
  have apart : moved.Apart :=
    steps.invariant (I := Custody.Apart) (fun move => move.apart) (commanded_apart supersedes apart)
  rcases ends with custody | custody
  · exact custody ▸ apart
  · exact custody ▸ apart

/-- An accepted control command clears a pending release exactly out of a latch. -/
theorem commanded_pending {host : Host} {s : Supervisor σ} (accepts : s.Accepts host) :
    (s.commanded host).autoRestorePending = (s.autoRestorePending && !s.monitorOnly) := by
  obtain ⟨requested, fresh, control, proven⟩ := accepts
  obtain ⟨raw, -, eq⟩ := commanded_fresh fresh
  rw [eq, (Frame.applyMode_accepted control proven).1]
  exact Custody.accepting_pending requested s.toCustody

theorem reach_apart {s : Supervisor σ} {history : List Event}
    (reach : loop.Reach Launched (fun host s => s.Supersedes host) s history) :
    s.Sound ∧ s.Apart :=
  reach.invariant (I := fun s _ => s.Sound ∧ s.Apart)
    (fun launched => ⟨launched.sound, fun pending => by simp [launched.unowned.idle] at pending⟩)
    (fun supersedes kept => ⟨next_sound _ kept.1, next_apart kept.1 supersedes kept.2⟩)

/-- In every run whose accepted control commands all supersede, releasing and
driving never overlap; and an accepted control command clears the pending release
exactly when it supersedes. -/
theorem releases_alone (s : Supervisor σ) (host : Host) :
    (∀ history, loop.Reach Launched (fun host s => s.Supersedes host) s history →
      s.Supersedes host → s.ReleasesAlone host) ∧
    (s.Accepts host → ((s.commanded host).autoRestorePending = false ↔ s.Supersedes host)) := by
  refine ⟨fun history reach supersedes => ?_, fun accepts => ?_⟩
  · obtain ⟨sound, apart⟩ := reach_apart reach
    refine ⟨fun pending => ?_, fun accepts => ?_, fun pending => ?_⟩
    · have idle := next_apart sound supersedes apart pending
      cases latched : (s.next host).monitorOnly with
      | true => exact .inl rfl
      | false => exact .inr (Decidable.byContradiction fun mode => idle ⟨mode, latched⟩)
    · rw [commanded_pending accepts]
      cases pending : s.autoRestorePending with
      | true => simp [supersedes accepts pending]
      | false => rfl
    · exact commanded_idle_silent sound (commanded_apart supersedes apart pending)
  · rw [commanded_pending accepts]
    simp [Supersedes, accepts]

end Runs

section Overlap

attribute [local instance] Bench.json

/-- A bench daemon whose observe release is refused, three times over. -/
def releasingDaemon : Supervisor Bench :=
  loop.run [Bench.quiet, Bench.commanding Bench.observeText]
    (Bench.daemon { Bench.healthy with
      mode := [none, some Bench.refused, some Bench.refused, some Bench.refused] } (.hold 3000))

theorem releases_alone_observed :
    releasingDaemon.ReleasesAlone (Bench.commanding Bench.observeText) ∧
      ((releasingDaemon.commanded (Bench.commanding Bench.holdText)).autoRestorePending = false ↔
        releasingDaemon.Supersedes (Bench.commanding Bench.holdText)) :=
  ⟨(releases_alone _ _).1 _ (Bench.daemon_reach _ ⟨rfl, rfl⟩ (.hold 3000) (by decide)) (by decide),
    (releases_alone _ _).2 (by decide)⟩

/-- A Hold command accepted over the refused observe release: the poll retries AUTO,
writes a speed, and ends driving with the release still pending. -/
theorem releases_alone_overlap :
    (∃ history, Reachable releasingDaemon history) ∧
      releasingDaemon.Accepts (Bench.commanding Bench.holdText) ∧
      (releasingDaemon.commanded (Bench.commanding Bench.holdText)).autoRestorePending = true ∧
      (∃ e ∈ releasingDaemon.calls (Bench.commanding Bench.holdText),
        e.site = .autoRestoreRetry ∧ e.autoAttempt) ∧
      (∃ e ∈ releasingDaemon.calls (Bench.commanding Bench.holdText), e.site = .writeControlled) ∧
      (releasingDaemon.next (Bench.commanding Bench.holdText)).autoRestorePending = true ∧
      (releasingDaemon.next (Bench.commanding Bench.holdText)).monitorOnly = false ∧
      (releasingDaemon.next (Bench.commanding Bench.holdText)).mode = .hold 5000 :=
  ⟨⟨_, Bench.daemon_reachable _ ⟨rfl, rfl⟩ (.hold 3000) _⟩, by decide, by decide, by decide,
    by decide, by decide, by decide, by decide⟩

end Overlap

end Supervisor

end Afanctl
