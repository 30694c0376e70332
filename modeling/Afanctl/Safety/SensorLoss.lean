import Afanctl.Safety.Release

/-!
Losing the sensors.

A lost poll, one without a valid reading, decides nothing or returns the fan, so with a
release pending it only attempts AUTO, and the release stays pending until AUTO is
verified. A `returnToAuto` that hands the fan back starts such a run or has written
AUTO; one whose AUTO write fails as an early strike does neither.
-/

namespace Afanctl

open Afanctl.Lib

namespace Supervisor

section Runs

/-- AUTO was attempted, or the retry read it. -/
def Attempts (es : List Event) : Prop := ∃ e ∈ es, e.autoAttempt ∨ e.verifiesAuto

instance (es : List Event) : Decidable (Attempts es) :=
  inferInstanceAs (Decidable (∃ e ∈ es, _))

variable {σ : Type} [Smc σ] [SerdeJson] {host : Host} {s : Supervisor σ}

/-- No sensor gave a valid reading. -/
def Lost (host : Host) (s : Supervisor σ) : Prop := hottest (s.sensed host).1 = none

instance (host : Host) (s : Supervisor σ) : Decidable (s.Lost host) :=
  inferInstanceAs (Decidable (_ = _))

/-- On lost sensors the controller decides nothing or returns the fan. -/
theorem Lost.decided (lost : s.Lost host) :
    (s.decided host).1 = .observe ∨ (s.decided host).1 = .returnToAuto := by
  unfold Lost at lost
  unfold Supervisor.decided controllerStep
  split
  · simp only [Controller.stepObserve, Controller.absorb, lost, true_or]
  · split
    · simp only [Controller.stepCurve, Controller.absorb, lost]
      split <;> simp
    · simp only [Controller.stepHold, Controller.absorb, lost]
      split <;> simp
    · simp only [Controller.stepObserve, Controller.absorb, lost, true_or]

/-- Without an accepted control command, a withheld fan is withheld up to the decision. -/
theorem sensed_withheld (unaccepted : ¬ s.Accepts host) (withheld : s.Withheld) :
    (s.sensed host).2.Withheld := by
  have commanded : (s.commanded host).Withheld := by
    refine (commanded_obeys host s).withheld (fun requested fresh control => ?_) withheld
    cases proven : s.l2Absent with
    | true => rfl
    | false => exact absurd ⟨requested, fresh, control, proven⟩ unaccepted
  rw [sensed_toCustody]
  unfold retried
  rcases Frame.autoRestoreRetry_toCustody (s.commanded host) with kept | released
  · rw [kept]
    exact commanded
  · rw [released]
    exact .inr rfl

/-- A poll on lost sensors with a release pending: AUTO is attempted or read, nothing
is driven, and the release stays pending unless AUTO was verified. -/
theorem lost_poll (sound : s.Sound) (unaccepted : ¬ s.Accepts host) (lost : s.Lost host)
    (pending : s.autoRestorePending = true) :
    Attempts (s.calls host) ∧ (∀ e ∈ s.calls host, ¬ e.control) ∧
      ((∀ e ∈ s.calls host, ¬ e.verifiesAuto) → (s.next host).autoRestorePending = true) := by
  have poll := poll_refines host s sound
  refine ⟨?_, calls_silent lost.decided
    ((Frame.act_retreats lost.decided).withheld (sensed_withheld unaccepted (.inl pending))),
    fun unverified => ?_⟩
  · cases held : (s.commanded host).autoRestorePending with
    | true =>
        obtain ⟨e, mem, site, attempt | ⟨rpm, seen⟩⟩ := pending_attempted sound held
        · exact ⟨e, mem, .inl attempt⟩
        · exact ⟨e, mem, .inr (by simp [Event.verifiesAuto, site, seen])⟩
    | false =>
        -- only a command stage that verified AUTO ends the release
        rcases (commanded_obeys host s).keeps with ⟨e, mem, verified⟩ | kept | ⟨-, accepted⟩
        · exact ⟨e, commanded_log_subset host sound mem, .inr verified⟩
        · exact absurd (kept.2 pending) (by simp [held])
        · exact absurd accepted unaccepted
  · cases ended : (s.next host).autoRestorePending with
    | true => rfl
    | false =>
        rcases poll.pending_ended pending ended with ⟨e, mem, verified⟩ | accepted
        · exact absurd verified (unverified e mem)
        · exact absurd accepted unaccepted

/-- One of the polls after a `returnToAuto` whose AUTO is not verified yet. -/
structure Onward (host : Host) (s : Supervisor σ) : Prop where
  lost : s.Lost host
  unaccepted : ¬ s.Accepts host
  unverified : ∀ e ∈ s.calls host, ¬ e.verifiesAuto

theorem onward_pending {hosts : List Host} (sound : s.Sound) (pending : s.autoRestorePending = true)
    (onward : loop.Along Onward hosts s) :
    (loop.run hosts s).Sound ∧ (loop.run hosts s).autoRestorePending = true :=
  loop.run_invariant (I := fun s : Supervisor σ => s.Sound ∧ s.autoRestorePending = true)
    (fun onward kept => ⟨next_sound _ kept.1,
      (lost_poll kept.1 onward.unaccepted onward.lost kept.2).2.2 onward.unverified⟩)
    onward ⟨sound, pending⟩

/-- An owned fan is still owned at the decision to return it, unless the retry
verified AUTO. -/
theorem sensed_owned (armed : s.manualArmed = true) (mode : (s.sensed host).2.mode ≠ .observe)
    (unread : (s.commanded host).autoRestorePending = true →
      ∀ rpm, (Smc.readFan (s.commanded host).smc).1 ≠ .ok ⟨rpm, .auto⟩) :
    (s.sensed host).2.manualArmed = true ∨ ∃ e ∈ (s.retried host).log, e.writesAuto := by
  have kept : (s.commanded host).mode = (s.sensed host).2.mode := by
    rw [sensed_toCustody]
    exact (moves_retried host s).mode_eq.1.symm
  have owned : (s.commanded host).manualArmed = true := by
    have obeys := commanded_obeys host s
    rw [← kept] at mode
    generalize s.freshCommand host = command, (s.commanded host).log = es,
      (s.commanded host).toCustody = c at obeys mode ⊢
    cases obeys with
    | accepted =>
        unfold Custody.accepting
        split <;> exact armed
    | released | releaseFailed => exact absurd rfl mode
    | _ => exact armed
  rw [sensed_toCustody]
  unfold retried
  rcases Frame.autoRestoreRetry_cases (s.commanded host) with ⟨-, same⟩ | ⟨pending, rpm, seen, -⟩ |
    ⟨-, -, log, ⟨mode, answer, -⟩ | ⟨e, -, custody⟩⟩
  · rw [same]
    exact .inl owned
  · exact absurd seen (unread pending rpm)
  · refine .inr ⟨⟨.autoRestoreRetry, .setMode .auto (.ok mode), (s.commanded host).toCustody⟩, ?_,
      rfl⟩
    rw [log, answer]
    exact List.mem_append_right _ (List.mem_singleton.mpr rfl)
  · rw [custody]
    exact .inl owned

/-- The poll of such a decision ends with AUTO written and nothing owned, or with a release
pending. -/
theorem released_or_pending (armed : s.manualArmed = true)
    (lost : (s.decided host).1 = .returnToAuto) (withheld : (s.acted host).1.Withheld)
    (unread : (s.commanded host).autoRestorePending = true →
      ∀ rpm, (Smc.readFan (s.commanded host).smc).1 ≠ .ok ⟨rpm, .auto⟩) :
    (s.next host).manualArmed = false ∧ (∃ e ∈ s.calls host, e.writesAuto) ∨
      (s.next host).autoRestorePending = true := by
  have acts : (s.decided host).1 ≠ .observe := by rw [lost]; nofun
  obtain ⟨es, log, retreats⟩ := sensed_retreats (.inr lost) withheld
  have ended := (Frame.l1Poll_retreats (s.acted host).2 withheld).withheld withheld
  rw [calls_eq, next_toCustody]
  rcases retreats.ends with pending | ⟨free, e, mem, written⟩ | ⟨-, kept⟩
  · exact .inr pending
  · exact .inl ⟨free, e, log ▸ List.mem_append_right _ mem, written⟩
  · rcases ended with pending | free
    · exact .inr pending
    · rcases sensed_owned armed (fun mode => acts (controllerStep_observe (.inl mode))) unread
        with owned | ⟨e, mem, written⟩
      · exact Bool.noConfusion (owned.symm.trans (kept.symm.trans free))
      · refine .inl ⟨free, e, ?_, written⟩
        rw [log, sensed_log]
        exact List.mem_append_left _ (List.mem_append_left _ mem)

/-- A `returnToAuto` over an owned fan that hands it back, without the retry having
read Auto, ends with AUTO written and nothing owned or with a release pending; and from
there on, while the sensors are lost and no control command is accepted, every poll
until AUTO is verified attempts or reads it and drives nothing. -/
theorem sensor_loss_released {history : List Event} (reach : Reachable s history) (host : Host)
    (armed : s.manualArmed = true) (lost : (s.decided host).1 = .returnToAuto)
    (handsBack : (s.sensed host).2.HandsBack)
    (unread : (s.commanded host).autoRestorePending = true →
      ∀ rpm, (Smc.readFan (s.commanded host).smc).1 ≠ .ok ⟨rpm, .auto⟩) :
    ((s.next host).manualArmed = false ∧ (∃ e ∈ s.calls host, e.writesAuto) ∨
      (s.next host).autoRestorePending = true) ∧
    (∀ e ∈ s.calls host, ¬ e.control) ∧
    ∀ (hosts : List Host) (after : Host), (∀ e ∈ s.calls host, ¬ e.verifiesAuto) →
      loop.Along Onward hosts (s.next host) → (loop.run hosts (s.next host)).Lost after →
      ¬ (loop.run hosts (s.next host)).Accepts after →
      Attempts ((loop.run hosts (s.next host)).calls after) ∧
        ∀ e ∈ (loop.run hosts (s.next host)).calls after, ¬ e.control := by
  have sound := reach_sound reach
  have withheld := acted_withheld lost handsBack
  have first := released_or_pending armed lost withheld unread
  refine ⟨first, calls_silent (.inr lost) withheld,
    fun hosts after unverified onward lost unaccepted => ?_⟩
  have pending : (s.next host).autoRestorePending = true := by
    rcases first with ⟨-, e, mem, written⟩ | pending
    · exact absurd (Event.verifiesAuto_of_writesAuto written) (unverified e mem)
    · exact pending
  obtain ⟨sound, pending⟩ := onward_pending (next_sound host sound) pending onward
  obtain ⟨attempts, silent, -⟩ := lost_poll sound unaccepted lost pending
  exact ⟨attempts, silent⟩

end Runs

section Blinded

attribute [local instance] Bench.json

/-- A bench daemon that holds 3000 rpm, then loses its sensors for good and has been
without them for two polls; `fan` and `mode` prepare the answers after its takeover. -/
def blindedDaemon (fan : List (Except SmcError FanState)) (mode : List (Option SmcError)) :
    Supervisor Bench :=
  loop.run [Bench.quiet, Bench.quiet, Bench.quiet]
    (Bench.daemon { Bench.healthy with
      sensors := .ok (Bench.reading 70000) :: List.replicate 4 (.error Bench.unread)
      fan := .ok ⟨2000, .auto⟩ :: .ok ⟨3000, .manual⟩ :: fan
      mode := none :: mode } (.hold 3000))

theorem blindedDaemon_reachable (fan : List (Except SmcError FanState))
    (mode : List (Option SmcError)) : ∃ history, Reachable (blindedDaemon fan mode) history :=
  ⟨_, Bench.daemon_reachable _ ⟨rfl, rfl⟩ (.hold 3000) [Bench.quiet, Bench.quiet, Bench.quiet]⟩

/-- One whose next AUTO write, the one of its `returnToAuto`, fails as the last strike. -/
def lastStrikeDaemon : Supervisor Bench :=
  blindedDaemon [.error Bench.unread, .error Bench.unread] [some Bench.refused, some Bench.refused]

/-- Its release is pending, and the next poll attempts it again. -/
theorem sensor_loss_released_last :
    ((lastStrikeDaemon.next Bench.quiet).manualArmed = false ∧
        (∃ e ∈ lastStrikeDaemon.calls Bench.quiet, e.writesAuto) ∨
      (lastStrikeDaemon.next Bench.quiet).autoRestorePending = true) ∧
      (∀ e ∈ lastStrikeDaemon.calls Bench.quiet, ¬ e.control) ∧
      Attempts ((lastStrikeDaemon.next Bench.quiet).calls Bench.quiet) ∧
      ∀ e ∈ (lastStrikeDaemon.next Bench.quiet).calls Bench.quiet, ¬ e.control := by
  obtain ⟨history, reach⟩ := blindedDaemon_reachable
    [.error Bench.unread, .error Bench.unread] [some Bench.refused, some Bench.refused]
  have idle : (lastStrikeDaemon.commanded Bench.quiet).autoRestorePending = false := by decide
  obtain ⟨ended, silent, after⟩ := sensor_loss_released (s := lastStrikeDaemon) reach Bench.quiet
    (by decide) (by decide) (.inr (.inr (.inr (by decide)))) fun pending =>
      Bool.noConfusion (idle.symm.trans pending)
  exact ⟨ended, silent, after [] Bench.quiet (by decide) trivial (by decide) (by decide)⟩

/-- One whose next AUTO write fails as a first strike. -/
def firstStrikeDaemon : Supervisor Bench := blindedDaemon [] [some Bench.refused]

/-- It still owns the fan, nothing is pending, and the next poll does not attempt AUTO. -/
theorem sensor_loss_released_first :
    (∃ history, Reachable firstStrikeDaemon history) ∧ firstStrikeDaemon.manualArmed = true ∧
      firstStrikeDaemon.mode = .hold 3000 ∧
      (firstStrikeDaemon.decided Bench.quiet).1 = .returnToAuto ∧
      (firstStrikeDaemon.next Bench.quiet).manualArmed = true ∧
      (firstStrikeDaemon.next Bench.quiet).autoRestorePending = false ∧
      (firstStrikeDaemon.next Bench.quiet).Lost Bench.quiet ∧
      ¬ Attempts ((firstStrikeDaemon.next Bench.quiet).calls Bench.quiet) :=
  ⟨blindedDaemon_reachable _ _, by decide, by decide, by decide, by decide, by decide, by decide,
    by decide⟩

end Blinded

end Supervisor

end Afanctl
