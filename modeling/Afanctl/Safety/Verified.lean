import Afanctl.Bench
import Afanctl.Ledger
import Afanctl.Supervisor.Requests

/-!
The written value comes from verified writes only.

Every reached state has an account of its call history, so its written value is the
answer of the last verified write and nothing has ended it since. The daemon itself only
asks for what lies in the hardware band or for what it has written; that the answers lie
there is the backend's part.
-/

namespace Afanctl

open Afanctl.Lib

/-- Any value of the band may be asked for. -/
def Band.Grants (b : Band) (rpm : Nat) (_ : Custody) : Prop := b.hwMin ≤ rpm ∧ rpm ≤ b.hwMax

namespace Event

/-- Asked for a value of the band, the backend verifies one. -/
def Faithful (b : Band) (e : Event) : Prop :=
  ∀ rpm v, e.op = .writeSpeed rpm (.ok v) → b.hwMin ≤ rpm → rpm ≤ b.hwMax →
    b.hwMin ≤ v ∧ v ≤ b.hwMax

theorem op_of_verified {v : Nat} {e : Event} (verified : e.verified = some v) :
    ∃ rpm, e.op = .writeSpeed rpm (.ok v) := by
  unfold Event.verified at verified
  split at verified
  · next rpm w op => exact ⟨rpm, Option.some.inj verified ▸ op⟩
  · cases verified

end Event

/-- A daemon that never owned the fan has nothing to account for. -/
theorem Custody.Account.of_unowned {c : Custody} {history : List Event} (unowned : c.Unowned)
    (idle : ∀ e ∈ history, e.custody.Unowned) (silent : ∀ e ∈ history, ¬ e.control) :
    c.Account history where
  booked := fun v => by
    rw [unowned.unwritten]
    refine iff_of_false nofun ?_
    rintro ⟨before, e, rest, rfl, verified, -⟩
    obtain ⟨rpm, op⟩ := Event.op_of_verified verified
    exact silent e (by simp) (by simp [Event.control, op])
  held := fun before e rest split v live => by
    rw [(idle e (by simp [split])).unwritten] at live
    cases live
  unraised := fun before e rest split _ => by
    have next : (c.upcoming rest).Unowned := by
      cases rest with
      | nil => exact unowned
      | cons next rest => exact idle next (by simp [split])
    refine ⟨fun v live => ?_, fun armed => ?_⟩
    · rw [next.unwritten] at live
      cases live
    · rw [next.free] at armed
      cases armed

namespace Supervisor

section Runs

variable {σ : Type} [Smc σ]

/-! ### Runs -/

/-- What every reached state has: its custody accounted for, its speed writes asked as they
should be, and a band. -/
structure Accounted (s : Supervisor σ) (history : List Event) : Prop where
  sound : s.Sound
  account : s.toCustody.Account history
  asks : ∀ e ∈ history, e.Asks s.band.Grants
  room : s.band.hwMin ≤ s.band.hwMax

theorem new_room {smc : σ} {cfg : ResolvedConfig} {start : RunMode} {paths : RuntimePaths}
    {s : Supervisor σ} (built : Supervisor.new smc cfg start paths = .ok s) :
    s.band.hwMin ≤ s.band.hwMax := by
  obtain ⟨valid, rfl⟩ := new_eq_ok.mp built
  have band := (Config.validate_ok_iff.mp valid).2
  show Smc.hwMinRpm smc ≤ Smc.hwMaxRpm smc
  omega

theorem Launched.accounted {s : Supervisor σ} {log : List Event} (launched : Launched s log) :
    s.Accounted log := by
  have sound := launched.sound
  cases launched with
  | built built =>
      exact ⟨sound, .of_unowned (new_unowned built).1 (by simp) (by simp), by simp, new_room built⟩
  | started host built =>
      have unowned := (new_unowned built).1
      have up := started_startsUp host unowned
      refine ⟨sound, .of_unowned up.unowned (started_unowned host unowned) up.silent,
        fun e mem => .of_quiet (up.silent e mem), ?_⟩
      rw [start_band]
      exact new_room built

omit [Smc σ] in
/-- What stands anywhere in the history lies in the band, if the backend answers requests
of the band with values of the band: the last request was of the band, or for a value that
stood before it. -/
theorem Accounted.standing_mem {s : Supervisor σ} {history : List Event}
    (accounted : s.Accounted history) (faithful : ∀ e ∈ history, e.Faithful s.band)
    {before rest : List Event} {v : Nat}
    (split : history = before ++ rest) (standing : Standing v before) :
    s.hwMin ≤ v ∧ v ≤ s.hwMax := by
  induction length : before.length using Nat.strongRecOn generalizing before rest v with
  | ind n ih =>
      obtain ⟨first, e, later, rfl, verified, -⟩ := standing
      obtain ⟨rpm, op⟩ := Event.op_of_verified verified
      have mem : e ∈ history := by simp [split]
      have split : history = first ++ e :: (later ++ rest) := by simp [split]
      have shorter : first.length < n := by simp [← length]
      have inside : s.hwMin ≤ rpm ∧ rpm ≤ s.hwMax := by
        rcases accounted.asks e mem rpm _ op with live | inside
        · exact ih first.length shorter split (accounted.account.held first e _ split rpm live) rfl
        · exact inside
      exact faithful e mem rpm v op inside.1 inside.2

variable [SerdeJson] {s : Supervisor σ}

theorem Accounted.next {history : List Event} (accounted : s.Accounted history) (host : Host) :
    (s.next host).Accounted (history ++ s.calls host) where
  sound := next_sound host accounted.sound
  account := accounted.account.poll (poll_refines host s accounted.sound)
  asks := by
    rw [next_band]
    exact List.forall_mem_append.mpr
      ⟨accounted.asks, calls_ask host fun rpm _ => clamp_mem accounted.room rpm⟩
  room := by
    rw [next_band]
    exact accounted.room

theorem reach_accounted {allowed : Host → Supervisor σ → Prop} {history : List Event}
    (reach : loop.Reach Launched allowed s history) : s.Accounted history :=
  reach.invariant (I := Accounted) Launched.accounted fun _ accounted => accounted.next _

/-- In every reached state the written value belongs to an owned fan, is what the last
verified write answered and still stands, and lies in the band if the backend's answers to
requests of the band do; and no failed write or mode change raised a value or took a fan
over. -/
theorem lastWritten_verified {history : List Event} (reach : Reachable s history) :
    (∀ v, s.lastWritten = some v →
      s.manualArmed = true ∧ Standing v history ∧
        ((∀ e ∈ history, e.Faithful s.band) → s.hwMin ≤ v ∧ v ≤ s.hwMax)) ∧
      ∀ before e rest, history = before ++ e :: rest → e.failed = true →
        e.custody.NoNewer (s.toCustody.upcoming rest) := by
  have accounted := reach_accounted reach
  refine ⟨fun v live => ?_, accounted.account.unraised⟩
  have standing := (accounted.account.booked v).mp live
  exact ⟨accounted.sound.written (by simp [live]), standing, fun faithful =>
    accounted.standing_mem faithful (List.append_nil history).symm standing⟩

end Runs

section Concrete

attribute [local instance] Bench.json

/-- A bench daemon after one poll that held 3000 rpm, and every call it made. -/
def heldDaemon : Supervisor Bench :=
  loop.run [Bench.quiet] (Bench.daemon Bench.healthy (.hold 3000))

def heldHistory : List Event :=
  ((Supervisor.wired Bench.healthy Bench.config (.hold 3000) Bench.paths).started Bench.quiet).log
    ++ loop.trace [Bench.quiet] (Bench.daemon Bench.healthy (.hold 3000))

theorem lastWritten_verified_held :
    heldDaemon.manualArmed = true ∧ Standing 3000 heldHistory ∧
      ((∀ e ∈ heldHistory, e.Faithful heldDaemon.band) →
        heldDaemon.hwMin ≤ 3000 ∧ 3000 ≤ heldDaemon.hwMax) := by
  have reach : Reachable heldDaemon heldHistory :=
    Bench.daemon_reachable Bench.healthy ⟨rfl, rfl⟩ (.hold 3000) [Bench.quiet]
  exact (lastWritten_verified reach).1 3000 (by decide)

/-- A backend whose target register reads 9000 rpm whatever was written. -/
inductive Stray where
  | stray

instance : Smc Stray where
  readSensors b := (.ok (Bench.reading 70000), b)
  readFan b := (.ok ⟨9000, .manual⟩, b)
  hwMinRpm _ := 1200
  hwMaxRpm _ := 7200
  writeSpeed _ b := (.ok 9000, b)
  setMode mode b := (.ok mode, b)
  safeRestore _ := some Bench.restore
  probeSafeRestore b := (.ok Bench.restore, b)
  safetyCapabilities _ := ⟨"stray", false, none⟩

/-- The daemon over it, told to hold 3000 rpm. -/
def strayDaemon : Supervisor Stray := .wired .stray Bench.config (.hold 3000) Bench.paths

theorem strayDaemon_reachable : Reachable strayDaemon [] :=
  .start (.built (new_eq_ok.mpr ⟨Bench.config_valid, rfl⟩))

/-- After one poll its written value is above the band. -/
theorem lastWritten_stray :
    ∃ history, Reachable (strayDaemon.next Bench.quiet) history ∧
      (strayDaemon.next Bench.quiet).hwMax = 7200 ∧
      (strayDaemon.next Bench.quiet).lastWritten = some 9000 :=
  ⟨_, strayDaemon_reachable.step Bench.quiet trivial, by decide, by decide⟩

end Concrete

end Supervisor

end Afanctl
