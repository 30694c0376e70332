import Afanctl.Safety.Latch

/-!
Observe as a read-only mode.

A poll in Observe over an unowned fan with nothing left to release reads the sensors
and the fan, and that is all, unless the fan read fails: that is a strike too, and
the third strike writes AUTO and latches. So a run is read-only exactly while the
strikes it starts with and its failed fan reads stay below the fallback.
-/

namespace Afanctl

open Afanctl.Lib

section Reads

variable {σ : Type} [Smc σ]

/-- The reads of a poll that controls nothing: the sensors, then the fan. -/
def watched (smc : σ) : Except SmcError FanState × σ := Smc.readFan (Smc.readSensors smc).2

/-- How many of `polls` such polls fail to read the fan. -/
def failedReads : Nat → σ → Nat
  | 0, _ => 0
  | polls + 1, smc =>
      (match (watched smc).1 with
        | .ok _ => 0
        | .error _ => 1) + failedReads polls (watched smc).2

theorem failedReads_ok {smc : σ} {fan : FanState} (answer : (watched smc).1 = .ok fan)
    (polls : Nat) : failedReads (polls + 1) smc = failedReads polls (watched smc).2 := by
  simp [failedReads, answer]

theorem failedReads_error {smc : σ} {e : SmcError} (answer : (watched smc).1 = .error e)
    (polls : Nat) : failedReads (polls + 1) smc = 1 + failedReads polls (watched smc).2 := by
  simp [failedReads, answer]

end Reads

namespace Custody

/-- An observing daemon without a fan. -/
structure Watching (c : Custody) : Prop where
  mode : c.mode = .observe
  free : c.manualArmed = false

/-- Nothing is left to release of a fan that is neither owned nor being released. -/
theorem Sound.released_eq {c : Custody} (sound : c.Sound) (free : c.manualArmed = false)
    (idle : c.autoRestorePending = false) : c.released = c := by
  have unwritten : c.lastWritten = none := by
    cases live : c.lastWritten with
    | none => rfl
    | some written => simp [sound.written (by simp [live])] at free
  cases c
  simp_all [Custody.released]

end Custody

namespace Supervisor

section Retry

variable {σ : Type} [Smc σ] {s : Supervisor σ}

/-- Nothing is left to release, or the register already reads `auto`. -/
def Unheld (s : Supervisor σ) : Prop :=
  s.autoRestorePending = false ∨ ∃ rpm, (Smc.readFan s.smc).1 = .ok ⟨rpm, .auto⟩

/-- The backend after the retry of an `Unheld` daemon. -/
def afterRetry (s : Supervisor σ) : σ :=
  if s.autoRestorePending then (Smc.readFan s.smc).2 else s.smc

theorem afterRetry_idle (idle : s.autoRestorePending = false) : s.afterRetry = s.smc := by
  simp [afterRetry, idle]

end Retry

section Runs

variable {σ : Type} [Smc σ] [SerdeJson] {host : Host} {s : Supervisor σ}

/-! ### The stages of a watching poll -/

/-- In Observe, the command stage does nothing unless it accepts a control mode. -/
theorem commanded_observing (mode : s.mode = .observe) (unaccepted : ¬ s.Accepts host) :
    (s.commanded host).toCustody = s.toCustody ∧ (s.commanded host).log = [] ∧
      (s.commanded host).smc = s.smc := by
  cases fresh : s.freshCommand host with
  | none =>
      obtain ⟨ticks, errors, notes, eq⟩ := commanded_stale fresh
      rw [eq]
      exact ⟨rfl, rfl, rfl⟩
  | some requested =>
      obtain ⟨raw, -, eq⟩ := commanded_fresh fresh
      by_cases observe : requested = .observe
      · rw [eq, observe, Frame.applyMode_already mode]
        exact ⟨rfl, rfl, rfl⟩
      · cases absent : s.l2Absent with
        | false => exact absurd ⟨requested, fresh, observe, absent⟩ unaccepted
        | true =>
            rw [eq, Frame.applyMode_refused observe absent]
            exact ⟨rfl, rfl, rfl⟩

/-- The retry of an `Unheld` daemon writes nothing and leaves nothing to release. -/
theorem retried_unheld (host : Host) (sound : s.Sound) (watching : s.Watching)
    (unaccepted : ¬ s.Accepts host) (unheld : s.Unheld) :
    (s.retried host).toCustody = s.toCustody.released ∧
      (∀ e ∈ (s.retried host).log, ¬ e.changing) ∧ (s.retried host).smc = s.afterRetry := by
  obtain ⟨custody, log, smc⟩ := commanded_observing watching.mode unaccepted
  have held : (s.commanded host).autoRestorePending = s.autoRestorePending :=
    congrArg Custody.autoRestorePending custody
  cases pending : s.autoRestorePending with
  | false =>
      unfold retried
      rw [Frame.autoRestoreRetry_idle (held.trans pending), custody, log, smc,
        sound.released_eq watching.free pending, afterRetry_idle pending]
      exact ⟨rfl, by simp, rfl⟩
  | true =>
      obtain idle | ⟨rpm, answer⟩ := unheld
      · simp [pending] at idle
      · rw [← smc] at answer
        unfold retried
        rw [Frame.autoRestoreRetry_seen (held.trans pending) answer]
        simp only [Frame.autoRestored_toCustody, Frame.autoRestored_log, Frame.autoRestored_smc,
          Frame.readFan_toCustody, Frame.readFan_log, Frame.readFan_smc, Frame.attempting_toCustody,
          Frame.attempting_log, Frame.attempting_smc, custody, log, smc, afterRetry, pending,
          List.nil_append, List.mem_singleton, ↓reduceIte]
        exact ⟨trivial, fun e same => same ▸ nofun, trivial⟩

/-- The retry of any other one writes AUTO. -/
theorem retried_held (mode : s.mode = .observe) (unaccepted : ¬ s.Accepts host)
    (held : ¬ s.Unheld) : ∃ e ∈ (s.retried host).log, e.changing := by
  obtain ⟨custody, -, smc⟩ := commanded_observing mode unaccepted
  have pending : (s.commanded host).autoRestorePending = s.autoRestorePending :=
    congrArg Custody.autoRestorePending custody
  unfold retried
  rcases Frame.autoRestoreRetry_cases (s.commanded host) with ⟨idle, -⟩ | ⟨-, rpm, answer, -⟩ |
    ⟨-, -, log, -⟩
  · exact absurd (.inl (pending ▸ idle)) held
  · exact absurd (.inr ⟨rpm, smc ▸ answer⟩) held
  · rw [log]
    exact ⟨_, List.mem_append_right _ (List.mem_singleton.mpr rfl), rfl⟩

/-- The controller of an observing daemon decides nothing. -/
theorem acted_observing (watching : (s.retried host).Watching) :
    s.acted host = ((s.sensed host).2, none) := by
  have mode : (s.sensed host).2.mode = .observe :=
    (congrArg Custody.mode (sensed_toCustody host s)).trans watching.mode
  exact acted_of_observe (controllerStep_observe (.inl mode))

theorem sensed_smc (host : Host) (s : Supervisor σ) :
    (s.sensed host).2.smc = (Smc.readSensors (s.retried host).smc).2 := by
  cases answer : (Smc.readSensors (s.retried host).smc).1 with
  | ok readings =>
      rw [sensed_ok answer]
      rfl
  | error e =>
      rw [sensed_error answer]
      rfl

/-- The reads of a watching poll, as events. -/
def watchLog (s : Supervisor σ) (host : Host) : List Event :=
  [⟨.stepOnce, .readSensors (Smc.readSensors (s.retried host).smc).1, (s.retried host).toCustody⟩,
    ⟨.l1Poll, .readFan (watched (s.retried host).smc).1, (s.retried host).toCustody⟩]

theorem watchLog_silent : ∀ e ∈ s.watchLog host, ¬ e.changing := by
  simp [watchLog, Event.changing]

theorem looked_log :
    ((s.sensed host).2.readFan .l1Poll).2.log = (s.retried host).log ++ s.watchLog host := by
  rw [Frame.readFan_log, sensed_log, sensed_smc, sensed_toCustody, List.append_assoc]
  rfl

/-- Watching a fan that reads. -/
theorem checked_seen {fan : FanState} (watching : (s.retried host).Watching)
    (answer : (watched (s.retried host).smc).1 = .ok fan) :
    (s.checked host).1.toCustody = (s.retried host).toCustody ∧
      (s.checked host).1.log = (s.retried host).log ++ s.watchLog host ∧
      (s.checked host).1.smc = (watched (s.retried host).smc).2 := by
  have free : (s.sensed host).2.manualArmed = false :=
    (congrArg Custody.manualArmed (sensed_toCustody host s)).trans watching.free
  rw [watched, ← sensed_smc] at answer
  unfold checked
  rw [acted_observing watching, Frame.l1Poll_free answer free, watched, ← sensed_smc, ← looked_log]
  exact ⟨sensed_toCustody host s, rfl, rfl⟩

/-- Watching a fan that does not. -/
theorem checked_unseen {e : SmcError} (watching : (s.retried host).Watching)
    (answer : (watched (s.retried host).smc).1 = .error e) :
    ∃ (q : Frame σ) (msg : String), (s.checked host).1 = q.failWrite msg ∧
      q.toCustody = (s.retried host).toCustody ∧
      q.log = (s.retried host).log ++ s.watchLog host ∧
      q.smc = (watched (s.retried host).smc).2 := by
  rw [watched, ← sensed_smc] at answer
  unfold checked
  rw [acted_observing watching, Frame.l1Poll_error answer, watched, ← sensed_smc, ← looked_log]
  exact ⟨_, _, rfl, sensed_toCustody host s, rfl, rfl⟩

/-! ### Whole polls and runs -/

/-- One poll that is read-only: it writes nothing, stays below the fallback, and
neither latches nor arms a release. -/
structure ReadsOnly (host : Host) (s : Supervisor σ) : Prop where
  silent : ∀ e ∈ s.calls host, ¬ e.changing
  below : (s.next host).writeFailures < writeFailFallback
  control : (s.next host).monitorOnly = true → s.monitorOnly = true
  idle : (s.next host).autoRestorePending = true → s.autoRestorePending = true

/-- What a poll of an `Unheld` watching daemon leaves, below the fallback: nothing to
release, and one more strike if the fan did not read. -/
theorem next_watching (sound : s.Sound) (watching : s.Watching) (unaccepted : ¬ s.Accepts host)
    (unheld : s.Unheld)
    (below : s.writeFailures + failedReads 1 s.afterRetry < writeFailFallback) :
    (∀ e ∈ s.calls host, ¬ e.changing) ∧
      (s.next host).toCustody
        = { s.toCustody.released with
            writeFailures := s.writeFailures + failedReads 1 s.afterRetry } ∧
      (s.next host).smc = (watched s.afterRetry).2 := by
  obtain ⟨custody, silent, smc⟩ := retried_unheld host sound watching unaccepted unheld
  have retried : (s.retried host).Watching := custody ▸ ⟨watching.mode, rfl⟩
  have quiet : ∀ e ∈ (s.retried host).log ++ s.watchLog host, ¬ e.changing := fun e mem =>
    (List.mem_append.mp mem).elim (silent e) (watchLog_silent e)
  rw [calls_eq, next_toCustody, next_smc]
  rw [← smc] at below ⊢
  cases answer : (watched (s.retried host).smc).1 with
  | ok fan =>
      obtain ⟨ended, log, smc⟩ := checked_seen retried answer
      rw [ended, log, smc, custody, failedReads_ok answer]
      exact ⟨quiet, rfl, rfl⟩
  | error e =>
      rw [failedReads_error answer] at below ⊢
      obtain ⟨q, msg, eq, ended, log, smc⟩ := checked_unseen retried answer
      have count : q.writeFailures = s.writeFailures := by
        rw [ended, custody]
        rfl
      obtain ⟨struck, same, kept⟩ := q.failWrite_below msg (count ▸ below)
      rw [eq, struck, same, kept, log, smc, ended, custody]
      exact ⟨quiet, rfl, rfl⟩

/-- A poll of a watching daemon that writes nothing found nothing held, and stays
below the fallback. -/
theorem below_of_silent (sound : s.Sound) (watching : s.Watching) (unaccepted : ¬ s.Accepts host)
    (silent : ∀ e ∈ s.calls host, ¬ e.changing) :
    s.Unheld ∧ s.writeFailures + failedReads 1 s.afterRetry < writeFailFallback := by
  have obeyed := sound.obeys (commanded_obeys host s)
  have unheld : s.Unheld := Classical.byContradiction fun held => by
    obtain ⟨e, mem, changing⟩ := retried_held watching.mode unaccepted held
    exact silent e (retried_log_subset host s ((moves_retried host s).sound obeyed) mem) changing
  refine ⟨unheld, ?_⟩
  obtain ⟨custody, -, smc⟩ := retried_unheld host sound watching unaccepted unheld
  have retried : (s.retried host).Watching := custody ▸ ⟨watching.mode, rfl⟩
  rw [← smc]
  cases answer : (watched (s.retried host).smc).1 with
  | ok fan =>
      rw [failedReads_ok answer]
      exact sound.counted
  | error e =>
      rw [failedReads_error answer]
      obtain ⟨q, msg, eq, ended, -, -⟩ := checked_unseen retried answer
      apply Nat.lt_of_not_le
      intro third
      -- the strike that fills the ladder writes AUTO
      have count : q.writeFailures = s.writeFailures := by
        rw [ended, custody]
        rfl
      have third : writeFailFallback ≤ q.writeFailures + 1 := count ▸ third
      refine silent (q.toCustody.degradeEvent (Smc.setMode .auto q.smc).1) ?_ rfl
      rw [calls_eq, eq, Frame.failWrite_log]
      simp [Custody.struckLog, third]

/-- A run of an `Unheld` watching daemon is read-only exactly below the fallback. -/
theorem along_readsOnly (sound : s.Sound) (watching : s.Watching) (unheld : s.Unheld)
    {hosts : List Host} (unaccepted : loop.Along (fun host s => ¬ s.Accepts host) hosts s) :
    loop.Along ReadsOnly hosts s ↔
      s.writeFailures + failedReads hosts.length s.afterRetry < writeFailFallback := by
  induction hosts generalizing s with
  | nil => exact ⟨fun _ => sound.counted, fun _ => trivial⟩
  | cons host hosts ih =>
      have split : failedReads (host :: hosts).length s.afterRetry
          = failedReads 1 s.afterRetry + failedReads hosts.length (watched s.afterRetry).2 := by
        simp [failedReads]
      have onward : s.writeFailures + failedReads 1 s.afterRetry < writeFailFallback →
          (loop.Along ReadsOnly hosts (s.next host) ↔ s.writeFailures
            + failedReads (host :: hosts).length s.afterRetry < writeFailFallback) := by
        intro below
        obtain ⟨-, custody, smc⟩ := next_watching sound watching unaccepted.1 unheld below
        have idle : (s.next host).autoRestorePending = false := by rw [custody]; rfl
        have count : (s.next host).writeFailures
            = s.writeFailures + failedReads 1 s.afterRetry := by
          rw [custody]
        have rest := ih (next_sound host sound) (custody ▸ ⟨watching.mode, rfl⟩) (.inl idle)
          unaccepted.2
        rwa [afterRetry_idle idle, smc, count, Nat.add_assoc, ← split] at rest
      constructor
      · rintro ⟨first, rest⟩
        exact (onward (below_of_silent sound watching unaccepted.1 first.silent).2).mp rest
      · intro below
        have first : s.writeFailures + failedReads 1 s.afterRetry < writeFailFallback := by omega
        obtain ⟨silent, custody, -⟩ := next_watching sound watching unaccepted.1 unheld first
        refine ⟨⟨silent, ?_, ?_, ?_⟩, (onward first).mpr below⟩
        · rw [custody]
          exact first
        · rw [custody]
          exact id
        · rw [custody]
          exact nofun

/-- A run in Observe over an unowned fan that accepts no control command is read-only
exactly if nothing is held at its start and its failed fan reads stay below the
fallback. -/
theorem observe_reads_only {history : List Event} (reach : Reachable s history)
    (mode : s.mode = .observe) (free : s.manualArmed = false) {hosts : List Host}
    (unaccepted : loop.Along (fun host s => ¬ s.Accepts host) hosts s) :
    loop.Along ReadsOnly hosts s ↔
      (hosts = [] ∨ s.Unheld) ∧
        s.writeFailures + failedReads hosts.length s.afterRetry < writeFailFallback := by
  have sound := reach_sound reach
  cases hosts with
  | nil => exact ⟨fun _ => ⟨.inl rfl, sound.counted⟩, fun _ => trivial⟩
  | cons host hosts =>
      constructor
      · intro reads
        have unheld := (below_of_silent sound ⟨mode, free⟩ unaccepted.1 reads.1.silent).1
        exact ⟨.inr unheld, (along_readsOnly sound ⟨mode, free⟩ unheld unaccepted).mp reads⟩
      · rintro ⟨absurd | unheld, below⟩
        · cases absurd
        · exact (along_readsOnly sound ⟨mode, free⟩ unheld unaccepted).mpr below

end Runs

section Blind

attribute [local instance] Bench.json

/-- A bench daemon in Observe whose fan fails its first `failures` reads after startup. -/
def blindDaemon (failures : Nat) : Supervisor Bench :=
  Bench.daemon { Bench.healthy with
    fan := .ok ⟨2000, .auto⟩ :: List.replicate failures (.error Bench.unread) } .observe

theorem observe_reads_only_twice :
    loop.Along ReadsOnly [Bench.quiet, Bench.quiet, Bench.quiet] (blindDaemon 2) ↔
      ([Bench.quiet, Bench.quiet, Bench.quiet] = [] ∨ (blindDaemon 2).Unheld) ∧
        (blindDaemon 2).writeFailures + failedReads 3 (blindDaemon 2).afterRetry
          < writeFailFallback :=
  observe_reads_only (Bench.daemon_reachable _ ⟨rfl, rfl⟩ .observe []) rfl rfl (by decide)

/-- Two failed fan reads stay below the fallback. -/
example : (blindDaemon 2).writeFailures + failedReads 3 (blindDaemon 2).afterRetry = 2 := by decide

/-- Three failed fan reads in Observe, over a fan never owned, write AUTO and latch. -/
theorem observe_reads_only_thrice :
    (∃ history, Reachable (blindDaemon 3) history) ∧ (blindDaemon 3).mode = .observe ∧
      (blindDaemon 3).manualArmed = false ∧
      loop.Along (fun host s => ¬ s.Accepts host) [Bench.quiet, Bench.quiet, Bench.quiet]
        (blindDaemon 3) ∧
      (∃ e ∈ loop.trace [Bench.quiet, Bench.quiet, Bench.quiet] (blindDaemon 3), e.changing) ∧
      (loop.run [Bench.quiet, Bench.quiet, Bench.quiet] (blindDaemon 3)).monitorOnly = true :=
  ⟨⟨_, Bench.daemon_reachable _ ⟨rfl, rfl⟩ .observe []⟩, rfl, rfl, by decide, by decide, by decide⟩

end Blind

end Supervisor

end Afanctl
