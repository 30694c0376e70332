import Afanctl.Lib.Machine
import Afanctl.Supervisor.Refinement
import Afanctl.Supervisor.Startup

/-!
Runs of the daemon.

A run starts with a built supervisor, as `run` leaves it when its loop begins or
as construction alone leaves it, and takes any number of polls. Each poll sees its
own host, and the backend answers as it likes. `Reachable` collects the states with
every call made so far; their custody is sound.
-/

namespace Afanctl

open Afanctl.Lib

variable {σ : Type} [Smc σ]

/-! ### Construction and startup -/

namespace Custody

/-- The custody of a daemon that owns nothing yet. -/
structure Unowned (c : Custody) : Prop where
  free : c.manualArmed = false
  idle : c.autoRestorePending = false
  unwritten : c.lastWritten = none
  uncounted : c.writeFailures = 0

theorem Unowned.sound {c : Custody} (unowned : c.Unowned)
    (proven : c.l2Absent = true → c.mode = .observe) : c.Sound where
  owned := fun armed => by simp [unowned.free] at armed
  proven := proven
  written := fun live => by simp [unowned.unwritten] at live
  counted := unowned.uncounted ▸ writeFailFallback_pos

end Custody

namespace Frame

variable {p : Frame σ}

theorem armL2_ok {restore : SafeRestore} (answer : (Smc.probeSafeRestore p.smc).1 = .ok restore) :
    p.armL2 = { (p.probeSafeRestore .run).2 with l2Absent := false } := by
  simp [armL2, probeSafeRestore, answer]

theorem armL2_error {e : SmcError} (answer : (Smc.probeSafeRestore p.smc).1 = .error e) :
    p.armL2.toCustody = { p.toCustody with mode := .observe, l2Absent := true } ∧
      p.armL2.log = p.log ++ [⟨.run, .probeSafeRestore (.error e), p.toCustody⟩] := by
  simp only [armL2, probeSafeRestore, answer]
  split
  · exact ⟨rfl, rfl⟩
  · next observe =>
      have observe : p.mode = .observe :=
        Decidable.byContradiction fun mode => observe ⟨mode, trivial⟩
      exact ⟨(Custody.mode_self observe).symm ▸ rfl, rfl⟩

/-- The probe arms L2 only by answering `Ok`; otherwise the mode is `observe`. -/
theorem armL2_unowned (unowned : p.Unowned) :
    p.armL2.Unowned ∧ (p.armL2.l2Absent = true → p.armL2.mode = .observe) ∧
      ∃ answer, p.armL2.log = p.log ++ [⟨.run, .probeSafeRestore answer, p.toCustody⟩] ∧
        (p.armL2.l2Absent = false → ∃ restore, answer = .ok restore) := by
  cases answer : (Smc.probeSafeRestore p.smc).1 with
  | ok restore =>
      rw [armL2_ok answer]
      refine ⟨⟨unowned.free, unowned.idle, unowned.unwritten, unowned.uncounted⟩, nofun,
        .ok restore, ?_, fun _ => ⟨restore, rfl⟩⟩
      rw [← answer]
      rfl
  | error e =>
      obtain ⟨custody, log⟩ := armL2_error answer
      rw [custody, log]
      exact ⟨⟨unowned.free, unowned.idle, unowned.unwritten, unowned.uncounted⟩, fun _ => rfl,
        _, rfl, nofun⟩

theorem reconcile_unread {e : SmcError} :
    p.reconcileStaleState (.error e) = p ∨
      (p.reconcileStaleState (.error e)).toCustody
          = { p.toCustody.latched.released with mode := .observe } ∧
        (p.reconcileStaleState (.error e)).log = p.log := by
  simp only [reconcileStaleState]
  split
  · exact .inl rfl
  · exact .inr ⟨rfl, rfl⟩

theorem reconcile_manual_ok {m : FanMode} (answer : (Smc.setMode .auto p.smc).1 = .ok m) :
    (p.reconcileStaleState (.ok .manual)).toCustody
        = { p.toCustody with manualArmed := false, lastWritten := none } ∧
      (p.reconcileStaleState (.ok .manual)).log
        = p.log ++ [⟨.reconcile, .setMode .auto (.ok m), p.toCustody⟩] := by
  simp only [reconcileStaleState, setMode, answer]
  exact ⟨rfl, rfl⟩

theorem reconcile_manual_error {e : SmcError} (answer : (Smc.setMode .auto p.smc).1 = .error e) :
    (p.reconcileStaleState (.ok .manual)).toCustody
        = { p.toCustody.latched.released with mode := .observe } ∧
      (p.reconcileStaleState (.ok .manual)).log
        = p.log ++ [⟨.reconcile, .setMode .auto (.error e), p.toCustody⟩] := by
  simp only [reconcileStaleState, setMode, answer]
  exact ⟨rfl, rfl⟩

/-- Reconciling keeps an unowned custody unowned, and calls nothing but AUTO, before it
changes anything. -/
theorem reconcile_unowned (inherited : Except SmcError FanMode) (unowned : p.Unowned) :
    (p.reconcileStaleState inherited).Unowned ∧
      ((p.reconcileStaleState inherited).mode = p.mode ∨
        (p.reconcileStaleState inherited).mode = .observe) ∧
      (p.reconcileStaleState inherited).l2Absent = p.l2Absent ∧
      Emits (fun e => e.autoAttempt ∧ e.custody = p.toCustody) p
        (p.reconcileStaleState inherited) := by
  cases inherited with
  | error e =>
      rcases reconcile_unread (p := p) (e := e) with same | ⟨custody, log⟩
      · rw [same]
        exact ⟨unowned, .inl rfl, rfl, .of_log rfl⟩
      · rw [custody]
        exact ⟨⟨rfl, rfl, rfl, rfl⟩, .inr rfl, rfl, .of_log log⟩
  | ok mode =>
      cases mode with
      | auto => exact ⟨unowned, .inl rfl, rfl, .of_log rfl⟩
      | manual =>
          cases answer : (Smc.setMode .auto p.smc).1 with
          | ok m =>
              obtain ⟨custody, log⟩ := reconcile_manual_ok answer
              rw [custody]
              exact ⟨⟨rfl, unowned.idle, rfl, unowned.uncounted⟩, .inl rfl, rfl,
                .of_event log ⟨rfl, rfl⟩⟩
          | error e =>
              obtain ⟨custody, log⟩ := reconcile_manual_error answer
              rw [custody]
              exact ⟨⟨rfl, rfl, rfl, rfl⟩, .inr rfl, rfl, .of_event log ⟨rfl, rfl⟩⟩

end Frame

namespace Supervisor

/-- Construction owns nothing, and control is on. -/
theorem new_unowned {smc : σ} {cfg : ResolvedConfig} {start : RunMode} {paths : RuntimePaths}
    {s : Supervisor σ} (built : Supervisor.new smc cfg start paths = .ok s) :
    s.Unowned ∧ s.monitorOnly = false ∧ s.l2Absent = false := by
  obtain ⟨-, rfl⟩ := new_eq_ok.mp built
  exact ⟨⟨rfl, rfl, rfl, rfl⟩, rfl, rfl⟩

/-- The frame of startup's fan read. -/
def inherited (host : Host) (s : Supervisor σ) : Frame σ :=
  (Frame.readFan .run { s.frame host with polls := 0 }).2

/-- What startup leaves: an unowned custody, no control mode without a proven L2,
and no control write on the way. -/
structure StartsUp (c : Custody) (log : List Event) : Prop where
  unowned : c.Unowned
  observes : c.l2Absent = true → c.mode = .observe
  silent : ∀ e ∈ log, ¬ e.control
  probed : c.l2Absent = false →
    ∃ e ∈ log, ∃ restore, e.site = .run ∧ e.op = .probeSafeRestore (.ok restore)

theorem started_startsUp (host : Host) {s : Supervisor σ} (unowned : s.Unowned) :
    StartsUp (s.started host).toCustody (s.started host).log := by
  have unowned : (s.inherited host).Unowned := unowned
  obtain ⟨armed, observes, answer, probeLog, probed⟩ := Frame.armL2_unowned unowned
  obtain ⟨reconciled, mode, absent, es, log, attempts⟩ :=
    Frame.reconcile_unowned ((Smc.readFan s.smc).1.map (·.mode)) armed
  have log : (s.started host).log = (s.inherited host).log
      ++ [⟨.run, .probeSafeRestore answer, (s.inherited host).toCustody⟩] ++ es := probeLog ▸ log
  refine ⟨reconciled, fun lost => ?_, fun e mem => ?_, fun proven => ?_⟩
  · rcases mode with mode | mode
    · exact mode.trans (observes (absent.symm.trans lost))
    · exact mode
  · rw [log] at mem
    rcases List.mem_append.mp mem with mem | mem
    · rcases List.mem_append.mp mem with mem | mem
      · rw [List.mem_singleton.mp mem]
        exact nofun
      · rw [List.mem_singleton.mp mem]
        exact nofun
    · exact Event.not_control_of_autoAttempt (attempts e mem).1
  · obtain ⟨restore, rfl⟩ := probed (absent.symm.trans proven)
    refine ⟨⟨.run, .probeSafeRestore (.ok restore), (s.inherited host).toCustody⟩, ?_, restore, rfl,
      rfl⟩
    rw [log]
    simp

/-- No call of startup is made with an owned or driven fan. -/
theorem started_unowned (host : Host) {s : Supervisor σ} (unowned : s.Unowned) :
    ∀ e ∈ (s.started host).log, e.custody.Unowned := by
  have unowned : (s.inherited host).Unowned := unowned
  obtain ⟨armed, -, answer, probeLog, -⟩ := Frame.armL2_unowned unowned
  obtain ⟨-, -, -, es, log, attempts⟩ :=
    Frame.reconcile_unowned ((Smc.readFan s.smc).1.map (·.mode)) armed
  have log : (s.started host).log = (s.inherited host).log
      ++ [⟨.run, .probeSafeRestore answer, (s.inherited host).toCustody⟩] ++ es := probeLog ▸ log
  intro e mem
  rw [log] at mem
  rcases List.mem_append.mp mem with mem | mem
  · rcases List.mem_append.mp mem with mem | mem
    · rw [List.mem_singleton.mp mem]
      exact unowned
    · rw [List.mem_singleton.mp mem]
      exact unowned
  · rw [(attempts e mem).2]
    exact armed

/-! ### Runs -/

/-- A supervisor enters its loop: built, or built and started up. The list is the
calls made on the way. -/
inductive Launched : Supervisor σ → List Event → Prop where
  | built {smc : σ} {cfg : ResolvedConfig} {start : RunMode} {paths : RuntimePaths}
      {s : Supervisor σ} : Supervisor.new smc cfg start paths = .ok s → Launched s []
  | started {smc : σ} {cfg : ResolvedConfig} {start : RunMode} {paths : RuntimePaths}
      {s : Supervisor σ} (host : Host) : Supervisor.new smc cfg start paths = .ok s →
      Launched (s.start host) (s.started host).log

theorem Launched.unowned {s : Supervisor σ} {log : List Event} (launched : Launched s log) :
    s.Unowned := by
  cases launched with
  | built built => exact (new_unowned built).1
  | started host built => exact (started_startsUp host (new_unowned built).1).unowned

theorem Launched.sound {s : Supervisor σ} {log : List Event} (launched : Launched s log) :
    s.Sound := by
  cases launched with
  | built built =>
      obtain ⟨unowned, -, proven⟩ := new_unowned built
      exact unowned.sound fun absent => by simp [proven] at absent
  | started host built =>
      have up := started_startsUp host (new_unowned built).1
      exact up.unowned.sound up.observes

variable [SerdeJson]

/-- The poll loop: each host is one poll, each call one output. -/
def loop : Machine Host (Supervisor σ) Event where
  next := next
  out := calls

/-- The states of every run, with every call made so far. -/
abbrev Reachable (s : Supervisor σ) (history : List Event) : Prop :=
  loop.Reach Launched (fun _ _ => True) s history

theorem next_sound (host : Host) {s : Supervisor σ} (sound : s.Sound) : (s.next host).Sound :=
  sound.poll (poll_refines host s sound)

/-- The custody of every reached state is sound. -/
theorem reach_sound {allowed : Host → Supervisor σ → Prop} {s : Supervisor σ}
    {history : List Event} (reach : loop.Reach Launched allowed s history) : s.Sound :=
  reach.invariant (I := fun s _ => s.Sound) Launched.sound fun _ sound => next_sound _ sound

end Supervisor

end Afanctl
