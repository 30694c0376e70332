import Afanctl.Safety.Process
import Afanctl.Safety.Wire

/-!
The daemon, interrupted.

A run over the adapter is the code of a process: what the device is asked up to the restore
probe, the installation of the death path where the probe passes, and what the device is asked
from there on. So what is known of interrupted processes, and of which calls drive the fan,
says how the daemon leaves the fan when it is ended at any instant.
-/

namespace Afanctl

open Afanctl.Lib

namespace Process

/-! ### Code that arms the death path once, or never -/

/-- Calls, the installation of a descriptor if there is one, and more calls. -/
def armedCode (first : List FileOp) (installed : Option SafeRestore) (last : List FileOp) :
    List Instr :=
  first.map .call ++ installed.elim [] installDeathPath ++ last.map .call

section Armed

variable {first last : List FileOp} {installed : Option SafeRestore} {done rest : List Instr}

theorem calls_append (code code' : List Instr) :
    calls (code ++ code') = calls code ++ calls code' := List.filterMap_append

theorem calls_map (ops : List FileOp) : calls (ops.map .call) = ops := by
  unfold calls
  rw [List.filterMap_map]
  exact List.filterMap_some

theorem calls_install : calls (installed.elim [] installDeathPath) = [] := by
  cases installed <;> rfl

/-- A beginning of such code makes a beginning of its calls. -/
theorem calls_begun (eq : armedCode first installed last = done ++ rest) :
    calls done <+: first ++ last := by
  refine ⟨calls rest, ?_⟩
  rw [← calls_append, ← eq, armedCode, calls_append, calls_append, calls_map, calls_map,
    calls_install, List.append_nil]

/-- Past its first calls, the descriptor is installed. -/
theorem installed_of_past (eq : armedCode first installed last = done ++ rest)
    (past : ¬ calls done <+: first) :
    ∃ more, done = first.map .call ++ installed.elim [] installDeathPath ++ more := by
  rcases List.append_eq_append_iff.mp eq with ⟨more, begun, -⟩ | ⟨more, begun, -⟩
  · exact ⟨more, begun⟩
  · refine absurd ⟨calls more, ?_⟩ past
    rw [← calls_append, ← begun, calls_append, calls_map, calls_install, List.append_nil]

/-- Nothing else is ever published. -/
theorem published_begun (eq : armedCode first installed last = done ++ rest) {restore : SafeRestore}
    (found : published done = some restore) : installed = some restore := by
  have publishes : Instr.publish restore ∈ armedCode first installed last := by
    obtain ⟨i, mem, same⟩ := List.mem_filterMap.mp (List.mem_of_getLast? found)
    rw [eq]
    cases i with
    | publish restore' =>
        cases same
        exact List.mem_append_left _ mem
    | _ => cases same
  cases installed with
  | none => simp [armedCode] at publishes
  | some restore' =>
      have same : restore = restore' := by
        simpa [armedCode, installDeathPath, Signal.all] using publishes
      rw [same]

/-- An interrupted process with such code: beyond its first calls, no signal that is caught and no
panic ends it without a death write, if there is a usable descriptor. -/
theorem armed_interrupted (first last : List FileOp) (installed : Option SafeRestore)
    (choices : List Choice) :
    let p := machine.run choices (fresh (armedCode first installed last))
    ∃ ops deaths, p.log = ops.map .called ++ deaths.map .restored ∧ ops <+: first ++ last ∧
      deaths.length ≤ 5 ∧ (∀ restore ∈ deaths, installed = some restore) ∧
      ∀ restore, installed = some restore → 0 ≤ restore.fd → ¬ ops <+: first →
        p.ended ≠ none → (∀ sig, p.ended ≠ some (.uncaught sig)) → deaths ≠ [] := by
  obtain ⟨done, eq, stands⟩ := stands_run (armedCode first installed last) choices
  have log := stands.log
  rw [stands.armed] at log
  refine ⟨_, _, log, calls_begun eq, ?_, ?_, ?_⟩
  · exact Nat.le_trans (restores_length _ _) stands.deathWrites_le
  · exact fun restore mem => published_begun eq (mem_restores mem).1
  · rintro restore rfl usable past ended heard
    obtain ⟨more, begun⟩ := installed_of_past eq past
    have armed : published done = some restore := by
      cases found : published done with
      | some restore' => exact (published_begun eq found).symm
      | none =>
          have none := List.filterMap_eq_nil_iff.mp (List.getLast?_eq_none_iff.mp found)
          have unpublished := none (.publish restore) (by simp [begun, installDeathPath])
          cases unpublished
    rw [armed]
    refine restores_ne_nil usable (stands.deathWrites_pos ?_ ?_ ended heard)
    · simp [begun, installDeathPath]
    · intro sig
      cases sig <;> simp [begun, installDeathPath, Signal.all]

end Armed

end Process

/-! ### The daemon as a process -/

namespace SysfsSmc

variable {δ : Type}

/-- What the device has been asked since. -/
def since (s s' : SysfsSmc δ) : List FileOp := s'.world.journal.drop s.world.journal.length

variable {s s' s'' : SysfsSmc δ} {es es' : List Event}

theorem Stretches.since_append (first : s.Stretches es s') (second : s'.Stretches es' s'') :
    s.since s' ++ s'.since s'' = s.since s'' := by
  obtain ⟨-, ops, journal, -⟩ := first
  obtain ⟨-, ops', journal', -⟩ := second
  unfold since
  rw [journal', journal, List.append_assoc, List.drop_left, List.drop_left, ← List.append_assoc,
    List.drop_left]

/-- Calls that control nothing drive nothing. -/
theorem Stretches.since_quiet (stretched : s.Stretches es s') (silent : ∀ e ∈ es, ¬ e.control) :
    ∀ o ∈ s.since s', ¬ s.Drives o := by
  obtain ⟨-, ops, journal, each⟩ := stretched
  unfold since
  rw [journal, List.drop_left]
  exact Supervisor.stretches_quiet silent each

/-- A write that hands the fan back: the AUTO token, at its path or through the descriptor. -/
def Restores (s : SysfsSmc δ) : FileOp → Prop
  | .write path payload _ => path = s.modePath ∧ payload = s.abi.auto
  | .writeHeld payload _ => payload = s.abi.auto
  | _ => False

/-- Calls that control nothing write nothing else. -/
theorem Touches.restores {e : Event} {o : FileOp} (touches : s.Touches e.op o)
    (silent : ¬ e.control) (writes : o.writes) : s.Restores o := by
  obtain ⟨site, op, custody⟩ := e
  cases touches with
  | speed => exact absurd rfl silent
  | mode =>
      rename_i mode verified answer
      cases mode with
      | manual => exact absurd rfl silent
      | auto => exact ⟨rfl, rfl⟩
  | restore => rfl
  | _ => cases writes

theorem Stretches.since_restores (stretched : s.Stretches es s') (silent : ∀ e ∈ es, ¬ e.control) :
    ∀ o ∈ s.since s', o.writes → s.Restores o := by
  obtain ⟨-, ops, journal, each⟩ := stretched
  unfold since
  rw [journal, List.drop_left]
  have both := (List.forall₂_and_left (p := fun e : Event => ¬ e.control) es ops).mpr
    ⟨silent, each⟩
  refine Supervisor.stretches_forall (P := fun o => o.writes → s.Restores o) (both.imp ?_)
  exact fun e ops told o mem writes => (told.2.touches o mem).restores told.1 writes

/-- A probe that passed has written the restore bytes. -/
theorem Stretches.since_proven (stretched : s.Stretches es s') {e : Event} (mem : e ∈ es)
    {restore : SafeRestore} (passed : e.op = .probeSafeRestore (.ok restore)) :
    FileOp.writeHeld s.abi.auto (.ok ()) ∈ s.since s' := by
  obtain ⟨-, ops, journal, each⟩ := stretched
  unfold since
  rw [journal, List.drop_left]
  exact Supervisor.stretches_proven each mem passed

variable [Sysfs δ]

/-- A proof is of the adapter's own descriptor. -/
theorem safeRestore_of_proof {restore : SafeRestore}
    (passed : (Smc.probeSafeRestore s).1 = .ok restore) : s.safeRestore = some restore := by
  have passed : s.probeSafeRestore.1 = .ok restore := passed
  unfold probeSafeRestore at passed
  split at passed
  · cases passed
  · split at passed
    · cases passed
    · split at passed
      · cases passed
      · cases passed
      · split at passed
        · next found =>
            cases passed
            exact found
        · cases passed

end SysfsSmc

namespace Supervisor

section Code

variable {σ : Type} [Smc σ]

/-- What the restore probe of startup answers. -/
def proof (boot : Host) (s : Supervisor σ) : Except SmcError SafeRestore :=
  (Smc.probeSafeRestore (s.inherited boot).smc).1

/-- The backend as the probe leaves it. -/
def probed (boot : Host) (s : Supervisor σ) : σ := (Smc.probeSafeRestore (s.inherited boot).smc).2

variable {δ : Type} [Sysfs δ] [SerdeJson]

/-- What `run` does on its device in startup and so many polls: the death path is installed
where the probe passes. -/
def code (boot : Host) (hosts : List Host) (s : Supervisor (SysfsSmc δ)) : List Instr :=
  Process.armedCode (s.smc.since (s.probed boot)) (s.proof boot).toOption
    ((s.probed boot).since (loop.run hosts (s.start boot)).smc)

end Code

section Startup

variable {σ : Type} [Smc σ] {s : Supervisor σ} {boot : Host}

/-- Startup splits behind its probe. -/
theorem started_split (boot : Host) (s : Supervisor σ) :
    ∃ before after, (s.started boot).log = before ++ after ∧ Asks s.smc before (s.probed boot) ∧
      Asks (s.probed boot) after (s.start boot).smc ∧
      ∃ e ∈ before, e.op = .probeSafeRestore (s.proof boot) := by
  have looked : Asks s.smc (s.inherited boot).log (s.inherited boot).smc :=
    .single (.serve (.readFan .run _))
  obtain ⟨probeLog, probed⟩ := Frame.armL2_probes (s.inherited boot)
  obtain ⟨es, log, serves⟩ := Frame.faithful_reconcileStaleState
    ((Smc.readFan s.smc).1.map (·.mode)) (s.inherited boot).armL2
  rw [probed] at serves
  rw [probeLog] at log
  exact ⟨_, es, log, looked.tail (.probe .run (s.inherited boot).toCustody), serves.asks, _,
    List.mem_append_right _ List.mem_cons_self, rfl⟩

/-- Without a proof, the daemon goes without L2. -/
theorem start_l2Absent {e : SmcError} (failed : s.proof boot = .error e) (unowned : s.Unowned) :
    (s.start boot).l2Absent = true := by
  have unowned : (s.inherited boot).Unowned := unowned
  obtain ⟨armed, -⟩ := Frame.armL2_unowned unowned
  obtain ⟨-, -, kept, -⟩ :=
    Frame.reconcile_unowned ((Smc.readFan s.smc).1.map (·.mode)) armed
  have custody := (Frame.armL2_error failed).1
  have absent : (s.inherited boot).armL2.l2Absent = true := congrArg Custody.l2Absent custody
  exact kept.trans absent

end Startup

section Interrupted

variable {δ : Type} [Sysfs δ] [SerdeJson]

/-- A run is what it asks of its device up to the probe, and then. The first part controls
nothing, nor does the second where the probe failed. -/
theorem run_parts {smc : SysfsSmc δ} {cfg : ResolvedConfig} {start : RunMode}
    {paths : RuntimePaths} {s : Supervisor (SysfsSmc δ)}
    (built : Supervisor.new smc cfg start paths = .ok s) (boot : Host) (hosts : List Host) :
    ∃ before after, smc.Stretches before (s.probed boot) ∧
      (s.probed boot).Stretches after (loop.run hosts (s.start boot)).smc ∧
      (∀ e ∈ before, ¬ e.control) ∧
      (∃ e ∈ before, e.op = .probeSafeRestore (s.proof boot)) ∧
      ∀ failure, s.proof boot = .error failure → ∀ e ∈ after, ¬ e.control := by
  obtain ⟨-, rfl⟩ := new_eq_ok.mp built
  have unowned := (new_unowned built).1
  have up := started_startsUp boot unowned
  have sound : ((Supervisor.wired smc cfg start paths).start boot).Sound :=
    up.unowned.sound up.observes
  obtain ⟨before, after, log, first, second, probe⟩ :=
    started_split boot (Supervisor.wired smc cfg start paths)
  have silent : ∀ e ∈ before ++ after, ¬ e.control := log ▸ up.silent
  refine ⟨before, _, SysfsSmc.asks_stretches first, SysfsSmc.asks_stretches (second.trans
    (trace_asked hosts ((Supervisor.wired smc cfg start paths).start boot))),
    fun e mem => silent e (List.mem_append_left _ mem), probe, ?_⟩
  intro failure failed e mem control
  rcases List.mem_append.mp mem with mem | mem
  · exact silent e (List.mem_append_right _ mem) control
  · have proven := (trace_authorized hosts sound e mem control).2
    have absent := start_l2Absent failed unowned
    rw [proven] at absent
    cases absent

/-- The daemon, interrupted by signals at any instant of its startup, its polls, the
installation of its handlers or their runs, or by a panic: its device has seen a beginning of
the run and then death writes of the AUTO token through the descriptor that was proven, at
most five. Once a write has driven the fan, it does not end without one by SIGSEGV, SIGABRT,
SIGTERM, SIGINT or a panic. Of the other fatal signals, which the death path does not catch,
nothing of the kind is said. -/
theorem daemon_interrupted {smc : SysfsSmc δ} {cfg : ResolvedConfig} {start : RunMode}
    {paths : RuntimePaths} {s : Supervisor (SysfsSmc δ)}
    (built : Supervisor.new smc cfg start paths = .ok s)
    (opened : ∀ fd, smc.restoreFile = some fd → 0 ≤ fd) (boot : Host) (hosts : List Host)
    (choices : List Choice) :
    let p := Process.machine.run choices (.fresh (s.code boot hosts))
    ∃ ops deaths, p.log = ops.map .called ++ deaths.map .restored ∧
      ops <+: smc.since (loop.run hosts (s.start boot)).smc ∧ deaths.length ≤ 5 ∧
      (∀ restore ∈ deaths, smc.restoreFile = some restore.fd ∧ restore.bytes = smc.abi.auto) ∧
      ((∃ o ∈ ops, smc.Drives o) → p.ended ≠ none → (∀ sig, p.ended ≠ some (.uncaught sig)) →
        deaths ≠ []) := by
  obtain ⟨before, after, began, onward, silent, -, unproven⟩ := run_parts built boot hosts
  have whole := began.since_append onward
  have calm := began.since_quiet silent
  have own : s.smc = smc := by
    obtain ⟨-, rfl⟩ := new_eq_ok.mp built
    rfl
  have held {restore : SafeRestore} (passed : s.proof boot = .ok restore) :
      smc.restoreFile = some restore.fd ∧ restore.bytes = smc.abi.auto := by
    obtain ⟨-, rfl⟩ := new_eq_ok.mp built
    obtain ⟨fd, file, rfl⟩ := Option.map_eq_some_iff.mp (SysfsSmc.safeRestore_of_proof passed)
    exact ⟨file, rfl⟩
  obtain ⟨ops, deaths, log, begun, few, restored, ends⟩ := Process.armed_interrupted
    (s.smc.since (s.probed boot)) ((s.probed boot).since (loop.run hosts (s.start boot)).smc)
    (s.proof boot).toOption choices
  rw [own] at begun ends
  refine ⟨ops, deaths, log, whole ▸ begun, few, ?_, ?_⟩
  · intro restore mem
    have installed := restored restore mem
    cases passed : s.proof boot with
    | error e =>
        rw [passed] at installed
        cases installed
    | ok restore' =>
        rw [passed] at installed
        cases installed
        exact held passed
  · rintro ⟨o, mem, drives⟩ ended heard
    have past : ¬ ops <+: smc.since (s.probed boot) :=
      fun early => calm o (early.subset mem) drives
    cases passed : s.proof boot with
    | error e =>
        rcases List.mem_append.mp (begun.subset mem) with early | late
        · exact absurd drives (calm o early)
        · have calm' := onward.since_quiet (unproven e passed) o late
          rw [began.1] at calm'
          exact absurd drives calm'
    | ok restore =>
        have installed : (s.proof boot).toOption = some restore := congrArg Except.toOption passed
        exact ends restore installed (opened _ (held passed).1) past (own ▸ ended) (own ▸ heard)

/-- The first write of every daemon hands the fan back to the firmware: whatever its
predecessor left, and whatever it is configured or told to do. -/
theorem first_write_restores {smc : SysfsSmc δ} {cfg : ResolvedConfig} {start : RunMode}
    {paths : RuntimePaths} {s : Supervisor (SysfsSmc δ)}
    (built : Supervisor.new smc cfg start paths = .ok s) (boot : Host) (hosts : List Host) :
    ∀ before o after, smc.since (loop.run hosts (s.start boot)).smc = before ++ o :: after →
      (∀ o' ∈ before, ¬ o'.writes) → o.writes → smc.Restores o := by
  intro front o back split unwritten writes
  obtain ⟨before, after, began, onward, silent, ⟨probe, probed, asked⟩, unproven⟩ :=
    run_parts built boot hosts
  have mem : o ∈ smc.since (loop.run hosts (s.start boot)).smc := by
    rw [split]
    exact List.mem_append_right _ List.mem_cons_self
  rw [← began.since_append onward] at split mem
  rcases List.mem_append.mp mem with early | late
  · exact began.since_restores silent o early writes
  · cases passed : s.proof boot with
    | error e =>
        have restores := onward.since_restores (unproven e passed) o late writes
        rw [began.1] at restores
        exact restores
    | ok restore =>
        rw [passed] at asked
        have proven := began.since_proven probed asked
        -- the write of the proof is none of those before the first
        rcases List.append_eq_append_iff.mp split with ⟨gap, rfl, tail⟩ | ⟨gap, whole, tail⟩
        · exact absurd rfl (unwritten _ (List.mem_append_left _ proven))
        · cases gap with
          | nil =>
              rw [whole, List.append_nil] at proven
              exact absurd rfl (unwritten _ proven)
          | cons o' gap =>
              obtain ⟨rfl, -⟩ := List.cons.inj tail
              refine began.since_restores silent o ?_ writes
              rw [whole]
              exact List.mem_append_right _ List.mem_cons_self

end Interrupted

end Supervisor

section Concrete

attribute [local instance] Bench.json

namespace Supervisor

/-- A poll that takes the fan over and writes a speed, and then two signals, the second during
the handler of the first. -/
def terminated : Process :=
  Process.machine.run
    (List.replicate 40 .step ++ [.signal .term, .step, .signal .int] ++ List.replicate 8 .step)
    (.fresh (wiredDaemon.code Bench.quiet [Bench.quiet]))

/-- It has driven the fan, restores AUTO for each signal, and dies of the second. -/
theorem daemon_interrupted_terminated :
    (terminated.ended = some (.signalled .int) ∧ terminated.deathWrites = 2 ∧
        terminated.log.countP (fun act => match act with
          | .called o => o.writes
          | .restored _ => false) = 3) ∧
      ∃ (ops : List FileOp) (deaths : List SafeRestore),
        terminated.log = ops.map .called ++ deaths.map .restored ∧ deaths.length ≤ 5 ∧
          ∀ restore ∈ deaths, restore.bytes = "2" := by
  obtain ⟨ops, deaths, log, -, few, restored, -⟩ := @daemon_interrupted Plant _ _ laggingAdapter
    Bench.config .curve Bench.paths wiredDaemon (new_eq_ok.mpr ⟨Bench.config_valid, rfl⟩)
    (fun fd held => by cases held; decide) Bench.quiet [Bench.quiet]
    (List.replicate 40 .step ++ [.signal .term, .step, .signal .int] ++ List.replicate 8 .step)
  exact ⟨by decide +kernel, ops, deaths, log, few, fun restore mem => (restored restore mem).2⟩

/-- The same poll, and a hangup that nothing catches. -/
def hungUp : Process :=
  Process.machine.run (List.replicate 40 .step ++ [.uncaught .hup])
    (.fresh (wiredDaemon.code Bench.quiet [Bench.quiet]))

example : hungUp.ended = some (.uncaught .hup) ∧ hungUp.deathWrites = 0 ∧
    hungUp.log.countP (fun act => match act with
      | .called o => o.writes
      | .restored _ => false) = 3 := by decide +kernel

/-- The first poll of the daemon over a lagging fan drives it; the restore bytes came first. -/
theorem first_write_restores_lagging :
    wiredJournal.countP (·.writes) = 3 ∧
      ∀ before o after, wiredJournal = before ++ o :: after → (∀ o' ∈ before, ¬ o'.writes) →
        o.writes → laggingAdapter.Restores o :=
  ⟨wiredJournal_writes, @first_write_restores Plant _ _ laggingAdapter Bench.config .curve
    Bench.paths wiredDaemon (new_eq_ok.mpr ⟨Bench.config_valid, rfl⟩) Bench.quiet [Bench.quiet]⟩

end Supervisor

end Concrete

end Afanctl
