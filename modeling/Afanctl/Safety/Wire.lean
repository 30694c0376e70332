import Mathlib.Data.List.Forall2
import Afanctl.Safety.Authority
import Afanctl.Supervisor.Asked
import Afanctl.Sysfs.Twin
import Afanctl.Sysfs.Wire

/-!
The daemon on the wire.

What the supervisor may ask of a backend, and with what authority, is said of its recorded
calls. Here it is said of the attribute files: over a run from construction on, the journal
of the device is made of the operations of the recorded calls, one stretch each, and a write
that drives the fan lies in the stretch of a call that had the authority.
-/

namespace Afanctl

open Afanctl.Lib

namespace SysfsSmc

variable {δ : Type} {s : SysfsSmc δ} {op : Op}

/-! ### The writes of an adapter -/

/-- A write that drives the fan: a speed, or the manual token. -/
def Drives (s : SysfsSmc δ) : FileOp → Prop
  | .write path payload _ => path = s.out ∨ path = s.modePath ∧ payload = s.abi.manual
  | _ => False

/-- All an adapter ever writes: speeds of its band, mode tokens of its generation, and the
restore bytes of the death path. -/
inductive Writes (s : SysfsSmc δ) : FileOp → Prop where
  | speed {rpm : Nat} {answer : Except String Unit} :
      s.hwMin ≤ rpm → rpm ≤ s.hwMax → Writes s (.write s.out (toString rpm) answer)
  | mode (mode : FanMode) {answer : Except String Unit} :
      Writes s (.write s.modePath (s.abi.token mode) answer)
  | restore {answer : Except String Unit} : Writes s (.writeHeld s.abi.auto answer)

/-- The two attributes are different files. -/
theorem out_ne_modePath (s : SysfsSmc δ) : s.out ≠ s.modePath := by
  have names : s.abi.target ≠ s.abi.modeAttr := by
    rcases s.bound with bound | bound <;> rw [bound] <;> decide
  intro same
  apply names
  exact join_inj.mp same

theorem auto_ne_manual (s : SysfsSmc δ) : s.abi.auto ≠ s.abi.manual := by
  rcases s.bound with bound | bound <;> rw [bound] <;> decide

namespace Touches

variable {o : FileOp}

/-- What a call may do does not depend on the device. -/
theorem world {w : World δ} (touches : ({ s with world := w } : SysfsSmc δ).Touches op o) :
    s.Touches op o := by
  cases touches with
  | sensor mem => exact .sensor mem
  | tach => exact .tach
  | fanMode => exact .fanMode
  | speed => exact .speed
  | echo => exact .echo
  | speedPause => exact .speedPause
  | mode => exact .mode
  | modeEcho => exact .modeEcho
  | modePause => exact .modePause
  | restore => exact .restore
  | restoreEcho => exact .restoreEcho
  | restorePause => exact .restorePause

/-- Only control calls drive. -/
theorem control {e : Event} (touches : s.Touches e.op o) (drives : s.Drives o) :
    e.control = true := by
  obtain ⟨site, op, custody⟩ := e
  cases touches with
  | speed => rfl
  | mode =>
      rename_i mode verified answer
      cases mode with
      | manual => rfl
      | auto =>
          rcases drives with out | ⟨-, manual⟩
          · exact absurd out.symm s.out_ne_modePath
          · exact absurd manual s.auto_ne_manual
  | _ => cases drives

theorem writes (touches : s.Touches op o) (writes : o.writes = true) : s.Writes o := by
  cases touches with
  | speed => exact .speed (clamp_mem s.band _).1 (clamp_mem s.band _).2
  | mode => exact .mode _
  | restore => exact .restore
  | _ => cases writes

end Touches

theorem Journals.world {w : World δ} {ops : List FileOp}
    (journals : ({ s with world := w } : SysfsSmc δ).Journals op ops) : s.Journals op ops :=
  ⟨fun o mem => (journals.touches o mem).world, journals.few, journals.proven⟩

/-! ### Stretches of the journal -/

/-- The journal of `s'` continues that of `s` with one stretch for each recorded call. -/
def Stretches (s : SysfsSmc δ) (es : List Event) (s' : SysfsSmc δ) : Prop :=
  s' = { s with world := s'.world } ∧ ∃ stretches : List (List FileOp),
    s'.world.journal = s.world.journal ++ stretches.flatten ∧
    List.Forall₂ (fun e ops => s.Journals e.op ops) es stretches

variable [Sysfs δ]

/-- A recorded call is one event, and did what such a call does. -/
theorem ask_serviced {s s' : SysfsSmc δ} {es : List Event} (ask : Ask s es s') :
    ∃ e, es = [e] ∧ Serviced e.op s s' := by
  cases ask with
  | serve serve =>
      cases serve with
      | readSensors => exact ⟨_, rfl, serviced_readSensors s⟩
      | readFan => exact ⟨_, rfl, serviced_readFan s⟩
      | writeSpeed _ rpm => exact ⟨_, rfl, serviced_writeSpeed rpm s⟩
      | setMode _ mode => exact ⟨_, rfl, serviced_setMode mode s⟩
  | probe => exact ⟨_, rfl, serviced_probeSafeRestore s⟩

/-- The journal over recorded calls. -/
theorem asks_stretches {s s' : SysfsSmc δ} {es : List Event} (asks : Asks s es s') :
    s.Stretches es s' := by
  induction asks with
  | refl => exact ⟨rfl, [], by simp, .nil⟩
  | tail before last ih =>
      obtain ⟨same, stretches, journal, each⟩ := ih
      obtain ⟨e, rfl, same', ops, journal', journals⟩ := ask_serviced last
      refine ⟨?_, stretches ++ [ops], ?_, ?_⟩
      · rw [same', same]
      · rw [journal', journal, List.flatten_append, List.append_assoc]
        simp
      · rw [same] at journals
        exact List.rel_append each (.cons journals.world .nil)

end SysfsSmc

/-! ### Over whole runs -/

namespace Supervisor

variable {δ : Type} [Sysfs δ] [SerdeJson]

variable {smc : SysfsSmc δ} {log : List Event} {stretches : List (List FileOp)}

omit [Sysfs δ] [SerdeJson] in
/-- What holds of every operation of every stretch. -/
theorem stretches_forall {P : FileOp → Prop}
    (each : List.Forall₂ (fun (_ : Event) ops => ∀ o ∈ ops, P o) log stretches) :
    ∀ o ∈ stretches.flatten, P o := by
  induction each with
  | nil => exact nofun
  | cons here _ ih =>
      intro o mem
      rw [List.flatten_cons] at mem
      rcases List.mem_append.mp mem with mem | mem
      · exact here o mem
      · exact ih o mem

omit [Sysfs δ] [SerdeJson] in
/-- Calls that control nothing drive nothing. -/
theorem stretches_quiet (silent : ∀ e ∈ log, ¬ e.control)
    (each : List.Forall₂ (fun e ops => smc.Journals e.op ops) log stretches) :
    ∀ o ∈ stretches.flatten, ¬ smc.Drives o := by
  have both := (List.forall₂_and_left (p := fun e : Event => ¬ e.control) log stretches).mpr
    ⟨silent, each⟩
  refine stretches_forall (P := fun o => ¬ smc.Drives o) (both.imp ?_)
  intro e ops told o mem drives
  exact told.1 ((told.2.touches o mem).control drives)

omit [Sysfs δ] [SerdeJson] in
/-- A probe that passed has written the restore bytes. -/
theorem stretches_proven (each : List.Forall₂ (fun e ops => smc.Journals e.op ops) log stretches)
    {e : Event} (mem : e ∈ log) {restore : SafeRestore}
    (passed : e.op = .probeSafeRestore (.ok restore)) :
    FileOp.writeHeld smc.abi.auto (.ok ()) ∈ stretches.flatten := by
  induction each with
  | nil => cases mem
  | cons journals _ ih =>
      rw [List.flatten_cons]
      rcases List.mem_cons.mp mem with rfl | mem
      · exact List.mem_append_left _ (journals.proven restore passed)
      · exact List.mem_append_right _ (ih mem)

omit [Sysfs δ] [SerdeJson] in
/-- Two parts of a run: one that controls nothing, and one whose control calls have authority
and a probe that passed in the first. -/
theorem wire_of_parts {begun ends : SysfsSmc δ} {booting polled : List Event}
    (silent : ∀ e ∈ booting, ¬ e.control)
    (granted : ∀ e ∈ polled, e.control → e.custody.Authorized ∧
      ∃ probe ∈ booting, ∃ restore, probe.op = .probeSafeRestore (.ok restore))
    (began : smc.Stretches booting begun) (ran : begun.Stretches polled ends) :
    ∃ stretches : List (List FileOp),
      ends = { smc with world := ends.world } ∧
      ends.world.journal = smc.world.journal ++ stretches.flatten ∧
      List.Forall₂ (fun e ops => smc.Journals e.op ops ∧
        ∀ o ∈ ops, smc.Drives o → e.control ∧ e.custody.Authorized) (booting ++ polled)
        stretches ∧
      (∀ o ∈ stretches.flatten, o.writes → smc.Writes o) ∧
      ∀ before o after, stretches.flatten = before ++ o :: after → smc.Drives o →
        FileOp.writeHeld smc.abi.auto (.ok ()) ∈ before := by
  obtain ⟨same, first, journal, booted⟩ := began
  obtain ⟨same', rest, journal', onward⟩ := ran
  replace onward : List.Forall₂ (fun e ops => smc.Journals e.op ops) polled rest := by
    rw [same] at onward
    exact onward.imp fun _ _ journals => journals.world
  have authorized : ∀ e ∈ booting ++ polled, e.control → e.custody.Authorized := by
    intro e mem control
    rcases List.mem_append.mp mem with mem | mem
    · exact absurd control (silent e mem)
    · exact (granted e mem control).1
  have whole : List.Forall₂ (fun e ops => smc.Journals e.op ops) (booting ++ polled)
      (first ++ rest) := List.rel_append booted onward
  refine ⟨first ++ rest, ?_, ?_, ?_, ?_, ?_⟩
  · rw [same] at same'
    exact same'
  · rw [journal', journal, List.flatten_append, List.append_assoc]
  · refine ((List.forall₂_and_left _ _).mpr ⟨authorized, whole⟩).imp ?_
    intro e ops told
    refine ⟨told.2, fun o mem drives => ?_⟩
    have control := (told.2.touches o mem).control drives
    exact ⟨control, told.1 control⟩
  · refine stretches_forall (P := fun o => o.writes = true → smc.Writes o) (whole.imp ?_)
    intro e ops journals o mem writes
    exact (journals.touches o mem).writes writes
  · intro before o after split drives
    have quiet := stretches_quiet silent booted
    rw [List.flatten_append] at split
    -- a driving write is none of the first part's, so all of that part comes before it
    obtain ⟨gap, early, tail⟩ : ∃ gap, before = first.flatten ++ gap ∧
        rest.flatten = gap ++ o :: after := by
      rcases List.append_eq_append_iff.mp split with ⟨gap, before, tail⟩ | ⟨gap, early, tail⟩
      · exact ⟨gap, before, tail⟩
      · cases gap with
        | nil => exact ⟨[], by simpa using early.symm, by simpa using tail.symm⟩
        | cons o' gap =>
            obtain ⟨rfl, -⟩ := List.cons.inj tail
            refine absurd drives (quiet o ?_)
            rw [early]
            exact List.mem_append_right _ List.mem_cons_self
    have proven : ∃ probe ∈ booting, ∃ restore, probe.op = .probeSafeRestore (.ok restore) := by
      apply Classical.byContradiction
      intro unproven
      have controlled : ∀ e ∈ polled, ¬ e.control :=
        fun e mem control => unproven (granted e mem control).2
      refine stretches_quiet controlled onward o ?_ drives
      rw [tail]
      exact List.mem_append_right _ List.mem_cons_self
    obtain ⟨probe, mem, restore, passed⟩ := proven
    rw [early]
    exact List.mem_append_left _ (stretches_proven booted mem passed)

/-- A run over the adapter, from construction through startup and any number of polls: the
adapter stays bound to what it was opened on, and its journal consists of one stretch for
each recorded call, with at most two writes each. Every write is a speed of the hardware
band, a token of the bound generation or the restore bytes; one that drives the fan belongs
to a call made in Curve or Hold, out of the latch and with a proven L2, and comes after the
restore bytes were written through the descriptor of the death path. -/
theorem run_on_the_wire {smc : SysfsSmc δ} {cfg : ResolvedConfig} {start : RunMode}
    {paths : RuntimePaths} {s : Supervisor (SysfsSmc δ)}
    (built : Supervisor.new smc cfg start paths = .ok s) (boot : Host) (hosts : List Host) :
    let log := (s.started boot).log ++ loop.trace hosts (s.start boot)
    let ends := (loop.run hosts (s.start boot)).smc
    ∃ stretches : List (List FileOp),
      ends = { smc with world := ends.world } ∧
      ends.world.journal = smc.world.journal ++ stretches.flatten ∧
      List.Forall₂ (fun e ops => smc.Journals e.op ops ∧
        ∀ o ∈ ops, smc.Drives o → e.control ∧ e.custody.Authorized) log stretches ∧
      (∀ o ∈ stretches.flatten, o.writes → smc.Writes o) ∧
      ∀ before o after, stretches.flatten = before ++ o :: after → smc.Drives o →
        FileOp.writeHeld smc.abi.auto (.ok ()) ∈ before := by
  obtain ⟨-, rfl⟩ := new_eq_ok.mp built
  have up := started_startsUp boot (new_unowned built).1
  have sound : ((Supervisor.wired smc cfg start paths).start boot).Sound :=
    up.unowned.sound up.observes
  have began := SysfsSmc.asks_stretches (started_asked boot (Supervisor.wired smc cfg start paths))
  have ran := SysfsSmc.asks_stretches
    (trace_asked hosts ((Supervisor.wired smc cfg start paths).start boot))
  refine wire_of_parts up.silent ?_ began ran
  intro e mem control
  obtain ⟨granted, proven⟩ := trace_authorized hosts sound e mem control
  obtain ⟨probe, probed, restore, -, passed⟩ := up.probed proven
  exact ⟨granted, probe, probed, restore, passed⟩

end Supervisor

section Concrete

attribute [local instance] Bench.json

namespace Supervisor

/-- The daemon over the adapter of a lagging fan. -/
def wiredDaemon : Supervisor (SysfsSmc Plant) :=
  .wired laggingAdapter Bench.config .curve Bench.paths

/-- What its device has been asked after the first poll. -/
def wiredJournal : List FileOp :=
  (loop.run [Bench.quiet] (wiredDaemon.start Bench.quiet)).smc.world.journal

theorem wiredJournal_writes : wiredJournal.countP (·.writes) = 3 := by decide +kernel

/-- The first poll drives the fan, by a takeover and a speed after the restore bytes. -/
theorem run_on_the_wire_lagging :
    wiredJournal.countP (·.writes) = 3 ∧
      ∀ o ∈ wiredJournal, o.writes → laggingAdapter.Writes o := by
  obtain ⟨stretches, -, journal, -, writes, -⟩ := @run_on_the_wire Plant _ _ laggingAdapter
    Bench.config .curve Bench.paths wiredDaemon (new_eq_ok.mpr ⟨Bench.config_valid, rfl⟩)
    Bench.quiet [Bench.quiet]
  have whole : wiredJournal = stretches.flatten := journal
  refine ⟨wiredJournal_writes, fun o mem => writes o ?_⟩
  rw [← whole]
  exact mem

end Supervisor

end Concrete

end Afanctl
