import Afanctl.Cli.Effects
import Afanctl.Cli.Grammar
import Afanctl.Safety.Mailbox
import Afanctl.Safety.Settling

/-!
From the command line to the fan.

A verb that succeeds leaves a command, the poll that reads it brings it into force, and until a
poll reads another one a fan that works is where the command wants it.
-/

namespace Afanctl

open Afanctl.Lib

/-- What the command file of a poll asks for. -/
def Host.asks [SerdeJson] (host : Host) : Option RunMode :=
  match host.cmd with
  | .content raw => (parseCmd raw).toOption
  | .absent | .unreadable _ => none

namespace Supervisor

variable {σ : Type} [Smc σ] [SerdeJson] {A : Actuator σ} {cfg : ResolvedConfig} {fan : Fan}
  {host : Host} {s : Supervisor σ}

/-! ### The mode -/

/-- A daemon with a death path, in the mode that it was told last. -/
structure Current (s : Supervisor σ) : Prop where
  sound : s.Sound
  proven : s.l2Absent = false
  told : ∀ raw ∈ s.lastCmd, parseCmd raw = .ok s.mode

omit [Smc σ] in
/-- What is asked for and not fresh is what was told last. -/
theorem asks_stale {requested : RunMode} (asks : host.asks = some requested)
    (stale : s.freshCommand host = none) :
    ∃ raw, s.lastCmd = some raw ∧ parseCmd raw = .ok requested := by
  unfold Host.asks at asks
  unfold freshCommand at stale
  cases cmd : host.cmd with
  | absent =>
      rw [cmd] at asks
      cases asks
  | unreadable e =>
      rw [cmd] at asks
      cases asks
  | content raw =>
      simp only [cmd] at asks stale
      split at stale
      · next last =>
          refine ⟨raw, last, ?_⟩
          cases parsed : parseCmd raw with
          | error e =>
              rw [parsed] at asks
              cases asks
          | ok mode =>
              rw [parsed] at asks
              cases asks
              rfl
      · rw [asks] at stale
        cases stale

/-- A poll leaves the mode that its command file asks for, or the one it found. -/
theorem Current.next (current : s.Current) (host : Host) :
    (s.next host).Current ∧ (s.next host).mode = host.asks.getD s.mode := by
  have mode := next_mode host current.sound
  have last := next_lastCmd host s
  have proven := (next_l2Absent host current.sound).trans current.proven
  rw [current.proven] at mode
  cases took : s.taken host with
  | none =>
      have stale := taken_none took
      rw [took, Option.none_or] at last
      rw [stale] at mode
      have kept : (s.next host).mode = s.mode := mode
      refine ⟨⟨next_sound host current.sound, proven, ?_⟩, ?_⟩
      · rw [last, kept]
        exact current.told
      · rw [kept]
        cases asks : host.asks with
        | none => rfl
        | some requested =>
            obtain ⟨raw, told, parsed⟩ := asks_stale asks stale
            exact Except.ok.inj ((current.told raw told).symm.trans parsed)
  | some raw =>
      obtain ⟨cmd, -, requested, parsed, fresh⟩ := taken_some took
      have heeded : heeds false requested = true := by simp [heeds]
      have asks : host.asks = some requested := by
        simp [Host.asks, cmd, parsed, Except.toOption]
      rw [fresh, Option.filter_some, if_pos heeded] at mode
      rw [took, Option.some_or] at last
      refine ⟨⟨next_sound host current.sound, proven, ?_⟩, ?_⟩
      · rw [last]
        intro raw' mem
        cases mem
        rw [mode]
        exact parsed
      · rw [mode, asks]

theorem Current.run (current : s.Current) (hosts : List Host) : (loop.run hosts s).Current := by
  induction hosts generalizing s with
  | nil => exact current
  | cons host hosts ih => exact ih (current.next host).1

/-- Polls whose command files ask for nothing else keep the mode. -/
theorem Current.run_mode (current : s.Current) (hosts : List Host)
    (unopposed : ∀ host ∈ hosts, ∀ requested ∈ host.asks, requested = s.mode) :
    (loop.run hosts s).mode = s.mode := by
  induction hosts generalizing s with
  | nil => rfl
  | cons host hosts ih =>
      obtain ⟨next, mode⟩ := current.next host
      have kept : (s.next host).mode = s.mode := by
        rw [mode]
        cases asks : host.asks with
        | none => rfl
        | some requested => exact unopposed host List.mem_cons_self requested asks
      refine (ih next ?_).trans kept
      rw [kept]
      exact fun host mem => unopposed host (List.mem_cons_of_mem _ mem)

theorem start_current {smc : σ} {config : ResolvedConfig} {start : RunMode} {paths : RuntimePaths}
    (built : Supervisor.new smc config start paths = .ok s) (boot : Host)
    (proven : (s.start boot).l2Absent = false) : (s.start boot).Current := by
  have up := started_startsUp boot (new_unowned built).1
  have untold : (s.start boot).lastCmd = none := by
    refine (Frame.reports_startup (s.frame boot)).cmd.trans ?_
    rw [(new_eq_ok.mp built).2]
    rfl
  refine ⟨up.unowned.sound up.observes, proven, ?_⟩
  rw [untold]
  nofun

/-! ### The fan -/

/-- A poll whose hottest sensor is below the guard's threshold. -/
def Mild (cfg : ResolvedConfig) (host : Host) (s : Supervisor σ) : Prop :=
  ∃ t ∈ hottest (s.sensed host).1, t.val < (cfg.config.maxC - 1) * 1000

instance (cfg : ResolvedConfig) (host : Host) (s : Supervisor σ) : Decidable (s.Mild cfg host) :=
  inferInstanceAs (Decidable (∃ t ∈ hottest _, _))

omit [SerdeJson] [Smc σ] in
theorem call_hold {c : Custody} {rpm : Nat} (driving : c.Driving) (mode : c.mode = .hold rpm)
    (readings : List SensorReading) : c.call readings = .hold readings rpm := by
  simp [Custody.call, mode, driving.2]

/-- A poll in Hold that sees no overheating decides on the held speed. -/
theorem Mild.decided {rpm : Nat} (mild : s.Mild cfg host) (tuned : s.controller.Tuned cfg)
    (thresholds : Thresholds cfg.config.highC cfg.config.maxC cfg.lowC)
    (driving : (s.sensed host).2.Driving) (mode : (s.sensed host).2.mode = .hold rpm) :
    (s.decided host).1 = .setSpeed rpm := by
  obtain ⟨t, seen, below⟩ := mild
  have rested : s.controller.overshootCount t = 0 := by
    rw [Controller.overshootCount, tuned.maxC, thresholds.guard, if_neg (Int.not_le.mpr below)]
  rw [decided_eq, call_hold driving mode]
  show (s.controller.stepHold (s.sensed host).1 rpm).1 = .setSpeed rpm
  rw [Controller.stepHold_seen rpm seen, rested]
  rfl

/-- What a poll leaves of the fan, in the mode it leaves. -/
theorem next_obeys (tends : A.Tends fan s.toDaemon) (tuned : s.controller.Tuned cfg)
    (thresholds : Thresholds cfg.config.highC cfg.config.maxC cfg.lowC) (host : Host) :
    ∃ fan', A.Tends fan' (s.next host).toDaemon ∧
      ((s.next host).mode = .observe → fan'.held = none) ∧
      ∀ rpm, (s.next host).mode = .hold rpm → s.Mild cfg host →
        fan'.held = some (clamp A.lo A.hi rpm) := by
  by_cases idle : (s.next host).mode = .observe
  · obtain ⟨fan', tended, released⟩ := next_observes tends idle
    exact ⟨fan', tended, fun _ => released, fun rpm holds => nomatch idle.symm.trans holds⟩
  · obtain ⟨fan', tended, driving, mode, held⟩ := next_decides tends idle
    refine ⟨fan', tended, fun observes => absurd observes idle, fun rpm holds mild => ?_⟩
    rw [held, mild.decided tuned thresholds driving (mode.trans holds)]
    rfl

end Supervisor

/-! ### The verbs -/

namespace Environment

variable {δ : Type} {env : Environment δ} {command : Command} {globals : Globals}

/-- What a verb asks for, given the adapter of the root; `hold` takes no speed below the floor
there, and none above the ceiling. -/
inductive Names (env : Environment δ) (globals : Globals) : Command → RunMode → Prop where
  | observe : Names env globals .observe .observe
  | curve : Names env globals .curve .curve
  | hold {rpm : Nat} {smc : SysfsSmc δ} (opened : env.opened globals = .ok smc)
      (floor : smc.hwMin ≤ rpm) : Names env globals (.hold rpm) (.hold (min rpm smc.hwMax))

variable [SerdeJson]

/-- A verb that succeeds leaves its command. -/
theorem writeCmd_leaves {verb : String} {rpm : Option Nat} {requested : RunMode}
    (succeeded : (env.commanding (writeCmd verb rpm env.runtime)).exit = .code 0)
    (parsed : parseCmd (cmdBody verb rpm) = .ok requested) :
    ∃ raw, cmdFile (env.commanding (writeCmd verb rpm env.runtime)).runDir = .content raw ∧
      parseCmd raw = .ok requested := by
  obtain ⟨written, kept⟩ := env.runtime.writeAtomic_leaves (cmdBody verb rpm)
  by_cases fault : env.runtime.fault = none
  · exact ⟨_, (written fault).2, parsed⟩
  · have failed : exitCode (env.runtime.writeAtomic (cmdBody verb rpm)).1 = 0 :=
      Exit.code.inj succeeded
    rw [(kept fault).1] at failed
    cases failed

variable [StandardJson] [Sysfs δ] [Toml]

theorem dispatch_leaves (deg : MilliC → String) (asking : command.Asking)
    (fits : ∀ rpm, command = .hold rpm → rpm ≤ u32Max)
    (succeeded : (env.dispatch deg command globals).exit = .code 0) :
    ∃ requested raw, env.Names globals command requested ∧
      cmdFile (env.dispatch deg command globals).runDir = .content raw ∧
      parseCmd raw = .ok requested := by
  cases asking with
  | observe =>
      obtain ⟨raw, content, parsed⟩ := writeCmd_leaves succeeded parse_observe
      exact ⟨_, raw, .observe, content, parsed⟩
  | curve =>
      obtain ⟨raw, content, parsed⟩ := writeCmd_leaves succeeded parse_curve
      exact ⟨_, raw, .curve, content, parsed⟩
  | @hold rpm =>
      have ran : env.dispatch deg (.hold rpm) globals
          = env.commanding (runHold (env.opened globals) rpm env.runtime) := rfl
      rw [ran] at succeeded ⊢
      unfold runHold at succeeded ⊢
      cases opened : env.opened globals with
      | error e =>
          rw [opened] at succeeded
          cases succeeded
      | ok smc =>
          rw [opened] at succeeded
          simp only at succeeded ⊢
          split at succeeded
          · cases succeeded
          · next floor =>
              rw [if_neg floor]
              have small := Nat.le_trans (Nat.min_le_left rpm smc.hwMax) (fits rpm rfl)
              obtain ⟨raw, content, parsed⟩ := writeCmd_leaves succeeded (parse_hold small)
              exact ⟨_, raw, .hold opened (Nat.le_of_not_lt floor), content, parsed⟩

end Environment

/-- The parser takes no speed out of a `u32`. -/
theorem hold_fits {args : List String} {rpm : Nat} {globals : Globals}
    (parsed : parse args = .ok (.hold rpm, globals)) : rpm ≤ u32Max := by
  obtain ⟨pieces, -, accepts, -⟩ := parse_ok_iff.mp parsed
  generalize Piece.tokens pieces = tokens at accepts
  cases accepts with
  | hold parses => exact of_decide_eq_true (Option.filter_eq_some_iff.mp parses).2

namespace Supervisor

variable {σ δ : Type} [Smc σ] [Sysfs δ] [SerdeJson] [StandardJson] [Toml] {A : Actuator σ}
  {fan : Fan} {s : Supervisor σ}

/-- From the command line to a fan that works. Once a verb has succeeded and a poll has read the
file that it left, and as long as no poll reads another command, the daemon is in the mode that
the verb names, whatever it was told before. Then `observe` has left the fan to the firmware, and
`hold` has it held after every poll that sees no overheating, at its speed clamped to the band of
the daemon's own backend. -/
theorem verb_obeyed {smc : σ} (shown : A.shows smc fan) {config : Config} {start : RunMode}
    {paths : RuntimePaths} (built : Supervisor.new smc (.ofConfig config) start paths = .ok s)
    (boot : Host) (proven : (s.start boot).l2Absent = false) (before : List Host)
    (deg : MilliC → String) (env : Environment δ) {args : List String} {command : Command}
    {globals : Globals} (parsed : parse args = .ok (command, globals)) (asking : command.Asking)
    (succeeded : (env.run deg args).exit = .code 0) {host last : Host} {after polls : List Host}
    (reads : host.cmd = cmdFile (env.run deg args).runDir)
    (unopposed : ∀ later ∈ after, ∀ requested ∈ later.asks, requested ∈ host.asks)
    (split : host :: after = polls ++ [last]) :
    let found := loop.run before (s.start boot)
    let ends := loop.run (host :: after) found
    ∃ requested, env.Names globals command requested ∧ ends.mode = requested ∧
      ∃ fan', A.shows ends.smc fan' ∧ (requested = .observe → fan'.held = none) ∧
        ∀ rpm, requested = .hold rpm → (loop.run polls found).Mild (.ofConfig config) last →
          fan'.held = some (clamp A.lo A.hi rpm) := by
  intro found ends
  rw [Environment.run_parsed parsed] at succeeded reads
  have fits : ∀ rpm, command = .hold rpm → rpm ≤ u32Max := by
    rintro rpm rfl
    exact hold_fits parsed
  obtain ⟨requested, raw, names, content, told⟩ :=
    Environment.dispatch_leaves deg asking fits succeeded
  have asks : host.asks = some requested := by
    simp [Host.asks, reads, content, told, Except.toOption]
  have current : found.Current := (start_current built boot proven).run before
  obtain ⟨next, mode⟩ := current.next host
  rw [asks, Option.getD_some] at mode
  have ends_mode : ends.mode = requested := by
    refine (next.run_mode after ?_).trans mode
    intro later mem other asked
    rw [mode]
    have same := unopposed later mem other asked
    rw [asks] at same
    exact (Option.some.inj same).symm
  obtain ⟨accepted, rfl⟩ := new_eq_ok.mp built
  have thresholds := (Config.validate_ok_iff.mp accepted).1.thresholds
  obtain ⟨kept, tended, tuned, -⟩ :=
    run_started shown (.ofConfig config) start paths boot (before ++ polls)
  rw [Machine.run_append] at tended tuned
  obtain ⟨fan', tends, released, holds⟩ := next_obeys tended tuned thresholds last
  have ending : ends = (loop.run polls found).next last := by
    show loop.run (host :: after) found = _
    rw [split, Machine.run_append]
    rfl
  rw [← ending, ends_mode] at released holds
  refine ⟨requested, names, ends_mode, fan', ?_, released, holds⟩
  rw [ending]
  exact tends.shows

end Supervisor

section Concrete

attribute [local instance] flatJson flatJson_standard defaultsToml

namespace Supervisor

/-- The poll that reads what `hold 9000` left. -/
def told : Host :=
  { Bench.quiet with
    cmd := cmdFile (rooted.run (fun m => toString m.val) ["hold", "9000"]).runDir }

/-- A hold above the ceiling of the lagging fan, at 70 °C. -/
theorem verb_obeyed_hold :
    ∃ fan, SysfsSmc.Spins 1200 7200 [⟨"Core 0", some ⟨70000⟩⟩]
        (loop.run [told, Bench.quiet] adapterDaemon).smc fan ∧
      fan.held = some 7200 := by
  have built : Supervisor.new laggingAdapter Bench.config .curve Bench.paths = .ok _ :=
    new_eq_ok.mpr ⟨Bench.config_valid, rfl⟩
  have parsed : parse ["hold", "9000"] = .ok (.hold 9000, {}) := by rfl
  have succeeded : (rooted.run (fun m => toString m.val) ["hold", "9000"]).exit = .code 0 := by
    decide +kernel
  have unopposed : ∀ later ∈ [Bench.quiet], ∀ requested ∈ later.asks, requested ∈ told.asks := by
    simp [Host.asks, Bench.quiet]
  have mild : (loop.run [told] adapterDaemon).Mild Bench.config Bench.quiet := by
    decide +kernel
  have holding : (loop.run [told, Bench.quiet] adapterDaemon).mode = .hold 7200 := by
    decide +kernel
  have proven : adapterDaemon.l2Absent = false := by decide +kernel
  have split : [told, Bench.quiet] = [told] ++ [Bench.quiet] := rfl
  obtain ⟨requested, -, mode, fan, spins, -, holds⟩ := verb_obeyed
    (A := SysfsSmc.actuator 1200 7200 (by decide) [⟨"Core 0", some ⟨70000⟩⟩]) lagging_spins built
    Bench.quiet proven [] (fun m => toString m.val) rooted parsed .hold succeeded rfl unopposed
    split
  exact ⟨fan, spins, holds 7200 (mode.symm.trans holding) mild⟩

end Supervisor

end Concrete

end Afanctl
