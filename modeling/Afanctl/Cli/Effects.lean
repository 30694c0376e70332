import Afanctl.Cli.Dispatch
import Afanctl.Cli.Usage
import Afanctl.Safety.Killed

/-!
What a command line can do.

Four commands may write to the device, and only what an adapter found at the root may write.
The command file is written by three verbs, the state file by the daemon and `once`. A process
that ends well, or by its own panic, has left the fan to the firmware.
-/

namespace Afanctl

open Afanctl.Lib

namespace Command

/-- The commands that may write to the device. -/
inductive Writing : Command → Prop where
  | daemon {mode : DaemonMode} : Writing (.daemon mode)
  | doctor {json : Bool} {compareSecs : Option Nat} : Writing (.doctor json true compareSecs)
  | once {json : Bool} : Writing (.once none false json)
  | selftestPanic : Writing .selftestPanic

/-- The commands that may write the command file. -/
inductive Asking : Command → Prop where
  | observe : Asking .observe
  | curve : Asking .curve
  | hold {rpm : Nat} : Asking (.hold rpm)

/-- The commands that may publish a state. -/
inductive Polling : Command → Prop where
  | daemon {mode : DaemonMode} : Polling (.daemon mode)
  | once {atTemp : Option Int} {json : Bool} : Polling (.once atTemp false json)

end Command

/-! ### Writes of a kind -/

namespace World

variable {δ : Type} {P Q : FileOp → Prop} {w w' w'' : World δ}

/-- `w'` is what became of `w`, and every write on the way is a `P`. -/
def WritesOnly (P : FileOp → Prop) (w w' : World δ) : Prop :=
  ∃ ops, w'.journal = w.journal ++ ops ∧ ∀ o ∈ ops, o.writes → P o

theorem writesOnly_refl (w : World δ) : WritesOnly P w w :=
  ⟨[], (List.append_nil _).symm, nofun⟩

theorem WritesOnly.mono (only : WritesOnly P w w') (le : ∀ o, P o → Q o) : WritesOnly Q w w' := by
  obtain ⟨ops, journal, all⟩ := only
  exact ⟨ops, journal, fun o mem writes => le o (all o mem writes)⟩

theorem WritesOnly.trans (first : WritesOnly P w w') (second : WritesOnly P w' w'') :
    WritesOnly P w w'' := by
  obtain ⟨ops, journal, all⟩ := first
  obtain ⟨ops', journal', all'⟩ := second
  refine ⟨ops ++ ops', by rw [journal', journal, List.append_assoc], ?_⟩
  intro o mem
  rcases List.mem_append.mp mem with mem | mem
  · exact all o mem
  · exact all' o mem

theorem Watched.writesOnly (watched : Watched w w') : WritesOnly P w w' := by
  obtain ⟨ops, journal, quiet, -⟩ := watched
  exact ⟨ops, journal, fun o mem writes => absurd writes (quiet o mem)⟩

end World

namespace SysfsSmc

variable {δ : Type} {s s' : SysfsSmc δ}

theorem leads_refl (s : SysfsSmc δ) : s.Leads s := ⟨rfl, [], (List.append_nil _).symm, nofun⟩

theorem Leads.writesOnly (leads : s.Leads s') : World.WritesOnly s.Writes s.world s'.world :=
  leads.2

variable [Sysfs δ]

/-- Recorded calls write what an adapter may write. -/
theorem asks_leads {es : List Event} (asks : Asks s es s') : s.Leads s' := by
  induction asks with
  | refl => exact leads_refl s
  | tail _ last ih =>
      obtain ⟨e, -, serviced⟩ := ask_serviced last
      exact ih.trans serviced.leads

variable [SerdeJson]

/-- A daemon over the adapter. -/
theorem leads_loop {s : Supervisor (SysfsSmc δ)} (boot : Host) (hosts : List Host) :
    s.smc.Leads (Supervisor.loop.run hosts (s.start boot)).smc := by
  have started := asks_leads (Supervisor.started_asked boot s)
  exact started.trans (asks_leads (Supervisor.trace_asked hosts (s.start boot)))

/-- The one poll of `once`. -/
theorem leads_pollOnce (config : Config) (paths : RuntimePaths) (host : Host) (s : SysfsSmc δ) :
    s.Leads (pollOnce config paths host s).2.1 := by
  unfold pollOnce
  cases built : Supervisor.new s (.ofConfig config) .curve paths with
  | error e => exact leads_refl s
  | ok supervisor =>
      obtain ⟨-, rfl⟩ := Supervisor.new_eq_ok.mp built
      exact asks_leads
        (Supervisor.calls_served host (.wired s (.ofConfig config) .curve paths)).asks

end SysfsSmc

/-! ### The adapters of a root -/

namespace Environment

variable {δ : Type} {env : Environment δ} {globals : Globals} {smc smc' : SysfsSmc δ}

/-- An adapter that opening this root gave, at the first or the second look. -/
def Finds (env : Environment δ) (root : String) (smc : SysfsSmc δ) : Prop :=
  ∃ t world, (t = env.tree root ∨ t = env.treeAgain root) ∧
    ∃ o : Opened δ, openAt root t world = .ok o ∧ smc = { o.toSysfsSmc with world := smc.world }

/-- A write that one of these adapters may make. -/
def MayWrite (env : Environment δ) (root : String) (o : FileOp) : Prop :=
  ∃ smc, env.Finds root smc ∧ smc.Writes o

theorem opened_ok (eq : env.opened globals = .ok smc) :
    env.Finds globals.sysfsRoot smc ∧ smc.world = env.world := by
  unfold opened at eq
  cases found : openAt globals.sysfsRoot (env.tree globals.sysfsRoot) env.world with
  | error e =>
      rw [found] at eq
      cases eq
  | ok o =>
      rw [found] at eq
      cases eq
      exact ⟨⟨_, _, .inl rfl, o, found, rfl⟩, openAt_world found⟩

theorem reopen_ok (eq : env.reopen globals smc = .ok smc') :
    env.Finds globals.sysfsRoot smc' ∧ smc'.world = smc.world := by
  unfold reopen at eq
  cases found : openAt globals.sysfsRoot (env.treeAgain globals.sysfsRoot) smc.world with
  | error e =>
      rw [found] at eq
      cases eq
  | ok o =>
      rw [found] at eq
      cases eq
      exact ⟨⟨_, _, .inr rfl, o, found, rfl⟩, openAt_world found⟩

/-- Such an adapter, in use. -/
theorem Finds.writesOnly {root : String} (finds : env.Finds root smc) (leads : smc.Leads smc') :
    World.WritesOnly (env.MayWrite root) smc.world smc'.world :=
  leads.writesOnly.mono fun _ writes => ⟨smc, finds, writes⟩

variable [Sysfs δ]

/-! ### What each verb does to the device -/

theorem watched_gathered (smc : SysfsSmc δ) : World.Watched smc.world (gathered smc).world := by
  have sensed := watched_readSensors smc
  unfold gathered
  split
  · next left eq =>
      rw [eq] at sensed
      exact sensed
  · next left eq =>
      rw [eq] at sensed
      exact sensed.trans (watched_readFan left)

/-- The hook writes the bytes of a usable descriptor, once. -/
theorem panicHook_eq (armed : Option SafeRestore) (w : World δ) :
    panicHook armed w = w ∨
      ∃ restore, armed = some restore ∧ panicHook armed w = (w.writeHeld restore.bytes).2 := by
  cases armed with
  | none => exact .inl rfl
  | some restore =>
      by_cases usable : 0 ≤ restore.fd
      · exact .inr ⟨restore, rfl, by simp [panicHook, Process.restores, usable]⟩
      · exact .inl (by simp [panicHook, Process.restores, usable])

/-- After a probe, the hook writes AUTO or nothing. -/
theorem writesOnly_selftest (smc : SysfsSmc δ) :
    World.WritesOnly (fun o => smc.Writes o ∧ smc.Restores o) smc.world
      (panicHook (Smc.probeSafeRestore smc).1.toOption (Smc.probeSafeRestore smc).2.world) := by
  have probed : World.WritesOnly (fun o => smc.Writes o ∧ smc.Restores o) smc.world
      (Smc.probeSafeRestore smc).2.world := by
    obtain ⟨-, ops, journal, journals⟩ := SysfsSmc.serviced_probeSafeRestore smc
    refine ⟨ops, journal, fun o mem writes => ?_⟩
    have touches := journals.touches o mem
    refine ⟨touches.writes writes, ?_⟩
    cases touches with
    | restore => rfl
    | restoreEcho => cases writes
    | restorePause => cases writes
  refine probed.trans ?_
  rcases panicHook_eq (Smc.probeSafeRestore smc).1.toOption (Smc.probeSafeRestore smc).2.world with
    idle | ⟨restore, armed, wrote⟩
  · rw [idle]
    exact World.writesOnly_refl _
  · have bytes : restore.bytes = smc.abi.auto := by
      cases passed : (Smc.probeSafeRestore smc).1 with
      | error e =>
          rw [passed] at armed
          cases armed
      | ok restore' =>
          rw [passed] at armed
          cases armed
          obtain ⟨fd, -, rfl⟩ := Option.map_eq_some_iff.mp (SysfsSmc.safeRestore_of_proof passed)
          rfl
    rw [wrote, bytes]
    refine ⟨_, rfl, fun o mem _ => ?_⟩
    rw [List.mem_singleton.mp mem]
    exact ⟨.restore, rfl⟩

variable [SerdeJson]

/-- The live half of `once`, over the adapter and the one that it opens to restore AUTO. -/
theorem writesOnly_onceLeaves {root : String} (finds : env.Finds root smc)
    (reopens : ∀ smc smc', env.reopen globals smc = .ok smc' →
      env.Finds root smc' ∧ smc'.world = smc.world)
    (config : Config) (paths : RuntimePaths) (host : Host) :
    World.WritesOnly (env.MayWrite root) smc.world
      (onceLeaves (env.reopen globals) config paths host smc) := by
  have probed := (SysfsSmc.serviced_probeSafeRestore smc).leads
  have polled := finds.writesOnly (probed.trans (SysfsSmc.leads_pollOnce config paths
    { host with isArmed := isArmed (armOnce smc).2 } (Smc.probeSafeRestore smc).2))
  unfold onceLeaves
  simp only
  generalize (pollOnce config paths { host with isArmed := isArmed (armOnce smc).2 }
    (Smc.probeSafeRestore smc).2).2.1 = left at polled ⊢
  cases again : env.reopen globals left with
  | error e => exact polled
  | ok smc' =>
      obtain ⟨finds', same⟩ := reopens left smc' again
      have restored := finds'.writesOnly (SysfsSmc.serviced_setMode .auto smc').leads
      rw [same] at restored
      exact polled.trans restored

variable [Toml]

omit [SerdeJson] in
theorem buildSupervisor_ok {start : RunMode} {s : Supervisor (SysfsSmc δ)}
    (built : env.buildSupervisor globals start = .ok s) :
    env.Finds globals.sysfsRoot s.smc ∧ s.smc.world = env.world := by
  unfold buildSupervisor at built
  split at built
  · cases built
  · split at built
    · cases built
    · next smc found =>
        split at built
        · cases built
        · next s' made =>
            cases built
            obtain ⟨-, rfl⟩ := Supervisor.new_eq_ok.mp made
            exact opened_ok found

theorem writesOnly_runDaemon (mode : DaemonMode) (globals : Globals) :
    World.WritesOnly (env.MayWrite globals.sysfsRoot) env.world
      (env.runDaemon mode globals).world := by
  unfold runDaemon
  cases built : env.buildSupervisor globals mode.start with
  | error e => exact World.writesOnly_refl _
  | ok s =>
      obtain ⟨finds, same⟩ := buildSupervisor_ok built
      have ran := finds.writesOnly (SysfsSmc.leads_loop (s := s) env.host env.polls)
      rw [same] at ran
      exact ran

theorem watched_runStatus (globals : Globals) :
    World.Watched env.world (env.runStatus globals).world := by
  unfold runStatus quit
  simp only
  split
  · next config smc _ found =>
      rw [← (opened_ok found).2]
      exact watched_gathered smc
  · exact World.does_refl _

omit [SerdeJson] [Toml] in
theorem withRoundtrip_left {roundtrip : Bool} {checks : List Check} {smc : Option (Opened δ)}
    {o : Opened δ} (left : (withRoundtrip roundtrip checks smc).2 = some o) :
    ∃ o', smc = some o' ∧
      o.world = (if roundtrip then (roundtripHeld (SysfsSmc.hold 2) o'.toSysfsSmc 2).2.2
        else o'.toSysfsSmc).world := by
  cases smc with
  | none => cases roundtrip <;> cases left
  | some o' => cases roundtrip <;> cases left <;> exact ⟨_, rfl, rfl⟩

/-- The write test runs on what the checks left of the opened backend, and the comparison only
reads what the test left. -/
theorem runAt_left {deg : MilliC → String} {root : String} {t : Tree} {world : World δ}
    {around : Surroundings} {roundtrip : Bool} {compareSecs : Option Nat} {o : Opened δ}
    (left : (runAt deg root t world around roundtrip compareSecs).2 = some o) :
    ∃ (o' : Opened δ) (smc : SysfsSmc δ), openAt root t world = .ok o' ∧
      smc = { o'.toSysfsSmc with world := smc.world } ∧ World.Watched world smc.world ∧
      World.Watched
        (if roundtrip then (roundtripHeld (SysfsSmc.hold 2) smc 2).2.2 else smc).world
        o.world := by
  obtain ⟨tested, found, compared⟩ := watched_withCompare left
  obtain ⟨checked, found, here⟩ := withRoundtrip_left found
  cases opens : openAt root t world with
  | error e =>
      rw [opens] at found
      cases found
  | ok o' =>
      rw [opens] at found
      cases found
      have sensed := watched_readSensors o'.toSysfsSmc
      rw [openAt_world opens] at sensed
      rw [here] at compared
      exact ⟨o', (Smc.readSensors o'.toSysfsSmc).2, rfl, rfl, sensed, compared⟩

/-- `doctor`: the write test writes what an adapter may write, if there is one. -/
theorem writesOnly_runDoctor (deg : MilliC → String) (compareSecs : Option Nat)
    (globals : Globals) :
    World.WritesOnly (env.MayWrite globals.sysfsRoot) env.world
      (env.runDoctor deg true compareSecs globals).world := by
  unfold runDoctor quit
  simp only
  split
  · next o left =>
      obtain ⟨o', smc, opens, same, sensed, compared⟩ := runAt_left left
      have finds : env.Finds globals.sysfsRoot smc := ⟨_, _, .inl rfl, o', opens, same⟩
      have tested := finds.writesOnly (SysfsSmc.leads_roundtripHeld smc 2)
      rw [if_pos rfl] at compared
      exact (sensed.writesOnly.trans tested).trans compared.writesOnly
  · exact World.writesOnly_refl _

theorem watched_runDoctor (deg : MilliC → String) (compareSecs : Option Nat) (globals : Globals) :
    World.Watched env.world (env.runDoctor deg false compareSecs globals).world := by
  unfold runDoctor quit
  simp only
  split
  · next o left =>
      obtain ⟨o', smc, -, -, sensed, compared⟩ := runAt_left left
      exact sensed.trans compared
  · exact World.does_refl _

/-- `once` writes to the device only if it is live. -/
theorem watched_runOnce {atTemp : Option Int} {dryRun : Bool} (globals : Globals)
    (idle : dryRun = true ∨ atTemp ≠ none) :
    World.Watched env.world (env.runOnce atTemp dryRun globals).world := by
  unfold runOnce
  simp only
  split
  · exact World.does_refl _
  · split
    · simp only [quit]
      split
      · next smc found =>
          rw [← (opened_ok found).2]
          exact watched_readSensors smc
      · exact World.does_refl _
    · next live =>
        have simulated := idle.resolve_left live
        split
        · exact World.does_refl _
        · exact absurd rfl simulated
        · exact absurd rfl simulated

theorem writesOnly_runOnce (globals : Globals) :
    World.WritesOnly (env.MayWrite globals.sysfsRoot) env.world
      (env.runOnce none false globals).world := by
  unfold runOnce
  simp only [Bool.false_eq_true, if_false]
  split
  · exact World.writesOnly_refl _
  · next config _ =>
      cases found : env.opened globals with
      | error e => exact World.writesOnly_refl _
      | ok smc =>
          obtain ⟨finds, same⟩ := opened_ok found
          have left := writesOnly_onceLeaves finds (fun _ _ again => reopen_ok again) config
            (env.runtimePaths globals) env.host
          rw [same] at left
          exact left

omit [SerdeJson] [Toml] in
theorem writesOnly_runSelftestPanic (globals : Globals) :
    World.WritesOnly (env.MayWrite globals.sysfsRoot) env.world
      (env.runSelftestPanic globals).world := by
  unfold runSelftestPanic
  cases found : env.opened globals with
  | error e => exact World.writesOnly_refl _
  | ok smc =>
      obtain ⟨finds, same⟩ := opened_ok found
      have left := (writesOnly_selftest smc).mono (Q := env.MayWrite globals.sysfsRoot)
        fun o told => ⟨smc, finds, told.1⟩
      rw [same] at left
      exact left

/-! ### The whole program -/

/-- What a command may do at most. -/
structure Confined (env : Environment δ) (command : Command) (globals : Globals)
    (out : Outcome δ) : Prop where
  device : World.WritesOnly (fun o => command.Writing ∧ env.MayWrite globals.sysfsRoot o)
    env.world out.world
  channel : out.runDir ≠ env.runtime.dir → command.Asking
  state : out.published ≠ [] → command.Polling

variable {command : Command} {out : Outcome δ}

omit [Sysfs δ] [SerdeJson] [Toml] in
/-- A command that only reads the device. -/
theorem Confined.of_watched (watched : World.Watched env.world out.world)
    (channel : out.runDir ≠ env.runtime.dir → command.Asking)
    (state : out.published ≠ [] → command.Polling) : env.Confined command globals out :=
  ⟨watched.writesOnly, channel, state⟩

omit [Sysfs δ] [SerdeJson] [Toml] in
/-- A command that may write to the device. -/
theorem Confined.of_writing (writing : command.Writing)
    (only : World.WritesOnly (env.MayWrite globals.sysfsRoot) env.world out.world)
    (channel : out.runDir ≠ env.runtime.dir → command.Asking)
    (state : out.published ≠ [] → command.Polling) : env.Confined command globals out :=
  ⟨only.mono fun _ may => ⟨writing, may⟩, channel, state⟩

/-- A dry run publishes nothing. -/
theorem runOnce_quiet (atTemp : Option Int) (globals : Globals) :
    (env.runOnce atTemp true globals).published = [] := by
  unfold runOnce
  simp only [if_true]
  split <;> rfl

/-- `once` ends with a code, and leaves the command file alone. -/
theorem runOnce_ends (atTemp : Option Int) (dryRun : Bool) (globals : Globals) :
    (∃ code, (env.runOnce atTemp dryRun globals).exit = .code code) ∧
      (env.runOnce atTemp dryRun globals).runDir = env.runtime.dir := by
  unfold runOnce
  simp only
  split
  · exact ⟨⟨_, rfl⟩, rfl⟩
  · split
    · exact ⟨⟨_, rfl⟩, rfl⟩
    · split <;> exact ⟨⟨_, rfl⟩, rfl⟩

/-- The daemon fails, or it does not end. -/
theorem runDaemon_ends (mode : DaemonMode) (globals : Globals) :
    ((env.runDaemon mode globals).exit = .code 1 ∨
        (env.runDaemon mode globals).exit = .running) ∧
      (env.runDaemon mode globals).runDir = env.runtime.dir := by
  unfold runDaemon
  split
  · exact ⟨.inl rfl, rfl⟩
  · exact ⟨.inr rfl, rfl⟩

/-- Each command keeps to what is its own. -/
theorem dispatch_confined (deg : MilliC → String) (command : Command) (globals : Globals) :
    env.Confined command globals (env.dispatch deg command globals) := by
  have idle (code : Nat) : env.Confined command globals (env.quit code env.world) :=
    .of_watched (World.does_refl _) (fun differs => absurd rfl differs)
      fun published => absurd rfl published
  have asks (result : Except String Unit × Publish.RunDir) (asking : command.Asking) :
      env.Confined command globals (env.commanding result) :=
    .of_watched (World.does_refl _) (fun _ => asking) fun published => absurd rfl published
  cases command with
  | version => exact idle 0
  | help => exact idle 0
  | observe => exact asks _ .observe
  | curve => exact asks _ .curve
  | hold rpm => exact asks _ .hold
  | daemon mode =>
      exact .of_writing .daemon (writesOnly_runDaemon mode globals)
        (fun differs => absurd (runDaemon_ends mode globals).2 differs) fun _ => .daemon
  | status json =>
      exact .of_watched (watched_runStatus globals) (fun differs => absurd rfl differs)
        fun published => absurd rfl published
  | doctor json roundtrip compareSecs =>
      cases roundtrip with
      | true =>
          exact .of_writing .doctor (writesOnly_runDoctor deg compareSecs globals)
            (fun differs => absurd rfl differs) fun published => absurd rfl published
      | false =>
          exact .of_watched (watched_runDoctor deg compareSecs globals)
            (fun differs => absurd rfl differs) fun published => absurd rfl published
  | once atTemp dryRun json =>
      have channel : (env.runOnce atTemp dryRun globals).runDir ≠ env.runtime.dir →
          Command.Asking (.once atTemp dryRun json) :=
        fun differs => absurd (runOnce_ends atTemp dryRun globals).2 differs
      cases dryRun with
      | true =>
          exact .of_watched (watched_runOnce globals (.inl rfl)) channel
            fun published => absurd (runOnce_quiet atTemp globals) published
      | false =>
          cases atTemp with
          | some c =>
              exact .of_watched (watched_runOnce globals (.inr nofun)) channel fun _ => .once
          | none => exact .of_writing .once (writesOnly_runOnce globals) channel fun _ => .once
  | selftestPanic =>
      exact .of_writing .selftestPanic (writesOnly_runSelftestPanic globals)
        (fun differs => absurd rfl differs) fun published => absurd rfl published

/-- Every command line either parses, and its command keeps to what is its own, or is a usage
error, and does nothing but exit with 2. So the device is written to by `daemon`, a live `once`,
`doctor --roundtrip` and `selftest-panic` alone, as adapters of their root may write; the command
file by `observe`, `curve` and `hold`; and the state file by `daemon` and `once`. -/
theorem run_confined (deg : MilliC → String) (env : Environment δ) (args : List String) :
    (∃ command globals, parse args = .ok (command, globals) ∧
        env.Confined command globals (env.run deg args)) ∨
      (∃ msg, parse args = .error (.usage msg)) ∧ env.run deg args = env.quit 2 env.world := by
  cases parsed : parse args with
  | ok result =>
      obtain ⟨command, globals⟩ := result
      rw [run_parsed parsed]
      exact .inl ⟨command, globals, rfl, dispatch_confined deg command globals⟩
  | error e =>
      obtain ⟨msg, rfl⟩ := parse_fails args e parsed
      refine .inr ⟨⟨msg, rfl⟩, ?_⟩
      unfold run
      rw [parsed]
      rfl

/-! ### What a process leaves behind -/

/-- Nothing was written, or what an adapter of the root wrote last hands the fan back. -/
def Returned (env : Environment δ) (root : String) (w w' : World δ) : Prop :=
  ∃ ops, w'.journal = w.journal ++ ops ∧
    ((∀ o ∈ ops, ¬ o.writes) ∨ ∃ smc before o after, env.Finds root smc ∧
      ops = before ++ o :: after ∧ o.writes ∧ smc.Restores o ∧ ∀ o' ∈ after, ¬ o'.writes)

section Returned

variable {root : String} {w w' w'' : World δ}

omit [Sysfs δ] [SerdeJson] [Toml]

theorem Returned.of_watched (watched : World.Watched w w') : env.Returned root w w' := by
  obtain ⟨ops, journal, quiet, -⟩ := watched
  exact ⟨ops, journal, .inl quiet⟩

end Returned

end Environment

section Concrete

attribute [local instance] flatJson defaultsToml

/-- The lagging fan in a tree, with a sensor at 70 °C. -/
def rooted : Environment Plant where
  tree _ := twoDirs id
  treeAgain _ := twoDirs id
  world :=
    { device := { laggingPlant with
        fanDir := applesmc "/sys",
        temps := [(join (join (join (coretemp "/sys") "hwmon") "hwmon3") "temp1_input",
          "70000\n")] }
      journal := [] }
  config _ := .missing
  runtime := emptyRun none
  state := .absent
  unit := bare.unit
  daemon := bare.daemon
  date := bare.date
  mtime := bare.mtime
  host := Bench.quiet
  polls := []

end Concrete

end Afanctl
