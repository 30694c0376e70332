import Afanctl.Cli.Args
import Afanctl.Cli.Channel
import Afanctl.Cli.DryRun
import Afanctl.Cli.Status
import Afanctl.Doctor.Diagnosis
import Afanctl.Safety.Process
import Afanctl.Supervisor.Over

/-!
The program.

`dispatch` gives every command what it needs of its environment. The outcome says how the
process ended, and what it did to the device, to the runtime directory and to `state.json`.
What it printed is not part of it.
-/

namespace Afanctl

open Afanctl.Lib

/-- How a process stands: ended with a code, ended by its own panic, or still there. -/
inductive Exit where
  | code (n : Nat)
  | panicked
  | running
  deriving DecidableEq, Repr

/-- What a process is run in. -/
structure Environment (δ : Type) where
  /-- sysfs at a root -/
  tree : String → Tree
  /-- sysfs at a root where a command looks a second time -/
  treeAgain : String → Tree
  world : World δ
  config : String → FileText
  /-- the runtime directory, and what happens to a file written there -/
  runtime : Runtime
  state : CmdFile
  unit : CommandOutput
  daemon : CommandOutput
  date : String → CommandOutput
  mtime : String → Option Int
  /-- the host at startup, and at the one poll of `once` -/
  host : Host
  /-- the polls of a daemon so far -/
  polls : List Host

/-- What has become of it. -/
structure Outcome (δ : Type) where
  exit : Exit
  world : World δ
  /-- the runtime directory, but for `state.json` -/
  runDir : Publish.RunDir
  /-- the documents that were to replace `state.json` -/
  published : List StateFile

/-- Success, or `fail`. -/
def codeOf {ε α : Type} (result : Except ε α) : Nat :=
  match result with
  | .ok _ => 0
  | .error _ => 1

theorem codeOf_le {ε α : Type} (result : Except ε α) : codeOf result ≤ 1 := by
  cases result with
  | ok a => exact Nat.zero_le 1
  | error e => exact Nat.le_refl 1

/-- The documents of a command's one poll in Curve. -/
def polledOnce {σ : Type} [Smc σ] [SerdeJson] (smc : σ) (config : Config) (paths : RuntimePaths)
    (host : Host) : List StateFile :=
  match Supervisor.new smc (.ofConfig config) .curve paths with
  | .error _ => []
  | .ok supervisor => [(supervisor.stepOnce host).state]

/-- The panic hook. -/
def panicHook {δ : Type} [Sysfs δ] (armed : Option SafeRestore) (w : World δ) : World δ :=
  (Process.restores armed 1).foldl (fun w restore => (w.writeHeld restore.bytes).2) w

/-- What gathering the status leaves of the backend. -/
def gathered {σ : Type} [Smc σ] (smc : σ) : σ :=
  match Smc.readSensors smc with
  | (.error _, smc) => smc
  | (.ok _, smc) => (Smc.readFan smc).2

/-- What the live half of `once` leaves of the device. -/
def onceLeaves {δ : Type} [Sysfs δ] [SerdeJson]
    (reopen : SysfsSmc δ → Except SmcError (SysfsSmc δ)) (config : Config) (paths : RuntimePaths)
    (host : Host) (smc : SysfsSmc δ) : World δ :=
  let armed := isArmed (armOnce smc).2
  let smc := (pollOnce config paths { host with isArmed := armed }
    (Smc.probeSafeRestore smc).2).2.1
  match reopen smc with
  | .error _ => smc.world
  | .ok smc => (Smc.setMode .auto smc).2.world

/-- The mode that a daemon starts in. -/
def DaemonMode.start : DaemonMode → RunMode
  | .observe => .observe
  | .curve => .curve

namespace Environment

variable {δ : Type}

/-- The command ended with this code, and wrote no file. -/
def quit (env : Environment δ) (code : Nat) (world : World δ) : Outcome δ where
  exit := .code code
  world := world
  runDir := env.runtime.dir
  published := []

/-- The files of the runtime directory, and where the configuration comes from. -/
def runtimePaths (env : Environment δ) (globals : Globals) : RuntimePaths where
  cmd := join env.runtime.path "cmd.json"
  state := join env.runtime.path "state.json"
  configSource := globals.config

def loadConfig [Toml] (env : Environment δ) (globals : Globals) : Except ConfigError Config :=
  (Config.load globals.config (env.config globals.config)).map Prod.fst

/-- The backend at the root. -/
def opened (env : Environment δ) (globals : Globals) : Except SmcError (SysfsSmc δ) :=
  (openAt globals.sysfsRoot (env.tree globals.sysfsRoot) env.world).map (·.toSysfsSmc)

/-- The backend there after that one. -/
def reopen (env : Environment δ) (globals : Globals) (smc : SysfsSmc δ) :
    Except SmcError (SysfsSmc δ) :=
  (openAt globals.sysfsRoot (env.treeAgain globals.sysfsRoot) smc.world).map (·.toSysfsSmc)

/-- The surroundings of `doctor`. -/
def around (env : Environment δ) (globals : Globals) : Surroundings where
  configPath := globals.config
  config := env.config globals.config
  unit := env.unit
  daemon := env.daemon
  date := env.date
  mtime := env.mtime
  state := env.state

variable [Sysfs δ] [SerdeJson] [Toml]

/-! ### The verbs -/

omit [SerdeJson] in
def buildSupervisor (env : Environment δ) (globals : Globals) (start : RunMode) :
    Except CliError (Supervisor (SysfsSmc δ)) :=
  match env.loadConfig globals with
  | .error e => .error (.runtime (toString e))
  | .ok config => match env.opened globals with
    | .error e => .error (.runtime (toString e))
    | .ok smc => match Supervisor.new smc (.ofConfig config) start (env.runtimePaths globals) with
      | .error e => .error (.runtime (toString e))
      | .ok supervisor => .ok supervisor

def runDaemon (env : Environment δ) (mode : DaemonMode) (globals : Globals) : Outcome δ :=
  match env.buildSupervisor globals mode.start with
  | .error _ => env.quit 1 env.world
  | .ok supervisor =>
      let started := supervisor.start env.host
      { exit := .running
        world := (Supervisor.loop.run env.polls started).smc.world
        runDir := env.runtime.dir
        published := (Supervisor.reports.trace env.polls started).map Prod.snd }

def runStatus (env : Environment δ) (globals : Globals) : Outcome δ :=
  let config := env.loadConfig globals
  let source := if env.config globals.config = .missing then "defaults" else globals.config
  let status := gatherStatus config (env.opened globals) source env.state
  env.quit (codeOf status) <|
    match config, env.opened globals with
    | .ok _, .ok smc => (gathered smc).world
    | _, _ => env.world

/-- `doctor`; `deg` prints a temperature. -/
def runDoctor (deg : MilliC → String) (env : Environment δ) (roundtrip : Bool)
    (compareSecs : Option Nat) (globals : Globals) : Outcome δ :=
  let (report, smc) := runAt deg globals.sysfsRoot (env.tree globals.sysfsRoot) env.world
    (env.around globals) roundtrip compareSecs
  env.quit report.exitCode <|
    match smc with
    | some smc => smc.world
    | none => env.world

def runOnce (env : Environment δ) (atTemp : Option Int) (dryRun : Bool) (globals : Globals) :
    Outcome δ :=
  let paths := env.runtimePaths globals
  match env.loadConfig globals with
  | .error _ => env.quit 1 env.world
  | .ok config =>
      if dryRun then
        env.quit (codeOf (dryRunReport atTemp (env.opened globals) config)) <|
          match atTemp, env.opened globals with
          | none, .ok smc => (Smc.readSensors smc).2.world
          | _, _ => env.world
      else
        let result := (stepOnceReport atTemp (env.opened globals) (env.reopen globals) config paths
          env.host).2
        match atTemp, env.opened globals with
        | some c, _ =>
            { env.quit (codeOf result) env.world with
              published := polledOnce (simulated c config) config paths env.host }
        | none, .ok smc =>
            let armed := isArmed (armOnce smc).2
            { env.quit (codeOf result)
                (onceLeaves (env.reopen globals) config paths env.host smc) with
              published := polledOnce (Smc.probeSafeRestore smc).2 config paths
                { env.host with isArmed := armed } }
        | none, .error _ => env.quit (codeOf result) env.world

omit [SerdeJson] [Toml] in
/-- A verb that writes `cmd.json` or fails. -/
def commanding (env : Environment δ) (result : Except String Unit × Publish.RunDir) : Outcome δ :=
  { env.quit (exitCode result.1) env.world with runDir := result.2 }

omit [SerdeJson] [Toml] in
/-- Arm the death path, and panic. -/
def runSelftestPanic (env : Environment δ) (globals : Globals) : Outcome δ where
  exit := .panicked
  world := match env.opened globals with
    | .error _ => env.world
    | .ok smc =>
        let (proven, smc) := Smc.probeSafeRestore smc
        panicHook proven.toOption smc.world
  runDir := env.runtime.dir
  published := []

/-! ### The command line -/

def dispatch (deg : MilliC → String) (env : Environment δ) (command : Command)
    (globals : Globals) : Outcome δ :=
  match command with
  | .version | .help => env.quit 0 env.world
  | .daemon mode => env.runDaemon mode globals
  | .status _ => env.runStatus globals
  | .doctor _ roundtrip compareSecs => env.runDoctor deg roundtrip compareSecs globals
  | .once atTemp dryRun _ => env.runOnce atTemp dryRun globals
  | .observe => env.commanding (writeCmd "observe" none env.runtime)
  | .curve => env.commanding (writeCmd "curve" none env.runtime)
  | .hold rpm => env.commanding (runHold (env.opened globals) rpm env.runtime)
  | .selftestPanic => env.runSelftestPanic globals

/-- Parse the arguments and dispatch the command; an error of the parser is the exit code. -/
def run (deg : MilliC → String) (env : Environment δ) (args : List String) : Outcome δ :=
  match parse args with
  | .ok (command, globals) => env.dispatch deg command globals
  | .error e => env.quit e.exitCode env.world

theorem run_parsed {deg : MilliC → String} {env : Environment δ} {args : List String}
    {command : Command} {globals : Globals} (parsed : parse args = .ok (command, globals)) :
    env.run deg args = env.dispatch deg command globals := by
  unfold run
  rw [parsed]

end Environment

end Afanctl
