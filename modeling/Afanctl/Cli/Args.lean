import Afanctl.Lib.Cursor
import Afanctl.Sysfs.World
import Afanctl.Verbs

/-!
The argument parser.

`parse` takes the global options out of the arguments, wherever they stand, and
`parseVerb` the verb's own flags out of what they leave. Both loops move a cursor, and
`value` moves it over the argument that a flag takes.
-/

namespace Afanctl

open Afanctl.Lib

/-- The options that every verb takes. -/
@[ext]
structure Globals where
  config : String := "/etc/afanctl/afanctl.toml"
  sysfsRoot : String := "/sys"
  deriving DecidableEq, Repr

/-- The value of `daemon --mode`. -/
inductive DaemonMode where
  | observe
  | curve
  deriving DecidableEq, Repr

/-- A parsed command line. -/
inductive Command where
  | daemon (mode : DaemonMode)
  | status (json : Bool)
  | doctor (json roundtrip : Bool) (compareSecs : Option Nat)
  | once (atTemp : Option Int) (dryRun json : Bool)
  | observe
  | curve
  | hold (rpm : Nat)
  | selftestPanic
  | version
  | help
  deriving DecidableEq, Repr

namespace CliError

def exitCode : CliError → Nat
  | .usage _ => 2
  | .runtime _ => 1

/-- `bad`: a usage error. -/
def bad (msg : String) : CliError := .usage msg

end CliError

open CliError

/-! ### Single arguments -/

def flagLike (text : String) : Bool := text.toList.head? == some '-'

/-- A minus sign before decimal digits. -/
def negativeNumber (text : String) : Bool :=
  match text.toList with
  | '-' :: rest => rest ≠ [] && rest.all Char.isDigit
  | _ => false

/-- The argument behind `flag`, which is taken for its value. -/
def value (next : Option String) (flag : String) : Except CliError String :=
  match next with
  | none => .error (bad s!"{flag} needs a value")
  | some text =>
      if flagLike text && !(flag == "--at-temp" && negativeNumber text) then
        .error (bad (s!"{flag} needs a value, got flag-like `{text}` (fix: pass the value " ++
          s!"directly after {flag})"))
      else .ok text

/-- Reject any argument behind a verb that takes none. -/
def noArgs (tail : List String) (verb : String) : Except CliError Unit :=
  match tail with
  | extra :: _ => .error (bad s!"{verb}: unexpected argument `{extra}`")
  | [] => .ok ()

/-- `str::parse::<u64>`. -/
def parseU64 (s : String) : Option Nat :=
  let cs := match s.toList with
    | '+' :: rest => rest
    | all => all
  (digits cs).filter (· ≤ u64Max)

/-- Parse an integer; `what` names it in the error. -/
def parseNum {α : Type} (parse : String → Option α) (s what : String) : Except CliError α :=
  match parse s with
  | some n => .ok n
  | none => .error (bad s!"{what} expects an integer, got `{s}`")

/-! ### Verbs -/

/-- What the flags of a verb have set, and its positional arguments. -/
structure Flags where
  json : Bool := false
  roundtrip : Bool := false
  compare : Option Nat := none
  atTemp : Option Int := none
  dryRun : Bool := false
  mode : DaemonMode := .observe
  positional : List String := []

def daemonMode (v : String) : Except CliError DaemonMode :=
  match v with
  | "observe" => .ok .observe
  | "curve" => .ok .curve
  | other => .error (bad s!"--mode expects observe|curve, got `{other}`")

/-- One turn of the loop over a verb's arguments. -/
def parseFlag (verb : String) (s : Flags) (flag : String) (rest : List String) :
    Except CliError (Flags × Bool) :=
  match verb, flag with
  | "daemon", "--mode" => do
      let mode ← daemonMode (← value rest.head? "--mode")
      return ({ s with mode }, true)
  | "status", "--json" | "doctor", "--json" | "once", "--json" =>
      .ok ({ s with json := true }, false)
  | "doctor", "--roundtrip" => .ok ({ s with roundtrip := true }, false)
  | "doctor", "--compare" => do
      let secs ← parseNum parseU64 (← value rest.head? "--compare") "--compare"
      return ({ s with compare := some secs }, true)
  | "once", "--at-temp" => do
      let temp ← parseNum parseI32 (← value rest.head? "--at-temp") "--at-temp"
      return ({ s with atTemp := some temp }, true)
  | "once", "--dry-run" => .ok ({ s with dryRun := true }, false)
  | v, f =>
      if flagLike f then .error (bad s!"{v}: unknown flag `{f}`")
      else .ok ({ s with positional := s.positional ++ [f] }, false)

/-- `hold` takes one speed. -/
def parseHold (positional : List String) : Except CliError Command :=
  match positional with
  | [] => .error (bad "hold needs an rpm")
  | _ :: extra :: _ => .error (bad s!"hold: unexpected argument `{extra}`")
  | [rpm] =>
      if flagLike rpm then .error (bad s!"hold: rpm must be non-negative, got `{rpm}`")
      else (parseNum parseU32 rpm "hold rpm").map .hold

/-- The command of a verb whose flags are read. -/
def verbCommand (verb : String) (flags : Flags) : Except CliError Command :=
  match verb with
  | "daemon" => .ok (.daemon flags.mode)
  | "status" => .ok (.status flags.json)
  | "doctor" => .ok (.doctor flags.json flags.roundtrip flags.compare)
  | "once" => .ok (.once flags.atTemp flags.dryRun flags.json)
  | "observe" => .ok .observe
  | "curve" => .ok .curve
  | "selftest-panic" => .ok .selftestPanic
  | "hold" => parseHold flags.positional
  | v => .error (bad s!"unknown verb `{v}`")

/-- Parse the arguments of one verb. -/
def parseVerb (verb : String) (tail : List String) : Except CliError Command := do
  let flags ← cursorLoop (parseFlag verb) {} false tail
  if verb ≠ "hold" then noArgs flags.positional verb
  verbCommand verb flags

/-! ### The command line -/

/-- One turn of the loop over the arguments. -/
def parseGlobal (s : Globals × List String) (arg : String) (rest : List String) :
    Except CliError ((Globals × List String) × Bool) :=
  match arg with
  | "--config" => do
      let config ← value rest.head? "--config"
      return (({ s.1 with config }, s.2), true)
  | "--sysfs-root" => do
      let sysfsRoot ← value rest.head? "--sysfs-root"
      return (({ s.1 with sysfsRoot }, s.2), true)
  | token => .ok ((s.1, s.2 ++ [token]), false)

/-- The command of the arguments that are no globals. -/
def parseTokens (tokens : List String) : Except CliError Command :=
  match tokens with
  | [] => .error (bad "no verb given")
  | verb :: tail =>
      match verb with
      | "--version" => (noArgs tail "--version").map fun _ => .version
      | "-h" | "--help" => (noArgs tail "--help").map fun _ => .help
      | v => if flagLike v then .error (bad s!"unknown flag `{v}`") else parseVerb v tail

/-- Parse the arguments into a command and the globals in force. -/
def parse (args : List String) : Except CliError (Command × Globals) := do
  let (globals, tokens) ← cursorLoop parseGlobal ({}, []) false args
  let command ← parseTokens tokens
  return (command, globals)

end Afanctl
