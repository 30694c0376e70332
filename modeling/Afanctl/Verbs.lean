import Afanctl.Supervisor.Startup

/-!
The one-shot verbs: `once` on the live backend, and `doctor --roundtrip`.

`once` opens the backend and arms the death path itself; the roundtrip test is handed an
opened backend. A verb is modelled by what it does in order, its deeds, with its result.
Its backend handles are numbered, and each owns the file its restore descriptor was made
from, so a deed tells which handle a call went to and when one was dropped.
-/

namespace Afanctl

/-- Errors of a verb. -/
inductive CliError where
  | usage (msg : String)
  | runtime (msg : String)
  deriving DecidableEq, Repr

/-- What a one-shot verb does. -/
inductive Deed where
  /-- a call on the backend handle -/
  | called (handle : Nat) (op : Op)
  | installDeathPath (restore : SafeRestore)
  /-- the handle goes out of scope, which closes its file -/
  | dropped (handle : Nat)
  /-- the verb returns; `false` is a failure -/
  | reported (ok : Bool)

/-- A usable descriptor is armed. -/
def isArmed (armed : Option SafeRestore) : Bool :=
  match armed with
  | some restore => decide (0 ≤ restore.fd)
  | none => false

section Once

variable {σ : Type} [Smc σ]

/-- The exit restore of `once`: a fresh handle, and AUTO through the verify path. -/
def restoreAutoOnExit (reopen : σ → Except SmcError σ) (smc : σ) :
    List Deed × Except CliError Unit :=
  match reopen smc with
  | .error e => ([], .error (.runtime (toString e)))
  | .ok smc =>
      let answer := (Smc.setMode .auto smc).1
      ([.called 1 (.setMode .auto answer), .dropped 1],
        match answer with
        | .ok _ => .ok ()
        | .error e => .error (.runtime
            (s!"once exit restore: set AUTO failed: {e} (fix: check the fan mode attribute's " ++
              "writability; the fan may remain in manual — run `afanctl doctor` as root)")))

/-- Arming `once`: the descriptor is armed only if the probe has proven it. -/
def armOnce (smc : σ) : List Deed × Option SafeRestore :=
  let answer := (Smc.probeSafeRestore smc).1
  (.called 0 (.probeSafeRestore answer) ::
      match answer with
      | .ok restore => [.installDeathPath restore]
      | .error _ => [],
    answer.toOption)

variable [SerdeJson]

/-- The one poll of `once`. Construction takes the handle over, and either way it is
dropped here. -/
def pollOnce (config : Config) (paths : RuntimePaths) (host : Host) (smc : σ) :
    List Deed × σ × Except CliError StepReport :=
  match Supervisor.new smc (.ofConfig config) .curve paths with
  | .error e => ([.dropped 0], smc, .error (.runtime (toString e)))
  | .ok supervisor =>
      let poll := supervisor.stepOnce host
      (poll.log.map (fun e => .called 0 e.op) ++ [.dropped 0], poll.sup.smc, .ok poll.report)

/-- The live half of `once`: `opened` is what opening the backend gave, and `reopen` what
opening it again gives. -/
def liveOnceReport (opened : Except SmcError σ) (reopen : σ → Except SmcError σ) (config : Config)
    (paths : RuntimePaths) (host : Host) : List Deed × Except CliError StepReport :=
  match opened with
  | .error e => ([.reported false], .error (.runtime (toString e)))
  | .ok smc =>
      let (arming, armed) := armOnce smc
      let (polling, smc, step) := pollOnce config paths { host with isArmed := isArmed armed }
        (Smc.probeSafeRestore smc).2
      let (exiting, restored) := restoreAutoOnExit reopen smc
      let result := match step, restored with
        | _, .error e => .error e
        | .ok report, .ok () =>
            .ok { report with
              notes := report.notes ++ ["exit: AUTO restored (fan mode verified Auto)"] }
        | .error e, .ok () => .error e
      (arming ++ polling ++ exiting ++ [.reported result.isOk], result)

end Once

/-! ### `doctor --roundtrip` -/

/-- Checklist status. -/
inductive Status where
  | pass
  | fail
  | warn
  deriving DecidableEq, Repr

/-- One checklist line. -/
structure Check where
  name : String
  status : Status
  detail : String
  deriving DecidableEq, Repr

/-- The debug name of a mode. -/
def FanMode.debug : FanMode → String
  | .auto => "Auto"
  | .manual => "Manual"

section Roundtrip

variable {σ : Type} [Smc σ]

/-- The write of the roundtrip test, after its takeover was answered, and the problems of
both. -/
def roundtripWrite (manual : Except SmcError FanMode) (smc : σ) : List Deed × σ × List String :=
  match manual with
  | .ok _ =>
      let rpm := Smc.hwMinRpm smc
      let (answer, smc) := Smc.writeSpeed rpm smc
      ([.called 0 (.writeSpeed rpm answer)], smc,
        match answer with
        | .ok _ => []
        | .error e => [s!"write {Smc.hwMinRpm smc} rpm: {e}"])
  | .error e => ([], smc, [s!"set manual: {e}"])

/-- The verdict on the problems met and on what was read during the hold. -/
def roundtripCheck (name : String) (hwMin hold : Nat) (problems : List String)
    (observed : Option FanState) : Check :=
  let observedTxt := match observed with
    | some f => s!"observed {f.rpm} rpm / {f.mode.debug}"
    | none => "observed: fan read failed"
  if problems = [] ∧ observed.map (·.mode) = some .manual then
    ⟨name, .pass, s!"manual+{hwMin} rpm verified over {hold} s; AUTO restored ({observedTxt})"⟩
  else
    let problemsTxt := "; ".intercalate problems
    ⟨name, .fail, s!"{problemsTxt} ({observedTxt})"⟩

/-- The write test on an opened backend: Manual, the lowest speed, a hold of so many
seconds, a read, and AUTO. It asks for a descriptor to exist before it writes. -/
def roundtripManualTest (smc : σ) (hold : Nat) : List Deed × Check :=
  let name := "roundtrip manual write test"
  match Smc.safeRestore smc with
  | none =>
      ([.reported false],
        ⟨name, .fail,
          "--roundtrip requires root (the fan mode attribute is not writable); refused to write"⟩)
  | some _ =>
      let (manual, smc) := Smc.setMode .manual smc
      let (writing, smc, problems) := roundtripWrite manual smc
      let (fan, smc) := Smc.readFan smc
      let (restore, smc) := Smc.setMode .auto smc
      let problems := problems ++ match restore with
        | .ok _ => []
        | .error e => [s!"restore AUTO failed: {e} (fan may still be manual)"]
      let check := roundtripCheck name (Smc.hwMinRpm smc) hold problems fan.toOption
      (.called 0 (.setMode .manual manual) :: writing ++
          [.called 0 (.readFan fan), .called 0 (.setMode .auto restore),
            .reported (check.status == .pass)],
        check)

end Roundtrip

end Afanctl
