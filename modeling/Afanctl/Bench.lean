import Afanctl.Supervisor.Reach

/-!
A scripted backend for concrete runs.

Each call takes the next answer of its own list. A list that has run out answers
as a healthy backend does: sensors and fan at their resting values, a speed write
with the clamped request, a mode write with the requested mode. `json` decodes the
command texts the runs use.
-/

namespace Afanctl

open Afanctl.Lib

/-- A backend with prepared answers; in `speed` and `mode`, `none` is a success. -/
structure Bench where
  hwMin : Nat
  hwMax : Nat
  restSensors : List SensorReading
  restFan : FanState
  sensors : List (Except SmcError (List SensorReading))
  fan : List (Except SmcError FanState)
  speed : List (Option SmcError)
  mode : List (Option SmcError)

namespace Bench

/-- The answer of a scripted write. -/
def answer {α : Type} (scripted : Option SmcError) (verified : α) : Except SmcError α :=
  match scripted with
  | none => .ok verified
  | some e => .error e

/-- The death path the bench proves at startup. -/
def restore : SafeRestore := ⟨3, "0\n"⟩

instance : Smc Bench where
  readSensors b := match b.sensors with
    | [] => (.ok b.restSensors, b)
    | next :: rest => (next, { b with sensors := rest })
  readFan b := match b.fan with
    | [] => (.ok b.restFan, b)
    | next :: rest => (next, { b with fan := rest })
  hwMinRpm b := b.hwMin
  hwMaxRpm b := b.hwMax
  writeSpeed rpm b := match b.speed with
    | [] => (.ok (clamp b.hwMin b.hwMax rpm), b)
    | next :: rest => (answer next (clamp b.hwMin b.hwMax rpm), { b with speed := rest })
  setMode mode b := match b.mode with
    | [] => (.ok mode, b)
    | next :: rest => (answer next mode, { b with mode := rest })
  safeRestore _ := some restore
  probeSafeRestore b := (.ok restore, b)
  safetyCapabilities _ := ⟨"bench", false, none⟩

/-- One valid sensor at the given milli-degrees. -/
def reading (milli : Int) : List SensorReading := [⟨"Core 0", some ⟨milli⟩⟩]

/-- A refused write. -/
def refused : SmcError := .write "fan1" "refused"

/-- A failed read. -/
def unread : SmcError := .read "fan1_input" "input/output error"

/-- A bench that answers everything healthily: 70 °C, and after startup the fan in
Manual at 3000 rpm. -/
def healthy : Bench where
  hwMin := 1200
  hwMax := 7200
  restSensors := reading 70000
  restFan := ⟨3000, .manual⟩
  sensors := []
  fan := [.ok ⟨2000, .auto⟩]
  speed := []
  mode := []

/-- A bench that refuses the first three mode writes. -/
def refusing : Bench := { healthy with mode := [some refused, some refused, some refused] }

/-! ### Configuration and commands -/

def config : ResolvedConfig := .ofConfig
  { highC := 66, maxC := 86, minRpm := 1200, maxRpm := 6200, intervalS := 1 }

def paths : RuntimePaths where
  cmd := "/run/afanctl/cmd.json"
  state := "/run/afanctl/state.json"
  configSource := "/etc/afanctl/config.toml"

def observeText : String := "\x7b\"schema\":\"afanctl.cmd.v1\",\"mode\":\"observe\"\x7d"

def curveText : String := "\x7b\"schema\":\"afanctl.cmd.v1\",\"mode\":\"curve\"\x7d"

def holdText : String := "\x7b\"schema\":\"afanctl.cmd.v1\",\"mode\":\"hold\",\"rpm\":5000\x7d"

/-- The documents of the texts above. -/
@[reducible] def json : SerdeJson where
  fromStr raw :=
    if raw = observeText then
      .ok (.object [("schema", .string "afanctl.cmd.v1"), ("mode", .string "observe")])
    else if raw = curveText then
      .ok (.object [("schema", .string "afanctl.cmd.v1"), ("mode", .string "curve")])
    else if raw = holdText then
      .ok (.object [("schema", .string "afanctl.cmd.v1"), ("mode", .string "hold"),
        ("rpm", .number (.posInt 5000))])
    else .error "expected value at line 1 column 1"

/-- A quiet host: no command file, the clock at zero, publishing works. -/
def quiet : Host where
  cmd := .absent
  now := fun _ => 0
  publishError := none
  isArmed := true
  notifySocket := false

/-- A quiet host with a command file. -/
def commanding (raw : String) : Host := { quiet with cmd := .content raw }

/-- The daemon over a bench, as its loop begins. -/
def daemon (b : Bench) (start : RunMode) : Supervisor Bench :=
  (Supervisor.wired b config start paths).start quiet

theorem config_valid : config.config.validate (1200, 7200) = .ok () := rfl

/-- A run of a bench daemon whose steps are all allowed. -/
theorem daemon_reach [SerdeJson] {allowed : Host → Supervisor Bench → Prop} (b : Bench)
    (band : b.hwMin = 1200 ∧ b.hwMax = 7200) (start : RunMode) {hosts : List Host}
    (along : Supervisor.loop.Along allowed hosts (daemon b start)) :
    Supervisor.loop.Reach Supervisor.Launched allowed (Supervisor.loop.run hosts (daemon b start))
      (((Supervisor.wired b config start paths).started quiet).log
        ++ Supervisor.loop.trace hosts (daemon b start)) := by
  have valid : config.config.validate (Smc.hwMinRpm b, Smc.hwMaxRpm b) = .ok () := by
    show config.config.validate (b.hwMin, b.hwMax) = .ok ()
    rw [band.1, band.2]
    exact config_valid
  exact (Machine.Reach.start (.started quiet (Supervisor.new_eq_ok.mpr ⟨valid, rfl⟩))).run along

/-- Every run of a bench daemon reaches its end. -/
theorem daemon_reachable [SerdeJson] (b : Bench) (band : b.hwMin = 1200 ∧ b.hwMax = 7200)
    (start : RunMode) (hosts : List Host) :
    Supervisor.Reachable (Supervisor.loop.run hosts (daemon b start))
      (((Supervisor.wired b config start paths).started quiet).log
        ++ Supervisor.loop.trace hosts (daemon b start)) :=
  daemon_reach b band start (Machine.Along.of_forall (fun _ _ => trivial) hosts _)

end Bench

end Afanctl
