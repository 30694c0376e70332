import Afanctl.Sysfs.Settle

/-!
The sysfs adapter: the backend the daemon runs on.

Two generations of the kernel driver name the attributes and spell the modes differently; a
bound adapter carries one of the two tables. Its methods go through `settleWrite`, so what
is said there about every device is said here about every answer of the hardware.
-/

namespace Afanctl

open Afanctl.Lib

/-! ### The two generations -/

/-- Attribute names and mode tokens of a generation. -/
structure AbiAttrs where
  target : String
  modeAttr : String
  manual : String
  /-- also the restore payload of the death path -/
  auto : String
  backendId : String
  deriving DecidableEq, Repr

/-- The driver up to kernel 7.2. -/
def legacy : AbiAttrs where
  target := "fan1_output"
  modeAttr := "fan1_manual"
  manual := "1"
  auto := "0"
  backendId := "applesmc/legacy"

/-- The driver from kernel 7.3 on. -/
def modern : AbiAttrs where
  target := "fan1_target"
  modeAttr := "pwm1_enable"
  manual := "1"
  auto := "2"
  backendId := "applesmc/modern"

namespace AbiAttrs

/-- The token of a mode. -/
def token (abi : AbiAttrs) : FanMode → String
  | .auto => abi.auto
  | .manual => abi.manual

/-- The numeric form of a token; a malformed one maps to a value no read-back has. -/
def tokenValue (abi : AbiAttrs) (mode : FanMode) : Nat := (parseU32 (abi.token mode)).getD u32Max

/-- The mode an attribute's content stands for. -/
def parseMode (abi : AbiAttrs) (path raw : String) : Except SmcError FanMode :=
  let trimmed := trim raw
  if trimmed = abi.manual then .ok .manual
  else if trimmed = abi.auto then .ok .auto
  else .error (.invalidValue path trimmed)

/-- Either table tells the modes apart by their values. -/
theorem tokenValue_injective {abi : AbiAttrs} (bound : abi = legacy ∨ abi = modern)
    {mode mode' : FanMode} (same : abi.tokenValue mode = abi.tokenValue mode') : mode = mode' := by
  rcases bound with rfl | rfl <;> cases mode <;> cases mode' <;> revert same <;> decide

end AbiAttrs

/-! ### Sensor files -/

/-- Readings outside 0–120 °C are failed reads. -/
def milliCMin : Int := 0

def milliCMax : Int := 120000

section Sensors

variable {δ : Type} [Sysfs δ]

/-- One sensor file, with outlier rejection. -/
def readSensor (input label : String) (w : World δ) : SensorReading × World δ :=
  match w.read input with
  | (.error _, w) => ({ label := label, milliC := none }, w)
  | (.ok raw, w) => match parseI32 (trim raw) with
    | some v =>
        ({ label := label,
           milliC := if milliCMin ≤ v ∧ v ≤ milliCMax then some ⟨v⟩ else none }, w)
    | none => ({ label := label, milliC := none }, w)

/-- The sensor files, in order. -/
def readSensorFiles : List (String × String) → World δ → List SensorReading × World δ
  | [], w => ([], w)
  | (input, label) :: rest, w =>
      let reading := readSensor input label w
      let readings := readSensorFiles rest reading.2
      (reading.1 :: readings.1, readings.2)

end Sensors

/-! ### The adapter -/

/-- The real backend, bound to a generation and a hardware band. -/
structure SysfsSmc (δ : Type) where
  fanDir : String
  abi : AbiAttrs
  bound : abi = legacy ∨ abi = modern
  /-- path and label of each sensor, in discovery order -/
  sensors : List (String × String)
  hwMin : Nat
  hwMax : Nat
  band : hwMin ≤ hwMax
  /-- the descriptor kept open on the mode attribute, if it opened -/
  restoreFile : Option Int
  world : World δ

namespace SysfsSmc

variable {δ : Type} [Sysfs δ]

/-- `Path::join` of a name to the fan directory. -/
def join (s : SysfsSmc δ) (name : String) : String := Afanctl.join s.fanDir name

/-- The speed attribute. -/
def out (s : SysfsSmc δ) : String := s.join s.abi.target

/-- The mode attribute. -/
def modePath (s : SysfsSmc δ) : String := s.join s.abi.modeAttr

/-- Read the mode attribute. -/
def readMode (s : SysfsSmc δ) (w : World δ) : Except SmcError FanMode × World δ :=
  match w.readString s.modePath with
  | (.error e, w) => (.error e, w)
  | (.ok raw, w) => (s.abi.parseMode s.modePath raw, w)

/-- The read-back of a mode write, as the value of the token read. -/
def modeValue (s : SysfsSmc δ) (w : World δ) : Except SmcError Nat × World δ :=
  match s.readMode w with
  | (.error e, w) => (.error e, w)
  | (.ok mode, w) => (.ok (s.abi.tokenValue mode), w)

def readFan (s : SysfsSmc δ) : Except SmcError FanState × World δ :=
  match s.world.readU32 (s.join "fan1_input") with
  | (.error e, w) => (.error e, w)
  | (.ok rpm, w) => match s.readMode w with
    | (.error e, w) => (.error e, w)
    | (.ok mode, w) => (.ok { rpm := rpm, mode := mode }, w)

def writeSpeed (rpm : Nat) (s : SysfsSmc δ) : Except SmcError Nat × World δ :=
  let target := clamp s.hwMin s.hwMax rpm
  settleWrite s.out (toString target) target echoSettleMs (World.readU32 s.out)
    (fun rb => absDiff rb target ≤ writeEchoToleranceRpm) s.world

def setMode (mode : FanMode) (s : SysfsSmc δ) : Except SmcError FanMode × World δ :=
  let want := s.abi.tokenValue mode
  match settleWrite s.modePath (s.abi.token mode) want modeSettleMs s.modeValue (· == want)
      s.world with
  | (.error e, w) => (.error e, w)
  | (.ok _, w) => (.ok mode, w)

def safeRestore (s : SysfsSmc δ) : Option SafeRestore :=
  s.restoreFile.map fun fd => { fd := fd, bytes := s.abi.auto }

/-- A sample of the arm-time probe, keeping the value read. -/
def probeSample (s : SysfsSmc δ) (t : Option Nat × World δ) :
    Except SmcError Bool × (Option Nat × World δ) :=
  match s.readMode t.2 with
  | (.error e, w) => (.error e, (t.1, w))
  | (.ok got, w) => (.ok (got == .auto), (some (s.abi.tokenValue got), w))

def probeSafeRestore (s : SysfsSmc δ) : Except SmcError SafeRestore × World δ :=
  match s.restoreFile with
  | none => (.error (.write s.modePath "permission denied"), s.world)
  | some _ => match s.world.writeHeld s.abi.auto with
    | (.error source, w) => (.error (.write s.modePath source), w)
    | (.ok (), w) => match settle (pause modeSettleMs) s.probeSample (none, w) with
      | (.error e, t) => (.error e, t.2)
      | (.ok false, t) =>
          (.error (.verifyFailed (s.abi.tokenValue .auto) (t.1.getD u32Max)), t.2)
      | (.ok true, t) => match s.safeRestore with
        | some restore => (.ok restore, t.2)
        | none => (.error (.write s.modePath "permission denied"), t.2)

/-- The adapter once its method has left the world so. -/
def left {α : Type} (s : SysfsSmc δ) (out : α × World δ) : α × SysfsSmc δ :=
  (out.1, { s with world := out.2 })

instance : Smc (SysfsSmc δ) where
  readSensors s :=
    let out := readSensorFiles s.sensors s.world
    s.left (.ok out.1, out.2)
  readFan s := s.left s.readFan
  hwMinRpm s := s.hwMin
  hwMaxRpm s := s.hwMax
  writeSpeed rpm s := s.left (s.writeSpeed rpm)
  setMode mode s := s.left (s.setMode mode)
  safeRestore s := s.safeRestore
  probeSafeRestore s := s.left s.probeSafeRestore
  safetyCapabilities s :=
    { backend := s.abi.backendId, hwWatchdog := false, firmwareAutoOnSuspend := none }

end SysfsSmc

/-! ### A shelf of files -/

/-- A device of ordinary files: they hold what was last written. -/
structure Shelf where
  files : List (String × String)

namespace Shelf

instance : Sysfs Shelf where
  read path d := match d.files.lookup path with
    | some text => (.ok text, d)
    | none => (.error "No such file or directory (os error 2)", d)
  write path payload d := match d.files.lookup path with
    | some _ => (.ok (), { files := (path, payload) :: d.files })
    | none => (.error "No such file or directory (os error 2)", d)
  writeHeld _ d := (.error "Bad file descriptor (os error 9)", d)
  sleep _ d := d

/-- An adapter over files of the modern generation. -/
def adapter : SysfsSmc Shelf where
  fanDir := "/fan"
  abi := modern
  bound := .inr rfl
  sensors := [("/temp1_input", "Core 0")]
  hwMin := 1200
  hwMax := 7200
  band := by decide
  restoreFile := none
  world :=
    { device := { files :=
        [("/fan/fan1_input", "2000\n"), ("/fan/fan1_target", "2000\n"),
          ("/fan/pwm1_enable", "2\n"), ("/temp1_input", "70000\n")] }
      journal := [] }

end Shelf

end Afanctl
