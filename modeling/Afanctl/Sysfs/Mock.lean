import Afanctl.Sysfs.Adapter

/-!
The scriptable mock backend.

It answers as a fan does, with faults that can be injected, and goes through the settle
windows of the real adapter. The latencies it can inject are left out: a write is adopted at
once, and a read takes no time.
-/

namespace Afanctl

open Afanctl.Lib

/-- The stand-in for the mode attribute: its descriptor, the restore payload, and the error
that rewriting it gives, if any. -/
structure RestoreFile where
  fd : Int
  bytes : String
  refuses : Option String
  deriving DecidableEq, Repr

/-- The mock backend. -/
structure MockSmc where
  hwMin : Nat
  hwMax : Nat
  sensors : List SensorReading
  /-- the tachometer -/
  rpm : Nat
  /-- the echo register; it differs from `rpm` in lag mode only -/
  outReg : Nat
  mode : FanMode
  /-- what every speed echo reads back instead -/
  writeStuckRpm : Option Nat
  /-- what every mode echo reads back instead -/
  modeReadBack : Option FanMode
  /-- why every fan read fails -/
  fanReadFault : Option String
  /-- lag mode: the tach moves at most so far each read -/
  lagRate : Option Nat
  tachFrozen : Bool
  writeAttempts : Nat
  restoreFile : Option RestoreFile
  deriving DecidableEq, Repr

namespace MockSmc

/-- A mock with the given hardware range. -/
def new (hwMin hwMax : Nat) : MockSmc where
  hwMin := hwMin
  hwMax := hwMax
  sensors := []
  rpm := hwMin
  outReg := hwMin
  mode := .auto
  writeStuckRpm := none
  modeReadBack := none
  fanReadFault := none
  lagRate := none
  tachFrozen := false
  writeAttempts := 0
  restoreFile := none

/-- Replace the injected sensors. -/
def setSensors (sensors : List SensorReading) (m : MockSmc) : MockSmc :=
  { m with sensors := sensors }

/-- The outlier window, applied to an injected reading. -/
def filtered (r : SensorReading) : SensorReading :=
  { r with milliC := r.milliC.filter fun m => milliCMin ≤ m.val ∧ m.val ≤ milliCMax }

def readSensors (m : MockSmc) : List SensorReading := m.sensors.map filtered

/-- The tach in lag mode: at most `rate` toward the register. The upward addition is the
source's unchecked `u32` one. -/
def tachSlew (start rate : Nat) (m : MockSmc) : Nat :=
  if start ≤ m.outReg then min (wrap32 (start + rate)) m.outReg else max (start - rate) m.outReg

def readFan (m : MockSmc) : Except SmcError FanState × MockSmc :=
  match m.fanReadFault with
  | some kind => (.error (.read "<mock:fan1_input>" kind), m)
  | none =>
      let m := match m.lagRate, m.mode with
        | some rate, .manual =>
            if m.tachFrozen then m else { m with rpm := m.tachSlew m.rpm rate }
        | some _, .auto => { m with outReg := m.rpm }
        | none, _ => m
      (.ok { rpm := m.rpm, mode := m.mode }, m)

/-! ### Writes -/

/-- The attempts of a write, with `left` to go; the first component of the state is the last
value read. -/
def attempts (wrote : Nat) (sample : Option Nat × MockSmc →
    Except SmcError Bool × (Option Nat × MockSmc)) :
    Nat → Option Nat × MockSmc → Except SmcError Unit × MockSmc
  | 0, (last, m) => (.error (.verifyFailed wrote (last.getD 0)), m)
  | left + 1, (last, m) =>
      match settle id sample (last, { m with writeAttempts := m.writeAttempts + 1 }) with
      | (.error e, t) => (.error e, t.2)
      | (.ok true, t) => (.ok (), t.2)
      | (.ok false, t) => attempts wrote sample left t

/-- The echo of a speed write. In lag mode only a fan in Manual takes it. -/
def echoSpeed (target : Nat) (m : MockSmc) : Nat × MockSmc :=
  match m.writeStuckRpm, m.lagRate with
  | some stuck, _ => (stuck, m)
  | none, some _ =>
      if m.mode = .manual then (target, { m with outReg := target }) else (m.outReg, m)
  | none, none => (target, m)

/-- A sample of a speed write; the tach commits on a verified echo, outside of lag mode. -/
def speedSample (target : Nat) (t : Option Nat × MockSmc) :
    Except SmcError Bool × (Option Nat × MockSmc) :=
  let (rb, m) := t.2.echoSpeed target
  let ok := decide (absDiff rb target ≤ writeEchoToleranceRpm)
  (.ok ok, (some rb, if ok = true ∧ m.lagRate = none then { m with rpm := rb } else m))

def writeSpeed (rpm : Nat) (m : MockSmc) : Except SmcError Nat × MockSmc :=
  let target := clamp m.hwMin m.hwMax rpm
  let (written, m) := attempts target (speedSample target) (writeRetryMax + 1) (none, m)
  (written.map fun () => target, m)

/-- A mode as the attribute's value. -/
def modeValue (mode : FanMode) : Nat := if mode = .manual then 1 else 0

/-- A sample of a mode write. -/
def modeSample (mode : FanMode) (t : Option Nat × MockSmc) :
    Except SmcError Bool × (Option Nat × MockSmc) :=
  let got := t.2.modeReadBack.getD mode
  (.ok (got == mode), (some (modeValue got), t.2))

/-- A verified mode; back in Auto, a lag-mode register mirrors the tach. -/
def entered (mode : FanMode) (m : MockSmc) : MockSmc :=
  { m with
    mode := mode
    outReg := if m.lagRate.isSome ∧ mode = .auto then m.rpm else m.outReg }

def setMode (mode : FanMode) (m : MockSmc) : Except SmcError FanMode × MockSmc :=
  match attempts (modeValue mode) (modeSample mode) (writeRetryMax + 1) (none, m) with
  | (.error e, m) => (.error e, m)
  | (.ok (), m) => (.ok mode, m.entered mode)

def safeRestore (m : MockSmc) : Option SafeRestore :=
  m.restoreFile.map fun file => { fd := file.fd, bytes := file.bytes }

/-- The path its restore errors name. -/
def restorePath : String := "<mock:safe-restore>"

/-- Rewrite the restore file, then ask the fan. -/
def probeSafeRestore (m : MockSmc) : Except SmcError SafeRestore × MockSmc :=
  match m.restoreFile with
  | none => (.error (.write restorePath "permission denied"), m)
  | some file => match file.refuses with
    | some source => (.error (.write restorePath source), m)
    | none => match m.readFan with
      | (.error e, m) => (.error e, m)
      | (.ok ⟨_, .manual⟩, m) => (.error (.verifyFailed 0 1), m)
      | (.ok ⟨_, .auto⟩, m) => (.ok { fd := file.fd, bytes := file.bytes }, m)

instance : Smc MockSmc where
  readSensors m := (.ok m.readSensors, m)
  readFan := readFan
  hwMinRpm m := m.hwMin
  hwMaxRpm m := m.hwMax
  writeSpeed := writeSpeed
  setMode := setMode
  safeRestore := safeRestore
  probeSafeRestore := probeSafeRestore
  safetyCapabilities _ := ⟨"mock", false, none⟩

end MockSmc

end Afanctl
