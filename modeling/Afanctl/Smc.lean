import Afanctl.Sensor

/-!
The backend trait: what the supervisor may ask of the fan hardware.

An implementation is a type of backend states with the trait's methods, each
threading that state. A method that takes `&self` in the source threads it too,
because the hardware behind a read may move. Nothing else is assumed, so a
statement over every instance is a statement over every sequence of answers.
-/

namespace Afanctl

/-- Logical fan control mode. -/
inductive FanMode where
  | auto
  | manual
  deriving DecidableEq, Repr

/-- Snapshot of fan hardware state: actual rpm and current mode. -/
structure FanState where
  rpm : Nat
  mode : FanMode
  deriving DecidableEq, Repr

/-- Errors of the adapter. Messages name the path. -/
inductive SmcError where
  | notFound (path : String)
  | read (path source : String)
  | write (path source : String)
  | verifyFailed (wrote readBack : Nat)
  | invalidValue (path value : String)
  deriving DecidableEq, Repr

instance : ToString SmcError where
  toString
    | .notFound path => s!"not found: {path}"
    | .read path source => s!"read {path}: {source}"
    | .write path source => s!"write {path}: {source}"
    | .verifyFailed wrote readBack => s!"verify failed: wrote {wrote}, read back {readBack}"
    | .invalidValue path value => s!"invalid value from {path}: {value}"

/-- The L2 death-path descriptor: the pre-opened fd and the exact restore bytes. -/
structure SafeRestore where
  fd : Int
  bytes : String
  deriving DecidableEq, Repr

/-- Safety layers a backend can offer beyond L1 and L2. -/
structure SafetyCapabilities where
  backend : String
  hwWatchdog : Bool
  firmwareAutoOnSuspend : Option Bool
  deriving DecidableEq, Repr

/-- The `Smc` trait over backend states `σ`. -/
class Smc (σ : Type) where
  readSensors : σ → Except SmcError (List SensorReading) × σ
  readFan : σ → Except SmcError FanState × σ
  hwMinRpm : σ → Nat
  hwMaxRpm : σ → Nat
  /-- write and read-back-verify; the verified rpm -/
  writeSpeed : Nat → σ → Except SmcError Nat × σ
  /-- write and read-back-verify; the verified mode -/
  setMode : FanMode → σ → Except SmcError FanMode × σ
  /-- presence is not proof: see `probeSafeRestore` -/
  safeRestore : σ → Option SafeRestore
  /-- one real write of the restore bytes, then a verified read-back -/
  probeSafeRestore : σ → Except SmcError SafeRestore × σ
  safetyCapabilities : σ → SafetyCapabilities

end Afanctl
