/-!
Temperatures and sensor readings, the values that cross between the backend and
the control policy.
-/

namespace Afanctl

/-- Temperatures are milli-°C, exactly as sysfs provides them. -/
structure MilliC where
  val : Int
  deriving DecidableEq, Repr

/-- One coretemp sensor reading; `none` is a failed or rejected read. -/
structure SensorReading where
  label : String
  milliC : Option MilliC
  deriving DecidableEq, Repr

end Afanctl
