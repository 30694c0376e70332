import Afanctl.Policy.Hysteresis
import Afanctl.Policy.Monotone
import Afanctl.Policy.Overflow
import Afanctl.Safety.Blocking
import Afanctl.Safety.Clamp
import Afanctl.Safety.DeathPath
import Afanctl.Safety.Degradation
import Afanctl.Safety.Escalation
import Afanctl.Safety.Ladder
import Afanctl.Safety.SensorLoss
import Afanctl.Safety.Slew
import Afanctl.Safety.Killed
import Afanctl.Safety.Mailbox
import Afanctl.Safety.Verdict
import Afanctl.Safety.Wire
import Afanctl.Safety.Recovery
import Afanctl.Sysfs.Discovery
import Afanctl.Sysfs.WriteVerify
import Afanctl.Doctor.Diagnosis
import Afanctl.Doctor.Simulation
import Afanctl.Config.Toml
import Afanctl.Cli.Obeyed
import Afanctl.Cli.DryRun
import Afanctl.Packaging.Privilege
import Afanctl.Clock.Civil
import Afanctl.Telemetry
