import OpenArm.Control.Report
import OpenArm.Control.SingleUse
import OpenArm.Control.Completion
import OpenArm.Control.Nonces
import OpenArm.Control.EventRing
import OpenArm.Runtime.Deadlines
import OpenArm.Runtime.Ownership
import OpenArm.Runtime.PlanAuthority
import OpenArm.Runtime.EventQueue
import OpenArm.Real.Terminals
import OpenArm.Lib.Program
import OpenArm.Lib.Crash
import OpenArm.Lib.Text
import OpenArm.Manifest.Build
import OpenArm.Manifest.Reachable
import OpenArm.Persist.Versions
import OpenArm.Can.ProbeExact
import OpenArm.Transport.OneShot
import OpenArm.Transport.SocketCan
import OpenArm.Control.Keepout
import OpenArm.Real.Clearance
import OpenArm.Model.RouteSound
import OpenArm.Model.Evaluators
import OpenArm.Commission.Commit
import OpenArm.Control.Generations
import OpenArm.Control.Trajectory
import OpenArm.Can.Registers
import OpenArm.Control.Codecs
import OpenArm.Persist.Scans
import OpenArm.Real.Slew
import OpenArm.Model.SegmentDistance
import OpenArm.Model.CylinderDistance
import OpenArm.Model.Ik
import OpenArm.Commission.Envelope
import OpenArm.Commission.Manual
import OpenArm.Portal.DisplayCalibration
import OpenArm.Portal.MoveGrammar
import OpenArm.Portal.Sha256
import OpenArm.Can.NetlinkGrammar
import OpenArm.Guard.Ray
import OpenArm.Guard.Contact
import OpenArm.Guard.Route
import OpenArm.Lib.Baton
import OpenArm.Node.Busy
import OpenArm.Node.Legs
import OpenArm.Node.Wedge
import OpenArm.Node.Latch
