import Relaunch.Workload.Wire
import Relaunch.Config.Builder
import Relaunch.Config.Environment
import Relaunch.Registry.Http
import Relaunch.Recovery.Runner
import Relaunch.Pool.Work
import Relaunch.Pool.Reach
import Relaunch.Proofs.Recovery.LifeCycle
import Relaunch.Proofs.Launch.FirstMark
import Relaunch.Proofs.Pool.Greedy
import Relaunch.Proofs.Pool.Isolation
import Relaunch.Proofs.Recovery.Scan
import Relaunch.Proofs.Recovery.Readiness
import Relaunch.Proofs.Registry.Client
import Relaunch.Proofs.Launch.Unwound
import Relaunch.Proofs.Config.Environment
import Relaunch.Proofs.Workload.Tolerant
import Relaunch.Proofs.Registry.Delay
import Relaunch.Proofs.Launch.Report
import Relaunch.Proofs.Pool.Report
import Relaunch.Proofs.Pool.Ledger
import Relaunch.Proofs.Recovery.Ledger
import Relaunch.Proofs.Pool.Barrier
import Relaunch.Proofs.Text.Trim
import Relaunch.Proofs.Config.Checks
import Relaunch.Proofs.Registry.Endpoint
import Relaunch.Proofs.Recovery.Waiting
import Relaunch.Proofs.Launch.Trouble
import Relaunch.Capture
import Relaunch.Proofs.Launch.Projection
import Relaunch.Proofs.Failure.FirstFailure
import Relaunch.Proofs.Registry.Reply
import Relaunch.Proofs.Registry.Transport
