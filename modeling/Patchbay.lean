import Patchbay.AccountingRace
import Patchbay.Auth
import Patchbay.Averages
import Patchbay.BaseUrls
import Patchbay.Billing
import Patchbay.BoundedTables
import Patchbay.Budget
import Patchbay.BudgetExactness
import Patchbay.BudgetPeriods
import Patchbay.ClientIsolation
import Patchbay.ConcurrentFlushes
import Patchbay.ConcurrentScrapes
import Patchbay.Config
import Patchbay.ConfigValidation
import Patchbay.Conservation
import Patchbay.Counterparts
import Patchbay.Counting
import Patchbay.Deployment
import Patchbay.Enforcement
import Patchbay.Ewma
import Patchbay.Exposition
import Patchbay.Gateway
import Patchbay.GatewayLimits
import Patchbay.Growth
import Patchbay.KeyIsolation
import Patchbay.KeyLog
import Patchbay.KeyTable
import Patchbay.Lib.Checkpoint
import Patchbay.Lib.Delegation
import Patchbay.Lib.Descent
import Patchbay.Lib.Disk
import Patchbay.Lib.EarlyReturn
import Patchbay.Lib.EventStream
import Patchbay.Lib.FirstLeast
import Patchbay.Lib.Framing
import Patchbay.Lib.Gcra
import Patchbay.Lib.Json
import Patchbay.Lib.MovingAverage
import Patchbay.Lib.Parts
import Patchbay.Lib.Progress
import Patchbay.Lib.Projection
import Patchbay.Lib.Prometheus
import Patchbay.Lib.Redirect
import Patchbay.Lib.Scan
import Patchbay.Lib.Schedule
import Patchbay.Lib.Shadow
import Patchbay.Lib.SharedCounters
import Patchbay.Lib.SharedTable
import Patchbay.Lib.Table
import Patchbay.Lib.Text
import Patchbay.Lib.Unwinding
import Patchbay.Lib.Windows
import Patchbay.Limits
import Patchbay.Liveness
import Patchbay.Metrics
import Patchbay.MissingModel
import Patchbay.Outcomes
import Patchbay.Overshoot
import Patchbay.PreFilter
import Patchbay.Privacy
import Patchbay.Probing
import Patchbay.Provenance
import Patchbay.RequestCap
import Patchbay.Retry
import Patchbay.Router
import Patchbay.RoutingIndependence
import Patchbay.RoutingOptimality
import Patchbay.Schedules
import Patchbay.Scrape
import Patchbay.Secrets
import Patchbay.Server
import Patchbay.Sessions
import Patchbay.SnapshotFile
import Patchbay.Surface
import Patchbay.TpmRace
import Patchbay.TpmWindows
import Patchbay.Upstream.BufferCap
import Patchbay.Upstream.BufferInvariant
import Patchbay.Upstream.Client
import Patchbay.Upstream.Relay
import Patchbay.Upstream.RelayCourse
import Patchbay.Upstream.Scanner
import Patchbay.Upstream.ScannerRefinement
import Patchbay.Upstream.StreamEnd
import Patchbay.Upstream.Usage
import Patchbay.UsageAgreement
