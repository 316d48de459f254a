import Reprox.Foundations.Runs
import Reprox.Foundations.Table
import Reprox.Foundations.Ledger
import Reprox.Foundations.TokenBucket
import Reprox.Foundations.Reader
import Reprox.Foundations.Attempts
import Reprox.Foundations.Checks
import Reprox.Foundations.Text
import Reprox.Foundations.Quoted
import Reprox.Foundations.MachineNumbers
import Reprox.Foundations.Prefixed
import Reprox.Foundations.Exposition
import Reprox.Foundations.Validators
import Reprox.Net.Address
import Reprox.Net.Decimal
import Reprox.Config.Schema
import Reprox.Config.Validation
import Reprox.Config.Upstream
import Reprox.Config.Alpn
import Reprox.Config.Acceptance
import Reprox.Tls
import Reprox.Metrics.Stats
import Reprox.Metrics.Page
import Reprox.Limits.ConnectionLimiter
import Reprox.Limits.IpLimiter
import Reprox.Limits.RateLimiter
import Reprox.Limits.Sweep
import Reprox.Limits.Janitor
import Reprox.Routing.Router
import Reprox.Routing.RouteTable
import Reprox.Routing.Fallback
import Reprox.Routing.SiteTree
import Reprox.Routing.SiteLoading
import Reprox.Routing.Http
import Reprox.Routing.RequestMetrics
import Reprox.Routing.SiteServing
import Reprox.Routing.ResponseHeaders
import Reprox.Routing.Revalidation
import Reprox.Routing.Streams
import Reprox.Routing.Proxy
import Reprox.Routing.Backoff
import Reprox.Routing.ConnectTime
import Reprox.Server.HotReload
import Reprox.Server.Reports
import Reprox.Server.Versions
import Reprox.Server.AcceptLoop
import Reprox.Server.Accounting
import Reprox.Server.Slots
import Reprox.Server.Destinations
import Reprox.Server.LocalPeers
import Reprox.Server.Shutdown
import Reprox.Server.Drain
import Reprox.Server.Scrape
import Reprox.Server.PageRelations
import Reprox.Server.PerIp
import Reprox.Server.AdmissionRate
import Reprox.Server.AtRest
