import SreAgent.Lib.Machine
import SreAgent.Lib.Tally
import SreAgent.Lib.Isolation
import SreAgent.Lib.CappedBucket
import SreAgent.Ratelimit.Basic
import SreAgent.Ratelimit.Admission
import SreAgent.Ratelimit.Redis
import SreAgent.Ratelimit.Burst
import SreAgent.Lib.Rounding
import SreAgent.Ratelimit.Doubles
import SreAgent.Ratelimit.Windows
import SreAgent.Lib.PyStr
import SreAgent.Lib.DateTime
import SreAgent.Lib.Json
import SreAgent.Lib.Sha256
import SreAgent.Errors
import SreAgent.Config
import SreAgent.Settings
import SreAgent.Kube
import SreAgent.Rca.Models
import SreAgent.Rca.Correlate
import SreAgent.Rca.Detectors
import SreAgent.Rca.Ordinary
import SreAgent.Rca.Issues
import SreAgent.Rag.Retrieve
import SreAgent.Rca.Collect
import SreAgent.Rca.Engine
import SreAgent.Rca.Collected
import SreAgent.Rca.PodScope
import SreAgent.Rca.Absence
import SreAgent.Rca.Endpoints
import SreAgent.Rca.EventScope
import SreAgent.Lib.StableSort
import SreAgent.Lib.TwoRun
import SreAgent.Lib.TopK
import SreAgent.Lib.Framing
import SreAgent.Tools.Gitops
import SreAgent.Rca.Credit
import SreAgent.Rca.Rollback
import SreAgent.Rca.Causality
import SreAgent.Rca.Healthy
import SreAgent.Rca.Masking
import SreAgent.Rca.Scheduled
import SreAgent.Lib.Base64
import SreAgent.Auth
import SreAgent.Clusters.Basic
import SreAgent.Clusters.Freshness
import SreAgent.Gateway.Auth
import SreAgent.Gateway.Basic
import SreAgent.Gateway.Isolation
import SreAgent.Lib.Retry
import SreAgent.Tools.Http
import SreAgent.Tools.Incidents
import SreAgent.Lib.Interaction
import SreAgent.Lib.PromQL
import SreAgent.Tools.Upstream
import SreAgent.Rca.Calls
import SreAgent.Tools.Metrics
import SreAgent.Lib.PercentEncoding
import SreAgent.Tools.Answers
import SreAgent.Tools.Server
import SreAgent.Tools.Cicd
import SreAgent.Tools.Applications
import SreAgent.Tools.Tickets
import SreAgent.Tools.Observed
import SreAgent.Tools.Namespaced
import SreAgent.Tools.Confinement
import SreAgent.Tools.PodLogs
import SreAgent.Lib.SideBySide
import SreAgent.Lib.PrefixCode
import SreAgent.Resilience
import SreAgent.Observability
import SreAgent.Gateway.Books
import SreAgent.Gateway.Entry
import SreAgent.Gateway.Fleet
import SreAgent.Webapp.Chat
import SreAgent.Tools.Catalogue
import SreAgent.Tools.Limits
import SreAgent.Tools.Outlines
import SreAgent.Tools.Posts
import SreAgent.Lib.Origin
import SreAgent.Tools.Credentials
import SreAgent.Webapp.ErrorText
import SreAgent.Webapp.Streaming
import SreAgent.Webapp.Sse
import SreAgent.Webapp.Auth
import SreAgent.Webapp.Server
import SreAgent.Webapp.Cookies
import SreAgent.Webapp.LoginSafety
import SreAgent.Webapp.LoginUrl
import SreAgent.Rag.Embed
import SreAgent.Rag.Store
import SreAgent.Rag.Ingest
import SreAgent.Rag.Commits
import SreAgent.Rag.Ranking
import SreAgent.Rag.TenantScope
import SreAgent.Rca.Modest
import SreAgent.Rca.Ownership
import SreAgent.Rca.Degradation
import SreAgent.Rca.RunbookScope
import SreAgent.Rca.Signals
import SreAgent.Rca.OneLine
import SreAgent.Rca.InitBlame
import SreAgent.Rca.Reordered
import SreAgent.Rca.ListOrder
import SreAgent.Rca.Contradiction
import SreAgent.Rca.Sidecar
import SreAgent.Rca.Attribution
import SreAgent.Lib.Backtrack
import SreAgent.Rca.Resolution
import SreAgent.Lib.Gather
import SreAgent.Tools.Mesh
import SreAgent.Tools.MeshFindings
import SreAgent.Tools.MeshExact
import SreAgent.Tools.MeshOrder
import SreAgent.Tools.GatewayScope
import SreAgent.Lib.Windows
import SreAgent.Rag.Coverage
import SreAgent.Tools.Events
import SreAgent.Rca.Storage
import SreAgent.Rca.MixedTimes
import SreAgent.Rca.MoreEvidence
import SreAgent.Rca.Dialed
import SreAgent.Webapp.Pairing
import SreAgent.Lib.Weave
import SreAgent.Webapp.Markdown
import SreAgent.Lib.Occurrence
import SreAgent.Webapp.Fallback
import SreAgent.Webapp.Gate
import SreAgent.Webapp.LoginBinding
import SreAgent.Rca.Report
import SreAgent.Evals.RunEval
import SreAgent.Loadtest.RunLoad
import SreAgent.Lib.Html
import SreAgent.Tools.Reading
import SreAgent.Webapp.LiveChat
import SreAgent.Webapp.Registered
import SreAgent.Webapp.ReadOnly
import SreAgent.Webapp.Pages
import SreAgent.Webapp.Shown
import SreAgent.Webapp.DrillDown
