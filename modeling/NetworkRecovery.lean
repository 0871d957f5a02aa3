import NetworkRecovery.Python.Text
import NetworkRecovery.Python.Number
import NetworkRecovery.Python.Value
import NetworkRecovery.Python.Builtins
import NetworkRecovery.Python.Regex
import NetworkRecovery.Python.Json
import NetworkRecovery.Python.JsonLaws
import NetworkRecovery.Python.JsonText
import NetworkRecovery.Python.JsonLines
import NetworkRecovery.Python.Model
import NetworkRecovery.Python.TextFile
import NetworkRecovery.Python.Sha256
import NetworkRecovery.Python.Blake2b
import NetworkRecovery.Lib.HashChain
import NetworkRecovery.Audit.Record
import NetworkRecovery.Audit.Writer
import NetworkRecovery.Audit.LogLaws
import NetworkRecovery.Audit.Run
import NetworkRecovery.Audit.Tamper
import NetworkRecovery.Audit.Recovery
import NetworkRecovery.Audit.Concurrent
import NetworkRecovery.Proxy.Parser
import NetworkRecovery.Proxy.Entries
import NetworkRecovery.Proxy.Explain
import NetworkRecovery.Proxy.Evidence
import NetworkRecovery.Lib.Batching
import NetworkRecovery.Proxy.Coalesce
import NetworkRecovery.Proxy.CoalesceLaws
import NetworkRecovery.Proxy.Watch
import NetworkRecovery.Proxy.WatchLaws
import NetworkRecovery.Proxy.WatchRuns
import NetworkRecovery.Proxy.Replay
import NetworkRecovery.Proxy.ReplayLaws
import NetworkRecovery.Policy.Engine
import NetworkRecovery.Lib.HighWater
import NetworkRecovery.Policy.TierMachine
import NetworkRecovery.Guard.Evaluation
import NetworkRecovery.Guard.Loop
import NetworkRecovery.Guard.Rollback
import NetworkRecovery.Lib.Cells
import NetworkRecovery.Guard.Restore
import NetworkRecovery.Guard.Round
import NetworkRecovery.Guard.RateLimit
import NetworkRecovery.Drift.World
import NetworkRecovery.Drift.ProxyFix
import NetworkRecovery.Drift.Guardian
import NetworkRecovery.Drift.FixOutcome
import NetworkRecovery.Drift.AutoFix
import NetworkRecovery.Drift.EnsureHealth
import NetworkRecovery.Proof.ProxyHttps
import NetworkRecovery.Lib.SlidingWindow
import NetworkRecovery.Platform.Storage
import NetworkRecovery.Sre.EventStore
import NetworkRecovery.Sre.Writers
import NetworkRecovery.Sre.Incident
import NetworkRecovery.Fleet.Envelope
import NetworkRecovery.Fleet.Gateway
import NetworkRecovery.Lib.Ranking
import NetworkRecovery.Reliability.Event
import NetworkRecovery.Reliability.Decision
import NetworkRecovery.Reliability.DecisionLaws
import NetworkRecovery.Reliability.TimeTravel
import NetworkRecovery.Delivery.Processor
import NetworkRecovery.Stakeholder.Resolver
import NetworkRecovery.DecisionContext.Store
import NetworkRecovery.Toolkit.JsonlLogs
import NetworkRecovery.Correlation.RegistryTargets
import NetworkRecovery.Correlation.RegistryTexts
import NetworkRecovery.Correlation.Causation
import NetworkRecovery.Drift.ConnectionBlob
import NetworkRecovery.Backend.Usage
import NetworkRecovery.Backend.AuditService
import NetworkRecovery.Backend.EvidenceService
import NetworkRecovery.Lib.Paging
import NetworkRecovery.Backend.DecisionStore
import NetworkRecovery.Backend.DecisionStoreLaws
import NetworkRecovery.Lib.Collect
import NetworkRecovery.Toolkit.Migration
import NetworkRecovery.Lib.LastWriter
import NetworkRecovery.Guard.KnownGoodStore
import NetworkRecovery.Live.Snapshot
import NetworkRecovery.Python.Float
import NetworkRecovery.Live.Gates
import NetworkRecovery.Live.Report
import NetworkRecovery.Backend.ClassifierWorker
import NetworkRecovery.Backend.ClassifierLaws
import NetworkRecovery.Proxy.Loopback
import NetworkRecovery.Proxy.Normalized
import NetworkRecovery.Proxy.TransitionLaws
import NetworkRecovery.Proxy.ReverterLoop
import NetworkRecovery.Proxy.LoopSteps
import NetworkRecovery.Proxy.InlineDiagnosis
import NetworkRecovery.Guard.StopListener
import NetworkRecovery.Guard.TrustedPath
import NetworkRecovery.Proxy.SchemeLists
import NetworkRecovery.Drift.FixGate
import NetworkRecovery.Policy.Conflicts
import NetworkRecovery.Reliability.Accepted
import NetworkRecovery.Sre.FoldLaws
import NetworkRecovery.Reliability.Renormalized
import NetworkRecovery.Reliability.SafeMode
import NetworkRecovery.Lib.Gates
import NetworkRecovery.Lib.Recurrence
import NetworkRecovery.Timing.Windows
import NetworkRecovery.Timing.WindowLaws
import NetworkRecovery.Timing.Evaluator
import NetworkRecovery.Timing.EvaluatorLaws
import NetworkRecovery.Timing.Deferral
import NetworkRecovery.Timing.Membership
import NetworkRecovery.Guard.AllowList
import NetworkRecovery.Lib.FixedWidth
import NetworkRecovery.Timing.Calendar
import NetworkRecovery.Guard.FlipFlop
import NetworkRecovery.Drift.ListenerPid
import NetworkRecovery.Lib.Trails
import NetworkRecovery.Platform.RemediationAccounts
import NetworkRecovery.Platform.RemediationPolicy
import NetworkRecovery.Platform.RemediationRoutes
import NetworkRecovery.Platform.RemediationRuns
import NetworkRecovery.Platform.StateMachine
import NetworkRecovery.Platform.RecentReaders
import NetworkRecovery.Toolkit.IncidentSummary
import NetworkRecovery.Lib.Gaps
import NetworkRecovery.Python.Rounding
import NetworkRecovery.Platform.Incidents
import NetworkRecovery.Platform.IncidentBounds
import NetworkRecovery.Python.Substitution
import NetworkRecovery.Platform.Privacy
import NetworkRecovery.Platform.Redaction
import NetworkRecovery.Lib.BoundedQueue
import NetworkRecovery.Toolkit.EvidenceBuffer
import NetworkRecovery.Governance.Language
import NetworkRecovery.OpenClaw.PathPolicy
import NetworkRecovery.OpenClaw.BranchNames
import NetworkRecovery.DecisionEngine.Scoring
import NetworkRecovery.DecisionEngine.Ranking
import NetworkRecovery.DecisionEngine.ScoreLaws
import NetworkRecovery.DecisionEngine.EvidenceEffects
import NetworkRecovery.Governance.ProofTier
import NetworkRecovery.Backend.ApprovalFlags
import NetworkRecovery.Correlation.ProcessTree
import NetworkRecovery.Live.Contrast
import NetworkRecovery.Toolkit.RiskScoring
import NetworkRecovery.Toolkit.IncidentRisk
import NetworkRecovery.Toolkit.RiskMonotone
import NetworkRecovery.Lib.Grouping
import NetworkRecovery.Toolkit.IncidentClassifier
import NetworkRecovery.Lib.Streaks
import NetworkRecovery.Reliability.Resilience
import NetworkRecovery.Sre.FailureDomains
import NetworkRecovery.Fleet.DedupWindow
import NetworkRecovery.Fleet.HeartbeatStore
import NetworkRecovery.Platform.ContractAudit
import NetworkRecovery.Platform.DiagnosisRuns
import NetworkRecovery.Reasoning.Audit
import NetworkRecovery.Platform.IncidentStore
