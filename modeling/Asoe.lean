import Asoe.Lib.PyFloat
import Asoe.Lib.PyValue
import Asoe.Lib.PyText
import Asoe.Lib.PyArith
import Asoe.Lib.Prog
import Asoe.Lib.Runs
import Asoe.Lib.AtMostOnce
import Asoe.Lib.Replay
import Asoe.Lib.Flow
import Asoe.Lib.Sha256
import Asoe.Lib.PyJson
import Asoe.Lib.HashChain
import Asoe.Lib.Interleaving
import Asoe.Contracts
import Asoe.Recipes
import Asoe.FallbackBackend
import Asoe.Outbox
import Asoe.Graph
import Asoe.Records
import Asoe.Resolve
import Asoe.Exceptions
import Asoe.GraphRun
import Asoe.Topology
import Asoe.NodeWrites
import Asoe.Retries
import Asoe.Transitions
import Asoe.Parking
import Asoe.ErpSubmit
import Asoe.SubmitOutcome
import Asoe.ReplyDraft
import Asoe.ReplySend
import Asoe.Reanalysis
import Asoe.AuditReplay
import Asoe.Idempotency
import Asoe.ShadowGate
import Asoe.CaseAgentShadow
import Asoe.AgentRuns
import Asoe.Backfill
import Asoe.BackfillRuns
import Asoe.CompactionCap
import Asoe.Failures
import Asoe.VerdictTrace
import Asoe.PriceRecipes
import Asoe.MatchRecipes
import Asoe.QuantityRecipes
import Asoe.RegisteredRecipes
import Asoe.HumanRequests
import Asoe.RecipeChoice
import Asoe.IntakeGate
import Asoe.UndirectedRuns
import Asoe.EffectGuard
import Asoe.CaseStore
import Asoe.DatabasePersistence
import Asoe.FailedInserts
import Asoe.ReplyCalls
import Asoe.AuditChain
import Asoe.AuditTable
import Asoe.ConcurrentAppends
import Asoe.CaseWrites
import Asoe.CaseOverrides
import Asoe.TriageBlocks
import Asoe.CaseStatuses
import Asoe.Lib.KeyIndex
import Asoe.CaseStores
import Asoe.CorrelationKeys
import Asoe.ConcurrentIntake
import Asoe.CaseUpdates
import Asoe.Reclassifications
import Asoe.Inheritance
import Asoe.Lib.Paging
import Asoe.Lib.LivePaging
import Asoe.ExceptionPages
import Asoe.LivePages
import Asoe.Lib.ReadThrough
import Asoe.CaseIntents
import Asoe.CaseLocks
import Asoe.Compaction
import Asoe.Harness
import Asoe.ReplayLogs
import Asoe.CaseMemories
import Asoe.CaseTiers
import Asoe.AgentOutcomes
import Asoe.Lib.Grouping
import Asoe.CaseMerges
import Asoe.MergeBackends
import Asoe.ConcurrentReanalyses
import Asoe.OutboxBackends
import Asoe.Lib.PyJsonRead
import Asoe.Lib.Base64
import Asoe.Tokens
import Asoe.IssuedTokens
import Asoe.TokenEnvironments
import Asoe.Lib.TableLog
import Asoe.ConfigRoutes
import Asoe.ConfigReplay
import Asoe.Lib.Journal
import Asoe.Attachments
import Asoe.Erasures
import Asoe.Lib.Mirror
import Asoe.AttachmentBackends
import Asoe.AttachmentParity
import Asoe.Lib.NewestFirst
import Asoe.ErasureCertificates
import Asoe.DuplicateEnvelopes
import Asoe.HumanActions
import Asoe.HumanActionRuns
import Asoe.EnvelopeTrails
import Asoe.Lib.Tails
import Asoe.EventHub
import Asoe.LiveRouters
import Asoe.Lib.Gathering
import Asoe.DependencyOrder
import Asoe.Workflows
import Asoe.Lib.Traverse
import Asoe.Lib.DecimalRounding
import Asoe.Lib.FloatOrder
import Asoe.Lib.FloatRounding
import Asoe.SeverityAgreement
import Asoe.GreenVerdicts
import Asoe.Exact.PalletAlignment
import Asoe.DuplicateContract
import Asoe.Exact.DuplicateScore
import Asoe.DuplicateMonotone
import Asoe.Lib.Layers
import Asoe.TenantConfigs
import Asoe.Exact.OverMaxTrim
import Asoe.Breakers
import Asoe.OutboxWorkers
import Asoe.ShadowVerdicts
import Asoe.Lib.Amendments
import Asoe.SubmitAudit
import Asoe.Lib.StableSort
import Asoe.Lib.FloatMonotone
import Asoe.BackOrderRanking
import Asoe.FloorChecks
import Asoe.ChangeAnalysis
import Asoe.ChangeDecisions
import Asoe.VerdictGates
import Asoe.AnalysisAdapters
import Asoe.SummaryTemplates
import Asoe.CaseSummary
import Asoe.ReplyRevisions
import Asoe.Lib.Halting
import Asoe.CaseAgent
import Asoe.AgentRuns
import Asoe.Backfill
import Asoe.BackfillRuns
import Asoe.CompactionCap
import Asoe.CaseEndpoints
import Asoe.UnseenAmounts
import Asoe.AmountSecrecy
import Asoe.Lib.Occurrences
import Asoe.Sanitizer
import Asoe.Fences
import Asoe.Lib.PyJsonCompact
import Asoe.ReadTokens
import Asoe.Lib.Delimited
import Asoe.Lib.Crc32
import Asoe.Lib.DecimalText
import Asoe.Lib.FloatSums
import Asoe.Lib.Cents
import Asoe.Lib.Distinct
import Asoe.Lib.Memo
import Asoe.Edi850
import Asoe.Edi850Views
import Asoe.Edi850ReadBack
import Asoe.Edi850Numbers
import Asoe.EvidenceAnchors
import Asoe.DocumentExtraction
import Asoe.ExtractionReplays
import Asoe.AnchorProjection
import Asoe.AnchorKeys
import Asoe.ImpactMetrics
import Asoe.LineItemRows
import Asoe.EgressRedaction
import Asoe.EgressPasses
import Asoe.RedactionRuns
import Asoe.WorkflowSagas
import Asoe.Lib.Wheel
import Asoe.KnowledgeGraph
import Asoe.Lib.FloatExact
import Asoe.RootCause
import Asoe.HeadlinePercents
import Asoe.EmailSupergroups
import Asoe.LiveRecords
import Asoe.Precedents
import Asoe.FreshPrecedents
import Asoe.PrecedentRuns
import Asoe.PromptMessages
import Asoe.RemoteBackend
import Asoe.RemoteCalls
import Asoe.RecordRuns
