import BankingService.AcceptedPayments
import BankingService.Accounts
import BankingService.AgentCalls
import BankingService.AgentEffects
import BankingService.AttestedDecisions
import BankingService.Audit
import BankingService.AuditPipeline
import BankingService.AuditRelay
import BankingService.AutoPaydown
import BankingService.AvailableCredit
import BankingService.CanceledEvents
import BankingService.CardNetwork
import BankingService.CardPostings
import BankingService.CarriedDecisions
import BankingService.CesCallbacks
import BankingService.CesEvidence
import BankingService.ChangeRequests
import BankingService.ClosedAlerts
import BankingService.CloseoutHandoffs
import BankingService.CommittedOnce
import BankingService.ConfirmedActions
import BankingService.CorpusRoundTrips
import BankingService.CreditCardRepository
import BankingService.CreditCardServicing
import BankingService.CreditNegotiations
import BankingService.Decisioning
import BankingService.DepositHistory
import BankingService.DepositLedger
import BankingService.DuplicateHolds
import BankingService.EvidenceSnapshots
import BankingService.EvidenceTrail
import BankingService.FinancialJournal
import BankingService.ForeignProposals
import BankingService.FraudAlerts
import BankingService.FraudRepository
import BankingService.FraudTriage
import BankingService.GroundedSearches
import BankingService.HistoricalEvents
import BankingService.HistoricalJournal
import BankingService.HistoricalPostings
import BankingService.HoldOutcomes
import BankingService.JournalIntegrity
import BankingService.KeyRotation
import BankingService.LanguageChanges
import BankingService.Ledger
import BankingService.Library.Allocation
import BankingService.Library.Checked
import BankingService.Library.ClampedCache
import BankingService.Library.Dict
import BankingService.Library.Expiring
import BankingService.Library.IsoTime
import BankingService.Library.Json
import BankingService.Library.JsonFields
import BankingService.Library.Mirror
import BankingService.Library.ReadCommitted
import BankingService.Library.Runs
import BankingService.Library.Since
import BankingService.Library.Table
import BankingService.Library.Validated
import BankingService.MemoryPlaybooks
import BankingService.Money
import BankingService.MoneyReconciliation
import BankingService.Operations
import BankingService.OutboxRelay
import BankingService.OverriddenDecisions
import BankingService.ParsedEvents
import BankingService.PipelineContract
import BankingService.PlaybookDiff
import BankingService.PlaybookHistory
import BankingService.PlaybookSessions
import BankingService.PlaybookTwins
import BankingService.PlaybookWrites
import BankingService.Playbooks
import BankingService.PresentationTurns
import BankingService.ProposalAudit
import BankingService.ProposalCalls
import BankingService.ProposalCreations
import BankingService.ProposalEngine
import BankingService.ProposalEvidence
import BankingService.ProposalLifecycle
import BankingService.ProposalProtocol
import BankingService.ProposalService
import BankingService.ProposalSessions
import BankingService.ProposalStatusOrder
import BankingService.ProposalSteps
import BankingService.PulseAdmissions
import BankingService.PulseRuns
import BankingService.Python
import BankingService.PythonValues
import BankingService.RealtimeBalance
import BankingService.RefundedDebits
import BankingService.RemediatedOnce
import BankingService.Remediation
import BankingService.ReplayedAuthorizations
import BankingService.RepositoryCalls
import BankingService.ResetGenerations
import BankingService.RetriedPreparations
import BankingService.RuntimeHeaders
import BankingService.ScheduledEvents
import BankingService.Schema
import BankingService.ScopedTriage
import BankingService.SerializedCalls
import BankingService.SessionCapabilities
import BankingService.SessionCapacity
import BankingService.SessionStore
import BankingService.Sessions
import BankingService.ShownAmounts
import BankingService.TierCaps
import BankingService.TieredDecisions
import BankingService.ToolGate
import BankingService.TwinReads
import BankingService.TwinRuns
import BankingService.TwinWrites
import BankingService.UncertainCommits
import BankingService.Underwriting
import BankingService.UnresolvedCommits
import BankingService.VoiceDelivery
import BankingService.WorkflowAuthorization
