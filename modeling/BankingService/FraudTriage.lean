import BankingService.FraudAlerts
import BankingService.ProposalSessions

/-! Fraud triage as a proposed action: its inputs, reviewed against the open alert, its payload,
prepared from the alert, and the workflow that a commit runs. -/
namespace BankingService

open Python Relational Checked

structure ReviewInputs where
  selectionStatus : String
  recognizedAuthorizationIds : List String
  recognizedTransactionIds : List String
  deriving DecidableEq

structure FraudInputs where
  fraudAlertId : String
  disputedAuthorizationIds : Option (List String)
  disputedTransactionIds : Option (List String)
  issueReplacement : Bool
  escalate : Bool
  review : Option ReviewInputs
  deriving DecidableEq

/-- `validate_inputs` against the public schema, which has every list. -/
def invalidPublicFraudInputs (i : FraudInputs) : Option String :=
  if i.review = none then some "Business inputs do not match the operation contract."
  else if i.disputedAuthorizationIds = none then
    some "Invalid business input: disputed_authorization_ids."
  else if i.disputedTransactionIds = none then
    some "Invalid business input: disputed_transaction_ids."
  else none

/-- `validate_inputs` against the operation's own schema. -/
def invalidFraudInputs (i : FraudInputs) : Option String :=
  if i.review = none then none else some "Business inputs do not match the operation contract."

/-- The selection that the customer reviewed is complete for the latest open alert. -/
def publicFraudInputs (db : Db) (identity : String) (i : FraudInputs) :
    Except ServiceError FraudInputs := do
  let review ← orRaise i.review (.python .keyError)
  let reviewed ← raised rejected
    (reviewOpenAlertSelection (getLatestOpenAlertForCustomer db identity)
      ⟨i.fraudAlertId, review.selectionStatus, i.disputedAuthorizationIds.getD [],
        i.disputedTransactionIds.getD [], review.recognizedAuthorizationIds,
        review.recognizedTransactionIds⟩)
  require (reviewed.readyToPropose = true) (rejected "Complete the fraud selection first.")
  return { i with review := none }

def fraudBusinessInputs (i : FraudInputs) : FraudInputs :=
  { i with
    disputedAuthorizationIds := some (normalizedIds (i.disputedAuthorizationIds.getD [])),
    disputedTransactionIds := some (normalizedIds (i.disputedTransactionIds.getD [])) }

theorem publicFraudInputs_eq {db : Db} {identity : String} {i n : FraudInputs}
    (h : publicFraudInputs db identity i = .ok n) : n = { i with review := none } := by
  simp only [publicFraudInputs, bind_eq_ok, pure_eq_ok] at h
  obtain ⟨_, -, _, -, _, -, rfl⟩ := h
  rfl

structure FraudFact where
  authorizationId : Option String
  transactionId : Option String
  money : Money
  billingMoney : Money
  deriving DecidableEq

/-- The posting that an item names, and the authorization that it belongs to. -/
def factSources (db : Db) (account : CreditAccount) (item : SuspiciousTransaction) :
    Except PyException (Option TransactionAuthorization × Option PostedTransaction) :=
  match truthy item.transactionId, truthy item.authorizationId with
  | some transactionId, _ => do
    let id ← uuidParam transactionId
    let posted ← orRaise (getLedgerEntryByIdForAccount db id account.id)
      (.valueError "Fraud posting is unavailable for this account")
    return (posted.authorizationId.bind db.authorizations.get?, some posted)
  | none, some authorizationId => do
    let id ← uuidParam authorizationId
    let hold ← orRaise (getAuthorizationByIdForAccount db id account.id)
      (.valueError "Fraud authorization is unavailable for this account")
    return (some hold, none)
  | none, none => .error
    (.valueError "Fraud monetary facts require an authoritative transaction reference")

def fraudMoneyFact (db : Db) (account : CreditAccount) (item : SuspiciousTransaction) :
    Except PyException FraudFact := do
  let sources ← factSources db account item
  let billing ← (match sources with
    | (_, some posted) => Money.new |posted.amountCents| account.currency
    | (some hold, none) => Money.ofText hold.billingAmountCents hold.billingCurrency
    | (none, none) => .error .attributeError)
  require (billing.currencyCode = account.currency)
    (.valueError "Fraud billing currency does not match the account")
  let original ← (match sources.1 with
    | some hold => Money.ofText hold.transactionAmountCents hold.transactionCurrency
    | none => .ok billing)
  return ⟨item.authorizationId, item.transactionId, original, billing⟩

def fraudMoneyFacts (db : Db) (alert : FraudAlert) : Except PyException (List FraudFact) := do
  let account ← requireFraudAccount alert (db.creditAccounts.get? alert.creditAccountId)
  alert.suspiciousTransactions.mapM (fraudMoneyFact db account)

structure FraudPayload where
  moneyFacts : List FraudFact
  cardLastFour : String
  fraudAlertId : String
  disputedAuthorizationIds : List String
  disputedTransactionIds : List String
  issueReplacement : Bool
  escalate : Bool
  deriving DecidableEq

def fraudScopeError (message : String) : ServiceError := .proposal (.scopeMismatch message none)

/-- `prepare_fraud`; `summary` is the text that the payload is read out as. -/
def prepareFraud (summary : FraudPayload → String) (db : Db) (i : FraudInputs)
    (context : PreparationContext) : Except ServiceError (Option Uuid × FraudPayload × String) := do
  let id ← raised .python (uuidParam i.fraudAlertId)
  let alert ← orRaise
    ((db.fraudAlerts.get? id).filter fun a => a.customerId = context.scope.customerId)
    (fraudScopeError "Fraud alert was not found for this customer.")
  require (alert.status = .isOpen) (rejected "Fraud alert is no longer open.")
  let authorizationIds := normalizedIds (i.disputedAuthorizationIds.getD [])
  let transactionIds := normalizedIds (i.disputedTransactionIds.getD [])
  let unexpected := unexpectedIds authorizationIds alert.suspiciousAuthorizationIds
  require (unexpected = [])
    (fraudScopeError
      ("Authorization ids are not part of this fraud alert: " ++ join ", " unexpected))
  let unexpected := unexpectedIds transactionIds alert.transactionIds
  require (unexpected = [])
    (fraudScopeError ("Transaction ids are not part of this fraud alert: " ++ join ", " unexpected))
  let facts ← raised .python (fraudMoneyFacts db alert)
  let disputed := facts.filter fun fact =>
    fact.authorizationId.getD "None" ∈ authorizationIds ∨
      fact.transactionId.getD "None" ∈ transactionIds
  let payload : FraudPayload :=
    ⟨disputed, alert.cardLastFour, alert.id.str, authorizationIds, transactionIds,
      i.issueReplacement, i.escalate⟩
  return (some alert.creditAccountId, payload, summary payload)

abbrev FraudProposal := ActionProposal (BoundPayload FraudPayload) (Option CaseResult)

def fraudWorkflowKey (p : FraudProposal) : String :=
  "proposal:" ++ p.id.str ++ ":" ++ String.ofList (p.payloadFingerprint.toList.take 48)

def fraudLockedAlert (db : Db) (p : FraudProposal) : Except ServiceError (Option FraudAlert) := do
  let id ← raised .python (uuidParam p.actionPayload.facts.fraudAlertId)
  return (db.fraudAlerts.get? id).filter fun a =>
    a.customerId = p.scope.customerId ∧ p.accountId = some a.creditAccountId

def fraudValidateCurrentPreconditions (db : Db) (p : FraudProposal) : Except ServiceError Unit := do
  let alert ← fraudLockedAlert db p
  let _ ← orRaise (alert.filter fun a => a.status = .isOpen)
    (.proposal (.preconditionChanged
      "Fraud alert is no longer open; create a new proposal from current state."
      "FRAUD_ALERT_NO_LONGER_OPEN"))
  return ()

def fraudTriageRequest (p : FraudProposal) (alert : FraudAlert) : TriageRequest :=
  let payload := p.actionPayload.facts
  { authProviderUid := alert.authProviderUid, fraudAlertId := alert.id.str,
    disputedAuthorizationIds := payload.disputedAuthorizationIds,
    disputedTransactionIds := payload.disputedTransactionIds,
    issueReplacement := payload.issueReplacement, escalate := payload.escalate,
    idempotencyKey := some (fraudWorkflowKey p) }

def fraudExecute (sha256 : String → String) (env : Uuid → Ambient) (db : Db) (p : FraudProposal) :
    Except ServiceError (Db × Option CaseResult) := do
  let alert ← orRaise (← fraudLockedAlert db p) (.python .attributeError)
  raised .python (triageFraudCase sha256 db (env p.id) (fraudTriageRequest p alert))

/-- The result of a workflow that succeeded under the proposal's key. -/
def fraudReconcile (db : Db) (p : FraudProposal) :
    Except ServiceError (Option (Option CaseResult)) := do
  if p.actionPayload.facts.fraudAlertId = "" then return none
  let id ← raised .python (uuidParam p.actionPayload.facts.fraudAlertId)
  return (getSucceededAction db id (fraudWorkflowKey p)).map fun action => some action.resultPayload

/-- `env` is what the commit of each proposal draws. -/
def fraudHandler (sha256 : String → String) (env : Uuid → Ambient) :
    TypedActionHandler Db (BoundPayload FraudPayload) (Option CaseResult) where
  commitPendingMessage _ := "Fraud proposal commit is already in progress."
  reconcile := fraudReconcile
  validateCurrentPreconditions := fraudValidateCurrentPreconditions
  recordCommitStarted db _ := .ok db
  execute := fraudExecute sha256 env
  recordCommitted db _ _ := .ok db
  recordReconciled db _ _ := .ok db

def fraudSpecification (sha256 : String → String) (env : Uuid → Ambient) (revision : ℕ)
    (digest : String) :
    ActionSpecification Db (BoundPayload FraudPayload) (Option CaseResult) where
  definitionId := "fraud-triage"
  definitionRevision := revision
  definitionDigest := digest
  actionType := "TRIAGE_FRAUD_CASE"
  contractVersion := "fraud-triage.v1"
  authorizationPolicy := GENERAL_ACKNOWLEDGMENT_POLICY
  presentationRequirement :=
    ⟨["card_last_four", "proposed_disposition", "replacement_and_escalation_consequences",
      "reviewed_activity_selection"], false⟩
  invalidPayload _ := none
  invalidResult _ := none
  handler := fraudHandler sha256 env

def fraudOperation (summary : FraudPayload → String) :
    ProposalOperation Db FraudPayload FraudInputs where
  invalidPublicInputs := invalidPublicFraudInputs
  normalizePublicInputs := publicFraudInputs
  invalidInputs := invalidFraudInputs
  normalizeBusinessInputs := fraudBusinessInputs
  prepare := prepareFraud summary

def fraudHold : TransactionAuthorization :=
  { id := .ofNat 20, cardId := .ofNat 2, accountId := .ofNat 1, transactionAmountCents := 4000,
    transactionCurrency := "USD", billingAmountCents := 4000, billingCurrency := "USD",
    status := .flagged, declineReason := "", authCode := "000020",
    retrievalReferenceNumber := "rrn-20", cardNetwork := "VISA", merchantCategoryCode := "5411",
    merchantName := some "Merchant", fraudRiskScore := some 90, createdAt := 0, expiresAt := 900 }

def fraudAccount : CreditAccount :=
  { id := .ofNat 1, customerId := .ofNat 7, productCode := "CARD", status := .active,
    creditLimitCents := 100000, clearedBalanceCents := 0, availableCreditCents := 96000,
    currency := .usd, lastLimitIncreaseAt := none }

def fraudCard : IssuedCard :=
  { id := .ofNat 2, accountId := .ofNat 1, cardholderName := "Customer", cardToken := "token-2",
    lastFour := "4242", isActive := true, expMonth := 1, expYear := 2030, status := .active,
    isVirtual := false }

def fraudAlert : FraudAlert :=
  { id := .ofNat 30, customerId := .ofNat 7, authProviderUid := "customer-7",
    creditAccountId := .ofNat 1, cardId := .ofNat 2, cardLastFour := "4242", status := .isOpen,
    source := "MODEL_DETECTED_FRAUD", messageThreadId := "thread-30",
    suspiciousAuthorizationIds := [(Uuid.ofNat 20).str],
    suspiciousTransactions := [⟨some (Uuid.ofNat 20).str, none⟩],
    remediationStatus := "NOT_STARTED", triagedAt := none,
    selectedDisputedAuthorizationIds := [], selectedDisputedTransactionIds := [],
    provisionalCreditCents := 0, replacementCardId := none, createdAt := 1, resolvedAt := none }

def fraudDb : Db :=
  { Db.empty with
    users := .single ⟨.ofNat 7, "customer-7", none⟩
    creditAccounts := ⟨[fraudAccount], List.pairwise_singleton _ _⟩
    issuedCards := ⟨[fraudCard], List.pairwise_singleton _ _⟩
    authorizations := ⟨[fraudHold], List.pairwise_singleton _ _⟩
    fraudAlerts := ⟨[fraudAlert], List.pairwise_singleton _ _⟩ }

def fraudDigests : ProposalDigests (BoundPayload FraudPayload) (Option CaseResult) :=
  ⟨fun s => "sha256:" ++ s, fun s => "uuid5:" ++ s,
    fun p => p.facts.fraudAlertId ++ p.businessInputFingerprint,
    fun s => .ok ("snapshot:" ++ s.stage.value)⟩

def recognizedSummary (p : FraudPayload) : String :=
  "Recognize all reviewed activity on card ending in " ++ p.cardLastFour ++ "."

def fraudCatalog : ProposalCatalog Db FraudPayload (Option CaseResult) FraudInputs :=
  let specification := fraudSpecification fraudDigests.sha256 (fun _ => .seeded 1) 2 "digest-2"
  ⟨⟨[specification], [specification]⟩, fun _ => fraudOperation recognizedSummary,
    fun i => i.fraudAlertId, fun _ => none, fun _ _ => some (2, "digest-2")⟩

def recognizedInputs : FraudInputs :=
  ⟨(Uuid.ofNat 30).str, some [], some [], false, false,
    some ⟨"COMPLETE", [(Uuid.ofNat 20).str], []⟩⟩

def fraudRequest (now : Timestamp) (context : ProposalRuntimeContext)
    (operation : ServiceOperation FraudInputs) :
    ServiceCall Db FraudPayload (Option CaseResult) FraudInputs :=
  ⟨"customer-7", context, operation, fraudCatalog, .at_ now, .ofNat 40, .ofNat 41⟩

def fraudPreparation : ServiceCall Db FraudPayload (Option CaseResult) FraudInputs :=
  fraudRequest 1 (askedOn "turn-1")
    (.preparePlaybook "fraud-triage" 2 "digest-2" recognizedInputs "key-1")

def fraudCommit : ServiceCall Db FraudPayload (Option CaseResult) FraudInputs :=
  fraudRequest 2 (acceptedOn "turn-2" "turn-3") (.commit (.ofNat 40) none)

def fraudStore : ProposalDb Db (BoundPayload FraudPayload) (Option CaseResult) :=
  { bank := fraudDb, users := fraudDb.users, proposals := .empty, outbox := .empty }

end BankingService
