import BankingService.CreditCardServicing

/-! The fraud triage workflow and the review of a customer's selection that precedes it. -/
namespace BankingService

open Python Relational Checked

structure FraudSelection where
  fraudAlertId : String
  selectionStatus : String
  disputedAuthorizationIds : List String
  disputedTransactionIds : List String
  recognizedAuthorizationIds : List String
  recognizedTransactionIds : List String
  deriving DecidableEq

def normalizedIds (values : List String) : List String :=
  (((values.map strip).filter fun v => v ≠ "").dedup).insertionSort (· ≤ ·)

def FraudAlert.transactionIds (a : FraudAlert) : List String :=
  a.suspiciousTransactions.filterMap fun item => item.transactionId.filter fun t => t ≠ ""

structure SelectionReview where
  fraudAlertId : Uuid
  selectionStatus : String
  disputedAuthorizationIds : List String
  disputedTransactionIds : List String
  recognizedAuthorizationIds : List String
  recognizedTransactionIds : List String
  deriving DecidableEq

def SelectionReview.readyToPropose (r : SelectionReview) : Bool :=
  decide (r.selectionStatus = "COMPLETE")

/-- The two lists together hold exactly the allowed ids. -/
def covers (allowed disputed recognized : List String) : Prop :=
  (∀ id ∈ allowed, id ∈ disputed ∨ id ∈ recognized) ∧
    ∀ id, id ∈ disputed ∨ id ∈ recognized → id ∈ allowed

instance (allowed disputed recognized : List String) :
    Decidable (covers allowed disputed recognized) :=
  decidable_of_iff
    ((∀ id ∈ allowed, id ∈ disputed ∨ id ∈ recognized) ∧
      (∀ id ∈ disputed, id ∈ allowed) ∧ ∀ id ∈ recognized, id ∈ allowed) (by
    unfold covers
    refine and_congr_right fun _ => ⟨?_, ?_⟩
    · rintro ⟨hd, hr⟩ id (h | h)
      · exact hd id h
      · exact hr id h
    · exact fun h => ⟨fun id hd => h id (Or.inl hd), fun id hr => h id (Or.inr hr)⟩)

/-- `review_open_alert_selection` on the customer's latest open alert. The error is the message
of a failed review. -/
def reviewOpenAlertSelection (alert : Option FraudAlert) (s : FraudSelection) :
    Except String SelectionReview := do
  let alert ← orRaise (alert.filter fun a => a.id.str = strip s.fraudAlertId)
    "The selected fraud alert is not open for this customer."
  let status := upper (strip s.selectionStatus)
  require (status = "UNCERTAIN" ∨ status = "PARTIAL" ∨ status = "COMPLETE")
    "Selection status must be UNCERTAIN, PARTIAL, or COMPLETE."
  let disputedAuthorizations := normalizedIds s.disputedAuthorizationIds
  let disputedTransactions := normalizedIds s.disputedTransactionIds
  let recognizedAuthorizations := normalizedIds s.recognizedAuthorizationIds
  let recognizedTransactions := normalizedIds s.recognizedTransactionIds
  let allowedAuthorizations := alert.suspiciousAuthorizationIds
  let allowedTransactions := alert.transactionIds
  require ((∀ id ∈ disputedAuthorizations, id ∉ recognizedAuthorizations) ∧
      ∀ id ∈ disputedTransactions, id ∉ recognizedTransactions)
    "The same activity cannot be both recognized and disputed."
  require ((∀ id ∈ disputedAuthorizations ++ recognizedAuthorizations, id ∈ allowedAuthorizations) ∧
      ∀ id ∈ disputedTransactions ++ recognizedTransactions, id ∈ allowedTransactions)
    "The selection contains activity outside the open fraud alert."
  let complete := decide
    (covers allowedAuthorizations disputedAuthorizations recognizedAuthorizations ∧
      covers allowedTransactions disputedTransactions recognizedTransactions)
  require (status = "COMPLETE" → complete = true)
    "Every flagged item must be recognized or disputed before proposing an action."
  return ⟨alert.id, if complete then "COMPLETE" else status, disputedAuthorizations,
    disputedTransactions, recognizedAuthorizations, recognizedTransactions⟩

structure TriageRequest where
  authProviderUid : String
  fraudAlertId : String
  disputedAuthorizationIds : List String
  disputedTransactionIds : List String
  issueReplacement : Bool
  escalate : Bool
  idempotencyKey : Option String

def requireFraudAccount (alert : FraudAlert) (account : Option CreditAccount) :
    Except PyException CreditAccount :=
  orRaise (account.filter fun a => a.customerId = alert.customerId)
    (.valueError "Fraud account ownership cannot be verified")

/-- `",".join(sorted(ids)) or "none"`. -/
def keyPart (ids : List String) : String :=
  let part := join "," (ids.insertionSort (· ≤ ·))
  if part = "" then "none" else part

def buildTriageIdempotencyKey (sha256 : String → String) (r : TriageRequest) : String :=
  let replacementPart := if r.issueReplacement then "replace" else "no-replace"
  let escalationPart := if r.escalate then "escalate" else "no-escalate"
  let keyMaterial :=
    keyPart r.disputedAuthorizationIds ++ ":" ++ keyPart r.disputedTransactionIds ++
    ":" ++ replacementPart ++ ":" ++ escalationPart
  "triage:" ++ String.ofList ((sha256 keyMaterial).toList.take 32) ++ ":" ++ replacementPart ++
    ":" ++ escalationPart

def workflowKey (sha256 : String → String) (r : TriageRequest) : String :=
  match r.idempotencyKey with
  | some key => if key = "" then buildTriageIdempotencyKey sha256 r else key
  | none => buildTriageIdempotencyKey sha256 r

/-- Re-reads a stored workflow result in the account's currency. What another action left under the
key has no such lists and is returned as it is. -/
def normalizeWorkflow (payload : CaseResult) (currency : CurrencyCode) :
    Except PyException CaseResult :=
  match payload with
  | .triaged r => do
    let voided ← r.voidedAuthorizations.mapM fun v => normalizeVoid (.voided v) currency
    let credits ← r.provisionalCredits.mapM fun c => normalizeCredit (.credited c) currency
    return .triaged { r with voidedAuthorizations := voided, provisionalCredits := credits }
  | other => .ok other

def unexpectedIds (ids allowed : List String) : List String :=
  ((ids.filter fun id => id ∉ allowed).dedup).insertionSort (· ≤ ·)

/-- Disputed ids must be on the alert; an alert without authorizations allows any of them. -/
def checkScope (alert : FraudAlert) (r : TriageRequest) : Except PyException Unit := do
  let unexpected := unexpectedIds r.disputedAuthorizationIds alert.suspiciousAuthorizationIds
  require (alert.suspiciousAuthorizationIds = [] ∨ unexpected = [])
    (.valueError ("Authorization ids are not part of this fraud alert: " ++ join ", " unexpected))
  let unexpectedTransactions := unexpectedIds r.disputedTransactionIds alert.transactionIds
  require (unexpectedTransactions = [])
    (.valueError ("Transaction ids are not part of this fraud alert: " ++
      join ", " unexpectedTransactions))

/-- The voids of one triage, one after another on the session's account. -/
def voidAll (db : Db) (env : Ambient) (account : CreditAccount) (fraudAlertId : Uuid) :
    List String → Except PyException (Db × CreditAccount × List VoidResult)
  | [] => .ok (db, account, [])
  | id :: ids => do
    let (db, account, result) ←
      voidFraudAuthorizationHold db (env.part 0) account id fraudAlertId
    let (db, account, results) ← voidAll db (env.part 1) account fraudAlertId ids
    return (db, account, result :: results)

def creditAll (db : Db) (env : Ambient) (account : CreditAccount) (fraudAlertId : Uuid) :
    List String → Except PyException (Db × CreditAccount × List ProvisionalCreditResult)
  | [] => .ok (db, account, [])
  | id :: ids => do
    let (db, account, result) ←
      applyFraudProvisionalCredit db (env.part 0) account id fraudAlertId
    let (db, account, results) ← creditAll db (env.part 1) account fraudAlertId ids
    return (db, account, result :: results)

def setAlertStatus (db : Db) (alertId : Uuid) (status : AlertStatus)
    (resolvedAt : Option Timestamp) :
    Db :=
  { db with
    fraudAlerts := db.fraudAlerts.update alertId fun a =>
      { a with status := status, resolvedAt := resolvedAt.or a.resolvedAt } }

def resolveAlert (db : Db) (env : Ambient) (alertId : Uuid) (status : AlertStatus) : Db :=
  setAlertStatus db alertId status (some env.now)

def markTriaged (db : Db) (env : Ambient) (alertId : Uuid) (remediationStatus : String)
    (disputedAuthorizationIds disputedTransactionIds : List String) (provisionalCreditCents : ℤ)
    (replacementCardId : Option Uuid) : Db :=
  { db with
    fraudAlerts := db.fraudAlerts.update alertId fun a =>
      { a with
        remediationStatus := remediationStatus, triagedAt := some env.now,
        selectedDisputedAuthorizationIds := disputedAuthorizationIds,
        selectedDisputedTransactionIds := disputedTransactionIds,
        provisionalCreditCents := provisionalCreditCents,
        replacementCardId := replacementCardId.or a.replacementCardId } }

def triageEvent (alert : FraudAlert) (outcome : String) : List (String × JsonValue) :=
  [("fraud_alert_id", .text alert.id.str), ("customer_id", .text alert.customerId.str),
    ("credit_account_id", .text alert.creditAccountId.str), ("card_id", .text alert.cardId.str),
    ("outcome", .text outcome)]

def recordTriageMessage (db : Db) (env : Ambient) (alert : FraudAlert) (messageId : Uuid) :
    Except PyException Db :=
  recordAudit db env "FRAUD_TRIAGE_MESSAGE_SENT"
    [("fraud_alert_id", .text alert.id.str), ("customer_id", .text alert.customerId.str),
      ("thread_id", .text alert.messageThreadId), ("message_id", .text messageId.str)]

/-- The customer recognized everything: the alert is resolved. The message goes to the identity of
the call, which is that of the alert or empty, and then to the customer of the thread. -/
def resolveRecognized (db : Db) (env : Ambient) (alert : FraudAlert) :
    Except PyException (Db × TriageResult) := do
  let db := resolveAlert db env alert.id (.resolved "CUSTOMER_RECOGNIZED")
  let db ← sendSecureMessage db (env.part 0) alert.authProviderUid alert.messageThreadId
  let db := markTriaged db env alert.id "CUSTOMER_RECOGNIZED" [] [] 0 none
  let db ← recordAudit db (env.part 1) "FRAUD_ALERT_RESOLVED"
    (triageEvent alert "CUSTOMER_RECOGNIZED")
  let db ← recordAudit db (env.part 2) "FRAUD_CASE_TRIAGED"
    (triageEvent alert "CUSTOMER_RECOGNIZED")
  let db ← recordTriageMessage db (env.part 3) alert ((env.part 0).uuid4 1)
  return (db, ⟨"CUSTOMER_RECOGNIZED", [], [], none, false⟩)

def replaceIfAsked (db : Db) (env : Ambient) (alert : FraudAlert) (issueReplacement : Bool) :
    Except PyException (Db × Option Uuid) :=
  if issueReplacement then do
    let (db, replacement) ← issueReplacementCard db env alert.creditAccountId
      "CUSTOMER_FRAUD_REISSUE" true (some alert.id) (some alert.cardId)
    return (db, some replacement.newCardId)
  else .ok (db, none)

def remediateDisputes (db : Db) (env : Ambient) (r : TriageRequest) (alert : FraudAlert)
    (account : CreditAccount) : Except PyException (Db × TriageResult) := do
  let (db, account, voided) ←
    voidAll db (env.part 0) account alert.id r.disputedAuthorizationIds
  let (db, account, credits) ←
    creditAll db (env.part 1) account alert.id r.disputedTransactionIds
  let (db, replacementCardId) ← replaceIfAsked db (env.part 2) alert r.issueReplacement
  let creditTotal := (credits.map fun c => c.creditedAmount.amountMinor).sum
  let voidTotal := (voided.map fun v => v.voidedAmount.amountMinor).sum
  let remediationStatus := if r.escalate then "ESCALATED" else "PENDING_SPECIALIST_REVIEW"
  let db ← sendSecureMessage db (env.part 3) alert.authProviderUid alert.messageThreadId
  let db := markTriaged db env alert.id remediationStatus r.disputedAuthorizationIds
    r.disputedTransactionIds creditTotal replacementCardId
  let db := setAlertStatus db alert.id .triagedPendingReview none
  let voidedMoney ← Money.new voidTotal account.currency
  let creditMoney ← Money.new creditTotal account.currency
  let db ← recordAudit db (env.part 4) "FRAUD_CASE_TRIAGED"
    (triageEvent alert remediationStatus ++
      [("disputed_authorization_ids", .texts r.disputedAuthorizationIds),
        ("disputed_transaction_ids", .texts r.disputedTransactionIds),
        ("voided_authorizations", .money voidedMoney), ("provisional_credit", .money creditMoney),
        ("replacement_card_id",
          (replacementCardId.map fun id => JsonValue.text id.str).getD .null),
        ("escalated", .bool r.escalate)])
  let db ← recordTriageMessage db (env.part 5) alert ((env.part 3).uuid4 1)
  return (db, ⟨remediationStatus, voided, credits, replacementCardId, r.escalate⟩)

def TriageRequest.hasDisputes (r : TriageRequest) : Bool :=
  !r.disputedAuthorizationIds.isEmpty || !r.disputedTransactionIds.isEmpty

/-- `_triage_fraud_case_in_transaction` on the alert, the account and the completed action as the
session loaded them, without committing. -/
def triageAfterLookup (sha256 : String → String) (db : Db) (env : Ambient) (r : TriageRequest)
    (alert : FraudAlert) (account : CreditAccount) (completed : Option FraudCaseAction) :
    Except PyException (Db × CaseResult) :=
  match completed with
  | some action => do
    let result ← normalizeWorkflow action.resultPayload account.currency
    return (db, result)
  | none => do
    let (db, action) ←
      createCaseAction db (env.part 0) alert.id "FRAUD_CASE_TRIAGED" (workflowKey sha256 r)
    checkScope alert r
    let (db, result) ←
      if r.hasDisputes then remediateDisputes db (env.part 1) r alert account
      else resolveRecognized db (env.part 1) alert
    return (completeCaseAction db env action.id (.triaged result), .triaged result)

/-- Triages on its own. Without an alert there is nothing to triage. -/
def triageFraudCase (sha256 : String → String) (db : Db) (env : Ambient) (r : TriageRequest) :
    Except PyException (Db × Option CaseResult) := do
  let id ← uuidParam r.fraudAlertId
  match getAlertForCustomer db id r.authProviderUid with
  | none => return (db, none)
  | some alert => do
    let account ← requireFraudAccount alert (db.creditAccounts.get? alert.creditAccountId)
    let (db, result) ← triageAfterLookup sha256 db env r alert account
      (getSucceededAction db alert.id (workflowKey sha256 r))
    return (db, some result)

/-- `_alert_result` and the reasons for which a scenario action triages nothing. -/
inductive ScenarioResult where
  | notFound
  | unresolved (alert : Uuid)
  | nothingSuspicious (alert : Uuid)
  | unsupported (alert : Uuid)
  | triaged (result : Option CaseResult)
  deriving DecidableEq

structure ScenarioAction where
  fraudAlertId : String
  outcomeLabel : String
  disputedAuthorizationIds : Option (List String)
  disputedTransactionIds : Option (List String)
  issueReplacement : Bool
  escalate : Bool
  idempotencyKey : Option String

def ScenarioAction.request (s : ScenarioAction) (alert : FraudAlert) :
    Except ScenarioResult TriageRequest :=
  let outcome := lower (strip s.outcomeLabel)
  if outcome = "false_positive" ∨ outcome = "confirmed_legitimate" then
    .ok ⟨alert.authProviderUid, alert.id.str, [], [], false, false, s.idempotencyKey⟩
  else if outcome = "unresolved" then .error (.unresolved alert.id)
  else if outcome = "customer_disputed" ∨ outcome = "confirmed_fraud" ∨
      outcome = "expected_fraud" then
    let authorizationIds := (s.disputedAuthorizationIds.filter fun l => l ≠ []).getD
      alert.suspiciousAuthorizationIds
    let transactionIds := s.disputedTransactionIds.getD []
    if authorizationIds = [] ∧ transactionIds = [] then .error (.nothingSuspicious alert.id)
    else .ok ⟨alert.authProviderUid, alert.id.str, authorizationIds, transactionIds,
      s.issueReplacement, s.escalate, s.idempotencyKey⟩
  else .error (.unsupported alert.id)

def executeScenarioCustomerAction (sha256 : String → String) (db : Db) (env : Ambient)
    (s : ScenarioAction) : Except PyException (Db × ScenarioResult) := do
  let id ← uuidParam s.fraudAlertId
  match db.fraudAlerts.get? id with
  | none => return (db, .notFound)
  | some alert =>
    match s.request alert with
    | .error result => return (db, result)
    | .ok r => do
      let (db, result) ← triageFraudCase sha256 db env r
      return (db, .triaged result)

def resolveOpenAlertForCustomer (db : Db) (env : Ambient) (authProviderUid resolution : String) :
    Except PyException (Db × Option Uuid) :=
  match getLatestOpenAlertForCustomer db authProviderUid with
  | none => .ok (db, none)
  | some alert => do
    let status := AlertStatus.resolved (upper resolution)
    let db := { db with
      fraudAlerts := db.fraudAlerts.update alert.id fun a =>
        { a with status := status, resolvedAt := some env.now } }
    let db ← recordAudit db env "FRAUD_ALERT_RESOLVED"
      [("fraud_alert_id", .text alert.id.str), ("correlation_id", .text alert.id.str),
        ("customer_id", .text alert.customerId.str),
        ("credit_account_id", .text alert.creditAccountId.str),
        ("resolution", .text (upper resolution)), ("status", .text status.text)]
    return (db, some alert.id)

structure ExpirySweep where
  maxAgeMinutes : ℤ := 30
  limit : ℕ := 100
  sources : List String := []
  dryRun : Bool := false

def ExpirySweep.sourcesOrDefault (s : ExpirySweep) : List String :=
  if s.sources = [] then ["MODEL_DETECTED_FRAUD", "SIMULATION_TARGETED_FRAUD"] else s.sources

/-- The oldest open alerts of the sources, up to the limit. -/
def listOpenAlertsForLifecycleSweep (db : Db) (now : Timestamp) (s : ExpirySweep) :
    List FraudAlert :=
  let cutoff : ℤ := now - s.maxAgeMinutes * 60000000
  let due := db.fraudAlerts.select fun a =>
    a.status = .isOpen ∧ (a.createdAt : ℤ) ≤ cutoff ∧ a.source ∈ s.sourcesOrDefault
  (due.mergeSort fun a b => a.createdAt ≤ b.createdAt).take s.limit

/-- `create_case_action` for an action that is complete when it is recorded. -/
def createTimeoutAction (db : Db) (env : Ambient) (alertId : Uuid) (key : String) :
    Except PyException Db :=
  match getCaseActionByIdempotencyKey db alertId key with
  | some _ => .ok db
  | none => do
    let actions ← insert db.fraudCaseActions
      { id := env.uuid4 0, fraudAlertId := alertId, actionType := "FRAUD_ALERT_RESPONSE_TIMEOUT",
        status := .succeeded, idempotencyKey := some key,
        resultPayload := .expired "EXPIRED_NO_CUSTOMER_RESPONSE" "NO_CUSTOMER_RESPONSE",
        createdAt := env.now, completedAt := some env.now }
    return { db with fraudCaseActions := actions }

def expireNoResponse (db : Db) (env : Ambient) (alertId : Uuid) : Db :=
  { db with
    fraudAlerts := db.fraudAlerts.update alertId fun a =>
      { a with
        status := .expiredNoCustomerResponse, remediationStatus := "NO_CUSTOMER_RESPONSE",
        triagedAt := some env.now, resolvedAt := some env.now } }

def expireAlert (db : Db) (env : Ambient) (maxAgeMinutes : ℤ) (alert : FraudAlert) :
    Except PyException Db := do
  let db ← createTimeoutAction db (env.part 0) alert.id
    ("fraud-alert-timeout:" ++ alert.id.str ++ ":" ++ toString maxAgeMinutes ++ "m")
  let db := expireNoResponse db env alert.id
  recordAudit db (env.part 1) "FRAUD_ALERT_RESPONSE_TIMEOUT"
    [("fraud_alert_id", .text alert.id.str), ("correlation_id", .text alert.id.str),
      ("customer_id", .text alert.customerId.str),
      ("credit_account_id", .text alert.creditAccountId.str), ("card_id", .text alert.cardId.str),
      ("source", .text alert.source), ("max_age_minutes", .int maxAgeMinutes),
      ("status", .text AlertStatus.expiredNoCustomerResponse.text),
      ("remediation_status", .text "NO_CUSTOMER_RESPONSE")]

def expireAll (db : Db) (env : Ambient) (maxAgeMinutes : ℤ) :
    List FraudAlert → Except PyException Db
  | [] => .ok db
  | alert :: alerts => do
    let db ← expireAlert db (env.part 0) maxAgeMinutes alert
    expireAll db (env.part 1) maxAgeMinutes alerts

/-- `expire_stale_open_alerts`, with the ids of the alerts that it matched. -/
def expireStaleOpenAlerts (db : Db) (env : Ambient) (s : ExpirySweep) :
    Except PyException (Db × List Uuid) := do
  let alerts := listOpenAlertsForLifecycleSweep db env.now s
  let matched := alerts.map fun a => a.id
  if s.dryRun then return (db, matched)
  else do
    let db ← expireAll db env s.maxAgeMinutes alerts
    return (db, matched)

end BankingService
