import BankingService.Library.Checked
import BankingService.Library.Runs
import BankingService.Library.Since
import BankingService.PythonValues

/-! The support agent's authorization record: a consequential action is prepared, presented,
confirmed by a later customer event and then executed, with a record of each step. -/
namespace BankingService.WorkflowAuthorization

open Python Checked

inductive WorkflowAction where
  | triageFraudCase
  | triageCustomerReportedFraud
  | reissueCard
  | provisionGoogleWallet
  | other (name : String)
  deriving DecidableEq

/-- `str` of a JSON value and SHA-256. -/
structure Digests where
  str : Json → String
  sha256 : String → String

variable (h : Digests)

abbrev Payload := List (String × Json)

/-- `_string_list`: the distinct non-blank items in order. -/
def stringList : Option Json → List String
  | some (.arr items) =>
    ((items.map fun item => strip (h.str item)).filter fun s => s ≠ "").dedup.mergeSort
  | _ => []

/-- `str(value or "").strip()`. -/
def strippedText (value : Option Json) : String :=
  strip ((value.filter Python.truthy).elim "" h.str)

def texts (l : List String) : Json := .arr (l.map .str)

def fraudFields (p : Payload) : Payload :=
  [("disputed_authorization_ids", texts (stringList h (lookup p "disputed_authorization_ids"))),
    ("disputed_transaction_ids", texts (stringList h (lookup p "disputed_transaction_ids"))),
    ("issue_replacement", .bool ((lookup p "issue_replacement").elim true Python.truthy)),
    ("escalate", .bool ((lookup p "escalate").elim false Python.truthy))]

def canonicalActionPayload (action : WorkflowAction) (p : Payload) : Except PyException Payload :=
  match action with
  | .triageFraudCase =>
    .ok (fraudFields h p ++ [("fraud_alert_id", .str (strippedText h (lookup p "fraud_alert_id")))])
  | .triageCustomerReportedFraud => .ok (fraudFields h p)
  | .reissueCard => .ok [("reason", .str (upper (strippedText h (lookup p "reason"))))]
  | .provisionGoogleWallet => .ok [("wallet_provider", .str "GOOGLE_WALLET")]
  | .other name => .error (.valueError ("Unsupported workflow authorization action: " ++ name))

def actionPayloadFingerprint (action : WorkflowAction) (p : Payload) :
    Except PyException String := do
  let canonical ← canonicalActionPayload h action p
  return h.sha256 (Json.obj canonical).dumps

inductive AuthorizationStatus where
  | prepared
  | pending
  | confirmed
  | executing
  | recoveryRequired
  | completed
  | declined
  | expired
  | invalidated
  deriving DecidableEq

/-- The statuses that `invalidate_workflow_authorization` leaves alone. -/
def AuthorizationStatus.Terminal (s : AuthorizationStatus) : Prop :=
  s = .completed ∨ s = .declined ∨ s = .expired ∨ s = .invalidated

instance : DecidablePred AuthorizationStatus.Terminal :=
  fun _ => inferInstanceAs (Decidable (_ ∨ _ ∨ _ ∨ _))

/-- The statuses that an execution starts from. -/
def AuthorizationStatus.Executable (s : AuthorizationStatus) : Prop :=
  s = .confirmed ∨ s = .recoveryRequired

instance : DecidablePred AuthorizationStatus.Executable :=
  fun _ => inferInstanceAs (Decidable (_ ∨ _))

abbrev EpochTime := ℤ

structure Authorization where
  action : WorkflowAction
  payload : Payload
  payloadFingerprint : String
  sessionId : String
  status : AuthorizationStatus
  originatingCustomerEventId : Option String
  assistantEventId : Option String
  customerEventId : Option String
  presentedAt : Option EpochTime
  confirmationSource : Option String
  issuedAt : EpochTime
  expiresAt : EpochTime
  consumedAt : Option EpochTime
  completedAt : Option EpochTime
  recoveryReason : Option String
  recoveryAttemptCount : ℕ
  invalidationReason : Option String
  invalidationEventId : Option String

def createWorkflowAuthorization (action : WorkflowAction) (payload : Payload) (sessionId : String)
    (originatingCustomerEventId : Option String) (now : EpochTime) (ttlSeconds : ℤ) :
    Except PyException Authorization := do
  let canonical ← canonicalActionPayload h action payload
  let fingerprint ← actionPayloadFingerprint h action canonical
  return {
    action := action
    payload := canonical
    payloadFingerprint := fingerprint
    sessionId := sessionId
    status := .prepared
    originatingCustomerEventId := originatingCustomerEventId
    assistantEventId := none
    customerEventId := none
    presentedAt := none
    confirmationSource := none
    issuedAt := now
    expiresAt := now + max 1 ttlSeconds * 1000000
    consumedAt := none
    completedAt := none
    recoveryReason := none
    recoveryAttemptCount := 0
    invalidationReason := none
    invalidationEventId := none }

def invalidateWorkflowAuthorization (a : Authorization) (reason : String) (eventId : Option String)
    (status : AuthorizationStatus) : Authorization :=
  if a.status.Terminal then a
  else { a with
    status := status, invalidationReason := some reason, invalidationEventId := eventId }

def markAuthorizationPresented (a : Authorization) (assistantEventId : String) (now : EpochTime) :
    Authorization :=
  if a.status ≠ .prepared then a
  else if a.expiresAt ≤ now then
    invalidateWorkflowAuthorization a "EXPIRED_BEFORE_PROMPT" (some assistantEventId) .expired
  else { a with
    status := .pending, assistantEventId := some assistantEventId, presentedAt := some now }

/-- Binds the model's choice of the action to evidence of a later customer turn. -/
def authorizeFromModelToolIntent (a : Authorization) (action : WorkflowAction) (payload : Payload)
    (sessionId customerEventId : String) (customerObservedAt now : EpochTime) : Authorization :=
  if a.status ≠ .pending then a
  else if a.expiresAt ≤ now then
    invalidateWorkflowAuthorization a "AUTHORIZATION_EXPIRED" (some customerEventId) .expired
  else if a.action ≠ action ∨ a.sessionId ≠ sessionId then a
  else if actionPayloadFingerprint h action payload ≠ .ok a.payloadFingerprint then a
  else if customerEventId = "" then a
  else if some customerEventId = a.originatingCustomerEventId then a
  else if some customerEventId = a.assistantEventId then a
  else if a.presentedAt.getD 0 = 0 ∨ customerObservedAt ≤ a.presentedAt.getD 0 then a
  else { a with
    customerEventId := some customerEventId, status := .confirmed,
    confirmationSource := some "MODEL_TOOL_INTENT" }

def WorkflowAction.name : WorkflowAction → String
  | triageFraudCase => "TRIAGE_FRAUD_CASE"
  | triageCustomerReportedFraud => "TRIAGE_CUSTOMER_REPORTED_FRAUD"
  | reissueCard => "REISSUE_CARD"
  | provisionGoogleWallet => "PROVISION_GOOGLE_WALLET"
  | other name => name

/-- The objection to executing the action; `none` if there is none. -/
def validateWorkflowAuthorization (o : Option Authorization) (action : WorkflowAction)
    (payload : Payload) (sessionId : String) (now : EpochTime) : Option String :=
  match o with
  | none =>
    some ("Prepare and confirm authorization for " ++ action.name ++ " before executing it.")
  | some a =>
    if a.action ≠ action then
      some ("Prepare and confirm authorization for " ++ action.name ++ " before executing it.")
    else if ¬ a.status.Executable then
      some ("Customer authorization for " ++ action.name ++ " is not confirmed.")
    else if a.sessionId ≠ sessionId then
      some "Customer authorization belongs to a different support session."
    else if a.assistantEventId.getD "" = "" ∨ a.customerEventId.getD "" = "" then
      some "Customer authorization is missing its confirmation turn evidence."
    else if a.expiresAt ≤ now then
      some "Customer authorization has expired. Prepare and confirm the action again."
    else if actionPayloadFingerprint h action payload ≠ .ok a.payloadFingerprint then
      some "The requested action differs from the exact payload the customer confirmed."
    else none

def markAuthorizationExecuting (a : Authorization) (now : EpochTime) : Authorization :=
  if ¬ a.status.Executable then a
  else { a with
    recoveryAttemptCount :=
      if a.status = .recoveryRequired then a.recoveryAttemptCount + 1 else a.recoveryAttemptCount
    status := .executing, consumedAt := some now, recoveryReason := none }

def markAuthorizationRecoveryRequired (a : Authorization) (reason : String) : Authorization :=
  if a.status ≠ .executing then a
  else { a with
    status := .recoveryRequired, recoveryReason := some reason }

def markAuthorizationCompleted (a : Authorization) (now : EpochTime) : Authorization :=
  if a.status ≠ .executing then a
  else { a with
    status := .completed, completedAt := some now }

end BankingService.WorkflowAuthorization
