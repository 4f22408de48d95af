import BankingService.PythonValues
import BankingService.RuntimeHeaders

/-! The callbacks of the conversational runtime around every tool call, the tool that switches the
language, and the session variables that they share. Banking requests take their headers from
these variables. -/
namespace BankingService.Ces

open Python

structure Variables where
  customerTurnId : String
  proposalFactsJson : String
  proposalId : String
  proposalCustomerSafeSummary : String
  proposalActionType : Json
  proposalOriginatingTurnId : String
  proposalPresentationTurnId : String
  proposalConfirmationTurnId : String
  proposalConfirmationMethod : String
  proposalConfirmationSource : String
  proposalDecisionType : String
  proposalCommitAttempted : Bool
  completedProposalActionType : String
  completedProposalConfirmationTurnId : String
  completedProposalConfirmationMethod : String
  completedProposalConfirmationSource : String
  completedProposalDecisionType : String
  closeoutCheckpointState : String
  closeoutOriginatingTurnId : String
  closeoutOriginatingInputFingerprint : String
  closeoutDelegationAuthorized : Bool
  activeFraudAlertId : String
  activeFraudAuthorizationIds : String
  activeFraudTransactionIds : String
  fraudReviewStage : String
  fraudReviewStatus : String
  fraudReviewFingerprint : String
  fraudReviewReady : Bool
  runtimeLanguageCode : String
  languageCode : String
  languageSelectionSource : String

def Variables.initial (runtimeLanguageCode languageCode languageSelectionSource : String) :
    Variables where
  customerTurnId := ""
  proposalFactsJson := ""
  proposalId := ""
  proposalCustomerSafeSummary := ""
  proposalActionType := .str ""
  proposalOriginatingTurnId := ""
  proposalPresentationTurnId := ""
  proposalConfirmationTurnId := ""
  proposalConfirmationMethod := ""
  proposalConfirmationSource := ""
  proposalDecisionType := ""
  proposalCommitAttempted := false
  completedProposalActionType := ""
  completedProposalConfirmationTurnId := ""
  completedProposalConfirmationMethod := ""
  completedProposalConfirmationSource := ""
  completedProposalDecisionType := ""
  closeoutCheckpointState := ""
  closeoutOriginatingTurnId := ""
  closeoutOriginatingInputFingerprint := ""
  closeoutDelegationAuthorized := false
  activeFraudAlertId := ""
  activeFraudAuthorizationIds := ""
  activeFraudTransactionIds := ""
  fraudReviewStage := ""
  fraudReviewStatus := ""
  fraudReviewFingerprint := ""
  fraudReviewReady := false
  runtimeLanguageCode := runtimeLanguageCode
  languageCode := languageCode
  languageSelectionSource := languageSelectionSource

/-- The texts of JSON values, and the SHA-256 of the parts of an input. -/
structure Texts where
  str : Json → String
  dumps : Json → String
  loads : String → Option Json
  fingerprint : List String → String

variable (t : Texts)

abbrev Fields := List (String × Json)

/-- `str(value or "")`; the text of a string is the string. -/
def textOf : Option Json → String
  | some (.str s) => s
  | some j => if Python.truthy j then t.str j else ""
  | none => ""

/-- The callback context: the invocation and the texts or transcripts of its last user input. -/
structure Invocation where
  id : String
  userInput : List String

/-- `tool_name.endswith(suffix)`. -/
def EndsWith (tool suffix : String) : Prop := suffix.toList <:+ tool.toList

instance (tool suffix : String) : Decidable (EndsWith tool suffix) :=
  inferInstanceAs (Decidable (_ <:+ _))

def matchingAction (tool : String) (actions : List (String × String)) : Option String :=
  (actions.find? fun a => EndsWith tool a.1).map Prod.snd

def PROPOSAL_ACTIONS : List (String × String) :=
  [("propose_fraud_triage", "TRIAGE_FRAUD_CASE"),
    ("propose_card_reissue", "REISSUE_CARD"),
    ("propose_wallet_provisioning", "PROVISION_GOOGLE_WALLET")]

def COMMIT_ACTIONS : List (String × String) :=
  [("commit_fraud_triage", "TRIAGE_FRAUD_CASE"),
    ("commit_card_reissue", "REISSUE_CARD"),
    ("commit_wallet_provisioning", "PROVISION_GOOGLE_WALLET")]

def NON_COMMIT_DECISIONS : List String := ["DECLINE", "REVISE", "CANCEL"]

def refusal (error message : String) : Fields :=
  [("success", .bool false), ("error", .str error), ("message", .str message)]

def customerInputFingerprint (i : Invocation) : String :=
  match i.userInput.filter fun s => s ≠ "" with
  | [] => ""
  | parts => t.fingerprint parts

def clearCloseoutCheckpoint (v : Variables) : Variables :=
  { v with
    closeoutCheckpointState := "", closeoutOriginatingTurnId := "",
    closeoutOriginatingInputFingerprint := "", closeoutDelegationAuthorized := false }

def LaterCustomerTurnIsPresent (v : Variables) (i : Invocation) : Prop :=
  let currentInput := customerInputFingerprint t i
  v.closeoutCheckpointState = "OFFERED" ∧ currentInput ≠ "" ∧
    ((i.id ≠ "" ∧ v.closeoutOriginatingTurnId ≠ "" ∧ i.id ≠ v.closeoutOriginatingTurnId) ∨
      (v.closeoutOriginatingInputFingerprint ≠ "" ∧
        currentInput ≠ v.closeoutOriginatingInputFingerprint) ∨
      v.closeoutOriginatingInputFingerprint = "")

instance (v : Variables) (i : Invocation) : Decidable (LaterCustomerTurnIsPresent t v i) := by
  unfold LaterCustomerTurnIsPresent
  infer_instance

/-- `enforce_closeout`: the variables, and the answer if the call is not let through. -/
def enforceCloseout (v : Variables) (tool : String) (input : Fields) (i : Invocation) :
    Variables × Option Fields :=
  if EndsWith tool "transfer_to_agent" ∧
      textOf t (lookup input "agent_name") = "Session Closeout Agent" then
    if v.proposalId ≠ "" then
      ({ v with closeoutDelegationAuthorized := false },
        some (refusal "PROPOSAL_DECISION_REQUIRED"
          "Resolve the current proposal before closeout."))
    else if v.closeoutDelegationAuthorized ∧ v.closeoutCheckpointState = "OFFERED" ∧
        v.proposalId = "" ∧ ¬ v.proposalCommitAttempted then
      (v, none)
    else if v.proposalCommitAttempted ∨ ¬ LaterCustomerTurnIsPresent t v i then
      ({ v with closeoutDelegationAuthorized := false },
        some (refusal "CLOSEOUT_HANDOFF_NOT_READY"
          "Offer final assistance and wait for a later customer turn."))
    else
      ({ v with closeoutDelegationAuthorized := true },
        some [("success", .bool true), ("status", .str "CLOSEOUT_HANDOFF_AUTHORIZED")])
  else if ¬ EndsWith tool "end_session" then
    (clearCloseoutCheckpoint v, none)
  else
    let currentInput := customerInputFingerprint t i
    let distinctTurn :=
      i.id ≠ "" ∧ v.closeoutOriginatingTurnId ≠ "" ∧ i.id ≠ v.closeoutOriginatingTurnId
    let distinctInput :=
      v.closeoutOriginatingInputFingerprint ≠ "" ∧
        currentInput ≠ v.closeoutOriginatingInputFingerprint
    let arrivedAfterOffer := v.closeoutOriginatingInputFingerprint = ""
    if v.closeoutCheckpointState ≠ "OFFERED" ∨ currentInput = "" ∨
        ¬ (distinctTurn ∨ distinctInput ∨ arrivedAfterOffer) then
      (v, some (refusal "CLOSEOUT_CHECKPOINT_REQUIRED"
        "Offer final assistance and wait for a later customer turn."))
    else ({ v with closeoutCheckpointState := "ENDING" }, none)

def hasCustomerInput (i : Invocation) : Bool := i.userInput.any fun s => s ≠ ""

def HasLaterCustomerTurn (v : Variables) (i : Invocation) : Prop :=
  v.proposalPresentationTurnId ≠ "" ∧ v.proposalOriginatingTurnId ≠ "" ∧ i.id ≠ "" ∧
    i.id ≠ v.proposalPresentationTurnId ∧ i.id ≠ v.proposalOriginatingTurnId ∧
    hasCustomerInput i = true

instance (v : Variables) (i : Invocation) : Decidable (HasLaterCustomerTurn v i) := by
  unfold HasLaterCustomerTurn
  infer_instance

def recordDecision (v : Variables) (i : Invocation) (decision : String) : Variables :=
  { v with
    customerTurnId := i.id, proposalConfirmationTurnId := i.id,
    proposalConfirmationMethod := "EXPLICIT_VERBAL",
    proposalConfirmationSource := "MODEL_TOOL_INTENT", proposalDecisionType := decision }

def boundInput (v : Variables) (input : Fields) : Fields :=
  if v.proposalId ≠ "" ∧ textOf t (lookup input "proposal_id") = "" then
    input ++ [("proposal_id", .str v.proposalId)]
  else input

/-- Equal to itself, which a NaN is not. -/
def selfEqual : Json → Bool
  | .nonFinite .nan => false
  | _ => true

/-- The tool commits; a legacy tool names its action, which the proposal's must equal. The general
tool takes the proposal's own, or MISSING. -/
def CommitsAction (v : Variables) (tool : String) : Prop :=
  if EndsWith tool "commit_action_proposal" then
    Python.truthy v.proposalActionType = true ∧ selfEqual v.proposalActionType = true
  else match matchingAction tool COMMIT_ACTIONS, v.proposalActionType with
    | some action, .str s => s = action
    | _, _ => False

instance (v : Variables) (tool : String) : Decidable (CommitsAction v tool) := by
  unfold CommitsAction
  split
  · infer_instance
  · split <;> infer_instance

def IsCommit (tool : String) : Prop :=
  EndsWith tool "commit_action_proposal" ∨ ∃ a ∈ COMMIT_ACTIONS, EndsWith tool a.1

instance : DecidablePred IsCommit := fun _ => inferInstanceAs (Decidable (_ ∨ _))

/-- The tools whose call names the customer's turn to the bank without a decision. -/
def TakesTurn (tool : String) : Prop :=
  (∃ a ∈ PROPOSAL_ACTIONS, EndsWith tool a.1) ∨ EndsWith tool "discover_playbooks" ∨
    EndsWith tool "record_playbook_decision" ∨ EndsWith tool "prepare_action_proposal"

instance : DecidablePred TakesTurn := fun _ => inferInstanceAs (Decidable (_ ∨ _ ∨ _ ∨ _))

/-- `enforce_proposal_context`: the variables, the input as it goes on, and the answer if the call
is not let through. -/
def enforceProposalContext (v : Variables) (tool : String) (input : Fields) (i : Invocation) :
    Variables × Fields × Option Fields :=
  if EndsWith tool "decide_action_proposal" then
    if v.proposalCommitAttempted then
      (v, input, some (refusal "COMMIT_RESULT_PENDING"
        "Retry only the same opaque proposal commit."))
    else
      let input := boundInput t v input
      let decision := upper (strip (textOf t (lookup input "decision")))
      if ¬ (v.proposalId ≠ "" ∧ textOf t (lookup input "proposal_id") = v.proposalId ∧
          decision ∈ NON_COMMIT_DECISIONS ∧ HasLaterCustomerTurn v i) then
        (v, input, some (refusal "PROTECTED_DECISION_REQUIRED"
          "A typed decline, revise, or cancel decision from a later customer turn is required."))
      else (recordDecision v i decision, input, none)
  else if TakesTurn tool then ({ v with customerTurnId := i.id }, input, none)
  else if ¬ IsCommit tool then (v, input, none)
  else
    let input := boundInput t v input
    let retry := v.proposalCommitAttempted
    let v' := if HasLaterCustomerTurn v i ∧ ¬ retry then recordDecision v i "COMMIT" else v
    if v.proposalId ≠ "" ∧ textOf t (lookup input "proposal_id") = v.proposalId ∧
        CommitsAction v tool ∧ v.proposalPresentationTurnId ≠ "" ∧
        (HasLaterCustomerTurn v i ∨ (retry ∧ v'.proposalConfirmationTurnId ≠ "")) then
      ({ v' with proposalCommitAttempted := true }, input, none)
    else
      (v', input, some (refusal "PROTECTED_CONFIRMATION_REQUIRED"
        "A later explicit customer confirmation is required."))

/-- The callbacks before a tool, in order; the first answer ends them. -/
def beforeTool (v : Variables) (tool : String) (input : Fields) (i : Invocation) :
    Variables × Fields × Option Fields :=
  match enforceCloseout t v tool input i with
  | (v, some answer) => (v, input, some answer)
  | (v, none) => enforceProposalContext t v tool input i

/-- `_payload`. -/
def payloadOf : Json → Fields
  | .obj fields =>
    match lookup fields "output" with
    | some (.obj output) => output
    | _ =>
      match lookup fields "text_output" with
      | some (.arr (.obj first :: _)) => first
      | _ => fields
  | _ => []

def Succeeded (payload : Fields) : Prop :=
  match lookup payload "success" with
  | some (.bool b) => b = true
  | _ => False

instance : DecidablePred Succeeded := fun p => by
  unfold Succeeded
  split <;> infer_instance

def clearCurrentProposal (v : Variables) : Variables :=
  { v with
    proposalFactsJson := "", proposalId := "", proposalCustomerSafeSummary := "",
    proposalActionType := .str "", proposalOriginatingTurnId := "",
    proposalPresentationTurnId := "", proposalConfirmationTurnId := "",
    proposalConfirmationMethod := "", proposalConfirmationSource := "",
    proposalDecisionType := "", proposalCommitAttempted := false }

def recordCompletedProposalEvidence (v : Variables) : Variables :=
  { v with
    completedProposalActionType := textOf t (some v.proposalActionType)
    completedProposalConfirmationTurnId := v.proposalConfirmationTurnId
    completedProposalConfirmationMethod := v.proposalConfirmationMethod
    completedProposalConfirmationSource := v.proposalConfirmationSource
    completedProposalDecisionType := v.proposalDecisionType }

def markCloseoutPending (v : Variables) (i : Invocation) : Variables :=
  { v with
    closeoutCheckpointState := "OFFER_PENDING", closeoutOriginatingTurnId := i.id,
    closeoutOriginatingInputFingerprint := customerInputFingerprint t i,
    closeoutDelegationAuthorized := false }

def suspiciousIds (alert : Fields) (key : String) : List String :=
  match lookup alert "suspicious_transactions" with
  | some (.arr items) =>
    (items.filterMap fun
      | .obj item => some (textOf t (lookup item key))
      | _ => none).filter fun s => s ≠ ""
  | _ => []

def captureAlert (v : Variables) (payload : Fields) : Variables :=
  match lookup payload "fraud_alert" with
  | some (.obj alert) =>
    let alertId := textOf t (lookup alert "fraud_alert_id")
    let authorizations := suspiciousIds t alert "authorization_id"
    let transactions := suspiciousIds t alert "transaction_id"
    if Succeeded payload ∧ alertId ≠ "" ∧ (authorizations ≠ [] ∨ transactions ≠ []) then { v with
      activeFraudAlertId := alertId, activeFraudAuthorizationIds := join "," authorizations,
      activeFraudTransactionIds := join "," transactions }
    else v
  | _ => v

def captureReview (v : Variables) (payload : Fields) : Variables :=
  if Succeeded payload then { v with
    fraudReviewStage := textOf t (lookup payload "stage")
    fraudReviewStatus := textOf t (lookup payload "selection_status")
    fraudReviewFingerprint := textOf t (lookup payload "selection_fingerprint")
    fraudReviewReady := (lookup payload "ready_to_propose").elim false Python.truthy }
  else v

/-- A refusal asks for a new presentation, ends the proposal, or leaves it for a retry. -/
def captureCommit (v : Variables) (tool : String) (payload : Fields) (i : Invocation) : Variables :=
  if Succeeded payload then
    let v := clearCurrentProposal (recordCompletedProposalEvidence t v)
    let triaged :=
      EndsWith tool "commit_fraud_triage" ∨ (lookup payload "fraud_alert").elim false Python.truthy
    markCloseoutPending t (if triaged then { v with fraudReviewStage := "COMMITTED" } else v) i
  else
    let v := clearCloseoutCheckpoint v
    let recoveryClass := textOf t (lookup payload "recovery_class")
    if recoveryClass = "REPRESENT_AND_RECONFIRM" then { v with
      proposalPresentationTurnId := "", proposalConfirmationTurnId := "",
      proposalConfirmationMethod := "", proposalConfirmationSource := "",
      proposalDecisionType := "", proposalCommitAttempted := false }
    else if recoveryClass ≠ "" ∧ recoveryClass ≠ "RETRY_SAME_PROPOSAL" then clearCurrentProposal v
    else v

def captureDecision (v : Variables) (payload : Fields) : Variables :=
  if Succeeded payload then
    let v := clearCurrentProposal v
    if textOf t (lookup payload "action_type") = "TRIAGE_FRAUD_CASE" then { v with
      fraudReviewStage := textOf t (lookup payload "status"), fraudReviewReady := false }
    else v
  else v

def FACT_KEYS : List String :=
  ["proposal_id", "money_facts", "card_last_four", "issue_replacement", "escalate",
    "customer_safe_summary", "current_limit", "proposed_limit", "increase_amount",
    "approval_semantics"]

def proposalFacts (payload : Fields) : Json :=
  .obj (FACT_KEYS.filterMap fun key => (lookup payload key).map fun value => (key, value))

def proposalAction (tool : String) (payload : Fields) : Option Json :=
  if EndsWith tool "prepare_action_proposal" then
    match lookup payload "action_type" with
    | some .null => none
    | action => action
  else (matchingAction tool PROPOSAL_ACTIONS).map .str

def captureProposal (v : Variables) (action : Json) (payload : Fields) (i : Invocation) :
    Variables :=
  let proposalId := textOf t (lookup payload "proposal_id")
  let summary := textOf t (lookup payload "customer_safe_summary")
  if Succeeded payload ∧ proposalId ≠ "" ∧ summary ≠ "" then
    let v := { v with
      proposalFactsJson := t.dumps (proposalFacts payload), customerTurnId := i.id,
      proposalOriginatingTurnId := i.id, proposalActionType := action, proposalId := proposalId,
      proposalCustomerSafeSummary := summary, proposalCommitAttempted := false,
      proposalPresentationTurnId := i.id }
    if (lookup payload "money_facts").isSome then { v with
      fraudReviewStage := "AWAITING_ACTION_CONFIRMATION", fraudReviewStatus := "COMPLETE",
      fraudReviewReady := true }
    else v
  else v

/-- `capture_proposal`. -/
def afterTool (v : Variables) (tool : String) (response : Json) (i : Invocation) : Variables :=
  let payload := payloadOf response
  if EndsWith tool "transfer_to_agent" then v
  else if EndsWith tool "reverse_overdraft_fee" then
    if Succeeded payload then markCloseoutPending t v i else clearCloseoutCheckpoint v
  else if EndsWith tool "get_open_fraud_alert" then captureAlert t v payload
  else if EndsWith tool "review_fraud_selection" then captureReview t v payload
  else if IsCommit tool then captureCommit t v tool payload i
  else if EndsWith tool "decide_action_proposal" then captureDecision t v payload
  else match proposalAction tool payload with
    | some action => captureProposal t v action payload i
    | none => v

inductive Part where
  | agentTransfer (agent : String)
  | generated (text : String)
  deriving DecidableEq

/-- `advance_closeout_checkpoint`: the variables, and the parts of the response, which may
have none. -/
def advanceCloseoutCheckpoint (v : Variables) : Option (List Part) → Variables × Option (List Part)
  | none => (v, none)
  | some parts =>
    if v.closeoutDelegationAuthorized then (v, some [.agentTransfer "Session Closeout Agent"])
    else if v.closeoutCheckpointState = "OFFER_PENDING" ∧ v.proposalId = "" ∧
        ¬ v.proposalCommitAttempted then ({ v with
      closeoutCheckpointState := "OFFERED" }, some parts)
    else (v, some parts)

def HandoffAuthorized (v : Variables) : Prop :=
  v.closeoutDelegationAuthorized = true ∧ v.closeoutCheckpointState = "OFFERED" ∧
    v.proposalId = "" ∧ v.proposalCommitAttempted = false

instance : DecidablePred HandoffAuthorized := fun _ => inferInstanceAs (Decidable (_ ∧ _ ∧ _ ∧ _))

/-- `authorize_closeout_handoff`: the variables, and the answer if the agent is not admitted. -/
def authorizeCloseoutHandoff (v : Variables) : Variables × Option (List Part) :=
  ({ v with
    closeoutDelegationAuthorized := HandoffAuthorized v },
    if HandoffAuthorized v then none else some [.agentTransfer "Credit Card Support Agent"])

def LOCALES : List String :=
  ["en-US", "es-MX", "es-ES", "es-US", "fr-CA", "fr-FR", "de-DE", "pt-BR", "it-IT"]

def languageOf (locale : String) : String :=
  String.ofList (locale.toList.takeWhile fun c => c ≠ '-')

/-- `set_conversation_language`; its answer goes to the model only. -/
def setConversationLanguage (v : Variables) (locale : String) (i : Invocation) : Variables :=
  if locale ∉ LOCALES ∨ v.proposalCommitAttempted ∨ i.id = "" ∨ ¬ hasCustomerInput i then v
  else
    match t.loads (if v.proposalFactsJson = "" then "\x7b\x7d" else v.proposalFactsJson) with
    | some (.obj _) =>
      let v := if v.proposalId ≠ "" then { v with
          proposalPresentationTurnId := i.id, proposalConfirmationTurnId := "",
          proposalConfirmationMethod := "", proposalConfirmationSource := "",
          proposalDecisionType := "" }
        else v
      { v with
        runtimeLanguageCode := locale, languageCode := languageOf locale,
        languageSelectionSource := "conversation" }
    | _ => v

/-- The variables that the callbacks leave alone. -/
structure SessionVariables where
  sessionCapability : String
  supportSessionId : String
  runtimeName : String
  runtimeSessionId : String
  resetGeneration : String
  catalogSnapshotId : String
  cesAppId : String
  cesVersionOrDeploymentId : String

/-- `customHeaders` of the toolset. -/
def customHeaders (s : SessionVariables) (v : Variables) : Headers :=
  [("x-banking-session-capability", s.sessionCapability),
    ("x-support-session-id", s.supportSessionId),
    ("x-runtime-name", s.runtimeName),
    ("x-runtime-session-id", s.runtimeSessionId),
    ("x-customer-turn-id", v.customerTurnId),
    ("x-reset-generation", s.resetGeneration),
    ("x-catalog-snapshot-id", s.catalogSnapshotId),
    ("x-ces-app-id", s.cesAppId),
    ("x-ces-version-or-deployment-id", s.cesVersionOrDeploymentId),
    ("x-proposal-presentation-turn-id", v.proposalPresentationTurnId),
    ("x-proposal-confirmation-turn-id", v.proposalConfirmationTurnId),
    ("x-proposal-confirmation-method", v.proposalConfirmationMethod),
    ("x-proposal-confirmation-source", v.proposalConfirmationSource)]

end BankingService.Ces
