import BankingService.Schema

/-! The protocol that every proposed action follows: what evidence of the customer's decision is
accepted, what a registered action provides, and how a refusal is reported. -/
namespace BankingService

open Python Relational Checked

inductive RecoveryClass where
  | correctRequest
  | retrySameProposal
  | resolveActiveProposal
  | representAndReconfirm
  | createNewProposal
  | refreshSession
  | escalate
  deriving DecidableEq

/-- The class of a `ProposalError`; a failed precondition names its reason. -/
inductive ProposalErrorClass where
  | proposalError
  | proposalConflictError
  | proposalTransitionError
  | proposalScopeError
  | activeProposalExistsError
  | actionPreconditionError (reason : String)
  deriving DecidableEq

/-- `proposal` is the row that the error carries, reported as it is when it is serialized. -/
structure ProposalError where
  errorClass : ProposalErrorClass
  operatorMessage : String
  code : String
  recoveryClass : RecoveryClass
  customerMessage : String
  proposal : Option Uuid
  deriving DecidableEq

inductive ServiceError where
  | proposal (e : ProposalError)
  | runtimeContext (message : String)
  | python (e : PyException)
  deriving DecidableEq

namespace ProposalError

def rejected (message : String) : ProposalError :=
  ⟨.proposalError, message, "PROPOSAL_REJECTED", .correctRequest,
    "The action proposal request was rejected.", none⟩

def conflict (message : String) : ProposalError :=
  ⟨.proposalConflictError, message, "PROPOSAL_CONFLICT", .correctRequest,
    "The action proposal request was rejected.", none⟩

def stateInvalid (message : String) (proposal : Option Uuid) : ProposalError :=
  ⟨.proposalTransitionError, message, "PROPOSAL_STATE_INVALID", .correctRequest,
    "The action proposal request was rejected.", proposal⟩

def scopeMismatch (message : String) (proposal : Option Uuid) : ProposalError :=
  ⟨.proposalScopeError, message, "PROPOSAL_SCOPE_MISMATCH", .refreshSession,
    "The action proposal is not available in this customer support session.", proposal⟩

def activeExists (message : String) (proposal : Uuid) : ProposalError :=
  ⟨.activeProposalExistsError, message, "ACTIVE_PROPOSAL_EXISTS", .resolveActiveProposal,
    "Resolve the current action proposal before proposing another action.", some proposal⟩

/-- The customer must see the proposal again: its presentation is not the one decided on. -/
def presentAgain (errorClass : ProposalErrorClass) (message : String) (proposal : Uuid) :
    ProposalError :=
  ⟨errorClass, message, "PRESENTATION_EVIDENCE_REQUIRED", .representAndReconfirm,
    "Present the current proposal again and obtain a later explicit customer decision.",
    some proposal⟩

/-- The customer must decide on a later turn. -/
def decideLater (errorClass : ProposalErrorClass) (message : String) (proposal : Uuid) :
    ProposalError :=
  ⟨errorClass, message, "PRESENTATION_EVIDENCE_REQUIRED", .representAndReconfirm,
    "Present the current proposal and obtain a later explicit customer decision.",
    some proposal⟩

def expired (proposal : Uuid) : ProposalError :=
  ⟨.proposalTransitionError, "Action proposal has expired.", "PROPOSAL_EXPIRED",
    .createNewProposal,
    "The action proposal expired. Review current information before creating a new proposal.",
    some proposal⟩

def resetGenerationChanged (proposal : Uuid) : ProposalError :=
  ⟨.proposalScopeError, "Proposal was invalidated by a session reset.",
    "RESET_GENERATION_CHANGED", .createNewProposal,
    "The support session was reset. Review current information before creating a new proposal.",
    some proposal⟩

/-- `ActionPreconditionError`; the engine adds the proposal when it lets the error through. -/
def preconditionChanged (message reason : String) : ProposalError :=
  ⟨.actionPreconditionError reason, message, "ACTION_PRECONDITION_CHANGED", .createNewProposal,
    "The underlying account state changed. Review current information before creating a new proposal.",
    none⟩

/-- The errors that `except (ProposalScopeError, ProposalTransitionError)` catches. -/
def EndsClaim (e : ProposalError) : Prop :=
  match e.errorClass with
  | .proposalScopeError | .proposalTransitionError | .actionPreconditionError _ => True
  | .proposalError | .proposalConflictError | .activeProposalExistsError => False

instance (e : ProposalError) : Decidable e.EndsClaim := by
  unfold EndsClaim
  split <;> infer_instance

end ProposalError

/-- Trusted values of the runtime that a call comes from; none of them is an argument that the
model supplies. -/
structure ProposalRuntimeContext where
  supportSessionId : String
  runtimeName : String
  runtimeSessionId : String
  customerTurnId : String
  resetGeneration : String
  catalogSnapshotId : Option String
  presentationTurnId : Option String
  confirmationTurnId : Option String
  confirmationMethod : Option String
  confirmationSource : Option String
  deriving DecidableEq

def ProposalRuntimeContext.requireCustomerTurn (c : ProposalRuntimeContext) :
    Except ServiceError Unit :=
  require (c.customerTurnId ≠ "unknown-turn")
    (.runtimeContext "A real customer turn id is required for proposal operations.")

inductive DecisionPolicy where
  | none
  | explicitVerbal
  | explicitUi
  | stepUp
  | humanApproval
  deriving DecidableEq

def DecisionPolicy.value : DecisionPolicy → String
  | none => "NONE"
  | explicitVerbal => "EXPLICIT_VERBAL"
  | explicitUi => "EXPLICIT_UI"
  | stepUp => "STEP_UP"
  | humanApproval => "HUMAN_APPROVAL"

/-- `value.replace("_", " ").title()`. -/
def DecisionPolicy.title : DecisionPolicy → String
  | none => "None"
  | explicitVerbal => "Explicit Verbal"
  | explicitUi => "Explicit Ui"
  | stepUp => "Step Up"
  | humanApproval => "Human Approval"

/-- The parts of an `AuthorizationPolicy` and of its evidence policy that a decision is checked
against. -/
structure AuthorizationPolicy where
  decisionPolicy : DecisionPolicy
  acceptedSources : List String
  requiredPresentationAcknowledgment : Option String
  acceptedPresentationAcknowledgmentSources : List String
  deriving DecidableEq

def GENERAL_ACKNOWLEDGMENT_POLICY : AuthorizationPolicy :=
  ⟨.explicitVerbal, ["MODEL_TOOL_INTENT"], none, []⟩

structure PresentationRequirement where
  requiredFactKeys : List String
  deterministicAcknowledgment : Bool
  deriving DecidableEq

structure ProtectedPresentationAcknowledgment where
  acknowledgmentType : String
  source : String
  acknowledgedFactKeys : List String
  artifactId : String
  deriving DecidableEq

structure ValidatedRuntimeEvidence where
  presentationTurnId : String
  decisionTurnId : String
  protectedEvidence : Evidence
  deriving DecidableEq

def truthy (o : Option String) : Option String := o.filter fun s => s ≠ ""

def sorted (l : List String) : List String := l.mergeSort fun a b => a ≤ b

def ProtectedPresentationAcknowledgment.asEvidence (a : ProtectedPresentationAcknowledgment) :
    Evidence :=
  [("presentation_acknowledgment", .text a.acknowledgmentType),
    ("presentation_acknowledgment_source", .text a.source),
    ("acknowledged_fact_keys", .texts (sorted a.acknowledgedFactKeys)),
    ("presentation_artifact_id", .text a.artifactId)]

def checkAcknowledgment (policy : AuthorizationPolicy) (requirement : PresentationRequirement)
    (acknowledgment : Option ProtectedPresentationAcknowledgment) : Except String Unit :=
  match truthy policy.requiredPresentationAcknowledgment with
  | none => .ok ()
  | some required => do
    require (requirement.deterministicAcknowledgment = true)
      "A deterministic presentation contract is required by policy."
    let a ← orRaise (acknowledgment.filter fun a =>
        a.acknowledgmentType = required ∧ a.artifactId ≠ "")
      "Deterministic presentation acknowledgment is required by policy."
    require (a.source ∈ policy.acceptedPresentationAcknowledgmentSources)
      "Presentation acknowledgment is not from an accepted trusted source."
    require (∀ key ∈ requirement.requiredFactKeys, key ∈ a.acknowledgedFactKeys)
      "Presentation acknowledgment is missing required facts."

/-- `RuntimeEvidenceValidator.validate_decision`; it raises `RuntimeContextError` with the text. -/
def validateDecision (context : ProposalRuntimeContext) (policy : AuthorizationPolicy)
    (requirement : PresentationRequirement)
    (acknowledgment : Option ProtectedPresentationAcknowledgment) :
    Except String ValidatedRuntimeEvidence := do
  require (context.customerTurnId ≠ "unknown-turn")
    "A real customer turn id is required for proposal operations."
  let missing := "Protected presentation and confirmation turn evidence is required."
  let presentation ← orRaise (truthy context.presentationTurnId) missing
  let confirmation ← orRaise (truthy context.confirmationTurnId) missing
  require (confirmation ≠ presentation) "Confirmation must come from a later customer turn."
  require (context.customerTurnId = confirmation)
    "Current customer turn does not match the protected confirmation turn."
  require (context.confirmationMethod = some policy.decisionPolicy.value)
    (if policy.decisionPolicy = .explicitVerbal then "Explicit verbal confirmation is required."
      else policy.decisionPolicy.title ++ " is required.")
  let source ← orRaise (context.confirmationSource.filter fun s => s ∈ policy.acceptedSources)
    (if "MODEL_TOOL_INTENT" ∈ policy.acceptedSources ∧
        ∀ s ∈ policy.acceptedSources, s = "MODEL_TOOL_INTENT"
      then "The customer decision must be bound to the model's typed tool choice."
      else "The customer decision is not bound to an accepted protected source.")
  checkAcknowledgment policy requirement acknowledgment
  return ⟨presentation, confirmation,
    [("method", .text policy.decisionPolicy.value), ("source", .text source),
      ("runtime_name", .text context.runtimeName),
      ("runtime_session_id", .text context.runtimeSessionId),
      ("presentation_turn_id", .text presentation),
      ("confirmation_turn_id", .text confirmation)] ++
      (acknowledgment.map fun a => a.asEvidence).getD []⟩

theorem validateDecision_eq_ok {context : ProposalRuntimeContext} {policy : AuthorizationPolicy}
    {requirement : PresentationRequirement}
    {acknowledgment : Option ProtectedPresentationAcknowledgment} {v : ValidatedRuntimeEvidence}
    (h : validateDecision context policy requirement acknowledgment = .ok v) :
    v.presentationTurnId ≠ "" ∧ v.decisionTurnId ≠ "" ∧
      v.decisionTurnId ≠ v.presentationTurnId ∧
      v.protectedEvidence.get "presentation_turn_id" = some (.text v.presentationTurnId) ∧
      v.protectedEvidence.get "confirmation_turn_id" = some (.text v.decisionTurnId) ∧
      context.customerTurnId = v.decisionTurnId := by
  simp only [validateDecision, bind_eq_ok, require_eq_ok, orRaise_eq_ok, pure_eq_ok] at h
  obtain ⟨-, -, presentation, hp, confirmation, hc, -, hne, -, hturn, -, -, source, -, -, -, rfl⟩ :=
    h
  refine ⟨?_, ?_, hne, ?_, ?_, hturn⟩
  · exact of_decide_eq_true (Option.filter_eq_some_iff.mp hp).2
  · exact of_decide_eq_true (Option.filter_eq_some_iff.mp hc).2
  · rfl
  · rfl

end BankingService
