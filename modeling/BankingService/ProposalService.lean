import BankingService.ProposalEngine
import BankingService.Library.ReadCommitted

/-! The requests of the proposal service, statement by statement: preparing a proposal, deciding
on one, committing one, and what is left of a request that fails. -/
namespace BankingService

open Python Relational Checked ReadCommitted

structure PreparationContext where
  scope : ProposalScope
  definitionDigest : String
  originatingCustomerTurnId : String
  resetGeneration : String
  idempotencyKey : String
  inputFingerprint : String

/-- A banking operation as the catalog names it; `invalidPublicInputs` and `invalidInputs` are the
texts that the checks against its input schemas raise. -/
structure ProposalOperation (β π ι : Type) where
  invalidPublicInputs : ι → Option String
  normalizePublicInputs : β → String → ι → Except ServiceError ι
  invalidInputs : ι → Option String
  normalizeBusinessInputs : ι → ι
  prepare : β → ι → PreparationContext → Except ServiceError (Option Uuid × π × String)

/-- The catalog that a request is served with. `published` reads the revision and the digest that
a playbook is published under now; `bindingRef` is the reference of a bank decision in a payload. -/
structure ProposalCatalog (β π ρ ι : Type) where
  registry : ActionRegistry β (BoundPayload π) ρ
  operationOf : ActionSpecification β (BoundPayload π) ρ → ProposalOperation β π ι
  inputsJson : ι → String
  bindingRef : π → Option String
  published : β → String → Option (ℕ × String)

inductive NonCommitDecision where
  | decline
  | revise
  | cancel
  deriving DecidableEq

namespace NonCommitDecision

def reason : NonCommitDecision → String
  | decline => "CUSTOMER_DECLINED"
  | revise => "CUSTOMER_REVISED"
  | cancel => "CUSTOMER_CANCELLED"

def status : NonCommitDecision → ProposalStatus
  | decline => .declined
  | revise | cancel => .invalidated

end NonCommitDecision

/-- `decide` has no decision where its text names none. -/
inductive ServiceOperation (ι : Type) where
  | preparePlaybook (playbookId : String) (revision : ℕ) (digest : String) (inputs : ι)
      (idempotencyKey : String)
  | propose (actionType : String) (inputs : ι) (idempotencyKey : String)
  | commit (proposalId : Uuid) (expectedActionType : Option String)
  | decide (proposalId : Uuid) (decision : Option NonCommitDecision)

namespace ServiceOperation

variable {ι : Type}

def requestOperation : ServiceOperation ι → RequestOperation
  | preparePlaybook .. | propose .. => .prepare
  | commit .. => .commit
  | decide .. => .decide

def proposalId : ServiceOperation ι → Option Uuid
  | preparePlaybook .. | propose .. => none
  | commit proposalId _ | decide proposalId _ => some proposalId

def idempotencyKey : ServiceOperation ι → String
  | preparePlaybook _ _ _ _ key | propose _ _ key => key
  | commit .. | decide .. => ""

end ServiceOperation

/-- A request with the identity and the trusted context of its caller, the catalog and the clock it
is served with, and the ids that are generated for it. -/
structure ServiceCall (β π ρ ι : Type) where
  identity : String
  context : ProposalRuntimeContext
  operation : ServiceOperation ι
  catalog : ProposalCatalog β π ρ ι
  clock : Clock
  proposalId : Uuid
  rejectionId : Uuid

inductive ServiceRequest (β π ρ ι : Type) where
  | call (c : ServiceCall β π ρ ι)
  | prune (retained : Timestamp) (checkpoint : Option Timestamp)

inductive ServiceAnswer (π ρ : Type) where
  | view (p : ActionProposal (BoundPayload π) ρ)
  | commit (answer : CommitAnswer ρ)
  | decided (p : ActionProposal (BoundPayload π) ρ) (decision : NonCommitDecision)
      (idempotentReplay : Bool)
  | pruned (count : ℕ)

inductive ServiceStage (β π ρ ι : Type) where
  | start
  | resolved (customer : Uuid)
  | held (customer : Uuid) (p : ActionProposal (BoundPayload π) ρ)
  | unpublished (customer : Uuid) (s : ActionSpecification β (BoundPayload π) ρ)
  | published (customer : Uuid) (s : ActionSpecification β (BoundPayload π) ρ)
  | proposing (customer : Uuid) (s : Option (ActionSpecification β (BoundPayload π) ρ))
      (actionType : String) (inputs : ι)
  | repeated (p : ActionProposal (BoundPayload π) ρ)
  | fresh (customer : Uuid) (s : ActionSpecification β (BoundPayload π) ρ) (inputs : ι)
  | preparing (customer : Uuid) (s : ActionSpecification β (BoundPayload π) ρ) (inputs : ι)
  | creating (v : CreateValues (BoundPayload π))
  | found (s : ActionSpecification β (BoundPayload π) ρ) (v : CreateValues (BoundPayload π))
      (existing : ActionProposal (BoundPayload π) ρ)
  | joining (s : ActionSpecification β (BoundPayload π) ρ) (v : CreateValues (BoundPayload π))
  | searching (s : ActionSpecification β (BoundPayload π) ρ) (v : CreateValues (BoundPayload π))
  | locking (s : ActionSpecification β (BoundPayload π) ρ) (v : CreateValues (BoundPayload π))
      (todo : List Uuid) (active : List (ActionProposal (BoundPayload π) ρ))
  | viewing (proposalId : Uuid)
  | failed (e : ServiceError)
  | failedFor (e : ServiceError) (customer proposalId : Uuid)
  | rejecting (e : ServiceError) (customer : Option Uuid)
      (overdue : Option (ActionProposal (BoundPayload π) ρ))

inductive ServiceLock where
  | customer (id : Uuid)
  | proposal (id : Uuid)
  | playbook (id : String)
  deriving DecidableEq

variable {β π ρ ι : Type}

def ServiceStage.after (x : Except ServiceError (ServiceStage β π ρ ι)) : ServiceStage β π ρ ι :=
  match x with
  | .ok s => s
  | .error e => .failed e

namespace ServiceCall

variable (c : ServiceCall β π ρ ι)

def engine (h : ProposalDigests (BoundPayload π) ρ) : Engine β (BoundPayload π) ρ :=
  ⟨h, c.catalog.registry, c.clock⟩

def scopeOf (customer : Uuid) : ProposalScope :=
  ⟨customer, c.context.supportSessionId, c.context.runtimeName, c.context.runtimeSessionId⟩

def resolveCustomerId (db : ProposalDb β (BoundPayload π) ρ) : Except ServiceError Uuid := do
  let identity := strip c.identity
  let user ← orRaise
    (db.users.first? fun u => u.authProviderUid = identity ∨ u.email = some identity ∨
      Uuid.parse? identity = some u.id)
    (.proposal (.scopeMismatch
      "Authenticated customer identity does not resolve to a banking customer." none))
  return user.id

def checkArguments : Except ServiceError Unit :=
  match c.operation with
  | .preparePlaybook .. | .propose .. => c.context.requireCustomerTurn
  | .commit .. => .ok ()
  | .decide _ decision => require (decision ≠ none)
      (rejected "Proposal decision must be DECLINE, REVISE, or CANCEL.")

def begin (db : ProposalDb β (BoundPayload π) ρ) :
    Except ServiceError (ServiceStage β π ρ ι) := do
  c.checkArguments
  let customer ← c.resolveCustomerId db
  return (match c.operation with
    | .propose actionType inputs _ => .proposing customer none actionType inputs
    | _ => .resolved customer)

/-- The first lookup of a playbook's earlier proposal, which must have the pinned revision. -/
def openPlaybook (db : ProposalDb β (BoundPayload π) ρ) (customer : Uuid) (playbookId : String)
    (revision : ℕ) (digest : String) : Except ServiceError (ServiceStage β π ρ ι) := do
  let s ← (c.catalog.registry.resolve playbookId revision digest).mapError fun _ =>
    rejected "The discovered playbook revision is unavailable; discover again."
  match findIdempotentProposal db (c.scopeOf customer) s.actionType c.operation.idempotencyKey with
  | none => return .unpublished customer s
  | some existing => do
    let pinned ← c.catalog.registry.forProposal existing
    require (pinned.definitionDigest = digest) (rejected "Retry the original proposal revision.")
    return .published customer s

/-- `_require_current_publication`, on the locked playbook. -/
def requireCurrentPublication (db : ProposalDb β (BoundPayload π) ρ)
    (s : ActionSpecification β (BoundPayload π) ρ) : Except ServiceError Unit := do
  let current ← orRaise (c.catalog.published db.bank s.definitionId)
    (rejected "The published playbook is unavailable; discover again.")
  require (current = (s.definitionRevision, s.definitionDigest))
    (rejected "The published playbook changed; discover again.")

def publicInputs (db : ProposalDb β (BoundPayload π) ρ) (customer : Uuid)
    (s : ActionSpecification β (BoundPayload π) ρ) (inputs : ι) :
    Except ServiceError (ServiceStage β π ρ ι) := do
  let operation := c.catalog.operationOf s
  rejectIf (operation.invalidPublicInputs inputs)
  let normalized ← operation.normalizePublicInputs db.bank c.identity inputs
  return .proposing customer (some s) s.actionType normalized

/-- The retried request has the trusted context of the one that made the proposal. -/
def SameContext (existing : ActionProposal (BoundPayload π) ρ) : Prop :=
  existing.scope.supportSessionId = c.context.supportSessionId ∧
    existing.scope.runtimeName = c.context.runtimeName ∧
    existing.scope.runtimeSessionId = c.context.runtimeSessionId ∧
    existing.originatingCustomerTurnId = c.context.customerTurnId ∧
    existing.resetGeneration = c.context.resetGeneration ∧
    existing.catalogSnapshotId = c.context.catalogSnapshotId

instance (existing : ActionProposal (BoundPayload π) ρ) : Decidable (c.SameContext existing) :=
  inferInstanceAs (Decidable (_ ∧ _))

/-- The specification that `propose_action` goes by: that of the earlier proposal, if any. -/
def specificationFor (existing : Option (ActionProposal (BoundPayload π) ρ))
    (s : Option (ActionSpecification β (BoundPayload π) ρ)) (actionType : String) :
    Except ServiceError (ActionSpecification β (BoundPayload π) ρ) :=
  match existing, s with
  | some existing, _ => c.catalog.registry.forProposal existing
  | none, some s => .ok s
  | none, none => c.catalog.registry.require actionType

/-- `propose_action` up to its own lookup of an earlier proposal. -/
def proposeAction (h : ProposalDigests (BoundPayload π) ρ) (db : ProposalDb β (BoundPayload π) ρ)
    (customer : Uuid) (s : Option (ActionSpecification β (BoundPayload π) ρ))
    (actionType : String) (inputs : ι) : Except ServiceError (ServiceStage β π ρ ι) := do
  let existing :=
    findIdempotentProposal db (c.scopeOf customer) actionType c.operation.idempotencyKey
  let s ← c.specificationFor existing s actionType
  let operation := c.catalog.operationOf s
  rejectIf (operation.invalidInputs inputs)
  let inputs := operation.normalizeBusinessInputs inputs
  match existing with
  | some p => do
    require (c.SameContext p ∧
        p.actionPayload.businessInputFingerprint = h.sha256 (c.catalog.inputsJson inputs))
      (.proposal (.conflict "Retry inputs or trusted scope changed for a different proposal."))
    return .repeated p
  | none => return .fresh customer s inputs

/-- The values of the new proposal, as the operation prepares them. -/
def prepareAction (h : ProposalDigests (BoundPayload π) ρ) (db : ProposalDb β (BoundPayload π) ρ)
    (customer : Uuid) (s : ActionSpecification β (BoundPayload π) ρ) (inputs : ι) :
    Except ServiceError (ServiceStage β π ρ ι) := do
  let operation := c.catalog.operationOf s
  let fingerprint := h.sha256 (c.catalog.inputsJson inputs)
  rejectIf (operation.invalidInputs inputs)
  let (accountId, facts, summary) ← operation.prepare db.bank inputs
    ⟨c.scopeOf customer, s.definitionDigest, c.context.customerTurnId, c.context.resetGeneration,
      c.operation.idempotencyKey, fingerprint⟩
  return .creating
    { id := c.proposalId, bankDecisionRef := c.catalog.bindingRef facts,
      definition := some (s.definitionId, s.definitionRevision, s.definitionDigest),
      contractVersion := s.contractVersion, actionType := s.actionType,
      scope := c.scopeOf customer, accountId := accountId,
      originatingCustomerTurnId := c.context.customerTurnId,
      resetGeneration := c.context.resetGeneration,
      confirmationPolicy := s.authorizationPolicy.decisionPolicy.value,
      actionPayload := ⟨facts, fingerprint⟩, customerSafeSummary := summary,
      catalogSnapshotId := c.context.catalogSnapshotId,
      idempotencyKey := c.operation.idempotencyKey, expiresAt := none }

/-- `_create` up to the lock on the customer's row. -/
def createProposal (h : ProposalDigests (BoundPayload π) ρ) (db : ProposalDb β (BoundPayload π) ρ)
    (v : CreateValues (BoundPayload π)) : Except ServiceError (ServiceStage β π ρ ι) := do
  let s ← (c.engine h).checkValues v
  return (match findIdempotentProposal db v.scope v.actionType v.idempotencyKey with
    | some existing => .found s v existing
    | none => .joining s v)

def lockActive (db : ProposalDb β (BoundPayload π) ρ)
    (s : ActionSpecification β (BoundPayload π) ρ) (v : CreateValues (BoundPayload π)) (id : Uuid)
    (todo : List Uuid) (active : List (ActionProposal (BoundPayload π) ρ)) :
    ServiceStage β π ρ ι :=
  match (db.proposals.get? id).filter fun p => ActiveInSession v.scope p with
  | some p => .locking s v todo (active ++ [p])
  | none => .locking s v todo active

def lockProposal (db : ProposalDb β (BoundPayload π) ρ) (customer id : Uuid) :
    Except ServiceError (ServiceStage β π ρ ι) := do
  let p ← getLocked db id
  return .held customer p

/-- `_commit_for_identity` on the locked row. -/
def commitForIdentity [DecidableEq ρ] (h : ProposalDigests (BoundPayload π) ρ)
    (db : ProposalDb β (BoundPayload π) ρ) (customer : Uuid)
    (p : ActionProposal (BoundPayload π) ρ) (expectedActionType : Option String) :
    Ending (ProposalDb β (BoundPayload π) ρ) (CommitAnswer ρ) :=
  let expected := expectedActionType.getD p.actionType
  let attested := do
    raised .proposal (p.validateScope (c.scopeOf customer) expected)
    (c.engine h).attestDecision db p c.context
  match attested with
  | .error e => .leave (.error e)
  | .ok (db, p) => (c.engine h).executeRegisteredCommit db p
      ⟨c.scopeOf customer, c.context.resetGeneration, expected⟩

def presentForDecision (p : ActionProposal (BoundPayload π) ρ)
    (evidence : ValidatedRuntimeEvidence) :
    Except ServiceError (Moved (BoundPayload π) ρ) := do
  let m ← raised .proposal (if p.status = .proposed then
      p.markPresented (some evidence.presentationTurnId) c.clock.presenting
    else .ok ⟨p, []⟩)
  require (m.proposal.presentedAssistantTurnId = some evidence.presentationTurnId)
    (.proposal (.presentAgain .proposalScopeError
      "Proposal presentation does not belong to the protected turn." p.id))
  require (evidence.decisionTurnId ≠ p.originatingCustomerTurnId)
    (.proposal (.decideLater .proposalTransitionError
      "A proposal decision must come from a later customer turn." p.id))
  return m

def applyDecision (p : ActionProposal (BoundPayload π) ρ) (evidence : ValidatedRuntimeEvidence)
    (decision : NonCommitDecision) : Except ProposalError (Moved (BoundPayload π) ρ) :=
  let turn := some evidence.decisionTurnId
  let q := p.decidedOn turn (some evidence.protectedEvidence)
  match decision with
  | .decline => q.decline turn c.clock.deciding
  | .revise | .cancel => q.invalidate decision.reason c.clock.deciding

def decideCurrent (h : ProposalDigests (BoundPayload π) ρ)
    (db : ProposalDb β (BoundPayload π) ρ) (p : ActionProposal (BoundPayload π) ρ)
    (evidence : ValidatedRuntimeEvidence) (decision : NonCommitDecision) :
    Ending (ProposalDb β (BoundPayload π) ρ) (ServiceAnswer π ρ) :=
  match c.presentForDecision p evidence with
  | .error e => .leave (.error e)
  | .ok m =>
    if m.proposal.status = .declined ∨ m.proposal.status = .invalidated then
      if m.proposal.status = decision.status ∧
          m.proposal.invalidationReason = some decision.reason then
        .leave (.ok (.decided m.proposal decision true))
      else .leave (.error (.proposal (.stateInvalid ("Proposal is already terminal in " ++
        m.proposal.status.value ++ " state.") none)))
    else
      let decided := do
        let d ← raised .proposal (c.applyDecision m.proposal evidence decision)
        let db ← (c.engine h).advanceAll db (m.recorded ++ d.recorded)
        return (db, d.proposal)
      match decided with
      | .error e => .leave (.error e)
      | .ok (db, p) => .commit db (.ok (.decided p decision false))

/-- `decide_for_identity` on the locked row. -/
def decideForIdentity (h : ProposalDigests (BoundPayload π) ρ)
    (db : ProposalDb β (BoundPayload π) ρ) (customer : Uuid)
    (p : ActionProposal (BoundPayload π) ρ) (decision : NonCommitDecision) :
    Ending (ProposalDb β (BoundPayload π) ρ) (ServiceAnswer π ρ) :=
  let validated := do
    raised .proposal (p.validateScope (c.scopeOf customer) p.actionType)
    (c.engine h).validateDecisionEvidence p c.context
  match validated with
  | .error e => .leave (.error e)
  | .ok evidence =>
    if p.resetGeneration = c.context.resetGeneration then c.decideCurrent h db p evidence decision
    else if p.status.isActive then
      -- the invalidation stays, although the request fails
      let invalidated := do
        let m ← raised .proposal (p.invalidate "RESET_GENERATION_CHANGED" c.clock.deciding)
        (c.engine h).advanceAll db m.recorded
      match invalidated with
      | .error e => .leave (.error e)
      | .ok db => .commit db (.error (.proposal (.resetGenerationChanged p.id)))
    else .leave (.error (.proposal (.resetGenerationChanged p.id)))

/-- `audited_request` after the rollback: who the rejection is recorded for, and which proposal
may have to expire with it. -/
def beginRejection (db : ProposalDb β (BoundPayload π) ρ) (e : ServiceError) :
    ServiceStage β π ρ ι :=
  match c.resolveCustomerId db with
  | .error _ => .rejecting e none none
  | .ok customer =>
    match e, c.operation.proposalId with
    | .proposal error, some id =>
      if error.code = "PROPOSAL_EXPIRED" then .failedFor e customer id
      else .rejecting e (some customer) none
    | _, _ => .rejecting e (some customer) none

def lockOverdue (db : ProposalDb β (BoundPayload π) ρ) (e : ServiceError) (customer id : Uuid) :
    ServiceStage β π ρ ι :=
  .rejecting e (some customer)
    ((db.proposals.get? id).filter fun p => p.scope = c.scopeOf customer)

def reject (h : ProposalDigests (BoundPayload π) ρ) (db : ProposalDb β (BoundPayload π) ρ)
    (e : ServiceError) (customer : Option Uuid)
    (overdue : Option (ActionProposal (BoundPayload π) ρ)) :
    Except ServiceError (ProposalDb β (BoundPayload π) ρ) := do
  let due := overdue.filter fun p => p.status ≠ .committing ∧ p.Overdue c.clock.rejecting
  let db ← (match due with
    | some p => (c.engine h).recordDisposition db (p.expiredAt c.clock.rejecting)
    | none => .ok db)
  recordRejection db c.rejectionId c.clock.rejecting c.operation.requestOperation customer e
    c.operation.proposalId

def action : ServiceStage β π ρ ι → Action ServiceLock
  | .resolved _ =>
    match c.operation.proposalId with
    | some id => .lock (.proposal id)
    | none => .read
  | .unpublished _ s | .fresh _ s _ => .lock (.playbook s.definitionId)
  | .joining _ v => .lock (.customer v.scope.customerId)
  | .locking _ _ (id :: _) _ => .lock (.proposal id)
  | .failed _ => if c.identity = "" then .run [] else .read
  | .failedFor _ _ id => .lock (.proposal id)
  | .start | .published _ _ | .proposing _ _ _ _ | .preparing _ _ _ | .creating _
  | .searching _ _ => .read
  | .held _ _ | .repeated _ | .found _ _ _ | .locking _ _ [] _ | .viewing _
  | .rejecting _ _ _ => .run []

def observe (h : ProposalDigests (BoundPayload π) ρ) (db : ProposalDb β (BoundPayload π) ρ) :
    ServiceStage β π ρ ι → ServiceStage β π ρ ι
  | .start => .after (c.begin db)
  | .resolved customer =>
    match c.operation with
    | .preparePlaybook playbookId revision digest _ _ =>
      .after (c.openPlaybook db customer playbookId revision digest)
    | .propose actionType inputs _ => .proposing customer none actionType inputs
    | .commit id _ | .decide id _ => .after (lockProposal db customer id)
  | .unpublished customer s => .after do
    c.requireCurrentPublication db s
    return .published customer s
  | .published customer s =>
    match c.operation with
    | .preparePlaybook _ _ _ inputs _ => .after (c.publicInputs db customer s inputs)
    | _ => .resolved customer
  | .proposing customer s actionType inputs =>
    .after (c.proposeAction h db customer s actionType inputs)
  | .fresh customer s inputs => .after do
    c.requireCurrentPublication db s
    return .preparing customer s inputs
  | .preparing customer s inputs => .after (c.prepareAction h db customer s inputs)
  | .creating v => .after (c.createProposal h db v)
  | .joining s v => .searching s v
  | .searching s v => .locking s v
      ((olderFirst (db.proposals.select (ActiveInSession v.scope))).map fun p => p.id) []
  | .locking s v (id :: todo) active => lockActive db s v id todo active
  | .failed e => c.beginRejection db e
  | .failedFor e customer id => c.lockOverdue db e customer id
  | stage => stage

def settle {α : Type} (f : α → ServiceAnswer π ρ) (db : ProposalDb β (BoundPayload π) ρ) :
    Ending (ProposalDb β (BoundPayload π) ρ) α →
    Outcome (ProposalDb β (BoundPayload π) ρ) (ServiceStage β π ρ ι)
      (Except ServiceError (ServiceAnswer π ρ))
  | .commit db' (.ok a) => .finish db' (.ok (f a))
  | .commit db' (.error e) => .resume db' (.failed e)
  | .leave (.ok a) => .finish db (.ok (f a))
  | .leave (.error e) => .resume db (.failed e)

def settleCreated (db : ProposalDb β (BoundPayload π) ρ) :
    Except ServiceError (ProposalDb β (BoundPayload π) ρ × ActionProposal (BoundPayload π) ρ) →
    Outcome (ProposalDb β (BoundPayload π) ρ) (ServiceStage β π ρ ι)
      (Except ServiceError (ServiceAnswer π ρ))
  | .ok (db', p) => .resume db' (.viewing p.id)
  | .error e => .resume db (.failed e)

def body [DecidableEq ρ] (h : ProposalDigests (BoundPayload π) ρ)
    (db : ProposalDb β (BoundPayload π) ρ) :
    ServiceStage β π ρ ι → Outcome (ProposalDb β (BoundPayload π) ρ) (ServiceStage β π ρ ι)
      (Except ServiceError (ServiceAnswer π ρ))
  | .held customer p =>
    match c.operation with
    | .commit _ expected => settle .commit db (c.commitForIdentity h db customer p expected)
    | .decide _ (some decision) => settle id db (c.decideForIdentity h db customer p decision)
    | _ => .resume db .start
  | .repeated p => .resume db (.viewing p.id)
  | .found s v existing =>
    settleCreated db ((c.engine h).createUnderLock db s v (some existing) [])
  | .locking s v _ active => settleCreated db ((c.engine h).createUnderLock db s v none active)
  | .viewing id => .finish db ((fun p => .view p) <$> getLocked db id)
  | .failed e => .finish db (.error e)
  | .rejecting e customer overdue =>
    match c.reject h db e customer overdue with
    | .ok db' => .finish db' (.error e)
    | .error other => .finish db (.error other)
  | _ => .resume db .start

end ServiceCall

/-- Rows known to be behind the committed cursor of the relay are pruned, never a snapshot. -/
def pruneHistoricalAuditEvents (db : ProposalDb β π ρ) (retained : Timestamp)
    (checkpoint : Option Timestamp) : ProposalDb β π ρ :=
  match checkpoint with
  | none => db
  | some checkpoint =>
    let outbox := db.outbox.remove fun e =>
      e.createdAt < min retained checkpoint ∧ e.eventType ≠ snapshotEventType
    { db with outbox := outbox }

/-- The service as sessions at READ COMMITTED. -/
def proposalService [DecidableEq ρ] (h : ProposalDigests (BoundPayload π) ρ) :
    Program (ProposalDb β (BoundPayload π) ρ) (ServiceRequest β π ρ ι)
      (fun _ => ServiceStage β π ρ ι) ServiceLock (Except ServiceError (ServiceAnswer π ρ)) where
  enter _ := .start
  action
    | .call c, stage => c.action stage
    | .prune _ _, _ => .run []
  observe db
    | .call c, stage => c.observe h db stage
    | .prune _ _, stage => stage
  body db
    | .call c, stage => c.body h db stage
    | .prune retained checkpoint, _ =>
      let pruned := pruneHistoricalAuditEvents db retained checkpoint
      .finish pruned (.ok (.pruned (db.outbox.rows.length - pruned.outbox.rows.length)))

end BankingService
