import BankingService.ProposalAudit

/-! The engine over the stored proposals: creating one, and executing any registered action
through one transaction that moves the proposal, runs the handler and records both. -/
namespace BankingService

open Python Relational Checked

structure TypedActionHandler (β π ρ : Type) where
  commitPendingMessage : ActionProposal π ρ → String
  reconcile : β → ActionProposal π ρ → Except ServiceError (Option ρ)
  validateCurrentPreconditions : β → ActionProposal π ρ → Except ServiceError Unit
  recordCommitStarted : β → ActionProposal π ρ → Except ServiceError β
  execute : β → ActionProposal π ρ → Except ServiceError (β × ρ)
  recordCommitted : β → ActionProposal π ρ → ρ → Except ServiceError β
  recordReconciled : β → ActionProposal π ρ → ρ → Except ServiceError β

/-- `invalidPayload` and `invalidResult` are the texts that the schema checks raise. -/
structure ActionSpecification (β π ρ : Type) where
  definitionId : String
  definitionRevision : ℕ
  definitionDigest : String
  actionType : String
  contractVersion : String
  authorizationPolicy : AuthorizationPolicy
  presentationRequirement : PresentationRequirement
  invalidPayload : π → Option String
  invalidResult : ρ → Option String
  handler : TypedActionHandler β π ρ

structure ActionRegistry (β π ρ : Type) where
  versions : List (ActionSpecification β π ρ)
  current : List (ActionSpecification β π ρ)

variable {β π ρ : Type}

def valueError (message : String) : ServiceError := .python (.valueError message)

namespace ActionRegistry

def require (g : ActionRegistry β π ρ) (actionType : String) :
    Except ServiceError (ActionSpecification β π ρ) :=
  orRaise (g.current.find? fun s => s.actionType = actionType)
    (valueError ("Action type is not registered: " ++ actionType ++ "."))

def resolve (g : ActionRegistry β π ρ) (definitionId : String) (revision : ℕ) (digest : String) :
    Except ServiceError (ActionSpecification β π ρ) :=
  orRaise ((g.versions.find? fun s =>
      s.definitionId = definitionId ∧ s.definitionRevision = revision).filter
      fun s => s.definitionDigest = digest)
    (valueError "Unknown or changed action definition revision.")

def forProposal (g : ActionRegistry β π ρ) (p : ActionProposal π ρ) :
    Except ServiceError (ActionSpecification β π ρ) := do
  let specification ← g.resolve p.definitionId p.definitionRevision p.definitionDigest
  Checked.require (specification.actionType = p.actionType ∧
      specification.contractVersion = p.contractVersion)
    (valueError "Proposal definition does not match its action contract.")
  return specification

end ActionRegistry

structure Clock where
  creating : Timestamp
  presenting : Timestamp
  confirming : Timestamp
  claiming : Timestamp
  completing : Timestamp
  deciding : Timestamp
  rejecting : Timestamp
  recordedAt : Uuid → Stage → Timestamp

structure Engine (β π ρ : Type) where
  digests : ProposalDigests π ρ
  registry : ActionRegistry β π ρ
  clock : Clock

/-- `_record_transition`, which finds the specification of the proposal again. -/
def Engine.record (e : Engine β π ρ) (db : ProposalDb β π ρ) (p : ActionProposal π ρ)
    (stage : Stage) : Except ServiceError (ProposalDb β π ρ) := do
  let _ ← e.registry.forProposal p
  recordTransition e.digests db p stage (e.clock.recordedAt p.id stage)

/-- Writes the row as it is now and records the stage that it has reached. -/
def Engine.advance (e : Engine β π ρ) (db : ProposalDb β π ρ) (stage : Stage)
    (p : ActionProposal π ρ) : Except ServiceError (ProposalDb β π ρ) := do
  let db ← saveProposal db p
  e.record db p stage

def Engine.advanceAll (e : Engine β π ρ) (db : ProposalDb β π ρ) :
    List (Stage × ActionProposal π ρ) → Except ServiceError (ProposalDb β π ρ)
  | [] => .ok db
  | (stage, p) :: moves => do
    let db ← e.advance db stage p
    e.advanceAll db moves

def Engine.recordDisposition (e : Engine β π ρ) (db : ProposalDb β π ρ)
    (p : ActionProposal π ρ) : Except ServiceError (ProposalDb β π ρ) :=
  e.advance db p.status.stage p

structure CreateValues (π : Type) where
  id : Uuid
  bankDecisionRef : Option String
  definition : Option (String × ℕ × String)
  contractVersion : String
  actionType : String
  scope : ProposalScope
  accountId : Option Uuid
  originatingCustomerTurnId : String
  resetGeneration : String
  confirmationPolicy : String
  actionPayload : π
  customerSafeSummary : String
  catalogSnapshotId : Option String
  idempotencyKey : String
  expiresAt : Option Timestamp

def CreateValues.requiredStrings (v : CreateValues π) : List (String × String) :=
  [("contract_version", v.contractVersion), ("action_type", v.actionType),
    ("support_session_id", v.scope.supportSessionId), ("runtime_name", v.scope.runtimeName),
    ("runtime_session_id", v.scope.runtimeSessionId),
    ("originating_customer_turn_id", v.originatingCustomerTurnId),
    ("reset_generation", v.resetGeneration), ("confirmation_policy", v.confirmationPolicy),
    ("customer_safe_summary", v.customerSafeSummary), ("idempotency_key", v.idempotencyKey)]

def rejected (message : String) : ServiceError := .proposal (.rejected message)

def rejectIf (message : Option String) : Except ServiceError Unit :=
  match message with
  | none => .ok ()
  | some message => .error (rejected message)

theorem rejectIf_eq_ok {message : Option String} {u : Unit} :
    rejectIf message = .ok u ↔ message = none := by
  cases message <;> simp [rejectIf]

def findIdempotentProposal (db : ProposalDb β π ρ) (scope : ProposalScope)
    (actionType idempotencyKey : String) : Option (ActionProposal π ρ) :=
  db.proposals.first? fun p => p.scope.customerId = scope.customerId ∧
    p.scope.supportSessionId = scope.supportSessionId ∧ p.actionType = actionType ∧
    p.idempotencyKey = idempotencyKey

def Engine.checkValues (e : Engine β π ρ) (v : CreateValues π) :
    Except ServiceError (ActionSpecification β π ρ) := do
  rejectIf ((v.requiredStrings.find? fun f => strip f.2 = "").map fun f => f.1 ++ " is required.")
  let specification ← (match v.definition with
    | some (definitionId, revision, digest) => e.registry.resolve definitionId revision digest
    | none => e.registry.require v.actionType)
  require (v.actionType = specification.actionType)
    (rejected "Action type does not match definition.")
  require (v.contractVersion = specification.contractVersion)
    (rejected "Action contract version does not match registration.")
  require (v.confirmationPolicy = specification.authorizationPolicy.decisionPolicy.value)
    (rejected "Confirmation policy does not match registration.")
  rejectIf (specification.invalidPayload v.actionPayload)
  return specification

def Engine.proposalOf (e : Engine β π ρ) (specification : ActionSpecification β π ρ)
    (v : CreateValues π) (expiresAt : Timestamp) : ActionProposal π ρ :=
  { id := v.id, bankDecisionRef := v.bankDecisionRef,
    definitionId := specification.definitionId,
    definitionRevision := specification.definitionRevision,
    definitionDigest := specification.definitionDigest, contractVersion := v.contractVersion,
    actionType := v.actionType, status := .proposed, scope := v.scope, accountId := v.accountId,
    originatingCustomerTurnId := v.originatingCustomerTurnId,
    resetGeneration := v.resetGeneration, confirmationPolicy := v.confirmationPolicy,
    actionPayload := v.actionPayload,
    payloadFingerprint := e.digests.sha256 (e.digests.payloadJson v.actionPayload),
    customerSafeSummary := v.customerSafeSummary, catalogSnapshotId := v.catalogSnapshotId,
    idempotencyKey := v.idempotencyKey, presentedAssistantTurnId := none,
    confirmationCustomerTurnId := none, confirmationEvidence := none, resultPayload := none,
    invalidationReason := none, expiresAt := expiresAt, createdAt := e.clock.creating,
    presentedAt := none, confirmedAt := none, commitStartedAt := none, completedAt := none }

/-- A repeated call must repeat the immutable columns of the row that it made. -/
def validateIdempotentReplay (existing q : ActionProposal π ρ) :
    Except ServiceError (ActionProposal π ρ) := do
  require (existing.payloadFingerprint = q.payloadFingerprint ∧
      existing.definitionId = q.definitionId ∧
      existing.definitionRevision = q.definitionRevision ∧
      existing.definitionDigest = q.definitionDigest ∧ existing.accountId = q.accountId ∧
      existing.contractVersion = q.contractVersion ∧
      existing.scope.runtimeName = q.scope.runtimeName ∧
      existing.scope.runtimeSessionId = q.scope.runtimeSessionId ∧
      existing.originatingCustomerTurnId = q.originatingCustomerTurnId ∧
      existing.resetGeneration = q.resetGeneration ∧
      existing.confirmationPolicy = q.confirmationPolicy ∧
      existing.customerSafeSummary = q.customerSafeSummary ∧
      existing.catalogSnapshotId = q.catalogSnapshotId)
    (.proposal (.conflict "Idempotency key is already bound to a different proposal."))
  return existing

def ActiveInSession (scope : ProposalScope) (p : ActionProposal π ρ) : Prop :=
  p.scope.customerId = scope.customerId ∧ p.scope.supportSessionId = scope.supportSessionId ∧
    p.status.isActive

instance (scope : ProposalScope) : DecidablePred (ActiveInSession (π := π) (ρ := ρ) scope) :=
  fun _ => inferInstanceAs (Decidable (_ ∧ _))

def olderFirst (l : List (ActionProposal π ρ)) : List (ActionProposal π ρ) :=
  l.mergeSort fun a b => a.createdAt < b.createdAt ∨
    (a.createdAt = b.createdAt ∧ a.id.str ≤ b.id.str)

/-- The overdue proposals of a support session expire; the first one that stays is returned. -/
def Engine.expireOverdue (e : Engine β π ρ) (db : ProposalDb β π ρ) :
    List (ActionProposal π ρ) →
    Except ServiceError (ProposalDb β π ρ × Option (ActionProposal π ρ))
  | [] => .ok (db, none)
  | p :: l =>
    if p.status ≠ .committing ∧ p.expiresAt ≤ e.clock.creating then do
      let db ← e.recordDisposition db (p.expiredAt e.clock.creating)
      e.expireOverdue db l
    else do
      let (db, _) ← e.expireOverdue db l
      return (db, some p)

def Engine.insertProposal (e : Engine β π ρ) (db : ProposalDb β π ρ) (p : ActionProposal π ρ) :
    Except ServiceError (ProposalDb β π ρ) := do
  let proposals ← raised .python (insert db.proposals p)
  e.record { db with proposals := proposals } p .proposed

/-- `create` once its arguments are checked. `looked` is what the idempotency lookup found, before
the customer's row was locked; `active` are the session's active proposals, locked. -/
def Engine.createUnderLock (e : Engine β π ρ) (db : ProposalDb β π ρ)
    (specification : ActionSpecification β π ρ) (v : CreateValues π)
    (looked : Option (ActionProposal π ρ)) (active : List (ActionProposal π ρ)) :
    Except ServiceError (ProposalDb β π ρ × ActionProposal π ρ) := do
  let now := e.clock.creating
  let expiresAt := v.expiresAt.getD (now + DEFAULT_PROPOSAL_TTL_SECONDS * 1000000)
  let proposal := e.proposalOf specification v expiresAt
  match looked with
  | some existing => do
    let existing ← validateIdempotentReplay existing proposal
    return (db, existing)
  | none => do
    let (db, blocking) ← e.expireOverdue db (olderFirst active)
    match blocking with
    | some p => .error (.proposal (.activeExists
        ("Active proposal " ++ p.id.str ++ " blocks replacement in this session.") p.id))
    | none => do
      require (now < expiresAt) (rejected "Proposal expiration must be in the future.")
      match e.insertProposal db proposal with
      | .ok db => return (db, proposal)
      | .error (.python .integrityError) =>
        match findIdempotentProposal db v.scope v.actionType v.idempotencyKey with
        | some existing => do
          let existing ← validateIdempotentReplay existing proposal
          return (db, existing)
        | none =>
          match (olderFirst (db.proposals.select (ActiveInSession v.scope))).head? with
          | some p => .error (.proposal (.activeExists
              ("Concurrent active proposal " ++ p.id.str ++ " won this session scope.") p.id))
          | none => .error (.python .integrityError)
      | .error error => .error error

/-- `create` as one undisturbed transaction. -/
def Engine.create (e : Engine β π ρ) (db : ProposalDb β π ρ) (v : CreateValues π) :
    Except ServiceError (ProposalDb β π ρ × ActionProposal π ρ) := do
  let specification ← e.checkValues v
  e.createUnderLock db specification v
    (findIdempotentProposal db v.scope v.actionType v.idempotencyKey)
    (db.proposals.select (ActiveInSession v.scope))

def getLocked (db : ProposalDb β π ρ) (proposalId : Uuid) :
    Except ServiceError (ActionProposal π ρ) :=
  orRaise (db.proposals.get? proposalId)
    (.proposal (.scopeMismatch "Action proposal was not found." none))

def Engine.validateDecisionEvidence (e : Engine β π ρ) (p : ActionProposal π ρ)
    (context : ProposalRuntimeContext) : Except ServiceError ValidatedRuntimeEvidence := do
  let specification ← e.registry.forProposal p
  raised (fun message =>
      .proposal (.presentAgain .proposalTransitionError message p.id))
    (validateDecision context specification.authorizationPolicy
      specification.presentationRequirement none)

/-- `attest_decision`, with its writes. -/
def Engine.attestDecision (e : Engine β π ρ) (db : ProposalDb β π ρ) (p : ActionProposal π ρ)
    (context : ProposalRuntimeContext) :
    Except ServiceError (ProposalDb β π ρ × ActionProposal π ρ) := do
  let evidence ← e.validateDecisionEvidence p context
  let m ← raised .proposal (p.attest evidence e.clock.presenting e.clock.confirming)
  let db ← e.advanceAll db m.recorded
  return (db, m.proposal)

/-- How a call ends: with a commit, or without one, so that nothing of it stays. -/
inductive Ending (σ α : Type) where
  | commit (db : σ) (answer : Except ServiceError α)
  | leave (answer : Except ServiceError α)

inductive CommitAnswer (ρ : Type) where
  | result (payload : Option ρ) (proposalId : Uuid) (actionType contractVersion : String)
      (status : ProposalStatus) (idempotentReplay : Bool)
  | pending (proposalId : Uuid) (actionType message : String)
  deriving DecidableEq

def proposalResult (p : ActionProposal π ρ) (idempotentReplay : Bool) : CommitAnswer ρ :=
  .result p.resultPayload p.id p.actionType p.contractVersion p.status idempotentReplay

/-- A disposition that is committed although the call raises. -/
def Engine.commitDisposition (e : Engine β π ρ) (db : ProposalDb β π ρ) (p : ActionProposal π ρ)
    (error : ProposalError) : Ending (ProposalDb β π ρ) (CommitAnswer ρ) :=
  match e.recordDisposition db p with
  | .ok db => .commit db (.error (.proposal error))
  | .error other => .leave (.error other)

variable [DecidableEq ρ]

/-- The stored result of an action that an earlier call left unfinished. -/
def Engine.reconcile (e : Engine β π ρ) (db : ProposalDb β π ρ)
    (specification : ActionSpecification β π ρ) (p : ActionProposal π ρ) :
    Except ServiceError (Option (ProposalDb β π ρ × ActionProposal π ρ)) := do
  match ← specification.handler.reconcile db.bank p with
  | none => return none
  | some result => do
    rejectResult (specification.invalidResult result)
    let m ← raised .proposal (p.markCommitted result e.clock.completing)
    let db ← e.advanceAll db m.recorded
    let db ← e.record db m.proposal .commitReconciled
    let bank ← specification.handler.recordReconciled db.bank m.proposal result
    return some ({ db with bank := bank }, m.proposal)
where
  rejectResult (message : Option String) : Except ServiceError Unit :=
    match message with
    | none => .ok ()
    | some message => .error (valueError message)

/-- The handler runs and the proposal is committed with its result. -/
def Engine.execute (e : Engine β π ρ) (db : ProposalDb β π ρ)
    (specification : ActionSpecification β π ρ) (p : ActionProposal π ρ) :
    Except ServiceError (ProposalDb β π ρ × ActionProposal π ρ) := do
  let bank ← specification.handler.recordCommitStarted db.bank p
  let (bank, result) ← specification.handler.execute bank p
  reconcile.rejectResult (specification.invalidResult result)
  let m ← raised .proposal (p.markCommitted result e.clock.completing)
  let db ← e.advanceAll { db with bank := bank } m.recorded
  let bank ← specification.handler.recordCommitted db.bank m.proposal result
  return ({ db with bank := bank }, m.proposal)

/-- A claimed proposal: its preconditions are checked again, then the action is executed. -/
def Engine.executeClaimed (e : Engine β π ρ) (db : ProposalDb β π ρ)
    (specification : ActionSpecification β π ρ) (p : ActionProposal π ρ) :
    Ending (ProposalDb β π ρ) (CommitAnswer ρ) :=
  match specification.handler.validateCurrentPreconditions db.bank p with
  | .error (.proposal error) =>
    match error.errorClass with
    | .actionPreconditionError reason =>
      e.commitDisposition db (p.invalidatedFor reason e.clock.completing)
        { error with proposal := some p.id }
    | _ => .leave (.error (.proposal error))
  | .error error => .leave (.error error)
  | .ok () =>
    match e.execute db specification p with
    | .ok (db, p) => .commit db (.ok (proposalResult p false))
    | .error error => .leave (.error error)

/-- `execute_registered_commit` on the locked row. `db` may hold writes of the same transaction. -/
def Engine.executeRegisteredCommit (e : Engine β π ρ) (db : ProposalDb β π ρ)
    (p : ActionProposal π ρ) (r : CommitScope) : Ending (ProposalDb β π ρ) (CommitAnswer ρ) :=
  match e.registry.forProposal p with
  | .error error => .leave (.error error)
  | .ok specification =>
    match p.claimCommit r e.clock.claiming with
    | .refused q error =>
      if q.status = .invalidated ∨ q.status = .expired then e.commitDisposition db q error
      else .leave (.error (.proposal error))
    | .held =>
      if p.status = .committed then .leave (.ok (proposalResult p true))
      else
        match e.reconcile db specification p with
        | .error error => .leave (.error error)
        | .ok none => .leave (.ok (.pending p.id p.actionType
            (specification.handler.commitPendingMessage p)))
        | .ok (some (db, p)) => .commit db (.ok (proposalResult p true))
    | .claimed q =>
      match e.advance db .commitStarted q with
      | .error error => .leave (.error error)
      | .ok db => e.executeClaimed db specification q

def Ending.db {σ α : Type} (committed : σ) : Ending σ α → σ
  | .commit db _ => db
  | .leave _ => committed

def Ending.answer {σ α : Type} : Ending σ α → Except ServiceError α
  | .commit _ answer => answer
  | .leave answer => answer

end BankingService
