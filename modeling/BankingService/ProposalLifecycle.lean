import BankingService.ProposalProtocol

/-! The lifecycle of one proposal, as the engine moves the row that it has locked: presented,
confirmed, committed, or ended by a decline, an expiry or an invalidation. -/
namespace BankingService

open Python Relational Checked

variable {π ρ : Type}

def DEFAULT_PROPOSAL_TTL_SECONDS : ℕ := 180

def ProposalStatus.value : ProposalStatus → String
  | proposed => "PROPOSED"
  | presented => "PRESENTED"
  | confirmed => "CONFIRMED"
  | committing => "COMMITTING"
  | committed => "COMMITTED"
  | declined => "DECLINED"
  | invalidated => "INVALIDATED"
  | expired => "EXPIRED"

/-- The stages that an audit event is recorded for. -/
inductive Stage where
  | proposed
  | presented
  | confirmed
  | commitStarted
  | committed
  | commitReconciled
  | declined
  | invalidated
  | expired
  deriving DecidableEq

def Stage.value : Stage → String
  | proposed => "PROPOSED"
  | presented => "PRESENTED"
  | confirmed => "CONFIRMED"
  | commitStarted => "COMMIT_STARTED"
  | committed => "COMMITTED"
  | commitReconciled => "COMMIT_RECONCILED"
  | declined => "DECLINED"
  | invalidated => "INVALIDATED"
  | expired => "EXPIRED"

def ProposalStatus.stage : ProposalStatus → Stage
  | proposed => .proposed
  | presented => .presented
  | confirmed => .confirmed
  | committing => .commitStarted
  | committed => .committed
  | declined => .declined
  | invalidated => .invalidated
  | expired => .expired

/-- What a call made of the row, and the states of it that it recorded, in order. -/
structure Moved (π ρ : Type) where
  proposal : ActionProposal π ρ
  recorded : List (Stage × ActionProposal π ρ)

namespace ActionProposal

def expiredAt (p : ActionProposal π ρ) (now : Timestamp) : ActionProposal π ρ :=
  { p with
    status := .expired, invalidationReason := some "PROPOSAL_EXPIRED", completedAt := some now }

def invalidatedFor (p : ActionProposal π ρ) (reason : String) (now : Timestamp) :
    ActionProposal π ρ :=
  { p with status := .invalidated, invalidationReason := some reason, completedAt := some now }

def presentedOn (p : ActionProposal π ρ) (turn : Option String) (now : Timestamp) :
    ActionProposal π ρ :=
  { p with status := .presented, presentedAssistantTurnId := turn, presentedAt := some now }

def confirmedBy (p : ActionProposal π ρ) (turn : Option String) (evidence : Evidence)
    (now : Timestamp) : ActionProposal π ρ :=
  { p with
    status := .confirmed, confirmationCustomerTurnId := turn,
    confirmationEvidence := some evidence, confirmedAt := some now }

def declinedBy (p : ActionProposal π ρ) (turn : Option String) (now : Timestamp) :
    ActionProposal π ρ :=
  { p with
    status := .declined, confirmationCustomerTurnId := turn,
    invalidationReason := some "CUSTOMER_DECLINED", completedAt := some now }

/-- The columns that a decision other than a commit fills in. -/
def decidedOn (p : ActionProposal π ρ) (turn : Option String) (evidence : Option Evidence) :
    ActionProposal π ρ :=
  { p with confirmationCustomerTurnId := turn, confirmationEvidence := evidence }

def claimedAt (p : ActionProposal π ρ) (now : Timestamp) : ActionProposal π ρ :=
  { p with status := .committing, commitStartedAt := some now }

def completedWith (p : ActionProposal π ρ) (result : ρ) (now : Timestamp) : ActionProposal π ρ :=
  { p with status := .committed, resultPayload := some result, completedAt := some now }

def Overdue (p : ActionProposal π ρ) (now : Timestamp) : Prop :=
  p.status.isActive ∧ p.expiresAt ≤ now

instance (p : ActionProposal π ρ) (now : Timestamp) : Decidable (p.Overdue now) :=
  inferInstanceAs (Decidable (_ ∧ _))

/-- `_expire_if_needed`, where the caller lets the expiry go with the rollback. -/
def expireIfNeeded (p : ActionProposal π ρ) (now : Timestamp) : Except ProposalError Unit :=
  require (¬ p.Overdue now) (.expired p.id)

def requireStatus (p : ActionProposal π ρ) (required : ProposalStatus) (transition : String) :
    Except ProposalError Unit :=
  require (p.status = required) (.stateInvalid ("Cannot " ++ transition ++ " proposal in " ++
    p.status.value ++ " status; expected " ++ required.value ++ ".") (some p.id))

def validateScope (p : ActionProposal π ρ) (scope : ProposalScope) (expectedActionType : String) :
    Except ProposalError Unit :=
  require (p.scope = scope ∧ p.actionType = expectedActionType) (.scopeMismatch
    "Action proposal does not belong to this customer and runtime session." (some p.id))

def markPresented (p : ActionProposal π ρ) (assistantTurnId : Option String) (now : Timestamp) :
    Except ProposalError (Moved π ρ) := do
  p.expireIfNeeded now
  if p.status = .presented then do
    require (p.presentedAssistantTurnId = assistantTurnId)
      (.presentAgain .proposalConflictError
        "Proposal was already presented on a different assistant turn." p.id)
    return ⟨p, []⟩
  else do
    p.requireStatus .proposed "present"
    let q := p.presentedOn assistantTurnId now
    return ⟨q, [(.presented, q)]⟩

def confirm (p : ActionProposal π ρ) (customerTurnId : Option String) (evidence : Evidence)
    (now : Timestamp) : Except ProposalError (Moved π ρ) := do
  p.expireIfNeeded now
  if p.status = .confirmed then do
    require (p.confirmationCustomerTurnId = customerTurnId)
      (.presentAgain .proposalConflictError
        "Proposal was already confirmed on a different customer turn." p.id)
    return ⟨p, []⟩
  else do
    p.requireStatus .presented "confirm"
    require (truthy customerTurnId ≠ none ∧ customerTurnId ≠ some p.originatingCustomerTurnId)
      (.decideLater .proposalTransitionError
        "Confirmation must come from a later real customer turn." p.id)
    require (evidence ≠ [])
      (.decideLater .proposalError "Protected confirmation evidence is required." p.id)
    let q := p.confirmedBy customerTurnId evidence now
    return ⟨q, [(.confirmed, q)]⟩

/-- `attest_decision` on validated evidence: presents and confirms as far as the row still is. -/
def attest (p : ActionProposal π ρ) (evidence : ValidatedRuntimeEvidence)
    (presenting confirming : Timestamp) : Except ProposalError (Moved π ρ) := do
  let m ← (if p.status = .proposed then
      p.markPresented (some evidence.presentationTurnId) presenting
    else .ok ⟨p, []⟩)
  if m.proposal.status = .presented then do
    let c ← m.proposal.confirm (some evidence.decisionTurnId) evidence.protectedEvidence confirming
    return ⟨c.proposal, m.recorded ++ c.recorded⟩
  else return m

def decline (p : ActionProposal π ρ) (customerTurnId : Option String) (now : Timestamp) :
    Except ProposalError (Moved π ρ) := do
  p.expireIfNeeded now
  if p.status = .declined then return ⟨p, []⟩
  else do
    p.requireStatus .presented "decline"
    let q := p.declinedBy customerTurnId now
    return ⟨q, [(.declined, q)]⟩

def invalidate (p : ActionProposal π ρ) (reason : String) (now : Timestamp) :
    Except ProposalError (Moved π ρ) := do
  if p.status = .invalidated then return ⟨p, []⟩
  else do
    require (p.status.isActive ∧ p.status ≠ .committing)
      (.stateInvalid ("Cannot invalidate proposal in " ++ p.status.value ++ " status.") none)
    let q := p.invalidatedFor reason now
    return ⟨q, [(.invalidated, q)]⟩

end ActionProposal

/-- How a claim to commit ends: refused, with the row as the refusal leaves it; already claimed;
or claimed now, so that the action is to be executed. -/
inductive CommitClaim (π ρ : Type) where
  | refused (p : ActionProposal π ρ) (e : ProposalError)
  | held
  | claimed (p : ActionProposal π ρ)

/-- The trusted scope that a commit is made in. -/
structure CommitScope where
  scope : ProposalScope
  resetGeneration : String
  expectedActionType : String

namespace ActionProposal

def claimCommit (p : ActionProposal π ρ) (r : CommitScope) (now : Timestamp) : CommitClaim π ρ :=
  match p.validateScope r.scope r.expectedActionType with
  | .error e => .refused p e
  | .ok () =>
    if p.status = .committed ∨ p.status = .committing then .held
    else if p.Overdue now then .refused (p.expiredAt now) (.expired p.id)
    else if p.resetGeneration ≠ r.resetGeneration then
      .refused (if p.status.isActive then p.invalidatedFor "RESET_GENERATION_CHANGED" now else p)
        (.resetGenerationChanged p.id)
    else
      match p.requireStatus .confirmed "commit" with
      | .error e => .refused p e
      | .ok () => .claimed (p.claimedAt now)

def markCommitted [DecidableEq ρ] (p : ActionProposal π ρ) (result : ρ) (now : Timestamp) :
    Except ProposalError (Moved π ρ) := do
  if p.status = .committed then do
    require (p.resultPayload = some result)
      (.conflict "Committed proposal already has a different result.")
    return ⟨p, []⟩
  else do
    p.requireStatus .committing "complete commit"
    let q := p.completedWith result now
    return ⟨q, [(.committed, q)]⟩

end ActionProposal

section
variable {p : ActionProposal π ρ} {m : Moved π ρ} {now : Timestamp}

@[simp] theorem expiredAt_status : (p.expiredAt now).status = .expired := rfl

@[simp] theorem invalidatedFor_status {reason : String} :
    (p.invalidatedFor reason now).status = .invalidated := rfl

@[simp] theorem completedWith_status {result : ρ} :
    (p.completedWith result now).status = .committed := rfl

@[simp] theorem claimedAt_status : (p.claimedAt now).status = .committing := rfl

@[simp] theorem presentedOn_status {turn : Option String} :
    (p.presentedOn turn now).status = .presented := rfl

@[simp] theorem confirmedBy_status {turn : Option String} {evidence : Evidence} :
    (p.confirmedBy turn evidence now).status = .confirmed := rfl

@[simp] theorem declinedBy_status {turn : Option String} :
    (p.declinedBy turn now).status = .declined := rfl

@[simp] theorem expireIfNeeded_eq_ok {u : Unit} :
    p.expireIfNeeded now = .ok u ↔ ¬ p.Overdue now := by
  simp [ActionProposal.expireIfNeeded]

@[simp] theorem requireStatus_eq_ok {s : ProposalStatus} {transition : String} {u : Unit} :
    p.requireStatus s transition = .ok u ↔ p.status = s := by
  simp [ActionProposal.requireStatus]

@[simp] theorem validateScope_eq_ok {scope : ProposalScope} {actionType : String} {u : Unit} :
    p.validateScope scope actionType = .ok u ↔ p.scope = scope ∧ p.actionType = actionType := by
  simp [ActionProposal.validateScope]

theorem markPresented_eq_ok {turn : Option String} :
    p.markPresented turn now = .ok m ↔ ¬ p.Overdue now ∧
      ((p.status = .presented ∧ p.presentedAssistantTurnId = turn ∧ m = ⟨p, []⟩) ∨
        (p.status = .proposed ∧
          m = ⟨p.presentedOn turn now, [(.presented, p.presentedOn turn now)]⟩)) := by
  unfold ActionProposal.markPresented
  by_cases h : p.status = .presented
  · simp [h, @eq_comm _ m]
  · simp [h, @eq_comm _ m]

theorem confirm_eq_ok {turn : Option String} {evidence : Evidence} :
    p.confirm turn evidence now = .ok m ↔ ¬ p.Overdue now ∧
      ((p.status = .confirmed ∧ p.confirmationCustomerTurnId = turn ∧ m = ⟨p, []⟩) ∨
        (p.status = .presented ∧ (truthy turn ≠ none ∧
          turn ≠ some p.originatingCustomerTurnId) ∧ evidence ≠ [] ∧
          m = ⟨p.confirmedBy turn evidence now,
            [(.confirmed, p.confirmedBy turn evidence now)]⟩)) := by
  unfold ActionProposal.confirm
  by_cases h : p.status = .confirmed
  · simp [h, @eq_comm _ m]
  · simp [h, @eq_comm _ m]

theorem decline_eq_ok {turn : Option String} :
    p.decline turn now = .ok m ↔ ¬ p.Overdue now ∧
      ((p.status = .declined ∧ m = ⟨p, []⟩) ∨
        (p.status = .presented ∧
          m = ⟨p.declinedBy turn now, [(.declined, p.declinedBy turn now)]⟩)) := by
  unfold ActionProposal.decline
  by_cases h : p.status = .declined
  · simp [h, @eq_comm _ m]
  · simp [h, @eq_comm _ m]

theorem invalidate_eq_ok {reason : String} :
    p.invalidate reason now = .ok m ↔
      (p.status = .invalidated ∧ m = ⟨p, []⟩) ∨
        ((p.status.isActive ∧ p.status ≠ .committing) ∧
          m = ⟨p.invalidatedFor reason now, [(.invalidated, p.invalidatedFor reason now)]⟩) := by
  unfold ActionProposal.invalidate
  by_cases h : p.status = .invalidated
  · simp [h, @eq_comm _ m, ProposalStatus.isActive]
  · simp [h, @eq_comm _ m]

theorem markCommitted_eq_ok [DecidableEq ρ] {result : ρ} :
    p.markCommitted result now = .ok m ↔
      (p.status = .committed ∧ p.resultPayload = some result ∧ m = ⟨p, []⟩) ∨
        (p.status = .committing ∧
          m = ⟨p.completedWith result now, [(.committed, p.completedWith result now)]⟩) := by
  unfold ActionProposal.markCommitted
  by_cases h : p.status = .committed
  · simp [h, @eq_comm _ m]
  · simp [h, @eq_comm _ m]

/-- Everything a claim can come to. -/
theorem claimCommit_cases (p : ActionProposal π ρ) (r : CommitScope) (now : Timestamp) :
    (∃ e, p.claimCommit r now = .refused p e) ∨
    (p.claimCommit r now = .held ∧ p.scope = r.scope ∧ p.actionType = r.expectedActionType ∧
      (p.status = .committed ∨ p.status = .committing)) ∨
    (∃ e, p.claimCommit r now = .refused (p.expiredAt now) e ∧ p.Overdue now ∧
      p.status ≠ .committing) ∨
    (∃ e, p.claimCommit r now =
        .refused (p.invalidatedFor "RESET_GENERATION_CHANGED" now) e ∧ p.status.isActive ∧
      p.status ≠ .committing) ∨
    (p.claimCommit r now = .claimed (p.claimedAt now) ∧
      p.scope = r.scope ∧ p.actionType = r.expectedActionType ∧
      p.resetGeneration = r.resetGeneration ∧ p.status = .confirmed ∧ now < p.expiresAt) := by
  unfold ActionProposal.claimCommit
  rcases ok_or_error (p.validateScope r.scope r.expectedActionType) with ⟨u, hs⟩ | ⟨e, hs⟩
  · rw [hs]
    obtain ⟨hscope, htype⟩ := validateScope_eq_ok.mp hs
    dsimp only
    by_cases hheld : p.status = .committed ∨ p.status = .committing
    · rw [if_pos hheld]
      exact Or.inr (Or.inl ⟨rfl, hscope, htype, hheld⟩)
    · have hnot : p.status ≠ .committing := fun h => hheld (Or.inr h)
      rw [if_neg hheld]
      by_cases hover : p.Overdue now
      · rw [if_pos hover]
        exact Or.inr (Or.inr (Or.inl ⟨_, rfl, hover, hnot⟩))
      · rw [if_neg hover]
        by_cases hreset : p.resetGeneration = r.resetGeneration
        · rw [if_neg (not_not.mpr hreset)]
          rcases ok_or_error (p.requireStatus .confirmed "commit") with ⟨u, hc⟩ | ⟨e, hc⟩
          · have hconfirmed := requireStatus_eq_ok.mp hc
            have hlt : now < p.expiresAt := by
              by_contra hle
              exact hover ⟨by simp [hconfirmed, ProposalStatus.isActive], not_lt.mp hle⟩
            rw [hc]
            exact Or.inr (Or.inr (Or.inr (Or.inr
              ⟨rfl, hscope, htype, hreset, hconfirmed, hlt⟩)))
          · rw [hc]
            exact Or.inl ⟨e, rfl⟩
        · rw [if_pos hreset]
          by_cases hactive : p.status.isActive
          · rw [if_pos hactive]
            exact Or.inr (Or.inr (Or.inr (Or.inl ⟨_, rfl, hactive, hnot⟩)))
          · rw [if_neg hactive]
            exact Or.inl ⟨_, rfl⟩
  · rw [hs]
    exact Or.inl ⟨e, rfl⟩

end

end BankingService
