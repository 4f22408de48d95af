import Mathlib.Data.Rat.Defs
import BankingService.RuntimeHeaders

/-! The support agent's projection of a pending proposal: which turn presented it, which later turn
decided on it, and how far its commit has come. The headers of a request are taken from it. -/
namespace BankingService.ProposalEvidence

open Python

inductive EvidenceState where
  | awaitingPresentation
  | awaitingDecision
  | decisionAttested
  | commitInFlight
  | commitRetry
  deriving DecidableEq

/-- The states that a commit starts from. -/
def EvidenceState.Attested (s : EvidenceState) : Prop :=
  s = .decisionAttested ∨ s = .commitRetry

instance : DecidablePred EvidenceState.Attested := fun _ => inferInstanceAs (Decidable (_ ∨ _))

/-- The states whose confirmation goes into the headers. -/
def EvidenceState.Protected (s : EvidenceState) : Prop :=
  s = .decisionAttested ∨ s = .commitInFlight ∨ s = .commitRetry

instance : DecidablePred EvidenceState.Protected :=
  fun _ => inferInstanceAs (Decidable (_ ∨ _ ∨ _))

/-- Seconds since the epoch; a float is a rational number. -/
abbrev EpochTime := ℚ

structure PendingProposal where
  proposalId : String
  actionType : String
  contractVersion : String
  evidenceState : EvidenceState
  originatingCustomerTurnId : String
  presentationTurnId : Option String
  presentationObservedAt : Option EpochTime
  confirmationTurnId : Option String
  recoveryAttemptCount : ℕ
  recoveryReason : Option String
  deriving DecidableEq

def createPendingProposal (proposalId actionType contractVersion : String)
    (originatingCustomerTurnId : Option String) : PendingProposal where
  proposalId := proposalId
  actionType := actionType
  contractVersion := contractVersion
  evidenceState := .awaitingPresentation
  originatingCustomerTurnId := originatingCustomerTurnId.getD ""
  presentationTurnId := none
  presentationObservedAt := none
  confirmationTurnId := none
  recoveryAttemptCount := 0
  recoveryReason := none

def markProposalPresented (p : PendingProposal) (assistantTurnId : String)
    (observedAt : EpochTime) : PendingProposal :=
  if p.evidenceState ≠ .awaitingPresentation then p
  else { p with
    evidenceState := .awaitingDecision, presentationTurnId := some assistantTurnId,
    presentationObservedAt := some observedAt }

/-- Binds the model's typed choice to a later turn. -/
def attestModelDecision (p : PendingProposal) (proposalId actionType customerTurnId : String)
    (customerObservedAt : EpochTime) : PendingProposal :=
  if p.evidenceState ≠ .awaitingDecision then p
  else if p.proposalId ≠ proposalId then p
  else if p.actionType ≠ actionType then p
  else if customerTurnId = "" then p
  else if customerTurnId = p.originatingCustomerTurnId ∨
      customerTurnId = p.presentationTurnId.getD "" then p
  else if p.presentationObservedAt.getD 0 = 0 ∨
      customerObservedAt ≤ p.presentationObservedAt.getD 0 then p
  else { p with
    evidenceState := .decisionAttested, confirmationTurnId := some customerTurnId }

/-- The objection to a request for the proposal; `none` if there is none. -/
def proposalEvidenceError (o : Option PendingProposal) (proposalId actionType : String) :
    Option String :=
  if (o.map (·.proposalId)).getD "" ≠ proposalId then
    some "The opaque proposal id does not match the current proposal."
  else if (o.map (·.actionType)).getD "" ≠ actionType then
    some "The current proposal belongs to a different action."
  else match o with
    | none => some "A protected later customer decision turn is required."
    | some p =>
      if ¬ p.evidenceState.Attested then
        some "A protected later customer decision turn is required."
      else if p.presentationTurnId.getD "" = "" ∨ p.confirmationTurnId.getD "" = "" then
        some "Protected proposal presentation and decision evidence is required."
      else none

def markCommitInFlight (p : PendingProposal) : PendingProposal :=
  if p.evidenceState.Attested then { p with
    recoveryAttemptCount :=
      if p.evidenceState = .commitRetry then p.recoveryAttemptCount + 1 else p.recoveryAttemptCount
    evidenceState := .commitInFlight, recoveryReason := none }
  else p

def markCommitRetry (p : PendingProposal) (reason : String) : PendingProposal :=
  if p.evidenceState = .commitInFlight then { p with
    evidenceState := .commitRetry, recoveryReason := some reason }
  else p

/-- Only the identity of the proposal is kept. -/
def requireRePresentation (p : PendingProposal) : PendingProposal :=
  { p with
    evidenceState := .awaitingPresentation, presentationTurnId := none,
    presentationObservedAt := none, confirmationTurnId := none, recoveryReason := none }

theorem presented_cases (p : PendingProposal) (id : String) (observedAt : EpochTime) :
    (p.evidenceState = .awaitingPresentation ∧
      markProposalPresented p id observedAt = { p with
        evidenceState := .awaitingDecision, presentationTurnId := some id,
        presentationObservedAt := some observedAt }) ∨
    markProposalPresented p id observedAt = p := by
  unfold markProposalPresented
  by_cases hs : p.evidenceState = .awaitingPresentation
  · rw [if_neg (not_not.mpr hs)]
    exact Or.inl ⟨hs, rfl⟩
  · rw [if_pos hs]
    exact Or.inr rfl

/-- Everything that an attestation compares. -/
structure Attests (p : PendingProposal) (proposalId actionType customer : String)
    (observedAt : EpochTime) : Prop where
  awaited : p.evidenceState = .awaitingDecision
  sameProposal : p.proposalId = proposalId
  sameAction : p.actionType = actionType
  notOriginating : customer ≠ p.originatingCustomerTurnId
  notPresenting : customer ≠ p.presentationTurnId.getD ""
  presented : p.presentationObservedAt.getD 0 ≠ 0
  later : p.presentationObservedAt.getD 0 < observedAt

theorem attested_cases (p : PendingProposal) (proposalId actionType customer : String)
    (observedAt : EpochTime) :
    (Attests p proposalId actionType customer observedAt ∧
      attestModelDecision p proposalId actionType customer observedAt = { p with
        evidenceState := .decisionAttested, confirmationTurnId := some customer }) ∨
    attestModelDecision p proposalId actionType customer observedAt = p := by
  unfold attestModelDecision
  split
  · exact Or.inr rfl
  · next hs =>
    split
    · exact Or.inr rfl
    · next hid =>
      split
      · exact Or.inr rfl
      · next haction =>
        split
        · exact Or.inr rfl
        · split
          · exact Or.inr rfl
          · next hturns =>
            split
            · exact Or.inr rfl
            · next htime =>
              rw [not_or] at hturns
              rw [not_or, Rat.not_le] at htime
              exact Or.inl ⟨⟨not_not.mp hs, not_not.mp hid, not_not.mp haction, hturns.1, hturns.2,
                htime.1, htime.2⟩, rfl⟩

theorem guarded {s : Option PendingProposal} {proposalId actionType : String}
    (h : proposalEvidenceError s proposalId actionType = none) :
    ∃ p, s = some p ∧ p.proposalId = proposalId ∧ p.actionType = actionType ∧
      p.evidenceState.Attested := by
  unfold proposalEvidenceError at h
  split at h
  · cases h
  · next hid =>
    split at h
    · cases h
    · next haction =>
      cases s with
      | none => cases h
      | some p =>
        dsimp only at h
        split at h
        · cases h
        · next hs => exact ⟨p, rfl, not_not.mp hid, not_not.mp haction, not_not.mp hs⟩

structure McpRequestEvidence where
  targetCustomerId : String
  supportSessionId : String
  runtimeName : String
  runtimeSessionId : String
  customerTurnId : String
  resetGeneration : String
  catalogSnapshotId : Option String
  presentationTurnId : Option String
  confirmationTurnId : Option String

def McpRequestEvidence.toHeaders (e : McpRequestEvidence) : Headers :=
  [("x-target-customer-id", e.targetCustomerId),
    ("x-support-session-id", e.supportSessionId),
    ("x-runtime-name", e.runtimeName),
    ("x-runtime-session-id", e.runtimeSessionId),
    ("x-customer-turn-id", e.customerTurnId),
    ("x-reset-generation", e.resetGeneration)] ++
  ((truthy e.catalogSnapshotId).elim [] fun id => [("x-catalog-snapshot-id", id)]) ++
  ((truthy e.presentationTurnId).elim [] fun presentation =>
    (truthy e.confirmationTurnId).elim [] fun confirmation =>
      [("x-proposal-presentation-turn-id", presentation),
        ("x-proposal-confirmation-turn-id", confirmation),
        ("x-proposal-confirmation-method", "EXPLICIT_VERBAL"),
        ("x-proposal-confirmation-source", "MODEL_TOOL_INTENT")])

/-- What a request reads of the session's state and of the task's context variables. -/
structure RequestState where
  customerId : Option String
  activeCustomerId : String
  sessionId : Option String
  resetGenerationToken : Option String
  resetGeneration : Option String
  guidanceSnapshotId : Option String
  runtimeSupportSessionId : Option String
  runtimeName : Option String
  runtimeSessionId : Option String
  runtimeResetGeneration : Option String
  runtimeCatalogSnapshotId : Option String
  latestTurnEventId : Option String

/-- `str(x or y or … or default)`. -/
def firstOf (choices : List (Option String)) (default : String) : String :=
  (choices.findSome? truthy).getD default

def captureMcpRequestEvidence (s : RequestState) (proposal : Option PendingProposal) :
    McpRequestEvidence :=
  let decided := proposal.filter fun p => p.evidenceState.Protected
  let presentation := truthy (decided.bind (·.presentationTurnId))
  let confirmation := truthy (decided.bind (·.confirmationTurnId))
  { targetCustomerId := firstOf [s.customerId] s.activeCustomerId
    supportSessionId := firstOf [s.runtimeSupportSessionId, s.sessionId] ""
    runtimeName := firstOf [s.runtimeName] "ADK_GEMINI_LIVE"
    runtimeSessionId := firstOf [s.runtimeSessionId, s.sessionId] ""
    customerTurnId := firstOf [confirmation, s.latestTurnEventId] "unknown-turn"
    resetGeneration :=
      firstOf [s.resetGenerationToken, s.resetGeneration, s.runtimeResetGeneration] ""
    catalogSnapshotId :=
      truthy (some (firstOf [s.runtimeCatalogSnapshotId, s.guidanceSnapshotId] ""))
    presentationTurnId := presentation
    confirmationTurnId := confirmation }

theorem headerNames_nodup :
    (["x-target-customer-id", "x-support-session-id", "x-runtime-name", "x-runtime-session-id",
      "x-customer-turn-id", "x-reset-generation", "x-proposal-presentation-turn-id",
      "x-proposal-confirmation-turn-id", "x-proposal-confirmation-method",
      "x-proposal-confirmation-source"].map lower).Nodup ∧
    (["x-target-customer-id", "x-support-session-id", "x-runtime-name", "x-runtime-session-id",
      "x-customer-turn-id", "x-reset-generation", "x-catalog-snapshot-id",
      "x-proposal-presentation-turn-id", "x-proposal-confirmation-turn-id",
      "x-proposal-confirmation-method", "x-proposal-confirmation-source"].map lower).Nodup := by
  decide

theorem carriesDecision {p : PendingProposal} {s : RequestState}
    {presentation confirmation : String}
    (hs : p.evidenceState.Protected) (hp : p.presentationTurnId = some presentation)
    (hc : p.confirmationTurnId = some confirmation) (hpne : presentation ≠ "")
    (hcne : confirmation ≠ "") :
    CarriesDecision (captureMcpRequestEvidence s (some p)).toHeaders presentation confirmation := by
  have hfilter : (some p).filter (fun p => p.evidenceState.Protected) = some p := by
    rw [Option.filter_some, if_pos (decide_eq_true hs)]
  have hpt : truthy (some presentation) = some presentation := by
    rw [truthy, Option.filter_some, if_pos (decide_eq_true hpne)]
  have hct : truthy (some confirmation) = some confirmation := by
    rw [truthy, Option.filter_some, if_pos (decide_eq_true hcne)]
  simp only [captureMcpRequestEvidence, hfilter, Option.bind_some, hp, hc, hpt, hct, firstOf,
    List.findSome?_cons, Option.getD_some, McpRequestEvidence.toHeaders, Option.elim_some]
  generalize truthy (truthy _) = catalog
  have hnodup : ∀ a b c d e f : String,
      (([("x-target-customer-id", a), ("x-support-session-id", b), ("x-runtime-name", c),
          ("x-runtime-session-id", d), ("x-customer-turn-id", e), ("x-reset-generation", f)] ++
        (catalog.elim [] fun id => [("x-catalog-snapshot-id", id)]) ++
        [("x-proposal-presentation-turn-id", presentation),
          ("x-proposal-confirmation-turn-id", confirmation),
          ("x-proposal-confirmation-method", "EXPLICIT_VERBAL"),
          ("x-proposal-confirmation-source", "MODEL_TOOL_INTENT")]).map
        fun h => lower h.1).Nodup := by
    intro a b c d e f
    cases catalog with
    | none => exact headerNames_nodup.1
    | some id => exact headerNames_nodup.2
  constructor
  · exact header_of_mem (hnodup _ _ _ _ _ _) (by simp) (by decide)
  · exact header_of_mem (hnodup _ _ _ _ _ _) (by simp) (by decide)
  · exact header_of_mem (hnodup _ _ _ _ _ _) (by simp) (by decide)
  · exact header_of_mem (hnodup _ _ _ _ _ _) (by simp) (by decide)
  · exact header_of_mem (hnodup _ _ _ _ _ _) (by simp) (by decide)

end BankingService.ProposalEvidence
