import BankingService.Library.Runs
import BankingService.Library.Since
import BankingService.ProposalEvidence

/-! The agent's guard implies the bank's: a request that the projection lets through carries a
decision that the bank accepts, whatever the order of the calls. -/
namespace AttestedDecisions

open BankingService BankingService.ProposalEvidence Python Runs History

inductive Call where
  | create (proposalId actionType contractVersion : String)
      (originatingCustomerTurnId : Option String)
  | present (assistantTurnId : String) (observedAt : EpochTime)
  | attest (proposalId actionType customerTurnId : String) (customerObservedAt : EpochTime)
  | commit (proposalId actionType : String)
  | retry (reason : String)
  | represent (answered : Bool)
  deriving DecidableEq

instance (id : String) : Decidable (RealTurn id) :=
  decidable_of_iff (id ≠ "" ∧ strip id = id ∧ id ≠ "unknown-turn")
    ⟨fun h => ⟨h.1, h.2.1, h.2.2⟩, fun h => ⟨h.nonempty, h.trimmed, h.known⟩⟩

/-- The commit of the record has been started and nothing has been heard of it. -/
def Underway (s : EvidenceState) : Prop := s = .commitInFlight ∨ s = .commitRetry

instance : DecidablePred Underway := fun _ => inferInstanceAs (Decidable (_ ∨ _))

def Allowed (s : Option PendingProposal) : Call → Prop
  | .create _ _ _ originating => ∀ id, originating = some id → RealTurn id
  | .present assistantTurnId _ => RealTurn assistantTurnId
  | .attest _ _ customerTurnId _ => RealTurn customerTurnId
  | .commit proposalId actionType => proposalEvidenceError s proposalId actionType = none
  | .retry _ => True
  | .represent answered => answered = true ∨ ∀ p, s = some p → ¬ Underway p.evidenceState

def act (s : Option PendingProposal) : Call → Option PendingProposal
  | .create proposalId actionType contractVersion originating =>
    some (createPendingProposal proposalId actionType contractVersion originating)
  | .present assistantTurnId observedAt =>
    s.map fun p => markProposalPresented p assistantTurnId observedAt
  | .attest proposalId actionType customerTurnId observedAt =>
    s.map fun p => attestModelDecision p proposalId actionType customerTurnId observedAt
  | .commit _ _ => s.map markCommitInFlight
  | .retry reason => s.map fun p => markCommitRetry p reason
  | .represent _ => s.map requireRePresentation

def calls : Machine (Option PendingProposal) Call := ⟨Allowed, act⟩

def CreatedBy (p : PendingProposal) (e : Call) : Prop :=
  ∃ originating, e = .create p.proposalId p.actionType p.contractVersion originating ∧
    p.originatingCustomerTurnId = originating.getD ""

def PresentedBy (p : PendingProposal) (e : Call) : Prop :=
  ∃ id observedAt, e = .present id observedAt ∧ RealTurn id ∧ p.presentationTurnId = some id ∧
    p.presentationObservedAt = some observedAt

/-- A turn other than the originating and the presenting one, observed after the presentation. -/
def AttestedBy (p : PendingProposal) (e : Call) : Prop :=
  ∃ id observedAt presentedAt, e = .attest p.proposalId p.actionType id observedAt ∧ RealTurn id ∧
    p.confirmationTurnId = some id ∧ id ≠ p.originatingCustomerTurnId ∧
    p.presentationTurnId ≠ some id ∧ p.presentationObservedAt = some presentedAt ∧
    presentedAt < observedAt

def Creates (e : Call) : Prop :=
  ∃ id action version originating, e = .create id action version originating

/-- A new record, or the old one to be presented again. -/
def Resets (e : Call) : Prop := Creates e ∨ ∃ answered, e = .represent answered

def Created (p : PendingProposal) : List Call → Prop := Since Creates fun _ e => CreatedBy p e

def Presented (p : PendingProposal) : List Call → Prop :=
  Since Resets fun before e => Created p before ∧ PresentedBy p e

def Attested (p : PendingProposal) : List Call → Prop :=
  Since Resets fun before e => Presented p before ∧ AttestedBy p e

/-- What each state of a record says about the past. -/
def Evidenced (es : List Call) (p : PendingProposal) : Prop :=
  match p.evidenceState with
  | .awaitingPresentation => Created p es
  | .awaitingDecision => Presented p es
  | .decisionAttested | .commitInFlight | .commitRetry => Attested p es

section
variable {p p' : PendingProposal} {es : List Call} {e : Call}

theorem Presented.created (h : Presented p es) : Created p es := by
  refine Since.earlier h (fun _ => Or.inl) ?_
  rintro before e ⟨hcreated, id, observedAt, rfl, -⟩
  exact ⟨hcreated, fun ⟨_, _, _, _, he⟩ => by cases he⟩

theorem Attested.presented (h : Attested p es) : Presented p es := by
  refine Since.earlier h (fun _ hx => hx) ?_
  rintro before e ⟨hpresented, id, observedAt, presentedAt, rfl, -⟩
  refine ⟨hpresented, ?_⟩
  rintro (⟨_, _, _, _, he⟩ | ⟨_, he⟩)
  · cases he
  · cases he

theorem Evidenced.created (h : Evidenced es p) : Created p es := by
  unfold Evidenced at h
  cases hs : p.evidenceState <;> rw [hs] at h
  case awaitingPresentation => exact h
  case awaitingDecision => exact h.created
  all_goals exact h.presented.created

theorem Evidenced.later (h : Evidenced es p) (he : ¬ Resets e) : Evidenced (es ++ [e]) p := by
  unfold Evidenced at h ⊢
  cases hs : p.evidenceState <;> rw [hs] at h
  case awaitingPresentation => exact Since.later h fun hc => he (Or.inl hc)
  all_goals exact Since.later h he

theorem evidenced_next {s : Option PendingProposal} (hev : ∀ p, s = some p → Evidenced es p)
    (he : Allowed s e) (ha : act s e = some p') : Evidenced (es ++ [e]) p' := by
  have plain : (∀ id action version originating, e ≠ .create id action version originating) →
      (∀ answered, e ≠ .represent answered) → ¬ Resets e := by
    rintro hc hr (⟨_, _, _, _, heq⟩ | ⟨_, heq⟩)
    · exact hc _ _ _ _ heq
    · exact hr _ heq
  cases e with
  | create id action version originating =>
    cases ha
    exact Since.here ⟨originating, rfl, rfl⟩
  | present id observedAt =>
    obtain ⟨p, rfl, rfl⟩ := Option.map_eq_some_iff.mp ha
    have hpast := hev p rfl
    rcases presented_cases p id observedAt with ⟨hs, heq⟩ | heq
    · rw [heq]
      exact Since.here ⟨hpast.created, id, observedAt, rfl, he, rfl, rfl⟩
    · rw [heq]
      exact hpast.later (plain nofun nofun)
  | attest id action customer observedAt =>
    obtain ⟨p, rfl, rfl⟩ := Option.map_eq_some_iff.mp ha
    have hpast := hev p rfl
    rcases attested_cases p id action customer observedAt with ⟨h, heq⟩ | heq
    · rw [heq]
      unfold Evidenced at hpast
      rw [h.awaited] at hpast
      obtain ⟨before, x, after, -, ⟨-, turn, presentedAt, -, -, hturn, hpresentedAt⟩, -⟩ :=
        show Presented p es from hpast
      have hlater := h.later
      have hne := h.notPresenting
      rw [hpresentedAt] at hlater
      rw [hturn] at hne
      obtain ⟨rfl, rfl⟩ := And.intro h.sameProposal h.sameAction
      refine Since.here
        ⟨hpast, customer, observedAt, presentedAt, rfl, he, rfl, h.notOriginating, ?_,
        hpresentedAt, hlater⟩
      intro heq
      rw [hturn] at heq
      exact hne (Option.some.inj heq).symm
    · rw [heq]
      exact hpast.later (plain nofun nofun)
  | commit id action =>
    obtain ⟨p, rfl, rfl⟩ := Option.map_eq_some_iff.mp ha
    have hpast := (hev p rfl).later (e := .commit id action) (plain nofun nofun)
    unfold markCommitInFlight
    split
    · next hs =>
      unfold Evidenced at hpast
      rcases hs with hs | hs
      all_goals
        rw [hs] at hpast
        exact hpast
    · exact hpast
  | retry reason =>
    obtain ⟨p, rfl, rfl⟩ := Option.map_eq_some_iff.mp ha
    have hpast := (hev p rfl).later (e := .retry reason) (plain nofun nofun)
    unfold markCommitRetry
    split
    · next hs =>
      unfold Evidenced at hpast
      rw [hs] at hpast
      exact hpast
    · exact hpast
  | represent answered =>
    obtain ⟨p, rfl, rfl⟩ := Option.map_eq_some_iff.mp ha
    refine Since.later (hev p rfl).created ?_
    rintro ⟨_, _, _, _, he⟩
    cases he

theorem evidenced_run (hrun : calls.Run none es) :
    ∀ p, calls.final none es = some p → Evidenced es p := by
  refine history_of_each (I := fun es s => ∀ p, s = some p → Evidenced es p) ?_ ?_ hrun
  · intro p hp
    cases hp
  · intro es s e hev he p hp
    exact evidenced_next hev he hp

theorem attested_of_guard (hev : Evidenced es p) (hs : p.evidenceState.Attested) :
    Attested p es := by
  unfold Evidenced at hev
  rcases hs with hs | hs
  · rw [hs] at hev
    exact hev
  · rw [hs] at hev
    exact hev

end

/-- The calls after which something is known of a commit: that its result is uncertain, or the
bank's answer. -/
def Ends (e : Call) : Prop := e = .represent true ∨ ∃ reason, e = .retry reason

def InFlight (s : Option PendingProposal) : Prop :=
  ∃ p, s = some p ∧ p.evidenceState = .commitInFlight

theorem inFlight_next {s : Option PendingProposal} {e : Call} (hs : InFlight s) (ha : Allowed s e)
    (hc : ¬ Creates e) (he : ¬ Ends e) : InFlight (act s e) := by
  obtain ⟨p, rfl, hp⟩ := hs
  cases e with
  | create id action version originating =>
    exact absurd ⟨id, action, version, originating, rfl⟩ hc
  | represent answered =>
    rcases ha with rfl | ha
    · exact absurd (Or.inl rfl) he
    · exact absurd (Or.inl hp) (ha p rfl)
  | retry reason => exact absurd (Or.inr ⟨reason, rfl⟩) he
  | present id observedAt =>
    rcases presented_cases p id observedAt with ⟨hs, -⟩ | heq
    · rw [hp] at hs
      cases hs
    · exact ⟨p, congrArg some heq, hp⟩
  | attest id action customer observedAt =>
    rcases attested_cases p id action customer observedAt with ⟨h, -⟩ | heq
    · have hs := h.awaited
      rw [hp] at hs
      cases hs
    · exact ⟨p, congrArg some heq, hp⟩
  | commit id action =>
    refine ⟨_, rfl, ?_⟩
    unfold markCommitInFlight
    split
    · rfl
    · exact hp

theorem commit_starts {s : Option PendingProposal} {id action : String}
    (h : proposalEvidenceError s id action = none) : InFlight (act s (.commit id action)) := by
  obtain ⟨p, rfl, -, -, hs⟩ := guarded h
  refine ⟨_, rfl, ?_⟩
  unfold markCommitInFlight
  rw [if_pos hs]

theorem no_commit_inFlight {s : Option PendingProposal} {id action : String} (hs : InFlight s) :
    proposalEvidenceError s id action ≠ none := by
  intro h
  obtain ⟨p, rfl, hp⟩ := hs
  obtain ⟨q, hq, -, -, hattested⟩ := guarded h
  cases hq
  rw [hp] at hattested
  exact absurd hattested (by decide)

/-- Between two commits of a run the first one ends, or a new record takes the place of its own. -/
theorem ended_between {before between after : List Call} {id₁ action₁ id₂ action₂ : String}
    (hrun : calls.Run none
      (before ++ .commit id₁ action₁ :: between ++ .commit id₂ action₂ :: after)) :
    ∃ x ∈ between, Creates x ∨ Ends x := by
  by_contra hnone
  rw [List.append_assoc, List.cons_append] at hrun
  obtain ⟨-, hfirst, hrest⟩ := Machine.each_append.mp hrun
  obtain ⟨hbetween, hsecond, -⟩ := Machine.each_append.mp hrest
  have hfree : ∀ e ∈ between, ¬ (Creates e ∨ Ends e) := fun e he hends => hnone ⟨e, he, hends⟩
  have hflight : InFlight
      (calls.final (act (calls.final none before) (.commit id₁ action₁)) between) := by
    refine final_of_each (C := fun s e => Allowed s e ∧ ¬ (Creates e ∨ Ends e)) ?_
      (commit_starts hfirst)
      (hbetween.and (each_of_forall hfree _))
    intro s e hs he
    exact inFlight_next hs he.1 (fun hc => he.2 (Or.inl hc)) fun hends => he.2 (Or.inr hends)
  exact no_commit_inFlight hflight hsecond

/-- The headers taken from a record whose evidence is accepted, before the commit is marked and
after. -/
theorem carried {p q : PendingProposal} {es : List Call} (h : Attested p es)
    (hs : p.evidenceState.Attested) (hq : q = p ∨ q = markCommitInFlight p) (s : RequestState) :
    ∃ presentation confirmation, RealTurn presentation ∧ RealTurn confirmation ∧
      confirmation ≠ presentation ∧ confirmation ≠ p.originatingCustomerTurnId ∧
      CarriesDecision
        (captureMcpRequestEvidence s (some q)).toHeaders presentation confirmation := by
  obtain ⟨_, _, _, -, ⟨-, presentation, presentedAt, -, hpreal, hpresentation, -⟩, -⟩ := h.presented
  obtain ⟨_, _, _, -, ⟨-, confirmation, _, _, -, hcreal, hconfirmation, horigin, hne, -⟩, -⟩ := h
  have hdistinct : confirmation ≠ presentation := by
    rintro rfl
    exact hne hpresentation
  refine ⟨presentation, confirmation, hpreal, hcreal, hdistinct, horigin, ?_⟩
  rcases hq with rfl | rfl
  · exact carriesDecision (hs.imp id Or.inr) hpresentation hconfirmation hpreal.nonempty
      hcreal.nonempty
  · unfold markCommitInFlight
    rw [if_pos hs]
    exact carriesDecision (Or.inr (Or.inl rfl)) hpresentation hconfirmation hpreal.nonempty
      hcreal.nonempty

theorem guard_implies_bank {es : List Call} (hrun : calls.Run none es) :
    (∀ p proposalId actionType, calls.final none es = some p →
      proposalEvidenceError (some p) proposalId actionType = none →
        Attested p es ∧ ∀ q s context policy requirement acknowledgment,
          q = p ∨ q = markCommitInFlight p → AuthorizationPolicy.Verbal policy →
          ProposalRuntimeContext.fromHeaders (captureMcpRequestEvidence s (some q)).toHeaders =
            .ok context →
          ∃ v, validateDecision context policy requirement acknowledgment = .ok v ∧
            v.decisionTurnId ≠ p.originatingCustomerTurnId) ∧
      ∀ before between after id₁ action₁ id₂ action₂,
        es = before ++ .commit id₁ action₁ :: between ++ .commit id₂ action₂ :: after →
          ∃ x ∈ between, Creates x ∨ Ends x := by
  constructor
  · intro p proposalId actionType hp hguard
    obtain ⟨q, hq, -, -, hs⟩ := guarded hguard
    cases hq
    have hattested := attested_of_guard (evidenced_run hrun p hp) hs
    refine ⟨hattested, ?_⟩
    intro q s context policy requirement acknowledgment hq hpolicy hcontext
    obtain ⟨presentation, confirmation, hpreal, hcreal, hne, horigin, hcarries⟩ :=
      carried hattested hs hq s
    obtain ⟨v, hv, -, hturn⟩ :=
      hcarries.accepted hpolicy hpreal.nonempty hpreal.trimmed hcreal hne hcontext
    rw [← hturn] at horigin
    exact ⟨v, hv, horigin⟩
  · rintro before between after id₁ action₁ id₂ action₂ rfl
    exact ended_between hrun

def reissue : List Call :=
  [.create "proposal-1" "REISSUE_CARD" "1" (some "turn-1"), .present "turn-2" 20,
    .represent false, .present "turn-4" 40, .attest "proposal-1" "REISSUE_CARD" "turn-3" 30,
    .attest "proposal-1" "REISSUE_CARD" "turn-5" 50, .commit "proposal-1" "REISSUE_CARD",
    .retry "TOOL_EXCEPTION"]

def requestState : RequestState where
  customerId := some "customer-1"
  activeCustomerId := "customer-1"
  sessionId := some "session-1"
  resetGenerationToken := some "0"
  resetGeneration := none
  guidanceSnapshotId := none
  runtimeSupportSessionId := none
  runtimeName := none
  runtimeSessionId := none
  runtimeResetGeneration := none
  runtimeCatalogSnapshotId := none
  latestTurnEventId := some "turn-6"

def retried : PendingProposal where
  proposalId := "proposal-1"
  actionType := "REISSUE_CARD"
  contractVersion := "1"
  evidenceState := .commitRetry
  originatingCustomerTurnId := "turn-1"
  presentationTurnId := some "turn-4"
  presentationObservedAt := some 40
  confirmationTurnId := some "turn-5"
  recoveryAttemptCount := 0
  recoveryReason := some "TOOL_EXCEPTION"

def retriedContext : ProposalRuntimeContext where
  supportSessionId := "session-1"
  runtimeName := "ADK_GEMINI_LIVE"
  runtimeSessionId := "session-1"
  customerTurnId := "turn-5"
  resetGeneration := "0"
  catalogSnapshotId := none
  presentationTurnId := some "turn-4"
  confirmationTurnId := some "turn-5"
  confirmationMethod := some "EXPLICIT_VERBAL"
  confirmationSource := some "MODEL_TOOL_INTENT"

instance (s : Option PendingProposal) (e : Call) : Decidable (calls.Enabled s e) := by
  cases e with
  | create id action version originating =>
    exact inferInstanceAs (Decidable (∀ id ∈ originating, RealTurn id))
  | represent answered =>
    exact inferInstanceAs (Decidable (_ ∨ ∀ p ∈ s, ¬ Underway p.evidenceState))
  | present id observedAt => exact inferInstanceAs (Decidable (RealTurn id))
  | attest id action customer observedAt => exact inferInstanceAs (Decidable (RealTurn customer))
  | commit id action =>
    exact inferInstanceAs (Decidable (proposalEvidenceError s id action = none))
  | retry reason => exact isTrue trivial

theorem retried_accepted :
    ∃ v, validateDecision retriedContext GENERAL_ACKNOWLEDGMENT_POLICY ⟨[], false⟩ none = .ok v ∧
      v.decisionTurnId ≠ "turn-1" := by
  have hrun : calls.Run none reissue := by decide
  have hfinal : calls.final none reissue = some retried := by decide
  have hguard : proposalEvidenceError (some retried) "proposal-1" "REISSUE_CARD" = none := by decide
  have hcontext : ProposalRuntimeContext.fromHeaders
      (captureMcpRequestEvidence requestState (some retried)).toHeaders = .ok retriedContext := by
    decide
  have hpolicy : GENERAL_ACKNOWLEDGMENT_POLICY.Verbal := ⟨rfl, by decide, rfl⟩
  exact ((guard_implies_bank hrun).1 _ _ _ hfinal hguard).2 _ _ _ _ ⟨[], false⟩ none (Or.inl rfl)
    hpolicy hcontext

instance : DecidablePred Ends := fun e =>
  match e with
  | .represent true => isTrue (Or.inl rfl)
  | .retry reason => isTrue (Or.inr ⟨reason, rfl⟩)
  | .represent false => isFalse (by simp [Ends])
  | .create .. | .present .. | .attest .. | .commit .. => isFalse (by simp [Ends])

/-- A wallet is prepared and confirmed while nothing has been heard of the reissue. -/
def wallet : List Call :=
  [.create "proposal-2" "PROVISION_GOOGLE_WALLET" "1" (some "turn-6"), .present "turn-7" 70,
    .attest "proposal-2" "PROVISION_GOOGLE_WALLET" "turn-8" 80]

theorem second_commit_starts :
    ¬ ∀ es : List Call, calls.Run none es → ∀ before between after id₁ action₁ id₂ action₂,
      es = before ++ .commit id₁ action₁ :: between ++ .commit id₂ action₂ :: after →
        ∃ x ∈ between, Ends x := by
  intro hall
  have hends := hall ([.create "proposal-1" "REISSUE_CARD" "1" (some "turn-1"),
      .present "turn-2" 20, .attest "proposal-1" "REISSUE_CARD" "turn-3" 30] ++
    .commit "proposal-1" "REISSUE_CARD" :: wallet ++
      .commit "proposal-2" "PROVISION_GOOGLE_WALLET" :: []) (by decide) _ _ _ _ _ _ _ rfl
  exact absurd hends (by decide)

end AttestedDecisions
