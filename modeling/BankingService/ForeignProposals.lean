import BankingService.ProposalSessions

/-! What a caller is told about a proposal of another customer. The texts of the refusals are the
same as for an id that names no proposal; the result that they are serialized to is not. -/
namespace BankingService.ForeignProposals

open Python Relational Checked ReadCommitted

variable {β π ρ ι : Type}

/-- `safe_result`: the refusal, and what is said of the proposal that it carries. -/
structure SafeResult where
  error : String
  recoveryClass : RecoveryClass
  message : String
  proposal : Option (Uuid × String × ProposalStatus)
  deriving DecidableEq

def safeResult (db : ProposalDb β π ρ) (e : ProposalError) : SafeResult where
  error := e.code
  recoveryClass := e.recoveryClass
  message := e.customerMessage
  proposal := (e.proposal.bind db.proposals.get?).map fun p => (p.id, p.actionType, p.status)

/-- `failed` is the tool's fixed text for an internal error. -/
inductive Response (π ρ : Type) where
  | answered (answer : ServiceAnswer π ρ)
  | refused (result : SafeResult)
  | failed

def Response.refusal {π ρ : Type} : Response π ρ → Option SafeResult
  | .refused result => some result
  | .answered _ | .failed => none

def fallbackError : RequestOperation → String
  | .prepare => "PROPOSAL_REJECTED"
  | .decide => "DECISION_REJECTED"
  | .commit => "COMMIT_REJECTED"

/-- `_safe_protocol_failure`: what the tool returns, with the row as it is stored by then. -/
def respond (operation : RequestOperation) (db : ProposalDb β (BoundPayload π) ρ) :
    Except ServiceError (ServiceAnswer π ρ) → Response π ρ
  | .ok answer => .answered answer
  | .error (.proposal e) => .refused (safeResult db e)
  | .error (.runtimeContext _) => .refused ⟨fallbackError operation, .refreshSession,
      "Trusted runtime evidence is missing or invalid.", none⟩
  | .error (.python _) => .failed

variable [DecidableEq ρ]

def response (h : ProposalDigests (BoundPayload π) ρ) (c : ServiceCall β π ρ ι)
    (db : ProposalDb β (BoundPayload π) ρ) : Option (Response π ρ) :=
  (c.serve h db).map fun r => respond c.operation.requestOperation r.1 r.2

/-- A row that is not there, or that another customer's proposal is in. -/
def Foreign (customer : Uuid) (row : Option (ActionProposal (BoundPayload π) ρ)) : Prop :=
  ∀ p, row = some p → p.scope.customerId ≠ customer

structure DifferInOthers (customer : Uuid) (db db' : ProposalDb β (BoundPayload π) ρ) : Prop where
  bank : db.bank = db'.bank
  users : db.users = db'.users
  outbox : db.outbox = db'.outbox
  proposals : ∀ id, db.proposals.get? id = db'.proposals.get? id ∨
    Foreign customer (db.proposals.get? id) ∧ Foreign customer (db'.proposals.get? id)

/-- What a refusal says of a row: whether there is one, its action and its status. -/
def shown (db : ProposalDb β (BoundPayload π) ρ) (id : Uuid) : Option (String × ProposalStatus) :=
  (db.proposals.get? id).map fun p => (p.actionType, p.status)

/-- The rejection of the request cannot be recorded: its event id is taken. -/
def Unrecordable (c : ServiceCall β π ρ ι) (outbox : Table (ProposalEvent (BoundPayload π) ρ)) :
    Prop :=
  c.identity ≠ "" ∧ ∃ e ∈ outbox.rows, e.eventId = c.rejectionId.str

def outOfScope : Option (ActionProposal (BoundPayload π) ρ) → ProposalError
  | none => .scopeMismatch "Action proposal was not found." none
  | some p => .scopeMismatch
      "Action proposal does not belong to this customer and runtime session." (some p.id)

def refusal (c : ServiceCall β π ρ ι) (row : Option (ActionProposal (BoundPayload π) ρ)) :
    ProposalError :=
  match c.operation with
  | .decide _ none => .rejected "Proposal decision must be DECLINE, REVISE, or CANCEL."
  | _ => outOfScope row

section
variable {h : ProposalDigests (BoundPayload π) ρ} {c : ServiceCall β π ρ ι}
  {db db' : ProposalDb β (BoundPayload π) ρ} {customer id : Uuid} {e : ProposalError} {n : ℕ}

omit [DecidableEq ρ] in
theorem outOfScope_code {row : Option (ActionProposal (BoundPayload π) ρ)} :
    (outOfScope row).code ≠ "PROPOSAL_EXPIRED" := by
  cases row <;> exact of_decide_eq_true rfl

/-- A commit or a decision that names a row of another customer, or none, goes no further than
the check of the scope. -/
theorem serve_of_foreign (hcustomer : c.resolveCustomerId db = .ok customer)
    (hid : c.operation.proposalId = some id) (hargs : c.checkArguments = .ok ())
    (foreign : Foreign customer (db.proposals.get? id)) :
    c.serve h db = some (c.refuse db customer
      (.proposal (outOfScope (db.proposals.get? id)))) := by
  have hbegin : c.begin db = .ok (.resolved customer) := by
    simp only [ServiceCall.begin, hargs, hcustomer]
    cases hop : c.operation <;> simp [hop, ServiceOperation.proposalId] at hid <;> rfl
  have hstart : (proposalService h).observe db (.call c) .start = .resolved customer := by
    simp only [proposalService, ServiceCall.observe, hbegin, ServiceStage.after]
  have haction : (proposalService h).action (.call c) (.resolved customer) =
      .lock (.proposal id) := by
    simp only [proposalService, ServiceCall.action, hid]
  have hresolved : (proposalService h).observe db (.call c) (.resolved customer) =
      .after (ServiceCall.lockProposal db customer id) := by
    cases hop : c.operation <;> simp [hop, ServiceOperation.proposalId] at hid
    all_goals
      subst hid
      simp only [proposalService, ServiceCall.observe, hop]
  unfold ServiceCall.serve
  rw [alone_read rfl, hstart, alone_lock haction, hresolved]
  cases hrow : db.proposals.get? id with
  | none =>
    have hlock : ServiceCall.lockProposal (ι := ι) db customer id =
        .error (.proposal (outOfScope (db.proposals.get? id))) := by
      simp only [ServiceCall.lockProposal, getLocked, hrow]
      rfl
    rw [hlock, hrow]
    exact alone_failed hcustomer (unexpired_of_code outOfScope_code)
  | some p =>
    have hlock : ServiceCall.lockProposal (ι := ι) db customer id = .ok (.held customer p) := by
      simp only [ServiceCall.lockProposal, getLocked, hrow]
      rfl
    have hscope : ∀ actionType, p.validateScope (c.scopeOf customer) actionType =
        .error (outOfScope (some p)) := by
      intro actionType
      unfold ActionProposal.validateScope
      refine if_neg fun hboth => foreign p hrow ?_
      rw [hboth.1]
      rfl
    have hbody : (proposalService h).body db (.call c) (.held customer p) =
        .resume db (.failed (.proposal (outOfScope (some p)))) := by
      cases hop : c.operation with
      | preparePlaybook | propose => simp [hop, ServiceOperation.proposalId] at hid
      | commit id expected =>
        simp only [proposalService, ServiceCall.body, hop, ServiceCall.commitForIdentity, hscope]
        rfl
      | decide id decision =>
        cases decision with
        | none =>
          simp [ServiceCall.checkArguments, hop, require] at hargs
        | some decision =>
          simp only [proposalService, ServiceCall.body, hop, ServiceCall.decideForIdentity, hscope]
          rfl
    rw [hlock, ServiceStage.after, alone_resume rfl hbody]
    exact alone_failed hcustomer (unexpired_of_code outOfScope_code)

theorem serve_of_arguments (hcustomer : c.resolveCustomerId db = .ok customer)
    (hdecide : c.operation = .decide id none) :
    c.serve h db = some (c.refuse db customer
      (.proposal (.rejected "Proposal decision must be DECLINE, REVISE, or CANCEL."))) := by
  have hobserve : (proposalService h).observe db (.call c) .start = .failed
      (.proposal (.rejected "Proposal decision must be DECLINE, REVISE, or CANCEL.")) := by
    simp [proposalService, ServiceCall.observe, ServiceCall.begin, ServiceCall.checkArguments,
      hdecide, ServiceStage.after, rejected, require, bind, Except.bind]
  unfold ServiceCall.serve
  rw [alone_read rfl, hobserve]
  exact alone_failed hcustomer (unexpired_of_code (by decide))

theorem proposals_of_served (hserve : c.serve h db = some (c.refuse db customer (.proposal e)))
    (v : ProposalDb β (BoundPayload π) ρ) (a : Except ServiceError (ServiceAnswer π ρ)) :
    c.serve h db = some (v, a) → v.proposals = db.proposals := by
  intro hv
  rw [hserve] at hv
  have hdb : (c.refuse db customer (.proposal e)).1 = v := congrArg Prod.fst (Option.some.inj hv)
  rw [← hdb]
  exact refuse_keeps.1

omit [DecidableEq ρ] in
theorem refuse_cases :
    (Unrecordable c db.outbox ∧
      (c.refuse db customer (.proposal e)).2 = .error (.python .integrityError)) ∨
    (¬ Unrecordable c db.outbox ∧
      (c.refuse db customer (.proposal e)).2 = .error (.proposal e)) := by
  by_cases hidentity : c.identity = ""
  · rw [ServiceCall.refuse, if_pos hidentity]
    exact Or.inr ⟨fun h => h.1 hidentity, rfl⟩
  · rw [ServiceCall.refuse, if_neg hidentity, recordRejection]
    dsimp only [insert]
    generalize hevent : ProposalEvent.mk c.rejectionId.str _ _ _ _ = event
    have hkey : event.eventId = c.rejectionId.str := by rw [← hevent]
    cases hinsert : db.outbox.insert? event with
    | none =>
      obtain ⟨x, hmem, hx⟩ := Table.insert?_eq_none.mp hinsert
      exact Or.inl ⟨⟨hidentity, x, hmem, Eq.trans hx hkey⟩, rfl⟩
    | some outbox =>
      have hfresh := (Table.insert?_eq_some.mp hinsert).1
      refine Or.inr ⟨?_, rfl⟩
      rintro ⟨-, x, hmem, hx⟩
      exact hfresh x hmem (Eq.trans hx hkey.symm)

/-- The refusal is reported with the row as it is stored, unless it cannot be recorded. -/
theorem response_of_refused (hserve : c.serve h db = some (c.refuse db customer (.proposal e))) :
    (Unrecordable c db.outbox ∧ response h c db = some .failed) ∨
    (¬ Unrecordable c db.outbox ∧ response h c db = some (.refused (safeResult db e))) := by
  have hresult : safeResult (c.refuse db customer (.proposal e)).1 e = safeResult db e := by
    unfold safeResult
    rw [refuse_keeps.1]
  unfold response
  rw [hserve, Option.map_some]
  rcases @refuse_cases _ _ _ _ c db customer e with
    ⟨hun, hanswer⟩ | ⟨hrec, hanswer⟩
  · rw [hanswer]
    exact Or.inl ⟨hun, rfl⟩
  · rw [hanswer, respond, hresult]
    exact Or.inr ⟨hrec, rfl⟩

omit [DecidableEq ρ] in
theorem proposal_of_outOfScope :
    (safeResult db (outOfScope (db.proposals.get? id))).proposal =
      (shown db id).map fun x => (id, x) := by
  cases hrow : db.proposals.get? id with
  | none => simp [safeResult, outOfScope, ProposalError.scopeMismatch, shown, hrow]
  | some p =>
    have hid : p.id = id := get?_id hrow
    simp [safeResult, outOfScope, ProposalError.scopeMismatch, shown, hrow, hid]

omit [DecidableEq ρ] in
theorem safeResult_outOfScope_iff :
    safeResult db (outOfScope (db.proposals.get? id)) =
      safeResult db' (outOfScope (db'.proposals.get? id)) ↔ shown db id = shown db' id := by
  constructor
  · intro heq
    have hproposal := congrArg SafeResult.proposal heq
    rw [proposal_of_outOfScope, proposal_of_outOfScope] at hproposal
    exact Option.map_injective (fun x y hxy => (Prod.mk.inj hxy).2) hproposal
  · intro heq
    have hproposal : (safeResult db (outOfScope (db.proposals.get? id))).proposal =
        (safeResult db' (outOfScope (db'.proposals.get? id))).proposal := by
      rw [proposal_of_outOfScope, proposal_of_outOfScope, heq]
    cases hrow : db.proposals.get? id <;> cases hrow' : db'.proposals.get? id <;>
      simp only [hrow, hrow'] at hproposal <;>
      simp only [safeResult, outOfScope, ProposalError.scopeMismatch] at hproposal ⊢ <;>
      rw [hproposal]

theorem serve_refused (hcustomer : c.resolveCustomerId db = .ok customer)
    (hid : c.operation.proposalId = some id) (foreign : Foreign customer (db.proposals.get? id)) :
    c.serve h db = some (c.refuse db customer (.proposal (refusal c (db.proposals.get? id)))) := by
  unfold refusal
  cases hop : c.operation with
  | preparePlaybook | propose => simp [hop, ServiceOperation.proposalId] at hid
  | commit id' expected =>
    exact serve_of_foreign hcustomer hid (by simp only [ServiceCall.checkArguments, hop]) foreign
  | decide id' decision =>
    cases decision with
    | none => exact serve_of_arguments hcustomer hop
    | some decision =>
      refine serve_of_foreign hcustomer hid ?_ foreign
      simp only [ServiceCall.checkArguments, hop]
      rfl

omit [DecidableEq ρ] in
theorem safeResult_refusal_iff (hid : c.operation.proposalId = some id) :
    safeResult db (refusal c (db.proposals.get? id)) =
      safeResult db' (refusal c (db'.proposals.get? id)) ↔
    c.operation = .decide id none ∨ shown db id = shown db' id := by
  unfold refusal
  split
  · next id' hop =>
    rw [hop] at hid
    cases hid
    exact iff_of_true rfl (Or.inl hop)
  · next hop =>
    rw [safeResult_outOfScope_iff]
    exact (or_iff_right fun h => hop id h).symm

/-- Two states that only proposals of other customers tell apart answer a commit or a decision
about such a proposal alike exactly if it is refused before the row is read, or they show the row
alike: not at all, or with the same action and status. The request changes no proposal. -/
theorem foreign_answered_alike_iff (h : ProposalDigests (BoundPayload π) ρ)
    (c : ServiceCall β π ρ ι) (db db' : ProposalDb β (BoundPayload π) ρ) (customer id : Uuid)
    (hcustomer : c.resolveCustomerId db = .ok customer)
    (hid : c.operation.proposalId = some id) (differ : DifferInOthers customer db db')
    (foreign : Foreign customer (db.proposals.get? id))
    (foreign' : Foreign customer (db'.proposals.get? id)) :
    ∃ r r' : Response π ρ, response h c db = some r ∧ response h c db' = some r' ∧
      (r = r' ↔ c.operation = .decide id none ∨ Unrecordable c db.outbox ∨
        shown db id = shown db' id) ∧
      (∀ v a, c.serve h db = some (v, a) → v.proposals = db.proposals) ∧
      ∀ v a, c.serve h db' = some (v, a) → v.proposals = db'.proposals := by
  have hcustomer' : c.resolveCustomerId db' = .ok customer := by
    rw [resolveCustomerId_congr differ.users.symm]
    exact hcustomer
  have hserve := serve_refused (h := h) hcustomer hid foreign
  have hserve' := serve_refused (h := h) hcustomer' hid foreign'
  have keeps := proposals_of_served hserve
  have keeps' := proposals_of_served hserve'
  rcases response_of_refused hserve with ⟨hun, hr⟩ | ⟨hrec, hr⟩
  · rcases response_of_refused hserve' with ⟨hun', hr'⟩ | ⟨hrec', hr'⟩
    · exact ⟨_, _, hr, hr', iff_of_true rfl (Or.inr (Or.inl hun)), keeps, keeps'⟩
    · exact absurd (differ.outbox ▸ hun) hrec'
  · rcases response_of_refused hserve' with ⟨hun', hr'⟩ | ⟨hrec', hr'⟩
    · exact absurd (differ.outbox ▸ hun') hrec
    · refine ⟨_, _, hr, hr', ?_, keeps, keeps'⟩
      rw [Response.refused.injEq, safeResult_refusal_iff hid, or_iff_right hrec]

end

def foreignProposal (summary : String) : ActionProposal (BoundPayload String) Bool where
  id := .ofNat 1
  bankDecisionRef := none
  definitionId := "card-reissue"
  definitionRevision := 1
  definitionDigest := "digest-1"
  contractVersion := "card-reissue.v1"
  actionType := "REISSUE_CARD"
  status := .proposed
  scope := ⟨.ofNat 8, "support-8", "runtime", "runtime-8"⟩
  accountId := none
  originatingCustomerTurnId := "turn-1"
  resetGeneration := "reset-1"
  confirmationPolicy := "EXPLICIT_VERBAL"
  actionPayload := ⟨"lost card", "sha256:lost card"⟩
  payloadFingerprint := "sha256:lost card"
  customerSafeSummary := summary
  catalogSnapshotId := none
  idempotencyKey := "key-1"
  presentedAssistantTurnId := none
  confirmationCustomerTurnId := none
  confirmationEvidence := none
  resultPayload := none
  invalidationReason := none
  expiresAt := 180
  createdAt := 0
  presentedAt := none
  confirmedAt := none
  commitStartedAt := none
  completedAt := none

def foreignStore (summary : String) : ProposalDb ℕ (BoundPayload String) Bool :=
  { reissueServiceStore 0 with
    proposals := ⟨[foreignProposal summary], List.pairwise_singleton _ _⟩ }

def foreignCommit : ServiceCall ℕ String Bool String :=
  reissueRequest reissueRegistry 2 2 (acceptedOn "turn-2" "turn-3") (.commit (.ofNat 1) none)

theorem foreignStore_foreign (summary : String) (id : Uuid) :
    Foreign (.ofNat 7) ((foreignStore summary).proposals.get? id) := by
  intro p hp
  have hmem := (Table.get?_eq_some.mp hp).1
  rw [List.mem_singleton.mp hmem]
  change Uuid.ofNat 8 ≠ Uuid.ofNat 7
  decide +kernel

theorem foreignStores_alike :
    ∃ r r' : Response String Bool,
      response reissueServiceDigests foreignCommit (foreignStore "Replace card 4242.") = some r ∧
      response reissueServiceDigests foreignCommit (foreignStore "Replace card 1111.") = some r' ∧
      r = r' := by
  obtain ⟨r, r', hr, hr', halike, -⟩ := foreign_answered_alike_iff reissueServiceDigests
    foreignCommit (foreignStore "Replace card 4242.") (foreignStore "Replace card 1111.")
    (.ofNat 7) (.ofNat 1) (by decide +kernel) rfl
    ⟨rfl, rfl, rfl, fun id => Or.inr ⟨foreignStore_foreign _ id, foreignStore_foreign _ id⟩⟩
    (foreignStore_foreign _ _) (foreignStore_foreign _ _)
  exact ⟨r, r', hr, hr', halike.mpr (Or.inr (Or.inr (by decide +kernel)))⟩

/-- The refusal says that there is a proposal under the id, what it is for and how far it is. -/
theorem foreign_proposal_is_shown :
    ¬ ∀ (h : ProposalDigests (BoundPayload String) Bool) (c : ServiceCall ℕ String Bool String)
      (db db' : ProposalDb ℕ (BoundPayload String) Bool) (customer id : Uuid),
      c.resolveCustomerId db = .ok customer → c.operation.proposalId = some id →
      DifferInOthers customer db db' → Foreign customer (db.proposals.get? id) →
      Foreign customer (db'.proposals.get? id) → response h c db = response h c db' := by
  intro hall
  have hnone : ∀ id, Foreign (.ofNat 7)
      ((reissueServiceStore 0 : ProposalDb ℕ (BoundPayload String) Bool).proposals.get? id) :=
    fun id p hp => nomatch hp
  have heq := hall reissueServiceDigests foreignCommit (reissueServiceStore 0)
    (foreignStore "Replace card 4242.") (.ofNat 7) (.ofNat 1) (by decide +kernel) rfl
    ⟨rfl, rfl, rfl, fun id => Or.inr ⟨hnone id, foreignStore_foreign _ id⟩⟩ (hnone _)
    (foreignStore_foreign _ _)
  exact absurd (congrArg (fun r => r.bind Response.refusal) heq) (by decide +kernel)

end BankingService.ForeignProposals
