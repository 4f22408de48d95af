import BankingService.FraudTriage
import BankingService.ProposalSessions

/-! Preparing a proposal again. The columns that a proposal was prepared with never change, and a
retry of the idempotency key is checked against them; but the inputs of the retry are reviewed
against the live state before its earlier proposal is returned. -/
namespace BankingService.RetriedPreparations

open Python Relational Checked Relation Runs ReadCommitted

variable {β π ρ ι : Type}

/-- The columns that are written once, with the proposal. -/
structure SameOrigin (p q : ActionProposal π ρ) : Prop where
  scope : q.scope = p.scope
  actionType : q.actionType = p.actionType
  contractVersion : q.contractVersion = p.contractVersion
  definitionId : q.definitionId = p.definitionId
  definitionRevision : q.definitionRevision = p.definitionRevision
  definitionDigest : q.definitionDigest = p.definitionDigest
  turn : q.originatingCustomerTurnId = p.originatingCustomerTurnId
  resetGeneration : q.resetGeneration = p.resetGeneration
  catalogSnapshot : q.catalogSnapshotId = p.catalogSnapshotId
  idempotencyKey : q.idempotencyKey = p.idempotencyKey
  payload : q.actionPayload = p.actionPayload

/-- Whatever happened in between: no user and no proposal is gone, and every proposal is still
what was prepared. -/
structure Later (db db' : ProposalDb β π ρ) : Prop where
  users : db'.users = db.users
  proposals : ∀ id p, db.proposals.get? id = some p →
    ∃ q, db'.proposals.get? id = some q ∧ SameOrigin p q

theorem SameOrigin.refl (p : ActionProposal π ρ) : SameOrigin p p :=
  ⟨rfl, rfl, rfl, rfl, rfl, rfl, rfl, rfl, rfl, rfl, rfl⟩

theorem SameOrigin.trans {p q r : ActionProposal π ρ} (h : SameOrigin p q)
    (h' : SameOrigin q r) : SameOrigin p r :=
  ⟨h'.scope.trans h.scope, h'.actionType.trans h.actionType,
    h'.contractVersion.trans h.contractVersion, h'.definitionId.trans h.definitionId,
    h'.definitionRevision.trans h.definitionRevision,
    h'.definitionDigest.trans h.definitionDigest, h'.turn.trans h.turn,
    h'.resetGeneration.trans h.resetGeneration, h'.catalogSnapshot.trans h.catalogSnapshot,
    h'.idempotencyKey.trans h.idempotencyKey, h'.payload.trans h.payload⟩

theorem Later.refl (db : ProposalDb β π ρ) : Later db db :=
  ⟨rfl, fun _ p hp => ⟨p, hp, .refl p⟩⟩

theorem Later.trans {db₁ db₂ db₃ : ProposalDb β π ρ} (h : Later db₁ db₂) (h' : Later db₂ db₃) :
    Later db₁ db₃ := by
  refine ⟨h'.users.trans h.users, ?_⟩
  intro id p hp
  obtain ⟨q, hq, hpq⟩ := h.proposals id p hp
  obtain ⟨r, hr, hqr⟩ := h'.proposals id q hq
  exact ⟨r, hr, hpq.trans hqr⟩

theorem later_of_same {db db' : ProposalDb β π ρ} (users : db'.users = db.users)
    (proposals : db'.proposals = db.proposals) : Later db db' :=
  ⟨users, fun _ p hp => ⟨p, by rw [proposals]; exact hp, .refl p⟩⟩

theorem later_of_replaced {db db' : ProposalDb β π ρ} {p q : ActionProposal π ρ}
    (users : db'.users = db.users) (current : db.proposals.get? p.id = some p)
    (hget : ∀ id, db'.proposals.get? id = if id = p.id then some q else db.proposals.get? id)
    (horigin : SameOrigin p q) : Later db db' := by
  refine ⟨users, ?_⟩
  intro id r hr
  by_cases hid : id = p.id
  · subst hid
    obtain rfl : p = r := Option.some.inj (current.symm.trans hr)
    exact ⟨q, by rw [hget, if_pos rfl], horigin⟩
  · exact ⟨r, by rw [hget, if_neg hid]; exact hr, .refl r⟩

theorem rowStep_origin {D : Decisions π ρ} {p q : ActionProposal π ρ} {stage : Stage}
    (h : RowStep D p stage q) : SameOrigin p q := by
  cases h <;> exact ⟨rfl, rfl, rfl, rfl, rfl, rfl, rfl, rfl, rfl, rfl, rfl⟩

theorem dbStep_later {h : ProposalDigests π ρ} {A : Permits β π ρ} {db db' : ProposalDb β π ρ}
    (hs : DbStep h A db db') : Later db db' := by
  have husers := dbStep_users hs
  cases hs with
  | moved registry clock current locked step saved =>
    exact later_of_replaced husers current (get?_advance saved current (rowStep_id step))
      (rowStep_origin step)
  | overtaken registry clock now done reason current locked status inTime claim saved =>
    exact later_of_replaced husers current (get?_claimed claim saved current rfl rfl)
      ⟨rfl, rfl, rfl, rfl, rfl, rfl, rfl, rfl, rfl, rfl, rfl⟩
  | @executed claimed _ p executed _ registry clock specification now done result current
      locked status inTime admitted registered claim run saved =>
    have hget := get?_claimed claim saved current rfl rfl
    exact later_of_replaced husers current hget
      ⟨rfl, rfl, rfl, rfl, rfl, rfl, rfl, rfl, rfl, rfl, rfl⟩
  | rejected eventId now operation customerId e attempted generated saved =>
    exact later_of_same husers (proposals_of_rejection saved)
  | inserted registry clock specification v expiresAt saved =>
    obtain ⟨t, ht, hproposals, -⟩ := insertProposal_eq_ok saved
    refine ⟨husers, ?_⟩
    intro id p hp
    rw [hproposals]
    exact ⟨p, Table.get?_insert_of_some ht hp, .refl p⟩

theorem writes_later {h : ProposalDigests (BoundPayload π) ρ} {G : ServicePermits β π ρ}
    {rows : Uuid → Prop} {db db' : ProposalDb β (BoundPayload π) ρ}
    (hw : Writes h G rows db db') : Later db db' := by
  rcases hw with hpath | ⟨retained, checkpoint, rfl⟩
  · induction hpath with
    | refl => exact .refl db
    | tail _ hstep ih => exact ih.trans (dbStep_later hstep)
  · refine later_of_same ?_ proposals_of_prune
    cases checkpoint <;> rfl

section
variable (h : ProposalDigests (BoundPayload π) ρ) (c : ServiceCall β π ρ ι)

/-- The fingerprint that a proposal keeps of its business inputs. -/
def inputFingerprint (s : ActionSpecification β (BoundPayload π) ρ) (n : ι) : String :=
  h.sha256 (c.catalog.inputsJson ((c.catalog.operationOf s).normalizeBusinessInputs n))

/-- The proposal that the request prepares from the public inputs normalized to `n`: a proposal of
the pinned playbook `t`, under its own specification `s`. -/
structure PreparedAs (customer : Uuid) (t s : ActionSpecification β (BoundPayload π) ρ) (n : ι)
    (p : ActionProposal (BoundPayload π) ρ) : Prop where
  scope : p.scope = c.scopeOf customer
  actionType : p.actionType = t.actionType
  specification : c.catalog.registry.forProposal p = .ok s
  turn : p.originatingCustomerTurnId = c.context.customerTurnId
  resetGeneration : p.resetGeneration = c.context.resetGeneration
  catalogSnapshot : p.catalogSnapshotId = c.context.catalogSnapshotId
  idempotencyKey : p.idempotencyKey = c.operation.idempotencyKey
  inputs : p.actionPayload.businessInputFingerprint = inputFingerprint h c s n

structure Pinned (pin : String × ℕ × String) (db : ProposalDb β (BoundPayload π) ρ)
    (customer : Uuid) (s : ActionSpecification β (BoundPayload π) ρ) : Prop where
  turn : c.context.requireCustomerTurn = .ok ()
  customer : c.resolveCustomerId db = .ok customer
  specification : c.catalog.registry.resolve pin.1 pin.2.1 pin.2.2 = .ok s

/-- The inputs were accepted, when they were reviewed, and normalized to `n`. -/
structure Reviewed (s : ActionSpecification β (BoundPayload π) ρ) (inputs n : ι) : Prop where
  publicInputs : (c.catalog.operationOf s).invalidPublicInputs inputs = none
  reviewed : ∃ bank, (c.catalog.operationOf s).normalizePublicInputs bank c.identity inputs = .ok n

structure Planned (pin : String × ℕ × String) (inputs : ι) (db : ProposalDb β (BoundPayload π) ρ)
    (customer : Uuid) (t s : ActionSpecification β (BoundPayload π) ρ) (n : ι) : Prop where
  pinned : Pinned c pin db customer t
  reviewed : Reviewed c t inputs n
  accepted : (c.catalog.operationOf s).invalidInputs n = none

def Stored (pin : String × ℕ × String) (inputs : ι) (db : ProposalDb β (BoundPayload π) ρ)
    (id : Uuid) : Prop :=
  ∃ customer t s n p, Planned c pin inputs db customer t s n ∧ db.proposals.get? id = some p ∧
    PreparedAs h c customer t s n p

def Values (pin : String × ℕ × String) (inputs : ι) (db : ProposalDb β (BoundPayload π) ρ)
    (s : ActionSpecification β (BoundPayload π) ρ) (v : CreateValues (BoundPayload π)) : Prop :=
  ∃ customer n, Planned c pin inputs db customer s s n ∧
    ∀ expiresAt, PreparedAs h c customer s s n ((c.engine h).proposalOf s v expiresAt)

def Fingerprinted (p : ActionProposal (BoundPayload π) ρ) : Prop :=
  p.payloadFingerprint = h.sha256 (h.payloadJson p.actionPayload)

structure LookedUp (db : ProposalDb β (BoundPayload π) ρ) (v : CreateValues (BoundPayload π))
    (existing : ActionProposal (BoundPayload π) ρ) : Prop where
  customer : existing.scope.customerId = v.scope.customerId
  session : existing.scope.supportSessionId = v.scope.supportSessionId
  actionType : existing.actionType = v.actionType
  key : existing.idempotencyKey = v.idempotencyKey
  fingerprinted : Fingerprinted h existing
  kept : ∃ q, db.proposals.get? existing.id = some q ∧ SameOrigin existing q

/-- What is known of a preparation at each of its stages. -/
def Tracked (pin : String × ℕ × String) (inputs : ι) (db : ProposalDb β (BoundPayload π) ρ) :
    ServiceStage β π ρ ι → Prop
  | .resolved customer => c.context.requireCustomerTurn = .ok () ∧
      c.resolveCustomerId db = .ok customer
  | .unpublished customer s | .published customer s => Pinned c pin db customer s
  | .proposing customer s actionType n => ∃ t, s = some t ∧ actionType = t.actionType ∧
      Pinned c pin db customer t ∧ Reviewed c t inputs n
  | .repeated p => Stored h c pin inputs db p.id
  | .viewing id => Stored h c pin inputs db id
  | .fresh customer s m | .preparing customer s m => ∃ n, Planned c pin inputs db customer s s n ∧
      m = (c.catalog.operationOf s).normalizeBusinessInputs n
  | .creating v => ∃ s, Values h c pin inputs db s v ∧
      v.definition = some (s.definitionId, s.definitionRevision, s.definitionDigest)
  | .found s v existing => Values h c pin inputs db s v ∧ LookedUp h db v existing
  | .joining s v | .searching s v | .locking s v _ _ => Values h c pin inputs db s v
  | .start | .held _ _ | .failed _ | .failedFor _ _ _ | .rejecting _ _ _ => True

end

section
variable {h : ProposalDigests (BoundPayload π) ρ} {c : ServiceCall β π ρ ι}
  {db db' : ProposalDb β (BoundPayload π) ρ} {pin : String × ℕ × String} {inputs n : ι}
  {customer : Uuid} {t s : ActionSpecification β (BoundPayload π) ρ}

theorem resolve_eq_ok {registry : ActionRegistry β (BoundPayload π) ρ}
    {definitionId digest : String}
    {revision : ℕ} (hs : registry.resolve definitionId revision digest = .ok s) :
    s.definitionId = definitionId ∧ s.definitionRevision = revision ∧
      s.definitionDigest = digest := by
  rw [ActionRegistry.resolve, orRaise_eq_ok, Option.filter_eq_some_iff] at hs
  obtain ⟨hfind, hdigest⟩ := hs
  have hfound := List.find?_some hfind
  simp only [decide_eq_true_eq] at hfound hdigest
  exact ⟨hfound.1, hfound.2, hdigest⟩

theorem forProposal_congr {registry : ActionRegistry β (BoundPayload π) ρ}
    {p q : ActionProposal (BoundPayload π) ρ} (definitionId : q.definitionId = p.definitionId)
    (revision : q.definitionRevision = p.definitionRevision)
    (digest : q.definitionDigest = p.definitionDigest) (actionType : q.actionType = p.actionType)
    (contractVersion : q.contractVersion = p.contractVersion) :
    registry.forProposal q = registry.forProposal p := by
  unfold ActionRegistry.forProposal
  rw [definitionId, revision, digest, actionType, contractVersion]

theorem PreparedAs.later {p q : ActionProposal (BoundPayload π) ρ}
    (hp : PreparedAs h c customer t s n p) (hpq : SameOrigin p q) :
    PreparedAs h c customer t s n q where
  scope := hpq.scope.trans hp.scope
  actionType := hpq.actionType.trans hp.actionType
  specification := by
    rw [forProposal_congr hpq.definitionId hpq.definitionRevision hpq.definitionDigest
      hpq.actionType hpq.contractVersion]
    exact hp.specification
  turn := hpq.turn.trans hp.turn
  resetGeneration := hpq.resetGeneration.trans hp.resetGeneration
  catalogSnapshot := hpq.catalogSnapshot.trans hp.catalogSnapshot
  idempotencyKey := hpq.idempotencyKey.trans hp.idempotencyKey
  inputs := by rw [hpq.payload]; exact hp.inputs

theorem Pinned.later (hp : Pinned c pin db customer s) (hlater : Later db db') :
    Pinned c pin db' customer s :=
  ⟨hp.turn, by rw [resolveCustomerId_congr hlater.users]; exact hp.customer, hp.specification⟩

theorem Planned.later (hp : Planned c pin inputs db customer t s n) (hlater : Later db db') :
    Planned c pin inputs db' customer t s n :=
  ⟨hp.pinned.later hlater, hp.reviewed, hp.accepted⟩

theorem Stored.later {id : Uuid} (hs : Stored h c pin inputs db id) (hlater : Later db db') :
    Stored h c pin inputs db' id := by
  obtain ⟨customer, t, s, n, p, hplan, hp, hprepared⟩ := hs
  obtain ⟨q, hq, hpq⟩ := hlater.proposals id p hp
  exact ⟨customer, t, s, n, q, hplan.later hlater, hq, hprepared.later hpq⟩

theorem Values.later {v : CreateValues (BoundPayload π)} (hv : Values h c pin inputs db s v)
    (hlater : Later db db') : Values h c pin inputs db' s v := by
  obtain ⟨customer, n, hplan, hprepared⟩ := hv
  exact ⟨customer, n, hplan.later hlater, hprepared⟩

theorem LookedUp.later {v : CreateValues (BoundPayload π)}
    {existing : ActionProposal (BoundPayload π) ρ} (he : LookedUp h db v existing)
    (hlater : Later db db') : LookedUp h db' v existing := by
  obtain ⟨q, hq, horigin⟩ := he.kept
  obtain ⟨r, hr, hqr⟩ := hlater.proposals existing.id q hq
  exact ⟨he.customer, he.session, he.actionType, he.key, he.fingerprinted,
    r, hr, horigin.trans hqr⟩

theorem Tracked.later {t : ServiceStage β π ρ ι} (ht : Tracked h c pin inputs db t)
    (hlater : Later db db') : Tracked h c pin inputs db' t := by
  cases t with
  | resolved customer =>
    exact ⟨ht.1, by rw [resolveCustomerId_congr hlater.users]; exact ht.2⟩
  | unpublished customer s | published customer s => exact Pinned.later ht hlater
  | proposing customer s actionType n =>
    obtain ⟨t, hs, htype, hpinned, hreviewed⟩ := ht
    exact ⟨t, hs, htype, hpinned.later hlater, hreviewed⟩
  | repeated p => exact Stored.later ht hlater
  | viewing id => exact Stored.later ht hlater
  | fresh customer s m | preparing customer s m =>
    obtain ⟨n, hplan, hm⟩ := ht
    exact ⟨n, hplan.later hlater, hm⟩
  | creating v =>
    obtain ⟨s, hv, hdefinition⟩ := ht
    exact ⟨s, hv.later hlater, hdefinition⟩
  | found s v existing => exact ⟨ht.1.later hlater, ht.2.later hlater⟩
  | joining | searching | locking => exact Values.later ht hlater
  | start | held | failed | failedFor | rejecting => trivial

theorem lookedUp_of_found {v : CreateValues (BoundPayload π)}
    {existing : ActionProposal (BoundPayload π) ρ}
    (fingerprints : ∀ p ∈ db.proposals.rows, Fingerprinted h p)
    (hfind : findIdempotentProposal db v.scope v.actionType v.idempotencyKey = some existing) :
    LookedUp h db v existing := by
  obtain ⟨hmem, hcustomer, hsession, htype, hkey⟩ := Table.first?_mem hfind
  exact ⟨hcustomer, hsession, htype, hkey, fingerprints _ hmem,
    existing, Table.get?_of_mem hmem, .refl existing⟩

theorem preparedAs_of_replay (hsha : Function.Injective h.sha256)
    (hjson : Function.Injective h.payloadJson) {v : CreateValues (BoundPayload π)}
    {expiresAt : Timestamp} {existing p : ActionProposal (BoundPayload π) ρ}
    (hv : PreparedAs h c customer t s n ((c.engine h).proposalOf s v expiresAt))
    (he : LookedUp h db v existing)
    (replay : validateIdempotentReplay existing ((c.engine h).proposalOf s v expiresAt) = .ok p) :
    p = existing ∧ PreparedAs h c customer t s n existing := by
  simp only [validateIdempotentReplay, bind_eq_ok, require_eq_ok, pure_eq_ok] at replay
  obtain ⟨-, ⟨hfingerprint, hid, hrevision, hdigest, -, hcontract, hname, hsession, hturn, hreset,
    -, -, hsnapshot⟩, rfl⟩ := replay
  have hpayload : existing.actionPayload = v.actionPayload :=
    hjson (hsha (he.fingerprinted.symm.trans hfingerprint))
  have hscope : existing.scope = v.scope := by
    cases hps : existing.scope
    cases hvs : v.scope
    have h1 := he.customer
    have h2 := he.session
    have h3 : existing.scope.runtimeName = v.scope.runtimeName := hname
    have h4 : existing.scope.runtimeSessionId = v.scope.runtimeSessionId := hsession
    rw [hps, hvs] at h1 h2 h3 h4
    simp only at h1 h2 h3 h4
    rw [h1, h2, h3, h4]
  refine ⟨rfl, hscope.trans hv.scope, he.actionType.trans hv.actionType, ?_,
    hturn.trans hv.turn, hreset.trans hv.resetGeneration, hsnapshot.trans hv.catalogSnapshot,
    he.key.trans hv.idempotencyKey, ?_⟩
  · rw [forProposal_congr hid hrevision hdigest he.actionType hcontract]
    exact hv.specification
  · rw [hpayload]
    exact hv.inputs

theorem tracked_after {x : Except ServiceError (ServiceStage β π ρ ι)}
    (hx : ∀ t, x = .ok t → Tracked h c pin inputs db t) :
    Tracked h c pin inputs db (ServiceStage.after x) := by
  cases x with
  | ok t => exact hx t rfl
  | error e => trivial

theorem forProposal_of_resolve {registry : ActionRegistry β (BoundPayload π) ρ}
    {p : ActionProposal (BoundPayload π) ρ}
    (hs : registry.resolve p.definitionId p.definitionRevision p.definitionDigest = .ok s)
    (actionType : p.actionType = s.actionType)
    (contractVersion : p.contractVersion = s.contractVersion) :
    registry.forProposal p = .ok s := by
  simp only [ActionRegistry.forProposal, bind_eq_ok, require_eq_ok, pure_eq_ok]
  exact ⟨s, hs, (), ⟨actionType.symm, contractVersion.symm⟩, rfl⟩

theorem specificationFor_eq_ok {existing : Option (ActionProposal (BoundPayload π) ρ)}
    {actionType : String} (hs : c.specificationFor existing (some t) actionType = .ok s) :
    (existing = none ∧ s = t) ∨ ∃ p, existing = some p ∧
      c.catalog.registry.forProposal p = .ok s := by
  cases existing with
  | none => exact Or.inl ⟨rfl, (Except.ok.inj hs).symm⟩
  | some p => exact Or.inr ⟨p, rfl, hs⟩

/-- The proposal that `propose_action` returns has the inputs and the scope of the request. -/
theorem proposeAction_tracked (hpinned : Pinned c pin db customer t)
    (hreviewed : Reviewed c t inputs n) {stage : ServiceStage β π ρ ι}
    (he : c.proposeAction h db customer (some t) t.actionType n = .ok stage) :
    Tracked h c pin inputs db stage := by
  simp only [ServiceCall.proposeAction, bind_eq_ok, rejectIf_eq_ok] at he
  obtain ⟨s, hs, -, haccepted, he⟩ := he
  rcases specificationFor_eq_ok hs with ⟨hnone, rfl⟩ | ⟨p, hsome, hspecification⟩
  · rw [hnone] at he
    cases he
    exact ⟨n, ⟨hpinned, hreviewed, haccepted⟩, rfl⟩
  · rw [hsome] at he
    simp only [bind_eq_ok, require_eq_ok, pure_eq_ok] at he
    obtain ⟨-, ⟨hcontext, hinputs⟩, rfl⟩ := he
    obtain ⟨hmem, hcustomer, hsession, htype, hkey⟩ := Table.first?_mem hsome
    obtain ⟨hsupport, hname, hruntime, hturn, hreset, hsnapshot⟩ := hcontext
    refine ⟨customer, t, s, n, p, ⟨hpinned, hreviewed, haccepted⟩, Table.get?_of_mem hmem,
      ?_, htype, hspecification, hturn, hreset, hsnapshot, hkey, hinputs⟩
    cases hp : p.scope
    rw [hp] at hcustomer hsupport hname hruntime
    simp only [ServiceCall.scopeOf] at hcustomer hsupport hname hruntime ⊢
    rw [hcustomer, hsupport, hname, hruntime]

theorem checkValues_of_pinned {v : CreateValues (BoundPayload π)}
    (hpinned : Pinned c pin db customer t)
    (hdefinition : v.definition = some (t.definitionId, t.definitionRevision, t.definitionDigest))
    (hs : (c.engine h).checkValues v = .ok s) : s = t := by
  obtain ⟨hid, hrevision, hdigest⟩ := resolve_eq_ok hpinned.specification
  simp only [Engine.checkValues, hdefinition, bind_eq_ok, pure_eq_ok] at hs
  obtain ⟨-, -, s', hresolve, -, -, -, -, -, -, -, -, rfl⟩ := hs
  rw [hid, hrevision, hdigest] at hresolve
  exact Except.ok.inj (hresolve.symm.trans hpinned.specification)

theorem tracked_observe {inputs : ι} {key : String}
    (hop : c.operation = .preparePlaybook pin.1 pin.2.1 pin.2.2 inputs key)
    (fingerprints : ∀ p ∈ db.proposals.rows, Fingerprinted h p) {stage : ServiceStage β π ρ ι}
    (ht : Tracked h c pin inputs db stage) : Tracked h c pin inputs db (c.observe h db stage) := by
  cases stage with
  | start =>
    refine tracked_after fun stage hstage => ?_
    simp only [ServiceCall.begin, ServiceCall.checkArguments, hop, bind_eq_ok, pure_eq_ok] at hstage
    obtain ⟨_, hturn, customer, hcustomer, rfl⟩ := hstage
    exact ⟨hturn, hcustomer⟩
  | resolved customer =>
    simp only [ServiceCall.observe, hop]
    refine tracked_after fun stage hstage => ?_
    simp only [ServiceCall.openPlaybook, bind_eq_ok] at hstage
    obtain ⟨s, hs, hstage⟩ := hstage
    have hpinned : Pinned c pin db customer s := ⟨ht.1, ht.2, mapError_eq_ok.mp hs⟩
    split at hstage
    · cases hstage
      exact hpinned
    · simp only [bind_eq_ok, pure_eq_ok] at hstage
      obtain ⟨-, -, -, -, rfl⟩ := hstage
      exact hpinned
  | unpublished customer s =>
    refine tracked_after fun stage hstage => ?_
    simp only [bind_eq_ok, pure_eq_ok] at hstage
    obtain ⟨-, -, rfl⟩ := hstage
    exact ht
  | published customer s =>
    simp only [ServiceCall.observe, hop]
    refine tracked_after fun stage hstage => ?_
    simp only [ServiceCall.publicInputs, bind_eq_ok, rejectIf_eq_ok, pure_eq_ok] at hstage
    obtain ⟨-, hvalid, n, hn, rfl⟩ := hstage
    exact ⟨s, rfl, rfl, ht, hvalid, db.bank, hn⟩
  | proposing customer s actionType n =>
    obtain ⟨t, rfl, rfl, hpinned, hreviewed⟩ := ht
    exact tracked_after fun stage hstage => proposeAction_tracked hpinned hreviewed hstage
  | fresh customer s m =>
    refine tracked_after fun stage hstage => ?_
    simp only [bind_eq_ok, pure_eq_ok] at hstage
    obtain ⟨-, -, rfl⟩ := hstage
    exact ht
  | preparing customer s m =>
    obtain ⟨n, hplan, rfl⟩ := ht
    refine tracked_after fun stage hstage => ?_
    simp only [ServiceCall.prepareAction, bind_eq_ok, pure_eq_ok] at hstage
    obtain ⟨-, -, ⟨accountId, facts, summary⟩, -, rfl⟩ := hstage
    refine ⟨s, ⟨customer, n, hplan, fun expiresAt => ?_⟩, rfl⟩
    obtain ⟨hid, hrevision, hdigest⟩ := resolve_eq_ok hplan.pinned.specification
    refine ⟨rfl, rfl, forProposal_of_resolve ?_ rfl rfl, rfl, rfl, rfl, rfl, rfl⟩
    change c.catalog.registry.resolve s.definitionId s.definitionRevision s.definitionDigest = .ok s
    rw [hid, hrevision, hdigest]
    exact hplan.pinned.specification
  | creating v =>
    obtain ⟨s, hv, hdefinition⟩ := ht
    refine tracked_after fun stage hstage => ?_
    simp only [ServiceCall.createProposal, bind_eq_ok, pure_eq_ok] at hstage
    obtain ⟨s', hcheck, rfl⟩ := hstage
    have hplan := hv
    obtain ⟨customer, n, hplan, -⟩ := hplan
    obtain rfl := checkValues_of_pinned hplan.pinned hdefinition hcheck
    split
    · next existing hfind => exact ⟨hv, lookedUp_of_found fingerprints hfind⟩
    · exact hv
  | locking s v todo active =>
    cases todo with
    | nil => exact ht
    | cons id todo =>
      simp only [ServiceCall.observe, ServiceCall.lockActive]
      split <;> exact ht
  | failed e =>
    simp only [ServiceCall.observe, ServiceCall.beginRejection]
    split
    · trivial
    · split
      · split <;> trivial
      · trivial
  | repeated | viewing | found | joining | searching => exact ht
  | held | failedFor | rejecting => trivial

/-- Creating comes to a row that was prepared with the values, new or found by its key. -/
theorem createUnderLock_stored (hsha : Function.Injective h.sha256)
    (hjson : Function.Injective h.payloadJson) {v : CreateValues (BoundPayload π)}
    (hv : Values h c pin inputs db s v) {looked : Option (ActionProposal (BoundPayload π) ρ)}
    (hlooked : ∀ existing, looked = some existing → LookedUp h db v existing)
    {active : List (ActionProposal (BoundPayload π) ρ)} {p : ActionProposal (BoundPayload π) ρ}
    (hlater : Later db db') (fingerprints : ∀ p ∈ db'.proposals.rows, Fingerprinted h p)
    (he : (c.engine h).createUnderLock db s v looked active = .ok (db', p)) :
    Stored h c pin inputs db' p.id := by
  obtain ⟨customer, n, hplan, hprepared⟩ := hv.later hlater
  unfold Engine.createUnderLock at he
  cases looked with
  | some existing =>
    simp only [bind_eq_ok, pure_eq_ok] at he
    obtain ⟨replayed, hreplay, hpair⟩ := he
    cases hpair
    have hfound := hlooked existing rfl
    obtain ⟨rfl, hexisting⟩ := preparedAs_of_replay hsha hjson (hprepared _) hfound hreplay
    obtain ⟨q, hq, horigin⟩ := hfound.kept
    exact ⟨customer, s, s, n, q, hplan, hq, hexisting.later horigin⟩
  | none =>
    simp only [bind_eq_ok] at he
    obtain ⟨⟨mid, blocking⟩, -, he⟩ := he
    cases blocking with
    | some b => cases he
    | none =>
      simp only [bind_eq_ok] at he
      obtain ⟨-, -, he⟩ := he
      split at he
      · next hinsert =>
        cases he
        obtain ⟨t, ht, hproposals, -⟩ := insertProposal_eq_ok hinsert
        have hget := Table.get?_insert_self ht
        rw [← hproposals] at hget
        exact ⟨customer, s, s, n, _, hplan, hget, hprepared _⟩
      · split at he
        · next existing hfind =>
          simp only [bind_eq_ok, pure_eq_ok] at he
          obtain ⟨replayed, hreplay, hpair⟩ := he
          cases hpair
          have hfound := lookedUp_of_found fingerprints hfind
          obtain ⟨rfl, hexisting⟩ := preparedAs_of_replay hsha hjson (hprepared _) hfound hreplay
          obtain ⟨q, hq, horigin⟩ := hfound.kept
          exact ⟨customer, s, s, n, q, hplan, hq, hexisting.later horigin⟩
        · split at he <;> cases he
      · cases he

theorem settleCreated_tracked
    {x : Except ServiceError (ProposalDb β (BoundPayload π) ρ × ActionProposal (BoundPayload π) ρ)}
    {stage : ServiceStage β π ρ ι} (hx : ∀ p, x = .ok (db', p) → Stored h c pin inputs db' p.id)
    (he : ServiceCall.settleCreated db x = .resume db' stage) :
    Tracked h c pin inputs db' stage := by
  cases x with
  | ok r =>
    cases he
    exact hx r.2 rfl
  | error e =>
    cases he
    trivial

variable [DecidableEq ρ]

theorem tracked_resume (hsha : Function.Injective h.sha256)
    (hjson : Function.Injective h.payloadJson) {key : String}
    (hop : c.operation = .preparePlaybook pin.1 pin.2.1 pin.2.2 inputs key)
    {stage stage' : ServiceStage β π ρ ι} (ht : Tracked h c pin inputs db stage)
    (hlater : Later db db') (fingerprints : ∀ p ∈ db'.proposals.rows, Fingerprinted h p)
    (he : c.body h db stage = .resume db' stage') : Tracked h c pin inputs db' stage' := by
  cases stage with
  | held customer p =>
    simp only [ServiceCall.body, hop] at he
    cases he
    trivial
  | repeated p =>
    cases he
    exact ht
  | found s v existing =>
    refine settleCreated_tracked (fun p hp => ?_) he
    refine createUnderLock_stored hsha hjson ht.1 ?_ hlater fingerprints hp
    rintro _ ⟨⟩
    exact ht.2
  | locking s v todo active =>
    refine settleCreated_tracked (fun p hp => ?_) he
    refine createUnderLock_stored hsha hjson ht ?_ hlater fingerprints hp
    rintro _ ⟨⟩
  | rejecting e customer overdue =>
    simp only [ServiceCall.body] at he
    split at he <;> cases he
  | viewing | failed => cases he
  | _ =>
    cases he
    trivial

theorem tracked_answer {key : String}
    (hop : c.operation = .preparePlaybook pin.1 pin.2.1 pin.2.2 inputs key)
    {stage : ServiceStage β π ρ ι} (ht : Tracked h c pin inputs db stage)
    {q : ActionProposal (BoundPayload π) ρ}
    (he : c.body h db stage = .finish db' (.ok (.view q))) : Stored h c pin inputs db' q.id := by
  cases stage with
  | held customer p =>
    simp only [ServiceCall.body, hop] at he
    cases he
  | viewing id =>
    simp only [ServiceCall.body, Outcome.finish.injEq, map_eq_ok] at he
    obtain ⟨rfl, p, hp, hview⟩ := he
    cases hview
    have hid : q.id = id := (Table.get?_eq_some.mp (getLocked_eq_ok.mp hp)).2
    rw [hid]
    exact ht
  | found s v existing =>
    simp only [ServiceCall.body, ServiceCall.settleCreated] at he
    split at he <;> cases he
  | locking s v todo active =>
    simp only [ServiceCall.body, ServiceCall.settleCreated] at he
    split at he <;> cases he
  | rejecting e customer overdue =>
    simp only [ServiceCall.body] at he
    split at he <;> cases he
  | _ => cases he

end

section
variable {h : ProposalDigests (BoundPayload π) ρ} {G : ServicePermits β π ρ}

theorem fingerprinted_rows {D : Decisions (BoundPayload π) ρ} :
    RowInvariant h D (Fingerprinted h) where
  step h hp := by cases h <;> exact hp
  overtaken hp _ := hp
  executed hp _ _ := hp
  created _ hp := hp

theorem writes_fingerprinted {rows : Uuid → Prop} {db db' : ProposalDb β (BoundPayload π) ρ}
    (hw : Writes h G rows db db') (hdb : ∀ p ∈ db.proposals.rows, Fingerprinted h p) :
    ∀ p ∈ db'.proposals.rows, Fingerprinted h p := by
  rcases hw with hpath | ⟨retained, checkpoint, rfl⟩
  · exact fingerprinted_rows.path hpath hdb
  · rw [proposals_of_prune]
    exact hdb

def TrackedSession (h : ProposalDigests (BoundPayload π) ρ) (db : ProposalDb β (BoundPayload π) ρ)
    (s : ServiceSession β π ρ ι) : Prop :=
  ∀ c pin inputs key, s.request = .call c →
    c.operation = .preparePlaybook pin.1 pin.2.1 pin.2.2 inputs key →
    Tracked h c pin inputs db s.seen

def StoredAnswer (h : ProposalDigests (BoundPayload π) ρ) (db : ProposalDb β (BoundPayload π) ρ)
    (answer : ServiceRequest β π ρ ι × Except ServiceError (ServiceAnswer π ρ)) : Prop :=
  ∀ c pin inputs key q, answer = (.call c, .ok (.view q)) →
    c.operation = .preparePlaybook pin.1 pin.2.1 pin.2.2 inputs key →
    Stored h c pin inputs db q.id

theorem TrackedSession.later {db db' : ProposalDb β (BoundPayload π) ρ}
    {s : ServiceSession β π ρ ι} (hs : TrackedSession h db s) (hlater : Later db db') :
    TrackedSession h db' s :=
  fun c pin inputs key hr hop => (hs c pin inputs key hr hop).later hlater

theorem StoredAnswer.later {db db' : ProposalDb β (BoundPayload π) ρ}
    {answer : ServiceRequest β π ρ ι × Except ServiceError (ServiceAnswer π ρ)}
    (ha : StoredAnswer h db answer) (hlater : Later db db') : StoredAnswer h db' answer :=
  fun c pin inputs key q hq hop => (ha c pin inputs key q hq hop).later hlater

variable {κ : Type} [DecidableEq κ] [DecidableEq ρ]

/-- What a run of the service keeps of the preparations in it. -/
structure Recorded (h : ProposalDigests (BoundPayload π) ρ) (w : ActionWorld κ β π ρ ι) :
    Prop where
  fingerprints : ∀ p ∈ w.db.proposals.rows, Fingerprinted h p
  sessions : Knows (TrackedSession h) w
  answers : ∀ answer ∈ w.answers, StoredAnswer h w.db answer

theorem recorded_next (hsha : Function.Injective h.sha256)
    (hjson : Function.Injective h.payloadJson) {w : ActionWorld κ β π ρ ι}
    {e : ActionEvent κ β π ρ ι} (hw : ServiceInformed G w) (hr : Recorded h w)
    (he : Enabled (proposalService h) (ServiceRequest.Uses G) w e) :
    Recorded h (next (proposalService h) w e) := by
  have hwrites := event_writes hw he
  have hlater := writes_later hwrites
  have hfingerprints := writes_fingerprinted hwrites hr.fingerprints
  have hsessions : ∀ j s, w.session j = some s →
      TrackedSession h (next (proposalService h) w e).db s :=
    fun j s hj => (hr.sessions j s hj).later hlater
  have hanswers : ∀ answer ∈ w.answers,
      StoredAnswer h (next (proposalService h) w e).db answer :=
    fun answer ha => (hr.answers answer ha).later hlater
  obtain ⟨i, r, -, -, -, hnext⟩ | ⟨i, s, -, -, hnext⟩ | ⟨i, ⟨r, stage⟩, -, hs, ha, hnext⟩ |
    ⟨i, ⟨r, stage⟩, k, -, hs, ha, -, hnext⟩ | ⟨i, ⟨r, stage⟩, db, a, -, ⟨hs, -⟩, hb, hnext⟩ |
    ⟨i, ⟨r, stage⟩, db, t, -, ⟨hs, -⟩, hb, hnext⟩ := step_cases he
  all_goals rw [hnext] at hfingerprints hsessions hanswers ⊢
  · refine ⟨hfingerprints, knows_of_change rfl ?_ fun j s _ => hsessions j s, hanswers⟩
    rintro _ ⟨⟩ c pin inputs key rfl hop
    trivial
  · refine ⟨hfingerprints, knows_of_change rfl ?_ fun j s _ => hsessions j s, hanswers⟩
    rintro _ ⟨⟩
  · refine ⟨hfingerprints, knows_of_change rfl ?_ fun j s _ => hsessions j s, hanswers⟩
    rintro _ ⟨⟩ c pin inputs key rfl hop
    exact tracked_observe hop hr.fingerprints (hr.sessions i _ hs c pin inputs key rfl hop)
  · refine ⟨hfingerprints, knows_of_change rfl ?_ fun j s _ => hsessions j s, hanswers⟩
    rintro _ ⟨⟩ c pin inputs key rfl hop
    exact tracked_observe hop hr.fingerprints (hr.sessions i _ hs c pin inputs key rfl hop)
  · refine ⟨hfingerprints, knows_of_change rfl ?_ fun j s _ => hsessions j s, ?_⟩
    · rintro _ ⟨⟩
    · intro answer hmem
      rcases List.mem_append.mp hmem with hmem | hmem
      · exact hanswers answer hmem
      · obtain rfl := List.mem_singleton.mp hmem
        intro c pin inputs key q heq hop
        cases heq
        exact tracked_answer hop (hr.sessions i _ hs c pin inputs key rfl hop) hb
  · refine ⟨hfingerprints, knows_of_change rfl ?_ fun j s _ => hsessions j s, hanswers⟩
    rintro _ ⟨⟩ c pin inputs key rfl hop
    have hlater' : Later w.db db := by rw [hnext] at hlater; exact hlater
    exact tracked_resume hsha hjson hop (hr.sessions i _ hs c pin inputs key rfl hop) hlater'
      hfingerprints hb

end

section
variable (h : ProposalDigests (BoundPayload π) ρ) (first c : ServiceCall β π ρ ι)

/-- A request with the customer, the support session, the pinned playbook and the key of an
earlier one. Its catalog is the same code over stored revisions that are never edited or deleted;
its inputs and the rest of its context may differ. -/
structure Retries (pin : String × ℕ × String) (inputs : ι)
    (db : ProposalDb β (BoundPayload π) ρ) : Prop where
  operation : c.operation =
    .preparePlaybook pin.1 pin.2.1 pin.2.2 inputs first.operation.idempotencyKey
  customer : c.resolveCustomerId db = first.resolveCustomerId db
  session : c.context.supportSessionId = first.context.supportSessionId
  operations : c.catalog.operationOf = first.catalog.operationOf
  json : c.catalog.inputsJson = first.catalog.inputsJson
  revisions : ∀ definitionId revision digest s,
    first.catalog.registry.resolve definitionId revision digest = .ok s →
      c.catalog.registry.resolve definitionId revision digest = .ok s

/-- The retry of the proposal `p` passes every check. -/
structure Passes (digest : String) (inputs : ι) (db : ProposalDb β (BoundPayload π) ρ)
    (t s : ActionSpecification β (BoundPayload π) ρ) (p : ActionProposal (BoundPayload π) ρ)
    (n : ι) : Prop where
  turn : c.context.requireCustomerTurn = .ok ()
  revision : p.definitionDigest = digest
  publicInputs : (c.catalog.operationOf t).invalidPublicInputs inputs = none
  reviewed : (c.catalog.operationOf t).normalizePublicInputs db.bank c.identity inputs = .ok n
  accepted : (c.catalog.operationOf s).invalidInputs n = none
  context : c.SameContext p
  inputs : p.actionPayload.businessInputFingerprint = inputFingerprint h c s n

end

section
variable {h : ProposalDigests (BoundPayload π) ρ} {first c : ServiceCall β π ρ ι}
  {db : ProposalDb β (BoundPayload π) ρ} {pin : String × ℕ × String} {inputs inputs' n : ι}
  {customer : Uuid} {t s : ActionSpecification β (BoundPayload π) ρ}
  {p : ActionProposal (BoundPayload π) ρ}

theorem Retries.forProposal (hc : Retries first c pin inputs db)
    (hs : first.catalog.registry.forProposal p = .ok s) :
    c.catalog.registry.forProposal p = .ok s := by
  simp only [ActionRegistry.forProposal, bind_eq_ok, require_eq_ok, pure_eq_ok] at hs
  obtain ⟨s', hresolve, -, ⟨htype, hcontract⟩, rfl⟩ := hs
  exact forProposal_of_resolve (hc.revisions _ _ _ _ hresolve) htype.symm hcontract.symm

theorem digest_of_forProposal {registry : ActionRegistry β (BoundPayload π) ρ}
    (hs : registry.forProposal p = .ok s) : s.definitionDigest = p.definitionDigest := by
  simp only [ActionRegistry.forProposal, bind_eq_ok, pure_eq_ok] at hs
  obtain ⟨s', hresolve, -, -, rfl⟩ := hs
  exact (resolve_eq_ok hresolve).2.2

theorem found_of_prepared (hp : PreparedAs h first customer t s n p)
    (hc : Retries first c pin inputs db) {id : Uuid} (stored : db.proposals.get? id = some p) :
    findIdempotentProposal db (c.scopeOf customer) t.actionType c.operation.idempotencyKey =
      some p := by
  have hkey : c.operation.idempotencyKey = first.operation.idempotencyKey := by
    rw [hc.operation]
    rfl
  refine Table.first?_eq_some_of_unique ?_ (Table.get?_eq_some.mp stored).1 ?_
  · rintro a b ⟨ha₁, ha₂, ha₃, ha₄⟩ ⟨hb₁, hb₂, hb₃, hb₄⟩
    exact Or.inr (Or.inr ⟨⟨ha₁.trans hb₁.symm, ha₂.trans hb₂.symm⟩,
      Or.inl ⟨ha₃.trans hb₃.symm, ha₄.trans hb₄.symm⟩⟩)
  · rw [hp.scope, hkey]
    exact ⟨rfl, hc.session.symm, hp.actionType, hp.idempotencyKey⟩

theorem openPlaybook_retry (hplan : Planned first pin inputs db customer t s n)
    (stored : db.proposals.get? p.id = some p) (hp : PreparedAs h first customer t s n p)
    (hc : Retries first c pin inputs' db) :
    (p.definitionDigest = pin.2.2 ∧ c.openPlaybook db customer pin.1 pin.2.1 pin.2.2 =
      .ok (.published customer t)) ∨
    (p.definitionDigest ≠ pin.2.2 ∧
      ∃ e, c.openPlaybook db customer pin.1 pin.2.1 pin.2.2 = .error e) := by
  have hresolve := hc.revisions _ _ _ _ hplan.pinned.specification
  have hspecification := hc.forProposal hp.specification
  have heq : c.openPlaybook db customer pin.1 pin.2.1 pin.2.2 = (do
      require (p.definitionDigest = pin.2.2) (rejected "Retry the original proposal revision.")
      return .published customer t) := by
    simp only [ServiceCall.openPlaybook, hresolve, Except.mapError, bind, Except.bind,
      found_of_prepared hp hc stored, hspecification, digest_of_forProposal hp.specification]
  rw [heq]
  by_cases hdigest : p.definitionDigest = pin.2.2
  · exact Or.inl ⟨hdigest, by simp only [require, if_pos hdigest]; rfl⟩
  · exact Or.inr ⟨hdigest, _, by simp only [require, if_neg hdigest]; rfl⟩

/-- The public inputs are reviewed before the earlier proposal is looked at again. -/
theorem publicInputs_cases (c : ServiceCall β π ρ ι) (db : ProposalDb β (BoundPayload π) ρ)
    (customer : Uuid) (t : ActionSpecification β (BoundPayload π) ρ) (inputs : ι) :
    (∃ m, (c.catalog.operationOf t).invalidPublicInputs inputs = none ∧
      (c.catalog.operationOf t).normalizePublicInputs db.bank c.identity inputs = .ok m ∧
      c.publicInputs db customer t inputs = .ok (.proposing customer (some t) t.actionType m)) ∨
    ((¬ ∃ m, (c.catalog.operationOf t).invalidPublicInputs inputs = none ∧
      (c.catalog.operationOf t).normalizePublicInputs db.bank c.identity inputs = .ok m) ∧
      ∃ e, c.publicInputs db customer t inputs = .error e) := by
  have heq : c.publicInputs db customer t inputs = (do
      rejectIf ((c.catalog.operationOf t).invalidPublicInputs inputs)
      let n ← (c.catalog.operationOf t).normalizePublicInputs db.bank c.identity inputs
      return .proposing customer (some t) t.actionType n) := rfl
  rw [heq]
  cases hvalid : (c.catalog.operationOf t).invalidPublicInputs inputs with
  | some message =>
    refine Or.inr ⟨?_, rejected message, rfl⟩
    rintro ⟨_, hm, -⟩
    cases hm
  | none =>
    cases hreview : (c.catalog.operationOf t).normalizePublicInputs db.bank c.identity inputs with
    | ok m => exact Or.inl ⟨m, rfl, rfl, rfl⟩
    | error e =>
      refine Or.inr ⟨?_, e, rfl⟩
      rintro ⟨_, -, hm⟩
      cases hm

theorem proposeAction_retry (stored : db.proposals.get? p.id = some p)
    (hp : PreparedAs h first customer t s n p) (hc : Retries first c pin inputs' db) (m : ι) :
    (((c.catalog.operationOf s).invalidInputs m = none ∧ c.SameContext p ∧
        p.actionPayload.businessInputFingerprint = inputFingerprint h c s m) ∧
      c.proposeAction h db customer (some t) t.actionType m = .ok (.repeated p)) ∨
    (¬ ((c.catalog.operationOf s).invalidInputs m = none ∧ c.SameContext p ∧
        p.actionPayload.businessInputFingerprint = inputFingerprint h c s m) ∧
      ∃ e, c.proposeAction h db customer (some t) t.actionType m = .error e) := by
  have heq : c.proposeAction h db customer (some t) t.actionType m = (do
      rejectIf ((c.catalog.operationOf s).invalidInputs m)
      require (c.SameContext p ∧
          p.actionPayload.businessInputFingerprint = inputFingerprint h c s m)
        (.proposal (.conflict "Retry inputs or trusted scope changed for a different proposal."))
      return .repeated p) := by
    simp only [ServiceCall.proposeAction, found_of_prepared hp hc stored,
      ServiceCall.specificationFor, hc.forProposal hp.specification, bind, Except.bind]
    rfl
  rw [heq]
  cases hvalid : (c.catalog.operationOf s).invalidInputs m with
  | some message =>
    refine Or.inr ⟨?_, rejected message, rfl⟩
    rintro ⟨hm, -⟩
    cases hm
  | none =>
    by_cases hsame : c.SameContext p ∧
        p.actionPayload.businessInputFingerprint = inputFingerprint h c s m
    · exact Or.inl ⟨⟨rfl, hsame⟩, by simp only [rejectIf, require, if_pos hsame]; rfl⟩
    · exact Or.inr ⟨fun hm => hsame hm.2, _, by simp only [rejectIf, require, if_neg hsame]; rfl⟩

variable [DecidableEq ρ]

/-- The retry returns the earlier proposal if it passes every check, and otherwise fails. -/
theorem serve_retry (hplan : Planned first pin inputs db customer t s n)
    (stored : db.proposals.get? p.id = some p) (hp : PreparedAs h first customer t s n p)
    (hc : Retries first c pin inputs' db) :
    ((∃ m, Passes h c pin.2.2 inputs' db t s p m) ∧ c.serve h db = some (db, .ok (.view p))) ∨
    ((¬ ∃ m, Passes h c pin.2.2 inputs' db t s p m) ∧
      ∃ e, c.serve h db = some (c.refuse db customer e)) := by
  have hcustomer : c.resolveCustomerId db = .ok customer := hc.customer.trans hplan.pinned.customer
  have hop := hc.operation
  have failed : ∀ {k} (e : ServiceError), (proposalService h).alone (.call c) (k + 2) db
      (.failed e) = some (c.refuse db customer e) :=
    fun e => alone_failed hcustomer (Or.inl (by rw [hop]; rfl))
  have hstart : (proposalService h).observe db (.call c) .start =
      .after (c.context.requireCustomerTurn >>= fun _ => .ok (.resolved customer)) := by
    simp only [proposalService, ServiceCall.observe, ServiceCall.begin,
      ServiceCall.checkArguments, hop, hcustomer]
    rfl
  have hresolved : (proposalService h).observe db (.call c) (.resolved customer) =
      .after (c.openPlaybook db customer pin.1 pin.2.1 pin.2.2) := by
    simp only [proposalService, ServiceCall.observe, hop]
  have hpublished : (proposalService h).observe db (.call c) (.published customer t) =
      .after (c.publicInputs db customer t inputs') := by
    simp only [proposalService, ServiceCall.observe, hop]
  have haction : (proposalService h).action (.call c) (.resolved customer) = .read := by
    simp only [proposalService, ServiceCall.action, hop, ServiceOperation.proposalId]
  unfold ServiceCall.serve
  rw [alone_read rfl, hstart]
  cases hturn : c.context.requireCustomerTurn with
  | error e =>
    refine Or.inr ⟨?_, e, failed e⟩
    rintro ⟨m, hm⟩
    rw [hm.turn] at hturn
    cases hturn
  | ok =>
    change (_ ∧ (proposalService h).alone (.call c) 7 db (.resolved customer) = _) ∨
      (_ ∧ ∃ e, (proposalService h).alone (.call c) 7 db (.resolved customer) = _)
    rw [alone_read haction, hresolved]
    rcases openPlaybook_retry hplan stored hp hc with ⟨hrevision, hopen⟩ | ⟨hrevision, e, hopen⟩
    · rw [hopen, ServiceStage.after, alone_read rfl, hpublished]
      rcases publicInputs_cases c db customer t inputs' with
        ⟨m, hvalid, hreview, hpublic⟩ | ⟨hnot, e, hpublic⟩
      · rw [hpublic, ServiceStage.after, alone_read rfl]
        have hmatch : ∀ m', Passes h c pin.2.2 inputs' db t s p m' → m' = m := fun m' hm' =>
          Except.ok.inj (hm'.reviewed.symm.trans hreview)
        have hproposing : (proposalService h).observe db (.call c)
            (.proposing customer (some t) t.actionType m) =
            .after (c.proposeAction h db customer (some t) t.actionType m) := rfl
        rw [hproposing]
        rcases proposeAction_retry stored hp hc m with
          ⟨⟨haccepted, hcontext, hinputs⟩, hpropose⟩ | ⟨hnot, e, hpropose⟩
        · refine Or.inl ⟨⟨m, hturn, hrevision, hvalid, hreview, haccepted, hcontext, hinputs⟩, ?_⟩
          have hview : getLocked db p.id = .ok p := getLocked_eq_ok.mpr stored
          rw [hpropose, ServiceStage.after, alone_resume rfl rfl]
          refine alone_finish rfl ?_
          simp only [proposalService, ServiceCall.body, hview]
          rfl
        · rw [hpropose]
          refine Or.inr ⟨?_, e, failed e⟩
          rintro ⟨m', hm'⟩
          refine hnot ?_
          rw [← hmatch m' hm']
          exact ⟨hm'.accepted, hm'.context, hm'.inputs⟩
      · rw [hpublic]
        refine Or.inr ⟨?_, e, failed e⟩
        rintro ⟨m, hm⟩
        exact hnot ⟨m, hm.publicInputs, hm.reviewed⟩
    · rw [hopen]
      refine Or.inr ⟨?_, e, failed e⟩
      rintro ⟨m, hm⟩
      exact hrevision hm.revision

end

/-- The review of public inputs may refuse them, but does not change what they normalize to. -/
def ReviewsOnly (operation : ProposalOperation β π ι) : Prop :=
  ∀ bank bank' identity inputs n n',
    operation.normalizePublicInputs bank identity inputs = .ok n →
      operation.normalizePublicInputs bank' identity inputs = .ok n' → n = n'

/-- The rest of the trusted scope is that of the earlier request. -/
structure TrustedAlike (first c : ServiceCall β π ρ ι) : Prop where
  runtimeName : c.context.runtimeName = first.context.runtimeName
  runtimeSession : c.context.runtimeSessionId = first.context.runtimeSessionId
  customerTurn : c.context.customerTurnId = first.context.customerTurnId
  resetGeneration : c.context.resetGeneration = first.context.resetGeneration
  catalogSnapshot : c.context.catalogSnapshotId = first.context.catalogSnapshotId

/-- The inputs are accepted as they are reviewed now, and come to the same business inputs. -/
def AcceptedAlike (c : ServiceCall β π ρ ι) (t s : ActionSpecification β (BoundPayload π) ρ)
    (n : ι) (bank : β) (inputs : ι) : Prop :=
  (c.catalog.operationOf t).invalidPublicInputs inputs = none ∧
    ∃ m, (c.catalog.operationOf t).normalizePublicInputs bank c.identity inputs = .ok m ∧
      (c.catalog.operationOf s).invalidInputs m = none ∧
      (c.catalog.operationOf s).normalizeBusinessInputs m =
        (c.catalog.operationOf s).normalizeBusinessInputs n

section
variable {h : ProposalDigests (BoundPayload π) ρ} {first c : ServiceCall β π ρ ι}
  {db : ProposalDb β (BoundPayload π) ρ} {pin : String × ℕ × String} {inputs inputs' n : ι}
  {customer : Uuid} {t s : ActionSpecification β (BoundPayload π) ρ}
  {p : ActionProposal (BoundPayload π) ρ}

theorem sameContext_iff (hp : PreparedAs h first customer t s n p)
    (hc : Retries first c pin inputs' db) : c.SameContext p ↔ TrustedAlike first c := by
  unfold ServiceCall.SameContext
  rw [hp.scope, hp.turn, hp.resetGeneration, hp.catalogSnapshot]
  constructor
  · rintro ⟨-, hname, hruntime, hturn, hreset, hsnapshot⟩
    exact ⟨hname.symm, hruntime.symm, hturn.symm, hreset.symm, hsnapshot.symm⟩
  · rintro ⟨hname, hruntime, hturn, hreset, hsnapshot⟩
    exact ⟨hc.session.symm, hname.symm, hruntime.symm, hturn.symm, hreset.symm, hsnapshot.symm⟩

theorem passes_iff (hsha : Function.Injective h.sha256)
    (json : Function.Injective first.catalog.inputsJson)
    (hplan : Planned first pin inputs db customer t s n)
    (hp : PreparedAs h first customer t s n p) (hc : Retries first c pin inputs' db) :
    (∃ m, Passes h c pin.2.2 inputs' db t s p m) ↔
      p.definitionDigest = pin.2.2 ∧ TrustedAlike first c ∧
        AcceptedAlike c t s n db.bank inputs' := by
  have hsame : ∀ m, p.actionPayload.businessInputFingerprint = inputFingerprint h c s m ↔
      (c.catalog.operationOf s).normalizeBusinessInputs m =
        (c.catalog.operationOf s).normalizeBusinessInputs n := by
    intro m
    rw [hp.inputs]
    unfold inputFingerprint
    rw [hc.json, hc.operations]
    constructor
    · exact fun heq => (json (hsha heq)).symm
    · exact fun heq => by rw [heq]
  constructor
  · rintro ⟨m, hm⟩
    exact ⟨hm.revision, (sameContext_iff hp hc).mp hm.context, hm.publicInputs, m, hm.reviewed,
      hm.accepted, (hsame m).mp hm.inputs⟩
  · rintro ⟨hrevision, htrusted, hvalid, m, hreview, haccepted, heq⟩
    have hturn : c.context.requireCustomerTurn = .ok () := by
      have hfirst := hplan.pinned.turn
      unfold ProposalRuntimeContext.requireCustomerTurn at hfirst ⊢
      rw [htrusted.customerTurn]
      exact hfirst
    exact ⟨m, hturn, hrevision, hvalid, hreview, haccepted, (sameContext_iff hp hc).mpr htrusted,
      (hsame m).mpr heq⟩

theorem trustedAlike_of_exact (hcontext : c.context = first.context) : TrustedAlike first c := by
  constructor <;> rw [hcontext]

theorem acceptedAlike_of_exact (hplan : Planned first pin inputs db customer t s n)
    (reviews : ReviewsOnly (first.catalog.operationOf t)) (hc : Retries first c pin inputs db)
    (hidentity : c.identity = first.identity) :
    AcceptedAlike c t s n db.bank inputs ↔ ∃ m, (first.catalog.operationOf t).normalizePublicInputs
      db.bank first.identity inputs = .ok m := by
  unfold AcceptedAlike
  rw [hc.operations, hidentity]
  constructor
  · rintro ⟨-, m, hm, -⟩
    exact ⟨m, hm⟩
  · rintro ⟨m, hm⟩
    obtain ⟨bank, hn⟩ := hplan.reviewed.reviewed
    obtain rfl := reviews _ _ _ _ _ _ hn hm
    exact ⟨hplan.reviewed.publicInputs, n, hm, hplan.accepted, rfl⟩

theorem refuse_fails (c : ServiceCall β π ρ ι) (db : ProposalDb β (BoundPayload π) ρ)
    (customer : Uuid) (e : ServiceError) : ∃ e', (c.refuse db customer e).2 = .error e' := by
  unfold ServiceCall.refuse
  split
  · exact ⟨e, rfl⟩
  · split
    · exact ⟨e, rfl⟩
    · next other _ => exact ⟨other, rfl⟩

variable {κ : Type} [DecidableEq κ] [DecidableEq ρ]

/-- A preparation that was answered once, at any point of any run of the service, leaves a
proposal that every retry of its key comes back to, whatever has happened to it and to the bank in
between. An exact retry returns it exactly if it has the pinned revision and the review of the
inputs still accepts them; any retry is refused exactly if the revision is another one, the
trusted scope differs, or the inputs are not accepted to the same business inputs. None of them
creates or changes anything. -/
theorem retry_answered_iff (hsha : Function.Injective h.sha256)
    (hjson : Function.Injective h.payloadJson) {G : ServicePermits β π ρ}
    {start later : ProposalDb β (BoundPayload π) ρ} {es : List (ActionEvent κ β π ρ ι)}
    {key : String} {q : ActionProposal (BoundPayload π) ρ} (settled : AllSettled start)
    (fingerprints : ∀ p ∈ start.proposals.rows, Fingerprinted h p)
    (run : (machine (proposalService h) (ServiceRequest.Uses G)).Run (World.quiet start) es)
    (hop : first.operation = .preparePlaybook pin.1 pin.2.1 pin.2.2 inputs key)
    (json : Function.Injective first.catalog.inputsJson)
    (reviews : ∀ s, ReviewsOnly (first.catalog.operationOf s)) :
    let w := (machine (proposalService h) (ServiceRequest.Uses G)).final (World.quiet start) es
    (.call first, .ok (.view q)) ∈ w.answers → Later w.db later →
    ∃ p t s n, later.proposals.get? q.id = some p ∧
      (∀ c, Retries first c pin inputs later → c.context = first.context →
        c.identity = first.identity →
        (c.serve h later = some (later, .ok (.view p)) ↔ p.definitionDigest = pin.2.2 ∧
          ∃ m, (first.catalog.operationOf t).normalizePublicInputs later.bank first.identity
            inputs = .ok m)) ∧
      ∀ c inputs', Retries first c pin inputs' later →
        ((∃ v e, c.serve h later = some (v, .error e)) ↔ ¬ (p.definitionDigest = pin.2.2 ∧
          TrustedAlike first c ∧ AcceptedAlike c t s n later.bank inputs')) ∧
        ∀ v a, c.serve h later = some (v, a) →
          v.proposals = later.proposals ∧ v.bank = later.bank := by
  intro w answered hlater
  have hrecorded : ServiceInformed G w ∧ Recorded h w := by
    have hstart : Recorded h (World.quiet start : ActionWorld κ β π ρ ι) :=
      ⟨fingerprints, knows_quiet _ _, fun _ ha => absurd ha List.not_mem_nil⟩
    refine (throughout_of_each (P := fun w => ServiceInformed G w ∧ Recorded h w) ?_
      ⟨informed_quiet settled, hstart⟩ run).last
    rintro v e ⟨hv, hr⟩ he
    exact ⟨event_informed hv he, recorded_next hsha hjson hv hr he⟩
  obtain ⟨customer, t, s, n, p, hplan, stored, hp⟩ :=
    (hrecorded.2.answers _ answered first pin inputs key q rfl hop).later hlater
  have hid : p.id = q.id := (Table.get?_eq_some.mp stored).2
  have stored' : later.proposals.get? p.id = some p := hid ▸ stored
  refine ⟨p, t, s, n, stored, ?_, ?_⟩
  · intro c hc hcontext hidentity
    have hpasses := passes_iff hsha json hplan hp hc
    have haccepted : (∃ m, Passes h c pin.2.2 inputs later t s p m) ↔
        p.definitionDigest = pin.2.2 ∧ ∃ m, (first.catalog.operationOf t).normalizePublicInputs
          later.bank first.identity inputs = .ok m := by
      rw [hpasses, acceptedAlike_of_exact hplan (reviews t) hc hidentity,
        and_iff_right (trustedAlike_of_exact hcontext)]
    rcases serve_retry hplan stored' hp hc with ⟨hpass, hserve⟩ | ⟨hnot, e, hserve⟩
    · exact iff_of_true hserve (haccepted.mp hpass)
    · refine iff_of_false ?_ (fun hm => hnot (haccepted.mpr hm))
      obtain ⟨e', he'⟩ := refuse_fails c later customer e
      rw [hserve]
      intro heq
      rw [Option.some.inj heq] at he'
      cases he'
  · intro c inputs' hc
    rw [← passes_iff hsha json hplan hp hc]
    rcases serve_retry hplan stored' hp hc with ⟨hpass, hserve⟩ | ⟨hnot, e, hserve⟩
    · rw [hserve]
      refine ⟨iff_of_false ?_ (not_not_intro hpass), ?_⟩
      · rintro ⟨v, e, heq⟩
        cases heq
      · rintro v a heq
        cases heq
        exact ⟨rfl, rfl⟩
    · obtain ⟨e', he'⟩ := refuse_fails c later customer e
      rw [hserve]
      refine ⟨iff_of_true ⟨(c.refuse later customer e).1, e', ?_⟩ hnot, ?_⟩
      · rw [← he']
      · intro v a heq
        have hv : (c.refuse later customer e).1 = v := congrArg Prod.fst (Option.some.inj heq)
        rw [← hv]
        exact refuse_keeps

end

/-- The review of a fraud selection accepts inputs as they are. -/
theorem fraud_reviewsOnly (summary : FraudPayload → String) :
    ReviewsOnly (fraudOperation summary) := by
  intro db db' identity i n n' hn hn'
  exact (publicFraudInputs_eq hn).trans (publicFraudInputs_eq hn').symm

section
variable {σ ε : Type}

def viewed : Option (σ × Except ε (ServiceAnswer π ρ)) → Option (ActionProposal (BoundPayload π) ρ)
  | some (_, .ok (.view q)) => some q
  | _ => none

def refused : Option (σ × Except ε (ServiceAnswer π ρ)) → Bool
  | some (_, .error _) => true
  | _ => false

theorem eq_of_viewed {x : Option (σ × Except ε (ServiceAnswer π ρ))}
    (hx : (viewed x).isSome = true) : ∃ v q, x = some (v, .ok (.view q)) := by
  unfold viewed at hx
  split at hx
  · exact ⟨_, _, rfl⟩
  · cases hx

theorem eq_of_refused {x : Option (σ × Except ε (ServiceAnswer π ρ))} (hx : refused x = true) :
    ∃ v e, x = some (v, .error e) := by
  unfold refused at hx
  split at hx
  · exact ⟨_, _, rfl⟩
  · cases hx

end

def plainOperation : ProposalOperation ℕ Unit String where
  invalidPublicInputs _ := none
  normalizePublicInputs _ _ inputs := .ok inputs
  invalidInputs _ := none
  normalizeBusinessInputs inputs := inputs
  prepare _ _ _ := .ok (none, (), "Replace the card ending in 4242.")

def plainDigests : ProposalDigests (BoundPayload Unit) Bool :=
  ⟨fun s => "sha256:" ++ s, fun s => "uuid5:" ++ s, fun p => p.businessInputFingerprint,
    fun s => .ok ("snapshot:" ++ s.stage.value)⟩

def plainPreparation : ServiceCall ℕ Unit Bool String :=
  ⟨"customer-7", askedOn "turn-1", reissuePlaybook,
    ⟨reissueRegistry, fun _ => plainOperation, id, fun _ => none, fun _ _ => some (1, "digest-1")⟩,
    .at_ 1, .ofNat 1, .ofNat 1001⟩

def plainStore : ProposalDb ℕ (BoundPayload Unit) Bool :=
  { bank := 0, users := .single ⟨.ofNat 7, "customer-7", none⟩,
    proposals := .empty, outbox := .empty }

def plainPrepared : Option (ProposalDb ℕ (BoundPayload Unit) Bool ×
    Except ServiceError (ServiceAnswer Unit Bool)) :=
  (proposalService plainDigests).alone (.call plainPreparation) 20 plainStore .start

theorem plain_retry_answered :
    ∃ v q, plainPrepared = some (v, .ok (.view q)) ∧
      ∃ p, plainPreparation.serve plainDigests v = some (v, .ok (.view p)) := by
  obtain ⟨v, q, hserved⟩ := eq_of_viewed (x := plainPrepared) (by decide +kernel)
  obtain ⟨m, hrun, hlast, hanswers⟩ := run_of_alone_start
    (A := ServiceRequest.Uses ⟨fun _ => True, fun _ => True⟩) ⟨trivial, trivial⟩ hserved
  have hsha : Function.Injective plainDigests.sha256 := fun a b hab => by
    simpa [plainDigests] using hab
  have hjson : Function.Injective plainDigests.payloadJson := by
    rintro ⟨⟨⟩, a⟩ ⟨⟨⟩, b⟩ hab
    exact congrArg (BoundPayload.mk ()) hab
  have hreviews : ∀ s, ReviewsOnly (plainPreparation.catalog.operationOf s) := by
    intro s bank bank' identity inputs n n' hn hn'
    exact Except.ok.inj (hn.symm.trans hn')
  have hrows : ∀ p ∈ v.proposals.rows, p.definitionDigest = "digest-1" := by
    have hall : ∀ p ∈ ((plainPrepared.map Prod.fst).getD plainStore).proposals.rows,
        p.definitionDigest = "digest-1" := by decide +kernel
    rwa [hserved] at hall
  obtain ⟨p, t, s, n, stored, hexact, -⟩ := @retry_answered_iff _ _ _ _ _ _
    ("card-reissue", 1, "digest-1") _ _ _ _ hsha hjson _ _ v _ _ _
    (fun _ hp => absurd hp List.not_mem_nil)
    (fun _ hp => absurd hp List.not_mem_nil) hrun rfl Function.injective_id hreviews
    (by rw [hanswers]; exact List.mem_cons_self) (by rw [hlast]; exact .refl v)
  have hretry : Retries plainPreparation plainPreparation ("card-reissue", 1, "digest-1")
      "lost card" v := ⟨rfl, rfl, rfl, rfl, rfl, fun _ _ _ _ hs => hs⟩
  exact ⟨v, q, hserved, p, (hexact plainPreparation hretry rfl rfl).mpr
    ⟨hrows p (Table.get?_eq_some.mp stored).1, _, rfl⟩⟩

def fraudPrepared : Option (ProposalDb Db (BoundPayload FraudPayload) (Option CaseResult) ×
    Except ServiceError (ServiceAnswer FraudPayload (Option CaseResult))) :=
  (proposalService fraudDigests).alone (.call fraudPreparation) 20 fraudStore .start

def fraudTriaged : ProposalDb Db (BoundPayload FraudPayload) (Option CaseResult) :=
  let prepared := (fraudPrepared.map Prod.fst).getD fraudStore
  ((fraudCommit.serve fraudDigests prepared).map Prod.fst).getD prepared

/-- Its own commit closes the alert, and then the same request again is refused. -/
theorem triage_retry_refused :
    (∃ v q, fraudPrepared = some (v, .ok (.view q))) ∧
      (∃ p, fraudTriaged.proposals.get? (.ofNat 40) = some p ∧ p.status = .committed) ∧
      ¬ ∃ v p, fraudPreparation.serve fraudDigests fraudTriaged = some (v, .ok (.view p)) := by
  refine ⟨eq_of_viewed (by decide +kernel), ?_, ?_⟩
  · have hp : ((fraudTriaged.proposals.get? (.ofNat 40)).map fun p => p.status) =
        some .committed := by decide +kernel
    simpa [Option.map_eq_some_iff] using hp
  · rintro ⟨v, p, hview⟩
    obtain ⟨v', e, hrefused⟩ := eq_of_refused
      (x := fraudPreparation.serve fraudDigests fraudTriaged) (by decide +kernel)
    rw [hrefused] at hview
    cases hview

end BankingService.RetriedPreparations
