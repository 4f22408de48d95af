import BankingService.ProposalSteps
import BankingService.Library.Runs

/-! The engine's calls as a machine: each call is a transaction of its own, rolled back if it
raises except for the dispositions that the engine itself commits. -/
namespace BankingService

open Python Relational Checked Relation Runs

variable {β π ρ : Type}

inductive EngineCall (π : Type) where
  | create (v : CreateValues π)
  | markPresented (id : Uuid) (assistantTurnId : Option String) (now : Timestamp)
  | confirm (id : Uuid) (customerTurnId : Option String) (evidence : Evidence) (now : Timestamp)
  | attestDecision (id : Uuid) (context : ProposalRuntimeContext)
  | decline (id : Uuid) (customerTurnId : Option String) (now : Timestamp)
  | invalidate (id : Uuid) (reason : String) (now : Timestamp)
  | executeRegisteredCommit (id : Uuid) (r : CommitScope)

/-- A call on the row of a proposal, which it locks first. -/
def Engine.onLocked (e : Engine β π ρ) (db : ProposalDb β π ρ) (id : Uuid)
    (act : ActionProposal π ρ → Except ProposalError (Moved π ρ)) :
    Except ServiceError (ProposalDb β π ρ) := do
  let p ← getLocked db id
  let m ← raised .proposal (act p)
  e.advanceAll db m.recorded

/-- The database after a transaction that ended with `x`. -/
def settled {σ : Type} (db : σ) (x : Except ServiceError σ) : σ :=
  match x with
  | .ok db' => db'
  | .error _ => db

def Engine.perform [DecidableEq ρ] (e : Engine β π ρ) (db : ProposalDb β π ρ) :
    EngineCall π → ProposalDb β π ρ
  | .create v => settled db (Prod.fst <$> e.create db v)
  | .markPresented id turn now => settled db (e.onLocked db id fun p => p.markPresented turn now)
  | .confirm id turn evidence now =>
    settled db (e.onLocked db id fun p => p.confirm turn evidence now)
  | .attestDecision id context => settled db do
    let p ← getLocked db id
    let (db, _) ← e.attestDecision db p context
    return db
  | .decline id turn now => settled db (e.onLocked db id fun p => p.decline turn now)
  | .invalidate id reason now => settled db (e.onLocked db id fun p => p.invalidate reason now)
  | .executeRegisteredCommit id r =>
    match getLocked db id with
    | .error _ => db
    | .ok p => (e.executeRegisteredCommit db p r).db db

structure EngineEvent (β π ρ : Type) where
  registry : ActionRegistry β π ρ
  clock : Clock
  call : EngineCall π

def calling [DecidableEq ρ] (h : ProposalDigests π ρ) :
    Machine (ProposalDb β π ρ) (EngineEvent β π ρ) where
  Enabled _ _ := True
  next db e := Engine.perform ⟨h, e.registry, e.clock⟩ db e.call

def TypedActionHandler.logged (handler : TypedActionHandler β π ρ) :
    TypedActionHandler (β × List (Uuid × ρ)) π ρ where
  commitPendingMessage := handler.commitPendingMessage
  reconcile bank p := handler.reconcile bank.1 p
  validateCurrentPreconditions bank p := handler.validateCurrentPreconditions bank.1 p
  recordCommitStarted bank p := (fun b => (b, bank.2)) <$> handler.recordCommitStarted bank.1 p
  execute bank p := (fun r => ((r.1, bank.2 ++ [(p.id, r.2)]), r.2)) <$> handler.execute bank.1 p
  recordCommitted bank p result :=
    (fun b => (b, bank.2)) <$> handler.recordCommitted bank.1 p result
  recordReconciled bank p result :=
    (fun b => (b, bank.2)) <$> handler.recordReconciled bank.1 p result

def ActionSpecification.logged (s : ActionSpecification β π ρ) :
    ActionSpecification (β × List (Uuid × ρ)) π ρ where
  definitionId := s.definitionId
  definitionRevision := s.definitionRevision
  definitionDigest := s.definitionDigest
  actionType := s.actionType
  contractVersion := s.contractVersion
  authorizationPolicy := s.authorizationPolicy
  presentationRequirement := s.presentationRequirement
  invalidPayload := s.invalidPayload
  invalidResult := s.invalidResult
  handler := s.handler.logged

def ActionRegistry.logged (g : ActionRegistry β π ρ) : ActionRegistry (β × List (Uuid × ρ)) π ρ :=
  ⟨g.versions.map ActionSpecification.logged, g.current.map ActionSpecification.logged⟩

def ActionRegistry.Logs (g : ActionRegistry (β × List (Uuid × ρ)) π ρ) : Prop :=
  ∀ s ∈ g.versions, ∃ handler : TypedActionHandler β π ρ, s.handler = handler.logged

theorem logs_logged (g : ActionRegistry β π ρ) : g.logged.Logs := by
  intro s hs
  obtain ⟨t, -, rfl⟩ := List.mem_map.mp hs
  exact ⟨t.handler, rfl⟩

/-- The calls of an engine whose handlers are logged. -/
def EngineEvent.logged (e : EngineEvent β π ρ) : EngineEvent (β × List (Uuid × ρ)) π ρ :=
  ⟨e.registry.logged, e.clock, e.call⟩

theorem logged_run {handler : TypedActionHandler β π ρ} {p q : ActionProposal π ρ}
    {bank executed bank' : β × List (Uuid × ρ)} {result : ρ}
    (h : HandlerRun handler.logged p q bank executed bank' result) :
    bank'.2 = bank.2 ++ [(p.id, result)] := by
  obtain ⟨⟨started, hstart, hexec⟩, hrec, -⟩ := h
  simp only [TypedActionHandler.logged, map_eq_ok] at hstart hexec hrec
  obtain ⟨_, -, rfl⟩ := hstart
  obtain ⟨_, -, hpair⟩ := hexec
  obtain ⟨_, -, rfl⟩ := hrec
  cases hpair
  rfl

theorem forProposal_mem {g : ActionRegistry β π ρ} {p : ActionProposal π ρ}
    {s : ActionSpecification β π ρ} (h : g.forProposal p = .ok s) : s ∈ g.versions := by
  simp only [ActionRegistry.forProposal, ActionRegistry.resolve, bind_eq_ok, orRaise_eq_ok,
    pure_eq_ok] at h
  obtain ⟨t, ht, -, -, rfl⟩ := h
  exact List.mem_of_find?_eq_some (Option.filter_eq_some_iff.mp ht).1

section
variable {h : ProposalDigests π ρ} {A : Permits β π ρ} {registry : ActionRegistry β π ρ}
  {clock : Clock} {db db' : ProposalDb β π ρ}

/-- The decisions that a call confirms a row with all satisfy `D`. -/
def Confirms (D : Decisions π ρ) (e : Engine β π ρ) (db : ProposalDb β π ρ) :
    EngineCall π → Prop
  | .confirm id turn evidence now => ∀ p, db.proposals.get? id = some p → p.status = .presented →
      ¬ p.Overdue now → turn ≠ some p.originatingCustomerTurnId → D p turn evidence
  | .attestDecision id context => ∀ p evidence, db.proposals.get? id = some p →
      e.validateDecisionEvidence p context = .ok evidence →
      ∀ q, (q = p ∨ (p.status = .proposed ∧
          q = p.presentedOn (some evidence.presentationTurnId) e.clock.presenting)) →
        q.status = .presented → ¬ q.Overdue e.clock.confirming →
        some evidence.decisionTurnId ≠ some q.originatingCustomerTurnId →
        D q (some evidence.decisionTurnId) evidence.protectedEvidence
  | _ => True

def NoneCommitting (db : ProposalDb β π ρ) : Prop :=
  ∀ p ∈ db.proposals.rows, p.status ≠ .committing

theorem getLocked_eq_ok {id : Uuid} {p : ActionProposal π ρ} :
    getLocked db id = .ok p ↔ db.proposals.get? id = some p := by
  simp [getLocked]

theorem get?_id {id : Uuid} {p : ActionProposal π ρ} (hp : db.proposals.get? id = some p) :
    p.id = id := (Table.get?_eq_some.mp hp).2

theorem onLocked_path {id : Uuid} (locked : A.rows id)
    {act : ActionProposal π ρ → Except ProposalError (Moved π ρ)}
    (chain : ∀ p m, db.proposals.get? id = some p → act p = .ok m →
      Chain A.decisions p m.recorded m.proposal) :
    ReflTransGen (DbStep h A) db (settled db (Engine.onLocked ⟨h, registry, clock⟩ db id act)) := by
  rcases ok_or_error (Engine.onLocked ⟨h, registry, clock⟩ db id act) with ⟨db', hok⟩ | ⟨e, herr⟩
  · rw [hok]
    simp only [Engine.onLocked, bind_eq_ok, getLocked_eq_ok, raised_eq_ok] at hok
    obtain ⟨p, hp, m, hm, hsaved⟩ := hok
    obtain rfl := get?_id hp
    exact (advanceAll_path hp locked (chain p m hp hm) hsaved).1
  · rw [herr]
    exact .refl

theorem create_path {v : CreateValues π} {p : ActionProposal π ρ} (locked : ∀ id, A.rows id)
    (he : Engine.create ⟨h, registry, clock⟩ db v = .ok (db', p)) :
    ReflTransGen (DbStep h A) db db' := by
  simp only [Engine.create, bind_eq_ok] at he
  obtain ⟨specification, -, he⟩ := he
  exact createUnderLock_path (currentRows_select db _)
    (fun p hp => (Table.mem_select.mp hp).2.2.2) (fun p _ => locked p.id) he

variable [DecidableEq ρ]

/-- Every call is a sequence of steps of the database. -/
theorem perform_path {call : EngineCall π} (admitted : A.registries registry)
    (locked : ∀ id, A.rows id) (hn : NoneCommitting db)
    (hd : Confirms A.decisions ⟨h, registry, clock⟩ db call) :
    ReflTransGen (DbStep h A) db (Engine.perform ⟨h, registry, clock⟩ db call) := by
  cases call with
  | create v =>
    simp only [Engine.perform]
    rcases ok_or_error (Engine.create ⟨h, registry, clock⟩ db v) with ⟨r, hok⟩ | ⟨e, herr⟩
    · rw [hok]
      exact create_path locked hok
    · rw [herr]
      exact .refl
  | markPresented id turn now =>
    exact onLocked_path (locked id) fun p m _ hm => markPresented_chain hm
  | confirm id turn evidence now =>
    exact onLocked_path (locked id) fun p m hp hm => confirm_chain hm (hd p hp)
  | attestDecision id context =>
    simp only [Engine.perform]
    rcases ok_or_error (do
      let p ← getLocked db id
      let (db, _) ← Engine.attestDecision ⟨h, registry, clock⟩ db p context
      return db) with ⟨db', hok⟩ | ⟨e, herr⟩
    · rw [hok]
      simp only [Engine.attestDecision, bind_eq_ok, getLocked_eq_ok, raised_eq_ok,
        pure_eq_ok] at hok
      obtain ⟨p, hp, -, ⟨evidence, hev, m, hm, saved, hsaved, rfl⟩, rfl⟩ := hok
      obtain rfl := get?_id hp
      exact (advanceAll_path hp (locked p.id) (attest_chain hm (hd p evidence hp hev)) hsaved).1
    · rw [herr]
      exact .refl
  | decline id turn now => exact onLocked_path (locked id) fun p m _ hm => decline_chain hm
  | invalidate id reason now => exact onLocked_path (locked id) fun p m _ hm => invalidate_chain hm
  | executeRegisteredCommit id r =>
    simp only [Engine.perform]
    rcases ok_or_error (getLocked db id) with ⟨p, hok⟩ | ⟨e, herr⟩
    · rw [hok]
      have hp := getLocked_eq_ok.mp hok
      obtain rfl := get?_id hp
      cases hend : Engine.executeRegisteredCommit ⟨h, registry, clock⟩ db p r with
      | commit db' answer =>
        have hne := hn p (Table.get?_eq_some.mp hp).1
        simp only [hend]
        exact .single (executeRegisteredCommit_path admitted hp (locked p.id) hne hend)
      | leave answer => simp only [hend, Ending.db, ReflTransGen.refl]
    · rw [herr]

end

def reissueDigests : ProposalDigests String Bool :=
  ⟨fun s => "sha256:" ++ s, fun s => "uuid5:" ++ s, fun s => s,
    fun s => .ok ("snapshot:" ++ s.stage.value)⟩

def reissueHandler {π : Type} : TypedActionHandler ℕ π Bool where
  commitPendingMessage _ := "Card reissue is already in progress."
  reconcile _ _ := .ok none
  validateCurrentPreconditions _ _ := .ok ()
  recordCommitStarted issued _ := .ok issued
  execute issued _ := .ok (issued + 1, true)
  recordCommitted issued _ _ := .ok issued
  recordReconciled issued _ _ := .ok issued

def reissueSpecification {π : Type} : ActionSpecification ℕ π Bool :=
  ⟨"card-reissue", 1, "digest-1", "REISSUE_CARD", "card-reissue.v1", GENERAL_ACKNOWLEDGMENT_POLICY,
    ⟨["card_last_four"], false⟩, fun _ => none, fun _ => none, reissueHandler⟩

def reissueRegistry {π : Type} : ActionRegistry ℕ π Bool :=
  ⟨[reissueSpecification], [reissueSpecification]⟩

def reissueScope : ProposalScope := ⟨.ofNat 7, "support-1", "runtime", "runtime-1"⟩

def reissueValues (key : String) (id : ℕ) : CreateValues String :=
  ⟨.ofNat id, none, none, "card-reissue.v1", "REISSUE_CARD", reissueScope, none,
    "turn-1", "reset-1",
    "EXPLICIT_VERBAL", "lost card", "Replace the card ending in 4242.", none, key, none⟩

/-- The runtime when the customer, shown the offer on `presentation`, accepts it on `turn`. -/
def acceptedOn (presentation turn : String) : ProposalRuntimeContext :=
  ⟨"support-1", "runtime", "runtime-1", turn, "reset-1", none, some presentation, some turn,
    some "EXPLICIT_VERBAL", some "MODEL_TOOL_INTENT"⟩

/-- All clock readings of a call made at `now`. -/
def Clock.at_ (now : Timestamp) : Clock :=
  ⟨now, now, now, now, now, now, now, fun _ _ => now⟩

def reissueStore {β : Type} (bank : β) : ProposalDb β String Bool :=
  { bank := bank, users := .empty, proposals := .empty, outbox := .empty }

def reissueCall (now : Timestamp) (call : EngineCall String) : EngineEvent ℕ String Bool :=
  ⟨reissueRegistry, .at_ now, call⟩

def reissueCommit : CommitScope := ⟨reissueScope, "reset-1", "REISSUE_CARD"⟩

end BankingService
