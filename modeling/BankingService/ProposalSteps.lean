import BankingService.ProposalEngine
import Mathlib.Logic.Relation

/-! What a transaction of the engine can do, said once: the steps of one row, the steps of the
database that they are part of, and that every call is a sequence of such steps. -/
namespace BankingService

open Python Relational Checked Relation

variable {β π ρ : Type}

/-- A decision that is attested on a row: the turn and the evidence of it. -/
abbrev Decisions (π ρ : Type) := ActionProposal π ρ → Option String → Evidence → Prop

/-- The steps of a row, with the stage that each one records. `D` are the decisions that confirm
it. -/
inductive RowStep (D : Decisions π ρ) :
    ActionProposal π ρ → Stage → ActionProposal π ρ → Prop where
  | presented {p} (turn : Option String) (now : Timestamp) (status : p.status = .proposed)
      (inTime : ¬ p.Overdue now) : RowStep D p .presented (p.presentedOn turn now)
  | confirmed {p} (turn : Option String) (evidence : Evidence) (now : Timestamp)
      (status : p.status = .presented) (inTime : ¬ p.Overdue now)
      (later : truthy turn ≠ none ∧ turn ≠ some p.originatingCustomerTurnId)
      (protection : evidence ≠ []) (decided : D p turn evidence) :
      RowStep D p .confirmed (p.confirmedBy turn evidence now)
  | declined {p} (turn : Option String) (evidence : Option Evidence) (now : Timestamp)
      (status : p.status = .presented) :
      RowStep D p .declined ((p.decidedOn turn evidence).declinedBy turn now)
  | invalidated {p} (turn : Option String) (evidence : Option Evidence) (reason : String)
      (now : Timestamp) (active : p.status.isActive) :
      RowStep D p .invalidated ((p.decidedOn turn evidence).invalidatedFor reason now)
  | expired {p} (now : Timestamp) (overdue : p.Overdue now) :
      RowStep D p .expired (p.expiredAt now)
  | again {p} (done : ¬ p.status.isActive) : RowStep D p p.status.stage p

structure HandlerRun (handler : TypedActionHandler β π ρ) (p q : ActionProposal π ρ)
    (bank executed bank' : β) (result : ρ) : Prop where
  executes : ∃ started, handler.recordCommitStarted bank p = .ok started ∧
    handler.execute started p = .ok (executed, result)
  records : handler.recordCommitted executed q result = .ok bank'
  validated : handler.validateCurrentPreconditions bank p = .ok ()

/-- What a transaction works with: the registry its actions come from, the ids that are generated
for its rejections, the decisions that confirm a row in it, and the rows that it has locked. -/
structure Permits (β π ρ : Type) where
  registries : ActionRegistry β π ρ → Prop
  rejections : Uuid → Prop
  decisions : Decisions π ρ
  rows : Uuid → Prop

/-- The steps of the database within a transaction that is committed. -/
inductive DbStep (h : ProposalDigests π ρ) (A : Permits β π ρ) :
    ProposalDb β π ρ → ProposalDb β π ρ → Prop where
  | moved {db db' p q stage} (registry : ActionRegistry β π ρ) (clock : Clock)
      (current : db.proposals.get? p.id = some p) (locked : A.rows p.id)
      (step : RowStep A.decisions p stage q)
      (saved : Engine.advance ⟨h, registry, clock⟩ db stage q = .ok db') : DbStep h A db db'
  | overtaken {db claimed db' p} (registry : ActionRegistry β π ρ) (clock : Clock)
      (now done : Timestamp) (reason : String) (current : db.proposals.get? p.id = some p)
      (locked : A.rows p.id)
      (status : p.status = .confirmed) (inTime : now < p.expiresAt)
      (claim : Engine.advance ⟨h, registry, clock⟩ db .commitStarted (p.claimedAt now) =
        .ok claimed)
      (saved : Engine.advance ⟨h, registry, clock⟩ claimed .invalidated
        ((p.claimedAt now).invalidatedFor reason done) = .ok db') : DbStep h A db db'
  | executed {db claimed db' p executed bank'} (registry : ActionRegistry β π ρ)
      (clock : Clock) (specification : ActionSpecification β π ρ) (now done : Timestamp)
      (result : ρ) (current : db.proposals.get? p.id = some p) (locked : A.rows p.id)
      (status : p.status = .confirmed) (inTime : now < p.expiresAt)
      (admitted : A.registries registry) (registered : registry.forProposal p = .ok specification)
      (claim : Engine.advance ⟨h, registry, clock⟩ db .commitStarted (p.claimedAt now) =
        .ok claimed)
      (run : HandlerRun specification.handler (p.claimedAt now)
        ((p.claimedAt now).completedWith result done) db.bank executed bank' result)
      (saved : Engine.advance ⟨h, registry, clock⟩ { claimed with bank := executed } .committed
        ((p.claimedAt now).completedWith result done) = .ok db') :
      DbStep h A db { db' with bank := bank' }
  | rejected {db db'} (eventId : Uuid) (now : Timestamp) (operation : RequestOperation)
      (customerId : Option Uuid) (e : ServiceError) (attempted : Option Uuid)
      (generated : A.rejections eventId)
      (saved : recordRejection db eventId now operation customerId e attempted = .ok db') :
      DbStep h A db db'
  | inserted {db db'} (registry : ActionRegistry β π ρ) (clock : Clock)
      (specification : ActionSpecification β π ρ) (v : CreateValues π) (expiresAt : Timestamp)
      (saved : Engine.insertProposal ⟨h, registry, clock⟩ db
        (Engine.proposalOf ⟨h, registry, clock⟩ specification v expiresAt) = .ok db') :
      DbStep h A db db'

theorem saveProposal_eq_ok {db db' : ProposalDb β π ρ} {p : ActionProposal π ρ} :
    saveProposal db p = .ok db' ↔
      ∃ t, db.proposals.update? p.id (fun _ => p) = some t ∧ db' = { db with proposals := t } := by
  simp only [saveProposal, bind_eq_ok, orRaise_eq_ok, pure_eq_ok, @eq_comm _ db']

theorem recordTransition_eq_ok {h : ProposalDigests π ρ} {db db' : ProposalDb β π ρ}
    {p : ActionProposal π ρ} {stage : Stage} {now : Timestamp} :
    recordTransition h db p stage now = .ok db' ↔
      (AlreadyRecorded h db.outbox p.id stage ∧ db' = db) ∨
      (¬ AlreadyRecorded h db.outbox p.id stage ∧ ∃ json outbox,
        h.snapshotJson ⟨stage, p⟩ = .ok json ∧
        db.outbox.insertAll? (transitionEvents h p stage json now) = some outbox ∧
        db' = { db with outbox := outbox }) := by
  unfold recordTransition
  by_cases hr : AlreadyRecorded h db.outbox p.id stage
  · simp [hr, @eq_comm _ db']
  · simp [hr, @eq_comm _ db']

/-- A row written back and its stage recorded: the row is the only one that changes, and nothing
but the proposals and the outbox does. -/
theorem advance_eq_ok {e : Engine β π ρ} {db db' : ProposalDb β π ρ} {stage : Stage}
    {p : ActionProposal π ρ} (h : e.advance db stage p = .ok db') :
    ∃ t, db.proposals.update? p.id (fun _ => p) = some t ∧ db'.proposals = t ∧
      db'.bank = db.bank ∧ db'.users = db.users ∧
      recordTransition e.digests { db with proposals := t } p stage
        (e.clock.recordedAt p.id stage) = .ok db' := by
  simp only [Engine.advance, Engine.record, bind_eq_ok] at h
  obtain ⟨saved, hs, specification, -, hr⟩ := h
  obtain ⟨t, ht, rfl⟩ := saveProposal_eq_ok.mp hs
  refine ⟨t, ht, ?_, ?_, ?_, hr⟩
  all_goals rcases recordTransition_eq_ok.mp hr with ⟨-, rfl⟩ | ⟨-, json, outbox, -, -, rfl⟩ <;> rfl

theorem get?_advance {e : Engine β π ρ} {db db' : ProposalDb β π ρ} {stage : Stage}
    {p q : ActionProposal π ρ} (h : e.advance db stage q = .ok db')
    (current : db.proposals.get? p.id = some p) (hid : q.id = p.id) (id : Uuid) :
    db'.proposals.get? id = if id = p.id then some q else db.proposals.get? id := by
  obtain ⟨t, ht, rfl, -⟩ := advance_eq_ok h
  rw [Table.get?_update? ht (fun _ _ => rfl), hid, current]
  rfl

theorem get?_claimed {e e' : Engine β π ρ} {db claimed between db' : ProposalDb β π ρ}
    {stage : Stage} {p q : ActionProposal π ρ} {now : Timestamp}
    (claim : e.advance db .commitStarted (p.claimedAt now) = .ok claimed)
    (saved : e'.advance between stage q = .ok db') (current : db.proposals.get? p.id = some p)
    (same : between.proposals = claimed.proposals) (hid : q.id = p.id) (id : Uuid) :
    db'.proposals.get? id = if id = p.id then some q else db.proposals.get? id := by
  have hfirst : ∀ id, between.proposals.get? id =
      if id = p.id then some (p.claimedAt now) else db.proposals.get? id := by
    intro id
    rw [same]
    exact get?_advance claim current rfl id
  have hlast := get?_advance (p := p.claimedAt now) saved ((hfirst p.id).trans (if_pos rfl)) hid id
  rw [hlast]
  change (if id = p.id then some q else between.proposals.get? id) = _
  by_cases h : id = p.id
  · rw [if_pos h, if_pos h]
  · rw [if_neg h, if_neg h, hfirst, if_neg h]

theorem mem_replaced {db db' : ProposalDb β π ρ} {p q : ActionProposal π ρ}
    (hget : ∀ id, db'.proposals.get? id = if id = p.id then some q else db.proposals.get? id)
    (hid : q.id = p.id) (r : ActionProposal π ρ) :
    r ∈ db'.proposals.rows ↔ r = q ∨ (r ∈ db.proposals.rows ∧ r.id ≠ p.id) := by
  constructor
  · intro h
    have hr : db'.proposals.get? r.id = some r := Table.get?_of_mem h
    rw [hget] at hr
    by_cases hrp : r.id = p.id
    · rw [if_pos hrp] at hr
      exact Or.inl (Option.some.inj hr).symm
    · rw [if_neg hrp] at hr
      exact Or.inr ⟨(Table.get?_eq_some.mp hr).1, hrp⟩
  · rintro (rfl | ⟨h, hrp⟩)
    · exact (Table.get?_eq_some.mp ((hget p.id).trans (if_pos rfl))).1
    · have hr := hget r.id
      rw [if_neg hrp] at hr
      exact (Table.get?_eq_some.mp (hr.trans (Table.get?_of_mem h))).1

theorem mem_advance {e : Engine β π ρ} {db db' : ProposalDb β π ρ} {stage : Stage}
    {q r : ActionProposal π ρ} (h : e.advance db stage q = .ok db')
    (hr : r ∈ db'.proposals.rows) : r = q ∨ (r ∈ db.proposals.rows ∧ r.id ≠ q.id) := by
  obtain ⟨t, ht, rfl, -⟩ := advance_eq_ok h
  obtain ⟨a, ha, rfl⟩ := (Table.mem_update? ht).mp hr
  by_cases hid : Row.key a = q.id
  · rw [if_pos hid]
    exact Or.inl rfl
  · rw [if_neg hid]
    exact Or.inr ⟨ha, hid⟩

theorem insertProposal_eq_ok {e : Engine β π ρ} {db db' : ProposalDb β π ρ}
    {p : ActionProposal π ρ} (h : e.insertProposal db p = .ok db') :
    ∃ t, db.proposals.insert? p = some t ∧ db'.proposals = t ∧ db'.bank = db.bank ∧
      db'.users = db.users ∧ recordTransition e.digests { db with proposals := t } p .proposed
        (e.clock.recordedAt p.id .proposed) = .ok db' := by
  simp only [Engine.insertProposal, Engine.record, bind_eq_ok, raised_eq_ok, insert_eq_ok] at h
  obtain ⟨t, ht, specification, -, hr⟩ := h
  refine ⟨t, ht, ?_, ?_, ?_, hr⟩
  all_goals rcases recordTransition_eq_ok.mp hr with ⟨-, rfl⟩ | ⟨-, json, outbox, -, -, rfl⟩ <;> rfl

theorem recordRejection_eq_ok {db db' : ProposalDb β π ρ} {eventId : Uuid} {now : Timestamp}
    {operation : RequestOperation} {customerId attempted : Option Uuid} {e : ServiceError}
    (h : recordRejection db eventId now operation customerId e attempted = .ok db') :
    ∃ event outbox, event.eventId = eventId.str ∧ db.outbox.insert? event = some outbox ∧
      db' = { db with outbox := outbox } := by
  simp only [recordRejection, bind_eq_ok, raised_eq_ok, insert_eq_ok, pure_eq_ok] at h
  obtain ⟨outbox, hinsert, rfl⟩ := h
  exact ⟨_, outbox, rfl, hinsert, rfl⟩

theorem proposals_of_rejection {db db' : ProposalDb β π ρ} {eventId : Uuid} {now : Timestamp}
    {operation : RequestOperation} {customerId attempted : Option Uuid} {e : ServiceError}
    (h : recordRejection db eventId now operation customerId e attempted = .ok db') :
    db'.proposals = db.proposals := by
  obtain ⟨event, outbox, -, -, rfl⟩ := recordRejection_eq_ok h
  rfl

theorem dbStep_users {h : ProposalDigests π ρ} {A : Permits β π ρ} {db db' : ProposalDb β π ρ}
    (hs : DbStep h A db db') : db'.users = db.users := by
  cases hs with
  | moved registry clock current locked step saved =>
    obtain ⟨t, -, -, -, husers, -⟩ := advance_eq_ok saved
    exact husers
  | overtaken registry clock now done reason current locked status inTime claim saved =>
    obtain ⟨t, -, -, -, husers, -⟩ := advance_eq_ok saved
    obtain ⟨t', -, -, -, husers', -⟩ := advance_eq_ok claim
    exact husers.trans husers'
  | executed registry clock specification now done result current locked status inTime admitted
      registered claim run saved =>
    obtain ⟨t, -, -, -, husers, -⟩ := advance_eq_ok saved
    obtain ⟨t', -, -, -, husers', -⟩ := advance_eq_ok claim
    exact husers.trans husers'
  | rejected eventId now operation customerId e attempted generated saved =>
    obtain ⟨event, outbox, -, -, rfl⟩ := recordRejection_eq_ok saved
    rfl
  | inserted registry clock specification v expiresAt saved =>
    obtain ⟨t, -, -, -, husers, -⟩ := insertProposal_eq_ok saved
    exact husers

theorem dbStep_bank {h : ProposalDigests π ρ} {A : Permits β π ρ} {db db' : ProposalDb β π ρ}
    (hs : DbStep h A db db') : db'.bank = db.bank ∨
      ∃ (registry : ActionRegistry β π ρ) (specification : ActionSpecification β π ρ)
        (p q : ActionProposal π ρ) (now : Timestamp) (executed : β) (result : ρ),
        A.registries registry ∧ registry.forProposal p = .ok specification ∧
        db.proposals.get? p.id = some p ∧
        HandlerRun specification.handler (p.claimedAt now) q db.bank executed db'.bank result := by
  cases hs with
  | moved registry clock current locked step saved =>
    obtain ⟨t, -, -, hbank, -⟩ := advance_eq_ok saved
    exact Or.inl hbank
  | overtaken registry clock now done reason current locked status inTime claim saved =>
    obtain ⟨t, -, -, hbank, -⟩ := advance_eq_ok saved
    obtain ⟨t', -, -, hbank', -⟩ := advance_eq_ok claim
    exact Or.inl (hbank.trans hbank')
  | executed registry clock specification now done result current locked status inTime admitted
      registered claim run saved =>
    exact Or.inr ⟨registry, specification, _, _, now, _, result, admitted, registered, current, run⟩
  | rejected eventId now operation customerId e attempted generated saved =>
    obtain ⟨event, outbox, -, -, rfl⟩ := recordRejection_eq_ok saved
    exact Or.inl rfl
  | inserted registry clock specification v expiresAt saved =>
    obtain ⟨t, -, -, hbank, -⟩ := insertProposal_eq_ok saved
    exact Or.inl hbank

theorem rowStep_id {D : Decisions π ρ} {p q : ActionProposal π ρ} {stage : Stage}
    (h : RowStep D p stage q) : q.id = p.id := by
  cases h <;> rfl

theorem rowStep_of_ended {D : Decisions π ρ} {p q : ActionProposal π ρ} {stage : Stage}
    (h : RowStep D p stage q) (hp : ¬ p.status.isActive) : q = p := by
  cases h with
  | presented turn now status => exact absurd (by simp [status, ProposalStatus.isActive]) hp
  | confirmed turn evidence now status =>
    exact absurd (by simp [status, ProposalStatus.isActive]) hp
  | declined turn evidence now status =>
    exact absurd (by simp [status, ProposalStatus.isActive]) hp
  | invalidated turn evidence reason now active => exact absurd active hp
  | expired now overdue => exact absurd overdue.1 hp
  | again => rfl

theorem rowStep_stage {D : Decisions π ρ} {p q : ActionProposal π ρ} {stage : Stage}
    (h : RowStep D p stage q) : q.status.stage = stage := by
  cases h <;> rfl

/-- The states that a call recorded lead from the row to what the call made of it. -/
inductive Chain (D : Decisions π ρ) :
    ActionProposal π ρ → List (Stage × ActionProposal π ρ) → ActionProposal π ρ → Prop where
  | nil {p} : Chain D p [] p
  | cons {p q r stage moves} (step : RowStep D p stage q) (rest : Chain D q moves r) :
      Chain D p ((stage, q) :: moves) r

section
variable {D : Decisions π ρ} {p : ActionProposal π ρ} {m : Moved π ρ} {now : Timestamp}

theorem Chain.single {q : ActionProposal π ρ} {stage : Stage} (step : RowStep D p stage q) :
    Chain D p [(stage, q)] q :=
  .cons step .nil

theorem Chain.append {q r : ActionProposal π ρ} {l l' : List (Stage × ActionProposal π ρ)}
    (h : Chain D p l q) (h' : Chain D q l' r) : Chain D p (l ++ l') r := by
  induction h with
  | nil => exact h'
  | cons step _ ih => exact .cons step (ih h')

theorem markPresented_chain {turn : Option String} (h : p.markPresented turn now = .ok m) :
    Chain D p m.recorded m.proposal := by
  obtain ⟨hover, ⟨-, -, rfl⟩ | ⟨hs, rfl⟩⟩ := markPresented_eq_ok.mp h
  · exact .nil
  · exact .single (.presented turn now hs hover)

theorem confirm_chain {turn : Option String} {evidence : Evidence}
    (h : p.confirm turn evidence now = .ok m)
    (hd : p.status = .presented → ¬ p.Overdue now → turn ≠ some p.originatingCustomerTurnId →
      D p turn evidence) : Chain D p m.recorded m.proposal := by
  obtain ⟨hover, ⟨-, -, rfl⟩ | ⟨hs, hlater, hev, rfl⟩⟩ := confirm_eq_ok.mp h
  · exact .nil
  · exact .single (.confirmed turn evidence now hs hover hlater hev (hd hs hover hlater.2))

theorem decline_chain {turn : Option String} (h : p.decline turn now = .ok m) :
    Chain D p m.recorded m.proposal := by
  obtain ⟨hover, ⟨hs, rfl⟩ | ⟨hs, rfl⟩⟩ := decline_eq_ok.mp h
  · exact .nil
  · exact .single (.declined turn p.confirmationEvidence now hs)

theorem invalidate_chain {reason : String} (h : p.invalidate reason now = .ok m) :
    Chain D p m.recorded m.proposal := by
  obtain ⟨hs, rfl⟩ | ⟨⟨hactive, -⟩, rfl⟩ := invalidate_eq_ok.mp h
  · exact .nil
  · exact .single (.invalidated p.confirmationCustomerTurnId p.confirmationEvidence reason now
      hactive)

/-- What attesting a decision does to a row: it is presented where it was not, then confirmed. -/
theorem attest_chain {evidence : ValidatedRuntimeEvidence} {presenting confirming : Timestamp}
    (h : p.attest evidence presenting confirming = .ok m)
    (hd : ∀ q, (q = p ∨ (p.status = .proposed ∧
        q = p.presentedOn (some evidence.presentationTurnId) presenting)) →
      q.status = .presented → ¬ q.Overdue confirming →
      some evidence.decisionTurnId ≠ some q.originatingCustomerTurnId →
      D q (some evidence.decisionTurnId) evidence.protectedEvidence) :
    Chain D p m.recorded m.proposal := by
  simp only [ActionProposal.attest, bind_eq_ok] at h
  obtain ⟨m₁, h₁, h⟩ := h
  have hfirst : Chain D p m₁.recorded m₁.proposal ∧ (m₁.proposal = p ∨ (p.status = .proposed ∧
      m₁.proposal = p.presentedOn (some evidence.presentationTurnId) presenting)) := by
    by_cases hs : p.status = .proposed
    · rw [if_pos hs] at h₁
      refine ⟨markPresented_chain h₁, ?_⟩
      obtain ⟨-, ⟨hpres, -⟩ | ⟨-, rfl⟩⟩ := markPresented_eq_ok.mp h₁
      · rw [hs] at hpres
        cases hpres
      · exact Or.inr ⟨hs, rfl⟩
    · rw [if_neg hs] at h₁
      cases h₁
      exact ⟨.nil, Or.inl rfl⟩
  by_cases hpresented : m₁.proposal.status = .presented
  · simp only [if_pos hpresented, bind_eq_ok, pure_eq_ok] at h
    obtain ⟨c, hc, rfl⟩ := h
    exact hfirst.1.append (confirm_chain hc (hd _ hfirst.2))
  · rw [if_neg hpresented] at h
    cases h
    exact hfirst.1

end

section
variable {h : ProposalDigests π ρ} {A : Permits β π ρ}
  {registry : ActionRegistry β π ρ}
  {clock : Clock} {db db' : ProposalDb β π ρ} {p q : ActionProposal π ρ}

/-- What a call made of a row, written state by state, is a sequence of steps. -/
theorem advanceAll_path {moves : List (Stage × ActionProposal π ρ)}
    (current : db.proposals.get? p.id = some p) (locked : A.rows p.id)
    (chain : Chain A.decisions p moves q)
    (saved : Engine.advanceAll ⟨h, registry, clock⟩ db moves = .ok db') :
    ReflTransGen (DbStep h A) db db' ∧ db'.proposals.get? p.id = some q ∧ q.id = p.id := by
  induction chain generalizing db with
  | nil =>
    cases saved
    exact ⟨.refl, current, rfl⟩
  | @cons p q r stage moves step rest ih =>
    simp only [Engine.advanceAll, bind_eq_ok] at saved
    obtain ⟨mid, hmid, saved⟩ := saved
    have hid : q.id = p.id := rowStep_id step
    have hcurrent : mid.proposals.get? q.id = some q := by
      rw [get?_advance hmid current hid, if_pos hid]
    obtain ⟨hpath, hget, hr⟩ := ih hcurrent (hid ▸ locked) saved
    exact ⟨.head (.moved registry clock current locked step hmid) hpath, hid ▸ hget, hr.trans hid⟩

theorem commitDisposition_eq_commit {e : Engine β π ρ} {error : ProposalError}
    {answer : Except ServiceError (CommitAnswer ρ)}
    (he : e.commitDisposition db q error = .commit db' answer) :
    e.advance db q.status.stage q = .ok db' ∧ answer = .error (.proposal error) := by
  unfold Engine.commitDisposition Engine.recordDisposition at he
  split at he
  · next hok =>
    cases he
    exact ⟨hok, rfl⟩
  · cases he

variable [DecidableEq ρ]

theorem execute_eq_ok {e : Engine β π ρ} {specification : ActionSpecification β π ρ}
    (he : e.execute db specification p = .ok (db', q)) (hp : p.status = .committing)
    (validated : specification.handler.validateCurrentPreconditions db.bank p = .ok ()) :
    ∃ result executed bank' saved, q = p.completedWith result e.clock.completing ∧
      HandlerRun specification.handler p q db.bank executed bank' result ∧
      e.advance { db with bank := executed } .committed q = .ok saved ∧
      db' = { saved with bank := bank' } := by
  simp only [Engine.execute, bind_eq_ok, raised_eq_ok, pure_eq_ok] at he
  obtain ⟨started, hstart, ⟨executed, result⟩, hexec, -, -, m, hm, saved, hsaved, bank', hrec,
    hpair⟩ := he
  rw [Prod.mk.injEq] at hpair
  obtain ⟨rfl, rfl⟩ := hpair
  obtain ⟨hs, -, -⟩ | ⟨-, rfl⟩ := markCommitted_eq_ok.mp hm
  · rw [hp] at hs
    cases hs
  · simp only [Engine.advanceAll, bind_eq_ok, Except.ok.injEq, exists_eq_right] at hsaved
    have hbank : saved.bank = executed := by
      obtain ⟨-, -, -, hbank, -⟩ := advance_eq_ok hsaved
      exact hbank
    rw [hbank] at hrec
    exact ⟨result, executed, bank', saved, rfl, ⟨⟨started, hstart, hexec⟩, hrec, validated⟩,
      hsaved, rfl⟩

theorem executeClaimed_path {specification : ActionSpecification β π ρ} {claimed : ProposalDb β π ρ}
    {now : Timestamp} {answer : Except ServiceError (CommitAnswer ρ)}
    (current : db.proposals.get? p.id = some p) (locked : A.rows p.id)
    (status : p.status = .confirmed) (inTime : now < p.expiresAt) (admitted : A.registries registry)
    (registered : registry.forProposal p = .ok specification)
    (claim : Engine.advance ⟨h, registry, clock⟩ db .commitStarted (p.claimedAt now) = .ok claimed)
    (he : Engine.executeClaimed ⟨h, registry, clock⟩ claimed specification (p.claimedAt now) =
      .commit db' answer) : DbStep h A db db' := by
  unfold Engine.executeClaimed at he
  split at he
  · split at he
    · next reason _ =>
      obtain ⟨hsaved, -⟩ := commitDisposition_eq_commit he
      exact .overtaken registry clock now clock.completing reason current locked status inTime claim
        hsaved
    · cases he
  · cases he
  · next hvalid =>
    split at he
    · next hok =>
      cases he
      obtain ⟨result, executed, bank', saved, rfl, hrun, hsaved, rfl⟩ :=
        execute_eq_ok hok rfl hvalid
      have hbank : claimed.bank = db.bank := by
        obtain ⟨-, -, -, hbank, -⟩ := advance_eq_ok claim
        exact hbank
      rw [hbank] at hrun
      exact .executed registry clock specification now clock.completing result current locked
        status inTime admitted registered claim hrun hsaved
    · cases he

/-- A commit leaves what one step makes of the database, and a row that is still being committed
does not come into it. -/
theorem executeRegisteredCommit_path {r : CommitScope}
    {answer : Except ServiceError (CommitAnswer ρ)}
    (admitted : A.registries registry) (current : db.proposals.get? p.id = some p)
    (locked : A.rows p.id) (settled : p.status ≠ .committing)
    (he : Engine.executeRegisteredCommit ⟨h, registry, clock⟩ db p r = .commit db' answer) :
    DbStep h A db db' := by
  unfold Engine.executeRegisteredCommit at he
  split at he
  · cases he
  next specification registered =>
  obtain ⟨error, hclaim⟩ | ⟨hclaim, -, -, hheld⟩ | ⟨error, hclaim, hover, -⟩ |
    ⟨error, hclaim, hactive, -⟩ | ⟨hclaim, -, -, -, hconfirmed, hlt⟩ :=
    claimCommit_cases p r clock.claiming
  · simp only [hclaim] at he
    split at he
    · next hdone =>
      obtain ⟨hsaved, -⟩ := commitDisposition_eq_commit he
      refine .moved registry clock current locked (.again ?_) hsaved
      rcases hdone with hdone | hdone <;> simp [hdone, ProposalStatus.isActive]
    · cases he
  · have hcommitted : p.status = .committed := hheld.resolve_right settled
    simp only [hclaim, if_pos hcommitted] at he
    cases he
  · simp only [hclaim] at he
    rw [if_pos (Or.inr expiredAt_status)] at he
    obtain ⟨hsaved, -⟩ := commitDisposition_eq_commit he
    exact .moved registry clock current locked (.expired clock.claiming hover) hsaved
  · simp only [hclaim] at he
    rw [if_pos (Or.inl invalidatedFor_status)] at he
    obtain ⟨hsaved, -⟩ := commitDisposition_eq_commit he
    exact .moved registry clock current locked (.invalidated p.confirmationCustomerTurnId
      p.confirmationEvidence "RESET_GENERATION_CHANGED" clock.claiming hactive) hsaved
  · simp only [hclaim] at he
    split at he
    · cases he
    · next claimed hsaved =>
      exact executeClaimed_path current locked hconfirmed hlt admitted registered hsaved he

end

section
variable {h : ProposalDigests π ρ} {A : Permits β π ρ}
  {registry : ActionRegistry β π ρ}
  {clock : Clock} {db db' : ProposalDb β π ρ}

/-- Locked rows are as the database has them, each of them once. -/
def CurrentRows (db : ProposalDb β π ρ) (l : List (ActionProposal π ρ)) : Prop :=
  (∀ p ∈ l, db.proposals.get? p.id = some p) ∧ l.Pairwise fun p q => p.id ≠ q.id

theorem currentRows_select (db : ProposalDb β π ρ) (c : ActionProposal π ρ → Prop)
    [DecidablePred c] : CurrentRows db (db.proposals.select c) := by
  constructor
  · intro p hp
    exact Table.get?_of_mem (Table.mem_select.mp hp).1
  · refine (db.proposals.distinct.sublist List.filter_sublist).imp ?_
    intro p q hclash hid
    exact hclash (Row.clash_of_key hid)

theorem currentRows_olderFirst {l : List (ActionProposal π ρ)} (hl : CurrentRows db l) :
    CurrentRows db (olderFirst l) := by
  have hperm : (olderFirst l).Perm l := List.mergeSort_perm ..
  constructor
  · exact fun p hp => hl.1 p (hperm.mem_iff.mp hp)
  · exact hperm.symm.pairwise hl.2 (fun h => h.symm)

theorem expireOverdue_path {l : List (ActionProposal π ρ)} {active : Option (ActionProposal π ρ)}
    (hl : CurrentRows db l) (hactive : ∀ p ∈ l, p.status.isActive) (locked : ∀ p ∈ l, A.rows p.id)
    (he : Engine.expireOverdue ⟨h, registry, clock⟩ db l = .ok (db', active)) :
    ReflTransGen (DbStep h A) db db' := by
  induction l generalizing db active with
  | nil =>
    cases he
    exact .refl
  | cons p l ih =>
    obtain ⟨hcurrent, hdistinct⟩ := hl
    have hp := hcurrent p List.mem_cons_self
    obtain ⟨hne, hrest⟩ := List.pairwise_cons.mp hdistinct
    have hactiveRest : ∀ q ∈ l, q.status.isActive := fun q hq => hactive q (.tail _ hq)
    have hlockedRest : ∀ q ∈ l, A.rows q.id := fun q hq => locked q (.tail _ hq)
    unfold Engine.expireOverdue at he
    by_cases hdue : p.status ≠ .committing ∧ p.expiresAt ≤ clock.creating
    · simp only [if_pos hdue, bind_eq_ok] at he
      obtain ⟨mid, hmid, he⟩ := he
      have hstep : DbStep h A db mid := .moved registry clock hp
        (locked p List.mem_cons_self)
          (.expired clock.creating ⟨hactive p List.mem_cons_self, hdue.2⟩) hmid
      refine .head hstep (ih ⟨?_, hrest⟩ hactiveRest hlockedRest he)
      intro q hq
      rw [get?_advance hmid hp rfl, if_neg (Ne.symm (hne q hq))]
      exact hcurrent q (.tail _ hq)
    · simp only [if_neg hdue, bind_eq_ok, pure_eq_ok] at he
      obtain ⟨⟨mid, other⟩, hmid, hpair⟩ := he
      cases hpair
      exact ih ⟨fun q hq => hcurrent q (.tail _ hq), hrest⟩ hactiveRest hlockedRest hmid

theorem createUnderLock_path {specification : ActionSpecification β π ρ} {v : CreateValues π}
    {looked : Option (ActionProposal π ρ)} {active : List (ActionProposal π ρ)}
    {p : ActionProposal π ρ} (hl : CurrentRows db active)
    (hactive : ∀ p ∈ active, p.status.isActive) (locked : ∀ p ∈ active, A.rows p.id)
    (he : Engine.createUnderLock ⟨h, registry, clock⟩ db specification v looked active =
      .ok (db', p)) : ReflTransGen (DbStep h A) db db' := by
  unfold Engine.createUnderLock at he
  cases looked with
  | some existing =>
    simp only [bind_eq_ok, pure_eq_ok] at he
    obtain ⟨replayed, -, hpair⟩ := he
    cases hpair
    exact .refl
  | none =>
    simp only [bind_eq_ok] at he
    obtain ⟨⟨mid, blocking⟩, hmid, he⟩ := he
    have hpath : ReflTransGen (DbStep h A) db mid :=
      expireOverdue_path (currentRows_olderFirst hl)
        (fun p hp => hactive p ((List.mergeSort_perm ..).mem_iff.mp hp))
        (fun p hp => locked p ((List.mergeSort_perm ..).mem_iff.mp hp)) hmid
    cases blocking with
    | some b => cases he
    | none =>
      simp only [bind_eq_ok] at he
      obtain ⟨-, -, he⟩ := he
      split at he
      · next hinsert =>
        cases he
        exact .tail hpath (.inserted registry clock specification v _ hinsert)
      · split at he
        · simp only [bind_eq_ok, pure_eq_ok] at he
          obtain ⟨replayed, -, hpair⟩ := he
          cases hpair
          exact hpath
        · split at he <;> cases he
      · cases he

end

/-- What holds of every row as it is created is kept by every step of one. -/
structure RowInvariant (h : ProposalDigests π ρ) (D : Decisions π ρ)
    (J : ActionProposal π ρ → Prop) : Prop where
  step : ∀ {p q stage}, RowStep D p stage q → J p → J q
  overtaken : ∀ {p : ActionProposal π ρ} {now done reason}, J p → p.status = .confirmed →
    J ((p.claimedAt now).invalidatedFor reason done)
  executed : ∀ {p : ActionProposal π ρ} {now done result}, J p → p.status = .confirmed →
    now < p.expiresAt → J ((p.claimedAt now).completedWith result done)
  created : ∀ {p : ActionProposal π ρ}, p.status = .proposed →
    p.payloadFingerprint = h.sha256 (h.payloadJson p.actionPayload) → J p

section
variable {h : ProposalDigests π ρ} {A : Permits β π ρ}
  {J : ActionProposal π ρ → Prop} {db db' : ProposalDb β π ρ}

theorem advance_rows {e : Engine β π ρ} {q : ActionProposal π ρ} {stage : Stage}
    (saved : e.advance db stage q = .ok db') (hq : J q)
    (hdb : ∀ p ∈ db.proposals.rows, p.id ≠ q.id → J p) : ∀ p ∈ db'.proposals.rows, J p := by
  intro r hr
  rcases mem_advance saved hr with rfl | ⟨hr, hne⟩
  · exact hq
  · exact hdb r hr hne

theorem RowInvariant.dbStep (hJ : RowInvariant h A.decisions J) (hs : DbStep h A db db')
    (hdb : ∀ p ∈ db.proposals.rows, J p) : ∀ p ∈ db'.proposals.rows, J p := by
  have hrow : ∀ {p}, db.proposals.get? p.id = some p → J p :=
    fun hp => hdb _ (Table.get?_eq_some.mp hp).1
  cases hs with
  | moved registry clock current locked step saved =>
    exact advance_rows saved (hJ.step step (hrow current)) fun r hr _ => hdb r hr
  | overtaken registry clock now done reason current locked status inTime claim saved =>
    refine advance_rows saved (hJ.overtaken (hrow current) status) ?_
    intro r hr hne
    exact hdb r ((mem_advance claim hr).resolve_left fun h => hne (h ▸ rfl)).1
  | @executed claimed db' p executed bank' registry clock specification now done result current
      locked status inTime admitted registered claim run saved =>
    have hothers : ∀ r ∈ claimed.proposals.rows, r.id ≠ p.id → J r := by
      intro r hr hne
      exact hdb r ((mem_advance claim hr).resolve_left fun h => hne (h ▸ rfl)).1
    have hall : ∀ r ∈ db'.proposals.rows, J r :=
      advance_rows saved (hJ.executed (hrow current) status inTime) hothers
    exact hall
  | rejected eventId now operation customerId e attempted generated saved =>
    rw [proposals_of_rejection saved]
    exact hdb
  | inserted registry clock specification v expiresAt saved =>
    obtain ⟨t, ht, hproposals, -⟩ := insertProposal_eq_ok saved
    intro r hr
    rw [hproposals] at hr
    rcases (Table.mem_insert ht).mp hr with hr | rfl
    · exact hdb r hr
    · exact hJ.created rfl rfl

theorem RowInvariant.path (hJ : RowInvariant h A.decisions J)
    (hs : ReflTransGen (DbStep h A) db db')
    (hdb : ∀ p ∈ db.proposals.rows, J p) : ∀ p ∈ db'.proposals.rows, J p := by
  induction hs with
  | refl => exact hdb
  | tail _ hstep ih => exact hJ.dbStep hstep ih

end

end BankingService
