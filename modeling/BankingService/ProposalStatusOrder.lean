import BankingService.ProposalCalls

/-! The order of a proposal's statuses over any sequence of the engine's calls, and what a
committed proposal has behind it: a presentation, and a confirmation in time by a later turn of
the customer with protected evidence, on the payload that it was created with. -/
namespace BankingService.ProposalStatusOrder

open Python Relational Checked Relation Runs

variable {β π ρ : Type}

/-- One step in the life of a proposal. -/
inductive NextStatus : ProposalStatus → ProposalStatus → Prop where
  | present : NextStatus .proposed .presented
  | confirm : NextStatus .presented .confirmed
  | claim : NextStatus .confirmed .committing
  | complete : NextStatus .committing .committed
  | decline {s} (active : s.isActive) : NextStatus s .declined
  | expire {s} (active : s.isActive) : NextStatus s .expired
  | invalidate {s} (active : s.isActive) : NextStatus s .invalidated

structure Follows (p q : ActionProposal π ρ) : Prop where
  path : ReflTransGen NextStatus p.status q.status
  ended : ¬ p.status.isActive → q.status = p.status
  payload : q.actionPayload = p.actionPayload
  fingerprint : q.payloadFingerprint = p.payloadFingerprint

structure Started (h : ProposalDigests π ρ) (q : ActionProposal π ρ) : Prop where
  path : ReflTransGen NextStatus .proposed q.status
  fingerprint : q.payloadFingerprint = h.sha256 (h.payloadJson q.actionPayload)

/-- No proposal is lost, each goes on from where it was, and a new one from the beginning. -/
structure Kept (h : ProposalDigests π ρ) (db db' : ProposalDb β π ρ) : Prop where
  stays : ∀ p ∈ db.proposals.rows, ∃ q ∈ db'.proposals.rows, q.id = p.id ∧ Follows p q
  starts : ∀ q ∈ db'.proposals.rows, (∃ p ∈ db.proposals.rows, p.id = q.id) ∨ Started h q

def ConfirmedInTime (p : ActionProposal π ρ) : Prop :=
  ∃ turn evidence at_, p.confirmationCustomerTurnId = some turn ∧ turn ≠ "" ∧
    turn ≠ p.originatingCustomerTurnId ∧ p.confirmationEvidence = some evidence ∧
    evidence ≠ [] ∧ p.confirmedAt = some at_ ∧ at_ < p.expiresAt

def Presented (p : ActionProposal π ρ) : Prop := ∃ at_, p.presentedAt = some at_

/-- What a committed proposal has behind it. -/
def CommittedProperly (db : ProposalDb β π ρ) : Prop :=
  ∀ p ∈ db.proposals.rows, p.status = .committed → Presented p ∧ ConfirmedInTime p

/-- The handler's effects are committed for committed proposals only. -/
def EffectsCommitted (db : ProposalDb (β × List (Uuid × ρ)) π ρ) : Prop :=
  ∀ entry ∈ db.bank.2, ∃ p ∈ db.proposals.rows, p.id = entry.1 ∧ p.status = .committed

/-- What the columns of a proposal say in each status. -/
structure Attested (p : ActionProposal π ρ) : Prop where
  settled : p.status ≠ .committing
  presented : p.status = .presented → Presented p
  confirmed : p.status = .confirmed ∨ p.status = .committed → Presented p ∧ ConfirmedInTime p

structure Sound (db : ProposalDb (β × List (Uuid × ρ)) π ρ) : Prop where
  attested : ∀ p ∈ db.proposals.rows, Attested p
  effects : EffectsCommitted db

theorem path_of_ended {s t : ProposalStatus} (hs : ¬ s.isActive) (h : ReflTransGen NextStatus s t) :
    t = s := by
  rcases h.cases_head with rfl | ⟨u, hstep, -⟩
  · rfl
  · cases hstep with
    | decline active | expire active | invalidate active => exact absurd active hs
    | _ => exact absurd (by trivial) hs

theorem follows_of_path {p q : ActionProposal π ρ}
    (path : ReflTransGen NextStatus p.status q.status) (payload : q.actionPayload = p.actionPayload)
    (fingerprint : q.payloadFingerprint = p.payloadFingerprint) : Follows p q :=
  ⟨path, fun h => path_of_ended h path, payload, fingerprint⟩

theorem Follows.refl (p : ActionProposal π ρ) : Follows p p :=
  follows_of_path .refl rfl rfl

theorem Follows.trans {p q r : ActionProposal π ρ} (h : Follows p q) (h' : Follows q r) :
    Follows p r :=
  follows_of_path (h.path.trans h'.path) (h'.payload.trans h.payload)
    (h'.fingerprint.trans h.fingerprint)

theorem Started.follow {h : ProposalDigests π ρ} {p q : ActionProposal π ρ} (hp : Started h p)
    (hq : Follows p q) : Started h q :=
  ⟨hp.path.trans hq.path, by rw [hq.fingerprint, hq.payload, hp.fingerprint]⟩

theorem Kept.refl (h : ProposalDigests π ρ) (db : ProposalDb β π ρ) : Kept h db db :=
  ⟨fun p hp => ⟨p, hp, rfl, .refl p⟩, fun q hq => Or.inl ⟨q, hq, rfl⟩⟩

theorem Kept.trans {h : ProposalDigests π ρ} {db₁ db₂ db₃ : ProposalDb β π ρ}
    (h₁ : Kept h db₁ db₂) (h₂ : Kept h db₂ db₃) : Kept h db₁ db₃ := by
  constructor
  · intro p hp
    obtain ⟨q, hq, hpq, hfollows⟩ := h₁.stays p hp
    obtain ⟨r, hr, hqr, hfollows'⟩ := h₂.stays q hq
    exact ⟨r, hr, hqr.trans hpq, hfollows.trans hfollows'⟩
  · intro r hr
    rcases h₂.starts r hr with ⟨q, hq, hqr⟩ | hstart
    · rcases h₁.starts q hq with ⟨p, hp, hpq⟩ | hstart
      · exact Or.inl ⟨p, hp, hpq.trans hqr⟩
      · obtain ⟨r', hr', hid, hfollows⟩ := h₂.stays q hq
        have : r' = r := Table.eq_of_key hr' hr (hid.trans hqr)
        exact Or.inr (hstart.follow (this ▸ hfollows))
    · exact Or.inr hstart

section
variable {D : Decisions π ρ} {p q : ActionProposal π ρ} {stage : Stage}

theorem rowStep_follows (h : RowStep D p stage q) : Follows p q := by
  cases h with
  | presented turn now status =>
    exact follows_of_path (.single (status ▸ .present)) rfl rfl
  | confirmed turn evidence now status =>
    exact follows_of_path (.single (status ▸ .confirm)) rfl rfl
  | declined turn evidence now status =>
    exact follows_of_path (.single (.decline (by simp [status, ProposalStatus.isActive]))) rfl rfl
  | invalidated turn evidence reason now active =>
    exact follows_of_path (.single (.invalidate active)) rfl rfl
  | expired now overdue => exact follows_of_path (.single (.expire overdue.1)) rfl rfl
  | again => exact .refl p

/-- A proposal that ended without a commit has nothing to show. -/
theorem attested_of_unused (hne : q.status ≠ .committing) (hp : q.status ≠ .presented)
    (hc : q.status ≠ .confirmed ∧ q.status ≠ .committed) : Attested q :=
  ⟨hne, fun hs => absurd hs hp, fun hs => hs.elim (absurd · hc.1) (absurd · hc.2)⟩

theorem confirmedBy_inTime {turn : Option String} {evidence : Evidence} {now : Timestamp}
    (status : p.status = .presented) (inTime : ¬ p.Overdue now)
    (later : truthy turn ≠ none ∧ turn ≠ some p.originatingCustomerTurnId)
    (protection : evidence ≠ []) : ConfirmedInTime (p.confirmedBy turn evidence now) := by
  cases turn with
  | none => exact absurd rfl later.1
  | some turn =>
    have hne : turn ≠ "" := by
      rintro rfl
      exact later.1 rfl
    have hlt : now < p.expiresAt := by
      by_contra hle
      exact inTime ⟨by simp [status, ProposalStatus.isActive], not_lt.mp hle⟩
    exact ⟨turn, evidence, now, rfl, hne, fun h => later.2 (congrArg some h), rfl, protection,
      rfl, hlt⟩

theorem rowStep_attested (h : RowStep D p stage q) (hp : Attested p) : Attested q := by
  cases h with
  | presented turn now status =>
    refine ⟨by simp, fun _ => ⟨now, rfl⟩, ?_⟩
    rintro (hs | hs) <;> cases hs
  | confirmed turn evidence now status inTime later protection =>
    refine ⟨by simp, ?_, fun _ => ⟨?_, ?_⟩⟩
    · intro hs
      cases hs
    · exact hp.presented status
    · exact confirmedBy_inTime status inTime later protection
  | declined => exact attested_of_unused (by simp) (by simp) (by simp)
  | invalidated => exact attested_of_unused (by simp) (by simp) (by simp)
  | expired => exact attested_of_unused (by simp) (by simp) (by simp)
  | again => exact hp

end

section
variable {h : ProposalDigests π ρ} {e : Engine β π ρ} {db db' : ProposalDb β π ρ}

theorem advance_kept {p q : ActionProposal π ρ} {stage : Stage}
    (saved : e.advance db stage q = .ok db') (current : db.proposals.get? p.id = some p)
    (hid : q.id = p.id) (hfollows : Follows p q) : Kept h db db' := by
  have hp : p ∈ db.proposals.rows := (Table.get?_eq_some.mp current).1
  have hget : ∀ id, db'.proposals.get? id = if id = p.id then some q else db.proposals.get? id :=
    get?_advance saved current hid
  constructor
  · intro r hr
    have hr' : db.proposals.get? r.id = some r := Table.get?_of_mem hr
    by_cases hrp : r.id = p.id
    · have : r = p := Table.eq_of_key hr hp hrp
      have hq : db'.proposals.get? r.id = some q := by rw [hget, if_pos hrp]
      exact ⟨q, (Table.get?_eq_some.mp hq).1, hid.trans hrp.symm, this ▸ hfollows⟩
    · have hr'' : db'.proposals.get? r.id = some r := by rw [hget, if_neg hrp, hr']
      exact ⟨r, (Table.get?_eq_some.mp hr'').1, rfl, .refl r⟩
  · intro r hr
    rcases mem_advance saved hr with rfl | ⟨hr, -⟩
    · exact Or.inl ⟨p, hp, hid.symm⟩
    · exact Or.inl ⟨r, hr, rfl⟩

theorem insert_kept {p : ActionProposal π ρ} (saved : e.insertProposal db p = .ok db')
    (hstart : Started h p) : Kept h db db' := by
  obtain ⟨t, ht, rfl, -⟩ := insertProposal_eq_ok saved
  constructor
  · exact fun r hr => ⟨r, (Table.mem_insert ht).mpr (Or.inl hr), rfl, .refl r⟩
  · intro r hr
    rcases (Table.mem_insert ht).mp hr with hr | rfl
    · exact Or.inl ⟨r, hr, rfl⟩
    · exact Or.inr hstart

variable {A : Permits β π ρ}

theorem claimed_kept {p q : ActionProposal π ρ} {claimed : ProposalDb β π ρ} {stage : Stage}
    {now : Timestamp} (current : db.proposals.get? p.id = some p) (status : p.status = .confirmed)
    (claim : e.advance db .commitStarted (p.claimedAt now) = .ok claimed)
    {between : ProposalDb β π ρ} (saved : e.advance between stage q = .ok db')
    (same : between.proposals = claimed.proposals) (hid : q.id = p.id)
    (hfollows : Follows (p.claimedAt now) q) : Kept h db db' := by
  have hclaim : Follows p (p.claimedAt now) :=
    follows_of_path (.single (status ▸ .claim)) rfl rfl
  have hget : between.proposals.get? (p.claimedAt now).id = some (p.claimedAt now) := by
    rw [same, get?_advance claim current rfl]
    exact if_pos rfl
  have hfirst : Kept h db between := by
    have := advance_kept (h := h) claim current rfl hclaim
    exact ⟨by rw [same]; exact this.stays, by rw [same]; exact this.starts⟩
  exact hfirst.trans (advance_kept saved hget hid hfollows)

theorem dbStep_kept (hs : DbStep h A db db') : Kept h db db' := by
  cases hs with
  | moved registry clock current locked step saved =>
    exact advance_kept saved current (rowStep_id step) (rowStep_follows step)
  | overtaken registry clock now done reason current locked status inTime claim saved =>
    refine claimed_kept current status claim saved rfl rfl ?_
    exact follows_of_path (.single (.invalidate (by trivial))) rfl rfl
  | @executed claimed _ p executed _ registry clock specification now done result current locked
      status inTime admitted registered claim run saved =>
    have hdone : Follows (p.claimedAt now) ((p.claimedAt now).completedWith result done) :=
      follows_of_path (.single .complete) rfl rfl
    have hkept := claimed_kept (h := h) current status claim saved rfl rfl hdone
    exact ⟨hkept.stays, hkept.starts⟩
  | rejected eventId now operation customerId error attempted generated saved =>
    have hrows := proposals_of_rejection saved
    exact ⟨by rw [hrows]; exact (Kept.refl h db).stays,
      by rw [hrows]; exact (Kept.refl h db).starts⟩
  | inserted registry clock specification v expiresAt saved =>
    exact insert_kept saved ⟨.refl, rfl⟩

theorem path_kept (hs : ReflTransGen (DbStep h A) db db') : Kept h db db' := by
  induction hs with
  | refl => exact .refl h db
  | tail _ hstep ih => exact ih.trans (dbStep_kept hstep)

end

section
variable {h : ProposalDigests π ρ} {D : Decisions π ρ}
  {A : Permits (β × List (Uuid × ρ)) π ρ} {db db' : ProposalDb (β × List (Uuid × ρ)) π ρ}

theorem attested_rows : RowInvariant h D (Attested (π := π) (ρ := ρ)) where
  step := rowStep_attested
  overtaken _ _ := attested_of_unused (by simp) (by simp) (by simp)
  executed hp status _ := ⟨by simp, fun hs => absurd hs (by simp),
    fun _ => hp.confirmed (Or.inl status)⟩
  created status _ := attested_of_unused (by simp [status]) (by simp [status]) (by simp [status])

theorem effects_of_kept (hkept : Kept h db db') (heffects : EffectsCommitted db)
    (hlog : db'.bank.2 = db.bank.2) : EffectsCommitted db' := by
  intro entry hentry
  rw [hlog] at hentry
  obtain ⟨p, hp, hid, hs⟩ := heffects entry hentry
  obtain ⟨q, hq, hpq, hfollows⟩ := hkept.stays p hp
  have hended := hfollows.ended (by simp [hs, ProposalStatus.isActive])
  exact ⟨q, hq, hpq.trans hid, hended.trans hs⟩

theorem dbStep_effects (logs : ∀ g, A.registries g → g.Logs) (hs : DbStep h A db db')
    (heffects : EffectsCommitted db) :
    EffectsCommitted db' := by
  have hkept := dbStep_kept hs
  cases hs with
  | moved registry clock current locked step saved =>
    obtain ⟨-, -, -, hbank, -⟩ := advance_eq_ok saved
    exact effects_of_kept hkept heffects (by rw [hbank])
  | overtaken registry clock now done reason current locked status inTime claim saved =>
    obtain ⟨-, -, -, hbank, -⟩ := advance_eq_ok saved
    obtain ⟨-, -, -, hbank', -⟩ := advance_eq_ok claim
    exact effects_of_kept hkept heffects (by rw [hbank, hbank'])
  | @executed claimed db' p executed bank' registry clock specification now done result
    current locked
      status inTime admitted registered claim run saved =>
    obtain ⟨handler, hhandler⟩ := logs _ admitted _ (forProposal_mem registered)
    rw [hhandler] at run
    intro entry hentry
    change entry ∈ bank'.2 at hentry
    rw [logged_run run, List.mem_append, List.mem_singleton] at hentry
    rcases hentry with hentry | rfl
    · obtain ⟨r, hr, hid, hs⟩ := heffects entry hentry
      obtain ⟨q, hq, hpq, hfollows⟩ := hkept.stays r hr
      exact ⟨q, hq, hpq.trans hid,
        (hfollows.ended (by simp [hs, ProposalStatus.isActive])).trans hs⟩
    · have hget : claimed.proposals.get? p.id = some (p.claimedAt now) := by
        rw [get?_advance claim current rfl, if_pos rfl]
      have hlast := get?_advance (p := p.claimedAt now) saved hget rfl p.id
      exact ⟨_, (Table.get?_eq_some.mp (hlast.trans (if_pos rfl))).1, rfl, rfl⟩
  | rejected eventId now operation customerId error attempted generated saved =>
    obtain ⟨event, outbox, -, -, rfl⟩ := recordRejection_eq_ok saved
    exact effects_of_kept hkept heffects rfl
  | inserted registry clock specification v expiresAt saved =>
    obtain ⟨t, ht, hproposals, hbank, -⟩ := insertProposal_eq_ok saved
    exact effects_of_kept hkept heffects (by rw [hbank])

theorem path_sound (logs : ∀ g, A.registries g → g.Logs)
    (hs : ReflTransGen (DbStep h A) db db') (hsound : Sound db) : Sound db' := by
  refine ⟨attested_rows.path hs hsound.attested, ?_⟩
  have heffects := hsound.effects
  induction hs with
  | refl => exact heffects
  | tail _ hstep ih => exact dbStep_effects logs hstep ih

end

variable {h : ProposalDigests π ρ}

def anyDecision : Permits (β × List (Uuid × ρ)) π ρ :=
  ⟨ActionRegistry.Logs, fun _ => True, fun _ _ _ => True, fun _ => True⟩

theorem confirms_any (e : Engine (β × List (Uuid × ρ)) π ρ)
    (db : ProposalDb (β × List (Uuid × ρ)) π ρ) (call : EngineCall π) :
    Confirms (anyDecision (β := β)).decisions e db call := by
  cases call with
  | confirm => exact fun _ _ _ _ _ => trivial
  | attestDecision => exact fun _ _ _ _ _ _ _ _ _ => trivial
  | _ => trivial

variable [DecidableEq ρ]

theorem call_path (e : EngineEvent β π ρ) {db : ProposalDb (β × List (Uuid × ρ)) π ρ}
    (hsound : Sound db) : ReflTransGen (DbStep h anyDecision) db
      ((calling h).next db e.logged) :=
  perform_path (logs_logged e.registry) (fun _ => trivial)
    (fun p hp => (hsound.attested p hp).settled)
    (confirms_any _ _ _)

theorem run_kept {db : ProposalDb (β × List (Uuid × ρ)) π ρ} (hsound : Sound db)
    (events : List (EngineEvent β π ρ)) :
    Sound ((calling h).final db (events.map EngineEvent.logged)) ∧
      Kept h db ((calling h).final db (events.map EngineEvent.logged)) := by
  induction events generalizing db with
  | nil => exact ⟨hsound, .refl h db⟩
  | cons e events ih =>
    have hpath := call_path (h := h) e hsound
    obtain ⟨hlast, hkept⟩ := ih (path_sound (fun _ hg => hg) hpath hsound)
    exact ⟨hlast, (path_kept hpath).trans hkept⟩

/-- Over any calls, from any two points of the run: a proposal keeps its payload and moves on in
the order of the statuses, never out of a final one; the effects of its handler are committed only
while it is committed; and whatever is committed was presented and confirmed in time. -/
theorem status_order_and_committed_evidence {db : ProposalDb (β × List (Uuid × ρ)) π ρ}
    (start : Sound db) (before after : List (EngineEvent β π ρ)) :
    let run := (calling h).final db
    let earlier := run (before.map EngineEvent.logged)
    let later := run ((before ++ after).map EngineEvent.logged)
    Kept h earlier later ∧ EffectsCommitted later ∧ CommittedProperly later := by
  intro run earlier later
  have hearlier := (run_kept (h := h) start before).1
  have hlater : later = (calling h).final earlier (after.map EngineEvent.logged) := by
    change (calling h).final db _ = (calling h).final ((calling h).final db _) _
    rw [List.map_append, Machine.final_append]
  obtain ⟨hsound, hkept⟩ := run_kept (h := h) hearlier after
  rw [hlater]
  exact ⟨hkept, hsound.effects,
    fun p hp hs => (hsound.attested p hp).confirmed (Or.inr hs)⟩

def reissued : List (EngineEvent ℕ String Bool) :=
  [reissueCall 1 (.create (reissueValues "key-1" 1)),
    reissueCall 2 (.attestDecision (.ofNat 1) (acceptedOn "turn-2" "turn-3")),
    reissueCall 3 (.executeRegisteredCommit (.ofNat 1) reissueCommit)]

theorem reissueStore_sound : Sound (reissueStore ((0, []) : ℕ × List (Uuid × Bool))) :=
  ⟨fun _ hp => absurd hp List.not_mem_nil, fun _ hid => absurd hid List.not_mem_nil⟩

theorem reissued_in_order :
    let run := (calling reissueDigests).final (reissueStore ((0, []) : ℕ × List (Uuid × Bool)))
    let later := run (([] ++ reissued).map EngineEvent.logged)
    (Kept reissueDigests (run ([].map EngineEvent.logged)) later ∧ EffectsCommitted later ∧
      CommittedProperly later) ∧
      later.bank = (1, [(.ofNat 1, true)]) ∧
        later.proposals.rows.map (fun p => p.status) = [.committed] :=
  ⟨status_order_and_committed_evidence reissueStore_sound [] reissued, by decide +kernel,
    by decide +kernel⟩

end BankingService.ProposalStatusOrder
