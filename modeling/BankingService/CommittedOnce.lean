import BankingService.ProposalSessions
import BankingService.ProposalCalls

/-! Exactly-once effects of the registered handlers under concurrent requests: the log of their
executions lists every committed proposal once, with the result that later commits return. -/
namespace BankingService.CommittedOnce

open Python Relational Checked Relation Runs ReadCommitted

variable {β π ρ ι : Type}

/-- The committed executions of handlers are those of the committed proposals, each once, with the
result that is stored for it. -/
structure EffectsOnce (db : ProposalDb (β × List (Uuid × ρ)) π ρ) : Prop where
  once : (db.bank.2.map Prod.fst).Nodup
  committed : ∀ entry ∈ db.bank.2, ∃ p ∈ db.proposals.rows, p.id = entry.1 ∧
    p.status = .committed ∧ p.resultPayload = some entry.2
  executed : ∀ p ∈ db.proposals.rows, p.status = .committed → ∃ r, (p.id, r) ∈ db.bank.2

section
variable {h : ProposalDigests π ρ} {A : Permits β π ρ} {D : Decisions π ρ}
  {db db' : ProposalDb β π ρ} {p q : ActionProposal π ρ}

theorem rowStep_to_committed {stage : Stage} (hstep : RowStep D p stage q)
    (hq : q.status = .committed) : q = p := by
  cases hstep with
  | again => rfl
  | _ => simp at hq

theorem dbStep_committed (hs : DbStep h A db db') {id : Uuid}
    (hp : db.proposals.get? id = some p) (status : p.status = .committed) :
    db'.proposals.get? id = some p := by
  cases hs with
  | @moved _ r s stage registry clock current locked step saved =>
    rw [get?_advance saved current (rowStep_id step)]
    by_cases hid : id = r.id
    · subst hid
      rw [current] at hp
      cases hp
      rw [if_pos rfl, rowStep_of_ended step (by simp [status, ProposalStatus.isActive])]
    · rw [if_neg hid]
      exact hp
  | @overtaken _ _ r registry clock now done reason current locked confirmed inTime claim saved =>
    have hne : id ≠ r.id := by
      rintro rfl
      rw [current] at hp
      cases hp
      simp [status] at confirmed
    rw [get?_claimed claim saved current rfl rfl, if_neg hne]
    exact hp
  | @executed _ _ r _ _ registry clock specification now done result current locked confirmed
      inTime admitted registered claim run saved =>
    have hne : id ≠ r.id := by
      rintro rfl
      rw [current] at hp
      cases hp
      simp [status] at confirmed
    have hlast := get?_claimed claim saved current rfl rfl id
    rw [if_neg hne] at hlast
    exact hlast.trans hp
  | rejected eventId now operation customerId e attempted generated saved =>
    rw [proposals_of_rejection saved]
    exact hp
  | inserted registry clock specification v expiresAt saved =>
    obtain ⟨t, ht, hproposals, -⟩ := insertProposal_eq_ok saved
    rw [hproposals]
    exact Table.get?_insert_of_some ht hp

end

section
variable {h : ProposalDigests π ρ} {A : Permits (β × List (Uuid × ρ)) π ρ}
  {db db' : ProposalDb (β × List (Uuid × ρ)) π ρ}

/-- Where no row becomes committed and none is executed, everything stays matched. -/
theorem effectsOnce_of_same (hdb : EffectsOnce db) (log : db'.bank.2 = db.bank.2)
    (stays : ∀ p, p.status = .committed → (p ∈ db'.proposals.rows ↔ p ∈ db.proposals.rows)) :
    EffectsOnce db' := by
  constructor
  · rw [log]
    exact hdb.once
  · intro entry hentry
    rw [log] at hentry
    obtain ⟨p, hp, hid, status, hresult⟩ := hdb.committed entry hentry
    exact ⟨p, (stays p status).mpr hp, hid, status, hresult⟩
  · intro p hp status
    rw [log]
    exact hdb.executed p ((stays p status).mp hp) status

theorem committed_replaced {db db' : ProposalDb β π ρ} {p q : ActionProposal π ρ}
    (current : db.proposals.get? p.id = some p)
    (hget : ∀ id, db'.proposals.get? id = if id = p.id then some q else db.proposals.get? id)
    (hid : q.id = p.id) (same : (p.status = .committed ∨ q.status = .committed) → q = p)
    (r : ActionProposal π ρ) (hr : r.status = .committed) :
    r ∈ db'.proposals.rows ↔ r ∈ db.proposals.rows := by
  have hp : p ∈ db.proposals.rows := (Table.get?_eq_some.mp current).1
  rw [mem_replaced hget hid]
  constructor
  · rintro (rfl | ⟨h, -⟩)
    · rw [same (Or.inr hr)]
      exact hp
    · exact h
  · intro h
    by_cases hrp : r.id = p.id
    · obtain rfl : r = p := Table.eq_of_key h hp hrp
      exact Or.inl (same (Or.inl hr)).symm
    · exact Or.inr ⟨h, hrp⟩

theorem dbStep_effectsOnce (logs : ∀ g, A.registries g → g.Logs) (hs : DbStep h A db db')
    (hdb : EffectsOnce db) : EffectsOnce db' := by
  cases hs with
  | moved registry clock current locked step saved =>
    obtain ⟨t, -, -, hbank, -⟩ := advance_eq_ok saved
    refine effectsOnce_of_same hdb (by rw [hbank]) ?_
    have hget := get?_advance saved current (rowStep_id step)
    refine committed_replaced current hget (rowStep_id step) ?_
    rintro (hp | hq)
    · exact rowStep_of_ended step (by simp [hp, ProposalStatus.isActive])
    · exact rowStep_to_committed step hq
  | overtaken registry clock now done reason current locked confirmed inTime claim saved =>
    obtain ⟨t, -, -, hbank, -⟩ := advance_eq_ok saved
    obtain ⟨t', -, -, hbank', -⟩ := advance_eq_ok claim
    refine effectsOnce_of_same hdb (by rw [hbank, hbank']) ?_
    have hget := get?_claimed claim saved current rfl rfl
    refine committed_replaced current hget rfl ?_
    rintro (hp | hq)
    · rw [confirmed] at hp
      cases hp
    · cases hq
  | @executed claimed saved' p executed bank' registry clock specification now done result current
      locked confirmed inTime admitted registered claim run saved =>
    have hp := (Table.get?_eq_some.mp current).1
    have hget := get?_claimed claim saved current rfl rfl
    have hmem := mem_replaced hget rfl
    obtain ⟨handler, hhandler⟩ := logs _ admitted _ (forProposal_mem registered)
    rw [hhandler] at run
    have hlog := logged_run run
    change bank'.2 = db.bank.2 ++ [(p.id, result)] at hlog
    -- the log has no entry of a proposal that is only confirmed
    have hnew : p.id ∉ db.bank.2.map Prod.fst := by
      intro hin
      obtain ⟨entry, hentry, hid⟩ := List.mem_map.mp hin
      obtain ⟨r, hr, hrid, status, -⟩ := hdb.committed entry hentry
      rw [Table.eq_of_key hr hp (hrid.trans hid), confirmed] at status
      cases status
    constructor
    · change (bank'.2.map Prod.fst).Nodup
      rw [hlog, List.map_append, List.map_singleton]
      exact (List.perm_append_singleton _ _).nodup_iff.mpr (List.nodup_cons.mpr ⟨hnew, hdb.once⟩)
    · intro entry hentry
      change entry ∈ bank'.2 at hentry
      rw [hlog, List.mem_append, List.mem_singleton] at hentry
      rcases hentry with hentry | rfl
      · obtain ⟨r, hr, hid, status, hresult⟩ := hdb.committed entry hentry
        refine ⟨r, (hmem r).mpr (Or.inr ⟨hr, fun hrp => ?_⟩), hid, status, hresult⟩
        exact hnew (List.mem_map.mpr ⟨entry, hentry, hid.symm.trans hrp⟩)
      · exact ⟨_, (hmem _).mpr (Or.inl rfl), rfl, rfl, rfl⟩
    · intro r hr status
      change ∃ x, (r.id, x) ∈ bank'.2
      rw [hlog]
      rcases (hmem r).mp hr with rfl | ⟨hr, -⟩
      · exact ⟨result, List.mem_append.mpr (Or.inr (List.mem_singleton.mpr rfl))⟩
      · obtain ⟨x, hx⟩ := hdb.executed r hr status
        exact ⟨x, List.mem_append.mpr (Or.inl hx)⟩
  | rejected eventId now operation customerId e attempted generated saved =>
    obtain ⟨event, outbox, -, -, rfl⟩ := recordRejection_eq_ok saved
    exact effectsOnce_of_same hdb rfl fun _ _ => Iff.rfl
  | inserted registry clock specification v expiresAt saved =>
    obtain ⟨t, ht, hproposals, hbank, -⟩ := insertProposal_eq_ok saved
    refine effectsOnce_of_same hdb (by rw [hbank]) ?_
    intro r hr
    rw [hproposals, Table.mem_insert ht]
    constructor
    · rintro (h | rfl)
      · exact h
      · cases hr
    · exact Or.inl

end

section
variable {h : ProposalDigests (BoundPayload π) ρ} {db db' : ProposalDb β (BoundPayload π) ρ}
  {c : ServiceCall β π ρ ι} {p : ActionProposal (BoundPayload π) ρ}

/-- A request to commit the stored proposal `p`: by its customer, in its scope, and with evidence
of a decision that its policy accepts. -/
structure InScope (h : ProposalDigests (BoundPayload π) ρ) (db : ProposalDb β (BoundPayload π) ρ)
    (c : ServiceCall β π ρ ι) (p : ActionProposal (BoundPayload π) ρ) : Prop where
  commits : ∃ expected, c.operation = .commit p.id expected ∧
    expected.getD p.actionType = p.actionType
  customer : c.resolveCustomerId db = .ok p.scope.customerId
  scope : c.scopeOf p.scope.customerId = p.scope
  evidence : ∃ v, (c.engine h).validateDecisionEvidence p c.context = .ok v

def storedResult (p : ActionProposal (BoundPayload π) ρ) :
    Except ServiceError (ServiceAnswer π ρ) :=
  .ok (.commit (proposalResult p true))

def Replaying (p : ActionProposal (BoundPayload π) ρ) (t : ServiceStage β π ρ ι) : Prop :=
  t = .start ∨ t = .resolved p.scope.customerId ∨ t = .held p.scope.customerId p

theorem InScope.later (hc : InScope h db c p) (users : db'.users = db.users) :
    InScope h db' c p :=
  ⟨hc.commits, by rw [resolveCustomerId_congr users]; exact hc.customer, hc.scope, hc.evidence⟩

/-- How many statements are left to such a request. -/
def statementsLeft : ServiceStage β π ρ ι → ℕ
  | .start => 3
  | .resolved _ => 2
  | _ => 1

theorem observe_replaying (hc : InScope h db c p) (current : db.proposals.get? p.id = some p)
    {t : ServiceStage β π ρ ι} (ht : Replaying p t) (hread : ∀ rows, c.action t ≠ .run rows) :
    Replaying p (c.observe h db t) ∧
      statementsLeft (c.observe h db t) + 1 = statementsLeft t := by
  obtain ⟨expected, hop, -⟩ := hc.commits
  rcases ht with rfl | rfl | rfl
  · have hbegin : c.begin db = .ok (.resolved p.scope.customerId) := by
      simp only [ServiceCall.begin, ServiceCall.checkArguments, hop, hc.customer]
      rfl
    have hobserve : c.observe h db .start = .resolved p.scope.customerId := by
      simp only [ServiceCall.observe, hbegin, ServiceStage.after]
    rw [hobserve]
    exact ⟨Or.inr (Or.inl rfl), rfl⟩
  · have hlock : ServiceCall.lockProposal (β := β) (ι := ι) db p.scope.customerId p.id =
        .ok (.held p.scope.customerId p) := by
      simp only [ServiceCall.lockProposal, getLocked, current]
      rfl
    have hobserve : c.observe h db (.resolved p.scope.customerId) =
        .held p.scope.customerId p := by
      simp only [ServiceCall.observe, hop, hlock, ServiceStage.after]
    rw [hobserve]
    exact ⟨Or.inr (Or.inr rfl), rfl⟩
  · exact absurd rfl (hread [])

variable [DecidableEq ρ]

theorem commit_of_committed (hc : InScope h db c p) (status : p.status = .committed)
    {expected : Option String} (htype : expected.getD p.actionType = p.actionType) :
    c.commitForIdentity h db p.scope.customerId p expected =
      .leave (.ok (proposalResult p true)) := by
  obtain ⟨v, hv⟩ := hc.evidence
  have hspec : ∃ s, c.catalog.registry.forProposal p = .ok s := by
    simp only [Engine.validateDecisionEvidence, bind_eq_ok] at hv
    obtain ⟨s, hs, -⟩ := hv
    exact ⟨s, hs⟩
  obtain ⟨s, hs⟩ := hspec
  have hscope : p.validateScope (c.scopeOf p.scope.customerId) p.actionType = .ok () :=
    validateScope_eq_ok.mpr ⟨hc.scope.symm, rfl⟩
  have hattest : p.attest v c.clock.presenting c.clock.confirming = .ok ⟨p, []⟩ := by
    unfold ActionProposal.attest
    rw [if_neg (by simp [status])]
    exact if_neg (by simp [status])
  have hdecision : (c.engine h).attestDecision db p c.context = .ok (db, p) := by
    unfold Engine.attestDecision
    rw [hv]
    change (do
      let m ← raised .proposal (p.attest v c.clock.presenting c.clock.confirming)
      let db ← (c.engine h).advanceAll db m.recorded
      return (db, m.proposal)) = _
    rw [hattest]
    rfl
  have hclaim : p.claimCommit ⟨c.scopeOf p.scope.customerId, c.context.resetGeneration,
      p.actionType⟩ (c.engine h).clock.claiming = .held := by
    unfold ActionProposal.claimCommit
    rw [hscope]
    exact if_pos (Or.inl status)
  simp only [ServiceCall.commitForIdentity, htype, hscope]
  have hattested : (do
      raised ServiceError.proposal (Except.ok ())
      (c.engine h).attestDecision db p c.context) = .ok (db, p) := hdecision
  rw [hattested]
  change (c.engine h).executeRegisteredCommit db p _ = _
  unfold Engine.executeRegisteredCommit
  rw [show (c.engine h).registry.forProposal p = .ok s from hs]
  dsimp only
  rw [hclaim]
  exact if_pos status

theorem body_replaying (hc : InScope h db c p) (status : p.status = .committed)
    {t : ServiceStage β π ρ ι} (ht : Replaying p t) {rows : List ServiceLock}
    (hrun : c.action t = .run rows) : c.body h db t = .finish db (storedResult p) := by
  obtain ⟨expected, hop, htype⟩ := hc.commits
  rcases ht with rfl | rfl | rfl
  · cases hrun
  · simp only [ServiceCall.action, hop, ServiceOperation.proposalId] at hrun
    cases hrun
  · simp only [ServiceCall.body, hop, commit_of_committed hc status htype]
    rfl

end

def logged : ServicePermits (β × List (Uuid × ρ)) π ρ := ⟨ActionRegistry.Logs, fun _ => True⟩

theorem writes_committed {h : ProposalDigests (BoundPayload π) ρ}
    {G : ServicePermits β π ρ} {rows : Uuid → Prop}
    {db db' : ProposalDb β (BoundPayload π) ρ} {p : ActionProposal (BoundPayload π) ρ}
    (hw : Writes h G rows db db') (current : db.proposals.get? p.id = some p)
    (status : p.status = .committed) :
    db'.proposals.get? p.id = some p ∧ db'.users = db.users := by
  rcases hw with hpath | ⟨retained, checkpoint, rfl⟩
  · induction hpath with
    | refl => exact ⟨current, rfl⟩
    | tail _ hstep ih =>
      exact ⟨dbStep_committed hstep ih.1 status, (dbStep_users hstep).trans ih.2⟩
  · rw [proposals_of_prune]
    cases checkpoint <;> exact ⟨current, rfl⟩

section
variable {h : ProposalDigests (BoundPayload π) ρ} {G : ServicePermits β π ρ}
  {κ : Type} [DecidableEq κ] [DecidableEq ρ] {i : κ} {c : ServiceCall β π ρ ι}
  {p : ActionProposal (BoundPayload π) ρ}

/-- The row is committed, and session `i`, while it is open, serves the request to commit it. -/
structure Serving (h : ProposalDigests (BoundPayload π) ρ)
    (G : ServicePermits β π ρ) (i : κ) (c : ServiceCall β π ρ ι)
    (p : ActionProposal (BoundPayload π) ρ) (w : ActionWorld κ β π ρ ι) : Prop where
  informed : ServiceInformed G w
  current : w.db.proposals.get? p.id = some p
  inScope : InScope h w.db c p
  session : ∀ s, w.session i = some s → ∃ t, s = ⟨.call c, t⟩ ∧ Replaying p t

/-- The session executes nothing, and answers with the stored result when it ends. -/
def ReturnsStored (h : ProposalDigests (BoundPayload π) ρ) (i : κ) (c : ServiceCall β π ρ ι)
    (p : ActionProposal (BoundPayload π) ρ) (w : ActionWorld κ β π ρ ι)
    (e : ActionEvent κ β π ρ ι) : Prop :=
  e = .step i → w.session i ≠ none →
    (next (proposalService h) w e).db = w.db ∧
      ((next (proposalService h) w e).session i ≠ none ∨
        (next (proposalService h) w e).answers = w.answers ++ [(.call c, storedResult p)])

omit [DecidableEq ρ] in
theorem serving_of_change {w v : ActionWorld κ β π ρ ι} {j : κ}
    {o : Option (ServiceSession β π ρ ι)}
    (hw : Serving h G i c p w) (informed : ServiceInformed G v)
    (row : v.db.proposals.get? p.id = some p ∧ v.db.users = w.db.users)
    (hv : v.session = Function.update w.session j o)
    (own : j = i → ∀ s, o = some s → ∃ t, s = ⟨.call c, t⟩ ∧ Replaying p t) :
    Serving h G i c p v := by
  refine ⟨informed, row.1, hw.inScope.later row.2, ?_⟩
  intro s hs
  rw [hv] at hs
  by_cases hij : i = j
  · subst hij
    rw [Function.update_self] at hs
    exact own rfl s hs
  · rw [Function.update_of_ne hij] at hs
    exact hw.session s hs

/-- A statement of the session writes nothing: it is one statement further, or it has answered. -/
theorem serving_step (status : p.status = .committed) {w : ActionWorld κ β π ρ ι}
    (hw : Serving h G i c p w)
    (he : Enabled (proposalService h) (ServiceRequest.Uses G) w (.step i)) :
    let v := next (proposalService h) w (.step i)
    v.db = w.db ∧ ∃ t, w.session i = some ⟨.call c, t⟩ ∧
      ((∃ t', v.session i = some ⟨.call c, t'⟩ ∧ Replaying p t' ∧
          statementsLeft t' + 1 = statementsLeft t) ∨
        (v.session i = none ∧ v.answers = w.answers ++ [(.call c, storedResult p)])) := by
  intro v
  obtain ⟨j, r, hj, -⟩ | ⟨j, s, hj, -⟩ | ⟨j, s, hj, hs, ha, hnext⟩ |
    ⟨j, s, k, hj, hs, ha, -, hnext⟩ | ⟨j, s, db, a, hj, ⟨hs, rows, ha⟩, hbody, hnext⟩ |
    ⟨j, s, db, t', hj, ⟨hs, rows, ha⟩, hbody, hnext⟩ := step_cases he
  all_goals cases hj
  all_goals obtain ⟨t, rfl, ht⟩ := hw.session s hs
  · have hread := observe_replaying hw.inScope hw.current ht fun rows hrun => by
      rw [show c.action t = .read from ha] at hrun; cases hrun
    rw [show v = _ from hnext]
    exact ⟨rfl, t, hs, Or.inl ⟨_, Function.update_self .., hread⟩⟩
  · have hread := observe_replaying hw.inScope hw.current ht fun rows hrun => by
      rw [show c.action t = .lock k from ha] at hrun; cases hrun
    rw [show v = _ from hnext]
    exact ⟨rfl, t, hs, Or.inl ⟨_, Function.update_self .., hread⟩⟩
  · have hfinish := body_replaying hw.inScope status ht ha
    rw [show c.body h w.db t = .finish db a from hbody] at hfinish
    cases hfinish
    rw [show v = _ from hnext]
    exact ⟨rfl, t, hs, Or.inr ⟨Function.update_self .., rfl⟩⟩
  · have hfinish := body_replaying hw.inScope status ht ha
    rw [show c.body h w.db t = .resume db t' from hbody] at hfinish
    cases hfinish

theorem serving_next (status : p.status = .committed) {w : ActionWorld κ β π ρ ι}
    {e : ActionEvent κ β π ρ ι} (hw : Serving h G i c p w)
    (he : Enabled (proposalService h) (ServiceRequest.Uses G) w e) (hne : ∀ r, e ≠ .start i r) :
    Serving h G i c p (next (proposalService h) w e) := by
  have informed := event_informed hw.informed he
  have row := writes_committed (event_writes hw.informed he) hw.current status
  cases e with
  | start j r =>
    refine serving_of_change hw informed row rfl ?_
    rintro rfl
    exact absurd rfl (hne r)
  | fail j => exact serving_of_change hw informed row rfl fun _ _ ho => by cases ho
  | step j =>
    obtain ⟨o, hnext⟩ := session_next he
    refine serving_of_change hw informed row hnext ?_
    rintro rfl s rfl
    obtain ⟨-, t, -, ⟨t', hgoes, hreplaying, -⟩ | ⟨hends, -⟩⟩ := serving_step status hw he
    · rw [hnext, Function.update_self] at hgoes
      exact ⟨t', Option.some.inj hgoes, hreplaying⟩
    · rw [hnext, Function.update_self] at hends
      cases hends

/-- The statements of session `i` in a run. -/
def ownSteps (i : κ) (es : List (ActionEvent κ β π ρ ι)) : ℕ :=
  es.countP fun
    | .step j => decide (j = i)
    | _ => false

omit [DecidableEq ρ] in
theorem ownSteps_append (i : κ) (es fs : List (ActionEvent κ β π ρ ι)) :
    ownSteps i (es ++ fs) = ownSteps i es + ownSteps i fs := List.countP_append

/-- After `n` statements session `i` has the rest of three before it, or has answered. -/
def Progress (i : κ) (c : ServiceCall β π ρ ι) (p : ActionProposal (BoundPayload π) ρ) (n : ℕ)
    (w : ActionWorld κ β π ρ ι) : Prop :=
  (∃ t, w.session i = some ⟨.call c, t⟩ ∧ n + statementsLeft t = 3) ∨
    (.call c, storedResult p) ∈ w.answers

omit [DecidableEq ρ] in
theorem progress_of_other {w v : ActionWorld κ β π ρ ι} {j : κ}
    {o : Option (ServiceSession β π ρ ι)}
    {n : ℕ} (hp : Progress i c p n w) (hv : v.session = Function.update w.session j o) (hj : j ≠ i)
    (answers : ∀ a ∈ w.answers, a ∈ v.answers) : Progress i c p n v := by
  refine hp.imp ?_ (answers _)
  rintro ⟨t, hs, hrest⟩
  refine ⟨t, ?_, hrest⟩
  rw [hv, Function.update_of_ne hj.symm, hs]

theorem progress_step (status : p.status = .committed) {w : ActionWorld κ β π ρ ι} {n : ℕ}
    (hw : Serving h G i c p w)
    (he : Enabled (proposalService h) (ServiceRequest.Uses G) w (.step i))
    (hp : Progress i c p n w) : Progress i c p (n + 1) (next (proposalService h) w (.step i)) := by
  rcases hp with ⟨t, hs, hn⟩ | hanswered
  · obtain ⟨-, s, hs', ⟨t', hgoes, -, hless⟩ | ⟨-, hanswers⟩⟩ := serving_step status hw he
    · rw [hs] at hs'
      cases hs'
      exact Or.inl ⟨t', hgoes, by omega⟩
    · right
      rw [hanswers]
      exact List.mem_append_right _ (List.mem_singleton.mpr rfl)
  · exact Or.inr (answers_next he hanswered)

theorem progress_next (status : p.status = .committed) {w : ActionWorld κ β π ρ ι}
    {e : ActionEvent κ β π ρ ι} {n : ℕ} (hw : Serving h G i c p w)
    (he : Enabled (proposalService h) (ServiceRequest.Uses G) w e) (hne : ∀ r, e ≠ .start i r)
    (hfail : e ≠ .fail i) (hp : Progress i c p n w) :
    Progress i c p (n + ownSteps i [e]) (next (proposalService h) w e) := by
  have hanswers : ∀ a ∈ w.answers, a ∈ (next (proposalService h) w e).answers :=
    fun a ha => answers_next he ha
  cases e with
  | start j r =>
    refine progress_of_other hp rfl ?_ hanswers
    rintro rfl
    exact hne r rfl
  | fail j =>
    refine progress_of_other hp rfl ?_ hanswers
    rintro rfl
    exact hfail rfl
  | step j =>
    by_cases hij : j = i
    · subst hij
      simpa [ownSteps] using progress_step status hw he hp
    · obtain ⟨o, hnext⟩ := session_next he
      simpa [ownSteps, hij] using progress_of_other hp hnext hij hanswers

theorem serving_returns (status : p.status = .committed) {w : ActionWorld κ β π ρ ι}
    {e : ActionEvent κ β π ρ ι} (hw : Serving h G i c p w)
    (he : Enabled (proposalService h) (ServiceRequest.Uses G) w e) : ReturnsStored h i c p w e := by
  rintro rfl -
  obtain ⟨hdb, t, -, ⟨t', hgoes, -⟩ | ⟨-, hanswers⟩⟩ := serving_step status hw he
  · exact ⟨hdb, Or.inl (by simp [hgoes])⟩
  · exact ⟨hdb, Or.inr hanswers⟩

end

section
variable {h : ProposalDigests (BoundPayload π) ρ}

theorem writes_effectsOnce {rows : Uuid → Prop}
    {db db' : ProposalDb (β × List (Uuid × ρ)) (BoundPayload π) ρ}
    (hw : Writes h logged rows db db') (hdb : EffectsOnce db) : EffectsOnce db' := by
  rcases hw with hpath | ⟨retained, checkpoint, rfl⟩
  · induction hpath with
    | refl => exact hdb
    | tail _ hstep ih => exact dbStep_effectsOnce (fun _ hg => hg) hstep ih
  · have hsame : (pruneHistoricalAuditEvents db retained checkpoint).proposals = db.proposals :=
      proposals_of_prune
    refine effectsOnce_of_same hdb ?_ fun r _ => by rw [hsame]
    cases checkpoint <;> rfl

variable {κ : Type} [DecidableEq κ] [DecidableEq ρ]

abbrev ReissueEvent := ActionEvent ℕ (ℕ × List (Uuid × Bool)) String Bool String

/-- A request to commit the reissue, made at `now`. -/
def reissueCommitCall (now : Timestamp) : ServiceCall (ℕ × List (Uuid × Bool)) String Bool String :=
  reissueRequest reissueRegistry.logged now now (acceptedOn "turn-2" "turn-3")
    (.commit (.ofNat 1) none)

def reissueCommitted : List ReissueEvent :=
  .start 0 (.call (reissueRequest reissueRegistry.logged 1 1 (askedOn "turn-1") reissuePlaybook)) ::
    List.replicate 12 (.step 0) ++ .start 0 (.call (reissueCommitCall 2)) ::
    List.replicate 3 (.step 0)

def reissueRetried : List ReissueEvent :=
  [.step 1, .start 2 (.call (reissueCommitCall 4)), .step 2, .step 1, .step 1, .step 2]

def reissueWorld : ActionWorld ℕ (ℕ × List (Uuid × Bool)) String Bool String :=
  World.quiet (reissueServiceStore (0, []))

def reissueService : Machine (ActionWorld ℕ (ℕ × List (Uuid × Bool)) String Bool String)
    ReissueEvent :=
  machine (proposalService reissueServiceDigests) (ServiceRequest.Uses logged)

/-- The whole run, with the retry that the theorem speaks of. -/
def reissueRun : List ReissueEvent :=
  reissueCommitted ++ .start 1 (.call (reissueCommitCall 3)) :: reissueRetried

theorem reissueRun_runs : reissueService.Run reissueWorld reissueRun := by
  refine run_of_admitted (by decide +kernel) ?_
  intro i r hr
  simp only [reissueRun, reissueCommitted, reissueRetried, List.cons_append, List.mem_cons,
    List.mem_append, List.mem_replicate, List.not_mem_nil, Event.start.injEq, reduceCtorEq,
    and_false, or_false, false_or] at hr
  rcases hr with ⟨-, rfl⟩ | ⟨-, rfl⟩ | ⟨-, rfl⟩ | ⟨-, rfl⟩
  all_goals exact ⟨logs_logged _, trivial⟩

def reissuedRow : ActionProposal (BoundPayload String) Bool :=
  ((reissueService.final reissueWorld reissueCommitted).db.proposals.get? (.ofNat 1)).get
    (by decide +kernel)

end

end BankingService.CommittedOnce
