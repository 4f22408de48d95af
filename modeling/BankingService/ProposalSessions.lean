import BankingService.ProposalCalls
import BankingService.ProposalService

/-! Sessions of the proposal service: the rows that one has locked, what it knows about them, and
that each of its runs of writes takes steps on these rows only. -/
namespace BankingService

open Python Relational Checked Relation ReadCommitted

variable {β π ρ ι : Type}

section
variable {π ρ : Type} {D : Decisions π ρ} {p q : ActionProposal π ρ}

theorem rowStep_settled {stage : Stage} (h : RowStep D p stage q) (hp : p.status ≠ .committing) :
    q.status ≠ .committing := by
  cases h with
  | again => exact hp
  | _ => simp

theorem chain_settled {moves : List (Stage × ActionProposal π ρ)} (h : Chain D p moves q)
    (hp : p.status ≠ .committing) : q.status ≠ .committing := by
  induction h with
  | nil => exact hp
  | cons step _ ih => exact ih (rowStep_settled step hp)

/-- A committed state has no proposal in the middle of a commit. -/
def AllSettled (db : ProposalDb β π ρ) : Prop :=
  ∀ p ∈ db.proposals.rows, p.status ≠ .committing

theorem settled_rows (h : ProposalDigests π ρ) :
    RowInvariant h D (fun p => p.status ≠ .committing) where
  step := rowStep_settled
  overtaken _ _ := by simp
  executed _ _ _ := by simp
  created status _ := by simp [status]

end

section
variable {h : ProposalDigests (BoundPayload π) ρ} {A : Permits β (BoundPayload π) ρ}
  {c : ServiceCall β π ρ ι} {db db' : ProposalDb β (BoundPayload π) ρ}
  {p : ActionProposal (BoundPayload π) ρ} {customer : Uuid}

/-- Any decision may confirm a row. -/
def Permits.Undecided (A : Permits β π ρ) : Prop := ∀ p turn evidence, A.decisions p turn evidence

theorem attestDecision_path (undecided : A.Undecided)
    (current : db.proposals.get? p.id = some p) (locked : A.rows p.id)
    {q : ActionProposal (BoundPayload π) ρ} {context : ProposalRuntimeContext}
    (he : (c.engine h).attestDecision db p context = .ok (db', q)) :
    ReflTransGen (DbStep h A) db db' ∧ db'.proposals.get? q.id = some q ∧ q.id = p.id ∧
      (p.status ≠ .committing → q.status ≠ .committing) := by
  simp only [Engine.attestDecision, bind_eq_ok, raised_eq_ok, pure_eq_ok] at he
  obtain ⟨evidence, -, m, hm, saved, hsaved, hpair⟩ := he
  cases hpair
  have hchain := attest_chain hm fun q _ _ _ _ => undecided q _ _
  obtain ⟨hpath, hget, hid⟩ := advanceAll_path current locked hchain hsaved
  exact ⟨hpath, by rw [hid]; exact hget, hid, chain_settled hchain⟩

theorem commitForIdentity_path [DecidableEq ρ] (undecided : A.Undecided)
    (admitted : A.registries c.catalog.registry) (current : db.proposals.get? p.id = some p)
    (locked : A.rows p.id) (settled : p.status ≠ .committing) {expected : Option String}
    {answer : Except ServiceError (CommitAnswer ρ)}
    (he : c.commitForIdentity h db customer p expected = .commit db' answer) :
    ReflTransGen (DbStep h A) db db' := by
  simp only [ServiceCall.commitForIdentity] at he
  split at he
  · cases he
  · next mid q hattest =>
    simp only [bind_eq_ok, raised_eq_ok] at hattest
    obtain ⟨-, -, hattest⟩ := hattest
    obtain ⟨hpath, hget, hid, hstays⟩ := attestDecision_path undecided current locked hattest
    refine hpath.tail ?_
    exact executeRegisteredCommit_path admitted hget (by rw [hid]; exact locked) (hstays settled) he

/-- What a decision makes of an open row: it is presented where it was not, then ended. -/
theorem applyDecision_chain {D : Decisions (BoundPayload π) ρ}
    {evidence : ValidatedRuntimeEvidence} {decision : NonCommitDecision}
    {m : Moved (BoundPayload π) ρ} (h : c.applyDecision p evidence decision = .ok m)
    (hopen : ¬ (p.status = .declined ∨ p.status = .invalidated)) :
    Chain D p m.recorded m.proposal := by
  have hd : p.status ≠ .declined := fun h => hopen (Or.inl h)
  have hi : p.status ≠ .invalidated := fun h => hopen (Or.inr h)
  unfold ServiceCall.applyDecision at h
  cases decision with
  | decline =>
    obtain ⟨-, ⟨hs, -⟩ | ⟨hs, rfl⟩⟩ := decline_eq_ok.mp h
    · exact absurd hs hd
    · exact .single (.declined _ _ _ hs)
  | revise | cancel =>
    obtain ⟨hs, -⟩ | ⟨⟨hs, -⟩, rfl⟩ := invalidate_eq_ok.mp h
    · exact absurd hs hi
    · exact .single (.invalidated _ _ _ _ hs)

theorem presentForDecision_chain {D : Decisions (BoundPayload π) ρ}
    {evidence : ValidatedRuntimeEvidence} {m : Moved (BoundPayload π) ρ}
    (h : c.presentForDecision p evidence = .ok m) : Chain D p m.recorded m.proposal := by
  simp only [ServiceCall.presentForDecision, bind_eq_ok, raised_eq_ok, pure_eq_ok] at h
  obtain ⟨m', hm, -, -, -, -, rfl⟩ := h
  by_cases hs : p.status = .proposed
  · rw [if_pos hs] at hm
    exact markPresented_chain hm
  · rw [if_neg hs] at hm
    cases hm
    exact .nil

theorem decideForIdentity_path (current : db.proposals.get? p.id = some p) (locked : A.rows p.id)
    {decision : NonCommitDecision} {answer : Except ServiceError (ServiceAnswer π ρ)}
    (he : c.decideForIdentity h db customer p decision = .commit db' answer) :
    ReflTransGen (DbStep h A) db db' := by
  simp only [ServiceCall.decideForIdentity] at he
  split at he
  · cases he
  next evidence _ =>
  split at he
  · simp only [ServiceCall.decideCurrent] at he
    split at he
    · cases he
    next m hm =>
    split at he
    · split at he <;> cases he
    · next hopen =>
      split at he
      · cases he
      · next hdecided =>
        cases he
        simp only [bind_eq_ok, raised_eq_ok, pure_eq_ok] at hdecided
        obtain ⟨d, hd, saved, hsaved, hpair⟩ := hdecided
        cases hpair
        have hchain :=
          (presentForDecision_chain (D := A.decisions) hm).append (applyDecision_chain hd hopen)
        exact (advanceAll_path current locked hchain hsaved).1
  · split at he
    · split at he
      · cases he
      · next hinvalidated =>
        cases he
        simp only [bind_eq_ok, raised_eq_ok] at hinvalidated
        obtain ⟨m, hm, hsaved⟩ := hinvalidated
        exact (advanceAll_path current locked (invalidate_chain hm) hsaved).1
    · cases he

theorem reject_path {e : ServiceError} {whose : Option Uuid}
    (generated : A.rejections c.rejectionId) {overdue : Option (ActionProposal (BoundPayload π) ρ)}
    (current : ∀ p ∈ overdue, db.proposals.get? p.id = some p)
    (locked : ∀ p ∈ overdue, A.rows p.id) (he : c.reject h db e whose overdue = .ok db') :
    ReflTransGen (DbStep h A) db db' := by
  simp only [ServiceCall.reject, bind_eq_ok] at he
  obtain ⟨mid, hmid, hrejected⟩ := he
  have hpath : ReflTransGen (DbStep h A) db mid := by
    split at hmid
    · next p hp =>
      obtain ⟨hmem, hdue⟩ := Option.filter_eq_some_iff.mp hp
      simp only [decide_eq_true_eq] at hdue
      exact .single (.moved _ _ (current p hmem) (locked p hmem) (.expired _ hdue.2) hmid)
    · cases hmid
      exact .refl
  exact hpath.tail (.rejected _ _ _ _ _ _ generated hrejected)

end

section
variable {h : ProposalDigests π ρ} {A : Permits β π ρ} {db db' : ProposalDb β π ρ}

theorem dbStep_others (hs : DbStep h A db db') {id : Uuid} {r : ActionProposal π ρ}
    (hr : db.proposals.get? id = some r) (free : ¬ A.rows id) :
    db'.proposals.get? id = some r := by
  have hne : ∀ {p : ActionProposal π ρ}, A.rows p.id → id ≠ p.id := by
    rintro p hp rfl
    exact free hp
  cases hs with
  | moved registry clock current locked step saved =>
    rw [get?_advance saved current (rowStep_id step), if_neg (hne locked)]
    exact hr
  | overtaken registry clock now done reason current locked status inTime claim saved =>
    rw [get?_claimed claim saved current rfl rfl, if_neg (hne locked)]
    exact hr
  | executed registry clock specification now done result current locked status inTime admitted
      registered claim run saved =>
    have hlast := get?_claimed claim saved current rfl rfl id
    rw [if_neg (hne locked)] at hlast
    exact hlast.trans hr
  | rejected eventId now operation customerId error attempted generated saved =>
    rw [proposals_of_rejection saved]
    exact hr
  | inserted registry clock specification v expiresAt saved =>
    obtain ⟨t, ht, hproposals, -⟩ := insertProposal_eq_ok saved
    rw [hproposals]
    exact Table.get?_insert_of_some ht hr

theorem path_others (hs : ReflTransGen (DbStep h A) db db') {id : Uuid} {r : ActionProposal π ρ}
    (hr : db.proposals.get? id = some r) (free : ¬ A.rows id) :
    db'.proposals.get? id = some r := by
  induction hs with
  | refl => exact hr
  | tail _ hstep ih => exact dbStep_others hstep ih free

end

def ServiceStage.rows : ServiceStage β π ρ ι → List (ActionProposal (BoundPayload π) ρ)
  | .held _ p => [p]
  | .locking _ _ _ active => active
  | .rejecting _ _ overdue => overdue.toList
  | _ => []

def ServiceStage.LocksRows : ServiceStage β π ρ ι → Prop
  | .held _ _ | .locking _ _ _ _ | .rejecting _ _ _ => True
  | _ => False

abbrev ServiceSession (β π ρ ι : Type) :=
  Session (ρ := ServiceRequest β π ρ ι) (fun _ => ServiceStage β π ρ ι)

def serviceClaims (s : ServiceSession β π ρ ι) (k : ServiceLock) : Prop :=
  ∃ p ∈ s.seen.rows, k = .proposal p.id

/-- What the requests work with: the registry of their actions, and the ids that are generated for
their rejections. -/
structure ServicePermits (β π ρ : Type) where
  registries : ActionRegistry β (BoundPayload π) ρ → Prop
  rejections : Uuid → Prop

/-- The permits of a transaction that has locked `rows`; any decision may confirm them. -/
def ServicePermits.on (G : ServicePermits β π ρ) (rows : Uuid → Prop) :
    Permits β (BoundPayload π) ρ :=
  ⟨G.registries, G.rejections, fun _ _ _ => True, rows⟩

def ServiceRequest.Uses (G : ServicePermits β π ρ) : ServiceRequest β π ρ ι → Prop
  | .call c => G.registries c.catalog.registry ∧ G.rejections c.rejectionId
  | .prune _ _ => True

/-- A list of rows that a request goes on locking. -/
def ServiceStage.Gathering : ServiceStage β π ρ ι → Prop
  | .locking _ _ todo active =>
    (∀ p ∈ active, p.status.isActive) ∧ (todo ++ active.map fun p => p.id).Nodup
  | _ => True

/-- The locked rows are as the session read them. -/
structure ServiceKnows (G : ServicePermits β π ρ)
    (db : ProposalDb β (BoundPayload π) ρ) (s : ServiceSession β π ρ ι) : Prop where
  uses : s.request.Uses G
  current : ∀ p ∈ s.seen.rows, db.proposals.get? p.id = some p
  gathering : s.seen.Gathering

section
variable {h : ProposalDigests (BoundPayload π) ρ} {A : Permits β (BoundPayload π) ρ}
  {c : ServiceCall β π ρ ι} {db : ProposalDb β (BoundPayload π) ρ} {t : ServiceStage β π ρ ι}

theorem resolveCustomerId_congr {db' : ProposalDb β (BoundPayload π) ρ}
    (users : db'.users = db.users) : c.resolveCustomerId db' = c.resolveCustomerId db := by
  unfold ServiceCall.resolveCustomerId
  rw [users]

theorem settle_path {α : Type} {f : α → ServiceAnswer π ρ}
    {x : Ending (ProposalDb β (BoundPayload π) ρ) α}
    (path : ∀ db' answer, x = .commit db' answer → ReflTransGen (DbStep h A) db db') :
    ReflTransGen (DbStep h A) db (ServiceCall.settle (ι := ι) f db x).db := by
  cases x with
  | commit db' answer =>
    cases answer with
    | ok a => exact path db' _ rfl
    | error e => exact path db' _ rfl
  | leave answer =>
    cases answer with
    | ok a => exact .refl
    | error e => exact .refl

theorem settleCreated_path
    {x : Except ServiceError (ProposalDb β (BoundPayload π) ρ × ActionProposal (BoundPayload π) ρ)}
    (path : ∀ db' p, x = .ok (db', p) → ReflTransGen (DbStep h A) db db') :
    ReflTransGen (DbStep h A) db (ServiceCall.settleCreated (ι := ι) db x).db := by
  cases x with
  | ok r => exact path r.1 r.2 rfl
  | error e => exact .refl

theorem pairwise_rows (ht : t.Gathering) : t.rows.Pairwise fun p q => p.id ≠ q.id := by
  cases t with
  | held customer p => exact List.pairwise_singleton _ _
  | locking s v todo active => exact List.pairwise_map.mp (List.nodup_append.mp ht.2).2.1
  | rejecting e customer overdue =>
    cases overdue with
    | none => exact .nil
    | some p => exact List.pairwise_singleton _ _
  | _ => exact .nil

variable [DecidableEq ρ]

/-- Every run of writes of a request is a sequence of steps on the rows it has locked. -/
theorem body_path (undecided : A.Undecided) (uses : A.registries c.catalog.registry)
    (generated : A.rejections c.rejectionId)
    (locked : ∀ p ∈ t.rows, A.rows p.id)
    (known : ∀ p ∈ t.rows, db.proposals.get? p.id = some p) (gathering : t.Gathering)
    (settled : AllSettled db) : ReflTransGen (DbStep h A) db (c.body h db t).db := by
  have current : CurrentRows db t.rows := ⟨known, pairwise_rows gathering⟩
  have hsettled : ∀ p ∈ t.rows, p.status ≠ .committing := by
    intro p hp
    exact settled p (Table.get?_eq_some.mp (current.1 p hp)).1
  cases t with
  | held customer p =>
    have hp : p ∈ (ServiceStage.held (β := β) (ι := ι) customer p).rows :=
      List.mem_singleton.mpr rfl
    simp only [ServiceCall.body]
    split
    · refine settle_path fun db' answer he => ?_
      exact commitForIdentity_path undecided uses (current.1 p hp) (locked p hp)
        (hsettled p hp) he
    · refine settle_path fun db' answer he => ?_
      exact decideForIdentity_path (current.1 p hp) (locked p hp) he
    · exact .refl
  | locking s v todo active =>
    refine settleCreated_path fun db' p he => ?_
    exact createUnderLock_path current gathering.1 locked he
  | found s v existing =>
    refine settleCreated_path fun db' p he => ?_
    exact createUnderLock_path current (fun p hp => absurd hp List.not_mem_nil)
      (fun p hp => absurd hp List.not_mem_nil) he
  | rejecting e customer overdue =>
    simp only [ServiceCall.body]
    rcases ok_or_error (c.reject h db e customer overdue) with ⟨db', hok⟩ | ⟨other, herr⟩
    · rw [hok]
      have hmem : ∀ p ∈ overdue, p ∈ (ServiceStage.rejecting (β := β) (ι := ι) e customer
          overdue).rows := fun p hp => Option.mem_toList.mpr hp
      exact reject_path generated (fun p hp => current.1 p (hmem p hp))
        (fun p hp => locked p (hmem p hp)) hok
    · rw [herr]
      exact .refl
  | _ => exact .refl

end

section
variable {h : ProposalDigests (BoundPayload π) ρ} {c : ServiceCall β π ρ ι}
  {db : ProposalDb β (BoundPayload π) ρ} {t : ServiceStage β π ρ ι}
  {p : ActionProposal (BoundPayload π) ρ}

theorem rows_of_reads (ht : ¬ t.LocksRows) : t.rows = [] := by
  cases t with
  | held | locking | rejecting => exact absurd trivial ht
  | _ => rfl

theorem gathering_of_reads (ht : ¬ t.LocksRows) : t.Gathering := by
  cases t with
  | locking => exact absurd trivial ht
  | _ => trivial

theorem mem_rows_after {x : Except ServiceError (ServiceStage β π ρ ι)}
    (hp : p ∈ (ServiceStage.after x).rows) : ∃ t, x = .ok t ∧ p ∈ t.rows := by
  cases x with
  | ok t => exact ⟨t, rfl, hp⟩
  | error e => exact absurd hp List.not_mem_nil

theorem begin_reads (he : c.begin db = .ok t) : ¬ t.LocksRows := by
  simp only [ServiceCall.begin, bind_eq_ok, pure_eq_ok] at he
  obtain ⟨-, -, customer, -, rfl⟩ := he
  split <;> exact not_false

theorem openPlaybook_reads {customer : Uuid} {playbookId digest : String} {revision : ℕ}
    (he : c.openPlaybook db customer playbookId revision digest = .ok t) : ¬ t.LocksRows := by
  simp only [ServiceCall.openPlaybook, bind_eq_ok] at he
  obtain ⟨s, -, he⟩ := he
  split at he
  · cases he
    exact not_false
  · simp only [bind_eq_ok, pure_eq_ok] at he
    obtain ⟨-, -, -, -, rfl⟩ := he
    exact not_false

theorem publicInputs_reads {customer : Uuid} {s : ActionSpecification β (BoundPayload π) ρ}
    {inputs : ι} (he : c.publicInputs db customer s inputs = .ok t) : ¬ t.LocksRows := by
  simp only [ServiceCall.publicInputs, bind_eq_ok, pure_eq_ok] at he
  obtain ⟨-, -, -, -, rfl⟩ := he
  exact not_false

theorem proposeAction_reads {customer : Uuid} {actionType : String} {inputs : ι}
    {s : Option (ActionSpecification β (BoundPayload π) ρ)}
    (he : c.proposeAction h db customer s actionType inputs = .ok t) : ¬ t.LocksRows := by
  simp only [ServiceCall.proposeAction, bind_eq_ok] at he
  obtain ⟨s, -, -, -, he⟩ := he
  split at he
  · simp only [bind_eq_ok, pure_eq_ok] at he
    obtain ⟨-, -, rfl⟩ := he
    exact not_false
  · cases he
    exact not_false

theorem prepareAction_reads {customer : Uuid} {s : ActionSpecification β (BoundPayload π) ρ}
    {inputs : ι} (he : c.prepareAction h db customer s inputs = .ok t) : ¬ t.LocksRows := by
  simp only [ServiceCall.prepareAction, bind_eq_ok, pure_eq_ok] at he
  obtain ⟨-, -, -, -, rfl⟩ := he
  exact not_false

theorem createProposal_reads {v : CreateValues (BoundPayload π)}
    (he : c.createProposal h db v = .ok t) : ¬ t.LocksRows := by
  simp only [ServiceCall.createProposal, bind_eq_ok, pure_eq_ok] at he
  obtain ⟨s, -, rfl⟩ := he
  split <;> exact not_false

theorem mem_rows_observe (hp : p ∈ (c.observe h db t).rows) :
    p ∈ t.rows ∨ (c.action t = .lock (.proposal p.id) ∧ db.proposals.get? p.id = some p) := by
  cases t with
  | start =>
    obtain ⟨t, ht, hp⟩ := mem_rows_after hp
    rw [rows_of_reads (begin_reads ht)] at hp
    exact absurd hp List.not_mem_nil
  | resolved customer =>
    simp only [ServiceCall.observe, ServiceCall.action] at hp ⊢
    cases hop : c.operation with
    | preparePlaybook playbookId revision digest inputs key =>
      rw [hop] at hp
      obtain ⟨t, ht, hp⟩ := mem_rows_after hp
      rw [rows_of_reads (openPlaybook_reads ht)] at hp
      exact absurd hp List.not_mem_nil
    | propose actionType inputs key =>
      rw [hop] at hp
      exact absurd hp List.not_mem_nil
    | commit id expected | decide id decision =>
      rw [hop] at hp
      obtain ⟨t, ht, hp⟩ := mem_rows_after hp
      simp only [ServiceCall.lockProposal, bind_eq_ok, pure_eq_ok] at ht
      obtain ⟨q, hq, rfl⟩ := ht
      obtain rfl := List.mem_singleton.mp hp
      have hget : db.proposals.get? id = some p := by simpa [getLocked] using hq
      obtain rfl := (Table.get?_eq_some.mp hget).2
      exact Or.inr ⟨rfl, hget⟩
  | held => exact Or.inl hp
  | unpublished customer s =>
    obtain ⟨t, ht, hp⟩ := mem_rows_after hp
    simp only [bind_eq_ok, pure_eq_ok] at ht
    obtain ⟨-, -, rfl⟩ := ht
    exact absurd hp List.not_mem_nil
  | published customer s =>
    simp only [ServiceCall.observe] at hp
    split at hp
    · obtain ⟨t, ht, hp⟩ := mem_rows_after hp
      rw [rows_of_reads (publicInputs_reads ht)] at hp
      exact absurd hp List.not_mem_nil
    · exact absurd hp List.not_mem_nil
  | proposing customer s actionType inputs =>
    obtain ⟨t, ht, hp⟩ := mem_rows_after hp
    rw [rows_of_reads (proposeAction_reads ht)] at hp
    exact absurd hp List.not_mem_nil
  | repeated => exact Or.inl hp
  | fresh customer s inputs =>
    obtain ⟨t, ht, hp⟩ := mem_rows_after hp
    simp only [bind_eq_ok, pure_eq_ok] at ht
    obtain ⟨-, -, rfl⟩ := ht
    exact absurd hp List.not_mem_nil
  | preparing customer s inputs =>
    obtain ⟨t, ht, hp⟩ := mem_rows_after hp
    rw [rows_of_reads (prepareAction_reads ht)] at hp
    exact absurd hp List.not_mem_nil
  | creating v =>
    obtain ⟨t, ht, hp⟩ := mem_rows_after hp
    rw [rows_of_reads (createProposal_reads ht)] at hp
    exact absurd hp List.not_mem_nil
  | found => exact Or.inl hp
  | joining => exact absurd hp List.not_mem_nil
  | searching => exact absurd hp List.not_mem_nil
  | locking s v todo active =>
    cases todo with
    | nil => exact Or.inl hp
    | cons id todo =>
      simp only [ServiceCall.observe, ServiceCall.lockActive] at hp
      split at hp
      · next q hq =>
        rcases List.mem_append.mp hp with hp | hp
        · exact Or.inl hp
        · obtain rfl := List.mem_singleton.mp hp
          have hget := (Option.filter_eq_some_iff.mp hq).1
          obtain rfl := (Table.get?_eq_some.mp hget).2
          exact Or.inr ⟨rfl, hget⟩
      · exact Or.inl hp
  | viewing => exact Or.inl hp
  | failed e =>
    simp only [ServiceCall.observe, ServiceCall.beginRejection] at hp
    split at hp
    · exact absurd hp List.not_mem_nil
    · split at hp
      · split at hp <;> exact absurd hp List.not_mem_nil
      · exact absurd hp List.not_mem_nil
  | failedFor e customer id =>
    obtain ⟨hget, -⟩ := Option.filter_eq_some_iff.mp (Option.mem_toList.mp hp)
    obtain rfl := (Table.get?_eq_some.mp hget).2
    exact Or.inr ⟨rfl, hget⟩
  | rejecting => exact Or.inl hp

theorem gathering_after {x : Except ServiceError (ServiceStage β π ρ ι)}
    (hx : ∀ t, x = .ok t → ¬ t.LocksRows) : (ServiceStage.after x).Gathering := by
  cases x with
  | ok t => exact gathering_of_reads (hx t rfl)
  | error e => trivial

theorem gathering_lockActive {s : ActionSpecification β (BoundPayload π) ρ}
    {v : CreateValues (BoundPayload π)} {id : Uuid} {todo : List Uuid}
    {active : List (ActionProposal (BoundPayload π) ρ)}
    (ht : (ServiceStage.locking (ι := ι) s v (id :: todo) active).Gathering) :
    (ServiceCall.lockActive (ι := ι) db s v id todo active).Gathering := by
  obtain ⟨hactive, hnodup⟩ := ht
  obtain ⟨hnew, hrest⟩ := List.nodup_cons.mp hnodup
  unfold ServiceCall.lockActive
  split
  · next p hp =>
    obtain ⟨hget, hsession⟩ := Option.filter_eq_some_iff.mp hp
    obtain rfl := (Table.get?_eq_some.mp hget).2
    refine ⟨?_, ?_⟩
    · intro q hq
      rcases List.mem_append.mp hq with hq | hq
      · exact hactive q hq
      · obtain rfl := List.mem_singleton.mp hq
        exact (of_decide_eq_true hsession).2.2
    · rw [List.map_append, ← List.append_assoc, List.map_singleton]
      exact (List.perm_append_singleton _ _).nodup_iff.mpr (List.nodup_cons.mpr ⟨hnew, hrest⟩)
  · exact ⟨hactive, hrest⟩

theorem gathering_observe (ht : t.Gathering) : (c.observe h db t).Gathering := by
  cases t with
  | start => exact gathering_after fun t ht => begin_reads ht
  | resolved customer =>
    simp only [ServiceCall.observe]
    split
    · exact gathering_after fun t ht => openPlaybook_reads ht
    · trivial
    all_goals
      unfold ServiceStage.after
      split
      · next hlock =>
        simp only [ServiceCall.lockProposal, bind_eq_ok, pure_eq_ok] at hlock
        obtain ⟨p, -, rfl⟩ := hlock
        trivial
      · trivial
  | unpublished customer s =>
    refine gathering_after fun t ht => ?_
    simp only [bind_eq_ok, pure_eq_ok] at ht
    obtain ⟨-, -, rfl⟩ := ht
    exact not_false
  | published customer s =>
    simp only [ServiceCall.observe]
    split
    · exact gathering_after fun t ht => publicInputs_reads ht
    · trivial
  | proposing => exact gathering_after fun t ht => proposeAction_reads ht
  | fresh customer s inputs =>
    refine gathering_after fun t ht => ?_
    simp only [bind_eq_ok, pure_eq_ok] at ht
    obtain ⟨-, -, rfl⟩ := ht
    exact not_false
  | preparing => exact gathering_after fun t ht => prepareAction_reads ht
  | creating => exact gathering_after fun t ht => createProposal_reads ht
  | searching s v =>
    refine ⟨fun p hp => absurd hp List.not_mem_nil, ?_⟩
    rw [List.map_nil, List.append_nil]
    exact List.pairwise_map.mpr (currentRows_olderFirst (currentRows_select db _)).2
  | locking s v todo active =>
    cases todo with
    | nil => exact ht
    | cons id todo => exact gathering_lockActive ht
  | failed e =>
    simp only [ServiceCall.observe, ServiceCall.beginRejection]
    split
    · trivial
    · split
      · split <;> trivial
      · trivial
  | _ => trivial

end

section
variable {h : ProposalDigests (BoundPayload π) ρ}
  {G : ServicePermits β π ρ} {db db' : ProposalDb β (BoundPayload π) ρ}

/-- What a transaction of the service makes of the database: steps of the engine on the rows that
satisfy `rows`, or a pruning of the audit events. -/
def Writes (h : ProposalDigests (BoundPayload π) ρ) (G : ServicePermits β π ρ) (rows : Uuid → Prop)
    (db db' : ProposalDb β (BoundPayload π) ρ) : Prop :=
  ReflTransGen (DbStep h (G.on rows)) db db' ∨
    ∃ retained checkpoint, db' = pruneHistoricalAuditEvents db retained checkpoint

theorem proposals_of_prune {retained : Timestamp} {checkpoint : Option Timestamp} :
    (pruneHistoricalAuditEvents db retained checkpoint).proposals = db.proposals := by
  cases checkpoint <;> rfl

/-- What every run of a permitted handler does to the bank, whole transactions do. -/
theorem Writes.bank {rows : Uuid → Prop} {R : β → β → Prop} (refl : ∀ b, R b b)
    (trans : ∀ {a b c}, R a b → R b c → R a c)
    (runs : ∀ (registry : ActionRegistry β (BoundPayload π) ρ)
      (specification : ActionSpecification β (BoundPayload π) ρ)
      (p q : ActionProposal (BoundPayload π) ρ) (now : Timestamp) (bank executed bank' : β)
      (result : ρ), G.registries registry → registry.forProposal p = .ok specification →
      HandlerRun specification.handler (p.claimedAt now) q bank executed bank' result →
      R bank bank') (hw : Writes h G rows db db') : R db.bank db'.bank := by
  rcases hw with hpath | ⟨retained, checkpoint, rfl⟩
  · induction hpath with
    | refl => exact refl _
    | tail _ hstep ih =>
      rcases dbStep_bank hstep with hsame | ⟨registry, s, p, q, now, executed, result, admitted,
        registered, -, hrun⟩
      · rw [hsame]
        exact ih
      · exact trans ih (runs _ _ _ _ _ _ _ _ _ admitted registered hrun)
  · cases checkpoint <;> exact refl _

theorem Writes.settled {rows : Uuid → Prop} (hw : Writes h G rows db db') (hdb : AllSettled db) :
    AllSettled db' := by
  rcases hw with hpath | ⟨retained, checkpoint, rfl⟩
  · exact (settled_rows h).path hpath hdb
  · unfold AllSettled
    rw [proposals_of_prune]
    exact hdb

theorem Writes.others {rows : Uuid → Prop} (hw : Writes h G rows db db') {id : Uuid}
    {r : ActionProposal (BoundPayload π) ρ} (hr : db.proposals.get? id = some r)
    (free : ¬ rows id) : db'.proposals.get? id = some r := by
  rcases hw with hpath | ⟨retained, checkpoint, rfl⟩
  · exact path_others hpath hr free
  · rw [proposals_of_prune]
    exact hr

theorem settle_resume {α : Type} {f : α → ServiceAnswer π ρ}
    {x : Ending (ProposalDb β (BoundPayload π) ρ) α} {t : ServiceStage β π ρ ι}
    (he : ServiceCall.settle f db x = .resume db' t) : ¬ t.LocksRows := by
  unfold ServiceCall.settle at he
  split at he <;> cases he <;> exact not_false

theorem settleCreated_resume
    {x : Except ServiceError (ProposalDb β (BoundPayload π) ρ × ActionProposal (BoundPayload π) ρ)}
    {t : ServiceStage β π ρ ι} (he : ServiceCall.settleCreated db x = .resume db' t) :
    ¬ t.LocksRows := by
  unfold ServiceCall.settleCreated at he
  split at he <;> cases he <;> exact not_false

variable [DecidableEq ρ]

theorem run_writes {s : ServiceSession β π ρ ι} (rows : Uuid → Prop)
    (locked : ∀ p ∈ s.seen.rows, rows p.id) (known : ServiceKnows G db s)
    (settled : AllSettled db) :
    Writes h G rows db ((proposalService h).body db s.request s.seen).db := by
  obtain ⟨r, t⟩ := s
  cases r with
  | call c =>
    exact Or.inl (body_path (A := G.on rows) (fun _ _ _ => trivial) known.uses.1 known.uses.2
      locked known.current known.gathering settled)
  | prune retained checkpoint => exact Or.inr ⟨retained, checkpoint, rfl⟩

theorem body_resume_reads {c : ServiceCall β π ρ ι} {t t' : ServiceStage β π ρ ι}
    (he : c.body h db t = .resume db' t') : ¬ t'.LocksRows := by
  cases t with
  | held customer p =>
    simp only [ServiceCall.body] at he
    split at he
    · exact settle_resume he
    · exact settle_resume he
    · cases he
      exact not_false
  | locking => exact settleCreated_resume he
  | found => exact settleCreated_resume he
  | rejecting e customer overdue =>
    simp only [ServiceCall.body] at he
    split at he <;> cases he
  | viewing | failed => cases he
  | _ =>
    cases he
    exact not_false

theorem action_claims (h : ProposalDigests (BoundPayload π) ρ) :
    Claims (proposalService (β := β) (ι := ι) h) serviceClaims where
  enter r k := by
    rintro ⟨p, hp, -⟩
    exact absurd hp List.not_mem_nil
  read db r t k ha := by
    rintro ⟨p, hp, rfl⟩
    cases r with
    | call c =>
      rcases mem_rows_observe hp with hp | ⟨hlock, -⟩
      · exact ⟨p, hp, rfl⟩
      · rw [show c.action t = .read from ha] at hlock
        cases hlock
    | prune retained checkpoint => cases ha
  lock db r t k k' ha := by
    rintro ⟨p, hp, rfl⟩
    cases r with
    | call c =>
      rcases mem_rows_observe hp with hp | ⟨hlock, -⟩
      · exact Or.inr ⟨p, hp, rfl⟩
      · rw [show c.action t = .lock k from ha] at hlock
        cases hlock
        exact Or.inl rfl
    | prune retained checkpoint => cases ha
  resume db r t db' t' k rows ha he := by
    rintro ⟨p, hp, -⟩
    cases r with
    | call c =>
      rw [rows_of_reads (body_resume_reads he)] at hp
      exact absurd hp List.not_mem_nil
    | prune retained checkpoint => cases he

theorem service_knowledge (h : ProposalDigests (BoundPayload π) ρ) (G : ServicePermits β π ρ) :
    Knowledge (proposalService (ι := ι) h) (ServiceRequest.Uses G) serviceClaims
      (fun _ _ => True) AllSettled (ServiceKnows G) where
  enter db r uses _ := ⟨uses, fun p hp => absurd hp List.not_mem_nil, trivial⟩
  observe db r t hread _ known := by
    cases r with
    | call c =>
      refine ⟨known.uses, ?_, gathering_observe known.gathering⟩
      intro p hp
      rcases mem_rows_observe hp with hp | ⟨-, hget⟩
      · exact known.current p hp
      · exact hget
    | prune retained checkpoint => exact absurd rfl (hread [])
  keep db r t rows _ settled known _ := by
    exact (run_writes (fun _ => True) (fun _ _ => trivial) known settled).settled settled
  resume db r t db' t' rows _ settled known _ he := by
    cases r with
    | call c =>
      have hreads := body_resume_reads he
      refine ⟨known.uses, ?_, gathering_of_reads hreads⟩
      intro p hp
      rw [rows_of_reads hreads] at hp
      exact absurd hp List.not_mem_nil
    | prune retained checkpoint => cases he
  stable db s r t rows _ settled known _ other hdisjoint := by
    have hwrites := run_writes (h := h) (s := ⟨r, t⟩)
      (fun id => ∃ p ∈ t.rows, p.id = id) (fun p hp => ⟨p, hp, rfl⟩) known settled
    refine ⟨other.uses, ?_, other.gathering⟩
    intro p hp
    refine hwrites.others (other.current p hp) ?_
    rintro ⟨q, hq, hid⟩
    exact hdisjoint (.proposal p.id) ⟨⟨p, hp, rfl⟩, ⟨q, hq, by rw [hid]⟩⟩

variable {κ : Type} [DecidableEq κ]

abbrev ActionWorld (κ β π ρ ι : Type) :=
  World κ (ProposalDb β (BoundPayload π) ρ) (ρ := ServiceRequest β π ρ ι)
    (fun _ => ServiceStage β π ρ ι) ServiceLock (Except ServiceError (ServiceAnswer π ρ))

abbrev ActionEvent (κ β π ρ ι : Type) := Event κ (ServiceRequest β π ρ ι)

/-- Sessions that hold their rows, know them, and leave none in the middle of a commit. -/
abbrev ServiceInformed (G : ServicePermits β π ρ) (w : ActionWorld κ β π ρ ι) : Prop :=
  Informed serviceClaims AllSettled (ServiceKnows G) w

theorem event_informed {w : ActionWorld κ β π ρ ι} {e : ActionEvent κ β π ρ ι}
    (hw : ServiceInformed G w)
    (he : Enabled (proposalService h) (ServiceRequest.Uses G) w e) :
    ServiceInformed G (next (proposalService h) w e) :=
  informed_next (action_claims h) (service_knowledge h G) hw he (fun _ _ _ _ => trivial)

theorem event_writes {w : ActionWorld κ β π ρ ι} {e : ActionEvent κ β π ρ ι}
    (hw : ServiceInformed G w)
    (he : Enabled (proposalService h) (ServiceRequest.Uses G) w e) :
    Writes h G (fun _ => True) w.db (next (proposalService h) w e).db := by
  rcases db_changes he with hsame | ⟨i, s, -, ⟨hs, -⟩, hdb⟩
  · rw [hsame]
    exact Or.inl .refl
  · rw [hdb]
    exact run_writes _ (fun _ _ => trivial) (hw.knows i s hs) hw.db

/-- The rule for runs of the service: what the writes of a transaction keep holds throughout. -/
theorem service_throughout {P : ProposalDb β (BoundPayload π) ρ → Prop}
    (keep : ∀ db db', Writes h G (fun _ => True) db db' → P db → P db')
    {w : ActionWorld κ β π ρ ι} {es : List (ActionEvent κ β π ρ ι)} (hw : ServiceInformed G w)
    (start : P w.db) (run : (machine (proposalService h) (ServiceRequest.Uses G)).Run w es) :
    (machine (proposalService h) (ServiceRequest.Uses G)).Throughout
      (fun w => ServiceInformed G w ∧ P w.db) w es := by
  refine Runs.throughout_of_each ?_ ⟨hw, start⟩ run
  rintro v e ⟨hv, hp⟩ he
  exact ⟨event_informed hv he, keep _ _ (event_writes hv he) hp⟩

end

section
variable [DecidableEq ρ]

/-- The request served on its own, where that takes at most eight statements: a commit, a
decision, or a preparation that was made before. -/
def ServiceCall.serve (h : ProposalDigests (BoundPayload π) ρ) (c : ServiceCall β π ρ ι)
    (db : ProposalDb β (BoundPayload π) ρ) :
    Option (ProposalDb β (BoundPayload π) ρ × Except ServiceError (ServiceAnswer π ρ)) :=
  (proposalService h).alone (.call c) 8 db .start

theorem run_of_alone_start {h : ProposalDigests (BoundPayload π) ρ} {c : ServiceCall β π ρ ι}
    {A : ServiceRequest β π ρ ι → Prop} (admitted : A (.call c)) {n : ℕ}
    {db db' : ProposalDb β (BoundPayload π) ρ} {a : Except ServiceError (ServiceAnswer π ρ)}
    (hserved : (proposalService h).alone (.call c) n db .start = some (db', a)) :
    ∃ m, let M := machine (proposalService h) A
      let events := Event.start 0 (.call c) :: List.replicate m (.step 0)
      M.Run (World.quiet db : ActionWorld ℕ β π ρ ι) events ∧
        (M.final (World.quiet db : ActionWorld ℕ β π ρ ι) events).db = db' ∧
        (M.final (World.quiet db : ActionWorld ℕ β π ρ ι) events).answers = [(.call c, a)] := by
  obtain ⟨m, hrun, hlast, hanswers⟩ := run_of_alone hserved
    (w := (World.quiet db : ActionWorld ℕ β π ρ ι).put 0 (some ⟨.call c, .start⟩))
    (Function.update_self _ _ _) rfl fun _ => Or.inl rfl
  exact ⟨m, ⟨⟨rfl, admitted⟩, hrun⟩, hlast, hanswers⟩

/-- How a request ends that fails with `e` and leaves no expiry behind. -/
def ServiceCall.refuse (c : ServiceCall β π ρ ι) (db : ProposalDb β (BoundPayload π) ρ)
    (customer : Uuid)
    (e : ServiceError) :
    ProposalDb β (BoundPayload π) ρ × Except ServiceError (ServiceAnswer π ρ) :=
  if c.identity = "" then (db, .error e)
  else
    match recordRejection db c.rejectionId c.clock.rejecting c.operation.requestOperation
        (some customer) e c.operation.proposalId with
    | .ok db' => (db', .error e)
    | .error other => (db, .error other)

/-- No proposal is looked up again to expire with the failed request. -/
def Unexpired (c : ServiceCall β π ρ ι) (e : ServiceError) : Prop :=
  c.operation.proposalId = none ∨ ∀ error, e = .proposal error → error.code ≠ "PROPOSAL_EXPIRED"

omit [DecidableEq ρ] in
theorem unexpired_of_code {c : ServiceCall β π ρ ι} {error : ProposalError}
    (hcode : error.code ≠ "PROPOSAL_EXPIRED") : Unexpired c (.proposal error) := by
  refine Or.inr ?_
  rintro _ ⟨⟩
  exact hcode

omit [DecidableEq ρ] in
theorem refuse_keeps {c : ServiceCall β π ρ ι} {db : ProposalDb β (BoundPayload π) ρ}
    {customer : Uuid} {e : ServiceError} : (c.refuse db customer e).1.proposals = db.proposals ∧
      (c.refuse db customer e).1.bank = db.bank := by
  unfold ServiceCall.refuse
  split
  · exact ⟨rfl, rfl⟩
  · split
    · next hrecord =>
      obtain ⟨event, outbox, -, -, heq⟩ := recordRejection_eq_ok hrecord
      dsimp only
      rw [heq]
      exact ⟨rfl, rfl⟩
    · exact ⟨rfl, rfl⟩

theorem alone_failed {h : ProposalDigests (BoundPayload π) ρ} {c : ServiceCall β π ρ ι}
    {db : ProposalDb β (BoundPayload π) ρ} {customer : Uuid} {e : ServiceError} {n : ℕ}
    (hcustomer : c.resolveCustomerId db = .ok customer) (unexpired : Unexpired c e) :
    (proposalService h).alone (.call c) (n + 2) db (.failed e) = some (c.refuse db customer e) := by
  by_cases hidentity : c.identity = ""
  · have haction : (proposalService h).action (.call c) (.failed e) = .run [] := by
      simp [proposalService, ServiceCall.action, hidentity]
    rw [alone_finish haction rfl, ServiceCall.refuse, if_pos hidentity]
  · have haction : (proposalService h).action (.call c) (.failed e) = .read := by
      simp [proposalService, ServiceCall.action, hidentity]
    have hobserve : (proposalService h).observe db (.call c) (.failed e) =
        .rejecting e (some customer) none := by
      simp only [proposalService, ServiceCall.observe, ServiceCall.beginRejection, hcustomer]
      split
      · next hid =>
        rcases unexpired with hnone | hcode
        · rw [hid] at hnone
          cases hnone
        · rw [if_neg (hcode _ rfl)]
      · rfl
    have hreject : c.reject h db e (some customer) none =
        recordRejection db c.rejectionId c.clock.rejecting c.operation.requestOperation
          (some customer) e c.operation.proposalId := rfl
    rw [alone_read haction, hobserve, ServiceCall.refuse, if_neg hidentity, ← hreject]
    cases hrecord : c.reject h db e (some customer) none with
    | ok db' => exact alone_finish rfl (by simp only [proposalService, ServiceCall.body, hrecord])
    | error other =>
      exact alone_finish rfl (by simp only [proposalService, ServiceCall.body, hrecord])

end

def reissueServiceDigests : ProposalDigests (BoundPayload String) Bool :=
  ⟨fun s => "sha256:" ++ s, fun s => "uuid5:" ++ s, fun p => p.facts,
    fun s => .ok ("snapshot:" ++ s.stage.value)⟩

def reissueOperation {β : Type} : ProposalOperation β String String where
  invalidPublicInputs _ := none
  normalizePublicInputs _ _ inputs := .ok inputs
  invalidInputs _ := none
  normalizeBusinessInputs inputs := inputs
  prepare _ inputs _ := .ok (none, inputs, "Replace the card ending in 4242.")

def reissueCatalog {β : Type} (registry : ActionRegistry β (BoundPayload String) Bool) :
    ProposalCatalog β String Bool String :=
  ⟨registry, fun _ => reissueOperation, id, fun _ => none, fun _ _ => some (1, "digest-1")⟩

/-- A request of customer 7, made at `now` on a turn of the customer. -/
def reissueRequest {β : Type} (registry : ActionRegistry β (BoundPayload String) Bool)
    (now : Timestamp) (id : ℕ) (context : ProposalRuntimeContext)
    (operation : ServiceOperation String) : ServiceCall β String Bool String :=
  ⟨"customer-7", context, operation, reissueCatalog registry, .at_ now, .ofNat id,
    .ofNat (1000 + id)⟩

def reissuePlaybook : ServiceOperation String :=
  .preparePlaybook "card-reissue" 1 "digest-1" "lost card" "key-1"

/-- The runtime when the customer asks for a new card on `turn`. -/
def askedOn (turn : String) : ProposalRuntimeContext :=
  ⟨"support-1", "runtime", "runtime-1", turn, "reset-1", none, none, none, none, none⟩

def reissueServiceStore {β : Type} (bank : β) : ProposalDb β (BoundPayload String) Bool :=
  { bank := bank, users := .single ⟨.ofNat 7, "customer-7", none⟩,
    proposals := .empty, outbox := .empty }

end BankingService
