import BankingService.ProposalSessions
import Mathlib.Data.List.Nodup

/-! The audit trail of proposals over runs of the service: what was ever committed to the outbox,
pruned or not, has one event and one archived snapshot for each stage that a proposal reached. -/
namespace BankingService.EvidenceTrail

open Python Relational Checked Relation Runs ReadCommitted

variable {β π ρ ι : Type}

def snapshotOf (e : ProposalEvent π ρ) : Option (Uuid × Stage) :=
  match e.payload with
  | .snapshot _ _ _ document => some (document.proposal.id, document.stage)
  | _ => none

def stateOf (e : ProposalEvent π ρ) : Option (Uuid × ProposalStatus) :=
  match e.payload with
  | .snapshot _ _ _ document => some (document.proposal.id, document.state)
  | _ => none

def eventOf (e : ProposalEvent π ρ) : Option (Uuid × String) :=
  match e.payload with
  | .transition proposalId _ _ _ _ _ _ _ => some (proposalId, e.eventType)
  | _ => none

def eventTypeOf (stage : Stage) : String := "ACTION_PROPOSAL_" ++ stage.value

def newEvents (before after : Table (ProposalEvent π ρ)) : List (ProposalEvent π ρ) :=
  after.rows.filter fun e => (before.get? e.eventId).isNone

/-- The digest of a snapshot is the one of its own bytes. -/
def OwnDigest (h : ProposalDigests π ρ) (e : ProposalEvent π ρ) : Prop :=
  ∃ artifactId auditEventId digest document json,
    e.payload = .snapshot artifactId auditEventId digest document ∧
      h.snapshotJson document = .ok json ∧ digest = h.sha256 json

/-- Exactly one event says that the proposal ended in `s`, and exactly one snapshot shows it. -/
def EvidencedEnd (h : ProposalDigests π ρ) (history : List (ProposalEvent π ρ)) (id : Uuid)
    (s : ProposalStatus) : Prop :=
  (∃ e, history.filter (fun e => eventOf e = some (id, eventTypeOf s.stage)) = [e]) ∧
    ∃ e, history.filter (fun e => stateOf e = some (id, s)) = [e] ∧ OwnDigest h e

/-- No stage of a proposal has a second event or a second snapshot. -/
def RecordedOnce (history : List (ProposalEvent π ρ)) : Prop :=
  ∀ id stage, (history.filter fun e => eventOf e = some (id, eventTypeOf stage)).length ≤ 1 ∧
    (history.filter fun e => snapshotOf e = some (id, stage)).length ≤ 1

/-- A row is a snapshot or an event of a stage, under the ids of that stage, or a rejection. -/
inductive Form (h : ProposalDigests π ρ) (e : ProposalEvent π ρ) : Prop where
  | snapshot (p : ActionProposal π ρ) (stage : Stage) (json : String)
      (archived : h.snapshotJson ⟨stage, p⟩ = .ok json) (reached : p.status.stage = stage)
      (eventId : e.eventId = h.artifactIdFor (h.eventIdFor p.id stage))
      (eventType : e.eventType = snapshotEventType)
      (payload : e.payload = .snapshot e.eventId (h.eventIdFor p.id stage) (h.sha256 json)
        ⟨stage, p⟩)
  | event (p : ActionProposal π ρ) (stage : Stage) (artifactId digest : String)
      (eventId : e.eventId = h.eventIdFor p.id stage)
      (eventType : e.eventType = eventTypeOf stage)
      (payload : e.payload = .transition p.id p.actionType p.contractVersion p.payloadFingerprint
        p.status p.invalidationReason artifactId digest)
  | rejection (operation : RequestOperation) (customerId : Option Uuid) (reasonCode : String)
      (attempted : Option Uuid) (generated : ∀ name, h.uuid5 name ≠ e.eventId)
      (payload : e.payload = .rejection operation customerId reasonCode attempted)

abbrev stages (history : List (ProposalEvent π ρ)) : List (Uuid × Stage) :=
  history.filterMap snapshotOf

structure Trail (h : ProposalDigests π ρ) (outbox : Table (ProposalEvent π ρ))
    (history : List (ProposalEvent π ρ)) : Prop where
  listed : ∀ e ∈ outbox.rows, e ∈ history
  form : ∀ e ∈ history, Form h e
  paired : history.filterMap eventOf = (stages history).map fun x => (x.1, eventTypeOf x.2)
  once : (stages history).Nodup
  kept : ∀ e ∈ history, snapshotOf e ≠ none → e ∈ outbox.rows

/-- The proposals that have ended are those whose end is archived. -/
def Ended (proposals : Table (ActionProposal π ρ)) (recorded : List (Uuid × Stage)) : Prop :=
  ∀ id s, ¬ s.isActive →
    ((∃ p ∈ proposals.rows, p.id = id ∧ p.status = s) ↔ (id, s.stage) ∈ recorded)

theorem eventTypeOf_injective : Function.Injective eventTypeOf := by
  intro s t h
  have hl := congrArg String.toList h
  unfold eventTypeOf at hl
  rw [String.toList_append, String.toList_append] at hl
  exact Stage.value_injective (String.toList_inj.mp (List.append_cancel_left hl))

theorem stage_injective : Function.Injective ProposalStatus.stage := by
  intro s t h
  cases s <;> cases t <;> first | rfl | cases h

section
variable {h : ProposalDigests π ρ} {e : ProposalEvent π ρ} {outbox : Table (ProposalEvent π ρ)}
  {history : List (ProposalEvent π ρ)} {id : Uuid} {stage : Stage}

theorem Form.snapshot_id (he : Form h e) (hs : snapshotOf e = some (id, stage)) :
    e.eventId = h.artifactIdFor (h.eventIdFor id stage) ∧ e.eventType = snapshotEventType := by
  cases he with
  | snapshot p stage' json archived reached eventId eventType payload =>
    simp only [snapshotOf, payload, Option.some.injEq, Prod.mk.injEq] at hs
    obtain ⟨rfl, rfl⟩ := hs
    exact ⟨eventId, eventType⟩
  | event p stage' artifactId digest eventId eventType payload => simp [snapshotOf, payload] at hs
  | rejection operation customerId reasonCode attempted generated payload =>
    simp [snapshotOf, payload] at hs

/-- A stage is recorded exactly if its snapshot was ever committed. -/
theorem Trail.alreadyRecorded_iff (hn : DistinctNames h) (ht : Trail h outbox history) :
    AlreadyRecorded h outbox id stage ↔ (id, stage) ∈ stages history := by
  constructor
  · rintro ⟨e, he, hid⟩
    have hhistory := ht.listed e he
    cases ht.form e hhistory with
    | snapshot p stage' json archived reached eventId eventType payload =>
      have hsame : p.id = id ∧ stage' = stage := by
        rcases hid with hid | hid
        · exact absurd (hid.symm.trans eventId) (eventIdFor_ne_artifactIdFor hn _ _ _)
        · exact artifactIdFor_inj hn (eventId.symm.trans hid)
      obtain ⟨rfl, rfl⟩ := hsame
      exact List.mem_filterMap.mpr ⟨e, hhistory, by simp [snapshotOf, payload]⟩
    | event p stage' artifactId digest eventId eventType payload =>
      have hsame : p.id = id ∧ stage' = stage := by
        rcases hid with hid | hid
        · exact eventIdFor_inj hn (eventId.symm.trans hid)
        · exact absurd (eventId.symm.trans hid) (eventIdFor_ne_artifactIdFor hn _ _ _)
      obtain ⟨rfl, rfl⟩ := hsame
      have hevent : (p.id, eventTypeOf stage') ∈ history.filterMap eventOf :=
        List.mem_filterMap.mpr ⟨e, hhistory, by simp [eventOf, payload, eventType]⟩
      rw [ht.paired] at hevent
      obtain ⟨⟨i, s⟩, hx, hpair⟩ := List.mem_map.mp hevent
      obtain ⟨rfl, htype⟩ := Prod.mk.inj hpair
      rw [← eventTypeOf_injective htype]
      exact hx
    | rejection operation customerId reasonCode attempted generated payload =>
      rcases hid with hid | hid
      · exact absurd hid.symm (generated _)
      · exact absurd hid.symm (generated _)
  · intro hstage
    obtain ⟨e, he, hsnapshot⟩ := List.mem_filterMap.mp hstage
    exact ⟨e, ht.kept e he (by simp [hsnapshot]),
      Or.inr ((ht.form e he).snapshot_id hsnapshot).1⟩

end

section
variable {h : ProposalDigests π ρ} {outbox outbox' : Table (ProposalEvent π ρ)}
  {history : List (ProposalEvent π ρ)} {new : List (Uuid × Stage)}

/-- The outbox with the rows added that record the stages of `new`, as far as they were not. -/
def Grows (h : ProposalDigests π ρ) (outbox outbox' : Table (ProposalEvent π ρ))
    (history : List (ProposalEvent π ρ)) (new : List (Uuid × Stage)) : Prop :=
  ∃ added, outbox'.rows = outbox.rows ++ added ∧ Trail h outbox' (history ++ added) ∧
    ∀ x, x ∈ stages (history ++ added) ↔ x ∈ new ∨ x ∈ stages history

theorem Grows.refl (ht : Trail h outbox history) : Grows h outbox outbox history [] :=
  ⟨[], by simp, by simpa using ht, by simp⟩

theorem stages_append (l l' : List (ProposalEvent π ρ)) :
    stages (l ++ l') = stages l ++ stages l' :=
  List.filterMap_append ..

theorem stages_transitionEvents (p : ActionProposal π ρ) (stage : Stage) (json : String)
    (now : Timestamp) : stages (transitionEvents h p stage json now) = [(p.id, stage)] := rfl

theorem form_transitionEvents {p : ActionProposal π ρ} {stage : Stage} {json : String}
    {now : Timestamp} (archived : h.snapshotJson ⟨stage, p⟩ = .ok json)
    (reached : p.status.stage = stage) : ∀ e ∈ transitionEvents h p stage json now, Form h e := by
  intro e he
  simp only [transitionEvents, List.mem_cons, List.not_mem_nil, or_false] at he
  rcases he with rfl | rfl
  · exact .snapshot p stage json archived reached rfl rfl rfl
  · exact .event p stage _ _ rfl rfl rfl

/-- New rows keep the trail where they record a stage that was not recorded, or none. -/
theorem Trail.append {added : List (ProposalEvent π ρ)} (ht : Trail h outbox history)
    (rows : outbox'.rows = outbox.rows ++ added) (form : ∀ e ∈ added, Form h e)
    (paired : added.filterMap eventOf = (stages added).map fun x => (x.1, eventTypeOf x.2))
    (once : (stages (history ++ added)).Nodup) : Trail h outbox' (history ++ added) where
  listed e he := by
    rw [rows] at he
    rcases List.mem_append.mp he with he | he
    · exact List.mem_append.mpr (Or.inl (ht.listed e he))
    · exact List.mem_append.mpr (Or.inr he)
  form e he := by
    rcases List.mem_append.mp he with he | he
    · exact ht.form e he
    · exact form e he
  paired := by
    rw [List.filterMap_append, ht.paired, paired, stages_append, List.map_append]
  once := once
  kept e he hs := by
    rw [rows]
    rcases List.mem_append.mp he with he | he
    · exact List.mem_append.mpr (Or.inl (ht.kept e he hs))
    · exact List.mem_append.mpr (Or.inr he)

theorem recordTransition_grows (hn : DistinctNames h) {db db' : ProposalDb β π ρ}
    {p : ActionProposal π ρ} {stage : Stage} {now : Timestamp} (ht : Trail h outbox history)
    (reached : p.status.stage = stage) (he : recordTransition h db p stage now = .ok db')
    (same : db.outbox = outbox) : Grows h outbox db'.outbox history [(p.id, stage)] := by
  subst same
  rcases recordTransition_eq_ok.mp he with ⟨hrecorded, rfl⟩ | ⟨hnew, json, t, hjson, hinsert, rfl⟩
  · have hstage := (ht.alreadyRecorded_iff hn).mp hrecorded
    refine ⟨[], by simp, by simpa using ht, ?_⟩
    intro x
    rw [List.append_nil, List.mem_singleton]
    constructor
    · exact Or.inr
    · rintro (rfl | hx)
      · exact hstage
      · exact hx
  · have hnot : (p.id, stage) ∉ stages history :=
      fun hs => hnew ((ht.alreadyRecorded_iff hn).mpr hs)
    have hstages : stages (history ++ transitionEvents h p stage json now) =
        stages history ++ [(p.id, stage)] := by
      rw [stages_append, stages_transitionEvents]
    refine ⟨transitionEvents h p stage json now, Table.rows_insertAll hinsert, ?_, ?_⟩
    · refine ht.append (Table.rows_insertAll hinsert) (form_transitionEvents hjson reached) rfl ?_
      rw [hstages]
      exact (List.perm_append_singleton _ _).nodup_iff.mpr (List.nodup_cons.mpr ⟨hnot, ht.once⟩)
    · intro x
      rw [hstages, List.mem_append]
      exact or_comm

theorem advance_grows (hn : DistinctNames h) {db db' : ProposalDb β π ρ}
    {registry : ActionRegistry β π ρ} {clock : Clock} {p : ActionProposal π ρ} {stage : Stage}
    (ht : Trail h outbox history) (reached : p.status.stage = stage)
    (saved : Engine.advance ⟨h, registry, clock⟩ db stage p = .ok db')
    (same : db.outbox = outbox) : Grows h outbox db'.outbox history [(p.id, stage)] := by
  obtain ⟨t, -, -, -, -, hrecord⟩ := advance_eq_ok saved
  exact recordTransition_grows hn ht reached hrecord same

theorem rejection_grows {db db' : ProposalDb β π ρ} {eventId : Uuid} {now : Timestamp}
    {operation : RequestOperation} {customerId attempted : Option Uuid} {e : ServiceError}
    (ht : Trail h db.outbox history) (generated : ∀ name, h.uuid5 name ≠ eventId.str)
    (saved : recordRejection db eventId now operation customerId e attempted = .ok db') :
    Grows h db.outbox db'.outbox history [] := by
  simp only [recordRejection, bind_eq_ok, raised_eq_ok, insert_eq_ok, pure_eq_ok] at saved
  obtain ⟨t, hinsert, rfl⟩ := saved
  have hrows := Table.rows_insert hinsert
  refine ⟨_, hrows, ht.append hrows ?_ rfl ?_, ?_⟩
  · intro e' he'
    obtain rfl := List.mem_singleton.mp he'
    exact .rejection _ _ _ _ generated rfl
  · rw [stages_append]
    change (stages history ++ []).Nodup
    rw [List.append_nil]
    exact ht.once
  · intro x
    rw [stages_append]
    change x ∈ stages history ++ [] ↔ _
    simp

theorem Grows.trans {middle : Table (ProposalEvent π ρ)} {new' : List (Uuid × Stage)}
    (hg : Grows h outbox middle history new)
    (hg' : ∀ history', Trail h middle history' → Grows h middle outbox' history' new') :
    Grows h outbox outbox' history (new' ++ new) := by
  obtain ⟨added, rows, ht, hstages⟩ := hg
  obtain ⟨added', rows', ht', hstages'⟩ := hg' _ ht
  refine ⟨added ++ added', by rw [rows', rows, List.append_assoc], ?_, ?_⟩
  · rw [← List.append_assoc]
    exact ht'
  · intro x
    rw [← List.append_assoc, hstages', hstages, List.mem_append, or_assoc]

end

section
variable {h : ProposalDigests π ρ} {A : Permits β π ρ} {db db' : ProposalDb β π ρ}
  {history : List (ProposalEvent π ρ)} {recorded recorded' new : List (Uuid × Stage)}

theorem ended_replaced {p q : ActionProposal π ρ} (hdb : Ended db.proposals recorded)
    (current : db.proposals.get? p.id = some p)
    (hget : ∀ id, db'.proposals.get? id = if id = p.id then some q else db.proposals.get? id)
    (hid : q.id = p.id) (hnew : ∀ x, x ∈ recorded' ↔ x ∈ new ∨ x ∈ recorded)
    (hown : ∀ x ∈ new, x.1 = p.id)
    (reached : ∀ s, ¬ s.isActive → (q.status = s ↔ (p.id, s.stage) ∈ new ∨ p.status = s)) :
    Ended db'.proposals recorded' := by
  intro id s hs
  have hbefore := hdb id s hs
  have hp := (Table.get?_eq_some.mp current).1
  rw [hnew]
  by_cases hidp : id = p.id
  · subst hidp
    have hold : (∃ r ∈ db.proposals.rows, r.id = p.id ∧ r.status = s) ↔ p.status = s := by
      constructor
      · rintro ⟨r, hr, hrid, hrs⟩
        rw [← Table.eq_of_key hr hp hrid]
        exact hrs
      · exact fun hps => ⟨p, hp, rfl, hps⟩
    have hlast : (∃ r ∈ db'.proposals.rows, r.id = p.id ∧ r.status = s) ↔ q.status = s := by
      constructor
      · rintro ⟨r, hr, hrid, hrs⟩
        rcases (mem_replaced hget hid r).mp hr with rfl | ⟨-, hne⟩
        · exact hrs
        · exact absurd hrid hne
      · exact fun hqs => ⟨q, (mem_replaced hget hid q).mpr (Or.inl rfl), hid, hqs⟩
    rw [hlast, reached s hs, ← hold, hbefore]
  · have hnot : (id, s.stage) ∉ new := fun hmem => hidp (hown _ hmem)
    have hothers : (∃ r ∈ db'.proposals.rows, r.id = id ∧ r.status = s) ↔
        ∃ r ∈ db.proposals.rows, r.id = id ∧ r.status = s := by
      constructor
      · rintro ⟨r, hr, hrid, hrs⟩
        rcases (mem_replaced hget hid r).mp hr with rfl | ⟨hr, -⟩
        · exact absurd (hrid.symm.trans hid) hidp
        · exact ⟨r, hr, hrid, hrs⟩
      · rintro ⟨r, hr, hrid, hrs⟩
        refine ⟨r, (mem_replaced hget hid r).mpr (Or.inr ⟨hr, ?_⟩), hrid, hrs⟩
        rw [hrid]
        exact hidp
    rw [hothers, hbefore]
    exact ⟨Or.inr, fun h => h.resolve_left hnot⟩

theorem claimed_reached {p q : ActionProposal π ρ} (confirmed : p.status = .confirmed)
    (hid : q.id = p.id) (s : ProposalStatus) (hs : ¬ s.isActive) :
    q.status = s ↔
      (p.id, s.stage) ∈ [(q.id, q.status.stage), (p.id, .commitStarted)] ∨ p.status = s := by
  have hstarted : s.stage ≠ .commitStarted := by
    rintro h
    rw [show s = .committing from stage_injective h] at hs
    exact hs trivial
  have hp : p.status ≠ s := by
    rintro rfl
    rw [confirmed] at hs
    exact hs trivial
  simp only [List.mem_cons, Prod.mk.injEq, hid, true_and, hstarted, List.not_mem_nil, or_false, hp]
  constructor
  · rintro rfl
    rfl
  · exact fun h => (stage_injective h).symm

theorem dbStep_trail (hn : DistinctNames h)
    (generated : ∀ id, A.rejections id → ∀ name, h.uuid5 name ≠ id.str) (hs : DbStep h A db db')
    (ht : Trail h db.outbox history) (hdb : Ended db.proposals (stages history)) :
    ∃ new, Grows h db.outbox db'.outbox history new ∧
      ∀ recorded, (∀ x, x ∈ recorded ↔ x ∈ new ∨ x ∈ stages history) →
        Ended db'.proposals recorded := by
  cases hs with
  | @moved _ p q stage registry clock current locked step saved =>
    refine ⟨_, advance_grows hn ht (rowStep_stage step) saved rfl, fun recorded hrecorded => ?_⟩
    have hid := rowStep_id step
    refine ended_replaced hdb current (get?_advance saved current hid) hid hrecorded ?_ ?_
    · intro x hx
      rw [List.mem_singleton.mp hx]
      exact hid
    · intro s hs
      rw [List.mem_singleton, Prod.mk.injEq, ← rowStep_stage step]
      constructor
      · rintro rfl
        exact Or.inl ⟨hid.symm, rfl⟩
      · rintro (⟨-, hstage⟩ | hps)
        · exact (stage_injective hstage).symm
        · rw [rowStep_of_ended step (by rw [hps]; exact hs)]
          exact hps
  | @overtaken claimed _ p registry clock now done reason current locked confirmed inTime claim
      saved =>
    have hgrows := (advance_grows hn ht rfl claim rfl).trans fun history' ht' =>
      advance_grows hn ht' rfl saved rfl
    refine ⟨_, hgrows, fun recorded hrecorded => ?_⟩
    have hget := get?_claimed claim saved current rfl rfl
    refine ended_replaced hdb current hget rfl hrecorded ?_ (claimed_reached confirmed rfl)
    intro x hx
    simp only [List.singleton_append, List.mem_cons, List.not_mem_nil, or_false] at hx
    rcases hx with rfl | rfl <;> rfl
  | @executed claimed _ p executed _ registry clock specification now done result current
      locked confirmed inTime admitted registered claim run saved =>
    have hgrows := (advance_grows hn ht rfl claim rfl).trans fun history' ht' =>
      advance_grows hn ht' rfl saved rfl
    refine ⟨_, hgrows, fun recorded hrecorded => ?_⟩
    have hget := get?_claimed claim saved current rfl rfl
    refine ended_replaced hdb current hget rfl hrecorded ?_ (claimed_reached confirmed rfl)
    intro x hx
    simp only [List.singleton_append, List.mem_cons, List.not_mem_nil, or_false] at hx
    rcases hx with rfl | rfl <;> rfl
  | rejected eventId now operation customerId e attempted permitted saved =>
    refine ⟨_, rejection_grows ht (generated eventId permitted) saved, fun recorded hrecorded => ?_⟩
    rw [proposals_of_rejection saved]
    intro id s hs
    rw [hdb id s hs, hrecorded]
    simp
  | inserted registry clock specification v expiresAt saved =>
    obtain ⟨t, hinsert, hproposals, -, -, hrecord⟩ := insertProposal_eq_ok saved
    refine ⟨_, recordTransition_grows hn ht rfl hrecord rfl, fun recorded hrecorded => ?_⟩
    rw [hproposals]
    intro id s hs
    have hstage : (id, s.stage) ∉ [(v.id, Stage.proposed)] := by
      intro hx
      have hproposed : s = .proposed :=
        stage_injective (congrArg Prod.snd (List.mem_singleton.mp hx))
      rw [hproposed] at hs
      exact hs trivial
    rw [hrecorded, ← hdb id s hs]
    constructor
    · rintro ⟨r, hr, hid, hrs⟩
      rcases (Table.mem_insert hinsert).mp hr with hr | rfl
      · exact Or.inr ⟨r, hr, hid, hrs⟩
      · exact absurd (by trivial) (hrs ▸ hs)
    · rintro (hx | ⟨r, hr, hid, hrs⟩)
      · exact absurd hx hstage
      · exact ⟨r, (Table.mem_insert hinsert).mpr (Or.inl hr), hid, hrs⟩

structure InStep (h : ProposalDigests π ρ) (db : ProposalDb β π ρ)
    (history : List (ProposalEvent π ρ)) : Prop where
  trail : Trail h db.outbox history
  ended : Ended db.proposals (stages history)

theorem path_inStep (hn : DistinctNames h)
    (generated : ∀ id, A.rejections id → ∀ name, h.uuid5 name ≠ id.str)
    (hs : ReflTransGen (DbStep h A) db db') (hdb : InStep h db history) :
    ∃ added, db'.outbox.rows = db.outbox.rows ++ added ∧ InStep h db' (history ++ added) := by
  induction hs with
  | refl => exact ⟨[], by simp, by simpa using hdb⟩
  | tail _ hstep ih =>
    obtain ⟨added, rows, hmid⟩ := ih
    obtain ⟨new, ⟨added', rows', ht, hstages⟩, hended⟩ :=
      dbStep_trail hn generated hstep hmid.trail hmid.ended
    refine ⟨added ++ added', by rw [rows', rows, List.append_assoc], ?_⟩
    rw [← List.append_assoc]
    exact ⟨ht, hended _ hstages⟩

theorem newEvents_of_append {before after : Table (ProposalEvent π ρ)}
    {added : List (ProposalEvent π ρ)} (rows : after.rows = before.rows ++ added) :
    newEvents before after = added := by
  have hold : before.rows.filter (fun e => (before.get? e.eventId).isNone) = [] := by
    refine List.filter_eq_nil_iff.mpr fun e he => ?_
    rw [show before.get? e.eventId = some e from Table.get?_of_mem he]
    simp
  have hnew : added.filter (fun e => (before.get? e.eventId).isNone) = added := by
    refine List.filter_eq_self.mpr fun e he => ?_
    rw [Option.isNone_iff_eq_none, Table.get?_eq_none]
    intro r hr hid
    have hdistinct := after.distinct
    rw [rows] at hdistinct
    exact (List.pairwise_append.mp hdistinct).2.2 r hr e he (Row.clash_of_key hid)
  rw [newEvents, rows, List.filter_append, hold, hnew, List.nil_append]

theorem newEvents_of_subset {before after : Table (ProposalEvent π ρ)}
    (subset : ∀ e ∈ after.rows, e ∈ before.rows) : newEvents before after = [] := by
  refine List.filter_eq_nil_iff.mpr fun e he => ?_
  rw [show before.get? e.eventId = some e from Table.get?_of_mem (subset e he)]
  simp

theorem prune_inStep (hdb : InStep h db history) (retained : Timestamp)
    (checkpoint : Option Timestamp) :
    (∀ e ∈ (pruneHistoricalAuditEvents db retained checkpoint).outbox.rows, e ∈ db.outbox.rows) ∧
      InStep h (pruneHistoricalAuditEvents db retained checkpoint) history := by
  cases checkpoint with
  | none => exact ⟨fun _ he => he, hdb⟩
  | some checkpoint =>
    have hsubset : ∀ e ∈ (pruneHistoricalAuditEvents db retained (some checkpoint)).outbox.rows,
        e ∈ db.outbox.rows := fun e he => (List.mem_filter.mp he).1
    refine ⟨hsubset, ⟨⟨fun e he => hdb.trail.listed e (hsubset e he), hdb.trail.form,
      hdb.trail.paired, hdb.trail.once, ?_⟩, hdb.ended⟩⟩
    intro e he hsnapshot
    refine List.mem_filter.mpr ⟨hdb.trail.kept e he hsnapshot, ?_⟩
    obtain ⟨x, hx⟩ := Option.ne_none_iff_exists'.mp hsnapshot
    have htype := ((hdb.trail.form e he).snapshot_id hx).2
    simp [htype]

end

section
variable {h : ProposalDigests π ρ} {db : ProposalDb β π ρ} {history : List (ProposalEvent π ρ)}

theorem length_filter_eq {α γ : Type} [DecidableEq γ] (f : α → Option γ) (x : γ) (l : List α) :
    (l.filter fun a => f a = some x).length = (l.filterMap f).count x := by
  rw [List.count_filterMap, List.countP_eq_length_filter]
  congr 1
  exact List.filter_congr fun a _ => by rw [Bool.eq_iff_iff, decide_eq_true_eq, beq_iff_eq]

theorem length_filter_le_one {α γ : Type} [DecidableEq γ] {f : α → Option γ} {l : List α}
    (hl : (l.filterMap f).Nodup) (x : γ) : (l.filter fun a => f a = some x).length ≤ 1 := by
  rw [length_filter_eq]
  exact List.nodup_iff_count_le_one.mp hl x

theorem filter_singleton_iff {α γ : Type} [DecidableEq γ] {f : α → Option γ} {x : γ} {l : List α}
    (hl : (l.filterMap f).Nodup) :
    (∃ a, (l.filter fun a => f a = some x) = [a]) ↔ x ∈ l.filterMap f := by
  rw [← List.length_eq_one_iff, length_filter_eq]
  constructor
  · intro h
    exact List.count_pos_iff.mp (by omega)
  · exact fun h => List.count_eq_one_of_mem hl h

theorem InStep.events_nodup (hdb : InStep h db history) : (history.filterMap eventOf).Nodup := by
  rw [hdb.trail.paired]
  refine List.Nodup.map ?_ hdb.trail.once
  rintro ⟨i, s⟩ ⟨j, t⟩ hpair
  obtain ⟨hid, htype⟩ := Prod.mk.inj hpair
  exact Prod.ext hid (eventTypeOf_injective htype)

theorem InStep.recordedOnce (hdb : InStep h db history) : RecordedOnce history := by
  intro id stage
  exact ⟨length_filter_le_one hdb.events_nodup _, length_filter_le_one hdb.trail.once _⟩

theorem Form.state_iff {e : ProposalEvent π ρ} (he : Form h e) (id : Uuid) (s : ProposalStatus) :
    stateOf e = some (id, s) ↔ snapshotOf e = some (id, s.stage) := by
  cases he with
  | snapshot p stage json archived reached eventId eventType payload =>
    subst reached
    simp only [stateOf, snapshotOf, payload, TransitionSnapshot.state, Option.some.injEq,
      Prod.mk.injEq, stage_injective.eq_iff]
  | event p stage artifactId digest eventId eventType payload => simp [stateOf, snapshotOf, payload]
  | rejection operation customerId reasonCode attempted generated payload =>
    simp [stateOf, snapshotOf, payload]

theorem Form.ownDigest {e : ProposalEvent π ρ} (he : Form h e) {x : Uuid × Stage}
    (hs : snapshotOf e = some x) : OwnDigest h e := by
  cases he with
  | snapshot p stage json archived reached eventId eventType payload =>
    exact ⟨_, _, _, _, json, payload, archived, rfl⟩
  | event p stage artifactId digest eventId eventType payload => simp [snapshotOf, payload] at hs
  | rejection operation customerId reasonCode attempted generated payload =>
    simp [snapshotOf, payload] at hs

theorem InStep.evidencedEnd_iff (hdb : InStep h db history) (id : Uuid) (s : ProposalStatus) :
    EvidencedEnd h history id s ↔ (id, s.stage) ∈ stages history := by
  have hsame : (history.filter fun e => stateOf e = some (id, s)) =
      history.filter fun e => snapshotOf e = some (id, s.stage) :=
    List.filter_congr fun e he => by simp [(hdb.trail.form e he).state_iff]
  constructor
  · rintro ⟨-, e, he, -⟩
    rw [hsame] at he
    exact (filter_singleton_iff hdb.trail.once).mp ⟨e, he⟩
  · intro hstage
    constructor
    · refine (filter_singleton_iff hdb.events_nodup).mpr ?_
      rw [hdb.trail.paired]
      exact List.mem_map.mpr ⟨_, hstage, rfl⟩
    · obtain ⟨e, he⟩ := (filter_singleton_iff hdb.trail.once).mpr hstage
      have hmem : e ∈ history ∧ snapshotOf e = some (id, s.stage) := by
        have := List.mem_filter.mp (he ▸ List.mem_singleton_self e)
        exact ⟨this.1, of_decide_eq_true this.2⟩
      exact ⟨e, hsame.trans he, (hdb.trail.form e hmem.1).ownDigest hmem.2⟩

end

section
variable {h : ProposalDigests (BoundPayload π) ρ} {db db' : ProposalDb β (BoundPayload π) ρ}
  {history : List (ProposalEvent (BoundPayload π) ρ)}

/-- Requests whose rejections are recorded under ids that no name has. -/
def generated (h : ProposalDigests (BoundPayload π) ρ) : ServicePermits β π ρ :=
  ⟨fun _ => True, fun id => ∀ name, h.uuid5 name ≠ id.str⟩

theorem writes_inStep (hn : DistinctNames h) {rows : Uuid → Prop}
    (hw : Writes h (generated h) rows db db') (hdb : InStep h db history) :
    InStep h db' (history ++ newEvents db.outbox db'.outbox) := by
  rcases hw with hpath | ⟨retained, checkpoint, rfl⟩
  · obtain ⟨added, hrows, hlast⟩ := path_inStep hn (fun _ hid => hid) hpath hdb
    rw [newEvents_of_append hrows]
    exact hlast
  · obtain ⟨hsubset, hlast⟩ := prune_inStep hdb retained checkpoint
    rw [newEvents_of_subset hsubset, List.append_nil]
    exact hlast

variable {κ : Type}

/-- No stage has a second event or snapshot, and a proposal is in a final status exactly if one
event and one snapshot of that were ever committed. -/
def Evidenced (h : ProposalDigests (BoundPayload π) ρ)
    (s : ActionWorld κ β π ρ ι × List (ProposalEvent (BoundPayload π) ρ)) : Prop :=
  RecordedOnce s.2 ∧ ∀ id status, ¬ status.isActive →
    ((∃ p ∈ s.1.db.proposals.rows, p.id = id ∧ p.status = status) ↔ EvidencedEnd h s.2 id status)

variable [DecidableEq κ] [DecidableEq ρ]

/-- The service beside the history of all rows that were ever committed to its outbox. -/
def recordedService (h : ProposalDigests (BoundPayload π) ρ) :
    Machine (ActionWorld κ β π ρ ι × List (ProposalEvent (BoundPayload π) ρ))
      (ActionEvent κ β π ρ ι) :=
  (machine (proposalService h) (ServiceRequest.Uses (generated h))).recording
    fun w w' => newEvents w.db.outbox w'.db.outbox

/-- In every run of the service, with pruning in between, statuses and evidence are in step. -/
theorem evidence_in_step (hn : DistinctNames h) (noProposals : db.proposals.rows = [])
    (noEvents : db.outbox.rows = []) {es : List (ActionEvent κ β π ρ ι)}
    (run : (recordedService h).Run (World.quiet db, []) es) :
    (recordedService h).Throughout (Evidenced h) (World.quiet db, []) es := by
  have hstart : InStep h db [] := by
    refine ⟨⟨?_, ?_, rfl, List.nodup_nil, ?_⟩, ?_⟩
    · simp [noEvents]
    · simp
    · simp
    · intro id s _
      simp [noProposals]
  have hsettled : AllSettled db := by simp [AllSettled, noProposals]
  have hall : (recordedService (ι := ι) h).Throughout
      (fun s => ServiceInformed (generated h) s.1 ∧ InStep h s.1.db s.2)
        (World.quiet db, []) es := by
    refine throughout_of_each ?_ ⟨informed_quiet hsettled, hstart⟩ run
    rintro ⟨w, history⟩ e ⟨hw, hdb⟩ he
    exact ⟨event_informed hw he, writes_inStep hn (event_writes hw he) hdb⟩
  refine hall.mono fun s hs => ⟨hs.2.recordedOnce, fun id status hstatus => ?_⟩
  rw [hs.2.evidencedEnd_iff]
  exact hs.2.ended id status hstatus

theorem reissueNames_distinct : DistinctNames reissueServiceDigests := by
  intro s t h
  have hl := congrArg String.toList h
  change ("uuid5:" ++ s).toList = ("uuid5:" ++ t).toList at hl
  rw [String.toList_append, String.toList_append] at hl
  exact String.toList_inj.mp (List.append_cancel_left hl)

theorem mem_uuid_str {id : Uuid} {c : Char} (hc : c ∈ id.str.toList) :
    c = '-' ∨ ∃ d, c = Uuid.hexDigit d := by
  by_cases hsep : c = '-'
  · exact Or.inl hsep
  · have hfilter : c ∈ id.str.toList.filter (fun a => a ≠ '-') :=
      List.mem_filter.mpr ⟨hc, by simpa using hsep⟩
    rw [show id.str.toList = Uuid.grouped '-' (id.digits.map Uuid.hexDigit) from
      String.toList_ofList, Uuid.filter_grouped] at hfilter
    obtain ⟨d, -, rfl⟩ := List.mem_map.mp (List.mem_filter.mp hfilter).1
    exact Or.inr ⟨d, rfl⟩

theorem reissueIds_generated (id : Uuid) (name : String) :
    reissueServiceDigests.uuid5 name ≠ id.str := by
  intro h
  have hmem : 'u' ∈ id.str.toList := by
    rw [← h]
    change 'u' ∈ ("uuid5:" ++ name).toList
    rw [String.toList_append]
    exact List.mem_append.mpr (Or.inl (by decide))
  rcases mem_uuid_str hmem with hc | ⟨d, hd⟩
  · cases hc
  · revert hd
    revert d
    decide

abbrev ReissueEvent := ActionEvent ℕ ℕ String Bool String

def reissueDeclined : List ReissueEvent :=
  let decline (now : Timestamp) := ServiceRequest.call (reissueRequest reissueRegistry now now
    (acceptedOn "turn-2" "turn-3") (.decide (.ofNat 1) (some .decline)))
  .start 0 (.call (reissueRequest reissueRegistry 1 1 (askedOn "turn-1") reissuePlaybook)) ::
    List.replicate 12 (.step 0) ++ .start 0 (decline 2) :: List.replicate 3 (.step 0) ++
    [.start 0 (.prune 9 (some 9)), .step 0] ++ .start 0 (decline 3) :: List.replicate 3 (.step 0)

def reissueRecorded : Machine (ActionWorld ℕ ℕ String Bool String ×
    List (ProposalEvent (BoundPayload String) Bool)) ReissueEvent :=
  recordedService reissueServiceDigests

theorem reissueDeclined_runs :
    reissueRecorded.Run (World.quiet (reissueServiceStore 0), []) reissueDeclined := by
  have hrun : (machine (proposalService reissueServiceDigests) fun _ => True).Run
      (World.quiet (reissueServiceStore 0)) reissueDeclined := by
    decide +kernel
  unfold reissueRecorded recordedService
  rw [recording_run]
  refine run_of_admitted hrun ?_
  intro i r hr
  simp only [reissueDeclined, List.cons_append, List.mem_cons, List.mem_append, List.mem_replicate,
    List.not_mem_nil, Event.start.injEq, reduceCtorEq, and_false, or_false, false_or] at hr
  rcases hr with ⟨-, rfl⟩ | (⟨-, rfl⟩ | ⟨-, rfl⟩) | ⟨-, rfl⟩
  · exact ⟨trivial, reissueIds_generated _⟩
  · exact ⟨trivial, reissueIds_generated _⟩
  · trivial
  · exact ⟨trivial, reissueIds_generated _⟩

theorem reissueDeclined_evidenced :
    reissueRecorded.Throughout (Evidenced reissueServiceDigests)
      (World.quiet (reissueServiceStore 0), []) reissueDeclined ∧
    (reissueRecorded.final (World.quiet (reissueServiceStore 0), []) reissueDeclined).2.length =
      6 :=
  ⟨evidence_in_step reissueNames_distinct rfl rfl reissueDeclined_runs, by decide +kernel⟩

end

end BankingService.EvidenceTrail
