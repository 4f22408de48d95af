import BankingService.Library.ReadCommitted
import BankingService.PlaybookWrites

/-! The repository's writes as transactions at READ COMMITTED. Drafts, edits and publications lock
the head of their playbook first; texts and closures of a change request lock nothing before the
statement that writes them, which compares the status again. -/
namespace BankingService

open Python Relational Checked ReadCommitted

variable {β : Type}

inductive PlaybookLock where
  | playbook (id : String)
  | revision (id : String) (revision : ℤ)
  | changeRequest (id : ℤ)
  deriving DecidableEq

inductive PlaybookAnswer (β : Type) where
  | drafted (view : DraftView β)
  | request (view : ChangeRequestView)
  deriving DecidableEq

abbrev PlaybookReply (β : Type) := Except RepositoryError (PlaybookAnswer β)

inductive PlaybookRequest (β : Type) where
  | create (document : Definition β) (newId : ℤ) (actor : String) (now : Timestamp)
      (title : Option String) (description : String)
  | createDraft (playbookId : String) (sourceRevision expectedGeneration newId : ℤ)
      (actor : String) (now : Timestamp) (title : Option String) (description : String)
  | restore (playbookId : String) (sourceRevision expectedGeneration newId : ℤ) (actor : String)
      (now : Timestamp) (title : Option String) (description : String)
  | recreateFromHead (playbookId : String)
      (changeRequestId expectedDraftVersion expectedGeneration newId : ℤ) (actor : String)
      (now : Timestamp)
  | edit (playbookId : String) (revision : ℤ) (document : Definition β)
      (expectedDraftVersion : ℤ) (actor : String) (now : Timestamp)
  | publish (playbookId : String) (revision : ℤ) (digest : String)
      (expectedDraftVersion expectedGeneration : ℤ) (actor : String) (now : Timestamp)
  | updateChangeRequest (playbookId : String) (changeRequestId expectedVersion : ℤ)
      (title description : Option String)
  | closeChangeRequest (playbookId : String) (changeRequestId : ℤ) (actor : String)
      (now : Timestamp)

def PlaybookRequest.locks : PlaybookRequest β → Option String
  | .createDraft p .. | .restore p .. | .recreateFromHead p .. | .edit p .. | .publish p .. =>
    some p
  | .create .. | .updateChangeRequest .. | .closeChangeRequest .. => none

def PlaybookRequest.draftRevision : PlaybookRequest β → Option ℤ
  | .edit _ revision .. | .publish _ revision .. => some revision
  | _ => none

/-- What a session has read, in the order of its statements. -/
inductive PlaybookSeen (β : Type) where
  | start
  | refused (e : RepositoryError)
  | headRead (head : Playbook)
  | oldRead (head : Playbook) (old : PlaybookChangeRequest)
  | rowRead (head : Playbook) (row : PlaybookRevision β)
  | ready (head : Playbook) (row : PlaybookRevision β) (cr : PlaybookChangeRequest)
  | edited (head : Playbook) (row : PlaybookRevision β) (cr : PlaybookChangeRequest)
  | requestRead (head : Playbook) (cr : PlaybookChangeRequest)

namespace PlaybookSeen

def found {α : Type} (call : Except RepositoryError α) (next : α → PlaybookSeen β) :
    PlaybookSeen β :=
  match call with
  | .ok a => next a
  | .error e => .refused e

def action : PlaybookRequest β → PlaybookSeen β → Action PlaybookLock
  | _, .refused _ | .create .., _ => .run []
  | r, .start =>
    match r.locks with
    | some p => .lock (.playbook p)
    | none => .read
  | .createDraft .., .rowRead _ _ | .restore .., .rowRead _ _ => .run []
  | .edit p revision .., .ready _ _ _ => .lock (.revision p revision)
  | _, .headRead _ | _, .oldRead _ _ | _, .rowRead _ _ => .read
  | _, .edited _ _ _ => .run []
  | _, .ready _ _ cr | _, .requestRead _ cr => .run [.changeRequest cr.id]

def afterHead (db : PlaybookDb β) (head : Playbook) : PlaybookRequest β → PlaybookSeen β
  | .createDraft p revision .. | .restore p revision .. | .edit p revision ..
  | .publish p revision .. => found (findRow db p revision) (.rowRead head)
  | .recreateFromHead p changeRequestId .. =>
    found (do
      let old ← findRequest db p changeRequestId
      requireOpen old "The change request is no longer open."
      return old) (.oldRead head)
  | .updateChangeRequest p changeRequestId .. | .closeChangeRequest p changeRequestId .. =>
    found (findRequest db p changeRequestId) (.requestRead head)
  | .create .. => .headRead head

/-- The change request of a draft; an edit is compared with the draft next. -/
def afterRow (db : PlaybookDb β) (head : Playbook) (row : PlaybookRevision β) :
    PlaybookRequest β → PlaybookSeen β
  | .publish p revision .. => found (openRequestFor db p revision) (.ready head row)
  | .edit p revision document expectedDraftVersion .. =>
    found (do
      let cr ← openRequestFor db p revision
      checkEdit row document expectedDraftVersion
      return cr) (.ready head row)
  | _ => .rowRead head row

def observe (db : PlaybookDb β) (r : PlaybookRequest β) : PlaybookSeen β → PlaybookSeen β
  | .start =>
    match r with
    | .createDraft p .. | .restore p .. | .recreateFromHead p .. | .edit p .. | .publish p ..
    | .updateChangeRequest p .. | .closeChangeRequest p .. => found (findHead db p) .headRead
    | .create .. => .start
  | .headRead head => afterHead db head r
  | .oldRead head old =>
    match r with
    | .recreateFromHead p .. => found (findRow db p old.revision) fun row => .ready head row old
    | _ => .oldRead head old
  | .rowRead head row => afterRow db head row r
  | .ready head row cr =>
    match r with
    | .edit _ _ _ expectedDraftVersion .. =>
      found (claimEdit db row expectedDraftVersion) fun _ => .edited head row cr
    | _ => .ready head row cr
  | seen => seen

def writes (db : PlaybookDb β) : PlaybookRequest β → PlaybookSeen β →
    Except RepositoryError (PlaybookDb β × PlaybookAnswer β)
  | _, .refused e => .error e
  | .create document newId actor now title description, _ => do
    let (db, view) ← createPlaybook db document newId actor now title description
    return (db, .drafted view)
  | .createDraft _ _ expectedGeneration newId actor now title description, .rowRead head row => do
    let (db, view) ←
      draftFromHead db head row expectedGeneration newId actor now title description
    return (db, .drafted view)
  | .restore _ _ expectedGeneration newId actor now title description, .rowRead head row => do
    let (db, view) ←
      draftFromHistory db head row expectedGeneration newId actor now title description
    return (db, .drafted view)
  | .recreateFromHead _ _ expectedDraftVersion expectedGeneration newId actor now,
      .ready head row old => do
    let (db, view) ←
      replaceDraft db head old row expectedDraftVersion expectedGeneration newId actor now
    return (db, .drafted view)
  | .edit _ _ document expectedDraftVersion actor now, .edited head row cr => do
    let (db, view) ← writeEdit db head row cr document expectedDraftVersion actor now
    return (db, .drafted view)
  | .publish _ _ digest expectedDraftVersion expectedGeneration actor now, .ready head row cr => do
    let (db, view) ←
      publishRow db head row cr digest expectedDraftVersion expectedGeneration actor now
    return (db, .drafted view)
  | .updateChangeRequest _ _ expectedVersion title description, .requestRead head cr => do
    let (db, view) ← reviseRequest db head cr expectedVersion title description
    return (db, .request view)
  | .closeChangeRequest _ _ actor now, .requestRead head cr => do
    let (db, view) ← closeRequest db head cr actor now
    return (db, .request view)
  | _, _ => .error (.database .operationalError)

/-- Commits the writes, or rolls back. -/
def body (db : PlaybookDb β) (r : PlaybookRequest β) (seen : PlaybookSeen β) :
    Outcome (PlaybookDb β) (PlaybookSeen β) (PlaybookReply β) :=
  match writes db r seen with
  | .ok (db', a) => .finish db' (.ok a)
  | .error e => .finish db (.error e)

end PlaybookSeen

def playbookService : Program (PlaybookDb β) (PlaybookRequest β) (fun _ => PlaybookSeen β)
    PlaybookLock (PlaybookReply β) where
  enter _ := .start
  action := PlaybookSeen.action
  observe := PlaybookSeen.observe
  body := PlaybookSeen.body

abbrev PlaybookSession (β : Type) := Session fun _ : PlaybookRequest β => PlaybookSeen β

/-- The head that a session has locked. -/
def HeadLocked (s : PlaybookSession β) (k : PlaybookLock) : Prop :=
  match s.seen with
  | .start | .refused _ => False
  | _ => ∃ p ∈ s.request.locks, k = .playbook p

/-- The session's copy of the head is the stored one. -/
def HeadAt (playbookId : String) (head : Playbook) (db : PlaybookDb β) : Prop :=
  head.id = playbookId ∧ db.playbooks.get? playbookId = some head

def RowAt (playbookId : String) (row : PlaybookRevision β) (db : PlaybookDb β) : Prop :=
  row.playbookId = playbookId ∧ db.revisions.get? (playbookId, row.revision) = some row

/-- The row that an edit is checked against is a draft of the same identity. -/
def EditChecked (r : PlaybookRequest β) (row : PlaybookRevision β) : Prop :=
  match r with
  | .edit _ _ document .. => row.status = .draft ∧ SameIdentity document row.document
  | _ => True

def Known (db : PlaybookDb β) (s : PlaybookSession β) : Prop :=
  ∀ p ∈ s.request.locks,
    match s.seen with
    | .start | .refused _ | .requestRead _ _ => True
    | .headRead head => HeadAt p head db
    | .oldRead head old => HeadAt p head db ∧ Tracked old db ∧ old.playbookId = p
    | .rowRead head row => HeadAt p head db ∧ RowAt p row db ∧
        ∀ revision ∈ s.request.draftRevision, row.revision = revision
    | .ready head row cr => HeadAt p head db ∧ RowAt p row db ∧ EditChecked s.request row ∧
        Tracked cr db ∧ cr.playbookId = p ∧ cr.revision = row.revision
    | .edited head row _ => HeadAt p head db ∧ RowAt p row db ∧ EditChecked s.request row

theorem found_cases {α : Type} {call : Except RepositoryError α} {next : α → PlaybookSeen β}
    (P : PlaybookSeen β → Prop) (refused : ∀ e, P (.refused e))
    (ok : ∀ a, call = .ok a → P (next a)) : P (PlaybookSeen.found call next) := by
  cases call with
  | ok a => exact ok a rfl
  | error e => exact refused e

section
variable {db db' : PlaybookDb β} {r : PlaybookRequest β} {t : PlaybookSeen β} {p : String}

theorem headAt_of_find {head : Playbook} (h : findHead db p = .ok head) : HeadAt p head db := by
  rw [findHead, orRaise_eq_ok] at h
  exact ⟨(Table.get?_eq_some.mp h).2, h⟩

theorem rowAt_of_find {revision : ℤ} {row : PlaybookRevision β}
    (h : findRow db p revision = .ok row) : RowAt p row db ∧ row.revision = revision := by
  rw [findRow, orRaise_eq_ok] at h
  obtain ⟨hp, hr⟩ := Prod.mk.inj (Table.get?_eq_some.mp h).2
  exact ⟨⟨hp, by rw [← hr] at h; exact h⟩, hr⟩

theorem tracked_of_stored {c : PlaybookChangeRequest} {id : ℤ}
    (h : db.changeRequests.get? id = some c) : Tracked c db := by
  have hid : c.id = id := (Table.get?_eq_some.mp h).2
  exact ⟨c, by rw [hid]; exact h, rfl, rfl, rfl⟩

theorem tracked_of_find {id : ℤ} {c : PlaybookChangeRequest} (h : findRequest db p id = .ok c) :
    Tracked c db ∧ c.playbookId = p := by
  rw [findRequest, orRaise_eq_ok, Option.filter_eq_some_iff] at h
  exact ⟨tracked_of_stored h.1, by simpa using h.2⟩

theorem tracked_of_open {revision : ℤ} {c : PlaybookChangeRequest}
    (h : openRequestFor db p revision = .ok c) :
    Tracked c db ∧ c.playbookId = p ∧ c.revision = revision := by
  rw [openRequestFor, orRaise_eq_ok, Option.filter_eq_some_iff, requestFor] at h
  obtain ⟨hmem, hfor⟩ := Table.first?_mem h.1
  exact ⟨tracked_of_stored (Table.get?_of_mem hmem), hfor⟩

theorem known_afterHead {head : Playbook} (hk : ∀ q ∈ r.locks, HeadAt q head db) :
    Known db ⟨r, PlaybookSeen.afterHead db head r⟩ := by
  intro p hp
  have hhead := hk p hp
  cases r with
  | create | updateChangeRequest | closeChangeRequest => cases hp
  | createDraft | restore =>
    cases hp
    refine found_cases (fun t => Known db ⟨_, t⟩) (fun _ _ _ => trivial) ?_ _ rfl
    rintro row hfound q ⟨⟩
    exact ⟨hhead, (rowAt_of_find hfound).1, fun _ hr => nomatch hr⟩
  | edit | publish =>
    cases hp
    refine found_cases (fun t => Known db ⟨_, t⟩) (fun _ _ _ => trivial) ?_ _ rfl
    rintro row hfound q ⟨⟩
    obtain ⟨hrow, hrevision⟩ := rowAt_of_find hfound
    refine ⟨hhead, hrow, ?_⟩
    rintro revision ⟨⟩
    exact hrevision
  | recreateFromHead =>
    cases hp
    refine found_cases (fun t => Known db ⟨_, t⟩) (fun _ _ _ => trivial) ?_ _ rfl
    rintro old hfound q ⟨⟩
    simp only [bind_eq_ok, pure_eq_ok] at hfound
    obtain ⟨old, hold, -, -, rfl⟩ := hfound
    exact ⟨hhead, tracked_of_find hold⟩

theorem known_afterRow {head : Playbook} {row : PlaybookRevision β}
    (hk : Known db ⟨r, .rowRead head row⟩) : Known db ⟨r, PlaybookSeen.afterRow db head row r⟩ := by
  intro p hp
  obtain ⟨hhead, hrow, hrevision⟩ := hk p hp
  cases r with
  | create | updateChangeRequest | closeChangeRequest => cases hp
  | createDraft | restore | recreateFromHead => exact ⟨hhead, hrow, hrevision⟩
  | publish =>
    cases hp
    refine found_cases (fun t => Known db ⟨_, t⟩) (fun _ _ _ => trivial) ?_ _ rfl
    rintro cr hfound q ⟨⟩
    obtain ⟨htracked, hplaybook, hfor⟩ := tracked_of_open hfound
    exact ⟨hhead, hrow, trivial, htracked, hplaybook, hfor.trans (hrevision _ rfl).symm⟩
  | edit =>
    cases hp
    refine found_cases (fun t => Known db ⟨_, t⟩) (fun _ _ _ => trivial) ?_ _ rfl
    rintro cr hfound q ⟨⟩
    simp only [checkEdit, requireDraft, bind_eq_ok, require_eq_ok, pure_eq_ok] at hfound
    obtain ⟨cr, hopen, -, ⟨-, hdraft, hidentity⟩, rfl⟩ := hfound
    obtain ⟨htracked, hplaybook, hfor⟩ := tracked_of_open hopen
    exact ⟨hhead, hrow, ⟨hdraft.1, hidentity⟩, htracked, hplaybook,
      hfor.trans (hrevision _ rfl).symm⟩

theorem known_observe (hk : Known db ⟨r, t⟩) : Known db ⟨r, playbookService.observe db r t⟩ := by
  intro p hp
  cases t with
  | start =>
    cases r with
    | create | updateChangeRequest | closeChangeRequest => cases hp
    | _ =>
      cases hp
      refine found_cases (fun t => Known db ⟨_, t⟩) (fun _ _ _ => trivial) ?_ _ rfl
      rintro head hfound q ⟨⟩
      exact headAt_of_find hfound
  | refused => trivial
  | headRead head => exact known_afterHead (fun q hq => hk q hq) p hp
  | oldRead head old =>
    cases r with
    | recreateFromHead =>
      cases hp
      obtain ⟨hhead, htracked, hplaybook⟩ := hk _ rfl
      refine found_cases (fun t => Known db ⟨_, t⟩) (fun _ _ _ => trivial) ?_ _ rfl
      rintro row hfound q ⟨⟩
      obtain ⟨hrow, hrevision⟩ := rowAt_of_find hfound
      exact ⟨hhead, hrow, trivial, htracked, hplaybook, hrevision.symm⟩
    | _ => exact hk p hp
  | rowRead head row => exact known_afterRow hk p hp
  | ready head row cr =>
    cases r with
    | edit =>
      cases hp
      obtain ⟨hhead, hrow, hchecked, -⟩ := hk _ rfl
      refine found_cases (fun t => Known db ⟨_, t⟩) (fun _ _ _ => trivial) ?_ _ rfl
      rintro _ - q ⟨⟩
      exact ⟨hhead, hrow, hchecked⟩
    | _ => exact hk p hp
  | edited => exact hk p hp
  | requestRead => trivial

theorem known_write {s : PlaybookSession β} {locked : Option String} {o : Option Publication}
    (h : PlaybookWrite db locked o db')
    (kept : ∀ p ∈ s.request.locks, (∀ k, ¬ HeadLocked s k) ∨ PlaybookKept p db db')
    (hk : Known db s) : Known db' s := by
  obtain ⟨r, t⟩ := s
  intro p hp
  have hcopy : (∃ k, HeadLocked ⟨r, t⟩ k) → PlaybookKept p db db' := by
    rintro ⟨k, hlocked⟩
    exact (kept p hp).resolve_left fun hnone => hnone k hlocked
  have hthis := hk p hp
  cases t with
  | start | refused | requestRead => trivial
  | headRead head =>
    have hkept := hcopy ⟨_, p, hp, rfl⟩
    exact ⟨hthis.1, hkept.head _ hthis.2⟩
  | oldRead head old =>
    have hkept := hcopy ⟨_, p, hp, rfl⟩
    obtain ⟨hhead, htracked, hplaybook⟩ := hthis
    exact ⟨⟨hhead.1, hkept.head _ hhead.2⟩, tracked_write h htracked, hplaybook⟩
  | rowRead head row =>
    have hkept := hcopy ⟨_, p, hp, rfl⟩
    obtain ⟨hhead, hrow, hrevision⟩ := hthis
    exact ⟨⟨hhead.1, hkept.head _ hhead.2⟩, ⟨hrow.1, hkept.rows _ _ hrow.2⟩, hrevision⟩
  | ready head row cr =>
    have hkept := hcopy ⟨_, p, hp, rfl⟩
    obtain ⟨hhead, hrow, hchecked, htracked, hfor⟩ := hthis
    exact ⟨⟨hhead.1, hkept.head _ hhead.2⟩, ⟨hrow.1, hkept.rows _ _ hrow.2⟩, hchecked,
      tracked_write h htracked, hfor⟩
  | edited head row cr =>
    have hkept := hcopy ⟨_, p, hp, rfl⟩
    obtain ⟨hhead, hrow, hchecked⟩ := hthis
    exact ⟨⟨hhead.1, hkept.head _ hhead.2⟩, ⟨hrow.1, hkept.rows _ _ hrow.2⟩, hchecked⟩

def publicationOf (r : PlaybookRequest β) (a : PlaybookReply β) : Option Publication :=
  match r, a with
  | .publish .., .ok (.drafted view) =>
    some ⟨view.revision.id, view.revision.revision, view.revision.baseRevision⟩
  | _, _ => none

/-- A transaction that commits makes one of the writes, under the lock that it has. -/
theorem writes_write {a : PlaybookAnswer β} (hk : Known db ⟨r, t⟩)
    (h : PlaybookSeen.writes db r t = .ok (db', a)) :
    PlaybookWrite db r.locks (publicationOf r (.ok a)) db' := by
  cases r with
  | create =>
    cases t with
    | refused => cases h
    | _ =>
      simp only [PlaybookSeen.writes, bind_eq_ok, pure_eq_ok] at h
      obtain ⟨⟨db₁, view⟩, hwrite, h⟩ := h
      cases h
      exact createPlaybook_write hwrite
  | createDraft =>
    cases t with
    | rowRead head row =>
      simp only [PlaybookSeen.writes, bind_eq_ok, pure_eq_ok] at h
      obtain ⟨⟨db₁, view⟩, hwrite, h⟩ := h
      cases h
      obtain ⟨⟨rfl, hhead⟩, -⟩ := hk _ rfl
      exact draftFromHead_write hhead hwrite
    | _ => cases h
  | restore =>
    cases t with
    | rowRead head row =>
      simp only [PlaybookSeen.writes, bind_eq_ok, pure_eq_ok] at h
      obtain ⟨⟨db₁, view⟩, hwrite, h⟩ := h
      cases h
      obtain ⟨⟨rfl, hhead⟩, -⟩ := hk _ rfl
      exact draftFromHistory_write hhead hwrite
    | _ => cases h
  | recreateFromHead =>
    cases t with
    | ready head row old =>
      simp only [PlaybookSeen.writes, bind_eq_ok, pure_eq_ok] at h
      obtain ⟨⟨db₁, view⟩, hwrite, h⟩ := h
      cases h
      obtain ⟨⟨rfl, hhead⟩, -⟩ := hk _ rfl
      exact replaceDraft_write hhead hwrite
    | _ => cases h
  | edit =>
    cases t with
    | edited head row cr =>
      simp only [PlaybookSeen.writes, bind_eq_ok, pure_eq_ok] at h
      obtain ⟨⟨db₁, view⟩, hwrite, h⟩ := h
      cases h
      obtain ⟨-, ⟨rfl, hrow⟩, hdraft, hidentity⟩ := hk _ rfl
      exact writeEdit_write hrow hdraft hidentity hwrite
    | _ => cases h
  | publish =>
    cases t with
    | ready head row cr =>
      simp only [PlaybookSeen.writes, bind_eq_ok, pure_eq_ok] at h
      obtain ⟨⟨db₁, view⟩, hwrite, h⟩ := h
      cases h
      obtain ⟨⟨rfl, hhead⟩, ⟨howner, hrow⟩, -, ⟨c, hc, hbase, hplaybook, hrevision⟩, hfor⟩ :=
        hk _ rfl
      have hid : c.id = cr.id := (Table.get?_eq_some.mp hc).2
      rw [← howner] at hrow
      obtain ⟨hpublished, -, hview⟩ := publishRow_write hhead hrow howner (by rw [hid]; exact hc)
        ⟨hid.symm, hbase⟩
        ⟨hplaybook.trans (hfor.1.trans howner.symm), hrevision.trans hfor.2⟩ hwrite
      simp only [publicationOf, hview]
      exact hpublished
    | _ => cases h
  | updateChangeRequest =>
    cases t with
    | requestRead head cr =>
      simp only [PlaybookSeen.writes, bind_eq_ok, pure_eq_ok] at h
      obtain ⟨⟨db₁, view⟩, hwrite, h⟩ := h
      cases h
      exact reviseRequest_write hwrite
    | _ => cases h
  | closeChangeRequest =>
    cases t with
    | requestRead head cr =>
      simp only [PlaybookSeen.writes, bind_eq_ok, pure_eq_ok] at h
      obtain ⟨⟨db₁, view⟩, hwrite, h⟩ := h
      cases h
      exact closeRequest_write hwrite
    | _ => cases h

theorem body_cases (hk : Known db ⟨r, t⟩) :
    (∃ e, playbookService.body db r t = .finish db (.error e)) ∨
      ∃ db' a, playbookService.body db r t = .finish db' (.ok a) ∧
        PlaybookWrite db r.locks (publicationOf r (.ok a)) db' := by
  cases h : PlaybookSeen.writes db r t with
  | error e => exact Or.inl ⟨e, by simp only [playbookService, PlaybookSeen.body, h]⟩
  | ok result =>
    obtain ⟨db', a⟩ := result
    exact Or.inr ⟨db', a, by simp only [playbookService, PlaybookSeen.body, h], writes_write hk h⟩

theorem headLocked_of {k : PlaybookLock} (h : HeadLocked ⟨r, t⟩ k) :
    ∃ p ∈ r.locks, k = .playbook p := by
  cases t with
  | start | refused => exact h.elim
  | _ => exact h

theorem playbookService_claims : Claims (playbookService (β := β)) HeadLocked where
  enter _ _ hk := hk
  read db r t k ha hk := by
    have hlocks := headLocked_of hk
    cases t with
    | start =>
      obtain ⟨p, hp, -⟩ := hlocks
      simp only [playbookService, PlaybookSeen.action] at ha
      cases r with
      | create | updateChangeRequest | closeChangeRequest => cases hp
      | _ => cases ha
    | refused => exact hk
    | _ => exact hlocks
  lock db r t k k' ha hk := by
    have hlocks := headLocked_of hk
    cases t with
    | start =>
      obtain ⟨p, hp, rfl⟩ := hlocks
      cases r with
      | create | updateChangeRequest | closeChangeRequest => cases hp
      | _ =>
        cases hp
        cases ha
        exact Or.inl rfl
    | refused => exact Or.inr hk
    | _ => exact Or.inr hlocks
  resume db r t db' t' k rows _ hb := by
    simp only [playbookService, PlaybookSeen.body] at hb
    split at hb <;> cases hb

/-- A session that writes under a lock has the lock. -/
theorem headLocked_of_run {rows : List PlaybookLock} {a : PlaybookAnswer β}
    (ha : playbookService.action r t = .run rows)
    (h : PlaybookSeen.writes db r t = .ok (db', a)) (hp : p ∈ r.locks) :
    HeadLocked ⟨r, t⟩ (.playbook p) := by
  cases t with
  | start =>
    cases r with
    | create | updateChangeRequest | closeChangeRequest => cases hp
    | _ => cases ha
  | refused => cases r <;> cases h
  | _ => exact ⟨p, hp, rfl⟩

/-- A write leaves alone what the sessions know that do not share a lock with it. -/
theorem kept_of_apart {s : PlaybookSession β} {rows : List PlaybookLock} {a : PlaybookAnswer β}
    (hk : Known db ⟨r, t⟩) (ha : playbookService.action r t = .run rows)
    (h : PlaybookSeen.writes db r t = .ok (db', a))
    (apart : ∀ k, ¬ (HeadLocked s k ∧ HeadLocked ⟨r, t⟩ k)) :
    ∀ p ∈ s.request.locks, (∀ k, ¬ HeadLocked s k) ∨ PlaybookKept p db db' := by
  intro p hp
  by_cases hlocked : ∃ k, HeadLocked s k
  · obtain ⟨k, hlocked⟩ := hlocked
    obtain ⟨q, hq, rfl⟩ := headLocked_of hlocked
    obtain rfl : p = q := Option.some.inj (Eq.trans (Eq.symm hp) hq)
    refine Or.inr (playbookKept_write (writes_write hk h) ?_)
    intro hboth
    exact apart _ ⟨hlocked, headLocked_of_run ha h hboth⟩
  · exact Or.inl fun k hk => hlocked ⟨k, hk⟩

end

/-- What every write keeps, sessions may rely on under their locks. -/
theorem playbookService_knowledge {D : PlaybookDb β → Prop}
    (keep : ∀ {db db' : PlaybookDb β} {locked : Option String} {o : Option Publication},
      PlaybookWrite db locked o db' → D db → D db') :
    Knowledge (playbookService (β := β)) (fun _ => True) HeadLocked (fun _ _ => True) D Known where
  enter _ _ _ _ := fun _ _ => trivial
  observe _ _ _ _ _ hk := known_observe hk
  keep db r t rows _ hD hk _ := by
    rcases body_cases hk with ⟨e, hb⟩ | ⟨db', a, hb, hwrite⟩
    · rw [hb]
      exact hD
    · rw [hb]
      exact keep hwrite hD
  resume db r t db' t' rows _ _ _ _ hb := by
    simp only [playbookService, PlaybookSeen.body] at hb
    split at hb <;> cases hb
  stable db s r t rows ha _ hk _ hs apart := by
    cases hw : PlaybookSeen.writes db r t with
    | error e =>
      simp only [playbookService, PlaybookSeen.body, hw]
      exact hs
    | ok result =>
      obtain ⟨db', a⟩ := result
      simp only [playbookService, PlaybookSeen.body, hw]
      exact known_write (writes_write hk hw) (kept_of_apart hk ha hw apart) hs

/-- Administrators' transactions, each with a number. -/
abbrev PlaybookWorld (β : Type) :=
  World ℕ (PlaybookDb β) (fun _ : PlaybookRequest β => PlaybookSeen β) PlaybookLock
    (PlaybookReply β)

abbrev PlaybookEvent (β : Type) := Event ℕ (PlaybookRequest β)

/-- Any requests, in any interleaving. -/
abbrev administering (β : Type) : Runs.Machine (PlaybookWorld β) (PlaybookEvent β) :=
  machine playbookService fun _ => True

theorem playbook_step {D : PlaybookDb β → Prop} {w : PlaybookWorld β} {e : PlaybookEvent β}
    (hw : Informed HeadLocked D Known w) (he : (administering β).Enabled w e) :
    let w' := next playbookService w e
    ((w'.db = w.db ∧ (w'.answers = w.answers ∨
        ∃ r x, w'.answers = w.answers ++ [(r, .error x)])) ∨
      ∃ r a, PlaybookWrite w.db r.locks (publicationOf r (.ok a)) w'.db ∧
        w'.answers = w.answers ++ [(r, .ok a)]) := by
  intro w'
  obtain ⟨i, r, -, -, -, h⟩ | ⟨i, s, -, -, h⟩ | ⟨i, s, -, -, -, h⟩ | ⟨i, s, k, -, -, -, -, h⟩ |
    ⟨i, s, db, a, rfl, hs, hb, h⟩ | ⟨i, s, db, t, rfl, hs, hb, h⟩ := step_cases he
  all_goals rw [show w' = _ from h]
  · exact Or.inl ⟨rfl, Or.inl rfl⟩
  · exact Or.inl ⟨rfl, Or.inl rfl⟩
  · exact Or.inl ⟨rfl, Or.inl rfl⟩
  · exact Or.inl ⟨rfl, Or.inl rfl⟩
  · rcases body_cases (hw.knows i s hs.1) with ⟨x, hbody⟩ | ⟨db', b, hbody, hwrite⟩
    · rw [hb] at hbody
      cases hbody
      exact Or.inl ⟨rfl, Or.inr ⟨_, x, rfl⟩⟩
    · rw [hb] at hbody
      cases hbody
      exact Or.inr ⟨s.request, b, hwrite, rfl⟩
  · simp only [playbookService, PlaybookSeen.body] at hb
    split at hb <;> cases hb

end BankingService
