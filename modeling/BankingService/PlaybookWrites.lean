import BankingService.Playbooks

/-! What a transaction on playbooks can commit: a new playbook, a draft on the head, a draft that
replaces one which is behind, an edit, a publication, new texts or a closure. -/
namespace BankingService

open Relational Checked

variable {β : Type} {db db' : PlaybookDb β}

structure Opens (row : PlaybookRevision β) (c : PlaybookChangeRequest) : Prop where
  playbook : c.playbookId = row.playbookId
  revision : c.revision = row.revision
  base : c.baseRevision = row.baseRevision
  status : c.status = .isOpen

structure DraftedOn (playbookId : String) (base : Option ℤ) (row : PlaybookRevision β) : Prop where
  playbook : row.playbookId = playbookId
  base : row.baseRevision = base
  status : row.status = .draft

theorem get?_edited {t : Table (PlaybookRevision β)} {k k' : String × ℤ} {document : Definition β}
    {version : ℤ} {actor : String} {now : Python.Timestamp} :
    (t.update k (PlaybookRevision.edited document version actor now)).get? k' =
      if k' = k then (t.get? k).map (PlaybookRevision.edited document version actor now)
      else t.get? k' := Table.get?_update _

theorem get?_publish {t : Table (PlaybookRevision β)} {k k' : String × ℤ} {digest actor : String}
    {now : Python.Timestamp} :
    (t.update k (PlaybookRevision.publish digest actor now)).get? k' =
      if k' = k then (t.get? k).map (PlaybookRevision.publish digest actor now)
      else t.get? k' := Table.get?_update _

theorem get?_headSet {t : Table Playbook} {p p' : String} {revision : ℤ} :
    (t.update p fun h => { h with publishedRevision := some revision }).get? p' =
      if p' = p then (t.get? p).map fun h => { h with publishedRevision := some revision }
      else t.get? p' := Table.get?_update _

def bump (db : PlaybookDb β) (head : Playbook) : Table Playbook :=
  db.playbooks.update head.id fun p => { p with generation := head.generation + 1 }

theorem get?_bump {head : Playbook} (stored : db.playbooks.get? head.id = some head) (p : String) :
    (bump db head).get? p =
      if p = head.id then some { head with generation := head.generation + 1 }
      else db.playbooks.get? p := by
  refine (Table.get?_update _).trans ?_
  rw [stored]
  rfl

structure Publication where
  playbookId : String
  revision : ℤ
  baseRevision : Option ℤ
  deriving DecidableEq

def PlaybookRevision.publication (row : PlaybookRevision β) : Publication :=
  ⟨row.playbookId, row.revision, row.baseRevision⟩

/-- A write under the lock of the named playbook, if it locks one, with what it publishes. -/
inductive PlaybookWrite (db : PlaybookDb β) :
    Option String → Option Publication → PlaybookDb β → Prop where
  | created {head : Playbook} {row : PlaybookRevision β} {c : PlaybookChangeRequest}
      {playbooks : Table Playbook} {revisions : Table (PlaybookRevision β)}
      {requests : Table PlaybookChangeRequest} (unpublished : head.publishedRevision = none)
      (drafted : DraftedOn head.id none row) (opens : Opens row c)
      (head_new : db.playbooks.insert? head = some playbooks)
      (row_new : db.revisions.insert? row = some revisions)
      (request_new : db.changeRequests.insert? c = some requests) :
      PlaybookWrite db none none ⟨playbooks, revisions, requests⟩
  | drafted {head : Playbook} {row : PlaybookRevision β} {c : PlaybookChangeRequest}
      {revisions : Table (PlaybookRevision β)} {requests : Table PlaybookChangeRequest}
      (stored : db.playbooks.get? head.id = some head)
      (drafted : DraftedOn head.id head.publishedRevision row) (opens : Opens row c)
      (row_new : db.revisions.insert? row = some revisions)
      (request_new : db.changeRequests.insert? c = some requests) :
      PlaybookWrite db (some head.id) none ⟨bump db head, revisions, requests⟩
  | recreated {head : Playbook} {row : PlaybookRevision β} {c old : PlaybookChangeRequest}
      {revisions : Table (PlaybookRevision β)} {requests : Table PlaybookChangeRequest}
      {actor : String} {now : Python.Timestamp}
      (stored : db.playbooks.get? head.id = some head)
      (drafted : DraftedOn head.id head.publishedRevision row) (opens : Opens row c)
      (row_new : db.revisions.insert? row = some revisions)
      (request_new : db.changeRequests.insert? c = some requests)
      (old_open : ∃ o, requests.get? old.id = some o ∧ o.status = .isOpen) :
      PlaybookWrite db (some head.id) none ⟨bump db head, revisions,
        requests.update old.id (PlaybookChangeRequest.finish .closed actor now)⟩
  | edited {row : PlaybookRevision β} {document : Definition β} {version : ℤ} {actor : String}
      {now : Python.Timestamp}
      (stored : db.revisions.get? (row.playbookId, row.revision) = some row)
      (draft : row.status = .draft) (identity : SameIdentity document row.document) :
      PlaybookWrite db (some row.playbookId) none { db with
        revisions := db.revisions.update (row.playbookId, row.revision)
          (PlaybookRevision.edited document version actor now) }
  | published {head : Playbook} {row : PlaybookRevision β} {c : PlaybookChangeRequest}
      {digest actor : String} {now : Python.Timestamp}
      (stored : db.playbooks.get? head.id = some head)
      (row_stored : db.revisions.get? (row.playbookId, row.revision) = some row)
      (owner : row.playbookId = head.id) (draft : row.status = .draft)
      (request_stored : db.changeRequests.get? c.id = some c) (request_open : c.status = .isOpen)
      (request_for : c.playbookId = row.playbookId ∧ c.revision = row.revision)
      (on_head : c.baseRevision = head.publishedRevision) :
      PlaybookWrite db (some head.id) (some row.publication)
        ⟨(bump db head).update row.playbookId
            fun p => { p with publishedRevision := some row.revision },
          db.revisions.update (row.playbookId, row.revision)
            (PlaybookRevision.publish digest actor now),
          db.changeRequests.update c.id (PlaybookChangeRequest.finish .published actor now)⟩
  | revised {c : PlaybookChangeRequest} {title description : Option String} {version : ℤ}
      (stored : db.changeRequests.get? c.id = some c) (request_open : c.status = .isOpen) :
      PlaybookWrite db none none { db with
        changeRequests := db.changeRequests.update c.id
          (PlaybookChangeRequest.revise title description version) }
  | closed {c : PlaybookChangeRequest} {actor : String} {now : Python.Timestamp}
      (stored : db.changeRequests.get? c.id = some c) (request_open : c.status = .isOpen) :
      PlaybookWrite db none none { db with
        changeRequests := db.changeRequests.update c.id
          (PlaybookChangeRequest.finish .closed actor now) }

section
variable {head head' : Playbook} {row : PlaybookRevision β} {cr : PlaybookChangeRequest}

theorem advanceGeneration_eq_ok {expected : ℤ} (stored : db.playbooks.get? head.id = some head)
    (h : advanceGeneration db head expected = .ok (db', head')) :
    head.generation = expected ∧ db' = { db with playbooks := bump db head } ∧
      head' = { head with generation := expected + 1 } := by
  simp only [advanceGeneration, bind_eq_ok, require_eq_ok, pure_eq_ok] at h
  obtain ⟨-, ⟨p, hp, hgeneration⟩, h⟩ := h
  cases h
  obtain rfl : head = p := Option.some.inj (stored.symm.trans hp)
  refine ⟨hgeneration, ?_, rfl⟩
  rw [bump, hgeneration]

theorem openRequest_eq_ok {view : DraftView β} {c : PlaybookChangeRequest}
    (h : openRequest db head row c = .ok (db', view)) :
    ∃ requests, db.changeRequests.insert? c = some requests ∧
      db' = { db with changeRequests := requests } := by
  simp only [openRequest, bind_eq_ok, orRaise_eq_ok, pure_eq_ok] at h
  obtain ⟨requests, hinsert, request, -, h⟩ := h
  cases h
  exact ⟨requests, hinsert, rfl⟩

theorem openDraft_eq_ok {source : Definition β} {newId : ℤ} {origin : RequestOrigin}
    {previousBase : Option ℤ} {title description actor : String} {now : Python.Timestamp}
    {view : DraftView β} (h : openDraft db head source newId origin previousBase title description
      actor now = .ok (db', view)) :
    ∃ row c revisions requests, DraftedOn head.id head.publishedRevision row ∧ Opens row c ∧
      db.revisions.insert? row = some revisions ∧ db.changeRequests.insert? c = some requests ∧
      db' = ⟨db.playbooks, revisions, requests⟩ := by
  simp only [openDraft, allocate, bind_eq_ok, orRaise_eq_ok, pure_eq_ok] at h
  obtain ⟨⟨db₁, row⟩, ⟨latest, -, revisions, hrow, hallocated⟩, hopen⟩ := h
  cases hallocated
  obtain ⟨requests, hrequest, rfl⟩ := openRequest_eq_ok hopen
  exact ⟨_, _, revisions, requests, ⟨rfl, rfl, rfl⟩, ⟨rfl, rfl, rfl, rfl⟩, hrow, hrequest, rfl⟩

theorem finishRequest_eq_ok {status : RequestStatus} {actor : String} {now : Python.Timestamp} :
    finishRequest db cr status actor now = .ok db' ↔
      (∃ c, db.changeRequests.get? cr.id = some c ∧ c.status = .isOpen) ∧
        db' = { db with
          changeRequests :=
            db.changeRequests.update cr.id (PlaybookChangeRequest.finish status actor now) } := by
  simp only [finishRequest, bind_eq_ok, require_eq_ok, pure_eq_ok, Option.mem_def, exists_const,
    eq_comm (a := db')]

theorem createPlaybook_write {document : Definition β} {newId : ℤ} {actor : String}
    {now : Python.Timestamp} {title : Option String} {description : String} {view : DraftView β}
    (h : createPlaybook db document newId actor now title description = .ok (db', view)) :
    PlaybookWrite db none none db' := by
  simp only [createPlaybook, bind_eq_ok, orRaise_eq_ok] at h
  obtain ⟨playbooks, hhead, revisions, hrow, hopen⟩ := h
  obtain ⟨requests, hrequest, rfl⟩ := openRequest_eq_ok hopen
  exact .created rfl ⟨rfl, rfl, rfl⟩ ⟨rfl, rfl, rfl, rfl⟩ hhead hrow hrequest

theorem openDraft_write {source : Definition β} {newId expected : ℤ} {origin : RequestOrigin}
    {previousBase : Option ℤ} {title description actor : String} {now : Python.Timestamp}
    {view : DraftView β} {db₁ : PlaybookDb β} (stored : db.playbooks.get? head.id = some head)
    (hadvance : advanceGeneration db head expected = .ok (db₁, head'))
    (h : openDraft db₁ head' source newId origin previousBase title description actor now =
      .ok (db', view)) : PlaybookWrite db (some head.id) none db' := by
  obtain ⟨-, rfl, rfl⟩ := advanceGeneration_eq_ok stored hadvance
  obtain ⟨row, c, revisions, requests, hdrafted, hopens, hrow, hrequest, rfl⟩ := openDraft_eq_ok h
  exact .drafted stored hdrafted hopens hrow hrequest

theorem draftFromHead_write {expectedGeneration newId : ℤ} {actor : String}
    {now : Python.Timestamp} {title : Option String} {description : String} {view : DraftView β}
    (stored : db.playbooks.get? head.id = some head)
    (h : draftFromHead db head row expectedGeneration newId actor now title description =
      .ok (db', view)) : PlaybookWrite db (some head.id) none db' := by
  simp only [draftFromHead, bind_eq_ok] at h
  obtain ⟨-, -, ⟨db₁, head₁⟩, hadvance, hopen⟩ := h
  exact openDraft_write stored hadvance hopen

theorem draftFromHistory_write {expectedGeneration newId : ℤ} {actor : String}
    {now : Python.Timestamp} {title : Option String} {description : String} {view : DraftView β}
    (stored : db.playbooks.get? head.id = some head)
    (h : draftFromHistory db head row expectedGeneration newId actor now title description =
      .ok (db', view)) : PlaybookWrite db (some head.id) none db' := by
  simp only [draftFromHistory, bind_eq_ok] at h
  obtain ⟨-, -, ⟨db₁, head₁⟩, hadvance, hopen⟩ := h
  exact openDraft_write stored hadvance hopen

theorem replaceDraft_write {old : PlaybookChangeRequest}
    {expectedDraftVersion expectedGeneration newId : ℤ} {actor : String} {now : Python.Timestamp}
    {view : DraftView β} (stored : db.playbooks.get? head.id = some head)
    (h : replaceDraft db head old row expectedDraftVersion expectedGeneration newId actor now =
      .ok (db', view)) : PlaybookWrite db (some head.id) none db' := by
  simp only [replaceDraft, bind_eq_ok, finishRequest_eq_ok, pure_eq_ok] at h
  obtain ⟨-, -, -, -, ⟨db₁, head₁⟩, hadvance, ⟨db₂, view₂⟩, hopen, db₃, ⟨hold, rfl⟩, h⟩ := h
  cases h
  obtain ⟨-, rfl, rfl⟩ := advanceGeneration_eq_ok stored hadvance
  obtain ⟨row, c, revisions, requests, hdrafted, hopens, hrow, hrequest, rfl⟩ :=
    openDraft_eq_ok hopen
  exact .recreated stored hdrafted hopens hrow hrequest hold

theorem writeEdit_write {document : Definition β} {expectedDraftVersion : ℤ} {actor : String}
    {now : Python.Timestamp} {view : DraftView β}
    (stored : db.revisions.get? (row.playbookId, row.revision) = some row)
    (draft : row.status = .draft) (identity : SameIdentity document row.document)
    (h : writeEdit db head row cr document expectedDraftVersion actor now = .ok (db', view)) :
    PlaybookWrite db (some row.playbookId) none db' := by
  simp only [writeEdit, bind_eq_ok, pure_eq_ok] at h
  obtain ⟨request, -, h⟩ := h
  cases h
  exact .edited stored draft identity

theorem publishRow_write {c : PlaybookChangeRequest} {digest : String}
    {expectedDraftVersion expectedGeneration : ℤ} {actor : String} {now : Python.Timestamp}
    {view : DraftView β} (stored : db.playbooks.get? head.id = some head)
    (row_stored : db.revisions.get? (row.playbookId, row.revision) = some row)
    (owner : row.playbookId = head.id) (request_stored : db.changeRequests.get? c.id = some c)
    (same : cr.id = c.id ∧ cr.baseRevision = c.baseRevision)
    (request_for : c.playbookId = row.playbookId ∧ c.revision = row.revision)
    (h : publishRow db head row cr digest expectedDraftVersion expectedGeneration actor now =
      .ok (db', view)) :
    PlaybookWrite db (some head.id) (some row.publication) db' ∧
      cr.baseRevision = head.publishedRevision ∧
      view.revision = revisionView (row.publish digest actor now) (expectedGeneration + 1) := by
  simp only [publishRow, currentBase, requireDraft, publishRevision, bind_eq_ok, require_eq_ok,
    finishRequest_eq_ok, pure_eq_ok] at h
  obtain ⟨-, hbase, -, ⟨hdraft, -⟩, ⟨db₁, head₁⟩, hadvance, db₂, ⟨-, -, rfl⟩, db₃,
    ⟨⟨o, ho, hopen⟩, rfl⟩, request, -, h⟩ := h
  cases h
  obtain ⟨-, rfl, rfl⟩ := advanceGeneration_eq_ok stored hadvance
  rw [same.1] at ho
  obtain rfl : c = o := Option.some.inj (request_stored.symm.trans ho)
  refine ⟨?_, hbase, rfl⟩
  rw [same.1]
  exact .published stored row_stored owner hdraft request_stored hopen request_for
    (same.2.symm.trans hbase)

theorem reviseRequest_write {expectedVersion : ℤ} {title description : Option String}
    {view : ChangeRequestView}
    (h : reviseRequest db head cr expectedVersion title description = .ok (db', view)) :
    PlaybookWrite db none none db' := by
  simp only [reviseRequest, bind_eq_ok, require_eq_ok, pure_eq_ok] at h
  obtain ⟨-, -, -, ⟨c, hc, hopen, -⟩, request, -, h⟩ := h
  cases h
  have hid : c.id = cr.id := (Table.get?_eq_some.mp hc).2
  rw [← hid] at hc ⊢
  exact .revised hc hopen

theorem closeRequest_write {actor : String} {now : Python.Timestamp} {view : ChangeRequestView}
    (h : closeRequest db head cr actor now = .ok (db', view)) : PlaybookWrite db none none db' := by
  simp only [closeRequest, bind_eq_ok, finishRequest_eq_ok, pure_eq_ok] at h
  obtain ⟨-, -, db₁, ⟨⟨c, hc, hopen⟩, rfl⟩, request, -, h⟩ := h
  cases h
  have hid : c.id = cr.id := (Table.get?_eq_some.mp hc).2
  rw [← hid] at hc ⊢
  exact .closed hc hopen

end

structure PlaybookKept (playbookId : String) (db db' : PlaybookDb β) : Prop where
  head : ∀ h, db.playbooks.get? playbookId = some h → db'.playbooks.get? playbookId = some h
  rows : ∀ revision row, db.revisions.get? (playbookId, revision) = some row →
    db'.revisions.get? (playbookId, revision) = some row

def Tracked (c : PlaybookChangeRequest) (db : PlaybookDb β) : Prop :=
  ∃ c', db.changeRequests.get? c.id = some c' ∧ c.baseRevision = c'.baseRevision ∧
    c'.playbookId = c.playbookId ∧ c'.revision = c.revision

theorem PlaybookKept.refl (playbookId : String) (db : PlaybookDb β) :
    PlaybookKept playbookId db db := ⟨fun _ h => h, fun _ _ h => h⟩

theorem playbookKept_write {locked : Option String} {p : Option Publication}
    (h : PlaybookWrite db locked p db')
    {playbookId : String} (hother : playbookId ∉ locked) : PlaybookKept playbookId db db' := by
  have hne : ∀ {p : String}, playbookId ∉ some p → playbookId ≠ p :=
    fun hp heq => hp (congrArg some heq.symm)
  cases h with
  | created _ _ _ head_new row_new _ =>
    exact ⟨fun _ hh => Table.get?_insert_of_some head_new hh,
      fun _ _ hr => Table.get?_insert_of_some row_new hr⟩
  | drafted _ _ _ row_new _ | recreated _ _ _ row_new _ _ =>
    exact ⟨fun _ hh => (Table.get?_update_of_ne _ (hne hother)).trans hh,
      fun _ _ hr => Table.get?_insert_of_some row_new hr⟩
  | edited =>
    refine ⟨fun _ hh => hh, fun revision row hr => (Table.get?_update_of_ne _ ?_).trans hr⟩
    exact fun heq => hne hother (congrArg Prod.fst heq)
  | published _ _ owner =>
    rw [← owner] at hother
    refine ⟨fun _ hh => ?_, fun revision row hr => (Table.get?_update_of_ne _ ?_).trans hr⟩
    · refine (Table.get?_update_of_ne _ (hne hother)).trans ?_
      exact (Table.get?_update_of_ne _ (owner ▸ hne hother)).trans hh
    · exact fun heq => hne hother (congrArg Prod.fst heq)
  | revised | closed => exact ⟨fun _ hh => hh, fun _ _ hr => hr⟩

theorem tracked_write {locked : Option String} {p : Option Publication}
    (h : PlaybookWrite db locked p db')
    {c : PlaybookChangeRequest} (hc : Tracked c db) : Tracked c db' := by
  obtain ⟨c', hget, hsame⟩ := hc
  have hupdate : ∀ (t : Table PlaybookChangeRequest) (id : ℤ)
      (f : PlaybookChangeRequest → PlaybookChangeRequest)
      (free : ∀ a b, Row.Clash (f a) b → Row.Clash a b), t.get? c.id = some c' →
      (∀ a, (f a).id = a.id ∧ (f a).baseRevision = a.baseRevision ∧
        (f a).playbookId = a.playbookId ∧ (f a).revision = a.revision) →
      ∃ c'', (t.update id f free).get? c.id = some c'' ∧ c.baseRevision = c''.baseRevision ∧
        c''.playbookId = c.playbookId ∧ c''.revision = c.revision := by
    intro t id f free ht hf
    rw [Table.get?_update f (fun a => (hf a).1) free]
    split
    · obtain ⟨-, hbase, hplaybook, hrevision⟩ := hf c'
      rename_i heq
      rw [← heq, ht]
      exact ⟨f c', rfl, by rw [hbase, hsame.1], by rw [hplaybook, hsame.2.1],
        by rw [hrevision, hsame.2.2]⟩
    · exact ⟨c', ht, hsame⟩
  cases h with
  | created _ _ _ _ _ request_new | drafted _ _ _ _ request_new =>
    exact ⟨c', Table.get?_insert_of_some request_new hget, hsame⟩
  | recreated _ _ _ _ request_new _ =>
    exact hupdate _ _ _ (by exact fun _ _ h => h) (Table.get?_insert_of_some request_new hget)
      fun _ => ⟨rfl, rfl, rfl, rfl⟩
  | edited => exact ⟨c', hget, hsame⟩
  | published | revised | closed =>
    exact hupdate _ _ _ (by exact fun _ _ h => h) hget fun _ => ⟨rfl, rfl, rfl, rfl⟩

end BankingService
