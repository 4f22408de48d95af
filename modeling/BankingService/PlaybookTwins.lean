import BankingService.MemoryPlaybooks
import BankingService.PlaybookWrites

/-! The two repositories next to each other. The dictionaries hold the rows of the tables, change
requests under renamed ids, and every call keeps it that way. -/
namespace BankingService.PlaybookTwins

open Python Relational Checked Mirror

variable {β : Type}

def renameRequest (f : ℤ → ℤ) (c : PlaybookChangeRequest) : PlaybookChangeRequest :=
  { c with id := f c.id }

def renameView (f : ℤ → ℤ) (v : ChangeRequestView) : ChangeRequestView :=
  { v with fields := renameRequest f v.fields }

def renameDraft (f : ℤ → ℤ) (v : DraftView β) : DraftView β :=
  { v with changeRequest := renameView f v.changeRequest }

def renameEntry (f : ℤ → ℤ) (h : HistoryEntry) : HistoryEntry :=
  { h with changeRequest := h.changeRequest.map fun x => (f x.1, x.2) }

def image (f : ℤ → ℤ) (db : PlaybookDb β) : MemoryPlaybooks β where
  heads := dictOf id id db.playbooks
  revisions := dictOf id id db.revisions
  requests := dictOf f (renameRequest f) db.changeRequests

/-- A document names its revision and the capability of its playbook. -/
structure Belongs (head : Playbook) (row : PlaybookRevision β) : Prop where
  id : row.document.id = row.playbookId
  revision : row.document.revision = row.revision
  actionType : row.document.actionType = head.actionType
  contractVersion : row.document.contractVersion = head.contractVersion
  operation : row.document.operation = head.operation

/-- What the operations keep of the three tables. -/
structure Sound (digest : Definition β → String) (db : PlaybookDb β) : Prop where
  belongs : ∀ row ∈ db.revisions.rows,
    ∃ head, db.playbooks.get? row.playbookId = some head ∧ Belongs head row
  digests : ∀ row ∈ db.revisions.rows, row.status = .published →
    row.digest = some (digest row.document)
  revised : ∀ head ∈ db.playbooks.rows, ∃ row ∈ db.revisions.rows, row.playbookId = head.id
  heads : ∀ head ∈ db.playbooks.rows, ∀ r ∈ head.publishedRevision,
    ∃ row, db.revisions.get? (head.id, r) = some row ∧ row.status = .published
  filed : ∀ c ∈ db.changeRequests.rows, ∃ row,
    db.revisions.get? (c.playbookId, c.revision) = some row

/-- The names of the change requests count them. -/
structure Numbered (f : ℤ → ℤ) (db : PlaybookDb β) : Prop where
  counts : db.changeRequests.rows.map (fun c => f c.id) =
    (List.range db.changeRequests.rows.length).map fun k => ((k + 1 : ℕ) : ℤ)
  ascending : db.changeRequests.rows.Pairwise fun a b => a.id < b.id

variable {f : ℤ → ℤ} {db db' : PlaybookDb β} {digest : Definition β → String}

theorem Numbered.monotone (h : Numbered f db) :
    db.changeRequests.rows.Pairwise fun a b => f a.id < f b.id := by
  have hmap : (db.changeRequests.rows.map fun c => f c.id).Pairwise (· < ·) := by
    rw [h.counts, List.pairwise_map]
    refine List.pairwise_lt_range.imp ?_
    intro a b hab
    omega
  exact List.pairwise_map.mp hmap

theorem Numbered.lt_iff (h : Numbered f db) {a b : PlaybookChangeRequest}
    (ha : a ∈ db.changeRequests.rows) (hb : b ∈ db.changeRequests.rows) :
    f a.id < f b.id ↔ a.id < b.id := by
  have hboth : db.changeRequests.rows.Pairwise fun a b => a.id < b.id ∧ f a.id < f b.id :=
    h.ascending.and h.monotone
  have hsymm : Std.Symm fun a b : PlaybookChangeRequest =>
      (a.id < b.id ∧ f a.id < f b.id) ∨ (b.id < a.id ∧ f b.id < f a.id) := ⟨fun _ _ => Or.symm⟩
  by_cases hab : a = b
  · subst hab
    simp
  · have heither : db.changeRequests.rows.Pairwise fun a b =>
        (a.id < b.id ∧ f a.id < f b.id) ∨ (b.id < a.id ∧ f b.id < f a.id) := hboth.imp Or.inl
    rcases heither.forall ha hb hab with hlt | hlt
    · exact ⟨fun _ => hlt.1, fun _ => hlt.2⟩
    · constructor
      · intro h
        omega
      · intro h
        omega

theorem Numbered.bounds (h : Numbered f db) {c : PlaybookChangeRequest}
    (hc : c ∈ db.changeRequests.rows) : f c.id ≤ db.changeRequests.rows.length := by
  have hmem := List.mem_map_of_mem (f := fun c : PlaybookChangeRequest => f c.id) hc
  rw [h.counts] at hmem
  obtain ⟨k, hk, heq⟩ := List.mem_map.mp hmem
  have hlt := List.mem_range.mp hk
  omega

theorem get?_heads (p : String) : (image f db).heads.get? p = db.playbooks.get? p :=
  (get?_dictOf named_self).trans Option.map_id_apply

theorem get?_revisions (k : String × ℤ) : (image f db).revisions.get? k = db.revisions.get? k :=
  (get?_dictOf named_self).trans Option.map_id_apply

theorem get?_requests {id k : ℤ} (named : Named f db.changeRequests id k) :
    (image f db).requests.get? k = (db.changeRequests.get? id).map (renameRequest f) :=
  get?_dictOf named

theorem values_requests :
    (image f db).requests.values = db.changeRequests.rows.map (renameRequest f) :=
  values_dictOf

theorem reads_head (p : String) :
    Reads id (image f db) (MemoryPlaybookRepository.head p) (findHead db p) :=
  reads_get (reads_found (by rw [get?_heads]; exact Option.map_id_apply.symm))

theorem reads_getRevision (p : String) (revision : ℤ) :
    Reads id (image f db) (MemoryPlaybookRepository.getRevision p revision)
      (getRevision db p revision) := by
  refine reads_bind (reads_head p) fun head _ => ?_
  refine reads_get (reads_bind (reads_found ?_) fun row _ => reads_pure _)
  rw [get?_revisions]
  exact Option.map_id_apply.symm

theorem reads_request {p : String} {id k : ℤ} (named : Named f db.changeRequests id k) :
    Reads (renameRequest f) (image f db) (MemoryPlaybookRepository.request p k)
      (findRequest db p id) := by
  refine reads_get (reads_found ?_)
  rw [get?_requests named]
  cases db.changeRequests.get? id with
  | none => rfl
  | some c => by_cases h : c.playbookId = p <;> simp [Option.filter, renameRequest, h]

theorem reads_openRequestFor (p : String) (revision : ℤ) :
    Reads (renameRequest f) (image f db) (MemoryPlaybookRepository.openRequestFor p revision)
      (openRequestFor db p revision) := by
  refine reads_get (reads_found ?_)
  rw [values_requests, List.find?_map]
  have hfind : (db.changeRequests.rows.find? ((fun c : PlaybookChangeRequest =>
      decide (c.playbookId = p ∧ c.revision = revision)) ∘ renameRequest f)) =
      requestFor db p revision := rfl
  rw [hfind]
  cases requestFor db p revision with
  | none => rfl
  | some c => by_cases h : c.status = .isOpen <;> simp [Option.filter, renameRequest, h]

theorem publishedRevisions_image (p : String) :
    MemoryPlaybookRepository.publishedRevisions (image f db) p = publishedRevisions db p := by
  simp only [MemoryPlaybookRepository.publishedRevisions, publishedRevisions, Table.select, image,
    dictOf, List.filter_map, List.map_map]
  rfl

theorem reads_requestView {c : PlaybookChangeRequest} {head : Playbook}
    (stored : db.playbooks.get? c.playbookId = some head) :
    Reads (renameView f) (image f db)
      (MemoryPlaybookRepository.requestView (renameRequest f c)) (requestView db head c) := by
  have hhead : findHead db c.playbookId = .ok head := by rw [findHead, stored]; rfl
  have hview : requestView db head c = (do
      let head ← findHead db c.playbookId
      let draft ← getRevision db c.playbookId c.revision
      return changeRequestView c draft head.publishedRevision
        (publishedRevisions db c.playbookId)) := by
    rw [hhead, ok_bind, getRevision, hhead, ok_bind, requestView]
    cases findRow db c.playbookId c.revision <;> rfl
  rw [hview]
  refine reads_bind (reads_head _) fun head _ => ?_
  refine reads_bind (reads_getRevision _ _) fun draft _ => reads_get ?_
  rw [publishedRevisions_image]
  exact reads_pure _

section
variable {head head' : Playbook} {expected : ℤ}

theorem advance_iff (stored : db.playbooks.get? head.id = some head) :
    (∃ p ∈ db.playbooks.get? head.id, p.generation = expected) ↔ head.generation = expected := by
  rw [stored]
  simp

theorem mirrors_generation (stored : db.playbooks.get? head.id = some head) :
    Mirrors (image f) (fun _ => ()) db (MemoryPlaybookRepository.generation head expected)
      (advanceGeneration db head expected) := by
  refine mirrors_read (reads_raiseUnless (advance_iff stored).symm) fun _ h => ?_
  have hgeneration := (advance_iff stored).mp (require_eq_ok.mp h)
  have hset : (image f db).heads.set head.id { head with generation := head.generation + 1 } =
      dictOf id id (db.playbooks.update head.id fun p => { p with generation := expected + 1 }) :=
    set_dictOf_update stored named_self rfl (by rw [hgeneration]; rfl)
  refine mirrors_modify ?_
  rw [hset]
  rfl

theorem sound_bump (sound : Sound digest db) (stored : db.playbooks.get? head.id = some head) :
    Sound digest { db with playbooks := bump db head } := by
  have hget := get?_bump stored
  have hrow : ∀ h ∈ (bump db head).rows, ∃ h' ∈ db.playbooks.rows, h'.id = h.id ∧
      h'.publishedRevision = h.publishedRevision := by
    intro h hh
    have hfound : some h = _ := (Table.get?_of_mem hh).symm.trans (hget h.id)
    split at hfound
    · cases hfound
      exact ⟨head, (Table.get?_eq_some.mp stored).1, rfl, rfl⟩
    · exact ⟨h, (Table.get?_eq_some.mp hfound.symm).1, rfl, rfl⟩
  refine ⟨fun row hr => ?_, sound.digests, fun h hh => ?_, fun h hh r hr => ?_, sound.filed⟩
  · obtain ⟨h, hh, hbelongs⟩ := sound.belongs row hr
    by_cases heq : row.playbookId = head.id
    · obtain rfl : head = h := by
        rw [heq, stored] at hh
        exact Option.some.inj hh
      exact ⟨_, (hget _).trans (if_pos heq), ⟨hbelongs.id, hbelongs.revision, hbelongs.actionType,
        hbelongs.contractVersion, hbelongs.operation⟩⟩
    · exact ⟨h, (hget _).trans ((if_neg heq).trans hh), hbelongs⟩
  · obtain ⟨h', hh', hid, -⟩ := hrow h hh
    rw [← hid]
    exact sound.revised h' hh'
  · obtain ⟨h', hh', hid, hpublished⟩ := hrow h hh
    rw [← hid]
    exact sound.heads h' hh' r (hpublished ▸ hr)

end

structure Allocated (db : PlaybookDb β) (head : Playbook) (source : Definition β)
    (row : PlaybookRevision β) (db' : PlaybookDb β) : Prop where
  stored : db.revisions.insert? row = some db'.revisions
  frame : db' = { db with revisions := db'.revisions }
  playbook : row.playbookId = head.id
  document : row.document = { source with revision := row.revision }
  base : row.baseRevision = head.publishedRevision
  status : row.status = .draft

section
variable {head : Playbook} {source : Definition β} {actor : String} {now : Timestamp}

theorem revisions_image (p : String) :
    ((image f db).revisions.filter fun x => x.1.1 = p).map (fun x => x.1.2) =
      (db.revisions.select fun r => r.playbookId = p).map fun r => r.revision := by
  simp only [Table.select, image, dictOf, List.filter_map, List.map_map]
  rfl

theorem allocate_ok (source : Definition β) (actor : String) (now : Timestamp)
    (sound : Sound digest db) (stored : db.playbooks.get? head.id = some head) :
    ∃ latest, latestRevision db head.id = some latest ∧ ∃ revisions,
      db.revisions.insert? (newDraft { source with revision := latest + 1 } head.id (latest + 1)
        head.publishedRevision actor now) = some revisions := by
  obtain ⟨row, hrow, hplaybook⟩ := sound.revised head (Table.get?_eq_some.mp stored).1
  have hmem : row.revision ∈
      (db.revisions.select fun r => r.playbookId = head.id).map fun r => r.revision :=
    List.mem_map_of_mem (Table.mem_select.mpr ⟨hrow, hplaybook⟩)
  cases hlatest : latestRevision db head.id with
  | none =>
    rw [latestRevision, List.max?_eq_none_iff] at hlatest
    rw [hlatest] at hmem
    cases hmem
  | some latest =>
    refine ⟨latest, rfl, Table.insert?_of_free fun x hx hclash => ?_⟩
    have hkey : (x.playbookId, x.revision) = (head.id, latest + 1) := hclash
    simp only [Prod.mk.injEq] at hkey
    have hle := (List.max?_eq_some_iff.mp hlatest).2 x.revision
      (List.mem_map_of_mem (Table.mem_select.mpr ⟨hx, hkey.1⟩))
    omega

theorem succeed_draft {document : Definition β} {base : Option ℤ}
    {revisions : Table (PlaybookRevision β)}
    (inserted : db.revisions.insert? (newDraft document document.id document.revision base actor
      now) = some revisions) :
    Succeed (image f) id db (MemoryPlaybookRepository.draft document actor now base)
      (.ok ({ db with revisions },
        newDraft document document.id document.revision base actor now)) := by
  have hset : (image f db).revisions.set (document.id, document.revision)
      (newDraft document document.id document.revision base actor now) = dictOf id id revisions :=
    set_dictOf_insert inserted rfl
      (fun x hx heq => Table.fresh_insert inserted hx (Row.clash_of_key heq)) rfl
  have himage : { image f db with
      revisions := (image f db).revisions.set (document.id, document.revision)
        (newDraft document document.id document.revision base actor now) } =
      image f { db with revisions } := by
    rw [hset]
    rfl
  exact succeed_modify himage (succeed_pure rfl)

theorem succeed_allocate (sound : Sound digest db)
    (stored : db.playbooks.get? head.id = some head) (same : source.id = head.id) :
    Succeed (image f) id db (MemoryPlaybookRepository.allocate head source actor now)
      (allocate db head source actor now) := by
  obtain ⟨latest, hlatest, revisions, hrevisions⟩ :=
    allocate_ok source actor now sound stored
  have hlast : Reads id (image f db)
      (found (((image f db).revisions.filter fun x => x.1.1 = head.id).map fun x => x.1.2).max?
        (.database (.valueError "max() arg is an empty sequence")))
      (.ok latest : Except RepositoryError ℤ) := by
    rw [revisions_image, ← latestRevision, hlatest]
    rfl
  have hallocated : allocate db head source actor now = .ok ({ db with revisions },
      newDraft { source with revision := latest + 1 } head.id (latest + 1) head.publishedRevision
        actor now) := by
    rw [allocate, hlatest]
    change (orRaise (db.revisions.insert? _) _ >>= _) = _
    rw [hrevisions]
    rfl
  rw [hallocated]
  rw [← same] at hrevisions ⊢
  exact succeed_get (succeed_skip hlast (succeed_draft hrevisions))

theorem allocated_of_ok {row : PlaybookRevision β}
    (h : allocate db head source actor now = .ok (db', row)) :
    Allocated db head source row db' := by
  simp only [allocate, bind_eq_ok, orRaise_eq_ok, pure_eq_ok] at h
  obtain ⟨latest, -, revisions, hrevisions, h⟩ := h
  cases h
  exact ⟨hrevisions, rfl, rfl, rfl, rfl, rfl⟩

theorem sound_allocated {row source : PlaybookRevision β} (sound : Sound digest db)
    (stored : db.playbooks.get? head.id = some head) (source_row : source ∈ db.revisions.rows)
    (owner : source.playbookId = head.id) (h : Allocated db head source.document row db') :
    Sound digest db' := by
  rw [h.frame]
  have hmem := fun x => Table.mem_insert h.stored (x := x)
  refine ⟨fun x hx => ?_, fun x hx hpublished => ?_, fun p hp => ?_, fun p hp r hr => ?_,
    fun c hc => ?_⟩
  · rcases (hmem x).mp hx with hx | rfl
    · exact sound.belongs x hx
    · obtain ⟨p, hp, hbelongs⟩ := sound.belongs source source_row
      rw [owner, stored] at hp
      obtain rfl := Option.some.inj hp
      rw [h.playbook]
      refine ⟨head, stored, ?_, ?_, ?_, ?_, ?_⟩
      · rw [h.document, h.playbook, ← owner]
        exact hbelongs.id
      · rw [h.document]
      · rw [h.document]
        exact hbelongs.actionType
      · rw [h.document]
        exact hbelongs.contractVersion
      · rw [h.document]
        exact hbelongs.operation
  · rcases (hmem x).mp hx with hx | rfl
    · exact sound.digests x hx hpublished
    · rw [h.status] at hpublished
      cases hpublished
  · obtain ⟨x, hx, hid⟩ := sound.revised p hp
    exact ⟨x, (hmem x).mpr (Or.inl hx), hid⟩
  · obtain ⟨x, hx, hpublished⟩ := sound.heads p hp r hr
    exact ⟨x, Table.get?_insert_of_some h.stored hx, hpublished⟩
  · obtain ⟨x, hx⟩ := sound.filed c hc
    exact ⟨x, Table.get?_insert_of_some h.stored hx⟩

theorem unrequested_allocated {row : PlaybookRevision β} (sound : Sound digest db)
    (h : db.revisions.insert? row = some db'.revisions) :
    ∀ c ∈ db.changeRequests.rows,
      ¬ (c.playbookId = row.playbookId ∧ c.revision = row.revision) := by
  rintro c hc ⟨hplaybook, hrevision⟩
  obtain ⟨x, hx⟩ := sound.filed c hc
  obtain ⟨hmem, hkey⟩ := Table.get?_eq_some.mp hx
  refine Table.fresh_insert h hmem (Row.clash_of_key (hkey.trans ?_))
  rw [hplaybook, hrevision]
  rfl

end

section
variable {head : Playbook} {row : PlaybookRevision β} {c : PlaybookChangeRequest}

theorem requestView_ok (head : Playbook)
    (row_stored : db.revisions.get? (c.playbookId, c.revision) = some row) :
    requestView db head c = .ok (changeRequestView c (revisionView row head.generation)
      head.publishedRevision (publishedRevisions db c.playbookId)) := by
  rw [requestView, findRow, row_stored]
  rfl

theorem succeed_requestView (stored : db.playbooks.get? c.playbookId = some head)
    (row_stored : db.revisions.get? (c.playbookId, c.revision) = some row) :
    Succeed (image f) (renameView f) db (MemoryPlaybookRepository.requestView (renameRequest f c))
      (do
        let view ← requestView db head c
        return (db, view)) := by
  have hread := reads_requestView (f := f) stored
  rw [requestView_ok head row_stored] at hread ⊢
  exact ⟨db, _, rfl, hread⟩

theorem succeed_views (stored : db.playbooks.get? c.playbookId = some head)
    (row_stored : db.revisions.get? (c.playbookId, c.revision) = some row) :
    Succeed (image f) (renameDraft f) db
      (do
        let view ← MemoryPlaybookRepository.getRevision c.playbookId c.revision
        let request ← MemoryPlaybookRepository.requestView (renameRequest f c)
        return ⟨view, request⟩)
      (do
        let view ← requestView db head c
        return (db, ⟨revisionView row head.generation, view⟩)) := by
  have hrevision : getRevision db c.playbookId c.revision =
      .ok (revisionView row head.generation) := by
    rw [getRevision, findHead, stored, findRow, row_stored]
    rfl
  have hviews : (do
      let view ← requestView db head c
      return (db, ⟨revisionView row head.generation, view⟩)) = (do
      let revision ← getRevision db c.playbookId c.revision
      let view ← requestView db head c
      return (db, (⟨revision, view⟩ : DraftView β))) := by
    rw [hrevision]
    rfl
  rw [hviews]
  refine succeed_read (reads_getRevision _ _) hrevision ?_
  exact succeed_read (reads_requestView stored) (requestView_ok head row_stored) (succeed_pure rfl)

end

section
variable {head : Playbook} {row : PlaybookRevision β} {origin : RequestOrigin}
  {previousBase : Option ℤ} {title description actor : String} {now : Timestamp} {newId : ℤ}

/-- The next request. Its id is above the ids of the table, and names the next number. -/
structure Next (f : ℤ → ℤ) (db : PlaybookDb β) (newId : ℤ) : Prop where
  number : f newId = ((db.changeRequests.rows.length + 1 : ℕ) : ℤ)
  above : ∀ c ∈ db.changeRequests.rows, c.id < newId

theorem succeed_openRequest (numbered : Numbered f db) (next : Next f db newId)
    (stored : db.playbooks.get? row.playbookId = some head)
    (row_stored : db.revisions.get? (row.playbookId, row.revision) = some row)
    (unrequested : ∀ c ∈ db.changeRequests.rows,
      ¬ (c.playbookId = row.playbookId ∧ c.revision = row.revision)) :
    Succeed (image f) (renameDraft f) db
      (MemoryPlaybookRepository.openDraft row origin previousBase title description actor now)
      (openRequest db head row
        (newRequest newId row origin previousBase title description actor now)) := by
  obtain ⟨requests, hrequests⟩ : ∃ requests, db.changeRequests.insert?
      (newRequest newId row origin previousBase title description actor now) = some requests := by
    apply Table.insert?_of_free
    rintro c hc (hid | hsame)
    · have hlt := next.above c hc
      have heq : c.id = newId := hid
      omega
    · exact unrequested c hc hsame
  have hlength : (image f db).requests.length = db.changeRequests.rows.length := List.length_map ..
  have hnumber : ((image f db).requests.length : ℤ) + 1 = f newId := by
    rw [hlength, next.number]
    exact (Nat.cast_succ _).symm
  have hset : (image f db).requests.set (f newId)
      (newRequest (f newId) row origin previousBase title description actor now) =
      dictOf f (renameRequest f) requests := by
    refine set_dictOf_insert hrequests rfl (fun c hc heq => ?_) rfl
    have hbound := numbered.bounds hc
    have heq' : f c.id = f newId := heq
    rw [heq', next.number] at hbound
    omega
  have himage : { image f db with
      requests := (image f db).requests.set (f newId)
        (newRequest (f newId) row origin previousBase title description actor now) } =
      image f { db with changeRequests := requests } := by
    rw [hset]
    rfl
  have hviews := @succeed_views _ f { db with changeRequests := requests } head row
    (newRequest newId row origin previousBase title description actor now) stored row_stored
  refine succeed_get ?_
  rw [hnumber, openRequest, hrequests]
  exact succeed_set himage hviews

end

end BankingService.PlaybookTwins
