import BankingService.PlaybookTwins

/-! The calls that write. Both repositories refuse in the same order, and what the one rolls back
the other has not written yet. -/
namespace BankingService.PlaybookTwins

open Python Relational Checked Mirror

variable {β : Type} {f : ℤ → ℤ} {db db' : PlaybookDb β} {digest : Definition β → String}

theorem Numbered.named (h : Numbered f db) {c : PlaybookChangeRequest}
    (hc : c ∈ db.changeRequests.rows) : Named f db.changeRequests c.id (f c.id) := by
  intro r hr
  refine ⟨fun heq => ?_, fun heq => congrArg f heq⟩
  have hsame : f r.id = f c.id := heq
  rcases lt_trichotomy r.id c.id with hlt | heq' | hlt
  · have := (h.lt_iff hr hc).mpr hlt
    omega
  · exact heq'
  · have := (h.lt_iff hc hr).mpr hlt
    omega

theorem Numbered.of_ids (h : Numbered f db)
    (ids : db'.changeRequests.rows.map (fun c => c.id) =
      db.changeRequests.rows.map fun c => c.id) : Numbered f db' := by
  have hlength : db'.changeRequests.rows.length = db.changeRequests.rows.length := by
    simpa using congrArg List.length ids
  refine ⟨?_, ?_⟩
  · have hnames := congrArg (List.map f) ids
    rw [List.map_map, List.map_map] at hnames
    rw [hlength]
    exact hnames.trans h.counts
  · have hpairs : (db'.changeRequests.rows.map fun c => c.id).Pairwise (· < ·) := by
      rw [ids]
      exact List.pairwise_map.mpr h.ascending
    exact List.pairwise_map.mp hpairs

theorem stored_of_request {p : String} {id : ℤ} {c : PlaybookChangeRequest}
    (h : findRequest db p id = .ok c) :
    db.changeRequests.get? c.id = some c ∧ c.id = id ∧ c.playbookId = p := by
  rw [findRequest, orRaise_eq_ok, Option.filter_eq_some_iff] at h
  have hid := (Table.get?_eq_some.mp h.1).2
  exact ⟨by rw [← h.1]; exact congrArg _ hid, hid, by simpa using h.2⟩

theorem stored_of_open {p : String} {revision : ℤ} {c : PlaybookChangeRequest}
    (h : openRequestFor db p revision = .ok c) :
    db.changeRequests.get? c.id = some c ∧ c.playbookId = p ∧ c.revision = revision ∧
      c.status = .isOpen := by
  rw [openRequestFor, orRaise_eq_ok, Option.filter_eq_some_iff] at h
  obtain ⟨hmem, hfor⟩ := Table.first?_mem h.1
  exact ⟨Table.get?_of_mem hmem, hfor.1, hfor.2, by simpa using h.2⟩

theorem stored_of_head {p : String} {head : Playbook} (h : findHead db p = .ok head) :
    db.playbooks.get? head.id = some head ∧ head.id = p := by
  rw [findHead, orRaise_eq_ok] at h
  have hid : head.id = p := (Table.get?_eq_some.mp h).2
  exact ⟨hid ▸ h, hid⟩

theorem stored_of_row {p : String} {revision : ℤ} {row : PlaybookRevision β}
    (h : findRow db p revision = .ok row) :
    db.revisions.get? (row.playbookId, row.revision) = some row ∧ row.playbookId = p ∧
      row.revision = revision := by
  rw [findRow, orRaise_eq_ok] at h
  have hkey : (row.playbookId, row.revision) = (p, revision) := (Table.get?_eq_some.mp h).2
  exact ⟨hkey ▸ h, congrArg Prod.fst hkey, congrArg Prod.snd hkey⟩

section
variable {head : Playbook} {source : PlaybookRevision β} {origin : RequestOrigin}
  {previousBase : Option ℤ} {title description actor : String} {now : Timestamp}
  {newId expected : ℤ}

theorem succeed_openDraft (sound : Sound digest db) (numbered : Numbered f db)
    (next : Next f db newId) (stored : db.playbooks.get? head.id = some head)
    (source_row : source ∈ db.revisions.rows) (owner : source.playbookId = head.id) :
    Succeed (image f) (renameDraft f) db
      (do
        let row ← MemoryPlaybookRepository.allocate head source.document actor now
        MemoryPlaybookRepository.openDraft row origin previousBase title description actor now)
      (openDraft db head source.document newId origin previousBase title description
        actor now) := by
  obtain ⟨head', hhead', hbelongs⟩ := sound.belongs source source_row
  have same : source.document.id = head.id := hbelongs.id.trans owner
  refine succeed_write (succeed_allocate sound stored same) fun db' row h => ?_
  have hallocated := allocated_of_ok h
  have hframe := hallocated.frame
  have hnone := unrequested_allocated sound hallocated.stored
  refine succeed_openRequest ?_ ?_ ?_ (Table.get?_insert_self hallocated.stored) ?_
  · rw [hframe]
    exact ⟨numbered.counts, numbered.ascending⟩
  · rw [hframe]
    exact ⟨next.number, next.above⟩
  · rw [hframe, id, hallocated.playbook]
    exact stored
  · rw [hframe]
    exact hnone

theorem stored_bump (stored : db.playbooks.get? head.id = some head)
    (generation : head.generation = expected) :
    (bump db head).get? head.id = some { head with generation := expected + 1 } := by
  rw [get?_bump stored, if_pos rfl, generation]

theorem mirrors_drafting (title : String → String) (sound : Sound digest db)
    (numbered : Numbered f db) (next : Next f db newId)
    (stored : db.playbooks.get? head.id = some head) (source_row : source ∈ db.revisions.rows)
    (owner : source.playbookId = head.id) :
    Mirrors (image f) (renameDraft f) db
      (do
        MemoryPlaybookRepository.generation head expected
        let row ← MemoryPlaybookRepository.allocate head source.document actor now
        MemoryPlaybookRepository.openDraft row origin previousBase (title head.id) description
          actor now)
      (do
        let (db, head) ← advanceGeneration db head expected
        openDraft db head source.document newId origin previousBase (title head.id) description
          actor now) := by
  refine mirrors_write (mirrors_generation stored) fun db₁ head₁ h => ?_
  obtain ⟨hgeneration, rfl, rfl⟩ := advanceGeneration_eq_ok stored h
  have hstored := stored_bump stored hgeneration
  exact succeed_openDraft (sound_bump sound stored) ⟨numbered.counts, numbered.ascending⟩
    ⟨next.number, next.above⟩ hstored source_row owner

end

/-- What holds of the tables between two calls. -/
structure Twins (f : ℤ → ℤ) (digest : Definition β → String) (db : PlaybookDb β) : Prop where
  sound : Sound digest db
  numbered : Numbered f db

theorem numbered_requested {c : PlaybookChangeRequest} {requests : Table PlaybookChangeRequest}
    (numbered : Numbered f db) (next : Next f db c.id)
    (inserted : db.changeRequests.insert? c = some requests) :
    Numbered f { db with changeRequests := requests } := by
  have hrows := Table.rows_insert inserted
  refine ⟨?_, ?_⟩
  · change requests.rows.map _ = (List.range requests.rows.length).map _
    rw [hrows, List.map_append, numbered.counts, List.length_append, List.length_singleton,
      List.range_succ, List.map_append]
    simp only [List.map_cons, List.map_nil, next.number]
  · change requests.rows.Pairwise _
    rw [hrows, List.pairwise_append]
    refine ⟨numbered.ascending, List.pairwise_singleton _ _, fun a ha b hb => ?_⟩
    obtain rfl := List.mem_singleton.mp hb
    exact next.above a ha

theorem sound_requested {c : PlaybookChangeRequest} {row : PlaybookRevision β}
    {requests : Table PlaybookChangeRequest} (sound : Sound digest db)
    (row_stored : db.revisions.get? (c.playbookId, c.revision) = some row)
    (inserted : db.changeRequests.insert? c = some requests) :
    Sound digest { db with changeRequests := requests } := by
  refine ⟨sound.belongs, sound.digests, sound.revised, sound.heads, fun x hx => ?_⟩
  rcases (Table.mem_insert inserted).mp hx with hx | rfl
  · exact sound.filed x hx
  · exact ⟨row, row_stored⟩

theorem twins_rewritten {id : ℤ} {g : PlaybookChangeRequest → PlaybookChangeRequest}
    {free : ∀ a b, Row.Clash (g a) b → Row.Clash a b} (twins : Twins f digest db)
    (same : ∀ c, (g c).id = c.id ∧ (g c).playbookId = c.playbookId ∧
      (g c).revision = c.revision) :
    Twins f digest { db with changeRequests := db.changeRequests.update id g free } := by
  refine ⟨⟨twins.sound.belongs, twins.sound.digests, twins.sound.revised, twins.sound.heads,
    fun c hc => ?_⟩, twins.numbered.of_ids ?_⟩
  · obtain ⟨x, hx, rfl⟩ := (Table.mem_update free).mp hc
    have hkeys : (if Row.key x = id then g x else x).playbookId = x.playbookId ∧
        (if Row.key x = id then g x else x).revision = x.revision := by
      split
      · exact (same x).2
      · exact ⟨rfl, rfl⟩
    rw [hkeys.1, hkeys.2]
    exact twins.sound.filed x hx
  · change (List.map _ _).map _ = _
    rw [List.map_map]
    refine List.map_congr_left fun x _ => ?_
    simp only [Function.comp]
    split
    · exact (same x).1
    · rfl

theorem sound_row {row : PlaybookRevision β} {g : PlaybookRevision β → PlaybookRevision β}
    {free : ∀ a b, Row.Clash (g a) b → Row.Clash a b} (sound : Sound digest db)
    (stored : db.revisions.get? (row.playbookId, row.revision) = some row)
    (keys : ∀ r, (g r).playbookId = r.playbookId ∧ (g r).revision = r.revision)
    (belongs : ∀ head, Belongs head row → Belongs head (g row))
    (digested : (g row).status = .published → (g row).digest = some (digest (g row).document))
    (kept : row.status = .published → (g row).status = .published) :
    Sound digest { db with
      revisions := db.revisions.update (row.playbookId, row.revision) g free } := by
  have hkey : ∀ r : PlaybookRevision β, Row.key (g r) = Row.key r := fun r =>
    Prod.ext (keys r).1 (keys r).2
  have hget : ∀ k, (db.revisions.update (row.playbookId, row.revision) g free).get? k = _ :=
    fun k => Table.get?_update g hkey free
  have hrows : ∀ x ∈ (db.revisions.update (row.playbookId, row.revision) g free).rows,
      x ∈ db.revisions.rows ∨ x = g row := by
    intro x hx
    obtain ⟨r, hr, rfl⟩ := (Table.mem_update free).mp hx
    split
    · rename_i heq
      obtain rfl := Table.eq_of_key hr (Table.get?_eq_some.mp stored).1 heq
      exact Or.inr rfl
    · exact Or.inl hr
  have hrow := (Table.get?_eq_some.mp stored).1
  have hfound : ∀ k x, db.revisions.get? k = some x →
      ∃ y, (db.revisions.update (row.playbookId, row.revision) g free).get? k = some y ∧
        (x.status = .published → y.status = .published) := by
    intro k x hx
    rw [hget]
    split
    · rename_i heq
      rw [heq, stored] at hx
      obtain rfl := Option.some.inj hx
      exact ⟨g row, by rw [stored]; rfl, kept⟩
    · exact ⟨x, hx, id⟩
  refine ⟨fun x hx => ?_, fun x hx hpublished => ?_, fun p hp => ?_, fun p hp r hr => ?_,
    fun c hc => ?_⟩
  · rcases hrows x hx with hx | rfl
    · exact sound.belongs x hx
    · obtain ⟨head, hhead, hbelongs⟩ := sound.belongs row hrow
      exact ⟨head, by rw [(keys row).1]; exact hhead, belongs head hbelongs⟩
  · rcases hrows x hx with hx | rfl
    · exact sound.digests x hx hpublished
    · exact digested hpublished
  · obtain ⟨x, hx, hid⟩ := sound.revised p hp
    refine ⟨_, (Table.mem_update free).mpr ⟨x, hx, rfl⟩, ?_⟩
    split
    · exact (keys x).1.trans hid
    · exact hid
  · obtain ⟨x, hx, hpublished⟩ := sound.heads p hp r hr
    obtain ⟨y, hy, hstatus⟩ := hfound _ x hx
    exact ⟨y, hy, hstatus hpublished⟩
  · obtain ⟨x, hx⟩ := sound.filed c hc
    obtain ⟨y, hy, -⟩ := hfound _ x hx
    exact ⟨y, hy⟩

theorem sound_head {row : PlaybookRevision β} (sound : Sound digest db)
    (stored : db.revisions.get? (row.playbookId, row.revision) = some row)
    (published : row.status = .published) :
    Sound digest { db with
      playbooks := db.playbooks.update row.playbookId
        fun p => { p with publishedRevision := some row.revision } } := by
  have hrows : ∀ h ∈ (db.playbooks.update row.playbookId
      fun p => { p with publishedRevision := some row.revision }).rows,
      ∃ h' ∈ db.playbooks.rows, h.id = h'.id ∧ (h.publishedRevision = h'.publishedRevision ∨
        (h.id = row.playbookId ∧ h.publishedRevision = some row.revision)) := by
    intro h hh
    obtain ⟨h', hh', rfl⟩ := (Table.mem_update _).mp hh
    refine ⟨h', hh', ?_⟩
    split
    · rename_i heq
      exact ⟨rfl, Or.inr ⟨heq, rfl⟩⟩
    · exact ⟨rfl, Or.inl rfl⟩
  refine ⟨fun x hx => ?_, sound.digests, fun h hh => ?_, fun h hh r hr => ?_, sound.filed⟩
  · obtain ⟨head, hhead, hbelongs⟩ := sound.belongs x hx
    have hget := @get?_headSet db.playbooks row.playbookId x.playbookId row.revision
    by_cases heq : x.playbookId = row.playbookId
    · rw [heq] at hhead
      rw [if_pos heq, hhead] at hget
      exact ⟨_, hget, ⟨hbelongs.id, hbelongs.revision, hbelongs.actionType,
        hbelongs.contractVersion, hbelongs.operation⟩⟩
    · rw [if_neg heq, hhead] at hget
      exact ⟨head, hget, hbelongs⟩
  · obtain ⟨h', hh', hid, -⟩ := hrows h hh
    rw [hid]
    exact sound.revised h' hh'
  · obtain ⟨h', hh', hid, hsame | ⟨hplaybook, hrevision⟩⟩ := hrows h hh
    · rw [hid]
      exact sound.heads h' hh' r (hsame ▸ hr)
    · rw [hrevision] at hr
      obtain rfl := Option.some.inj hr
      rw [hplaybook]
      exact ⟨row, stored, published⟩

section
variable {head : Playbook} {source : PlaybookRevision β} {origin : RequestOrigin}
  {previousBase : Option ℤ} {title description actor : String} {now : Timestamp}
  {newId expected : ℤ} {view : DraftView β}

theorem twins_openDraft (twins : Twins f digest db) (next : Next f db newId)
    (stored : db.playbooks.get? head.id = some head) (source_row : source ∈ db.revisions.rows)
    (owner : source.playbookId = head.id)
    (h : openDraft db head source.document newId origin previousBase title description actor now =
      .ok (db', view)) :
    Twins f digest db' ∧ ∀ id c, db.changeRequests.get? id = some c →
      db'.changeRequests.get? id = some c := by
  simp only [openDraft, bind_eq_ok] at h
  obtain ⟨⟨db₁, row⟩, hallocate, hopen⟩ := h
  have hallocated := allocated_of_ok hallocate
  have hsound := sound_allocated twins.sound stored source_row owner hallocated
  have hrequests : db₁.changeRequests = db.changeRequests := by rw [hallocated.frame]
  have hnumbered : Numbered f db₁ := twins.numbered.of_ids (by rw [hrequests])
  have hnext : Next f db₁ newId := by
    constructor
    · rw [hrequests]
      exact next.number
    · rw [hrequests]
      exact next.above
  obtain ⟨requests, hinsert, rfl⟩ := openRequest_eq_ok hopen
  refine ⟨⟨sound_requested hsound (Table.get?_insert_self hallocated.stored) hinsert,
    numbered_requested hnumbered hnext hinsert⟩, fun id c hc => ?_⟩
  rw [← hrequests] at hc
  exact Table.get?_insert_of_some hinsert hc

theorem twins_bump (twins : Twins f digest db)
    (stored : db.playbooks.get? head.id = some head) :
    Twins f digest { db with playbooks := bump db head } :=
  ⟨sound_bump twins.sound stored, twins.numbered.of_ids rfl⟩

theorem twins_drafting (title : String → String) (twins : Twins f digest db)
    (next : Next f db newId) (stored : db.playbooks.get? head.id = some head)
    (source_row : source ∈ db.revisions.rows) (owner : source.playbookId = head.id)
    (h : (do
      let (db, head) ← advanceGeneration db head expected
      openDraft db head source.document newId origin previousBase (title head.id) description actor
        now) = .ok (db', view)) : Twins f digest db' := by
  rw [bind_eq_ok] at h
  obtain ⟨⟨db₁, head₁⟩, hadvance, hopen⟩ := h
  obtain ⟨hgeneration, rfl, rfl⟩ := advanceGeneration_eq_ok stored hadvance
  have hstored := stored_bump stored hgeneration
  dsimp only at hopen
  refine (twins_openDraft (twins_bump twins stored) ?_ hstored source_row ?_ hopen).1
  · exact ⟨next.number, next.above⟩
  · exact owner

end

theorem reads_row {p : String} {revision : ℤ} {head : Playbook} (h : findHead db p = .ok head) :
    Reads (fun row => revisionView row head.generation) (image f db)
      (MemoryPlaybookRepository.getRevision p revision) (findRow db p revision) := by
  have hread : Reads id (image f db) _ _ := reads_getRevision p revision
  rw [getRevision, h, ok_bind] at hread
  unfold Reads at hread ⊢
  rw [hread]
  cases findRow db p revision <;> rfl

def findDraft (db : PlaybookDb β) (p : String) (revision expected : ℤ) :
    Except RepositoryError (PlaybookRevision β) := do
  let row ← findRow db p revision
  let _ ← requireDraft row expected
  return row

theorem reads_editable {p : String} {revision expected : ℤ} {head : Playbook}
    (h : findHead db p = .ok head) :
    Reads id (image f db) (MemoryPlaybookRepository.editable p revision expected)
      (findDraft db p revision expected) := by
  refine reads_bind (reads_row h) fun row hrow => reads_get ?_
  have hfound : Reads id (image f db)
      (found ((image f db).revisions.get? (p, revision)) .revisionNotFound)
      (.ok row : Except RepositoryError _) := by
    rw [get?_revisions, orRaise_eq_ok.mp hrow]
    rfl
  refine reads_bind (x := .ok row) (y := fun row => do
    let _ ← requireDraft row expected
    return row) hfound fun _ h => ?_
  exact Except.ok.inj h ▸ reads_bind (reads_raiseUnless Iff.rfl) fun _ _ => reads_pure _

def finished (db : PlaybookDb β) (c : PlaybookChangeRequest) (status : RequestStatus)
    (actor : String) (now : Timestamp) : PlaybookDb β :=
  { db with
    changeRequests :=
      db.changeRequests.update c.id (PlaybookChangeRequest.finish status actor now) }

section
variable {c : PlaybookChangeRequest} {status : RequestStatus} {actor : String} {now : Timestamp}

theorem finishRequest_ok (stored : db.changeRequests.get? c.id = some c)
    (isOpen : c.status = .isOpen) :
    finishRequest db c status actor now = .ok (finished db c status actor now) := by
  rw [finishRequest, require_of ⟨c, stored, isOpen⟩]
  rfl

theorem succeed_finish (numbered : Numbered f db) (stored : db.changeRequests.get? c.id = some c)
    (isOpen : c.status = .isOpen) :
    Succeed (image f) (renameRequest f) db
      (MemoryPlaybookRepository.finish (f c.id) status actor now)
      (.ok (finished db c status actor now, c.finish status actor now)) := by
  have hnamed := numbered.named (Table.get?_eq_some.mp stored).1
  have hset : (image f db).requests.set (f c.id) (renameRequest f (c.finish status actor now)) =
      dictOf f (renameRequest f) (db.changeRequests.update c.id
        (PlaybookChangeRequest.finish status actor now)) :=
    set_dictOf_update stored hnamed rfl rfl
  have himage : { image f db with
      requests := (image f db).requests.set (f c.id)
        (renameRequest f (c.finish status actor now)) } =
      image f (finished db c status actor now) := by
    rw [hset]
    rfl
  have hfound : Reads (renameRequest f) (image f db)
      (found ((image f db).requests.get? (f c.id)) .changeRequestNotFound)
      (.ok c : Except RepositoryError _) := by
    rw [get?_requests hnamed, stored]
    rfl
  have hopen : Reads id (image f db)
      (raiseUnless ((renameRequest f c).status = .isOpen) RepositoryError.noLongerOpen)
      (.ok () : Except RepositoryError _) := by
    rw [raiseUnless, if_pos (show (renameRequest f c).status = .isOpen from isOpen)]
    rfl
  refine succeed_get (succeed_skip hfound (succeed_skip hopen ?_))
  exact succeed_set himage (succeed_pure rfl)

end

section
variable {p actor description : String} {title : Option String} {now : Timestamp}
  {revision sourceRevision changeRequestId k expectedDraftVersion expectedGeneration
    expectedVersion newId : ℤ} {document : Definition β}

theorem mirrors_createDraft (twins : Twins f digest db) (next : Next f db newId) :
    Mirrors (image f) (renameDraft f) db
      (MemoryPlaybookRepository.createDraft p sourceRevision expectedGeneration actor now title
        description)
      (createDraft db p sourceRevision expectedGeneration newId actor now title description) := by
  refine mirrors_read (reads_head p) fun head hhead => ?_
  refine mirrors_read (reads_row hhead) fun source hsource => ?_
  obtain ⟨stored, rfl⟩ := stored_of_head hhead
  obtain ⟨hrow, howner, rfl⟩ := stored_of_row hsource
  refine mirrors_read (reads_raiseUnless Iff.rfl) fun _ _ => ?_
  exact mirrors_drafting (fun id => titleOr title (defaultTitle .draft id 0)) twins.sound
    twins.numbered next stored (Table.get?_eq_some.mp hrow).1 howner

theorem twins_createDraft {view : DraftView β} (twins : Twins f digest db)
    (next : Next f db newId) (h : createDraft db p sourceRevision expectedGeneration newId actor
      now title description = .ok (db', view)) : Twins f digest db' := by
  simp only [createDraft, draftFromHead, bind_eq_ok (x := findHead _ _),
    bind_eq_ok (x := findRow _ _ _), bind_eq_ok (x := require _ _)] at h
  obtain ⟨head, hhead, source, hsource, -, -, h⟩ := h
  obtain ⟨stored, rfl⟩ := stored_of_head hhead
  obtain ⟨hrow, howner, rfl⟩ := stored_of_row hsource
  exact twins_drafting (fun id => titleOr title (defaultTitle .draft id 0)) twins next stored
    (Table.get?_eq_some.mp hrow).1 howner h

theorem mirrors_restore (twins : Twins f digest db) (next : Next f db newId) :
    Mirrors (image f) (renameDraft f) db
      (MemoryPlaybookRepository.restore p sourceRevision expectedGeneration actor now title
        description)
      (restoreRevision db p sourceRevision expectedGeneration newId actor now title
        description) := by
  refine mirrors_read (reads_head p) fun head hhead => ?_
  refine mirrors_read (reads_row hhead) fun source hsource => ?_
  obtain ⟨stored, rfl⟩ := stored_of_head hhead
  obtain ⟨hrow, howner, rfl⟩ := stored_of_row hsource
  refine mirrors_read (reads_raiseUnless Iff.rfl) fun _ _ => ?_
  exact mirrors_drafting (fun id => titleOr title (defaultTitle .restore id source.revision))
    twins.sound twins.numbered next stored (Table.get?_eq_some.mp hrow).1 howner

theorem twins_restore {view : DraftView β} (twins : Twins f digest db)
    (next : Next f db newId) (h : restoreRevision db p sourceRevision expectedGeneration newId
      actor now title description = .ok (db', view)) : Twins f digest db' := by
  simp only [restoreRevision, draftFromHistory, bind_eq_ok (x := findHead _ _),
    bind_eq_ok (x := findRow _ _ _), bind_eq_ok (x := require _ _)] at h
  obtain ⟨head, hhead, source, hsource, -, -, h⟩ := h
  obtain ⟨stored, rfl⟩ := stored_of_head hhead
  obtain ⟨hrow, howner, rfl⟩ := stored_of_row hsource
  exact twins_drafting (fun id => titleOr title (defaultTitle .restore id source.revision)) twins
    next stored (Table.get?_eq_some.mp hrow).1 howner h

theorem succeed_replacement {head : Playbook} {source : PlaybookRevision β}
    {old : PlaybookChangeRequest} (twins : Twins f digest db) (next : Next f db newId)
    (stored : db.playbooks.get? head.id = some head) (source_row : source ∈ db.revisions.rows)
    (owner : source.playbookId = head.id)
    (old_stored : db.changeRequests.get? old.id = some old) (isOpen : old.status = .isOpen) :
    Succeed (image f) (renameDraft f) db
      (do
        let row ← MemoryPlaybookRepository.allocate head source.document actor now
        let view ← MemoryPlaybookRepository.openDraft row .recreate old.baseRevision old.title
          old.description actor now
        let _ ← MemoryPlaybookRepository.finish (f old.id) .closed actor now
        return view)
      (do
        let (db, view) ← openDraft db head source.document newId .recreate old.baseRevision
          old.title old.description actor now
        let db ← finishRequest db old .closed actor now
        return (db, view)) := by
  rw [← bind_assoc]
  refine succeed_write (succeed_openDraft twins.sound twins.numbered next stored source_row owner)
    fun db' view h => ?_
  obtain ⟨htwins, hkept⟩ := twins_openDraft twins next stored source_row owner h
  have hstored := hkept _ _ old_stored
  dsimp only
  rw [finishRequest_ok hstored isOpen]
  exact succeed_then (succeed_finish htwins.numbered hstored isOpen) (succeed_pure rfl)

theorem mirrors_recreateFromHead (twins : Twins f digest db) (next : Next f db newId)
    (named : Named f db.changeRequests changeRequestId k) :
    Mirrors (image f) (renameDraft f) db
      (MemoryPlaybookRepository.recreateFromHead p k expectedDraftVersion expectedGeneration actor
        now)
      (recreateFromHead db p changeRequestId expectedDraftVersion expectedGeneration newId actor
        now) := by
  have hdraft : ∀ (head : Playbook) (old : PlaybookChangeRequest),
      (do
        let draft ← findRow db p old.revision
        replaceDraft db head old draft expectedDraftVersion expectedGeneration newId actor now) =
      (do
        let draft ← findDraft db p old.revision expectedDraftVersion
        require (old.baseRevision ≠ head.publishedRevision) RepositoryError.notBehindHead
        let (db, head) ← advanceGeneration db head expectedGeneration
        let (db, view) ← openDraft db head draft.document newId .recreate old.baseRevision old.title
          old.description actor now
        let db ← finishRequest db old .closed actor now
        return (db, view)) := by
    intro head old
    simp only [replaceDraft, findDraft, bind_assoc, pure_bind]
  refine mirrors_read (reads_head p) fun head hhead => ?_
  refine mirrors_read (reads_request named) fun old hold => ?_
  refine mirrors_read (reads_raiseUnless Iff.rfl) fun _ hopen => ?_
  rw [hdraft]
  refine mirrors_read (reads_editable hhead) fun draft heditable => ?_
  refine mirrors_read (reads_raiseUnless Iff.rfl) fun _ _ => ?_
  simp only [findDraft, bind_eq_ok, pure_eq_ok] at heditable
  obtain ⟨row, hrow, -, -, rfl⟩ := heditable
  obtain ⟨stored, rfl⟩ := stored_of_head hhead
  obtain ⟨hstored, howner, -⟩ := stored_of_row hrow
  obtain ⟨hrequest, -, -⟩ := stored_of_request hold
  refine mirrors_write (mirrors_generation stored) fun db₁ head₁ h => ?_
  obtain ⟨hgeneration, rfl, rfl⟩ := advanceGeneration_eq_ok stored h
  have hbumped := stored_bump stored hgeneration
  refine succeed_replacement (twins_bump twins stored) ?_ hbumped (Table.get?_eq_some.mp hstored).1
    howner hrequest (require_eq_ok.mp hopen)
  exact ⟨next.number, next.above⟩

theorem twins_recreateFromHead {view : DraftView β} (twins : Twins f digest db)
    (next : Next f db newId)
    (h : recreateFromHead db p changeRequestId expectedDraftVersion expectedGeneration newId actor
      now = .ok (db', view)) : Twins f digest db' := by
  simp only [recreateFromHead, replaceDraft, bind_eq_ok, pure_eq_ok] at h
  obtain ⟨head, hhead, old, hold, -, -, row, hrow, -, -, -, -, ⟨db₁, head₁⟩, hadvance,
    ⟨db₂, view₂⟩, hopen, db₃, hfinish, h⟩ := h
  cases h
  obtain ⟨stored, rfl⟩ := stored_of_head hhead
  obtain ⟨hstored, howner, -⟩ := stored_of_row hrow
  obtain ⟨hgeneration, rfl, rfl⟩ := advanceGeneration_eq_ok stored hadvance
  have hbumped := stored_bump stored hgeneration
  dsimp only at hopen
  obtain ⟨htwins, -⟩ := twins_openDraft (twins_bump twins stored)
    (by exact ⟨next.number, next.above⟩) hbumped (Table.get?_eq_some.mp hstored).1
    (by exact howner) hopen
  obtain ⟨-, rfl⟩ := finishRequest_eq_ok.mp hfinish
  exact twins_rewritten htwins fun _ => ⟨rfl, rfl, rfl⟩

def findBoth (db : PlaybookDb β) (p : String) (revision : ℤ) :
    Except RepositoryError (Playbook × PlaybookRevision β) := do
  let head ← findHead db p
  let row ← findRow db p revision
  return (head, row)

theorem reads_both : Reads (fun x => revisionView x.2 x.1.generation) (image f db)
    (MemoryPlaybookRepository.getRevision p revision) (findBoth db p revision) := by
  have hread : Reads id (image f db) _ _ := reads_getRevision p revision
  unfold Reads at hread ⊢
  rw [hread, getRevision, findBoth]
  cases findHead db p with
  | error e => rfl
  | ok head => cases findRow db p revision <;> rfl

theorem stored_of_both {x : Playbook × PlaybookRevision β} (h : findBoth db p revision = .ok x) :
    findHead db p = .ok x.1 ∧ findRow db p revision = .ok x.2 := by
  simp only [findBoth, bind_eq_ok, pure_eq_ok] at h
  obtain ⟨head, hhead, row, hrow, rfl⟩ := h
  exact ⟨hhead, hrow⟩

theorem reads_version {head : Playbook} {row : PlaybookRevision β}
    (hhead : findHead db p = .ok head) (hrow : findRow db p revision = .ok row) :
    Reads (fun _ => row) (image f db)
      (MemoryPlaybookRepository.editable p revision expectedDraftVersion)
      (requireDraft row expectedDraftVersion) := by
  have hread : Reads id (image f db) (MemoryPlaybookRepository.editable p revision
      expectedDraftVersion) _ := reads_editable hhead
  rw [findDraft, hrow, ok_bind] at hread
  unfold Reads at hread ⊢
  rw [hread]
  cases requireDraft row expectedDraftVersion <;> rfl

theorem claimEdit_ok {row : PlaybookRevision β} {cr : PlaybookChangeRequest}
    (row_stored : db.revisions.get? (row.playbookId, row.revision) = some row)
    (draft : row.status = .draft ∧ row.draftVersion = expectedDraftVersion)
    (cr_stored : db.changeRequests.get? cr.id = some cr)
    (owner : cr.playbookId = row.playbookId ∧ cr.revision = row.revision)
    (isOpen : cr.status = .isOpen) : claimEdit db row expectedDraftVersion = .ok () :=
  require_of ⟨⟨row, row_stored, draft⟩, cr, (Table.get?_eq_some.mp cr_stored).1, owner.1, owner.2,
    isOpen⟩

theorem mirrors_edit :
    Mirrors (image f) (renameDraft f) db
      (MemoryPlaybookRepository.edit p revision document expectedDraftVersion actor now)
      (editDraft db p revision document expectedDraftVersion actor now) := by
  have hcall : editDraft db p revision document expectedDraftVersion actor now = (do
      let x ← findBoth db p revision
      let cr ← openRequestFor db p revision
      let _ ← requireDraft x.2 expectedDraftVersion
      require (SameIdentity document x.2.document)
        (.invalid "Definition identity and capability are immutable.")
      claimEdit db x.2 expectedDraftVersion
      writeEdit db x.1 x.2 cr document expectedDraftVersion actor now) := by
    simp only [editDraft, findBoth, checkEdit, bind_assoc, pure_bind]
  rw [hcall]
  refine mirrors_read reads_both fun x hx => ?_
  obtain ⟨hhead, hrow⟩ := stored_of_both hx
  refine mirrors_read (reads_openRequestFor p revision) fun cr hcr => ?_
  refine mirrors_read (reads_version hhead hrow) fun _ hdraft => ?_
  refine mirrors_read (reads_raiseUnless Iff.rfl) fun _ _ => ?_
  obtain ⟨hrequest, rfl, rfl, hopen⟩ := stored_of_open hcr
  obtain ⟨stored, hid⟩ := stored_of_head hhead
  obtain ⟨hstored, howner, hrevision⟩ := stored_of_row hrow
  rw [claimEdit_ok hstored (require_eq_ok.mp hdraft) hrequest ⟨howner.symm, hrevision.symm⟩ hopen]
  have hset : (image f db).revisions.set (cr.playbookId, cr.revision)
      (x.2.edited document (expectedDraftVersion + 1) actor now) =
      dictOf id id (db.revisions.update (x.2.playbookId, x.2.revision)
        (PlaybookRevision.edited document (expectedDraftVersion + 1) actor now)) := by
    rw [← howner, ← hrevision]
    exact set_dictOf_update hstored named_self rfl rfl
  have himage : { image f db with
      revisions := (image f db).revisions.set (cr.playbookId, cr.revision)
        (x.2.edited document (expectedDraftVersion + 1) actor now) } =
      image f { db with
        revisions := db.revisions.update (x.2.playbookId, x.2.revision)
          (PlaybookRevision.edited document (expectedDraftVersion + 1) actor now) } := by
    rw [hset]
    rfl
  rw [hid] at stored
  refine mirrors_of_succeed (succeed_modify himage ?_)
  refine succeed_views stored ?_
  rw [get?_edited, howner, hrevision, if_pos rfl, ← howner, ← hrevision, hstored]
  rfl

theorem reads_currentBase {head : Playbook} {cr : PlaybookChangeRequest}
    (hhead : findHead db cr.playbookId = .ok head) :
    Reads id (image f db) (MemoryPlaybookRepository.currentBase (renameRequest f cr))
      (currentBase cr head) := by
  have hfound : Reads id (image f db) (found ((image f db).heads.get? cr.playbookId)
      (.database .keyError)) (.ok head : Except RepositoryError _) := by
    rw [get?_heads, orRaise_eq_ok.mp hhead]
    rfl
  refine reads_get (reads_bind (x := .ok head) (y := currentBase cr) hfound fun x h => ?_)
  obtain rfl := Except.ok.inj h
  exact reads_raiseUnless Iff.rfl

def publication (db : PlaybookDb β) (row : PlaybookRevision β) (digest actor : String)
    (now : Timestamp) : PlaybookDb β :=
  { db with
    revisions := db.revisions.update (row.playbookId, row.revision)
      (PlaybookRevision.publish digest actor now)
    playbooks := db.playbooks.update row.playbookId
      fun p => { p with publishedRevision := some row.revision } }

section
variable {head : Playbook} {row : PlaybookRevision β} {cr : PlaybookChangeRequest}
  {status : RequestStatus} {signature : String}

theorem publishRevision_ok
    (row_stored : db.revisions.get? (row.playbookId, row.revision) = some row)
    (draft : row.status = .draft) :
    publishRevision db row signature actor now = .ok (publication db row signature actor now) := by
  rw [publishRevision, require_of ⟨row, row_stored, draft⟩]
  rfl

theorem image_publishRow (stored : db.playbooks.get? row.playbookId = some head)
    (row_stored : db.revisions.get? (row.playbookId, row.revision) = some row) :
    MemoryPlaybookRepository.publishRow row head signature actor now (image f db) =
      image f (publication db row signature actor now) := by
  have hrevisions : (image f db).revisions.set (row.playbookId, row.revision)
      (row.publish signature actor now) =
      dictOf id id (db.revisions.update (row.playbookId, row.revision)
        (PlaybookRevision.publish signature actor now)) :=
    set_dictOf_update row_stored named_self rfl rfl
  have hheads : (image f db).heads.set row.playbookId
      { head with publishedRevision := some row.revision } =
      dictOf id id (db.playbooks.update row.playbookId
        fun p => { p with publishedRevision := some row.revision }) :=
    set_dictOf_update stored named_self (Table.get?_eq_some.mp stored).2 rfl
  have hid : head.id = row.playbookId := (Table.get?_eq_some.mp stored).2
  rw [← hid] at hheads
  rw [MemoryPlaybookRepository.publishRow, hrevisions, hheads, publication, ← hid]
  rfl

theorem sound_publication (sound : Sound digest db)
    (row_stored : db.revisions.get? (row.playbookId, row.revision) = some row)
    (signed : signature = digest row.document) :
    Sound digest (publication db row signature actor now) := by
  have hrows : Sound digest { db with
      revisions := db.revisions.update (row.playbookId, row.revision)
        (PlaybookRevision.publish signature actor now) } :=
    sound_row sound row_stored (fun _ => ⟨rfl, rfl⟩)
      (fun _ hbelongs => ⟨hbelongs.id, hbelongs.revision, hbelongs.actionType,
        hbelongs.contractVersion, hbelongs.operation⟩)
      (fun _ => congrArg some signed) fun _ => rfl
  have hrow : (db.revisions.update (row.playbookId, row.revision)
      (PlaybookRevision.publish signature actor now)).get? (row.playbookId, row.revision) =
      some (row.publish signature actor now) :=
    Table.get?_update_self _ row_stored
  exact @sound_head _ _ digest (row.publish signature actor now) hrows hrow rfl

theorem reload_finished (stored : db.changeRequests.get? cr.id = some cr) :
    reload (finished db cr status actor now) cr = cr.finish status actor now := by
  have hget : (finished db cr status actor now).changeRequests.get? cr.id =
      some (cr.finish status actor now) :=
    (Table.get?_update_self (PlaybookChangeRequest.finish status actor now) stored)
  rw [reload, hget]
  rfl

theorem succeed_published (numbered : Numbered f db)
    (stored : db.playbooks.get? row.playbookId = some head)
    (row_stored : db.revisions.get? (row.playbookId, row.revision) = some row)
    (draft : row.status = .draft) (cr_stored : db.changeRequests.get? cr.id = some cr)
    (owner : cr.playbookId = row.playbookId ∧ cr.revision = row.revision)
    (isOpen : cr.status = .isOpen) :
    Succeed (image f) (renameDraft f) db
      (do
        let stored ← MemoryPlaybookRepository.head row.playbookId
        modify (MemoryPlaybookRepository.publishRow row stored signature actor now)
        let cr ← MemoryPlaybookRepository.finish (f cr.id) .published actor now
        let view ← MemoryPlaybookRepository.getRevision row.playbookId row.revision
        let request ← MemoryPlaybookRepository.requestView cr
        return ⟨view, request⟩)
      (do
        let db ← publishRevision db row signature actor now
        let db ← finishRequest db cr .published actor now
        let view ← requestView db { head with publishedRevision := some row.revision }
          (reload db cr)
        return (db, ⟨revisionView (row.publish signature actor now) head.generation, view⟩)) := by
  have hhead : Reads id (image f db) (MemoryPlaybookRepository.head row.playbookId)
      (.ok head) := by
    have hread := @reads_head _ f db row.playbookId
    rwa [findHead, stored] at hread
  refine succeed_skip hhead ?_
  rw [publishRevision_ok row_stored draft, ok_bind]
  refine succeed_modify (image_publishRow stored row_stored) ?_
  have hnumbered : Numbered f (publication db row signature actor now) :=
    numbered.of_ids rfl
  have hcr : (publication db row signature actor now).changeRequests.get? cr.id = some cr :=
    cr_stored
  rw [finishRequest_ok hcr isOpen, ok_bind, reload_finished hcr]
  refine succeed_then (succeed_finish hnumbered hcr isOpen) ?_
  have hhead' : (finished (publication db row signature actor now) cr .published actor
      now).playbooks.get? (cr.finish .published actor now).playbookId =
      some { head with publishedRevision := some row.revision } := by
    refine get?_headSet.trans ?_
    rw [stored]
    exact if_pos owner.1
  have hrow : (finished (publication db row signature actor now) cr .published actor
      now).revisions.get? ((cr.finish .published actor now).playbookId,
        (cr.finish .published actor now).revision) = some (row.publish signature actor now) := by
    refine get?_publish.trans ?_
    rw [row_stored]
    exact if_pos (Prod.ext owner.1 owner.2)
  have hviews := @succeed_views _ f _ _ _ _ hhead' hrow
  rw [show (cr.finish .published actor now).playbookId = row.playbookId from owner.1,
    show (cr.finish .published actor now).revision = row.revision from owner.2] at hviews
  exact hviews

end

theorem mirrors_publish {signature : String} (numbered : Numbered f db) :
    Mirrors (image f) (renameDraft f) db
      (MemoryPlaybookRepository.publish p revision signature expectedDraftVersion
        expectedGeneration actor now)
      (publishDraft db p revision signature expectedDraftVersion expectedGeneration actor
        now) := by
  have hcall : publishDraft db p revision signature expectedDraftVersion expectedGeneration actor
      now = (do
      let x ← findBoth db p revision
      let cr ← openRequestFor db p revision
      publishRow db x.1 x.2 cr signature expectedDraftVersion expectedGeneration actor now) := by
    simp only [publishDraft, findBoth, bind_assoc, pure_bind]
  rw [hcall]
  refine mirrors_read reads_both fun x hx => ?_
  obtain ⟨hhead, hrow⟩ := stored_of_both hx
  refine mirrors_read (reads_openRequestFor p revision) fun cr hcr => ?_
  obtain ⟨hrequest, hplaybook, hrequested, hopen⟩ := stored_of_open hcr
  refine mirrors_read (reads_currentBase (hplaybook ▸ hhead)) fun _ _ => ?_
  refine mirrors_read (reads_version hhead hrow) fun _ hdraft => ?_
  have hfound : Reads id (image f db) (MemoryPlaybookRepository.head p) (.ok x.1) :=
    hhead ▸ reads_head p
  refine mirrors_skip hfound ?_
  obtain ⟨stored, hid⟩ := stored_of_head hhead
  obtain ⟨hstored, rfl, rfl⟩ := stored_of_row hrow
  refine mirrors_write (mirrors_generation stored) fun db₁ head₁ h => ?_
  obtain ⟨hgeneration, rfl, rfl⟩ := advanceGeneration_eq_ok stored h
  have hbumped : (bump db x.1).get? x.2.playbookId =
      some { x.1 with generation := expectedGeneration + 1 } := by
    rw [← hid]
    exact stored_bump stored hgeneration
  exact succeed_published (numbered.of_ids rfl) hbumped hstored (require_eq_ok.mp hdraft).1
    hrequest ⟨hplaybook, hrequested⟩ hopen

theorem twins_edit {view : DraftView β} (twins : Twins f digest db)
    (h : editDraft db p revision document expectedDraftVersion actor now = .ok (db', view)) :
    Twins f digest db' := by
  simp only [editDraft, checkEdit, writeEdit, requireDraft, bind_eq_ok, require_eq_ok,
    pure_eq_ok] at h
  obtain ⟨head, -, row, hrow, cr, -, -, ⟨-, ⟨hdraft, -⟩, hsame⟩, -, -, request, -, h⟩ := h
  cases h
  obtain ⟨hstored, -, -⟩ := stored_of_row hrow
  refine ⟨sound_row twins.sound hstored (fun _ => ⟨rfl, rfl⟩) (fun head hbelongs => ?_)
    (fun hpublished => ?_) (fun hpublished => ?_), twins.numbered.of_ids rfl⟩
  · obtain ⟨hid, hrevision, htype, hversion, hoperation⟩ := hsame
    exact ⟨hid.trans hbelongs.id, hrevision.trans hbelongs.revision,
      htype.trans hbelongs.actionType, hversion.trans hbelongs.contractVersion,
      hoperation.trans hbelongs.operation⟩
  · rw [show (row.edited document _ actor now).status = row.status from rfl, hdraft] at hpublished
    cases hpublished
  · rw [hdraft] at hpublished
    cases hpublished

theorem twins_publish {view : DraftView β} {signature : String} (twins : Twins f digest db)
    (signed : ∀ row, db.revisions.get? (p, revision) = some row →
      signature = digest row.document)
    (h : publishDraft db p revision signature expectedDraftVersion expectedGeneration actor now =
      .ok (db', view)) : Twins f digest db' := by
  simp only [publishDraft, publishRow, publishRevision, requireDraft, bind_eq_ok, require_eq_ok,
    pure_eq_ok] at h
  obtain ⟨head, hhead, row, hrow, cr, -, -, -, -, ⟨hdraft, -⟩, ⟨db₁, head₁⟩, hadvance, db₂,
    ⟨-, -, rfl⟩, db₃, hfinish, request, -, h⟩ := h
  cases h
  obtain ⟨stored, hid⟩ := stored_of_head hhead
  have hsigned := signed row (orRaise_eq_ok.mp hrow)
  obtain ⟨hstored, howner, -⟩ := stored_of_row hrow
  obtain ⟨-, rfl, rfl⟩ := advanceGeneration_eq_ok stored hadvance
  obtain ⟨-, rfl⟩ := finishRequest_eq_ok.mp hfinish
  have hpublished : Twins f digest (publication { db with playbooks := bump db head } row signature
      actor now) :=
    ⟨sound_publication (sound_bump twins.sound stored) hstored hsigned, twins.numbered.of_ids rfl⟩
  exact twins_rewritten hpublished fun _ => ⟨rfl, rfl, rfl⟩

theorem succeed_reloaded {head : Playbook} {cr : PlaybookChangeRequest}
    {requests : Table PlaybookChangeRequest} (sound : Sound digest db)
    (stored : db.playbooks.get? cr.playbookId = some head)
    (filed : ∃ c ∈ db.changeRequests.rows, c.playbookId = cr.playbookId ∧
      c.revision = cr.revision) :
    Succeed (image f) (renameView f) { db with changeRequests := requests }
      (MemoryPlaybookRepository.requestView (renameRequest f cr))
      (do
        let view ← requestView { db with changeRequests := requests } head cr
        return ({ db with changeRequests := requests }, view)) := by
  obtain ⟨c, hc, hplaybook, hrevision⟩ := filed
  obtain ⟨row, hrow⟩ := sound.filed c hc
  rw [hplaybook, hrevision] at hrow
  exact succeed_requestView stored hrow

theorem mirrors_updateChangeRequest {title description : Option String}
    (twins : Twins f digest db) (named : Named f db.changeRequests changeRequestId k) :
    Mirrors (image f) (renameView f) db
      (MemoryPlaybookRepository.updateChangeRequest p k expectedVersion title description)
      (updateChangeRequest db p changeRequestId expectedVersion title description) := by
  refine mirrors_read (reads_head p) fun head hhead => ?_
  refine mirrors_read (reads_request named) fun cr hcr => ?_
  refine mirrors_read (reads_raiseUnless Iff.rfl) fun _ hopen => ?_
  obtain ⟨hstored, hid, hplaybook⟩ := stored_of_request hcr
  have hversion : (renameRequest f cr).version = expectedVersion ↔
      ∃ c ∈ db.changeRequests.get? cr.id, c.status = .isOpen ∧ c.version = expectedVersion := by
    rw [hstored]
    simp only [Option.mem_def, Option.some.injEq, exists_eq_left', require_eq_ok.mp hopen, true_and]
    rfl
  refine mirrors_read (reads_raiseUnless hversion) fun _ h => ?_
  have hsame : cr.version = expectedVersion := hversion.mpr (require_eq_ok.mp h)
  have hset : (image f db).requests.set k (renameRequest f
      (cr.revise title description (expectedVersion + 1))) =
      dictOf f (renameRequest f) (db.changeRequests.update cr.id
        (PlaybookChangeRequest.revise title description (expectedVersion + 1))) :=
    set_dictOf_update hstored (hid ▸ named) rfl rfl
  have himage : { image f db with
      requests := (image f db).requests.set k
        (renameRequest f (cr.revise title description (expectedVersion + 1))) } =
      image f { db with
        changeRequests := db.changeRequests.update cr.id
          (PlaybookChangeRequest.revise title description (expectedVersion + 1)) } := by
    rw [hset]
    rfl
  have hget : (db.changeRequests.update cr.id
      (PlaybookChangeRequest.revise title description (expectedVersion + 1))).get? cr.id =
      some (cr.revise title description (expectedVersion + 1)) :=
    Table.get?_update_self _ hstored
  have hreload : reload { db with
      changeRequests := db.changeRequests.update cr.id
        (PlaybookChangeRequest.revise title description (expectedVersion + 1)) } cr =
      cr.revise title description (expectedVersion + 1) := by
    rw [reload, hget]
    rfl
  obtain ⟨stored, hhead_id⟩ := stored_of_head hhead
  rw [hhead_id, ← hplaybook] at stored
  rw [show (renameRequest f cr).version = expectedVersion from hsame]
  refine mirrors_of_succeed (succeed_modify himage ?_)
  dsimp only
  rw [hreload]
  exact succeed_reloaded twins.sound stored ⟨cr, (Table.get?_eq_some.mp hstored).1, rfl, rfl⟩

theorem twins_updateChangeRequest {title description : Option String} {view : ChangeRequestView}
    (twins : Twins f digest db) (h : updateChangeRequest db p changeRequestId expectedVersion title
      description = .ok (db', view)) : Twins f digest db' := by
  simp only [updateChangeRequest, reviseRequest, bind_eq_ok, pure_eq_ok] at h
  obtain ⟨head, -, cr, -, -, -, -, -, request, -, h⟩ := h
  cases h
  exact twins_rewritten twins fun _ => ⟨rfl, rfl, rfl⟩

theorem mirrors_closeChangeRequest (twins : Twins f digest db)
    (named : Named f db.changeRequests changeRequestId k) :
    Mirrors (image f) (renameView f) db
      (MemoryPlaybookRepository.closeChangeRequest p k actor now)
      (closeChangeRequest db p changeRequestId actor now) := by
  refine mirrors_read (reads_head p) fun head hhead => ?_
  refine mirrors_read (reads_request named) fun cr hcr => ?_
  refine mirrors_read (reads_raiseUnless Iff.rfl) fun _ hopen => ?_
  obtain ⟨hstored, -, hplaybook⟩ := stored_of_request hcr
  obtain ⟨stored, hid⟩ := stored_of_head hhead
  rw [hid, ← hplaybook] at stored
  have hisOpen := require_eq_ok.mp hopen
  rw [finishRequest_ok hstored hisOpen, ok_bind, reload_finished hstored]
  refine mirrors_of_succeed (succeed_then (succeed_finish twins.numbered hstored hisOpen) ?_)
  exact succeed_reloaded twins.sound stored ⟨cr, (Table.get?_eq_some.mp hstored).1, rfl, rfl⟩

theorem twins_closeChangeRequest {view : ChangeRequestView} (twins : Twins f digest db)
    (h : closeChangeRequest db p changeRequestId actor now = .ok (db', view)) :
    Twins f digest db' := by
  simp only [closeChangeRequest, closeRequest, bind_eq_ok, pure_eq_ok] at h
  obtain ⟨head, -, cr, -, -, -, db₁, hfinish, request, -, h⟩ := h
  cases h
  obtain ⟨-, rfl⟩ := finishRequest_eq_ok.mp hfinish
  exact twins_rewritten twins fun _ => ⟨rfl, rfl, rfl⟩

def newHead (document : Definition β) : Playbook :=
  { id := document.id, actionType := document.actionType,
    contractVersion := document.contractVersion, operation := document.operation,
    publishedRevision := none, generation := 1 }

theorem absent_iff :
    (¬ (((image f db).heads.get? document.id).isSome ∨
      ∃ h ∈ (image f db).heads.values, h.actionType = document.actionType)) ↔
    ∃ playbooks, db.playbooks.insert? (newHead document) = some playbooks := by
  have hvalues : (image f db).heads.values = db.playbooks.rows := by
    rw [image, values_dictOf]
    exact List.map_id _
  have hinsert : (∃ playbooks, db.playbooks.insert? (newHead document) = some playbooks) ↔
      ¬ ∃ x ∈ db.playbooks.rows, Row.Clash x (newHead document) := by
    rw [← Table.insert?_eq_none, ← ne_eq, Option.ne_none_iff_exists']
  rw [hinsert, hvalues, get?_heads]
  refine not_congr ⟨?_, ?_⟩
  · rintro (hid | ⟨h, hh, htype⟩)
    · obtain ⟨h, hh⟩ := Option.isSome_iff_exists.mp hid
      exact ⟨h, (Table.get?_eq_some.mp hh).1, Or.inl (Table.get?_eq_some.mp hh).2⟩
    · exact ⟨h, hh, Or.inr htype⟩
  · rintro ⟨h, hh, hid | htype⟩
    · exact Or.inl (Option.isSome_iff_exists.mpr ⟨h, Table.get?_eq_some.mpr ⟨hh, hid⟩⟩)
    · exact Or.inr ⟨h, hh, htype⟩

theorem first_row {playbooks : Table Playbook} {row : PlaybookRevision β}
    (sound : Sound digest db) (inserted : db.playbooks.insert? (newHead document) = some playbooks)
    (owner : row.playbookId = document.id) :
    ∃ revisions, db.revisions.insert? row = some revisions := by
  refine Table.insert?_of_free fun x hx hclash => ?_
  have hkey : (x.playbookId, x.revision) = (row.playbookId, row.revision) := hclash
  obtain ⟨head, hhead, -⟩ := sound.belongs x hx
  obtain ⟨hmem, hid⟩ := Table.get?_eq_some.mp hhead
  refine Table.fresh_insert inserted hmem (Or.inl ?_)
  exact hid.trans ((congrArg Prod.fst hkey).trans owner)

theorem mirrors_create (twins : Twins f digest db) (next : Next f db newId)
    (first : document.revision = 1) :
    Mirrors (image f) (renameDraft f) db
      (MemoryPlaybookRepository.create document actor now title description)
      (createPlaybook db document newId actor now title description) := by
  refine mirrors_get (mirrors_read (reads_checked absent_iff) fun playbooks h => ?_)
  have hhead := orRaise_eq_ok.mp h
  obtain ⟨revisions, hrow⟩ := @first_row _ _ digest _ _
    (newDraft document document.id document.revision none actor now) twins.sound hhead rfl
  have hheads : (image f db).heads.set document.id (newHead document) = dictOf id id playbooks :=
    set_dictOf_insert hhead rfl
      (fun x hx heq => Table.fresh_insert hhead hx (Row.clash_of_key heq)) rfl
  have himage : { image f db with heads := (image f db).heads.set document.id (newHead document) } =
      image f { db with playbooks } := by
    rw [hheads]
    rfl
  have hunrequested := @unrequested_allocated _ db { db with revisions } _ _ twins.sound hrow
  have hstored : playbooks.get? document.id = some (newHead document) :=
    Table.get?_insert_self hhead
  have hopen :=
    @succeed_openRequest _ f ⟨playbooks, revisions, db.changeRequests⟩ (newHead document)
    (newDraft document document.id document.revision none actor now) .create none
    (titleOr title (defaultTitle .create document.id 0)) description actor now newId
    ⟨twins.numbered.counts, twins.numbered.ascending⟩ ⟨next.number, next.above⟩ hstored
    (Table.get?_insert_self hrow) hunrequested
  refine mirrors_of_succeed (succeed_set himage (succeed_then (succeed_draft hrow) ?_))
  rw [first] at hrow hopen ⊢
  rw [hrow]
  exact hopen

theorem twins_create {view : DraftView β} (twins : Twins f digest db) (next : Next f db newId)
    (first : document.revision = 1)
    (h : createPlaybook db document newId actor now title description = .ok (db', view)) :
    Twins f digest db' := by
  simp only [createPlaybook, bind_eq_ok, orRaise_eq_ok] at h
  obtain ⟨playbooks, hhead, revisions, hrow, hopen⟩ := h
  obtain ⟨requests, hinsert, rfl⟩ := openRequest_eq_ok hopen
  have sound := twins.sound
  have hrows := fun x => Table.mem_insert hrow (x := x)
  have hheads := fun x => Table.mem_insert hhead (x := x)
  have hnew : playbooks.get? document.id = some (newHead document) :=
    Table.get?_insert_self hhead
  have hboth : Sound digest ⟨playbooks, revisions, db.changeRequests⟩ := by
    refine ⟨fun x hx => ?_, fun x hx hpublished => ?_, fun p hp => ?_, fun p hp r hr => ?_,
      fun c hc => ?_⟩
    · rcases (hrows x).mp hx with hx | rfl
      · obtain ⟨p, hp, hbelongs⟩ := sound.belongs x hx
        exact ⟨p, Table.get?_insert_of_some hhead hp, hbelongs⟩
      · exact ⟨newHead document, hnew, rfl, first, rfl, rfl, rfl⟩
    · rcases (hrows x).mp hx with hx | rfl
      · exact sound.digests x hx hpublished
      · cases hpublished
    · rcases (hheads p).mp hp with hp | rfl
      · obtain ⟨x, hx, hid⟩ := sound.revised p hp
        exact ⟨x, (hrows x).mpr (Or.inl hx), hid⟩
      · exact ⟨_, (hrows _).mpr (Or.inr rfl), rfl⟩
    · rcases (hheads p).mp hp with hp | rfl
      · obtain ⟨x, hx, hpublished⟩ := sound.heads p hp r hr
        exact ⟨x, Table.get?_insert_of_some hrow hx, hpublished⟩
      · cases hr
    · obtain ⟨x, hx⟩ := sound.filed c hc
      exact ⟨x, Table.get?_insert_of_some hrow hx⟩
  have hstored : revisions.get? (document.id, 1) =
      some (newDraft document document.id 1 none actor now) :=
    Table.get?_insert_self hrow
  exact ⟨sound_requested hboth hstored hinsert,
    numbered_requested ⟨twins.numbered.counts, twins.numbered.ascending⟩
      ⟨next.number, next.above⟩ hinsert⟩

end

end BankingService.PlaybookTwins
