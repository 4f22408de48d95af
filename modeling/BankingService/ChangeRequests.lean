import BankingService.PlaybookSessions

/-! Every draft has one change request, which is published exactly when its draft is. What was
published or closed is never written again, however the transactions on it are interleaved. -/
namespace BankingService.ChangeRequests

open Python Relational Checked Runs ReadCommitted

variable {β : Type}

/-- The catalog before anyone has worked on it: published revisions and nothing else. -/
structure Bootstrapped (db : PlaybookDb β) : Prop where
  published : ∀ row ∈ db.revisions.rows, row.status = .published
  unrequested : db.changeRequests.rows = []
  heads : ∀ head ∈ db.playbooks.rows, ∀ r ∈ head.publishedRevision,
    ∃ row, db.revisions.get? (head.id, r) = some row

/-- The change request and its revision agree. -/
structure Agree (c : PlaybookChangeRequest) (row : PlaybookRevision β) : Prop where
  base : row.baseRevision = c.baseRevision
  published : c.status = .published ↔ row.status = .published

/-- `boot` is the catalog that was there at the start. -/
structure Filed (boot db : PlaybookDb β) : Prop where
  requested : ∀ row ∈ db.revisions.rows,
    boot.revisions.get? (row.playbookId, row.revision) = none →
      ∃ c ∈ db.changeRequests.rows, c.playbookId = row.playbookId ∧ c.revision = row.revision
  filed : ∀ c ∈ db.changeRequests.rows,
    ∃ row, db.revisions.get? (c.playbookId, c.revision) = some row ∧ Agree c row

/-- What is final has not changed. -/
structure FinalKept (db db' : PlaybookDb β) : Prop where
  requests : ∀ id c, db.changeRequests.get? id = some c → c.status ≠ .isOpen →
    db'.changeRequests.get? id = some c
  revisions : ∀ k row, db.revisions.get? k = some row → row.status = .published →
    db'.revisions.get? k = some row

theorem FinalKept.refl (db : PlaybookDb β) : FinalKept db db := ⟨fun _ _ h _ => h, fun _ _ h _ => h⟩

section
variable {boot db db' : PlaybookDb β}

theorem filed_bootstrapped (h : Bootstrapped boot) : Filed boot boot := by
  refine ⟨fun row hrow hnone => ?_, fun c hc => ?_⟩
  · have hget : boot.revisions.get? (row.playbookId, row.revision) = some row :=
      Table.get?_of_mem hrow
    rw [hget] at hnone
    cases hnone
  · rw [h.unrequested] at hc
    cases hc

theorem filed_opened {row : PlaybookRevision β} {c : PlaybookChangeRequest}
    {playbooks : Table Playbook} {revisions : Table (PlaybookRevision β)}
    {requests : Table PlaybookChangeRequest} (h : Filed boot db) (draft : row.status = .draft)
    (opens : Opens row c) (row_new : db.revisions.insert? row = some revisions)
    (request_new : db.changeRequests.insert? c = some requests) :
    Filed boot ⟨playbooks, revisions, requests⟩ := by
  constructor
  · intro r hr hnone
    rcases (Table.mem_insert row_new).mp hr with hold | rfl
    · obtain ⟨c', hc', hfor⟩ := h.requested r hold hnone
      exact ⟨c', (Table.mem_insert request_new).mpr (Or.inl hc'), hfor⟩
    · exact ⟨c, (Table.mem_insert request_new).mpr (Or.inr rfl), opens.playbook, opens.revision⟩
  · intro c' hc'
    rcases (Table.mem_insert request_new).mp hc' with hold | rfl
    · obtain ⟨r, hr, hagree⟩ := h.filed c' hold
      exact ⟨r, Table.get?_insert_of_some row_new hr, hagree⟩
    · refine ⟨row, ?_, ⟨opens.base.symm, ?_⟩⟩
      · rw [opens.playbook, opens.revision]
        exact Table.get?_insert_self row_new
      · rw [opens.status, draft]
        exact ⟨nofun, nofun⟩

theorem filed_rewritten {playbooks : Table Playbook} {id : ℤ}
    {f : PlaybookChangeRequest → PlaybookChangeRequest}
    (free : ∀ a b, Row.Clash (f a) b → Row.Clash a b) (h : Filed boot db)
    (same : ∀ a : PlaybookChangeRequest, (f a).playbookId = a.playbookId ∧
      (f a).revision = a.revision ∧ (f a).baseRevision = a.baseRevision)
    (unpublished : ∀ c, db.changeRequests.get? id = some c →
      c.status ≠ .published ∧ (f c).status ≠ .published) :
    Filed boot ⟨playbooks, db.revisions, db.changeRequests.update id f free⟩ := by
  constructor
  · intro r hr hnone
    obtain ⟨c, hc, hfor⟩ := h.requested r hr hnone
    refine ⟨_, (Table.mem_update free).mpr ⟨c, hc, rfl⟩, ?_⟩
    split
    · rw [(same c).1, (same c).2.1]
      exact hfor
    · exact hfor
  · intro c' hc'
    obtain ⟨c, hc, rfl⟩ := (Table.mem_update free).mp hc'
    obtain ⟨r, hr, hagree⟩ := h.filed c hc
    refine ⟨r, ?_⟩
    split
    · next hid =>
      have hstored : db.changeRequests.get? id = some c := hid ▸ Table.get?_of_mem hc
      obtain ⟨hbefore, hafter⟩ := unpublished c hstored
      rw [(same c).1, (same c).2.1]
      refine ⟨hr, hagree.base.trans (same c).2.2.symm, ?_⟩
      exact ⟨fun hp => absurd hp hafter, fun hp => absurd (hagree.published.mpr hp) hbefore⟩
    · exact ⟨hr, hagree⟩

theorem filed_edited {row : PlaybookRevision β} {f : PlaybookRevision β → PlaybookRevision β}
    (free : ∀ a b, Row.Clash (f a) b → Row.Clash a b) (h : Filed boot db)
    (same : ∀ a, (f a).playbookId = a.playbookId ∧ (f a).revision = a.revision ∧
      (f a).baseRevision = a.baseRevision ∧ (f a).status = a.status) :
    Filed boot { db with
      revisions := db.revisions.update (row.playbookId, row.revision) f free } := by
  constructor
  · intro r' hr' hnone
    obtain ⟨r, hr, rfl⟩ := (Table.mem_update free).mp hr'
    by_cases hk : Row.key r = (row.playbookId, row.revision)
    · rw [if_pos hk] at hnone ⊢
      rw [(same r).1, (same r).2.1] at hnone ⊢
      exact h.requested r hr hnone
    · rw [if_neg hk] at hnone ⊢
      exact h.requested r hr hnone
  · intro c hc
    obtain ⟨r, hr, hagree⟩ := h.filed c hc
    have hkey : ∀ a : PlaybookRevision β, Row.key (f a) = Row.key a :=
      fun a => Prod.ext (same a).1 (same a).2.1
    simp only [Table.get?_update f hkey free]
    split
    · next heq =>
      rw [← heq, hr]
      exact ⟨f r, rfl,
        (same r).2.2.1.trans hagree.base, by rw [(same r).2.2.2]; exact hagree.published⟩
    · exact ⟨r, hr, hagree⟩

theorem filed_published {row : PlaybookRevision β} {c : PlaybookChangeRequest}
    {playbooks : Table Playbook} {digest actor : String} {now : Timestamp} (h : Filed boot db)
    (row_stored : db.revisions.get? (row.playbookId, row.revision) = some row)
    (request_stored : db.changeRequests.get? c.id = some c)
    (request_for : c.playbookId = row.playbookId ∧ c.revision = row.revision) :
    Filed boot ⟨playbooks, db.revisions.update (row.playbookId, row.revision)
      (PlaybookRevision.publish digest actor now),
      db.changeRequests.update c.id (PlaybookChangeRequest.finish .published actor now)⟩ := by
  constructor
  · intro r' hr' hnone
    obtain ⟨r, hr, rfl⟩ := (Table.mem_update (by exact fun _ _ h => h)).mp hr'
    have hnone' : boot.revisions.get? (r.playbookId, r.revision) = none := by
      split at hnone <;> exact hnone
    obtain ⟨c', hc', hfor⟩ := h.requested r hr hnone'
    refine ⟨_, (Table.mem_update (by exact fun _ _ h => h)).mpr ⟨c', hc', rfl⟩, ?_⟩
    split <;> split <;> exact hfor
  · intro c' hc'
    obtain ⟨a, ha, rfl⟩ := (Table.mem_update (by exact fun _ _ h => h)).mp hc'
    have hown : Row.key a = c.id ↔ a.playbookId = row.playbookId ∧ a.revision = row.revision := by
      have hc := (Table.get?_eq_some.mp request_stored).1
      constructor
      · intro hid
        obtain rfl : a = c := Table.eq_of_key ha hc hid
        exact request_for
      · intro hfor
        rw [Table.eq_of_clash ha hc
          (Or.inr ⟨hfor.1.trans request_for.1.symm, hfor.2.trans request_for.2.symm⟩)]
        rfl
    obtain ⟨r, hr, hagree⟩ := h.filed a ha
    by_cases hid : Row.key a = c.id
    · rw [if_pos hid]
      obtain ⟨hplaybook, hrevision⟩ := hown.mp hid
      have hrow : r = row := by
        rw [hplaybook, hrevision] at hr
        exact Option.some.inj (hr.symm.trans row_stored)
      subst hrow
      refine ⟨r.publish digest actor now, ?_, hagree.base, fun _ => rfl, fun _ => rfl⟩
      exact (congrArg _ (Prod.ext hplaybook hrevision)).trans
        (Table.get?_update_self (PlaybookRevision.publish digest actor now) row_stored)
    · rw [if_neg hid]
      refine ⟨r, ?_, hagree⟩
      refine (Table.get?_update_of_ne _ ?_).trans hr
      intro heq
      exact hid (hown.mpr ⟨congrArg Prod.fst heq, congrArg Prod.snd heq⟩)

theorem filed_write {locked : Option String} {p : Option Publication} (h : Filed boot db)
    (hw : PlaybookWrite db locked p db') : Filed boot db' := by
  cases hw with
  | created _ drafted opens _ row_new request_new
  | drafted _ drafted opens row_new request_new =>
    exact filed_opened h drafted.status opens row_new request_new
  | @recreated head row c old revisions requests actor now _ drafted opens row_new request_new
      old_open =>
    have hopened : Filed boot ⟨bump db head, revisions, requests⟩ :=
      filed_opened h drafted.status opens row_new request_new
    refine filed_rewritten (by exact fun _ _ hc => hc) hopened (fun _ => ⟨rfl, rfl, rfl⟩) ?_
    intro c' hc'
    obtain ⟨o, ho, hopen⟩ := old_open
    obtain rfl : o = c' := Option.some.inj (ho.symm.trans hc')
    rw [hopen]
    exact ⟨nofun, nofun⟩
  | edited => exact filed_edited (by exact fun _ _ hc => hc) h fun _ => ⟨rfl, rfl, rfl, rfl⟩
  | published _ row_stored _ _ request_stored _ request_for _ =>
    exact filed_published h row_stored request_stored request_for
  | @revised c _ _ _ stored request_open =>
    refine filed_rewritten (by exact fun _ _ hc => hc) h (fun _ => ⟨rfl, rfl, rfl⟩) ?_
    intro c' hc'
    obtain rfl : c = c' := Option.some.inj (stored.symm.trans hc')
    exact ⟨by simp [request_open], by simp [PlaybookChangeRequest.revise, request_open]⟩
  | @closed c _ _ stored request_open =>
    refine filed_rewritten (by exact fun _ _ hc => hc) h (fun _ => ⟨rfl, rfl, rfl⟩) ?_
    intro c' hc'
    obtain rfl : c = c' := Option.some.inj (stored.symm.trans hc')
    rw [request_open]
    exact ⟨nofun, nofun⟩

theorem finalKept_write {locked : Option String} {p : Option Publication}
    (hw : PlaybookWrite db locked p db') : FinalKept db db' := by
  have hrequests : ∀ (t : Table PlaybookChangeRequest) (id : ℤ) (o : PlaybookChangeRequest)
      (f : PlaybookChangeRequest → PlaybookChangeRequest)
      (hkey : ∀ a : PlaybookChangeRequest, Row.key (f a) = Row.key a)
      (free : ∀ a b, Row.Clash (f a) b → Row.Clash a b), t.get? id = some o →
      o.status = .isOpen → ∀ k c, t.get? k = some c → c.status ≠ .isOpen →
        (t.update id f free).get? k = some c := by
    intro t id o f hkey free ho hopen k c hc hfinal
    refine (Table.get?_update_of_ne f ?_ hkey free).trans hc
    rintro rfl
    obtain rfl : o = c := Option.some.inj (ho.symm.trans hc)
    exact hfinal hopen
  have hrows : ∀ (k : String × ℤ) (r : PlaybookRevision β)
      (f : PlaybookRevision β → PlaybookRevision β)
      (hkey : ∀ a : PlaybookRevision β, Row.key (f a) = Row.key a)
      (free : ∀ a b, Row.Clash (f a) b → Row.Clash a b), db.revisions.get? k = some r →
      r.status = .draft → ∀ k' row, db.revisions.get? k' = some row → row.status = .published →
        (db.revisions.update k f free).get? k' = some row := by
    intro k r f hkey free hr hdraft k' row hrow hpublished
    refine (Table.get?_update_of_ne f ?_ hkey free).trans hrow
    rintro rfl
    obtain rfl : r = row := Option.some.inj (hr.symm.trans hrow)
    rw [hdraft] at hpublished
    cases hpublished
  cases hw with
  | created _ _ _ _ row_new request_new | drafted _ _ _ row_new request_new =>
    exact ⟨fun _ _ hc _ => Table.get?_insert_of_some request_new hc,
      fun _ _ hr _ => Table.get?_insert_of_some row_new hr⟩
  | recreated _ _ _ row_new request_new old_open =>
    obtain ⟨o, ho, hopen⟩ := old_open
    refine ⟨fun k c hc hfinal => ?_, fun _ _ hr _ => Table.get?_insert_of_some row_new hr⟩
    exact hrequests _ _ o _ (by exact fun _ => rfl) (by exact fun _ _ h => h) ho hopen k c
      (Table.get?_insert_of_some request_new hc) hfinal
  | edited stored draft _ =>
    exact ⟨fun _ _ hc _ => hc,
      hrows _ _ _ (by exact fun _ => rfl) (by exact fun _ _ h => h) stored draft⟩
  | published _ row_stored _ draft request_stored request_open _ _ =>
    exact ⟨hrequests _ _ _ _ (by exact fun _ => rfl) (by exact fun _ _ h => h) request_stored
        request_open,
      hrows _ _ _ (by exact fun _ => rfl) (by exact fun _ _ h => h) row_stored draft⟩
  | revised stored request_open | closed stored request_open =>
    exact ⟨hrequests _ _ _ _ (by exact fun _ => rfl) (by exact fun _ _ h => h) stored request_open,
      fun _ _ hr _ => hr⟩

end

theorem informed_run {boot : PlaybookDb β} {events : List (PlaybookEvent β)}
    (start : Bootstrapped boot) (run : (administering β).Run (World.quiet boot) events) :
    (administering β).Throughout (Informed HeadLocked (Filed boot) Known) (World.quiet boot)
      events :=
  informed_throughout playbookService_claims
    (playbookService_knowledge fun hw hD => filed_write hD hw)
    (informed_quiet (filed_bootstrapped start)) run
    (run.mono fun _ _ _ _ _ _ _ => trivial)

/-- The property of a committed state. -/
structure InStep (boot db : PlaybookDb β) : Prop where
  requested : ∀ row ∈ db.revisions.rows,
    boot.revisions.get? (row.playbookId, row.revision) = none →
      ∃! c, c ∈ db.changeRequests.rows ∧ c.playbookId = row.playbookId ∧ c.revision = row.revision
  published : ∀ c ∈ db.changeRequests.rows, ∃ row,
    db.revisions.get? (c.playbookId, c.revision) = some row ∧
      (c.status = .published ↔ row.status = .published)

theorem Filed.inStep {boot db : PlaybookDb β} (h : Filed boot db) : InStep boot db := by
  constructor
  · intro row hrow hnone
    obtain ⟨c, hc, hfor⟩ := h.requested row hrow hnone
    refine ⟨c, ⟨hc, hfor⟩, ?_⟩
    rintro c' ⟨hc', hfor'⟩
    exact Table.eq_of_clash hc' hc
      (Or.inr ⟨hfor'.1.trans hfor.1.symm, hfor'.2.trans hfor.2.symm⟩)
  · intro c hc
    obtain ⟨row, hrow, hagree⟩ := h.filed c hc
    exact ⟨row, hrow, hagree.published⟩

/-- Under any interleaving of the repository's transactions, every revision that is not of the
bootstrap belongs to one change request in every committed state, the request is published exactly
if the revision is, and neither a request that is published or closed nor a published revision is
ever changed. -/
theorem requests_in_step {boot : PlaybookDb β} {events : List (PlaybookEvent β)}
    (start : Bootstrapped boot) (run : (administering β).Run (World.quiet boot) events) :
    (administering β).Throughout (fun w => InStep boot w.db) (World.quiet boot) events ∧
      (administering β).Each (fun w e => FinalKept w.db ((administering β).next w e).db)
        (World.quiet boot) events := by
  have hinformed := informed_run start run
  refine ⟨hinformed.mono fun _ hw => hw.db.inStep, ?_⟩
  refine each_of_each (I := Informed HeadLocked (Filed boot) Known)
    (C := (administering β).Enabled) ?_ ?_ (informed_quiet (filed_bootstrapped start)) run
  · intro w e hw he
    exact informed_next playbookService_claims
      (playbookService_knowledge fun hk hD => filed_write hD hk) hw he fun _ _ _ _ => trivial
  · intro w e hw he
    rcases playbook_step hw he with ⟨hsame, -⟩ | ⟨r, a, hwrite, -⟩
    · exact (congrArg (FinalKept w.db) hsame).mpr (.refl _)
    · exact finalKept_write hwrite

def reissueDocument (revision : ℤ) : Definition Unit :=
  ⟨"card-reissue", revision, "REISSUE_CARD", "card-reissue.v1", "cards.issue_replacement.v1", ()⟩

def reissueBundle : PlaybookDb Unit :=
  { playbooks := ⟨[⟨"card-reissue", "REISSUE_CARD", "card-reissue.v1",
      "cards.issue_replacement.v1", some 1, 1⟩], List.pairwise_singleton _ _⟩
    revisions := ⟨[{ newDraft (reissueDocument 1) "card-reissue" 1 none "bundle-bootstrap" 0 with
      status := .published, digest := some "digest-1", publishedAt := some 0 }],
      List.pairwise_singleton _ _⟩
    changeRequests := .empty }

theorem reissueBundle_bootstrapped : Bootstrapped reissueBundle := by
  refine ⟨?_, rfl, ?_⟩
  · intro row hrow
    obtain rfl := List.mem_singleton.mp hrow
    rfl
  · intro head hhead r hr
    obtain rfl := List.mem_singleton.mp hhead
    cases hr
    exact ⟨_, rfl⟩

def drafting : PlaybookRequest Unit :=
  .createDraft "card-reissue" 1 1 1 "alice" 1 none ""

/-- The draft is opened; then both read it as open, and the publication commits first. -/
def racing : List (PlaybookEvent Unit) :=
  [.start 0 drafting, .step 0, .step 0, .step 0,
    .start 1 (.publish "card-reissue" 2 "digest-2" 1 2 "alice" 2),
    .start 2 (.closeChangeRequest "card-reissue" 1 "bob" 3),
    .step 1, .step 2, .step 1, .step 2, .step 1, .step 1, .step 2]

theorem racing_in_step :
    (administering Unit).Throughout (fun w => InStep reissueBundle w.db)
        (World.quiet reissueBundle) racing ∧
      (administering Unit).Each (fun w e => FinalKept w.db ((administering Unit).next w e).db)
        (World.quiet reissueBundle) racing ∧
      (((administering Unit).final (World.quiet reissueBundle) racing).db.changeRequests.get? 1).map
        (fun c => c.status) = some .published := by
  obtain ⟨hstates, hsteps⟩ := @requests_in_step Unit reissueBundle racing
    reissueBundle_bootstrapped (by decide +kernel)
  exact ⟨hstates, hsteps, by decide +kernel⟩

end BankingService.ChangeRequests
