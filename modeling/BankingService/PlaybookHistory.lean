import BankingService.ChangeRequests

/-! The publications of a playbook form one line: each was drafted on the revision that was the
head when it was published, and every draft and publication moves the generation on. -/
namespace BankingService.PlaybookHistory

open Python Relational Checked Runs ReadCommitted ChangeRequests

variable {β : Type}

/-- Each publication is based on the head before it. -/
def Chained : Option ℤ → List Publication → Prop
  | _, [] => True
  | head, q :: qs => q.baseRevision = head ∧ Chained (some q.revision) qs

def headAfter : Option ℤ → List Publication → Option ℤ
  | head, [] => head
  | _, q :: qs => headAfter (some q.revision) qs

theorem chained_append {head : Option ℤ} {l : List Publication} {q : Publication} :
    Chained head (l ++ [q]) ↔ Chained head l ∧ q.baseRevision = headAfter head l := by
  induction l generalizing head with
  | nil => simp [Chained, headAfter]
  | cons x l ih => simp [Chained, headAfter, ih, and_assoc]

theorem headAfter_append {head : Option ℤ} {l : List Publication} {q : Publication} :
    headAfter head (l ++ [q]) = some q.revision := by
  induction l generalizing head with
  | nil => rfl
  | cons x l ih => exact ih

theorem bases_nodup {head : Option ℤ} {l : List Publication} (h : Chained head l)
    (different : (head.toList ++ l.map fun q => q.revision).Nodup) :
    (l.map fun q => q.baseRevision).Nodup := by
  induction l generalizing head with
  | nil => exact List.nodup_nil
  | cons q l ih =>
    obtain ⟨hbase, hrest⟩ := h
    have hlater : ∀ b ∈ l.map fun q => q.baseRevision,
        ∃ r ∈ (q :: l).map fun q => q.revision, b = some r := by
      clear different ih hbase
      induction l generalizing q with
      | nil =>
        intro b hb
        cases hb
      | cons x l ih =>
        intro b hb
        rcases List.mem_cons.mp hb with rfl | hb
        · exact ⟨q.revision, List.mem_cons_self, hrest.1⟩
        · obtain ⟨r, hr, rfl⟩ := ih x hrest.2 b hb
          exact ⟨r, List.mem_cons_of_mem _ hr, rfl⟩
    have htail : ((some q.revision).toList ++ l.map fun q => q.revision).Nodup :=
      (List.nodup_append.mp different).2.1
    refine List.nodup_cons.mpr ⟨?_, ih hrest htail⟩
    intro hmem
    obtain ⟨r, hr, hsome⟩ := hlater _ hmem
    obtain rfl : head = some r := hbase.symm.trans hsome
    exact (List.nodup_cons.mp different).1 hr

def publishedHead (db : PlaybookDb β) (playbookId : String) : Option ℤ :=
  (db.playbooks.get? playbookId).bind fun p => p.publishedRevision

def IsPublished (db : PlaybookDb β) (playbookId : String) (revision : ℤ) : Prop :=
  ∃ row, db.revisions.get? (playbookId, revision) = some row ∧ row.status = .published

structure StepsOn (db db' : PlaybookDb β) : Prop where
  generation : ∀ p head, db.playbooks.get? p = some head →
    ∃ head', db'.playbooks.get? p = some head' ∧ head.generation ≤ head'.generation ∧
      ((∃ r row, db.revisions.get? (p, r) = none ∧ db'.revisions.get? (p, r) = some row) ∨
        (∃ r, ¬ IsPublished db p r ∧ IsPublished db' p r) → head.generation < head'.generation)
  published : ∀ p r row, db'.revisions.get? (p, r) = some row → row.status = .published →
    ¬ IsPublished db p r → row.baseRevision = publishedHead db p ∧ publishedHead db' p = some r
  requests : ∀ c ∈ db'.changeRequests.rows, c.status = .published →
    (∀ o ∈ db.changeRequests.rows, o.id = c.id → o.status ≠ .published) →
      c.baseRevision = publishedHead db c.playbookId

section
variable {boot db db' : PlaybookDb β} {locked : Option String} {o : Option Publication}

theorem get?_opened {row x : PlaybookRevision β} {revisions : Table (PlaybookRevision β)}
    {k : String × ℤ} (row_new : db.revisions.insert? row = some revisions)
    (h : revisions.get? k = some x) : db.revisions.get? k = some x ∨ x = row := by
  obtain ⟨hmem, rfl⟩ := Table.get?_eq_some.mp h
  rcases (Table.mem_insert row_new).mp hmem with hold | rfl
  · exact Or.inl (Table.get?_of_mem hold)
  · exact Or.inr rfl

theorem isPublished_write (hw : PlaybookWrite db locked o db') {p : String} {r : ℤ}
    (h : IsPublished db' p r) :
    IsPublished db p r ∨ ∃ q, o = some q ∧ q.playbookId = p ∧ q.revision = r := by
  obtain ⟨row, hget, hstatus⟩ := h
  cases hw with
  | created _ drafted _ _ row_new _ | drafted _ drafted _ row_new _
  | recreated _ drafted _ row_new _ _ =>
    rcases get?_opened row_new hget with hold | rfl
    · exact Or.inl ⟨row, hold, hstatus⟩
    · rw [drafted.status] at hstatus
      cases hstatus
  | @edited x document version actor now stored draft _ =>
    rw [get?_edited, stored] at hget
    split at hget
    · cases hget
      exact absurd (draft.symm.trans hstatus) nofun
    · exact Or.inl ⟨row, hget, hstatus⟩
  | @published head x c digest actor now _ row_stored _ _ _ _ _ _ =>
    rw [get?_publish] at hget
    split at hget
    · next heq => exact Or.inr ⟨_, rfl, congrArg Prod.fst heq.symm, congrArg Prod.snd heq.symm⟩
    · exact Or.inl ⟨row, hget, hstatus⟩
  | revised | closed => exact Or.inl ⟨row, hget, hstatus⟩

theorem publication_write {q : Publication} (hf : Filed boot db)
    (hw : PlaybookWrite db locked (some q) db') :
    q.baseRevision = publishedHead db q.playbookId ∧ ¬ IsPublished db q.playbookId q.revision ∧
      ∃ row, db'.revisions.get? (q.playbookId, q.revision) = some row ∧ row.status = .published ∧
        row.baseRevision = q.baseRevision := by
  cases hw with
  | @published head row c digest actor now stored row_stored owner draft
    request_stored _ request_for
      on_head =>
    obtain ⟨hmem, -⟩ := Table.get?_eq_some.mp request_stored
    obtain ⟨x, hx, hagree⟩ := hf.filed c hmem
    rw [request_for.1, request_for.2] at hx
    obtain rfl : row = x := Option.some.inj (row_stored.symm.trans hx)
    refine ⟨?_, ?_, row.publish digest actor now, Table.get?_update_self _ row_stored, rfl, rfl⟩
    · have hhead : publishedHead db row.playbookId = head.publishedRevision := by
        rw [publishedHead, owner, stored]
        rfl
      exact hagree.base.trans (on_head.trans hhead.symm)
    · rintro ⟨y, hy, hstatus⟩
      obtain rfl : row = y := Option.some.inj (row_stored.symm.trans hy)
      exact absurd (draft.symm.trans hstatus) nofun

/-- The published head moves exactly with a publication. -/
theorem publishedHead_write (hw : PlaybookWrite db locked o db') (p : String) :
    publishedHead db' p =
      ((o.filter fun q => q.playbookId = p).map fun q => q.revision).or (publishedHead db p) := by
  cases hw with
  | @created head row c playbooks revisions requests unpublished _ _ head_new _ _ =>
    by_cases hp : p = head.id
    · subst hp
      have hnone : db.playbooks.get? head.id = none := by
        rw [Table.get?_eq_none]
        intro x hx hid
        exact (Table.insert?_eq_some.mp head_new).1 x hx (Or.inl hid)
      have hsome : playbooks.get? head.id = some head := Table.get?_insert_self head_new
      simp [publishedHead, hnone, hsome, unpublished]
    · simp only [publishedHead, Option.filter_none, Option.map_none, Option.none_or]
      congr 1
      rw [Table.get?_insert head_new, if_neg]
      exact fun hk => hp hk.symm
  | drafted stored | recreated stored =>
    simp only [publishedHead, get?_bump stored, Option.filter_none, Option.map_none, Option.none_or]
    split
    · next hp =>
      subst hp
      rw [stored]
      rfl
    · rfl
  | edited | revised | closed => rfl
  | @published head row c digest actor now stored _ owner =>
    simp only [publishedHead, get?_headSet, get?_bump stored, PlaybookRevision.publication,
      Option.filter_some]
    by_cases hp : row.playbookId = p
    · subst hp
      simp [owner]
    · have hne : p ≠ row.playbookId := fun h => hp h.symm
      simp [hp, hne, owner ▸ hne]

theorem rows_write (hw : PlaybookWrite db locked o db') {p : String} {r : ℤ}
    {row : PlaybookRevision β} (h : db'.revisions.get? (p, r) = some row)
    (fresh : db.revisions.get? (p, r) = none) :
    (∃ q ∈ locked, q = p) ∨ db.playbooks.get? p = none := by
  have howner : ∀ {x : PlaybookRevision β} {t : Table (PlaybookRevision β)},
      db.revisions.insert? x = some t → t.get? (p, r) = some row → x.playbookId = p := by
    intro x t hx ht
    rcases get?_opened hx ht with hold | rfl
    · rw [hold] at fresh
      cases fresh
    · exact congrArg Prod.fst (Table.get?_eq_some.mp ht).2
  cases hw with
  | @created head x c playbooks revisions requests _ drafted _ head_new row_new _ =>
    have hp : head.id = p := drafted.playbook.symm.trans (howner row_new h)
    refine Or.inr (Table.get?_eq_none.mpr ?_)
    intro y hy hid
    exact (Table.insert?_eq_some.mp head_new).1 y hy (Or.inl (hid.trans hp.symm))
  | drafted _ drafted _ row_new _ | recreated _ drafted _ row_new _ _ =>
    exact Or.inl ⟨_, rfl, drafted.playbook.symm.trans (howner row_new h)⟩
  | edited stored =>
    rw [get?_edited] at h
    split at h
    · next heq =>
      rw [heq, stored] at fresh
      cases fresh
    · rw [h] at fresh
      cases fresh
  | published _ row_stored =>
    rw [get?_publish] at h
    split at h
    · next heq =>
      rw [heq, row_stored] at fresh
      cases fresh
    · rw [h] at fresh
      cases fresh
  | revised | closed =>
    rw [h] at fresh
    cases fresh

theorem generation_write (hw : PlaybookWrite db locked o db') {p : String} {head : Playbook}
    (h : db.playbooks.get? p = some head) :
    ∃ head', db'.playbooks.get? p = some head' ∧ head.generation ≤ head'.generation ∧
      ((∃ r row, db.revisions.get? (p, r) = none ∧ db'.revisions.get? (p, r) = some row) ∨
        (∃ r, ¬ IsPublished db p r ∧ IsPublished db' p r) →
          head.generation < head'.generation) := by
  have hrows : ∀ r row, db.revisions.get? (p, r) = none →
      db'.revisions.get? (p, r) = some row → p ∈ locked := by
    intro r row hnone hsome
    rcases rows_write hw hsome hnone with ⟨q, hq, rfl⟩ | hnone'
    · exact hq
    · rw [h] at hnone'
      cases hnone'
  have hpublished : ∀ r, ¬ IsPublished db p r → IsPublished db' p r →
      ∃ q, o = some q ∧ q.playbookId = p := by
    intro r hnot his
    rcases isPublished_write hw his with hold | ⟨q, hq, hp, -⟩
    · exact absurd hold hnot
    · exact ⟨q, hq, hp⟩
  have hbump : ∀ {x : Playbook}, db.playbooks.get? x.id = some x → p = x.id →
      head.generation < head.generation + 1 ∧ x = head := by
    rintro x hx rfl
    exact ⟨by omega, Option.some.inj (hx.symm.trans h)⟩
  cases hw with
  | created _ _ _ head_new _ _ =>
    refine ⟨head, Table.get?_insert_of_some head_new h, le_rfl, ?_⟩
    rintro (⟨r, row, hnone, hsome⟩ | ⟨r, hnot, his⟩)
    · cases hrows r row hnone hsome
    · obtain ⟨q, hq, -⟩ := hpublished r hnot his
      cases hq
  | @drafted x _ _ _ _ stored | @recreated x _ _ _ _ _ _ _ stored =>
    by_cases hp : p = x.id
    · obtain ⟨hlt, rfl⟩ := hbump stored hp
      exact ⟨_, (get?_bump stored p).trans (if_pos hp), hlt.le, fun _ => hlt⟩
    · refine ⟨head, ((get?_bump stored p).trans (if_neg hp)).trans h, le_rfl, ?_⟩
      rintro (⟨r, row, hnone, hsome⟩ | ⟨r, hnot, his⟩)
      · exact absurd (Option.some.inj (hrows r row hnone hsome)).symm hp
      · obtain ⟨q, hq, -⟩ := hpublished r hnot his
        cases hq
  | edited stored =>
    refine ⟨head, h, le_rfl, ?_⟩
    rintro (⟨r, row, hnone, hsome⟩ | ⟨r, hnot, his⟩)
    · rw [get?_edited] at hsome
      split at hsome
      · next heq =>
        rw [heq, stored] at hnone
        cases hnone
      · rw [hsome] at hnone
        cases hnone
    · obtain ⟨q, hq, -⟩ := hpublished r hnot his
      cases hq
  | @published x row c _ _ _ stored _ owner =>
    by_cases hp : p = x.id
    · obtain ⟨hlt, rfl⟩ := hbump stored hp
      refine ⟨{ x with generation := x.generation + 1, publishedRevision := some row.revision }, ?_,
        hlt.le, fun _ => hlt⟩
      rw [get?_headSet, if_pos (hp.trans owner.symm), get?_bump stored, if_pos owner]
      rfl
    · refine ⟨head, ?_, le_rfl, ?_⟩
      · rw [get?_headSet, if_neg (owner ▸ hp), get?_bump stored, if_neg hp]
        exact h
      · rintro (⟨r, y, hnone, hsome⟩ | ⟨r, hnot, his⟩)
        · exact absurd (Option.some.inj (hrows r y hnone hsome)).symm hp
        · obtain ⟨q, hq, hown⟩ := hpublished r hnot his
          cases hq
          exact absurd (hown.symm.trans owner) hp
  | revised | closed =>
    refine ⟨head, h, le_rfl, ?_⟩
    rintro (⟨r, row, hnone, hsome⟩ | ⟨r, hnot, his⟩)
    · cases hrows r row hnone hsome
    · exact absurd his hnot

theorem requests_write (hw : PlaybookWrite db locked o db') {c : PlaybookChangeRequest}
    (hc : c ∈ db'.changeRequests.rows) (hpublished : c.status = .published)
    (before : ∀ x ∈ db.changeRequests.rows, x.id = c.id → x.status ≠ .published) :
    c.baseRevision = publishedHead db c.playbookId := by
  have hopened : ∀ {row : PlaybookRevision β} {x : PlaybookChangeRequest}
      {t : Table PlaybookChangeRequest}, Opens row x → db.changeRequests.insert? x = some t →
      c ∉ t.rows := by
    intro row x t hopens ht hmem
    rcases (Table.mem_insert ht).mp hmem with hold | rfl
    · exact before c hold rfl hpublished
    · exact absurd (hopens.status.symm.trans hpublished) nofun
  cases hw with
  | created _ _ opens _ _ request_new | drafted _ _ opens _ request_new =>
    exact absurd hc (hopened opens request_new)
  | recreated _ _ opens _ request_new _ =>
    obtain ⟨x, hx, rfl⟩ := (Table.mem_update (by exact fun _ _ h => h)).mp hc
    split at hpublished
    · cases hpublished
    · next hid =>
      rw [if_neg hid] at hopened
      exact absurd hx (hopened opens request_new)
  | edited => exact absurd hpublished (before c hc rfl)
  | @published head row x _ _ _ stored _ owner _ request_stored _ request_for on_head =>
    obtain ⟨y, hy, rfl⟩ := (Table.mem_update (by exact fun _ _ h => h)).mp hc
    by_cases hid : Row.key y = x.id
    · rw [if_pos hid]
      obtain rfl : y = x := Table.eq_of_key hy (Table.get?_eq_some.mp request_stored).1 hid
      have hplaybook : y.playbookId = head.id := request_for.1.trans owner
      change y.baseRevision = publishedHead db y.playbookId
      rw [publishedHead, hplaybook, stored]
      exact on_head
    · rw [if_neg hid] at hpublished before
      exact absurd hpublished (before y hy rfl)
  | revised stored =>
    obtain ⟨x, hx, rfl⟩ := (Table.mem_update (by exact fun _ _ h => h)).mp hc
    refine absurd ?_ (before x hx ?_)
    · split at hpublished <;> exact hpublished
    · split <;> rfl
  | closed =>
    obtain ⟨x, hx, rfl⟩ := (Table.mem_update (by exact fun _ _ h => h)).mp hc
    split at hpublished
    · cases hpublished
    · next hid =>
      rw [if_neg hid] at before
      exact absurd hpublished (before x hx rfl)

theorem StepsOn.refl (db : PlaybookDb β) : StepsOn db db := by
  constructor
  · intro p head h
    refine ⟨head, h, le_rfl, ?_⟩
    rintro (⟨r, row, hnone, hsome⟩ | ⟨r, hnot, his⟩)
    · rw [hnone] at hsome
      cases hsome
    · exact absurd his hnot
  · intro p r row hrow hstatus hnot
    exact absurd ⟨row, hrow, hstatus⟩ hnot
  · intro c hc hpublished before
    exact absurd hpublished (before c hc rfl)

theorem stepsOn_write (hf : Filed boot db) (hw : PlaybookWrite db locked o db') :
    StepsOn db db' := by
  refine ⟨fun p head h => generation_write hw h, ?_, fun c => requests_write hw⟩
  intro p r row hrow hstatus hnot
  rcases isPublished_write hw ⟨row, hrow, hstatus⟩ with hold | ⟨q, rfl, rfl, rfl⟩
  · exact absurd hold hnot
  · obtain ⟨hbase, -, x, hx, -, hxbase⟩ := publication_write hf hw
    obtain rfl : row = x := Option.some.inj (hrow.symm.trans hx)
    refine ⟨hxbase.trans hbase, ?_⟩
    rw [publishedHead_write hw]
    simp

end

/-- The publications of a playbook, in the order of their commits. -/
def publications (w : PlaybookWorld β) (playbookId : String) : List Publication :=
  (w.answers.filterMap fun x => publicationOf x.1 x.2).filter fun q => q.playbookId = playbookId

/-- The publications since the start continue the line of the head that was there. -/
structure OneLine (boot : PlaybookDb β) (w : PlaybookWorld β) (p : String) : Prop where
  chained : Chained (publishedHead boot p) (publications w p)
  head : publishedHead w.db p = headAfter (publishedHead boot p) (publications w p)
  stored : ∀ q ∈ publications w p, ∃ row, w.db.revisions.get? (p, q.revision) = some row ∧
    row.status = .published ∧ row.baseRevision = q.baseRevision
  published : ∀ r, IsPublished w.db p r ↔
    IsPublished boot p r ∨ r ∈ (publications w p).map fun q => q.revision
  different : ((publishedHead boot p).toList ++
    (publications w p).map fun q => q.revision).Nodup

theorem oneLine_start {boot : PlaybookDb β} (p : String) :
    OneLine boot (World.quiet boot) p := by
  refine ⟨trivial, rfl, ?_, fun r => ⟨Or.inl, ?_⟩, ?_⟩
  · intro q hq
    cases hq
  · rintro (h | h)
    · exact h
    · cases h
  · rw [show publications (World.quiet boot) p = [] from rfl]
    cases publishedHead boot p <;> simp

/-- The head of the bootstrap is published, as the revisions after it are. -/
theorem head_published {boot : PlaybookDb β} (start : Bootstrapped boot) {p : String} {r : ℤ}
    (h : publishedHead boot p = some r) : IsPublished boot p r := by
  obtain ⟨head, hget, hr⟩ := Option.bind_eq_some_iff.mp h
  obtain ⟨hmem, rfl⟩ := Table.get?_eq_some.mp hget
  obtain ⟨row, hrow⟩ := start.heads head hmem r hr
  exact ⟨row, hrow, start.published row (Table.get?_eq_some.mp hrow).1⟩

theorem publications_append {w w' : PlaybookWorld β} {r : PlaybookRequest β}
    {a : PlaybookReply β} (h : w'.answers = w.answers ++ [(r, a)]) (p : String) :
    publications w' p =
      publications w p ++ ((publicationOf r a).filter fun q => q.playbookId = p).toList := by
  rw [publications, h, List.filterMap_append, List.filter_append, publications]
  congr 1
  cases hq : publicationOf r a with
  | none => simp [hq]
  | some q => by_cases hp : q.playbookId = p <;> simp [hq, hp, Option.filter]

theorem stored_write {db db' : PlaybookDb β} {locked : Option String} {o : Option Publication}
    (hw : PlaybookWrite db locked o db') {p : String} {r : ℤ} {row : PlaybookRevision β}
    (h : db.revisions.get? (p, r) = some row) (hstatus : row.status = .published) :
    db'.revisions.get? (p, r) = some row :=
  (finalKept_write hw).revisions _ _ h hstatus

theorem oneLine_of_other {boot : PlaybookDb β} {w w' : PlaybookWorld β} {p : String}
    {locked : Option String} {o : Option Publication} (h : OneLine boot w p)
    (hw : PlaybookWrite w.db locked o w'.db) (other : ∀ q ∈ o, q.playbookId ≠ p)
    (same : publications w' p = publications w p) : OneLine boot w' p := by
  have hnone : (o.filter fun q => q.playbookId = p) = none := by
    rw [Option.filter_eq_none_iff]
    exact fun q hq => by simpa using other q hq
  refine ⟨?_, ?_, ?_, ?_, ?_⟩
  · rw [same]
    exact h.chained
  · rw [publishedHead_write hw, hnone, same]
    exact h.head
  · intro q hq
    rw [same] at hq
    obtain ⟨row, hrow, hstatus, hbase⟩ := h.stored q hq
    exact ⟨row, stored_write hw hrow hstatus, hstatus, hbase⟩
  · intro r
    rw [same, ← h.published r]
    constructor
    · intro hr
      rcases isPublished_write hw hr with hold | ⟨q, hq, hp, -⟩
      · exact hold
      · exact absurd hp (other q hq)
    · rintro ⟨row, hrow, hstatus⟩
      exact ⟨row, stored_write hw hrow hstatus, hstatus⟩
  · rw [same]
    exact h.different

/-- A publication goes to the end of its line. -/
theorem oneLine_of_publication {boot : PlaybookDb β} (start : Bootstrapped boot)
    {w w' : PlaybookWorld β} {q : Publication} {locked : Option String}
    (hf : Filed boot w.db) (h : OneLine boot w q.playbookId)
    (hw : PlaybookWrite w.db locked (some q) w'.db)
    (longer : publications w' q.playbookId = publications w q.playbookId ++ [q]) :
    OneLine boot w' q.playbookId := by
  obtain ⟨hbase, hnew, row, hrow, hstatus, hrowBase⟩ := publication_write hf hw
  have hnotListed : ¬ (IsPublished boot q.playbookId q.revision ∨
      q.revision ∈ (publications w q.playbookId).map fun q => q.revision) :=
    fun hlisted => hnew ((h.published _).mpr hlisted)
  refine ⟨?_, ?_, ?_, ?_, ?_⟩
  · rw [longer, chained_append]
    exact ⟨h.chained, hbase.trans h.head⟩
  · rw [longer, headAfter_append, publishedHead_write hw]
    simp
  · intro x hx
    rw [longer] at hx
    rcases List.mem_append.mp hx with hold | hlast
    · obtain ⟨y, hy, hpublished, hyBase⟩ := h.stored x hold
      exact ⟨y, stored_write hw hy hpublished, hpublished, hyBase⟩
    · obtain rfl := List.mem_singleton.mp hlast
      exact ⟨row, hrow, hstatus, hrowBase⟩
  · intro r
    rw [longer, List.map_append, List.mem_append, ← or_assoc, ← h.published r]
    constructor
    · intro hr
      rcases isPublished_write hw hr with hold | ⟨x, hx, -, rfl⟩
      · exact Or.inl hold
      · cases hx
        exact Or.inr List.mem_cons_self
    · rintro (⟨y, hy, hpublished⟩ | hlast)
      · exact ⟨y, stored_write hw hy hpublished, hpublished⟩
      · obtain rfl := List.mem_singleton.mp hlast
        exact ⟨row, hrow, hstatus⟩
  · rw [longer, List.map_append, ← List.append_assoc, List.nodup_append]
    refine ⟨h.different, List.pairwise_singleton _ _, ?_⟩
    intro a ha b hb
    obtain rfl := List.mem_singleton.mp hb
    rintro rfl
    rcases List.mem_append.mp ha with hhead | hlisted
    · exact hnotListed (Or.inl (head_published start (Option.mem_toList.mp hhead)))
    · exact hnotListed (Or.inr hlisted)

theorem oneLine_next {boot : PlaybookDb β} (start : Bootstrapped boot) {w : PlaybookWorld β}
    {e : PlaybookEvent β} (hw : Informed HeadLocked (Filed boot) Known w)
    (he : (administering β).Enabled w e) {p : String} (h : OneLine boot w p) :
    OneLine boot ((administering β).next w e) p := by
  rcases playbook_step hw he with ⟨hsame, hanswers⟩ | ⟨r, a, hwrite, hanswers⟩
  · have hlist : publications ((administering β).next w e) p = publications w p := by
      rcases hanswers with hnone | ⟨r, x, hone⟩
      · exact congrArg (fun l => (l.filterMap fun x => publicationOf x.1 x.2).filter
          fun q => q.playbookId = p) hnone
      · refine (publications_append hone p).trans ?_
        cases r <;> simp [publicationOf]
    have hdb : ((administering β).next w e).db = w.db := hsame
    refine ⟨?_, ?_, ?_, ?_, ?_⟩ <;> rw [hlist]
    · exact h.chained
    · rw [hdb]
      exact h.head
    · rw [hdb]
      exact h.stored
    · rw [hdb]
      exact h.published
    · exact h.different
  · have hlist := publications_append hanswers p
    cases hq : publicationOf r (.ok a) with
    | none =>
      rw [hq] at hwrite hlist
      exact oneLine_of_other h hwrite (by rintro _ ⟨⟩) (hlist.trans (List.append_nil _))
    | some q =>
      rw [hq] at hwrite hlist
      by_cases hp : q.playbookId = p
      · subst hp
        refine oneLine_of_publication start hw.db h hwrite (hlist.trans ?_)
        simp
      · refine oneLine_of_other h hwrite ?_ (hlist.trans ?_)
        · rintro x ⟨⟩
          exact hp
        · simp [hp]

structure Linear (boot : PlaybookDb β) (w : PlaybookWorld β) (p : String) : Prop where
  line : OneLine boot w p
  bases : ((publications w p).map fun q => q.baseRevision).Nodup

/-- Under any interleaving of the repository's transactions, the publications of each playbook form
one line from the head that it was loaded with, no two of them on the same base, the head is the
last of them, drafts and publications move the generation on, and a change request is published
only on the head. -/
theorem history_linear {boot : PlaybookDb β} {events : List (PlaybookEvent β)}
    (start : Bootstrapped boot) (run : (administering β).Run (World.quiet boot) events) :
    (administering β).Throughout (fun w => ∀ p, Linear boot w p) (World.quiet boot) events ∧
      (administering β).Each (fun w e => StepsOn w.db ((administering β).next w e).db)
        (World.quiet boot) events := by
  have hkeep : ∀ w e, Informed HeadLocked (Filed boot) Known w →
      (administering β).Enabled w e →
      Informed HeadLocked (Filed boot) Known ((administering β).next w e) :=
    fun w e hw he => informed_next playbookService_claims
      (playbookService_knowledge fun hk hD => filed_write hD hk) hw he fun _ _ _ _ => trivial
  have hquiet : Informed HeadLocked (Filed boot) Known
      (World.quiet boot : World ℕ _ _ _ (PlaybookReply β)) :=
    informed_quiet (filed_bootstrapped start)
  constructor
  · refine Machine.Throughout.mono (throughout_of_each
      (P := fun w => Informed HeadLocked (Filed boot) Known w ∧ ∀ p, OneLine boot w p) ?_
      ⟨hquiet, oneLine_start⟩ run) ?_
    · rintro w e ⟨hw, hline⟩ he
      exact ⟨hkeep w e hw he, fun p => oneLine_next start hw he (hline p)⟩
    · rintro w ⟨-, hline⟩ p
      exact ⟨hline p, bases_nodup (hline p).chained (hline p).different⟩
  · refine each_of_each (I := Informed HeadLocked (Filed boot) Known)
      (C := (administering β).Enabled) hkeep ?_ hquiet run
    intro w e hw he
    rcases playbook_step hw he with ⟨hsame, -⟩ | ⟨r, a, hwrite, -⟩
    · exact (congrArg (StepsOn w.db) hsame).mpr (.refl _)
    · exact stepsOn_write hw.db hwrite

/-- Two administrators draft on the same head; the one who publishes second has to draft again. -/
def overtaking : List (PlaybookEvent Unit) :=
  [.start 0 drafting, .step 0, .step 0, .step 0,
    .start 1 (.createDraft "card-reissue" 1 2 2 "bob" 2 none ""), .step 1, .step 1, .step 1,
    .start 2 (.publish "card-reissue" 2 "digest-2" 1 3 "alice" 3),
    .start 3 (.publish "card-reissue" 3 "digest-3" 1 3 "bob" 3),
    .step 2, .step 2, .step 2, .step 2, .step 3, .step 3, .step 3, .step 3,
    .start 4 (.recreateFromHead "card-reissue" 2 1 4 3 "bob" 4), .step 4, .step 4, .step 4, .step 4,
    .start 5 (.publish "card-reissue" 4 "digest-4" 1 5 "bob" 5), .step 5, .step 5, .step 5, .step 5]

theorem overtaking_linear :
    (administering Unit).Throughout (fun w => ∀ p, Linear reissueBundle w p)
        (World.quiet reissueBundle) overtaking ∧
      (administering Unit).Each (fun w e => StepsOn w.db ((administering Unit).next w e).db)
        (World.quiet reissueBundle) overtaking ∧
      publications ((administering Unit).final (World.quiet reissueBundle) overtaking)
        "card-reissue" = [⟨"card-reissue", 2, some 1⟩, ⟨"card-reissue", 4, some 2⟩] := by
  obtain ⟨hstates, hsteps⟩ := @history_linear Unit reissueBundle overtaking
    reissueBundle_bootstrapped (by decide +kernel)
  exact ⟨hstates, hsteps, by decide +kernel⟩

end BankingService.PlaybookHistory
