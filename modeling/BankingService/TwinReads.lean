import BankingService.TwinWrites
import Mathlib.Data.String.Basic

/-! The calls that read. What the one selects, joins and orders the other finds in its
dictionaries. -/
namespace BankingService.PlaybookTwins

open Python Relational Checked Mirror

variable {β : Type} {f : ℤ → ℤ} {db : PlaybookDb β} {digest : Definition β → String}
  {p : String} {revision : ℤ}

theorem reads_publishable :
    Reads (renameView f) (image f db) (MemoryPlaybookRepository.publishable p revision)
      (publishable db p revision) := by
  have hcall : publishable db p revision = (do
      let x ← findBoth db p revision
      let cr ← openRequestFor db p revision
      currentBase cr x.1
      requestView db x.1 cr) := by
    simp only [publishable, findBoth, bind_assoc, pure_bind]
  rw [hcall]
  refine reads_bind reads_both fun x hx => ?_
  obtain ⟨hhead, -⟩ := stored_of_both hx
  refine reads_bind (reads_openRequestFor p revision) fun cr hcr => ?_
  obtain ⟨-, rfl, -, -⟩ := stored_of_open hcr
  refine reads_bind (reads_currentBase hhead) fun _ _ => ?_
  exact reads_requestView (orRaise_eq_ok.mp hhead)

theorem reads_changeRequest {changeRequestId k : ℤ}
    (named : Named f db.changeRequests changeRequestId k) :
    Reads (renameView f) (image f db) (MemoryPlaybookRepository.changeRequest p k)
      (changeRequest db p changeRequestId) := by
  refine reads_bind (reads_head p) fun head hhead => ?_
  refine reads_bind (reads_request named) fun cr hcr => ?_
  obtain ⟨-, -, hplaybook⟩ := stored_of_request hcr
  exact reads_requestView (hplaybook ▸ orRaise_eq_ok.mp hhead)

theorem reads_lockPublished :
    Reads id (image f db) (MemoryPlaybookRepository.lockPublished p) (lockPublished db p) := by
  refine reads_bind (reads_head p) fun head hhead => ?_
  refine reads_bind (reads_found Option.map_id_apply.symm) fun revision _ => ?_
  refine reads_bind (reads_row hhead) fun row hrow => ?_
  obtain ⟨-, -, hrevision⟩ := stored_of_row hrow
  rw [← hrevision]
  exact reads_pure _

theorem Numbered.le_iff (numbered : Numbered f db) {a b : PlaybookChangeRequest}
    (ha : a ∈ db.changeRequests.rows) (hb : b ∈ db.changeRequests.rows) :
    f a.id ≤ f b.id ↔ a.id ≤ b.id := by
  rw [← not_lt, ← not_lt]
  exact not_congr (numbered.lt_iff hb ha)

theorem requests_antisymm (numbered : Numbered f db) :
    ∀ a ∈ db.changeRequests.rows.map (renameRequest f),
      ∀ b ∈ db.changeRequests.rows.map (renameRequest f),
        decide (b.id ≤ a.id) = true → decide (a.id ≤ b.id) = true → a = b := by
  intro a ha b hb hba hab
  obtain ⟨c, hc, rfl⟩ := List.mem_map.mp ha
  obtain ⟨d, hd, rfl⟩ := List.mem_map.mp hb
  have hle := (numbered.le_iff hd hc).mp (of_decide_eq_true hba)
  have hge := (numbered.le_iff hc hd).mp (of_decide_eq_true hab)
  exact congrArg _ (Table.eq_of_key hc hd (le_antisymm hge hle))

theorem reads_changeRequests {status : Option RequestStatus} (numbered : Numbered f db) :
    Reads (List.map (renameView f)) (image f db)
      (MemoryPlaybookRepository.changeRequests p status) (changeRequests db p status) := by
  refine reads_bind (reads_head p) fun head hhead => reads_get ?_
  have hsorted : (((image f db).requests.values.mergeSort fun a b => b.id ≤ a.id).filter fun c =>
      c.playbookId = p ∧ ∀ s ∈ status, c.status = s) =
      ((db.changeRequests.select fun c => c.playbookId = p ∧ ∀ s ∈ status,
        c.status = s).mergeSort fun a b => b.id ≤ a.id).map (renameRequest f) := by
    rw [values_requests, filter_mergeSort (fun a b c hab hbc => ?_) (fun a b => ?_)
      (requests_antisymm numbered), List.filter_map, List.map_mergeSort fun a ha b hb => ?_]
    · rfl
    · have ha := (Table.mem_select.mp ha).1
      have hb := (Table.mem_select.mp hb).1
      exact decide_eq_decide.mpr (numbered.le_iff hb ha).symm
    · rw [decide_eq_true_eq] at hab hbc ⊢
      exact hbc.trans hab
    · rw [Bool.or_eq_true, decide_eq_true_eq, decide_eq_true_eq]
      exact le_total _ _
  rw [hsorted]
  refine reads_mapM fun c hc => ?_
  have hmem := Table.mem_select.mp (List.mem_mergeSort.mp hc)
  exact reads_requestView (hmem.2.1 ▸ orRaise_eq_ok.mp hhead)

theorem last_request : ((db.changeRequests.rows.filter fun c => c.playbookId = p).reverse.find?
    fun c => c.revision = revision) = requestFor db p revision := by
  cases hfirst : requestFor db p revision with
  | none =>
    refine List.find?_eq_none.mpr fun c hc hrevision => ?_
    obtain ⟨hmem, hplaybook⟩ := List.mem_filter.mp (List.mem_reverse.mp hc)
    exact Table.first?_eq_none.mp hfirst c hmem
      ⟨of_decide_eq_true hplaybook, of_decide_eq_true hrevision⟩
  | some c =>
    obtain ⟨hmem, hplaybook, hrevision⟩ := Table.first?_mem hfirst
    cases hlast : (db.changeRequests.rows.filter fun c => c.playbookId = p).reverse.find?
        fun c => c.revision = revision with
    | none =>
      refine absurd (decide_eq_true hrevision) (List.find?_eq_none.mp hlast c ?_)
      exact List.mem_reverse.mpr (List.mem_filter.mpr ⟨hmem, decide_eq_true hplaybook⟩)
    | some d =>
      obtain ⟨hd, hplaybook'⟩ :=
        List.mem_filter.mp (List.mem_reverse.mp (List.mem_of_find?_eq_some hlast))
      have hrevision' : d.revision = revision := by simpa using List.find?_some hlast
      exact congrArg some (Table.eq_of_clash hd hmem (Or.inr
        ⟨(of_decide_eq_true hplaybook').trans hplaybook.symm, hrevision'.trans hrevision.symm⟩))

theorem titleOf_image : MemoryPlaybookRepository.titleOf (image f db) p revision =
    ((requestFor db p revision).map fun c => (c.id, c.title)).map fun x => (f x.1, x.2) := by
  rw [MemoryPlaybookRepository.titleOf, values_requests, List.filter_map, ← List.map_reverse,
    List.find?_map, ← last_request, Option.map_map, Option.map_map]
  rfl

theorem reads_history :
    Reads (List.map (renameEntry f)) (image f db) (MemoryPlaybookRepository.history p)
      (history db p) := by
  refine reads_bind (reads_head p) fun head _ => reads_get ?_
  have hrows : ((image f db).revisions.filter fun x => x.1.1 = p ∧ x.2.status = .published).map
      Prod.snd = db.revisions.select fun r => r.playbookId = p ∧ r.status = .published := by
    simp only [Table.select, image, dictOf, List.filter_map, List.map_map]
    exact List.map_id _
  rw [hrows]
  change EStateM.Result.ok (List.map _ _) _ = EStateM.Result.ok (List.map _ (List.map _ _)) _
  rw [List.map_map]
  refine congrArg (fun l => EStateM.Result.ok l (image f db)) (List.map_congr_left fun row _ => ?_)
  simp only [titleOf_image, Function.comp, renameEntry, id]

theorem keyOrder_trans (a b c : String × ℤ) (hab : MemoryPlaybookRepository.keyOrder a b)
    (hbc : MemoryPlaybookRepository.keyOrder b c) : MemoryPlaybookRepository.keyOrder a c := by
  simp only [MemoryPlaybookRepository.keyOrder, decide_eq_true_eq] at hab hbc ⊢
  rcases hab with hab | ⟨hab, hab'⟩ <;> rcases hbc with hbc | ⟨hbc, hbc'⟩
  · exact Or.inl (hab.trans hbc)
  · exact Or.inl (hbc ▸ hab)
  · exact Or.inl (hab ▸ hbc)
  · exact Or.inr ⟨hab.trans hbc, hab'.trans hbc'⟩

theorem keyOrder_total (a b : String × ℤ) :
    MemoryPlaybookRepository.keyOrder a b || MemoryPlaybookRepository.keyOrder b a := by
  simp only [MemoryPlaybookRepository.keyOrder, Bool.or_eq_true, decide_eq_true_eq]
  rcases lt_trichotomy a.1 b.1 with h | h | h
  · exact Or.inl (Or.inl h)
  · rcases le_total a.2 b.2 with h' | h'
    · exact Or.inl (Or.inr ⟨h, h'⟩)
    · exact Or.inr (Or.inr ⟨h.symm, h'⟩)
  · exact Or.inr (Or.inl h)

theorem keyOrder_antisymm (a b : String × ℤ) (hab : MemoryPlaybookRepository.keyOrder a b)
    (hba : MemoryPlaybookRepository.keyOrder b a) : a = b := by
  simp only [MemoryPlaybookRepository.keyOrder, decide_eq_true_eq] at hab hba
  rcases hab with hab | ⟨hab, hab'⟩ <;> rcases hba with hba | ⟨hba, hba'⟩
  · exact absurd hba hab.asymm
  · exact absurd (hba ▸ hab) (lt_irrefl _)
  · exact absurd (hab ▸ hba) (lt_irrefl _)
  · exact Prod.ext hab (le_antisymm hab' hba')

theorem keys_image (p : String) :
    (((image f db).revisions.map Prod.fst).mergeSort MemoryPlaybookRepository.keyOrder).filter
      (fun k => k.1 = p) =
    ((db.revisions.select fun r => r.playbookId = p).mergeSort
      fun a b => a.revision ≤ b.revision).map fun r => (r.playbookId, r.revision) := by
  have hkeys : ((image f db).revisions.map Prod.fst).filter (fun k => k.1 = p) =
      (db.revisions.select fun r => r.playbookId = p).map fun r => (r.playbookId, r.revision) := by
    simp only [Table.select, image, dictOf, List.filter_map, List.map_map]
    rfl
  rw [filter_mergeSort keyOrder_trans keyOrder_total fun a _ b _ => keyOrder_antisymm a b, hkeys]
  refine (List.map_mergeSort fun a ha b hb => ?_).symm
  have hsame : a.playbookId = b.playbookId :=
    (Table.mem_select.mp ha).2.trans (Table.mem_select.mp hb).2.symm
  simp only [MemoryPlaybookRepository.keyOrder, hsame, lt_irrefl, false_or, true_and]

theorem getRevision_of_mem {head : Playbook} {row : PlaybookRevision β}
    (hhead : head ∈ db.playbooks.rows) (hrow : row ∈ db.revisions.rows)
    (owner : row.playbookId = head.id) :
    getRevision db head.id row.revision = .ok (revisionView row head.generation) := by
  have hfound : db.playbooks.get? head.id = some head := Table.get?_of_mem hhead
  have hstored : db.revisions.get? (head.id, row.revision) = some row :=
    owner ▸ Table.get?_of_mem hrow
  rw [getRevision, findHead, hfound, findRow, hstored]
  rfl

theorem reads_revisions {head : Playbook} (hhead : head ∈ db.playbooks.rows) :
    Reads (List.map id) (image f db)
      (((((image f db).revisions.map Prod.fst).mergeSort MemoryPlaybookRepository.keyOrder).filter
        fun k => k.1 = head.id).mapM fun k => MemoryPlaybookRepository.getRevision head.id k.2)
      (.ok (((db.revisions.select fun r => r.playbookId = head.id).mergeSort
        fun a b => a.revision ≤ b.revision).map fun r => revisionView r head.generation)) := by
  rw [keys_image]
  have hviews : ∀ l : List (PlaybookRevision β),
      (.ok (l.map fun r => revisionView r head.generation) : Except RepositoryError _) =
        l.mapM fun r => pure (revisionView r head.generation) := by
    intro l
    rw [List.mapM_pure]
    rfl
  rw [hviews]
  refine reads_mapM fun row hrow => ?_
  obtain ⟨hmem, howner⟩ := Table.mem_select.mp (List.mem_mergeSort.mp hrow)
  have hread : Reads id (image f db) _ _ := reads_getRevision head.id row.revision
  rw [getRevision_of_mem hhead hmem howner] at hread
  exact hread

def playbookEntry (db : PlaybookDb β) (head : Playbook) : PlaybookEntry :=
  { head,
    openChangeRequests := db.changeRequests.rows.countP fun c =>
      c.playbookId = head.id ∧ c.status = .isOpen,
    revisions := ((db.revisions.select fun r => r.playbookId = head.id).mergeSort
      fun a b => a.revision ≤ b.revision).map revisionEntry }

theorem reads_listPlaybooks :
    Reads id (image f db) MemoryPlaybookRepository.listPlaybooks (.ok (listPlaybooks db)) := by
  refine reads_get ?_
  have hheads : (image f db).heads.mergeSort (fun a b => a.1 ≤ b.1) =
      (db.playbooks.rows.mergeSort fun a b => a.id ≤ b.id).map fun r => (r.id, r) :=
    (List.map_mergeSort (f := fun r : Playbook => (r.id, r)) fun _ _ _ _ => rfl).symm
  have hlist : (.ok (listPlaybooks db) : Except RepositoryError _) =
      (db.playbooks.rows.mergeSort fun a b => a.id ≤ b.id).mapM
        fun head => pure (playbookEntry db head) := by
    rw [List.mapM_pure]
    rfl
  rw [hheads, hlist, show (id : List PlaybookEntry → _) = List.map id from List.map_id_fun.symm]
  refine reads_mapM fun head hhead => ?_
  have hrevisions : Reads (List.map id) (image f db) _ _ :=
    reads_revisions (List.mem_mergeSort.mp hhead)
  have hopen : (image f db).requests.values.countP (fun c =>
      c.playbookId = head.id ∧ c.status = .isOpen) = db.changeRequests.rows.countP fun c =>
        c.playbookId = head.id ∧ c.status = .isOpen := by
    rw [values_requests, List.countP_map]
    rfl
  refine reads_skip hrevisions ?_
  have hentry : (⟨head, (image f db).requests.values.countP fun c =>
      c.playbookId = head.id ∧ c.status = .isOpen,
      ((((db.revisions.select fun r => r.playbookId = head.id).mergeSort
        fun a b => a.revision ≤ b.revision).map fun r => revisionView r head.generation).map id).map
          MemoryPlaybookRepository.viewEntry⟩ : PlaybookEntry) = playbookEntry db head := by
    rw [hopen, List.map_id, List.map_map]
    rfl
  dsimp only
  rw [hentry]
  exact reads_pure _

theorem map_filter_joined {α γ δ : Type} {g : α → Option γ} {q : α → γ → Bool} {k : α → δ}
    {l : List α} (joined : ∀ a ∈ l, ∃ c, g a = some c) :
    ((l.filterMap fun a => (g a).map fun c => (a, c)).filter fun x => q x.1 x.2).map
      (fun x => k x.1) = (l.filter fun a => (g a).any (q a)).map k := by
  induction l with
  | nil => rfl
  | cons a l ih =>
    have hrest := ih fun x hx => joined x (List.mem_cons_of_mem _ hx)
    obtain ⟨c, hc⟩ := joined a List.mem_cons_self
    rw [List.filterMap_cons, hc, Option.map_some, List.filter_cons, List.filter_cons, hc,
      Option.any_some]
    cases q a c with
    | true => exact congrArg (k a :: ·) hrest
    | false => exact hrest

theorem map_joined {α γ δ : Type} {g : α → Option γ} {k : α → δ} {l : List α}
    (joined : ∀ a ∈ l, ∃ c, g a = some c) :
    (l.filterMap fun a => (g a).map fun c => (a, c)).map (fun x => k x.1) = l.map k := by
  have hall := map_filter_joined (q := fun _ _ => true) (k := k) joined
  rw [List.filter_eq_self.mpr fun _ _ => rfl, List.filter_eq_self.mpr fun a ha => ?_] at hall
  · exact hall
  · obtain ⟨c, hc⟩ := joined a ha
    rw [hc]
    rfl

theorem joined_published (sound : Sound digest db) :
    ∀ row ∈ db.revisions.select fun r => r.status = .published,
      ∃ head, db.playbooks.get? row.playbookId = some head := by
  intro row hrow
  obtain ⟨head, hhead, -⟩ := sound.belongs row (Table.mem_select.mp hrow).1
  exact ⟨head, hhead⟩

variable {order : RowOrder (PlaybookRevision β × Playbook)}

theorem publishedRows_perm : (publishedRows db order).Perm (publishedRows db .stored) :=
  order.perm _

theorem mem_publishedRows {x : PlaybookRevision β × Playbook} : x ∈ publishedRows db order ↔
    x.1 ∈ db.revisions.rows ∧ x.1.status = .published ∧
      db.playbooks.get? x.1.playbookId = some x.2 := by
  rw [publishedRows, (order.perm _).mem_iff]
  simp only [List.mem_filterMap, Table.mem_select, Option.map_eq_some_iff]
  constructor
  · rintro ⟨row, ⟨hrow, hpublished⟩, head, hhead, rfl⟩
    exact ⟨hrow, hpublished, hhead⟩
  · rintro ⟨hrow, hpublished, hhead⟩
    exact ⟨x.1, ⟨hrow, hpublished⟩, x.2, hhead, rfl⟩

theorem snapshot_ok (sound : Sound digest db) : snapshot db digest order = .ok
    ⟨(publishedRows db order).map fun x => x.1.document,
      (((publishedRows db order).filter fun x => some x.1.revision = x.2.publishedRevision).map
        fun x => (x.1.playbookId, x.1.revision)).toFinset⟩ := by
  have hheads : ∀ head ∈ db.playbooks.rows, ∀ revision ∈ head.publishedRevision,
      (head.id, revision) ∈ (publishedRows db order).map
        fun x => (x.1.playbookId, x.1.revision) := by
    intro head hhead revision hrevision
    obtain ⟨row, hrow, hpublished⟩ := sound.heads head hhead revision hrevision
    obtain ⟨hmem, hkey⟩ := Table.get?_eq_some.mp hrow
    have hkey' : (row.playbookId, row.revision) = (head.id, revision) := hkey
    have howner : row.playbookId = head.id := congrArg Prod.fst hkey'
    have hstored : db.playbooks.get? row.playbookId = some head := by
      rw [howner]
      exact Table.get?_of_mem hhead
    exact List.mem_map.mpr ⟨(row, head), mem_publishedRows.mpr ⟨hmem, hpublished, hstored⟩, hkey'⟩
  have hidentity : ∀ x ∈ publishedRows db order, SnapshotIdentity digest x.2 x.1 := by
    intro x hx
    obtain ⟨hmem, hpublished, hhead⟩ := mem_publishedRows.mp hx
    obtain ⟨head, hhead', hbelongs⟩ := sound.belongs x.1 hmem
    obtain rfl : x.2 = head := Option.some.inj (hhead.symm.trans hhead')
    exact ⟨hbelongs.id, hbelongs.revision, hbelongs.actionType, hbelongs.contractVersion,
      hbelongs.operation, sound.digests x.1 hmem hpublished⟩
  rw [snapshot, require_of hheads, ok_bind, require_of hidentity, ok_bind]
  rfl

/-- Two orders of the rows give the same snapshot, with its documents in another order. -/
theorem snapshot_order (sound : Sound digest db) : ∃ a b, snapshot db digest order = .ok a ∧
    snapshot db digest .stored = .ok b ∧ b.documents.Perm a.documents ∧
      b.published = a.published := by
  have hperm : (publishedRows db .stored).Perm (publishedRows db order) := publishedRows_perm.symm
  exact ⟨_, _, snapshot_ok sound, snapshot_ok sound, hperm.map _,
    List.toFinset_eq_of_perm _ _ ((hperm.filter _).map _)⟩

theorem reads_snapshot (sound : Sound digest db) :
    Reads id (image f db) MemoryPlaybookRepository.snapshot (snapshot db digest .stored) := by
  have hvalues : (image f db).revisions.values.filter (fun r => r.status = .published) =
      db.revisions.select fun r => r.status = .published := by
    rw [image, values_dictOf, List.map_id_fun]
    rfl
  have hstored : publishedRows db .stored =
      (db.revisions.select fun r => r.status = .published).filterMap fun r =>
        (db.playbooks.get? r.playbookId).map fun head => (r, head) := rfl
  rw [snapshot_ok sound, hstored, map_joined (joined_published sound),
    map_filter_joined (q := fun r head => some r.revision = head.publishedRevision)
      (k := fun r => (r.playbookId, r.revision)) (joined_published sound)]
  refine reads_get ?_
  rw [hvalues]
  refine reads_skip (reads_filterM fun row hrow => ?_) (reads_pure _)
  obtain ⟨head, hhead⟩ := joined_published sound row hrow
  have hfound : Reads id (image f db) (found ((image f db).heads.get? row.playbookId)
      (.database .keyError)) (.ok head : Except RepositoryError _) := by
    rw [get?_heads, hhead]
    rfl
  rw [hhead, Option.any_some]
  refine reads_skip hfound ?_
  have hsame : decide (head.publishedRevision = some row.revision) =
      decide (some row.revision = head.publishedRevision) := decide_eq_decide.mpr eq_comm
  rw [id, hsame]
  exact reads_pure _

end BankingService.PlaybookTwins
