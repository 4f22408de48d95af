import BankingService.ChangeRequests
import BankingService.Library.Runs
import BankingService.RepositoryCalls
import BankingService.TwinReads
import Mathlib.Data.List.Nodup

/-! Runs of the two repositories side by side. From the same bundle they give the same replies and
raise the same errors, up to the ids of change requests and the order of the documents in a
snapshot, and a refused call changes neither. -/
namespace BankingService.PlaybookTwins

open Python Relational Checked Mirror Runs

variable {β : Type}

/-- The call with other ids for the change requests. -/
def renameCall (g : ℤ → ℤ) : RepositoryCall β → RepositoryCall β
  | .recreateFromHead p id version generation actor now =>
    .recreateFromHead p (g id) version generation actor now
  | .updateChangeRequest p id version title description =>
    .updateChangeRequest p (g id) version title description
  | .closeChangeRequest p id actor now => .closeChangeRequest p (g id) actor now
  | .changeRequest p id => .changeRequest p (g id)
  | call => call

def renameReply (f : ℤ → ℤ) : RepositoryReply β → RepositoryReply β
  | .draft view => .draft (renameDraft f view)
  | .request view => .request (renameView f view)
  | .requests views => .requests (views.map (renameView f))
  | .history entries => .history (entries.map (renameEntry f))
  | reply => reply

variable {f g : ℤ → ℤ} {db db' : PlaybookDb β} {digest : Definition β → String}
  {call : RepositoryCall β} {newId : ℤ} {order : RowOrder (PlaybookRevision β × Playbook)}

/-- The same reply, but for the order of the documents in a snapshot. -/
def SameReply : RepositoryReply β → RepositoryReply β → Prop
  | .catalog a, .catalog b => a.documents.Perm b.documents ∧ a.published = b.published
  | a, b => a = b

def SameAnswer : Except RepositoryError (RepositoryReply β) →
    Except RepositoryError (RepositoryReply β) → Prop
  | .ok a, .ok b => SameReply a b
  | a, b => a = b

theorem SameReply.refl (a : RepositoryReply β) : SameReply a a := by
  cases a with
  | catalog s => exact ⟨.refl _, rfl⟩
  | _ => rfl

/-- What the administration passes: first revisions are numbered one, and the digest of a
publication is the digest of the draft that is stored. -/
def Admitted (digest : Definition β → String) (db : PlaybookDb β) : RepositoryCall β → Prop
  | .create document .. => document.revision = 1
  | .publish p revision signature .. =>
    ∀ row ∈ db.revisions.get? (p, revision), signature = digest row.document
  | _ => True

instance : DecidablePred (Admitted digest db)
  | .create document .. => inferInstanceAs (Decidable (document.revision = 1))
  | .publish p revision .. =>
    inferInstanceAs (Decidable (∀ row ∈ db.revisions.get? (p, revision), _))
  | .createDraft .. | .restore .. | .recreateFromHead .. | .edit .. | .updateChangeRequest ..
  | .closeChangeRequest .. | .publishable .. | .list | .get .. | .head .. | .snapshot
  | .history .. | .changeRequest .. | .changeRequests .. | .lockPublished .. => isTrue trivial

theorem mirrors_call (twins : Twins f digest db) (next : call.Opens → Next f db newId)
    (named : ∀ id, Named f db.changeRequests id (g id)) (admitted : Admitted digest db call) :
    Mirrors (image f) (renameReply f) db (MemoryPlaybookRepository.call (renameCall g call))
      (SqlPlaybookRepository.call digest .stored db newId call) := by
  cases call with
  | create => exact mirrors_map (mirrors_create twins (next trivial) admitted) fun _ => rfl
  | createDraft => exact mirrors_map (mirrors_createDraft twins (next trivial)) fun _ => rfl
  | restore => exact mirrors_map (mirrors_restore twins (next trivial)) fun _ => rfl
  | recreateFromHead _ id =>
    exact mirrors_map (mirrors_recreateFromHead twins (next trivial) (named id)) fun _ => rfl
  | edit => exact mirrors_map mirrors_edit fun _ => rfl
  | publish => exact mirrors_map (mirrors_publish twins.numbered) fun _ => rfl
  | updateChangeRequest _ id =>
    exact mirrors_map (mirrors_updateChangeRequest twins (named id)) fun _ => rfl
  | closeChangeRequest _ id =>
    exact mirrors_map (mirrors_closeChangeRequest twins (named id)) fun _ => rfl
  | publishable => exact mirrors_of_reads reads_publishable fun _ => rfl
  | list => exact mirrors_of_reads reads_listPlaybooks fun _ => rfl
  | get => exact mirrors_of_reads (reads_getRevision _ _) fun _ => rfl
  | head => exact mirrors_of_reads (reads_head _) fun _ => rfl
  | snapshot => exact mirrors_of_reads (reads_snapshot twins.sound) fun _ => rfl
  | history => exact mirrors_of_reads reads_history fun _ => rfl
  | changeRequest _ id => exact mirrors_of_reads (reads_changeRequest (named id)) fun _ => rfl
  | changeRequests => exact mirrors_of_reads (reads_changeRequests twins.numbered) fun _ => rfl
  | lockPublished => exact mirrors_of_reads reads_lockPublished fun _ => rfl

theorem stored_of_writes {α : Type} {reply : α → RepositoryReply β} {r : RepositoryReply β}
    {x : Except RepositoryError (PlaybookDb β × α)}
    (h : SqlPlaybookRepository.call.writes reply x = .ok (db', r)) :
    ∃ a, x = .ok (db', a) := by
  cases x with
  | error e => cases h
  | ok y =>
    cases h
    exact ⟨y.2, rfl⟩

theorem same_of_reads {α : Type} {reply : α → RepositoryReply β} {r : RepositoryReply β}
    {x : Except RepositoryError α}
    (h : SqlPlaybookRepository.call.reads db reply x = .ok (db', r)) : db' = db := by
  cases x with
  | error e => cases h
  | ok y =>
    cases h
    rfl

theorem twins_call {r : RepositoryReply β} (twins : Twins f digest db)
    (next : call.Opens → Next f db newId) (admitted : Admitted digest db call)
    (h : SqlPlaybookRepository.call digest order db newId call = .ok (db', r)) :
    Twins f digest db' := by
  cases call with
  | create =>
    obtain ⟨view, hview⟩ := stored_of_writes h
    exact twins_create twins (next trivial) admitted hview
  | createDraft =>
    obtain ⟨view, hview⟩ := stored_of_writes h
    exact twins_createDraft twins (next trivial) hview
  | restore =>
    obtain ⟨view, hview⟩ := stored_of_writes h
    exact twins_restore twins (next trivial) hview
  | recreateFromHead =>
    obtain ⟨view, hview⟩ := stored_of_writes h
    exact twins_recreateFromHead twins (next trivial) hview
  | edit =>
    obtain ⟨view, hview⟩ := stored_of_writes h
    exact twins_edit twins hview
  | publish =>
    obtain ⟨view, hview⟩ := stored_of_writes h
    exact twins_publish twins admitted hview
  | updateChangeRequest =>
    obtain ⟨view, hview⟩ := stored_of_writes h
    exact twins_updateChangeRequest twins hview
  | closeChangeRequest =>
    obtain ⟨view, hview⟩ := stored_of_writes h
    exact twins_closeChangeRequest twins hview
  | publishable | list | get | head | snapshot | history | changeRequest | changeRequests
  | lockPublished => exact same_of_reads h ▸ twins

/-- Another order of the rows is an order of the documents in a snapshot, and nothing else. -/
theorem call_order (sound : Sound digest db) (call : RepositoryCall β) :
    (∃ e, SqlPlaybookRepository.call digest order db newId call = .error e ∧
        SqlPlaybookRepository.call digest .stored db newId call = .error e) ∨
      ∃ db' r s, SqlPlaybookRepository.call digest order db newId call = .ok (db', r) ∧
        SqlPlaybookRepository.call digest .stored db newId call = .ok (db', s) ∧
        SameReply (renameReply f s) (renameReply f r) := by
  cases call with
  | snapshot =>
    obtain ⟨a, b, ha, hb, hsame⟩ := @snapshot_order β db digest order sound
    refine Or.inr ⟨db, .catalog a, .catalog b, ?_, ?_, hsame⟩
    · rw [SqlPlaybookRepository.call, ha]
      rfl
    · rw [SqlPlaybookRepository.call, hb]
      rfl
  | _ =>
    generalize hcall : SqlPlaybookRepository.call digest .stored db newId _ = x
    cases x with
    | error e => exact Or.inl ⟨e, hcall, rfl⟩
    | ok y => exact Or.inr ⟨y.1, y.2, y.2, hcall, rfl, .refl _⟩

def requestIds (db : PlaybookDb β) : List ℤ := db.changeRequests.rows.map fun c => c.id

theorem requestIds_update {id : ℤ} {h : PlaybookChangeRequest → PlaybookChangeRequest}
    {free : ∀ a b, Row.Clash (h a) b → Row.Clash a b} (same : ∀ c, (h c).id = c.id) :
    requestIds { db with changeRequests := db.changeRequests.update id h free } =
      requestIds db := by
  change (List.map _ _).map _ = _
  rw [List.map_map]
  refine List.map_congr_left fun c _ => ?_
  simp only [Function.comp]
  split
  · exact same c
  · rfl

section
variable {head : Playbook} {row : PlaybookRevision β} {origin : RequestOrigin}
  {source : Definition β} {previousBase : Option ℤ} {title description actor : String}
  {now : Timestamp} {view : DraftView β}

theorem requestIds_open (h : openRequest db head row
    (newRequest newId row origin previousBase title description actor now) = .ok (db', view)) :
    requestIds db' = requestIds db ++ [newId] := by
  obtain ⟨requests, hinsert, rfl⟩ := openRequest_eq_ok h
  rw [requestIds, Table.rows_insert hinsert, List.map_append]
  rfl

theorem requestIds_openDraft (h : openDraft db head source newId origin previousBase title
    description actor now = .ok (db', view)) :
    requestIds db' = requestIds db ++ [newId] := by
  simp only [openDraft, allocate, bind_eq_ok, pure_eq_ok] at h
  obtain ⟨⟨db₁, row⟩, ⟨latest, -, revisions, -, hallocated⟩, hopen⟩ := h
  cases hallocated
  have hids := requestIds_open hopen
  exact hids

theorem requestIds_advance {head' : Playbook} {expected : ℤ}
    (h : advanceGeneration db head expected = .ok (db', head')) :
    requestIds db' = requestIds db := by
  simp only [advanceGeneration, bind_eq_ok, pure_eq_ok] at h
  obtain ⟨-, -, h⟩ := h
  cases h
  rfl

theorem requestIds_finish {c : PlaybookChangeRequest} {status : RequestStatus}
    (h : finishRequest db c status actor now = .ok db') : requestIds db' = requestIds db := by
  obtain ⟨-, rfl⟩ := finishRequest_eq_ok.mp h
  exact requestIds_update fun _ => rfl

end

theorem requestIds_call {r : RepositoryReply β}
    (h : SqlPlaybookRepository.call digest order db newId call = .ok (db', r)) :
    requestIds db' = requestIds db ++ if call.Opens then [newId] else [] := by
  cases call with
  | create =>
    obtain ⟨view, hview⟩ := stored_of_writes h
    simp only [createPlaybook, bind_eq_ok] at hview
    obtain ⟨playbooks, -, revisions, -, hopen⟩ := hview
    have hids := requestIds_open hopen
    exact hids
  | createDraft =>
    obtain ⟨view, hview⟩ := stored_of_writes h
    simp only [createDraft, draftFromHead, bind_eq_ok] at hview
    obtain ⟨head, -, row, -, -, -, ⟨db₁, head₁⟩, hadvance, hopen⟩ := hview
    rw [← requestIds_advance hadvance]
    exact requestIds_openDraft hopen
  | restore =>
    obtain ⟨view, hview⟩ := stored_of_writes h
    simp only [restoreRevision, draftFromHistory, bind_eq_ok] at hview
    obtain ⟨head, -, row, -, -, -, ⟨db₁, head₁⟩, hadvance, hopen⟩ := hview
    rw [← requestIds_advance hadvance]
    exact requestIds_openDraft hopen
  | recreateFromHead =>
    obtain ⟨view, hview⟩ := stored_of_writes h
    simp only [recreateFromHead, replaceDraft, bind_eq_ok, pure_eq_ok] at hview
    obtain ⟨head, -, old, -, -, -, row, -, -, -, -, -, ⟨db₁, head₁⟩, hadvance, ⟨db₂, view₂⟩,
      hopen, db₃, hfinish, hview⟩ := hview
    cases hview
    rw [requestIds_finish hfinish, requestIds_openDraft hopen, requestIds_advance hadvance]
    rfl
  | edit =>
    obtain ⟨view, hview⟩ := stored_of_writes h
    simp only [editDraft, writeEdit, bind_eq_ok, pure_eq_ok] at hview
    obtain ⟨head, -, row, -, cr, -, -, -, -, -, request, -, hview⟩ := hview
    cases hview
    exact (List.append_nil _).symm
  | publish =>
    obtain ⟨view, hview⟩ := stored_of_writes h
    simp only [publishDraft, publishRow, publishRevision, bind_eq_ok, pure_eq_ok] at hview
    obtain ⟨head, -, row, -, cr, -, -, -, -, -, ⟨db₁, head₁⟩, hadvance, db₂, ⟨-, -, rfl⟩, db₃,
      hfinish, request, -, hview⟩ := hview
    cases hview
    rw [requestIds_finish hfinish]
    exact (requestIds_advance hadvance).trans (List.append_nil _).symm
  | updateChangeRequest =>
    obtain ⟨view, hview⟩ := stored_of_writes h
    simp only [updateChangeRequest, reviseRequest, bind_eq_ok, pure_eq_ok] at hview
    obtain ⟨head, -, cr, -, -, -, -, -, request, -, hview⟩ := hview
    cases hview
    refine Eq.trans ?_ (List.append_nil _).symm
    exact requestIds_update fun _ => rfl
  | closeChangeRequest =>
    obtain ⟨view, hview⟩ := stored_of_writes h
    simp only [closeChangeRequest, closeRequest, bind_eq_ok, pure_eq_ok] at hview
    obtain ⟨head, -, cr, -, -, -, db₁, hfinish, request, -, hview⟩ := hview
    cases hview
    exact (requestIds_finish hfinish).trans (List.append_nil _).symm
  | publishable | list | get | head | snapshot | history | changeRequest | changeRequests
  | lockPublished => exact same_of_reads h ▸ (List.append_nil _).symm

/-- A call, the id that the sequence has for it, and the order in which its rows are read. -/
structure RepositoryStep (β : Type) where
  call : RepositoryCall β
  newId : ℤ
  order : RowOrder (PlaybookRevision β × Playbook)

def sqlStep (digest : Definition β → String) (db : PlaybookDb β) (e : RepositoryStep β) :
    PlaybookDb β × Except RepositoryError (RepositoryReply β) :=
  match SqlPlaybookRepository.call digest e.order db e.newId e.call with
  | .ok (db', reply) => (db', .ok reply)
  | .error x => (db, .error x)

def memoryStep (m : MemoryPlaybooks β) (call : RepositoryCall β) :
    MemoryPlaybooks β × Except RepositoryError (RepositoryReply β) :=
  match MemoryPlaybookRepository.call call m with
  | .ok reply m' => (m', .ok reply)
  | .error x m' => (m', .error x)

/-- The tables alone. The sequence is ahead of every id that is stored. -/
def sqlRepository (digest : Definition β → String) : Machine (PlaybookDb β) (RepositoryStep β) where
  Enabled db e := Admitted digest db e.call ∧ ∀ c ∈ db.changeRequests.rows, c.id < e.newId
  next db e := (sqlStep digest db e).1

instance (s : PlaybookDb β) (e : RepositoryStep β) :
    Decidable ((sqlRepository digest).Enabled s e) :=
  inferInstanceAs (Decidable (_ ∧ _))

def sideBySide (f : ℤ → ℤ) (digest : Definition β → String) :
    Machine (PlaybookDb β × MemoryPlaybooks β) (RepositoryStep β) where
  Enabled s e := (sqlRepository digest).Enabled s.1 e
  next s e := ((sqlStep digest s.1 e).1, (memoryStep s.2 (renameCall f e.call)).1)

/-- The same answer; a refused call leaves both as they were. -/
def StepAgrees (f : ℤ → ℤ) (digest : Definition β → String)
    (s : PlaybookDb β × MemoryPlaybooks β) (e : RepositoryStep β) : Prop :=
  SameAnswer (memoryStep s.2 (renameCall f e.call)).2
      ((sqlStep digest s.1 e).2.map (renameReply f)) ∧
    ∀ x, (sqlStep digest s.1 e).2 = .error x → (sideBySide f digest).next s e = s

/-- A renaming of the ids that a run ends with. The requests are counted, and ids that were never
given name nothing. -/
structure Renames (f : ℤ → ℤ) (db : PlaybookDb β) : Prop where
  counts : (requestIds db).map f =
    (List.range (requestIds db).length).map fun k => ((k + 1 : ℕ) : ℤ)
  apart : ∀ id ∉ requestIds db, f id ∉ (requestIds db).map f

variable {e : RepositoryStep β} {steps : List (RepositoryStep β)}

theorem requestIds_step : requestIds db <+: requestIds (sqlStep digest db e).1 := by
  rw [sqlStep]
  cases hcall : SqlPlaybookRepository.call digest e.order db e.newId e.call with
  | error x => exact List.prefix_rfl
  | ok r =>
    rw [requestIds_call hcall]
    exact List.prefix_append _ _

theorem requestIds_final (digest : Definition β → String) (db : PlaybookDb β)
    (steps : List (RepositoryStep β)) :
    requestIds db <+: requestIds ((sqlRepository digest).final db steps) := by
  induction steps generalizing db with
  | nil => exact List.prefix_rfl
  | cons e steps ih => exact requestIds_step.trans (ih _)

theorem Renames.of_prefix (renames : Renames f db')
    (initial : requestIds db <+: requestIds db')
    (ascending : db.changeRequests.rows.Pairwise fun a b => a.id < b.id) : Numbered f db := by
  obtain ⟨later, hids⟩ := initial
  have hcounts := renames.counts
  rw [← hids, List.map_append, List.length_append, List.range_add, List.map_append] at hcounts
  have hfirst := List.append_inj_left hcounts (by simp)
  refine ⟨?_, ascending⟩
  rw [requestIds, List.map_map, List.length_map] at hfirst
  exact hfirst

theorem Renames.named (renames : Renames f db') (initial : requestIds db <+: requestIds db')
    (id : ℤ) : Named f db.changeRequests id (f id) := by
  intro r hr
  refine ⟨fun heq => ?_, fun heq => congrArg f heq⟩
  have hmem : r.id ∈ requestIds db' := initial.subset (List.mem_map_of_mem hr)
  have hnodup : ((requestIds db').map f).Nodup := by
    rw [renames.counts]
    refine List.Nodup.map (fun a b hab => ?_) List.nodup_range
    omega
  by_cases hid : id ∈ requestIds db'
  · exact List.inj_on_of_nodup_map hnodup hmem hid heq
  · exact absurd (heq ▸ List.mem_map_of_mem hmem) (renames.apart id hid)

theorem next_of_renames {r : RepositoryReply β}
    (call_ok : SqlPlaybookRepository.call digest order db newId call = .ok (db', r))
    (numbered : Numbered f db') (above : ∀ c ∈ db.changeRequests.rows, c.id < newId)
    (opens : call.Opens) : Next f db newId := by
  refine ⟨?_, above⟩
  have hids := requestIds_call call_ok
  rw [if_pos opens] at hids
  have hlength : db'.changeRequests.rows.length = db.changeRequests.rows.length + 1 := by
    simpa [requestIds] using congrArg List.length hids
  have hcounts := numbered.counts
  rw [hlength, List.range_succ, List.map_append] at hcounts
  have hnames : db'.changeRequests.rows.map (fun c => f c.id) =
      (requestIds db).map f ++ [f newId] := by
    rw [← List.map_singleton, ← List.map_append, ← hids, requestIds, List.map_map]
    rfl
  rw [hnames] at hcounts
  exact List.singleton_inj.mp (List.append_inj_right' hcounts rfl)

theorem ascending_call {r : RepositoryReply β}
    (call_ok : SqlPlaybookRepository.call digest order db newId call = .ok (db', r))
    (ascending : db.changeRequests.rows.Pairwise fun a b => a.id < b.id)
    (above : ∀ c ∈ db.changeRequests.rows, c.id < newId) :
    db'.changeRequests.rows.Pairwise fun a b => a.id < b.id := by
  suffices hids : (requestIds db').Pairwise (· < ·) from List.pairwise_map.mp hids
  rw [requestIds_call call_ok, List.pairwise_append]
  refine ⟨List.pairwise_map.mpr ascending, ?_, fun a ha b hb => ?_⟩
  · split
    · exact List.pairwise_singleton _ _
    · exact List.Pairwise.nil
  · obtain ⟨c, hc, rfl⟩ := List.mem_map.mp ha
    split at hb
    · rw [List.mem_singleton.mp hb]
      exact above c hc
    · cases hb

/-- A refused call raises the same error in memory, where it has not written yet. The id that it
would have given to a request has no name, so it is tried under the next number. -/
theorem refused_step {x : RepositoryError} (twins : Twins f digest db)
    (named : ∀ id, Named f db.changeRequests id (f id)) (admitted : Admitted digest db call)
    (above : ∀ c ∈ db.changeRequests.rows, c.id < newId)
    (refused : SqlPlaybookRepository.call digest .stored db newId call = .error x) :
    MemoryPlaybookRepository.call (renameCall f call) (image f db) = .error x (image f db) := by
  let f' : ℤ → ℤ := Function.update f newId ((db.changeRequests.rows.length + 1 : ℕ) : ℤ)
  have hsame : ∀ c ∈ db.changeRequests.rows, f' c.id = f c.id := fun c hc =>
    Function.update_of_ne (above c hc).ne _ _
  have himage : image f' db = image f db := by
    have hrequests : dictOf f' (renameRequest f') db.changeRequests =
        dictOf f (renameRequest f) db.changeRequests :=
      List.map_congr_left fun c hc => Prod.ext (hsame c hc)
        (congrArg (fun n => { c with id := n }) (hsame c hc))
    exact congrArg (MemoryPlaybooks.mk _ _) hrequests
  have htwins : Twins f' digest db := by
    refine ⟨twins.sound, ?_, twins.numbered.ascending⟩
    rw [List.map_congr_left hsame]
    exact twins.numbered.counts
  have hnamed : ∀ id, Named f' db.changeRequests id (f id) := by
    intro id c hc
    rw [show f' (Row.key c) = f (Row.key c) from hsame c hc]
    exact named id c hc
  have hnext : call.Opens → Next f' db newId := fun _ => ⟨Function.update_self _ _ _, above⟩
  have hmirrors := mirrors_call htwins hnext hnamed admitted
  rw [refused, Mirrors, himage] at hmirrors
  exact hmirrors

/-- One call on both, under a renaming of what the run ends with. -/
theorem twins_step (twins : Twins f digest db)
    (renames : Renames f ((sqlRepository digest).final ((sqlRepository digest).next db e) steps))
    (enabled : (sqlRepository digest).Enabled db e) :
    StepAgrees f digest (db, image f db) e ∧
      (sideBySide f digest).next (db, image f db) e =
        ((sqlStep digest db e).1, image f (sqlStep digest db e).1) ∧
      Twins f digest (sqlStep digest db e).1 := by
  obtain ⟨hadmitted, habove⟩ := enabled
  have hlater := requestIds_final digest (sqlStep digest db e).1 steps
  have hnamed := renames.named (requestIds_step.trans hlater)
  rcases @call_order β f db digest e.newId e.order twins.sound e.call with
    ⟨x, hcall, hstored⟩ | ⟨db', reply, stored, hcall, hstored, hsame⟩
  · have hmemory := refused_step twins hnamed hadmitted habove hstored
    have hsql : sqlStep digest db e = (db, .error x) := by rw [sqlStep, hcall]
    have hstep : memoryStep (image f db) (renameCall f e.call) = (image f db, .error x) := by
      rw [memoryStep, hmemory]
    have hnext : (sideBySide f digest).next (db, image f db) e = (db, image f db) := by
      simp only [sideBySide, hsql, hstep]
    refine ⟨⟨?_, fun _ _ => hnext⟩, ?_, ?_⟩
    · rw [hsql, hstep]
      rfl
    · rw [hnext, hsql]
    · rw [hsql]
      exact twins
  · have hsql : sqlStep digest db e = (db', .ok reply) := by rw [sqlStep, hcall]
    change requestIds (sqlStep digest db e).1 <+:
      requestIds ((sqlRepository digest).final ((sqlRepository digest).next db e) steps) at hlater
    rw [hsql] at hlater
    have hnumbered := renames.of_prefix hlater
      (ascending_call hcall twins.numbered.ascending habove)
    have hnext : e.call.Opens → Next f db e.newId :=
      next_of_renames hcall hnumbered habove
    have hmirrors := mirrors_call twins hnext hnamed hadmitted
    rw [hstored, Mirrors] at hmirrors
    have hstep : memoryStep (image f db) (renameCall f e.call) =
        (image f db', .ok (renameReply f stored)) := by
      rw [memoryStep, hmirrors]
    refine ⟨⟨?_, fun x hx => ?_⟩, ?_, ?_⟩
    · rw [hsql, hstep]
      exact hsame
    · rw [hsql] at hx
      cases hx
    · simp only [sideBySide, hsql, hstep]
    · rw [hsql]
      exact twins_call twins hnext hadmitted hcall

theorem twins_run (twins : Twins f digest db)
    (renames : Renames f ((sqlRepository digest).final db steps))
    (run : (sqlRepository digest).Run db steps) :
    (sideBySide f digest).Throughout (fun s => s.2 = image f s.1) (db, image f db) steps ∧
      (sideBySide f digest).Each (StepAgrees f digest) (db, image f db) steps := by
  induction steps generalizing db with
  | nil => exact ⟨rfl, trivial⟩
  | cons e steps ih =>
    obtain ⟨hagrees, hnext, htwins⟩ := twins_step twins renames run.1
    obtain ⟨hstates, hsteps⟩ := ih htwins renames run.2
    refine ⟨⟨rfl, ?_⟩, hagrees, ?_⟩
    · rw [hnext]
      exact hstates
    · rw [hnext]
      exact hsteps

theorem renames_exist (nodup : (requestIds db).Nodup) : ∃ f, Renames f db := by
  refine ⟨fun id => if id ∈ requestIds db then (((requestIds db).idxOf id + 1 : ℕ) : ℤ) else 0,
    ?_, fun id hid hmem => ?_⟩
  · refine List.ext_getElem (by rw [List.length_map, List.length_map, List.length_range]) ?_
    intro i hi hi'
    rw [List.length_map] at hi
    rw [List.getElem_map, List.getElem_map, List.getElem_range, if_pos (List.getElem_mem hi),
      nodup.idxOf_getElem i hi]
  · obtain ⟨k, hk, heq⟩ := List.mem_map.mp hmem
    rw [if_pos hk, if_neg hid] at heq
    omega

theorem ascending_run (ascending : db.changeRequests.rows.Pairwise fun a b => a.id < b.id)
    (run : (sqlRepository digest).Run db steps) :
    ((sqlRepository digest).final db steps).changeRequests.rows.Pairwise
      fun a b => a.id < b.id := by
  refine final_of_each (P := fun db : PlaybookDb β =>
    db.changeRequests.rows.Pairwise fun a b => a.id < b.id) ?_ ascending run
  intro db e h henabled
  change (sqlStep digest db e).1.changeRequests.rows.Pairwise _
  rw [sqlStep]
  cases hcall : SqlPlaybookRepository.call digest e.order db e.newId e.call with
  | error x => exact h
  | ok r => exact ascending_call hcall h henabled.2

/-- What both start from: rows that agree with their playbooks, and no change requests. -/
structure Bundle (digest : Definition β → String) (db : PlaybookDb β) : Prop where
  sound : Sound digest db
  unrequested : db.changeRequests.rows = []

open ChangeRequests in
def reissueDigest (d : Definition Unit) : String := "digest-" ++ toString d.revision

open ChangeRequests in
theorem reissueBundle_bundle : Bundle reissueDigest reissueBundle := by
  refine ⟨⟨?_, ?_, ?_, ?_, ?_⟩, rfl⟩
  · intro row hrow
    obtain rfl := List.mem_singleton.mp hrow
    exact ⟨_, rfl, rfl, rfl, rfl, rfl, rfl⟩
  · intro row hrow _
    obtain rfl := List.mem_singleton.mp hrow
    decide
  · intro head hhead
    obtain rfl := List.mem_singleton.mp hhead
    exact ⟨_, List.mem_singleton.mpr rfl, rfl⟩
  · intro head hhead r hr
    obtain rfl := List.mem_singleton.mp hhead
    cases hr
    exact ⟨_, rfl, rfl⟩
  · intro c hc
    cases hc

open ChangeRequests in
def reissuing : List (RepositoryStep Unit) :=
  [⟨.createDraft "card-reissue" 1 1 "alice" 1 none "", 5, .stored⟩,
    ⟨.edit "card-reissue" 2 (reissueDocument 2) 1 "bob" 2, 6, .stored⟩,
    ⟨.publish "card-reissue" 2 "digest-2" 2 2 "alice" 3, 7, .stored⟩,
    ⟨.publish "card-reissue" 2 "digest-2" 2 3 "bob" 4, 8, .stored⟩,
    ⟨.create ⟨"card-freeze", 1, "FREEZE_CARD", "card-freeze.v1", "cards.freeze.v1", ()⟩ "bob" 5
      none "", 9, .stored⟩,
    ⟨.updateChangeRequest "card-freeze" 9 1 (some "Freeze a card") none, 10, .stored⟩,
    ⟨.changeRequests "card-freeze" none, 11, .stored⟩, ⟨.list, 12, .stored⟩,
    ⟨.snapshot, 13, .reversed⟩]

def listed : Except RepositoryError (RepositoryReply β) → List ℤ
  | .ok (.catalog s) => s.documents.map (·.revision)
  | _ => []

open ChangeRequests in
def reissuedRow (revision : ℤ) : PlaybookRevision Unit :=
  { newDraft (reissueDocument revision) "card-reissue" revision none "bundle-bootstrap" 0 with
    status := .published
    digest := some ("digest-" ++ toString revision)
    publishedAt := some 0 }

def reissuedBundle : PlaybookDb Unit where
  playbooks := ⟨[⟨"card-reissue", "REISSUE_CARD", "card-reissue.v1",
    "cards.issue_replacement.v1", some 2, 1⟩], List.pairwise_singleton _ _⟩
  revisions := ⟨[reissuedRow 1, reissuedRow 2], by decide⟩
  changeRequests := .empty

theorem reissuedBundle_bundle : Bundle reissueDigest reissuedBundle := by
  have hrows :
    ∀ row ∈ reissuedBundle.revisions.rows, row = reissuedRow 1 ∨ row = reissuedRow 2 := by
    intro row hrow
    simpa only [reissuedBundle, List.mem_cons, List.not_mem_nil, or_false] using hrow
  refine ⟨⟨?_, ?_, ?_, ?_, ?_⟩, rfl⟩
  · intro row hrow
    rcases hrows row hrow with rfl | rfl <;> exact ⟨_, rfl, rfl, rfl, rfl, rfl, rfl⟩
  · intro row hrow _
    rcases hrows row hrow with rfl | rfl <;> rfl
  · intro head hhead
    obtain rfl := List.mem_singleton.mp hhead
    exact ⟨_, List.mem_cons_self, rfl⟩
  · intro head hhead r hr
    obtain rfl := List.mem_singleton.mp hhead
    cases hr
    exact ⟨_, rfl, rfl⟩
  · intro c hc
    cases hc

end BankingService.PlaybookTwins
