import BankingService.Library.Checked
import BankingService.Library.Table
import BankingService.Python
import Mathlib.Data.Finset.Dedup
import Mathlib.Data.List.MinMax

/-! Operational playbooks: the tables, the views of their rows, and the repository on them. Each
call is given on the rows that it finds; it returns what it stores, for the caller to commit, or
raises and stores nothing. -/
namespace BankingService

open Python Relational Checked

/-- The order in which a query that asks for none returns its rows. -/
structure RowOrder (α : Type) where
  arrange : List α → List α
  perm : ∀ l, (arrange l).Perm l

def RowOrder.stored {α : Type} : RowOrder α := ⟨id, .refl⟩

def RowOrder.reversed {α : Type} : RowOrder α := ⟨List.reverse, List.reverse_perm⟩

/-- A definition document. Its identity is named; `body` is the rest of it. -/
structure Definition (β : Type) where
  id : String
  revision : ℤ
  actionType : String
  contractVersion : String
  operation : String
  body : β
  deriving DecidableEq

inductive RevisionStatus where
  | draft
  | published
  deriving DecidableEq, Repr

inductive RequestStatus where
  | isOpen
  | published
  | closed
  deriving DecidableEq, Repr

inductive RequestOrigin where
  | create
  | draft
  | restore
  | recreate
  | legacy
  deriving DecidableEq, Repr

structure Playbook where
  id : String
  actionType : String
  contractVersion : String
  operation : String
  publishedRevision : Option ℤ
  generation : ℤ
  deriving DecidableEq

structure PlaybookRevision (β : Type) where
  playbookId : String
  revision : ℤ
  status : RevisionStatus
  document : Definition β
  digest : Option String
  draftVersion : ℤ
  createdBy : String
  updatedBy : String
  createdAt : Timestamp
  updatedAt : Timestamp
  publishedAt : Option Timestamp
  baseRevision : Option ℤ
  deriving DecidableEq

structure PlaybookChangeRequest where
  id : ℤ
  playbookId : String
  revision : ℤ
  baseRevision : Option ℤ
  origin : RequestOrigin
  previousBaseRevision : Option ℤ
  title : String
  description : String
  status : RequestStatus
  version : ℤ
  openedBy : String
  openedAt : Timestamp
  closedBy : Option String
  closedAt : Option Timestamp
  publishedRevision : Option ℤ
  deriving DecidableEq

/-- Ids and action types are unique. -/
instance : Row Playbook String where
  key := fun p => p.id
  Clash a b := a.id = b.id ∨ a.actionType = b.actionType
  clash_symm h := h.imp Eq.symm Eq.symm
  clash_of_key := Or.inl

instance {β : Type} : Row (PlaybookRevision β) (String × ℤ) :=
  Row.ofKey fun r => (r.playbookId, r.revision)

/-- A revision has one change request. -/
instance : Row PlaybookChangeRequest ℤ where
  key := fun c => c.id
  Clash a b := a.id = b.id ∨ (a.playbookId = b.playbookId ∧ a.revision = b.revision)
  clash_symm h := h.imp Eq.symm fun h => ⟨h.1.symm, h.2.symm⟩
  clash_of_key := Or.inl

structure PlaybookDb (β : Type) where
  playbooks : Table Playbook
  revisions : Table (PlaybookRevision β)
  changeRequests : Table PlaybookChangeRequest

inductive RepositoryError where
  | invalid (message : String)
  | notFound (message : String)
  | conflict (message : String)
  | changeRequestNotFound
  | changeRequestNotOpen (message : String)
  | behindHead (message : String)
  | notBehindHead
  | database (e : PyException)
  deriving DecidableEq

def RepositoryError.playbookNotFound : RepositoryError := .notFound "Playbook not found."
def RepositoryError.revisionNotFound : RepositoryError := .notFound "Playbook revision not found."

def RepositoryError.noOpenRequest : RepositoryError := .changeRequestNotOpen
  "This draft has no open change request; it cannot be changed or published."

def RepositoryError.noLongerOpen : RepositoryError := .changeRequestNotOpen
  "The change request is no longer open; refresh before continuing."

def RepositoryError.playbookChanged : RepositoryError := .conflict
  "The playbook changed; refresh before continuing."

def RepositoryError.draftChanged : RepositoryError := .conflict
  "Draft changed or already published; refresh before continuing."

def behindMessage (base head : Option ℤ) : String :=
  "This change request is based on revision " ++ ((base.filter (· ≠ 0)).map toString).getD "none" ++
    ", but revision " ++ (head.map toString).getD "None" ++
    " is now published. Start a new change request from the current revision."

structure RevisionView (β : Type) where
  id : String
  revision : ℤ
  status : RevisionStatus
  digest : Option String
  draftVersion : ℤ
  generation : ℤ
  baseRevision : Option ℤ
  document : Definition β
  createdBy : String
  updatedBy : String
  createdAt : Timestamp
  updatedAt : Timestamp
  publishedAt : Option Timestamp
  deriving DecidableEq

structure ChangeRequestView where
  fields : PlaybookChangeRequest
  behind : Bool
  behindBy : ℕ
  draftVersion : ℤ
  updatedBy : String
  updatedAt : Timestamp
  deriving DecidableEq

/-- A revision with its change request. -/
structure DraftView (β : Type) where
  revision : RevisionView β
  changeRequest : ChangeRequestView
  deriving DecidableEq

structure RevisionEntry where
  revision : ℤ
  status : RevisionStatus
  digest : Option String
  draftVersion : ℤ
  baseRevision : Option ℤ
  updatedAt : Timestamp
  deriving DecidableEq

structure PlaybookEntry where
  head : Playbook
  openChangeRequests : ℕ
  revisions : List RevisionEntry
  deriving DecidableEq

structure HistoryEntry where
  revision : ℤ
  digest : Option String
  publishedAt : Option Timestamp
  publishedBy : String
  baseRevision : Option ℤ
  current : Bool
  changeRequest : Option (ℤ × String)
  deriving DecidableEq

/-- Published documents and the ids of the current heads. -/
structure CatalogSnapshot (β : Type) where
  documents : List (Definition β)
  published : Finset (String × ℤ)
  deriving DecidableEq

section
variable {β : Type}

def revisionView (row : PlaybookRevision β) (generation : ℤ) : RevisionView β :=
  { id := row.playbookId, revision := row.revision, status := row.status, digest := row.digest,
    draftVersion := row.draftVersion, generation, baseRevision := row.baseRevision,
    document := row.document, createdBy := row.createdBy, updatedBy := row.updatedBy,
    createdAt := row.createdAt, updatedAt := row.updatedAt, publishedAt := row.publishedAt }

def defaultTitle (origin : RequestOrigin) (playbookId : String) (sourceRevision : ℤ) : String :=
  match origin with
  | .create => "Create " ++ playbookId
  | .restore => "Restore revision " ++ toString sourceRevision
  | _ => "Update " ++ playbookId

def titleOr (title : Option String) (default : String) : String :=
  (title.filter (· ≠ "")).getD default

/-- A change request is behind if another revision than its base is published by now. -/
def changeRequestView (fields : PlaybookChangeRequest) (draft : RevisionView β)
    (headPublished : Option ℤ) (publishedRevisions : List ℤ) : ChangeRequestView :=
  let behind : Bool := fields.status = .isOpen ∧ fields.baseRevision ≠ headPublished
  { fields, behind,
    behindBy := if behind then
      publishedRevisions.countP fun rev => fields.baseRevision.getD 0 < rev else 0,
    draftVersion := draft.draftVersion, updatedBy := draft.updatedBy,
    updatedAt := draft.updatedAt }

def revisionEntry (row : PlaybookRevision β) : RevisionEntry :=
  { revision := row.revision, status := row.status, digest := row.digest,
    draftVersion := row.draftVersion, baseRevision := row.baseRevision,
    updatedAt := row.updatedAt }

def newDraft (document : Definition β) (playbookId : String) (revision : ℤ)
    (baseRevision : Option ℤ) (actor : String) (now : Timestamp) : PlaybookRevision β :=
  { playbookId, revision, status := .draft, document, digest := none, draftVersion := 1,
    createdBy := actor, updatedBy := actor, createdAt := now, updatedAt := now,
    publishedAt := none, baseRevision }

def newRequest (id : ℤ) (row : PlaybookRevision β) (origin : RequestOrigin)
    (previousBase : Option ℤ) (title description actor : String) (now : Timestamp) :
    PlaybookChangeRequest :=
  { id, playbookId := row.playbookId, revision := row.revision, baseRevision := row.baseRevision,
    origin, previousBaseRevision := previousBase, title, description, status := .isOpen,
    version := 1, openedBy := actor, openedAt := now, closedBy := none, closedAt := none,
    publishedRevision := none }

def PlaybookChangeRequest.finish (status : RequestStatus) (actor : String) (now : Timestamp)
    (c : PlaybookChangeRequest) : PlaybookChangeRequest :=
  { c with
    status := status, closedBy := some actor, closedAt := some now,
    publishedRevision := if status = .published then some c.revision else none,
    version := c.version + 1 }

def PlaybookRevision.edited (document : Definition β) (draftVersion : ℤ) (actor : String)
    (now : Timestamp) (r : PlaybookRevision β) : PlaybookRevision β :=
  { r with document, draftVersion, updatedBy := actor, updatedAt := now }

def PlaybookRevision.publish (digest actor : String) (now : Timestamp) (r : PlaybookRevision β) :
    PlaybookRevision β :=
  { r with
    status := .published, digest := some digest, publishedAt := some now, updatedBy := actor,
    updatedAt := now }

/-- The fields that an edit must leave alone. -/
def SameIdentity (d e : Definition β) : Prop :=
  d.id = e.id ∧ d.revision = e.revision ∧ d.actionType = e.actionType ∧
    d.contractVersion = e.contractVersion ∧ d.operation = e.operation

instance (d e : Definition β) : Decidable (SameIdentity d e) :=
  inferInstanceAs (Decidable (_ ∧ _ ∧ _ ∧ _ ∧ _))

variable (db : PlaybookDb β)

def findHead (playbookId : String) : Except RepositoryError Playbook :=
  orRaise (db.playbooks.get? playbookId) .playbookNotFound

def findRow (playbookId : String) (revision : ℤ) :
    Except RepositoryError (PlaybookRevision β) :=
  orRaise (db.revisions.get? (playbookId, revision)) .revisionNotFound

def findRequest (playbookId : String) (changeRequestId : ℤ) :
    Except RepositoryError PlaybookChangeRequest :=
  orRaise ((db.changeRequests.get? changeRequestId).filter fun c => c.playbookId = playbookId)
    .changeRequestNotFound

def requestFor (playbookId : String) (revision : ℤ) : Option PlaybookChangeRequest :=
  db.changeRequests.first? fun c => c.playbookId = playbookId ∧ c.revision = revision

def openRequestFor (playbookId : String) (revision : ℤ) :
    Except RepositoryError PlaybookChangeRequest :=
  orRaise ((requestFor db playbookId revision).filter fun c => c.status = .isOpen) .noOpenRequest

def publishedRevisions (playbookId : String) : List ℤ :=
  (db.revisions.select fun r => r.playbookId = playbookId ∧ r.status = .published).map
    fun r => r.revision

def requestView (head : Playbook) (c : PlaybookChangeRequest) :
    Except RepositoryError ChangeRequestView := do
  let row ← findRow db c.playbookId c.revision
  return changeRequestView c (revisionView row head.generation) head.publishedRevision
    (publishedRevisions db c.playbookId)

def reload (c : PlaybookChangeRequest) : PlaybookChangeRequest :=
  (db.changeRequests.get? c.id).getD c

/-- Compares the generation and sets it, in one statement. -/
def advanceGeneration (head : Playbook) (expected : ℤ) :
    Except RepositoryError (PlaybookDb β × Playbook) := do
  require (∃ p ∈ db.playbooks.get? head.id, p.generation = expected) .playbookChanged
  return ({ db with
      playbooks := db.playbooks.update head.id fun p => { p with generation := expected + 1 } },
    { head with generation := expected + 1 })

def latestRevision (playbookId : String) : Option ℤ :=
  ((db.revisions.select fun r => r.playbookId = playbookId).map fun r => r.revision).max?

/-- Stores a copy of a document as the next revision. -/
def allocate (head : Playbook) (source : Definition β) (actor : String) (now : Timestamp) :
    Except RepositoryError (PlaybookDb β × PlaybookRevision β) := do
  let latest ← orRaise (latestRevision db head.id) (.database .statementError)
  let row := newDraft { source with revision := latest + 1 } head.id (latest + 1)
    head.publishedRevision actor now
  let revisions ← orRaise (db.revisions.insert? row) (.database .integrityError)
  return ({ db with revisions }, row)

def openRequest (head : Playbook) (row : PlaybookRevision β) (c : PlaybookChangeRequest) :
    Except RepositoryError (PlaybookDb β × DraftView β) := do
  let changeRequests ← orRaise (db.changeRequests.insert? c) (.database .integrityError)
  let db := { db with changeRequests }
  let view ← requestView db head c
  return (db, ⟨revisionView row head.generation, view⟩)

/-- Sets a change request to a final status if it is open still, in one statement. -/
def finishRequest (c : PlaybookChangeRequest) (status : RequestStatus) (actor : String)
    (now : Timestamp) : Except RepositoryError (PlaybookDb β) := do
  require (∃ r ∈ db.changeRequests.get? c.id, r.status = .isOpen) .noLongerOpen
  return { db with
    changeRequests :=
      db.changeRequests.update c.id (PlaybookChangeRequest.finish status actor now) }

def requireDraft (row : PlaybookRevision β) (expected : ℤ) : Except RepositoryError Unit :=
  require (row.status = .draft ∧ row.draftVersion = expected) .draftChanged

def currentBase (c : PlaybookChangeRequest) (head : Playbook) : Except RepositoryError Unit :=
  require (c.baseRevision = head.publishedRevision)
    (.behindHead (behindMessage c.baseRevision head.publishedRevision))

/-- Writes a publication. Rows that are published already are immutable. -/
def publishRevision (row : PlaybookRevision β) (digest actor : String) (now : Timestamp) :
    Except RepositoryError (PlaybookDb β) := do
  require (∃ r ∈ db.revisions.get? (row.playbookId, row.revision), r.status = .draft)
    (.database .integrityError)
  return { db with
    revisions := db.revisions.update (row.playbookId, row.revision)
      (PlaybookRevision.publish digest actor now),
    playbooks := db.playbooks.update row.playbookId
      fun p => { p with publishedRevision := some row.revision } }

def createPlaybook (document : Definition β) (newId : ℤ) (actor : String) (now : Timestamp)
    (title : Option String) (description : String) :
    Except RepositoryError (PlaybookDb β × DraftView β) := do
  let head : Playbook :=
    { id := document.id, actionType := document.actionType,
      contractVersion := document.contractVersion, operation := document.operation,
      publishedRevision := none, generation := 1 }
  let row := newDraft document head.id 1 none actor now
  let exists_ := RepositoryError.conflict "Playbook id or action type already exists."
  let playbooks ← orRaise (db.playbooks.insert? head) exists_
  let revisions ← orRaise (db.revisions.insert? row) exists_
  openRequest { db with playbooks, revisions } head row
    (newRequest newId row .create none (titleOr title (defaultTitle .create head.id 0)) description
      actor now)

def openDraft (head : Playbook) (source : Definition β) (newId : ℤ) (origin : RequestOrigin)
    (previousBase : Option ℤ) (title description actor : String) (now : Timestamp) :
    Except RepositoryError (PlaybookDb β × DraftView β) := do
  let (db, row) ← allocate db head source actor now
  openRequest db head row
    (newRequest newId row origin previousBase title description actor now)

def draftFromHead (head : Playbook) (source : PlaybookRevision β) (expectedGeneration newId : ℤ)
    (actor : String) (now : Timestamp) (title : Option String) (description : String) :
    Except RepositoryError (PlaybookDb β × DraftView β) := do
  require (∀ published ∈ head.publishedRevision, published = source.revision)
    (.conflict ("New change requests start from the published revision; " ++
      "restore historical revisions explicitly."))
  let (db, head) ← advanceGeneration db head expectedGeneration
  openDraft db head source.document newId .draft none
    (titleOr title (defaultTitle .draft head.id source.revision)) description actor now

def createDraft (playbookId : String) (sourceRevision expectedGeneration newId : ℤ)
    (actor : String) (now : Timestamp) (title : Option String) (description : String) :
    Except RepositoryError (PlaybookDb β × DraftView β) := do
  let head ← findHead db playbookId
  let source ← findRow db playbookId sourceRevision
  draftFromHead db head source expectedGeneration newId actor now title description

def draftFromHistory (head : Playbook) (source : PlaybookRevision β)
    (expectedGeneration newId : ℤ) (actor : String) (now : Timestamp) (title : Option String)
    (description : String) : Except RepositoryError (PlaybookDb β × DraftView β) := do
  require (source.status = .published) (.conflict "Only published revisions can be restored.")
  let (db, head) ← advanceGeneration db head expectedGeneration
  openDraft db head source.document newId .restore (some source.revision)
    (titleOr title (defaultTitle .restore head.id source.revision)) description actor now

def restoreRevision (playbookId : String) (sourceRevision expectedGeneration newId : ℤ)
    (actor : String) (now : Timestamp) (title : Option String) (description : String) :
    Except RepositoryError (PlaybookDb β × DraftView β) := do
  let head ← findHead db playbookId
  let source ← findRow db playbookId sourceRevision
  draftFromHistory db head source expectedGeneration newId actor now title description

/-- A draft that is behind is copied onto the head, and its change request closed. -/
def replaceDraft (head : Playbook) (old : PlaybookChangeRequest) (draft : PlaybookRevision β)
    (expectedDraftVersion expectedGeneration newId : ℤ) (actor : String) (now : Timestamp) :
    Except RepositoryError (PlaybookDb β × DraftView β) := do
  requireDraft draft expectedDraftVersion
  require (old.baseRevision ≠ head.publishedRevision) .notBehindHead
  let (db, head) ← advanceGeneration db head expectedGeneration
  let (db, view) ← openDraft db head draft.document newId .recreate old.baseRevision old.title
    old.description actor now
  let db ← finishRequest db old .closed actor now
  return (db, view)

def requireOpen (c : PlaybookChangeRequest) (message : String) : Except RepositoryError Unit :=
  require (c.status = .isOpen) (.changeRequestNotOpen message)

def recreateFromHead (playbookId : String)
    (changeRequestId expectedDraftVersion expectedGeneration newId : ℤ) (actor : String)
    (now : Timestamp) : Except RepositoryError (PlaybookDb β × DraftView β) := do
  let head ← findHead db playbookId
  let old ← findRequest db playbookId changeRequestId
  requireOpen old "The change request is no longer open."
  let draft ← findRow db playbookId old.revision
  replaceDraft db head old draft expectedDraftVersion expectedGeneration newId actor now

/-- The row that an edit is written to: a draft of the version, with an open change request. -/
def Editable (playbookId : String) (revision expectedDraftVersion : ℤ) : Prop :=
  (∃ r ∈ db.revisions.get? (playbookId, revision),
      r.status = .draft ∧ r.draftVersion = expectedDraftVersion) ∧
    ∃ c ∈ db.changeRequests.rows, c.playbookId = playbookId ∧ c.revision = revision ∧
      c.status = .isOpen

instance (playbookId : String) (revision expectedDraftVersion : ℤ) :
    Decidable (Editable db playbookId revision expectedDraftVersion) :=
  inferInstanceAs (Decidable (_ ∧ _))

def checkEdit (row : PlaybookRevision β) (document : Definition β) (expectedDraftVersion : ℤ) :
    Except RepositoryError Unit := do
  requireDraft row expectedDraftVersion
  require (SameIdentity document row.document)
    (.invalid "Definition identity and capability are immutable.")

def claimEdit (row : PlaybookRevision β) (expectedDraftVersion : ℤ) :
    Except RepositoryError Unit :=
  require (Editable db row.playbookId row.revision expectedDraftVersion)
    (.conflict "Draft changed; refresh before editing.")

def writeEdit (head : Playbook) (row : PlaybookRevision β) (cr : PlaybookChangeRequest)
    (document : Definition β) (expectedDraftVersion : ℤ) (actor : String) (now : Timestamp) :
    Except RepositoryError (PlaybookDb β × DraftView β) := do
  let edited := PlaybookRevision.edited document (expectedDraftVersion + 1) actor now
  let db := { db with
    revisions := db.revisions.update (row.playbookId, row.revision) edited }
  let view ← requestView db head cr
  return (db, ⟨revisionView (edited row) head.generation, view⟩)

def editDraft (playbookId : String) (revision : ℤ) (document : Definition β)
    (expectedDraftVersion : ℤ) (actor : String) (now : Timestamp) :
    Except RepositoryError (PlaybookDb β × DraftView β) := do
  let head ← findHead db playbookId
  let row ← findRow db playbookId revision
  let cr ← openRequestFor db playbookId revision
  checkEdit row document expectedDraftVersion
  claimEdit db row expectedDraftVersion
  writeEdit db head row cr document expectedDraftVersion actor now

def publishable (playbookId : String) (revision : ℤ) :
    Except RepositoryError ChangeRequestView := do
  let head ← findHead db playbookId
  let _ ← findRow db playbookId revision
  let cr ← openRequestFor db playbookId revision
  currentBase cr head
  requestView db head cr

def publishRow (head : Playbook) (row : PlaybookRevision β) (cr : PlaybookChangeRequest)
    (digest : String) (expectedDraftVersion expectedGeneration : ℤ) (actor : String)
    (now : Timestamp) : Except RepositoryError (PlaybookDb β × DraftView β) := do
  currentBase cr head
  requireDraft row expectedDraftVersion
  let (db, head) ← advanceGeneration db head expectedGeneration
  let db ← publishRevision db row digest actor now
  let db ← finishRequest db cr .published actor now
  let view ← requestView db { head with publishedRevision := some row.revision } (reload db cr)
  return (db, ⟨revisionView (row.publish digest actor now) head.generation, view⟩)

def publishDraft (playbookId : String) (revision : ℤ) (digest : String)
    (expectedDraftVersion expectedGeneration : ℤ) (actor : String) (now : Timestamp) :
    Except RepositoryError (PlaybookDb β × DraftView β) := do
  let head ← findHead db playbookId
  let row ← findRow db playbookId revision
  let cr ← openRequestFor db playbookId revision
  publishRow db head row cr digest expectedDraftVersion expectedGeneration actor now

def PlaybookChangeRequest.revise (title description : Option String) (version : ℤ)
    (c : PlaybookChangeRequest) : PlaybookChangeRequest :=
  { c with
    version, title := title.getD c.title, description := description.getD c.description }

/-- Compares the status and the version, and sets the texts, in one statement. -/
def reviseRequest (head : Playbook) (cr : PlaybookChangeRequest) (expectedVersion : ℤ)
    (title description : Option String) :
    Except RepositoryError (PlaybookDb β × ChangeRequestView) := do
  requireOpen cr "Only open change requests can be edited."
  require (∃ c ∈ db.changeRequests.get? cr.id, c.status = .isOpen ∧ c.version = expectedVersion)
    (.conflict "Change request changed; refresh before editing.")
  let revised := PlaybookChangeRequest.revise title description (expectedVersion + 1)
  let db := { db with changeRequests := db.changeRequests.update cr.id revised }
  let view ← requestView db head (reload db cr)
  return (db, view)

def updateChangeRequest (playbookId : String) (changeRequestId expectedVersion : ℤ)
    (title description : Option String) :
    Except RepositoryError (PlaybookDb β × ChangeRequestView) := do
  let head ← findHead db playbookId
  let cr ← findRequest db playbookId changeRequestId
  reviseRequest db head cr expectedVersion title description

def closeRequest (head : Playbook) (cr : PlaybookChangeRequest) (actor : String)
    (now : Timestamp) : Except RepositoryError (PlaybookDb β × ChangeRequestView) := do
  requireOpen cr "Only open change requests can be closed."
  let db ← finishRequest db cr .closed actor now
  let view ← requestView db head (reload db cr)
  return (db, view)

def closeChangeRequest (playbookId : String) (changeRequestId : ℤ) (actor : String)
    (now : Timestamp) : Except RepositoryError (PlaybookDb β × ChangeRequestView) := do
  let head ← findHead db playbookId
  let cr ← findRequest db playbookId changeRequestId
  closeRequest db head cr actor now

def getRevision (playbookId : String) (revision : ℤ) :
    Except RepositoryError (RevisionView β) := do
  let head ← findHead db playbookId
  let row ← findRow db playbookId revision
  return revisionView row head.generation

def listPlaybooks : List PlaybookEntry :=
  (db.playbooks.rows.mergeSort fun a b => a.id ≤ b.id).map fun head =>
    { head,
      openChangeRequests := db.changeRequests.rows.countP fun c =>
        c.playbookId = head.id ∧ c.status = .isOpen,
      revisions := ((db.revisions.select fun r => r.playbookId = head.id).mergeSort
        fun a b => a.revision ≤ b.revision).map revisionEntry }

def changeRequests (playbookId : String) (status : Option RequestStatus) :
    Except RepositoryError (List ChangeRequestView) := do
  let head ← findHead db playbookId
  let rows := (db.changeRequests.select fun c => c.playbookId = playbookId ∧
    ∀ s ∈ status, c.status = s).mergeSort fun a b => b.id ≤ a.id
  rows.mapM (requestView db head)

def changeRequest (playbookId : String) (changeRequestId : ℤ) :
    Except RepositoryError ChangeRequestView := do
  let head ← findHead db playbookId
  let cr ← findRequest db playbookId changeRequestId
  requestView db head cr

def history (playbookId : String) : Except RepositoryError (List HistoryEntry) := do
  let head ← findHead db playbookId
  let rows := (db.revisions.select fun r => r.playbookId = playbookId ∧
    r.status = .published).mergeSort fun a b => b.revision ≤ a.revision
  return rows.map fun row =>
    { revision := row.revision, digest := row.digest, publishedAt := row.publishedAt,
      publishedBy := row.updatedBy, baseRevision := row.baseRevision,
      current := some row.revision = head.publishedRevision,
      changeRequest := (requestFor db playbookId row.revision).map fun c => (c.id, c.title) }

def lockPublished (playbookId : String) : Except RepositoryError (ℤ × Option String) := do
  let head ← findHead db playbookId
  let revision ← orRaise head.publishedRevision (.notFound "No published playbook revision.")
  let row ← findRow db playbookId revision
  return (row.revision, row.digest)

/-- The row agrees with its playbook and its digest. -/
def SnapshotIdentity (definitionDigest : Definition β → String) (head : Playbook)
    (row : PlaybookRevision β) : Prop :=
  row.document.id = row.playbookId ∧ row.document.revision = row.revision ∧
    row.document.actionType = head.actionType ∧
    row.document.contractVersion = head.contractVersion ∧
    row.document.operation = head.operation ∧ row.digest = some (definitionDigest row.document)

instance (definitionDigest : Definition β → String) (head : Playbook) :
    DecidablePred (SnapshotIdentity definitionDigest head) := fun _ =>
  inferInstanceAs (Decidable (_ ∧ _ ∧ _ ∧ _ ∧ _ ∧ _))

/-- Every published row with its playbook, from one snapshot of the two tables. -/
def publishedRows (order : RowOrder (PlaybookRevision β × Playbook)) :
    List (PlaybookRevision β × Playbook) :=
  order.arrange ((db.revisions.select fun r => r.status = .published).filterMap fun r =>
    (db.playbooks.get? r.playbookId).map fun head => (r, head))

def snapshot (definitionDigest : Definition β → String)
    (order : RowOrder (PlaybookRevision β × Playbook)) :
    Except RepositoryError (CatalogSnapshot β) := do
  let rows := publishedRows db order
  require (∀ head ∈ db.playbooks.rows, ∀ revision ∈ head.publishedRevision,
      (head.id, revision) ∈ rows.map fun x => (x.1.playbookId, x.1.revision))
    (.invalid "Published playbook head is unavailable or invalid.")
  require (∀ x ∈ rows, SnapshotIdentity definitionDigest x.2 x.1)
    (.invalid "Published playbook snapshot identity is invalid.")
  return ⟨rows.map fun x => x.1.document,
    ((rows.filter fun x => some x.1.revision = x.2.publishedRevision).map fun x =>
      (x.1.playbookId, x.1.revision)).toFinset⟩

end

end BankingService
