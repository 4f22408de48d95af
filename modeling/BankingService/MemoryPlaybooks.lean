import BankingService.Library.Dict
import BankingService.Library.Mirror
import BankingService.Playbooks

/-! The in-memory repository: three dictionaries, written in place. What a call wrote before it
raised stays written. -/
namespace BankingService

open Python Relational Mirror

structure MemoryPlaybooks (β : Type) where
  heads : Dict String Playbook
  revisions : Dict (String × ℤ) (PlaybookRevision β)
  requests : Dict ℤ PlaybookChangeRequest

abbrev MemoryCall (β α : Type) := EStateM RepositoryError (MemoryPlaybooks β) α

namespace MemoryPlaybookRepository

variable {β : Type}

def head (playbookId : String) : MemoryCall β Playbook := do
  let m ← get
  found (m.heads.get? playbookId) .playbookNotFound

def getRevision (playbookId : String) (revision : ℤ) : MemoryCall β (RevisionView β) := do
  let head ← head playbookId
  let m ← get
  let row ← found (m.revisions.get? (playbookId, revision)) .revisionNotFound
  return revisionView row head.generation

def publishedRevisions (m : MemoryPlaybooks β) (playbookId : String) : List ℤ :=
  (m.revisions.filter fun x => x.1.1 = playbookId ∧ x.2.status = .published).map fun x => x.1.2

def requestView (cr : PlaybookChangeRequest) : MemoryCall β ChangeRequestView := do
  let head ← head cr.playbookId
  let draft ← getRevision cr.playbookId cr.revision
  let m ← get
  return changeRequestView cr draft head.publishedRevision (publishedRevisions m cr.playbookId)

def request (playbookId : String) (changeRequestId : ℤ) :
    MemoryCall β PlaybookChangeRequest := do
  let m ← get
  found ((m.requests.get? changeRequestId).filter fun c => c.playbookId = playbookId)
    .changeRequestNotFound

def openRequestFor (playbookId : String) (revision : ℤ) :
    MemoryCall β PlaybookChangeRequest := do
  let m ← get
  let cr := m.requests.values.find? fun c => c.playbookId = playbookId ∧ c.revision = revision
  found (cr.filter fun c => c.status = .isOpen) .noOpenRequest

def draft (document : Definition β) (actor : String) (now : Timestamp)
    (baseRevision : Option ℤ) : MemoryCall β (PlaybookRevision β) := do
  let row := newDraft document document.id document.revision baseRevision actor now
  modify fun m => { m with revisions := m.revisions.set (row.playbookId, row.revision) row }
  return row

def openDraft (row : PlaybookRevision β) (origin : RequestOrigin) (previousBase : Option ℤ)
    (title description actor : String) (now : Timestamp) : MemoryCall β (DraftView β) := do
  let m ← get
  let c := newRequest (m.requests.length + 1) row origin previousBase title description actor now
  set { m with requests := m.requests.set c.id c }
  let view ← getRevision row.playbookId row.revision
  let request ← requestView c
  return ⟨view, request⟩

def finish (changeRequestId : ℤ) (status : RequestStatus) (actor : String) (now : Timestamp) :
    MemoryCall β PlaybookChangeRequest := do
  let m ← get
  let cr ← found (m.requests.get? changeRequestId) .changeRequestNotFound
  raiseUnless (cr.status = .isOpen) .noLongerOpen
  let cr := cr.finish status actor now
  set { m with requests := m.requests.set changeRequestId cr }
  return cr

/-- The next revision; a dictionary without revisions of the playbook has no maximum. -/
def allocate (head : Playbook) (source : Definition β) (actor : String) (now : Timestamp) :
    MemoryCall β (PlaybookRevision β) := do
  let m ← get
  let revisions := (m.revisions.filter fun x => x.1.1 = head.id).map fun x => x.1.2
  let latest ← found revisions.max? (.database (.valueError "max() arg is an empty sequence"))
  draft { source with revision := latest + 1 } actor now head.publishedRevision

def generation (head : Playbook) (expected : ℤ) : MemoryCall β Unit := do
  raiseUnless (head.generation = expected) .playbookChanged
  modify fun m => { m with
    heads := m.heads.set head.id { head with generation := head.generation + 1 } }

def editable (playbookId : String) (revision expected : ℤ) :
    MemoryCall β (PlaybookRevision β) := do
  let _ ← getRevision playbookId revision
  let m ← get
  let row ← found (m.revisions.get? (playbookId, revision)) .revisionNotFound
  raiseUnless (row.status = .draft ∧ row.draftVersion = expected) .draftChanged
  return row

def currentBase (cr : PlaybookChangeRequest) : MemoryCall β Unit := do
  let m ← get
  let head ← found (m.heads.get? cr.playbookId) (.database .keyError)
  raiseUnless (cr.baseRevision = head.publishedRevision)
    (.behindHead (behindMessage cr.baseRevision head.publishedRevision))

def create (document : Definition β) (actor : String) (now : Timestamp) (title : Option String)
    (description : String) : MemoryCall β (DraftView β) := do
  let m ← get
  raiseUnless (¬ ((m.heads.get? document.id).isSome ∨
      ∃ h ∈ m.heads.values, h.actionType = document.actionType))
    (.conflict "Playbook id or action type already exists.")
  let head : Playbook :=
    { id := document.id, actionType := document.actionType,
      contractVersion := document.contractVersion, operation := document.operation,
      publishedRevision := none, generation := 1 }
  set { m with heads := m.heads.set document.id head }
  let row ← draft document actor now none
  openDraft row .create none (titleOr title (defaultTitle .create document.id 0)) description actor
    now

def createDraft (playbookId : String) (sourceRevision expectedGeneration : ℤ) (actor : String)
    (now : Timestamp) (title : Option String) (description : String) :
    MemoryCall β (DraftView β) := do
  let head ← head playbookId
  let source ← getRevision playbookId sourceRevision
  raiseUnless (∀ published ∈ head.publishedRevision, published = sourceRevision)
    (.conflict ("New change requests start from the published revision; " ++
      "restore historical revisions explicitly."))
  generation head expectedGeneration
  let row ← allocate head source.document actor now
  openDraft row .draft none (titleOr title (defaultTitle .draft playbookId 0)) description actor now

def restore (playbookId : String) (sourceRevision expectedGeneration : ℤ) (actor : String)
    (now : Timestamp) (title : Option String) (description : String) :
    MemoryCall β (DraftView β) := do
  let head ← head playbookId
  let source ← getRevision playbookId sourceRevision
  raiseUnless (source.status = .published) (.conflict "Only published revisions can be restored.")
  generation head expectedGeneration
  let row ← allocate head source.document actor now
  openDraft row .restore (some sourceRevision)
    (titleOr title (defaultTitle .restore playbookId sourceRevision)) description actor now

def recreateFromHead (playbookId : String)
    (changeRequestId expectedDraftVersion expectedGeneration : ℤ) (actor : String)
    (now : Timestamp) : MemoryCall β (DraftView β) := do
  let head ← head playbookId
  let old ← request playbookId changeRequestId
  raiseUnless (old.status = .isOpen)
    (.changeRequestNotOpen "The change request is no longer open.")
  let draft ← editable playbookId old.revision expectedDraftVersion
  raiseUnless (old.baseRevision ≠ head.publishedRevision) .notBehindHead
  generation head expectedGeneration
  let row ← allocate head draft.document actor now
  let view ← openDraft row .recreate old.baseRevision old.title old.description actor now
  let _ ← finish old.id .closed actor now
  return view

def edit (playbookId : String) (revision : ℤ) (document : Definition β)
    (expectedDraftVersion : ℤ) (actor : String) (now : Timestamp) :
    MemoryCall β (DraftView β) := do
  let _ ← getRevision playbookId revision
  let cr ← openRequestFor playbookId revision
  let row ← editable playbookId revision expectedDraftVersion
  raiseUnless (SameIdentity document row.document)
    (.invalid "Definition identity and capability are immutable.")
  let row := row.edited document (expectedDraftVersion + 1) actor now
  modify fun m => { m with revisions := m.revisions.set (playbookId, revision) row }
  let view ← getRevision playbookId revision
  let request ← requestView cr
  return ⟨view, request⟩

def publishable (playbookId : String) (revision : ℤ) : MemoryCall β ChangeRequestView := do
  let _ ← getRevision playbookId revision
  let cr ← openRequestFor playbookId revision
  currentBase cr
  requestView cr

def publishRow (row : PlaybookRevision β) (head : Playbook) (digest actor : String)
    (now : Timestamp) (m : MemoryPlaybooks β) : MemoryPlaybooks β :=
  { m with
    revisions := m.revisions.set (row.playbookId, row.revision) (row.publish digest actor now)
    heads := m.heads.set head.id { head with publishedRevision := some row.revision } }

def publish (playbookId : String) (revision : ℤ) (digest : String)
    (expectedDraftVersion expectedGeneration : ℤ) (actor : String) (now : Timestamp) :
    MemoryCall β (DraftView β) := do
  let _ ← getRevision playbookId revision
  let cr ← openRequestFor playbookId revision
  currentBase cr
  let row ← editable playbookId revision expectedDraftVersion
  generation (← head playbookId) expectedGeneration
  let stored ← head playbookId
  modify (publishRow row stored digest actor now)
  let cr ← finish cr.id .published actor now
  let view ← getRevision playbookId revision
  let request ← requestView cr
  return ⟨view, request⟩

def updateChangeRequest (playbookId : String) (changeRequestId expectedVersion : ℤ)
    (title description : Option String) : MemoryCall β ChangeRequestView := do
  let _ ← head playbookId
  let cr ← request playbookId changeRequestId
  raiseUnless (cr.status = .isOpen)
    (.changeRequestNotOpen "Only open change requests can be edited.")
  raiseUnless (cr.version = expectedVersion)
    (.conflict "Change request changed; refresh before editing.")
  let cr := cr.revise title description (cr.version + 1)
  modify fun m => { m with requests := m.requests.set changeRequestId cr }
  requestView cr

def closeChangeRequest (playbookId : String) (changeRequestId : ℤ) (actor : String)
    (now : Timestamp) : MemoryCall β ChangeRequestView := do
  let _ ← head playbookId
  let cr ← request playbookId changeRequestId
  raiseUnless (cr.status = .isOpen)
    (.changeRequestNotOpen "Only open change requests can be closed.")
  let cr ← finish cr.id .closed actor now
  requestView cr

def viewEntry (v : RevisionView β) : RevisionEntry :=
  { revision := v.revision, status := v.status, digest := v.digest, draftVersion := v.draftVersion,
    baseRevision := v.baseRevision, updatedAt := v.updatedAt }

/-- Keys in the order of tuples. -/
def keyOrder (a b : String × ℤ) : Bool := a.1 < b.1 ∨ (a.1 = b.1 ∧ a.2 ≤ b.2)

def listPlaybooks : MemoryCall β (List PlaybookEntry) := do
  let m ← get
  (m.heads.mergeSort fun a b => a.1 ≤ b.1).mapM fun x => do
    let keys := ((m.revisions.map Prod.fst).mergeSort keyOrder).filter fun k => k.1 = x.1
    let revisions ← keys.mapM fun k => getRevision x.1 k.2
    return {
      head := x.2,
      openChangeRequests := m.requests.values.countP fun c =>
        c.playbookId = x.1 ∧ c.status = .isOpen,
      revisions := revisions.map viewEntry }

def changeRequests (playbookId : String) (status : Option RequestStatus) :
    MemoryCall β (List ChangeRequestView) := do
  let _ ← head playbookId
  let m ← get
  ((m.requests.values.mergeSort fun a b => b.id ≤ a.id).filter fun c =>
    c.playbookId = playbookId ∧ ∀ s ∈ status, c.status = s).mapM requestView

def changeRequest (playbookId : String) (changeRequestId : ℤ) :
    MemoryCall β ChangeRequestView := do
  let _ ← head playbookId
  let cr ← request playbookId changeRequestId
  requestView cr

def titleOf (m : MemoryPlaybooks β) (playbookId : String) (revision : ℤ) : Option (ℤ × String) :=
  ((m.requests.values.filter fun c => c.playbookId = playbookId).reverse.find?
    fun c => c.revision = revision).map fun c => (c.id, c.title)

def history (playbookId : String) : MemoryCall β (List HistoryEntry) := do
  let head ← head playbookId
  let m ← get
  let rows := ((m.revisions.filter fun x => x.1.1 = playbookId ∧ x.2.status = .published).map
    Prod.snd).mergeSort fun a b => b.revision ≤ a.revision
  return rows.map fun row =>
    { revision := row.revision, digest := row.digest, publishedAt := row.publishedAt,
      publishedBy := row.updatedBy, baseRevision := row.baseRevision,
      current := some row.revision = head.publishedRevision,
      changeRequest := titleOf m playbookId row.revision }

def lockPublished (playbookId : String) : MemoryCall β (ℤ × Option String) := do
  let head ← head playbookId
  let revision ← found head.publishedRevision (.notFound "No published playbook revision.")
  let row ← getRevision playbookId revision
  return (revision, row.digest)

def snapshot : MemoryCall β (CatalogSnapshot β) := do
  let m ← get
  let rows := m.revisions.values.filter fun r => r.status = .published
  let current ← rows.filterM fun r => do
    let head ← found (m.heads.get? r.playbookId) (.database .keyError)
    return head.publishedRevision = some r.revision
  return ⟨rows.map fun r => r.document,
    (current.map fun r => (r.playbookId, r.revision)).toFinset⟩

end MemoryPlaybookRepository

end BankingService
