import BankingService.MemoryPlaybooks

/-! The calls of a playbook repository, and how each of the two answers them. -/
namespace BankingService

open Python Relational

variable {β : Type}

inductive RepositoryCall (β : Type) where
  | create (document : Definition β) (actor : String) (now : Timestamp) (title : Option String)
      (description : String)
  | createDraft (playbookId : String) (sourceRevision expectedGeneration : ℤ) (actor : String)
      (now : Timestamp) (title : Option String) (description : String)
  | restore (playbookId : String) (sourceRevision expectedGeneration : ℤ) (actor : String)
      (now : Timestamp) (title : Option String) (description : String)
  | recreateFromHead (playbookId : String)
      (changeRequestId expectedDraftVersion expectedGeneration : ℤ) (actor : String)
      (now : Timestamp)
  | edit (playbookId : String) (revision : ℤ) (document : Definition β)
      (expectedDraftVersion : ℤ) (actor : String) (now : Timestamp)
  | publish (playbookId : String) (revision : ℤ) (digest : String)
      (expectedDraftVersion expectedGeneration : ℤ) (actor : String) (now : Timestamp)
  | updateChangeRequest (playbookId : String) (changeRequestId expectedVersion : ℤ)
      (title description : Option String)
  | closeChangeRequest (playbookId : String) (changeRequestId : ℤ) (actor : String)
      (now : Timestamp)
  | publishable (playbookId : String) (revision : ℤ)
  | list
  | get (playbookId : String) (revision : ℤ)
  | head (playbookId : String)
  | snapshot
  | history (playbookId : String)
  | changeRequest (playbookId : String) (changeRequestId : ℤ)
  | changeRequests (playbookId : String) (status : Option RequestStatus)
  | lockPublished (playbookId : String)

inductive RepositoryReply (β : Type) where
  | draft (view : DraftView β)
  | request (view : ChangeRequestView)
  | requests (views : List ChangeRequestView)
  | playbooks (entries : List PlaybookEntry)
  | revision (view : RevisionView β)
  | head (head : Playbook)
  | catalog (snapshot : CatalogSnapshot β)
  | history (entries : List HistoryEntry)
  | published (revision : ℤ × Option String)
  deriving DecidableEq

def RepositoryCall.Opens : RepositoryCall β → Prop
  | .create .. | .createDraft .. | .restore .. | .recreateFromHead .. => True
  | _ => False

instance : DecidablePred (RepositoryCall.Opens (β := β))
  | .create .. | .createDraft .. | .restore .. | .recreateFromHead .. => isTrue trivial
  | .edit .. | .publish .. | .updateChangeRequest .. | .closeChangeRequest .. | .publishable ..
  | .list | .get .. | .head .. | .snapshot | .history .. | .changeRequest ..
  | .changeRequests .. | .lockPublished .. => isFalse id

namespace SqlPlaybookRepository

def call (digest : Definition β → String) (order : RowOrder (PlaybookRevision β × Playbook))
    (db : PlaybookDb β) (newId : ℤ) :
    RepositoryCall β → Except RepositoryError (PlaybookDb β × RepositoryReply β)
  | .create document actor now title description =>
    writes .draft (createPlaybook db document newId actor now title description)
  | .createDraft p source generation actor now title description =>
    writes .draft (createDraft db p source generation newId actor now title
      description)
  | .restore p source generation actor now title description =>
    writes .draft (restoreRevision db p source generation newId actor now title description)
  | .recreateFromHead p id version generation actor now =>
    writes .draft (recreateFromHead db p id version generation newId actor now)
  | .edit p revision document version actor now =>
    writes .draft (editDraft db p revision document version actor now)
  | .publish p revision signature version generation actor now =>
    writes .draft (publishDraft db p revision signature version generation actor now)
  | .updateChangeRequest p id version title description =>
    writes .request (updateChangeRequest db p id version title description)
  | .closeChangeRequest p id actor now =>
    writes .request (closeChangeRequest db p id actor now)
  | .publishable p revision => reads .request (publishable db p revision)
  | .list => reads .playbooks (.ok (listPlaybooks db))
  | .get p revision => reads .revision (getRevision db p revision)
  | .head p => reads .head (findHead db p)
  | .snapshot => reads .catalog (snapshot db digest order)
  | .history p => reads .history (history db p)
  | .changeRequest p id => reads .request (changeRequest db p id)
  | .changeRequests p status => reads .requests (changeRequests db p status)
  | .lockPublished p => reads .published (lockPublished db p)
where
  writes {α : Type} (reply : α → RepositoryReply β)
    (x : Except RepositoryError (PlaybookDb β × α)) :
      Except RepositoryError (PlaybookDb β × RepositoryReply β) :=
    x.map fun r => (r.1, reply r.2)
  reads {α : Type} (reply : α → RepositoryReply β) (x : Except RepositoryError α) :
      Except RepositoryError (PlaybookDb β × RepositoryReply β) :=
    x.map fun a => (db, reply a)

end SqlPlaybookRepository

namespace MemoryPlaybookRepository

def call : RepositoryCall β → MemoryCall β (RepositoryReply β)
  | .create document actor now title description =>
    .draft <$> create document actor now title description
  | .createDraft p source generation actor now title description =>
    .draft <$> createDraft p source generation actor now title description
  | .restore p source generation actor now title description =>
    .draft <$> restore p source generation actor now title description
  | .recreateFromHead p id version generation actor now =>
    .draft <$> recreateFromHead p id version generation actor now
  | .edit p revision document version actor now =>
    .draft <$> edit p revision document version actor now
  | .publish p revision signature version generation actor now =>
    .draft <$> publish p revision signature version generation actor now
  | .updateChangeRequest p id version title description =>
    .request <$> updateChangeRequest p id version title description
  | .closeChangeRequest p id actor now => .request <$> closeChangeRequest p id actor now
  | .publishable p revision => .request <$> publishable p revision
  | .list => .playbooks <$> listPlaybooks
  | .get p revision => .revision <$> getRevision p revision
  | .head p => .head <$> head p
  | .snapshot => .catalog <$> snapshot
  | .history p => .history <$> history p
  | .changeRequest p id => .request <$> changeRequest p id
  | .changeRequests p status => .requests <$> changeRequests p status
  | .lockPublished p => .published <$> lockPublished p

end MemoryPlaybookRepository

end BankingService
