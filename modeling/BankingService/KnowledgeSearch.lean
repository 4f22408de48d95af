import BankingService.KnowledgeCorpus
import BankingService.Library.Binary64
import BankingService.Library.BoundedDict

/-! The search for credit knowledge. A result of the search service is shown only if it is a stored
section of the shipped snapshot; pages are cached for a while. -/
namespace BankingService.KnowledgeSearch

open Checked KnowledgeCorpus Python

def CACHE_TTL_S : ℚ := 1800

def CACHE_MAX_ENTRIES : ℕ := 256

def MAX_PAGE_SIZE : ℤ := 5

/-- `unavailable` is `KnowledgeUnavailable`. -/
inductive SearchException where
  | unavailable (message : String)
  | keyError
  | typeError
  deriving DecidableEq

structure KnowledgeSnippet where
  citeKey : String
  snapshotId : String
  docId : String
  sectionId : String
  citation : String
  textSpan : String
  deriving DecidableEq

structure SearchHits where
  snippets : List KnowledgeSnippet
  snapshotId : String
  cacheHit : Bool
  deriving DecidableEq

def clamp (pageSize : ℤ) : ℤ := max 1 (min pageSize MAX_PAGE_SIZE)

def snippet (recordId : String) (fields : String → String) : KnowledgeSnippet where
  citeKey := recordId
  snapshotId := fields "snapshot_id"
  docId := fields "doc_id"
  sectionId := fields "section_id"
  citation := formatCitation (fields "short_title") (fields "section_id") (fields "snapshot_id")
  textSpan := fields "text_span"

/-- `value[key]` of a value that JSON has. -/
def item (value : Json) (key : String) : Except SearchException Json :=
  match value with
  | .obj fields => orRaise (lookup fields key) .keyError
  | _ => .error .typeError

/-- `any(hit[f] != stored["structData"][f] for f in fields)`. -/
def differs (hit : String → String) (stored : Json) : List String → Except SearchException Bool
  | [] => return false
  | f :: fields => do
    let struct ← item stored "structData"
    let value ← item struct f
    match value with
    | .str s => if hit f = s then differs hit stored fields else return true
    | _ => return true

def textField (fields : List (String × Json)) (field : String) : Option String :=
  match lookup fields field with
  | some (.str s) => if strip s = "" then none else some s
  | _ => none

section
-- `repr` of what is no string
variable (reprOther : Json → String)

def groundedSnippet (recordId structData : Json) (recordsById : Relational.Dict String Json) :
    Except SearchException KnowledgeSnippet :=
  match structData with
  | .obj fields =>
    let missing := GROUNDED_FIELDS.filter fun f => textField fields f = none
    if missing ≠ [] then
      .error (.unavailable ("knowledge search result lacks grounded fields [" ++
        join ", " (missing.map Python.repr) ++ "]; check the data store schema"))
    else
      let recordId := strOf reprOther (orElse recordId (.str ""))
      let hit := fun f => (textField fields f).getD ""
      let foreign := SearchException.unavailable
        "knowledge search result does not resolve to the shipped snapshot (stale or foreign index)"
      match recordsById.get? recordId with
      | none => .error foreign
      | some stored => do
        let drifted ← differs hit stored GROUNDED_FIELDS
        if drifted then .error foreign else return snippet recordId hit
  | _ => .error (.unavailable "knowledge search returned a malformed result")

structure ServiceDocument where
  id : Json
  structData : Json

structure ServiceResult where
  document : Option ServiceDocument

inductive Answer where
  | failed (errorName : String)
  | results (results : List ServiceResult)

def results (answer : Answer) (size : ℕ) : Except SearchException (List ServiceResult) :=
  match answer with
  | .failed errorName => .error (.unavailable ("knowledge search failed (" ++ errorName ++ ")"))
  | .results results => .ok (results.take size)

def documentId (document : ServiceDocument) : String :=
  strOf reprOther (orElse document.id (.str ""))

def groundedSnippets (recordsById : Relational.Dict String Json) :
    List ServiceResult → List String → Except SearchException (List KnowledgeSnippet)
  | [], _ => return []
  | result :: rest, seen =>
    match result.document with
    | none => .error (.unavailable "knowledge search returned a malformed result")
    | some document =>
      let docId := documentId reprOther document
      if docId ∈ seen then groundedSnippets recordsById rest seen
      else do
        let first ← groundedSnippet reprOther (.str docId) document.structData recordsById
        let others ← groundedSnippets recordsById rest (docId :: seen)
        return first :: others

abbrev Key : Type := String × ℤ × String

structure DiscoveryEngineKnowledge where
  snapshotId : String
  recordsById : Relational.Dict String Json
  cache : Relational.Dict Key (ℚ × List KnowledgeSnippet)

/-- One round of `records_by_id`. Under another key than a text no record is found. -/
def addRecord (records : Relational.Dict String Json) (record : Json) :
    Except SearchException (Relational.Dict String Json) := do
  match ← item record "id" with
  | .str id => return records.set id record
  | .arr _ | .obj _ => .error .typeError
  | _ => return records

/-- `__init__`. -/
def DiscoveryEngineKnowledge.new (corpus : CorpusSnapshot) :
    Except SearchException DiscoveryEngineKnowledge := do
  let snapshotId ← item corpus.manifest "snapshot_id"
  let recordsById ← corpus.records.foldlM addRecord []
  return ⟨strOf reprOther snapshotId, recordsById, []⟩

/-- `_cached`, with the reading of the clock. -/
def cached (s : DiscoveryEngineKnowledge) (key : Key) (now : ℚ) :
    Option (List KnowledgeSnippet) × DiscoveryEngineKnowledge :=
  match s.cache.get? key with
  | none => (none, s)
  | some (storedAt, snippets) =>
    if CACHE_TTL_S ≤ Binary64.round (now - storedAt) then (none, { s with
      cache := s.cache.remove key })
    else (some snippets, s)

/-- `_store`, with the reading of the clock. -/
def store (s : DiscoveryEngineKnowledge) (key : Key) (now : ℚ) (snippets : List KnowledgeSnippet) :
    DiscoveryEngineKnowledge := { s with
  cache := s.cache.push CACHE_MAX_ENTRIES key (now, snippets) }

@[simp] theorem store_snapshotId (s : DiscoveryEngineKnowledge) (key : Key) (now : ℚ)
    (snippets : List KnowledgeSnippet) : (store s key now snippets).snapshotId = s.snapshotId := by
  simp only [store]

@[simp] theorem store_recordsById (s : DiscoveryEngineKnowledge) (key : Key) (now : ℚ)
    (snippets : List KnowledgeSnippet) :
    (store s key now snippets).recordsById = s.recordsById := by
  simp only [store]

@[simp] theorem store_cache (s : DiscoveryEngineKnowledge) (key : Key) (now : ℚ)
    (snippets : List KnowledgeSnippet) :
    (store s key now snippets).cache = s.cache.push CACHE_MAX_ENTRIES key (now, snippets) := by
  simp only [store]

structure Search where
  query : String
  pageSize : ℤ
  answer : Answer
  lookedUpAt : ℚ
  storedAt : ℚ

def keyOf (s : DiscoveryEngineKnowledge) (c : Search) : Key :=
  (strip c.query, clamp c.pageSize, s.snapshotId)

def page (s : DiscoveryEngineKnowledge) (c : Search) :
    Except SearchException (List KnowledgeSnippet) := do
  let found ← results c.answer (clamp c.pageSize).toNat
  groundedSnippets reprOther s.recordsById found []

def search (s : DiscoveryEngineKnowledge) (c : Search) :
    Except SearchException SearchHits × DiscoveryEngineKnowledge :=
  match cached s (keyOf s c) c.lookedUpAt with
  | (some snippets, s) => (.ok ⟨snippets, s.snapshotId, true⟩, s)
  | (none, s) =>
    match page reprOther s c with
    | .error e => (.error e, s)
    | .ok snippets => (.ok ⟨snippets, s.snapshotId, false⟩, store s (keyOf s c) c.storedAt snippets)

end

end BankingService.KnowledgeSearch
