import BankingService.Library.Checked
import BankingService.Library.IsoTime
import BankingService.Library.Json
import BankingService.Python
import Mathlib.Algebra.Ring.Int.Defs

/-! The streaming pipeline behind the relay: an envelope is parsed into one audit row, or one
evidence row, and a ledger row for each entry of a financial event. What does not parse goes to the
dead-letter topic. -/
namespace AuditIcebergPipeline

open Checked IsoTime

/-- What `parseMessage` throws. -/
inductive PipelineError where
  | illegalArgument (message : String)
  | jsonProcessing
  | dateTimeParse
  | arithmetic
  deriving DecidableEq

structure Mapper where
  readTree : String → Option Json
  writeValueAsString : Json → String

/-- It reads JSON texts to the values that they denote, and does not read the texts of numbers that
are not finite. -/
structure Mapper.Strict (mapper : Mapper) : Prop where
  reads : ∀ s j, Json.parse s = some j → mapper.readTree s = some j
  refuses : ∀ j : Json, j.finite = false → mapper.readTree j.dumps = none

structure PubsubMessage where
  payload : String
  attributes : List (String × String)
  messageId : Option String

structure AuditRow where
  eventId : String
  eventType : String
  schemaVersion : ℤ
  payload : String
  sourceCreatedAt : ℤ
  publishedAt : ℤ
  ingestedAt : ℤ
  transportMessageId : Option String
  transportAttributes : String
  deriving DecidableEq

structure LedgerRow where
  entryId : String
  eventId : String
  transactionId : String
  accountId : String
  direction : String
  amountCents : ℤ
  currency : String
  sourceType : String
  sourceReferences : Option String
  postedAt : ℤ
  sourceCreatedAt : ℤ
  publishedAt : ℤ
  ingestedAt : ℤ
  deriving DecidableEq

structure ParsedMessage where
  audit : AuditRow
  ledgerEntries : List LedgerRow
  evidence : Bool

/-- `Character.isWhitespace`. -/
def isWhitespace (c : Char) : Bool :=
  let n := c.toNat
  (9 ≤ n && n ≤ 13) || (28 ≤ n && n ≤ 32) || n == 0x1680 || (0x2000 ≤ n && n ≤ 0x2006) ||
    (0x2008 ≤ n && n ≤ 0x200a) || n == 0x2028 || n == 0x2029 || n == 0x205f || n == 0x3000

def isBlank (s : String) : Bool := s.toList.all isWhitespace

theorem isBlank_cons {c : Char} {l : List Char} (h : isWhitespace c = false) :
    isBlank (String.ofList (c :: l)) = false := by
  simp [isBlank, h]

theorem isBlank_dumps (fields : List (String × Json)) :
    isBlank (Json.dumps (.obj fields)) = false := by
  rw [Json.dumps, Json.sorted, Json.text]
  exact isBlank_cons (by decide)

def requiredText (node : Json) (field : String) : Except PipelineError String :=
  match node.get field with
  | some (.str s) =>
    if isBlank s then .error (.illegalArgument ("missing string field: " ++ field)) else .ok s
  | _ => .error (.illegalArgument ("missing string field: " ++ field))

def CanConvertToLong (n : ℤ) : Prop := -2 ^ 63 ≤ n ∧ n < 2 ^ 63

instance (n : ℤ) : Decidable (CanConvertToLong n) := inferInstanceAs (Decidable (_ ∧ _))

def requiredLong (node : Json) (field : String) : Except PipelineError ℤ :=
  match node.get field with
  | some (.int n) =>
    if CanConvertToLong n then .ok n
    else .error (.illegalArgument ("missing integer field: " ++ field))
  | _ => .error (.illegalArgument ("missing integer field: " ++ field))

section
variable {fields : List (String × Json)} {name : String}

theorem get_document {x : Json} (distinct : (fields.map Prod.fst).Nodup)
    (h : (name, x) ∈ fields) : (Json.obj fields).sorted.get name = some x.sorted := by
  rw [Json.get_sorted distinct, (Json.get_eq_some distinct).mpr h]
  rfl

theorem requiredText_document {s : String} (distinct : (fields.map Prod.fst).Nodup)
    (h : (name, .str s) ∈ fields) (visible : isBlank s = false) :
    requiredText (Json.obj fields).sorted name = .ok s := by
  rw [requiredText, get_document distinct h]
  simp [Json.sorted, visible]

theorem requiredLong_document {n : ℤ} (distinct : (fields.map Prod.fst).Nodup)
    (h : (name, .int n) ∈ fields) (bounded : CanConvertToLong n) :
    requiredLong (Json.obj fields).sorted name = .ok n := by
  rw [requiredLong, get_document distinct h]
  simp [Json.sorted, bounded]

end

def parseTimestamp (value : String) : Except PipelineError ℤ := do
  let time ← orRaise (OffsetDateTime.parse value) .dateTimeParse
  return time.epochMilli

/-- `Math.addExact`. -/
def addExact (a b : ℤ) : Except PipelineError ℤ := do
  require (CanConvertToLong (a + b)) .arithmetic
  return a + b

structure EventHeader where
  eventId : String
  schemaVersion : ℤ
  transactionId : String
  currency : String
  sourceType : String
  sourceReferences : Option String
  postedAt : ℤ
  sourceCreatedAt : ℤ
  publishedAt : ℤ
  ingestedAt : ℤ

structure Totals where
  debits : ℤ
  credits : ℤ
  entryIds : List String
  ledger : List LedgerRow

def upperCase (s : String) : String := Python.upper s

def isCurrency (s : String) : Bool :=
  s.toList.length == 3 && s.toList.all fun c => 'A' ≤ c && c ≤ 'Z'

def supportedCurrencies : List String := ["USD", "MXN", "JPY", "BHD"]

def Totals.add (totals : Totals) (direction : String) (amount : ℤ) :
    Except PipelineError (ℤ × ℤ) :=
  if direction = "DEBIT" then do
    let debits ← addExact totals.debits amount
    return (debits, totals.credits)
  else do
    let credits ← addExact totals.credits amount
    return (totals.debits, credits)

def parseEntry (header : EventHeader) (totals : Totals) (entry : Json) :
    Except PipelineError Totals := do
  let entryId ← requiredText entry "entry_id"
  require (entryId ∉ totals.entryIds) (.illegalArgument "duplicate financial entry_id")
  let direction ← requiredText entry "direction"
  let direction := upperCase direction
  let money := if header.schemaVersion = 1 then entry else (entry.get "money").getD .null
  let amount ← requiredLong money
    (if header.schemaVersion = 1 then "amount_cents" else "amount_minor")
  if header.schemaVersion = 2 then do
    let currency ← requiredText money "currency_code"
    require (header.currency = currency ∧ amount ≤ 9007199254740991)
      (.illegalArgument "entry Money currency mismatch or unsafe amount")
  require (0 < amount ∧ (direction = "DEBIT" ∨ direction = "CREDIT"))
    (.illegalArgument "invalid financial entry amount or direction")
  let (debits, credits) ← totals.add direction amount
  let accountId ← requiredText entry "account_id"
  let row : LedgerRow :=
    { entryId, eventId := header.eventId, transactionId := header.transactionId, accountId,
      direction, amountCents := amount, currency := header.currency,
      sourceType := header.sourceType, sourceReferences := header.sourceReferences,
      postedAt := header.postedAt, sourceCreatedAt := header.sourceCreatedAt,
      publishedAt := header.publishedAt, ingestedAt := header.ingestedAt }
  return ⟨debits, credits, entryId :: totals.entryIds, totals.ledger ++ [row]⟩

/-- The loop over the entries, which has to end balanced. -/
def fanOut (header : EventHeader) (entries : Option Json) :
    Except PipelineError (List LedgerRow) :=
  match entries with
  | some (.arr (entry :: entries)) => do
    let totals ← (entry :: entries).foldlM (parseEntry header) ⟨0, 0, [], []⟩
    require (totals.debits = totals.credits)
      (.illegalArgument ("unbalanced financial event debits=" ++ toString totals.debits ++
        " credits=" ++ toString totals.credits))
    return totals.ledger
  | _ => .error (.illegalArgument "financial event requires entries")

def checkVersion (financial : Json) (schemaVersion : ℤ) : Except PipelineError Unit := do
  require (schemaVersion = 1 ∨ schemaVersion = 2)
    (.illegalArgument "unsupported financial schema version")
  if schemaVersion = 2 ∨ (financial.get "schema_version").isSome then do
    let payloadVersion ← requiredLong financial "schema_version"
    require (payloadVersion = schemaVersion)
      (.illegalArgument "financial schema version differs from envelope")

def readCurrency (financial : Json) (schemaVersion : ℤ) : Except PipelineError String := do
  let currency ← requiredText financial (if schemaVersion = 1 then "currency" else "currency_code")
  require (isCurrency currency ∧ (schemaVersion = 2 → currency ∈ supportedCurrencies))
    (.illegalArgument "unsupported or malformed currency")
  return currency

section
variable (mapper : Mapper) (sha256 : String → String)

def parseFinancial (eventId : String) (schemaVersion : ℤ) (payload : String)
    (sourceCreatedAt publishedAt ingestedAt : ℤ) : Except PipelineError (List LedgerRow) := do
  let financial ← orRaise (mapper.readTree payload) .jsonProcessing
  let payloadEventId ← requiredText financial "event_id"
  require (eventId = payloadEventId)
    (.illegalArgument "financial payload event_id differs from envelope")
  let transactionId ← requiredText financial "transaction_id"
  checkVersion financial schemaVersion
  let currency ← readCurrency financial schemaVersion
  let sourceType ← requiredText financial "source_type"
  let postedAt ← requiredText financial "posted_at"
  let postedAt ← parseTimestamp postedAt
  let sourceReferences := (financial.get "source_references").map mapper.writeValueAsString
  fanOut
    { eventId, schemaVersion, transactionId, currency, sourceType, sourceReferences, postedAt,
      sourceCreatedAt, publishedAt, ingestedAt }
    (financial.get "entries")

def isObject : Json → Bool
  | .obj _ => true
  | _ => false

/-- The checks of an evidence artifact; the digest is that of the exact text of the snapshot. -/
def checkEvidence (eventId : String) (schemaVersion : ℤ) (payload : String) :
    Except PipelineError Unit := do
  let artifact ← orRaise (mapper.readTree payload) .jsonProcessing
  require (schemaVersion = 1) (.illegalArgument "invalid proposal evidence contract")
  let contract ← requiredText artifact "evidence_contract"
  require (contract = "proposal-evidence.v1")
    (.illegalArgument "invalid proposal evidence contract")
  let artifactId ← requiredText artifact "artifact_id"
  require (eventId = artifactId) (.illegalArgument "invalid proposal evidence contract")
  let _ ← requiredText artifact "audit_event_id"
  let snapshot ← requiredText artifact "snapshot_json"
  let document ← orRaise (mapper.readTree snapshot) .jsonProcessing
  require (isObject document) (.illegalArgument "evidence snapshot must be an object")
  let digest ← requiredText artifact "snapshot_digest"
  require (sha256 snapshot = digest) (.illegalArgument "proposal evidence digest mismatch")

def attributesText (message : PubsubMessage) : String :=
  mapper.writeValueAsString (.obj (message.attributes.map fun x => (x.1, .str x.2)))

def parseMessage (message : PubsubMessage) (ingestedAt : ℤ) :
    Except PipelineError ParsedMessage := do
  let envelope ← orRaise (mapper.readTree message.payload) .jsonProcessing
  let eventId ← requiredText envelope "event_id"
  let eventType ← requiredText envelope "event_type"
  let schemaVersion ← requiredLong envelope "schema_version"
  require (1 ≤ schemaVersion) (.illegalArgument "schema_version must be positive")
  let payload ← requiredText envelope "payload"
  let createdAt ← requiredText envelope "created_at"
  let sourceCreatedAt ← parseTimestamp createdAt
  let published ← requiredText envelope "published_at"
  let publishedAt ← parseTimestamp published
  if eventType = "PROPOSAL_EVIDENCE_SNAPSHOT" then
    checkEvidence mapper sha256 eventId schemaVersion payload
  let ledger ←
    if eventType = "FINANCIAL_TRANSACTION_POSTED" then
      parseFinancial mapper eventId schemaVersion payload sourceCreatedAt publishedAt ingestedAt
    else pure []
  return {
    audit :=
      { eventId, eventType, schemaVersion, payload, sourceCreatedAt, publishedAt, ingestedAt,
        transportMessageId := message.messageId,
        transportAttributes := attributesText mapper message }
    ledgerEntries := ledger
    evidence := eventType == "PROPOSAL_EVIDENCE_SNAPSHOT" }

end

end AuditIcebergPipeline
