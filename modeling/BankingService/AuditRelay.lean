import BankingService.FinancialJournal
import BankingService.AuditPipeline

/-! The outbox as it is stored: payloads are JSON texts. The relay wraps a row into an envelope, a
JSON text again. -/
namespace BankingService

open Python Relational Checked IsoTime

/-- A row of `audit.audit_outbox`. The time columns have no zone. -/
structure StoredEvent where
  eventId : String
  eventType : String
  schemaVersion : ℕ
  payload : String
  createdAt : LocalDateTime
  deriving DecidableEq

/-- `record_audit_event`, with the payload's text. -/
def recordedEvent (eventType : String) (payload : Json) (eventId : String) (schemaVersion : ℕ)
    (createdAt : LocalDateTime) : StoredEvent :=
  ⟨eventId, eventType, schemaVersion, payload.dumps, createdAt⟩

def EventEntry.fields (e : EventEntry) : List (String × Json) :=
  [("entry_id", .str e.entryId.str), ("account_id", .str e.accountId.str),
    ("direction", .str e.direction.text), ("money", .obj e.money.modelDump)]

/-- The payload of a financial event. The tables keep an instant; the event is written with the
time that was passed, in its zone. -/
def FinancialEvent.fields (e : FinancialEvent) (timestamp : AwareDateTime) : List (String × Json) :=
  [("event_id", .str e.eventId), ("schema_version", .int e.schemaVersion),
    ("transaction_id", .str e.transactionId.str), ("event_time", .str timestamp.isoformat),
    ("posted_at", .str timestamp.isoformat), ("currency_code", .str e.currencyCode.text),
    ("source_type", .str e.sourceType), ("source_references", .obj e.sourceReferences),
    ("description", .str e.description), ("entries", .arr (e.entries.map fun x => .obj x.fields))]

def AuditOutbox.stored (row : AuditOutbox) (postedAt : AwareDateTime) (createdAt : LocalDateTime) :
    Option StoredEvent :=
  match row.payload with
  | .financial e =>
    some (recordedEvent row.eventType (.obj (e.fields postedAt)) row.eventId row.schemaVersion
      createdAt)
  | .object _ => none

namespace ProposalEvidence

def CONTRACT : String := "proposal-evidence.v1"
def EVENT_TYPE : String := "PROPOSAL_EVIDENCE_SNAPSHOT"

def artifactIdFor (uuid5 : String → Uuid) (auditEventId : Uuid) : Uuid :=
  uuid5 (CONTRACT ++ ":" ++ auditEventId.str)

/-- `json.dumps(…, allow_nan=False)`. -/
def dumpsFinite (j : Json) : Except PyException String := do
  require (j.finite = true) (.valueError "Out of range float values are not JSON compliant")
  return j.dumps

def archive (uuid5 : String → Uuid) (sha256 : String → String) (auditEventId : Uuid)
    (snapshot : List (String × Json)) (createdAt : LocalDateTime) :
    Except PyException StoredEvent := do
  let artifactId := artifactIdFor uuid5 auditEventId
  let snapshotJson ← dumpsFinite (.obj snapshot)
  let digest := sha256 snapshotJson
  return recordedEvent EVENT_TYPE
    (.obj [("evidence_contract", .str CONTRACT), ("artifact_id", .str artifactId.str),
      ("audit_event_id", .str auditEventId.str), ("snapshot_digest", .str digest),
      ("snapshot_json", .str snapshotJson)])
    artifactId.str 1 createdAt

end ProposalEvidence

def utc (d : LocalDateTime) : AwareDateTime := ⟨d, 0, by decide⟩

/-- `_utc_iso` of a column without a zone. -/
def utcIso (d : LocalDateTime) : String := (utc d).isoformat

/-- The envelope of a row that is published at `now`. -/
def relayMessage (row : StoredEvent) (now : LocalDateTime) : String :=
  Json.dumps (.obj [("event_id", .str row.eventId), ("event_type", .str row.eventType),
    ("schema_version", .int (if row.schemaVersion = 0 then 1 else row.schemaVersion)),
    ("payload", .str row.payload), ("created_at", .str (utcIso row.createdAt)),
    ("published_at", .str (utcIso now)), ("source", .str "alloydb.audit.audit_outbox")])

/-- What the relay publishes for a row, as the subscription delivers it. -/
def delivered (row : StoredEvent) (now : LocalDateTime) (messageId : Option String) :
    AuditIcebergPipeline.PubsubMessage :=
  { payload := relayMessage row now
    attributes := [("event_id", row.eventId), ("event_type", row.eventType),
      ("schema_version", toString (if row.schemaVersion = 0 then 1 else row.schemaVersion))]
    messageId }

end BankingService
