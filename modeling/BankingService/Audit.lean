import BankingService.Schema

/-! The audit outbox, written in the transaction of the change that it reports. -/
namespace BankingService

open Python Relational Checked

variable {db db' : Db} {env : Ambient}

def recordAuditEvent (db : Db) (env : Ambient) (eventType : String) (payload : AuditPayload)
    (eventId : String) (schemaVersion : ℕ) : Except PyException Db := do
  let outbox ← insert db.auditOutbox
    { eventId := eventId, eventType := eventType, schemaVersion := schemaVersion,
      payload := payload, createdAt := env.now }
  return { db with auditOutbox := outbox }

/-- An event with a flat payload, under a generated id and the default schema version. -/
def recordAudit (db : Db) (env : Ambient) (eventType : String)
    (fields : List (String × JsonValue)) : Except PyException Db :=
  recordAuditEvent db env eventType (.object fields) (env.uuid4 0).str 1

theorem recordAuditEvent_eq_ok {eventType eventId : String} {payload : AuditPayload} {v : ℕ} :
    recordAuditEvent db env eventType payload eventId v = .ok db' ↔
      ∃ outbox, db.auditOutbox.insert? ⟨eventId, eventType, v, payload, env.now⟩ = some outbox ∧
        db' = { db with auditOutbox := outbox } := by
  simp only [recordAuditEvent, bind_eq_ok, insert_eq_ok, pure_eq_ok]
  exact exists_congr fun _ => and_congr_right fun _ => eq_comm

theorem recordAudit_eq_ok {eventType : String} {fields : List (String × JsonValue)} :
    recordAudit db env eventType fields = .ok db' ↔
      ∃ outbox, db.auditOutbox.insert?
          ⟨(env.uuid4 0).str, eventType, 1, .object fields, env.now⟩ = some outbox ∧
        db' = { db with auditOutbox := outbox } :=
  recordAuditEvent_eq_ok

end BankingService
