import BankingService.Audit

/-! Fraud alerts and the durable actions of their remediation. -/
namespace BankingService

open Python Relational Checked

variable {db db' : Db} {env : Ambient}

def getCaseActionByIdempotencyKey (db : Db) (alertId : Uuid) (key : String) :
    Option FraudCaseAction :=
  db.fraudCaseActions.first? fun a => a.fraudAlertId = alertId ∧ a.idempotencyKey = some key

/-- The action that a repeated call finds completed. -/
def getSucceededAction (db : Db) (alertId : Uuid) (key : String) : Option FraudCaseAction :=
  (getCaseActionByIdempotencyKey db alertId key).filter fun a => a.status = .succeeded

def createCaseAction (db : Db) (env : Ambient) (alertId : Uuid) (actionType key : String) :
    Except PyException (Db × FraudCaseAction) :=
  match getCaseActionByIdempotencyKey db alertId key with
  | some existing => .ok (db, existing)
  | none => do
    let action : FraudCaseAction :=
      { id := env.uuid4 0, fraudAlertId := alertId, actionType := actionType, status := .pending,
        idempotencyKey := some key, resultPayload := .none, createdAt := env.now,
        completedAt := none }
    let actions ← insert db.fraudCaseActions action
    return ({ db with fraudCaseActions := actions }, action)

def completeCaseAction (db : Db) (env : Ambient) (actionId : Uuid) (result : CaseResult) : Db :=
  { db with
    fraudCaseActions := db.fraudCaseActions.update actionId fun a =>
      { a with status := .succeeded, resultPayload := result, completedAt := some env.now } }

theorem createCaseAction_frame {alertId : Uuid} {actionType key : String} {a : FraudCaseAction}
    (h : createCaseAction db env alertId actionType key = .ok (db', a)) :
    ∃ actions, db' = { db with fraudCaseActions := actions } := by
  unfold createCaseAction at h
  split at h
  · cases h
    exact ⟨_, rfl⟩
  · simp only [bind_eq_ok, insert_eq_ok, pure_eq_ok] at h
    obtain ⟨actions, -, h⟩ := h
    cases h
    exact ⟨actions, rfl⟩

/-- The latest of some alerts, the first in storage among equally late ones. -/
def latestAlert? : List FraudAlert → Option FraudAlert
  | [] => none
  | a :: l =>
    match latestAlert? l with
    | none => some a
    | some b => if a.createdAt < b.createdAt then some b else some a

def getOpenAlertForAccount (db : Db) (creditAccountId : Uuid) : Option FraudAlert :=
  latestAlert? (db.fraudAlerts.select fun a =>
    a.creditAccountId = creditAccountId ∧ a.status = .isOpen)

/-- An empty identity finds nothing. -/
def getLatestOpenAlertForCustomer (db : Db) (authProviderUid : String) : Option FraudAlert :=
  if authProviderUid = "" then none
  else latestAlert? (db.fraudAlerts.select fun a =>
    a.status = .isOpen ∧ a.authProviderUid = authProviderUid)

/-- An empty identity leaves the owner unchecked. -/
def getAlertForCustomer (db : Db) (fraudAlertId : Uuid) (authProviderUid : String) :
    Option FraudAlert :=
  (db.fraudAlerts.get? fraudAlertId).filter fun a =>
    authProviderUid = "" ∨ a.authProviderUid = authProviderUid

def FraudAlert.append (a : FraudAlert) (authorizationId : String) (item : SuspiciousTransaction) :
    FraudAlert :=
  if authorizationId ∈ a.suspiciousAuthorizationIds then a
  else { a with
    suspiciousAuthorizationIds := a.suspiciousAuthorizationIds ++ [authorizationId],
    suspiciousTransactions := a.suspiciousTransactions ++ [item] }

/-- `append_suspicious_authorization` on the alert as the session loaded it. -/
def appendSuspiciousAuthorization (db : Db) (loaded : FraudAlert) (authorizationId : String)
    (item : SuspiciousTransaction) : Db :=
  let alert := loaded.append authorizationId item
  { db with
    fraudAlerts := db.fraudAlerts.update loaded.id fun row =>
      { row with
        suspiciousAuthorizationIds := assign loaded.suspiciousAuthorizationIds
          alert.suspiciousAuthorizationIds row.suspiciousAuthorizationIds
        suspiciousTransactions := assign loaded.suspiciousTransactions
          alert.suspiciousTransactions row.suspiciousTransactions } }

def ensureUser (db : Db) (env : Ambient) (authProviderUid : String) : Except PyException Db :=
  match db.users.first? fun u => u.authProviderUid = authProviderUid with
  | some _ => .ok db
  | none => do
    let users ← insert db.users ⟨env.uuid4 2, authProviderUid, none⟩
    return { db with users := users }

def sendSecureMessage (db : Db) (env : Ambient) (authProviderUid threadId : String) :
    Except PyException Db := do
  let db ← ensureUser db env authProviderUid
  recordAudit db env "MESSAGE_SENT"
    [("message_id", .text (env.uuid4 1).str), ("user_id", .text authProviderUid),
      ("sender", .text "bank"), ("thread_id", .text threadId)]

theorem sendSecureMessage_frame {uid threadId : String}
    (h : sendSecureMessage db env uid threadId = .ok db') :
    ∃ users outbox, db' = { db with users := users, auditOutbox := outbox } := by
  simp only [sendSecureMessage, bind_eq_ok, recordAudit_eq_ok] at h
  obtain ⟨db₁, h₁, outbox, -, rfl⟩ := h
  unfold ensureUser at h₁
  split at h₁
  · cases h₁
    exact ⟨_, outbox, rfl⟩
  · simp only [bind_eq_ok, insert_eq_ok, pure_eq_ok] at h₁
    obtain ⟨users, -, rfl⟩ := h₁
    exact ⟨users, outbox, rfl⟩

theorem latestAlert_mem {l : List FraudAlert} {a : FraudAlert} (h : latestAlert? l = some a) :
    a ∈ l := by
  induction l generalizing a with
  | nil => cases h
  | cons b l ih =>
    unfold latestAlert? at h
    cases hl : latestAlert? l with
    | none =>
      rw [hl] at h
      cases h
      exact List.mem_cons_self
    | some c =>
      simp only [hl] at h
      split at h
      · cases h
        exact List.mem_cons_of_mem _ (ih hl)
      · cases h
        exact List.mem_cons_self

end BankingService
