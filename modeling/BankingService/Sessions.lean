import BankingService.Library.ReadCommitted
import BankingService.FraudAlerts
import BankingService.Accounts
import BankingService.CardNetwork

/-! The service's calls as transactions on a shared database at READ COMMITTED: which statements
each one sends, in which order, which rows it locks, and what its session keeps of what it read.
A row that a session has loaded is not refreshed by a later query, unless the source asks for it. -/
namespace BankingService

open Python Relational Checked ReadCommitted

inductive LockedRow where
  | creditAccount (id : Uuid)
  | account (id : Uuid)
  | fraudAlert (id : Uuid)
  deriving DecidableEq

inductive Answer where
  | authorization (response : AuthorizationResponse)
  | settlement (result : SettlementResult)
  | reversal (availableCreditCents : ℤ)
  | voided (result : VoidResult)
  | feeReversed (result : FeeReversalResult)
  | triaged (result : Option CaseResult)
  | paid (result : BillPaymentResult)
  | replayed (result : BillPaymentResult)
  | archived (count : ℕ)
  deriving DecidableEq

abbrev Reply := Except PyException Answer

section
variable {τ α : Type}

def conclude (db : Db) (answer : α → Answer) (call : Except PyException (Db × α)) :
    Outcome Db τ Reply :=
  .finish (commitOrRollback db call).1 ((commitOrRollback db call).2.map answer)

def refuse (db : Db) (e : PyException) : Outcome Db τ Reply := .finish db (.error e)

@[simp] theorem conclude_db (db : Db) (answer : α → Answer)
    (call : Except PyException (Db × α)) :
    (conclude (τ := τ) db answer call).db = (commitOrRollback db call).1 := rfl

@[simp] theorem refuse_db (db : Db) (e : PyException) : (refuse (τ := τ) db e).db = db := rfl

end

inductive AuthorizationSeen where
  | start
  | duplicate (existing : TransactionAuthorization)
  | fresh
  | cardRead (card : Option IssuedCard)
  | locked (card : IssuedCard) (account : Option CreditAccount)
  | alertRead (card : IssuedCard) (account : CreditAccount) (alert : Option FraudAlert)
  | holdPlaced (account : Uuid) (placed : PlacedHold)
  | reloaded (account : Uuid) (placed : PlacedHold) (row : Option CreditAccount)

namespace AuthorizationSeen

def action : AuthorizationSeen → Action LockedRow
  | .start | .fresh | .locked _ (some _) | .holdPlaced _ _ => .read
  | .cardRead (some card) => if card.usable then .lock (.creditAccount card.accountId) else .run []
  | .duplicate _ | .cardRead none | .locked _ none => .run []
  | .alertRead _ _ alert => .run (alert.toList.map fun a => .fraudAlert a.id)
  | .reloaded id _ _ => .run [.creditAccount id]

def observe (db : Db) (r : CardAuthHoldRequest) : AuthorizationSeen → AuthorizationSeen
  | .start =>
    match getAuthorizationByRrn db r.retrievalReferenceNumber with
    | some existing => .duplicate existing
    | none => .fresh
  | .fresh => .cardRead (getCardByToken db r.cardToken)
  | .cardRead (some card) => .locked card (db.creditAccounts.get? card.accountId)
  | .locked card (some account) => .alertRead card account (getOpenAlertForAccount db account.id)
  | .holdPlaced id placed => .reloaded id placed (db.creditAccounts.get? id)
  | seen => seen

/-- A new alert's message commits the hold and releases the locks before it is counted. -/
def body (db : Db) (env : Ambient) (r : CardAuthHoldRequest) (f : FraudEvaluation) :
    AuthorizationSeen → Outcome Db AuthorizationSeen Reply
  | .duplicate existing => .finish db (.ok (.authorization (duplicateResponse existing)))
  | .cardRead none => conclude db .authorization (declineCardNotFound db env r)
  | .cardRead (some card) => conclude db .authorization (declineCardBlocked db env r card)
  | .locked card none => conclude db .authorization (declineAccountNotFound db env r card)
  | .alertRead card account alert =>
    match authorizeUnderLock db env r f card account alert with
    | .error e => refuse db e
    | .ok (db, .inl response) => .finish db (.ok (.authorization response))
    | .ok (db, .inr placed) => .resume db (.holdPlaced account.id placed)
  | .reloaded _ placed row =>
    conclude db .authorization (finishCommittedHold db env r placed row)
  | _ => refuse db .operationalError

end AuthorizationSeen

/-- Both read the active hold, then lock its account, and do not read the hold again. -/
inductive HoldSeen where
  | start
  | found (hold : Except PyException TransactionAuthorization)
  | locked (hold : TransactionAuthorization) (account : Except PyException CreditAccount)

namespace HoldSeen

def action : HoldSeen → Action LockedRow
  | .start => .read
  | .found (.ok hold) => .lock (.creditAccount hold.accountId)
  | .found (.error _) | .locked _ _ => .run []

def observe (db : Db) (rrn suffix : String) : HoldSeen → HoldSeen
  | .start => .found (findActiveHold db rrn suffix)
  | .found (.ok hold) => .locked hold (findLockedAccount db hold)
  | seen => seen

/-- `act` is what becomes of the hold. -/
def body {α : Type} (db : Db) (answer : α → Answer)
    (act : TransactionAuthorization → CreditAccount → Except PyException (Db × α)) :
    HoldSeen → Outcome Db HoldSeen Reply
  | .found (.error e) => refuse db e
  | .locked _ (.error e) => refuse db e
  | .locked hold (.ok account) => conclude db answer (act hold account)
  | _ => refuse db .operationalError

end HoldSeen

/-- A settlement checks its amount before it sends anything. -/
def enterSettlement (r : CardSettlementRequest) : HoldSeen :=
  if 0 < r.amountCents then .start
  else .found (.error (.valueError "Settlement amount must be positive."))

inductive VoidSeen where
  | start
  | looked (completed : Option FraudCaseAction)
  | locked (account : Except PyException CreditAccount)

namespace VoidSeen

def action (accountId : Uuid) : VoidSeen → Action LockedRow
  | .start => .read
  | .looked none => .lock (.creditAccount accountId)
  | .looked (some _) | .locked _ => .run []

def observe (db : Db) (accountId : Uuid) (authorizationId : String) (fraudAlertId : Uuid) :
    VoidSeen → VoidSeen
  | .start => .looked (getSucceededAction db fraudAlertId (voidKey authorizationId))
  | .looked none => .locked (lockedAccount db accountId)
  | seen => seen

def body (db : Db) (env : Ambient) (accountId : Uuid) (authorizationId : String)
    (fraudAlertId : Uuid) : VoidSeen → Outcome Db VoidSeen Reply
  | .looked (some action) => conclude db .voided do
    let account ← orRaise (db.creditAccounts.get? accountId)
      (.valueError "Fraud result account no longer exists")
    let result ← normalizeVoid action.resultPayload account.currency
    return (db, result)
  | .locked (.error e) => refuse db e
  | .locked (.ok account) => conclude db .voided do
    let (db, _, result) ← voidUnderLock db env account authorizationId fraudAlertId
    return (db, result)
  | _ => refuse db .operationalError

end VoidSeen

/-- The caller may have loaded the account before. -/
inductive FeeSeen where
  | start
  | loaded (copy : Option CreditAccount)
  | locked (account : Except PyException CreditAccount)

namespace FeeSeen

def action (accountId : Uuid) : FeeSeen → Action LockedRow
  | .start => .read
  | .loaded _ => .lock (.creditAccount accountId)
  | .locked _ => .run []

/-- The locking query returns the session's copy where there is one. -/
def observe (db : Db) (accountId : Uuid) : FeeSeen → FeeSeen
  | .start => .loaded (db.creditAccounts.get? accountId)
  | .loaded copy => .locked ((lockedAccount db accountId).map fun row => copy.getD row)
  | seen => seen

def body (db : Db) (env : Ambient) (transactionId : String) :
    FeeSeen → Outcome Db FeeSeen Reply
  | .locked (.error e) => refuse db e
  | .locked (.ok account) =>
    conclude db .feeReversed (reverseUnderLock db env account transactionId)
  | _ => refuse db .operationalError

end FeeSeen

/-- Triage loads the account before it locks it, and the lock does not refresh it. -/
inductive TriageSeen where
  | start
  | refused (e : PyException)
  | absent
  | alertRead (alert : FraudAlert)
  | accountRead (alert : FraudAlert) (account : CreditAccount)
  | looked (alert : FraudAlert) (account : CreditAccount) (completed : Option FraudCaseAction)
      (pending : Bool)
  | locked (alert : FraudAlert) (account : CreditAccount)

/-- Whether some disputed item is left to remedy; the first of them locks the account. -/
def leftToRemedy (db : Db) (alertId : Uuid) (r : TriageRequest) : Bool :=
  (r.disputedAuthorizationIds.any fun id => (getSucceededAction db alertId (voidKey id)).isNone) ||
    r.disputedTransactionIds.any fun id => (getSucceededAction db alertId (creditKey id)).isNone

namespace TriageSeen

def action : TriageSeen → Action LockedRow
  | .start | .alertRead _ | .accountRead _ _ => .read
  | .looked alert _ none true => .lock (.creditAccount alert.creditAccountId)
  | .refused _ | .absent | .looked _ _ _ _ | .locked _ _ => .run []

def observe (sha256 : String → String) (db : Db) (r : TriageRequest) : TriageSeen → TriageSeen
  | .start =>
    match uuidParam r.fraudAlertId with
    | .error e => .refused e
    | .ok id =>
      match getAlertForCustomer db id r.authProviderUid with
      | none => .absent
      | some alert => .alertRead alert
  | .alertRead alert =>
    match requireFraudAccount alert (db.creditAccounts.get? alert.creditAccountId) with
    | .error e => .refused e
    | .ok account => .accountRead alert account
  | .accountRead alert account =>
    .looked alert account (getSucceededAction db alert.id (workflowKey sha256 r))
      (leftToRemedy db alert.id r)
  | .looked alert account none true => .locked alert account
  | seen => seen

def writes (sha256 : String → String) (db : Db) (env : Ambient) (r : TriageRequest) :
    TriageSeen → Except PyException (Db × CaseResult)
  | .refused e => .error e
  | .looked alert account completed _ =>
    triageAfterLookup sha256 db env r alert account completed
  | .locked alert account => triageAfterLookup sha256 db env r alert account none
  | _ => .error .operationalError

def body (sha256 : String → String) (db : Db) (env : Ambient) (r : TriageRequest) :
    TriageSeen → Outcome Db TriageSeen Reply
  | .absent => .finish db (.ok (.triaged none))
  | seen => conclude db (fun result => .triaged (some result)) (writes sha256 db env r seen)

end TriageSeen

inductive PaymentSeen where
  | start (p : BillPayment)
  | done (reply : Except PyException BillPaymentResult)
  | fresh (p : BillPayment)
  | depositLocked (p : BillPayment) (deposit : Account)
  | cardLocked (p : BillPayment) (deposit : Account) (card : CreditAccount)
  | funded (p : BillPayment) (deposit : Account) (card : CreditAccount)
  | mirrorRead (p : BillPayment) (deposit : Account) (card : CreditAccount)
    (mirror : Option Account)
  | ready (p : BillPayment) (deposit : Account) (card : CreditAccount)
  | looked (p : BillPayment) (deposit : Account) (card : CreditAccount)
      (existing : Option Transaction)
  | conflict (p : BillPayment)

namespace PaymentSeen

def enter (r : BillPaymentRequest) : PaymentSeen :=
  match validatePayment r with
  | .ok p => .start p
  | .error e => .done (.error e)

/-- The locks do not wait: a locked row fails the call. -/
def action : PaymentSeen → Action LockedRow
  | .start _ | .cardLocked _ _ _ | .funded _ _ _ | .ready _ _ _ | .conflict _ => .read
  | .fresh p => .lock (.account p.sourceAccountId)
  | .depositLocked p _ => .lock (.creditAccount p.creditAccountId)
  | .mirrorRead _ _ _ (some m) => .lock (.account m.id)
  | .mirrorRead _ _ _ none => .read
  | .done _ | .looked _ _ _ _ => .run []

def observe (sha256 : String → String) (db : Db) : PaymentSeen → PaymentSeen
  | .start p =>
    match replayPayment sha256 db p with
    | .error e => .done (.error e)
    | .ok (some previous) => .done (.ok previous)
    | .ok none => .fresh p
  | .fresh p =>
    match findSource db p with
    | .error e => .done (.error e)
    | .ok deposit => .depositLocked p deposit
  | .depositLocked p deposit =>
    match findTarget db p with
    | .error e => .done (.error e)
    | .ok card => .cardLocked p deposit card
  | .cardLocked p deposit card =>
    match replayPayment sha256 db p with
    | .error e => .done (.error e)
    | .ok (some previous) => .done (.ok previous)
    | .ok none =>
      match checkFunds p deposit card with
      | .error e => .done (.error e)
      | .ok () => .funded p deposit card
  | .funded p deposit card => .mirrorRead p deposit card (findMirror db card)
  | .mirrorRead p deposit card mirror =>
    match checkMirror p (mirror.bind fun m => db.accounts.get? m.id) with
    | .error e => .done (.error e)
    | .ok () => .ready p deposit card
  | .ready p deposit card =>
    .looked p deposit card (findTransaction db (durableKey sha256 p.userId p.idempotencyKey))
  | .conflict p => .done (replayAfterConflict sha256 db p)
  | seen => seen

def body (sha256 : String → String) (db : Db) (env : Ambient) :
    PaymentSeen → Outcome Db PaymentSeen Reply
  | .done reply => .finish db (reply.map .replayed)
  | .looked p deposit card existing =>
    match executePayment sha256 db env p deposit card existing with
    | .ok (db, result) => .finish db (.ok (.paid result))
    | .error .integrityError => .resume db (.conflict p)
    | .error .operationalError => refuse db (.httpException 409
        "Account lock conflict. Retry with the same Idempotency-Key.")
    | .error e => refuse db e
  | _ => refuse db .operationalError

end PaymentSeen

inductive ArchiveSeen where
  | start
  | found (stale : List Uuid)

namespace ArchiveSeen

def action : ArchiveSeen → Action LockedRow
  | .start => .read
  | .found _ => .run []

def observe (db : Db) (cutoff : Timestamp) : ArchiveSeen → ArchiveSeen
  | .start => .found (staleTransactions db cutoff)
  | seen => seen

def body (db : Db) : ArchiveSeen → Outcome Db ArchiveSeen Reply
  | .found stale => .finish (archiveTransactions db stale) (.ok (.archived stale.length))
  | .start => refuse db .operationalError

end ArchiveSeen

inductive Request where
  | authorization (env : Ambient) (r : CardAuthHoldRequest) (f : FraudEvaluation)
  | settlement (env : Ambient) (r : CardSettlementRequest)
  | reversal (env : Ambient) (r : CardReversalRequest)
  | voiding (env : Ambient) (accountId : Uuid) (authorizationId : String) (fraudAlertId : Uuid)
  | feeReversal (env : Ambient) (accountId : Uuid) (transactionId : String) (preloaded : Bool)
  | triage (env : Ambient) (r : TriageRequest)
  | payment (env : Ambient) (r : BillPaymentRequest)
  | archive (cutoff : Timestamp)

@[reducible] def Seen : Request → Type
  | .authorization _ _ _ => AuthorizationSeen
  | .settlement _ _ | .reversal _ _ => HoldSeen
  | .voiding _ _ _ _ => VoidSeen
  | .feeReversal _ _ _ _ => FeeSeen
  | .triage _ _ => TriageSeen
  | .payment _ _ => PaymentSeen
  | .archive _ => ArchiveSeen

def service (sha256 : String → String) : Program Db Request Seen LockedRow Reply where
  enter
    | .authorization _ _ _ => .start
    | .settlement _ r => enterSettlement r
    | .reversal _ _ => .start
    | .voiding _ _ _ _ => .start
    | .feeReversal _ _ _ preloaded => if preloaded then .start else .loaded none
    | .triage _ _ => .start
    | .payment _ r => .enter r
    | .archive _ => .start
  action
    | .authorization _ _ _, seen => seen.action
    | .settlement _ _, seen | .reversal _ _, seen => seen.action
    | .voiding _ accountId _ _, seen => seen.action accountId
    | .feeReversal _ accountId _ _, seen => seen.action accountId
    | .triage _ _, seen => seen.action
    | .payment _ _, seen => seen.action
    | .archive _, seen => seen.action
  observe db
    | .authorization _ r _, seen => seen.observe db r
    | .settlement _ r, seen => seen.observe db r.retrievalReferenceNumber ""
    | .reversal _ r, seen => seen.observe db r.retrievalReferenceNumber " to reverse."
    | .voiding _ accountId authorizationId fraudAlertId, seen =>
      seen.observe db accountId authorizationId fraudAlertId
    | .feeReversal _ accountId _ _, seen => seen.observe db accountId
    | .triage _ r, seen => seen.observe sha256 db r
    | .payment _ _, seen => seen.observe sha256 db
    | .archive cutoff, seen => seen.observe db cutoff
  body db
    | .authorization env r f, seen => seen.body db env r f
    | .settlement env r, seen =>
      seen.body db .settlement (settleHold db env r)
    | .reversal env r, seen => seen.body db .reversal (reverseHold db env r)
    | .voiding env accountId authorizationId fraudAlertId, seen =>
      seen.body db env accountId authorizationId fraudAlertId
    | .feeReversal env _ transactionId _, seen => seen.body db env transactionId
    | .triage env r, seen => seen.body sha256 db env r
    | .payment env _, seen => seen.body sha256 db env
    | .archive _, seen => seen.body db

/-- The rows that a session has locked, as far as it has come. -/
def locksOf : Session Seen → List LockedRow
  | ⟨.authorization _ _ _, .locked card _⟩ | ⟨.authorization _ _ _, .alertRead card _ _⟩ =>
    [.creditAccount card.accountId]
  | ⟨.settlement _ _, .locked hold _⟩ | ⟨.reversal _ _, .locked hold _⟩ =>
    [.creditAccount hold.accountId]
  | ⟨.voiding _ accountId _ _, .locked _⟩ => [.creditAccount accountId]
  | ⟨.feeReversal _ accountId _ _, .locked _⟩ => [.creditAccount accountId]
  | ⟨.triage _ _, .locked alert _⟩ => [.creditAccount alert.creditAccountId]
  | ⟨.payment _ _, .depositLocked p _⟩ => [.account p.sourceAccountId]
  | ⟨.payment _ _, .cardLocked p _ _⟩ | ⟨.payment _ _, .funded p _ _⟩
  | ⟨.payment _ _, .mirrorRead p _ _ _⟩ | ⟨.payment _ _, .ready p _ _⟩
  | ⟨.payment _ _, .looked p _ _ _⟩ =>
    [.creditAccount p.creditAccountId, .account p.sourceAccountId]
  | _ => []

theorem enter_locks (sha256 : String → String) (r : Request) :
    locksOf ⟨r, (service sha256).enter r⟩ = [] := by
  cases r with
  | settlement env r =>
    simp only [service, enterSettlement]
    split <;> rfl
  | feeReversal env accountId transactionId preloaded => cases preloaded <;> rfl
  | payment env r =>
    simp only [service, PaymentSeen.enter]
    split <;> rfl
  | _ => rfl

section
variable {db : Db} {env : Ambient}

theorem AuthorizationSeen.observe_locks {t : AuthorizationSeen} {r : CardAuthHoldRequest}
    {f : FraudEvaluation} (ha : ∀ rows, t.action ≠ .run rows) :
    locksOf ⟨.authorization env r f, t.observe db r⟩ ⊆
      t.action.rows ++ locksOf ⟨.authorization env r f, t⟩ := by
  cases t with
  | start =>
    simp only [observe]
    split
    · exact List.nil_subset _
    · exact List.nil_subset _
  | cardRead card =>
    cases card with
    | none => exact absurd rfl (ha [])
    | some card =>
      by_cases hu : card.usable
      · rw [action, if_pos hu]
        exact List.Subset.refl _
      · exact absurd (if_neg hu) (ha [])
  | locked card account =>
    cases account with
    | none => exact absurd rfl (ha [])
    | some account => exact List.Subset.refl _
  | fresh | holdPlaced => exact List.nil_subset _
  | duplicate | alertRead | reloaded => exact absurd rfl (ha _)

theorem VoidSeen.observe_locks {t : VoidSeen} {accountId fraudAlertId : Uuid}
    {authorizationId : String} (ha : ∀ rows, t.action accountId ≠ .run rows) :
    locksOf ⟨.voiding env accountId authorizationId fraudAlertId,
        t.observe db accountId authorizationId fraudAlertId⟩ ⊆
      (t.action accountId).rows ++
        locksOf ⟨.voiding env accountId authorizationId fraudAlertId, t⟩ := by
  cases t with
  | start => exact List.nil_subset _
  | looked completed =>
    cases completed with
    | none => exact List.Subset.refl _
    | some action => exact absurd rfl (ha _)
  | locked => exact absurd rfl (ha _)

theorem FeeSeen.observe_locks {t : FeeSeen} {accountId : Uuid} {transactionId : String}
    {preloaded : Bool} (ha : ∀ rows, t.action accountId ≠ .run rows) :
    locksOf ⟨.feeReversal env accountId transactionId preloaded, t.observe db accountId⟩ ⊆
      (t.action accountId).rows ++
        locksOf ⟨.feeReversal env accountId transactionId preloaded, t⟩ := by
  cases t with
  | start => exact List.nil_subset _
  | loaded => exact List.Subset.refl _
  | locked => exact absurd rfl (ha _)

theorem TriageSeen.observe_locks {sha256 : String → String} {t : TriageSeen} {r : TriageRequest}
    (ha : ∀ rows, t.action ≠ .run rows) :
    locksOf ⟨.triage env r, t.observe sha256 db r⟩ ⊆
      t.action.rows ++ locksOf ⟨.triage env r, t⟩ := by
  cases t with
  | start =>
    simp only [observe]
    split
    · exact List.nil_subset _
    · split
      · exact List.nil_subset _
      · exact List.nil_subset _
  | alertRead alert =>
    simp only [observe]
    split
    · exact List.nil_subset _
    · exact List.nil_subset _
  | accountRead => exact List.nil_subset _
  | looked alert account completed pending =>
    cases completed with
    | some action => exact absurd rfl (ha _)
    | none =>
      cases pending with
      | false => exact absurd rfl (ha _)
      | true => exact List.Subset.refl _
  | refused | absent | locked => exact absurd rfl (ha _)

theorem PaymentSeen.observe_locks {sha256 : String → String} {t : PaymentSeen}
    {r : BillPaymentRequest} (ha : ∀ rows, t.action ≠ .run rows) :
    locksOf ⟨.payment env r, t.observe sha256 db⟩ ⊆
      t.action.rows ++ locksOf ⟨.payment env r, t⟩ := by
  cases t with
  | start p =>
    simp only [observe]
    split
    · exact List.nil_subset _
    · exact List.nil_subset _
    · exact List.nil_subset _
  | fresh p =>
    simp only [observe]
    split
    · exact List.nil_subset _
    · exact List.Subset.refl _
  | depositLocked p deposit =>
    simp only [observe]
    split
    · exact List.nil_subset _
    · exact List.Subset.refl _
  | cardLocked p deposit card =>
    simp only [observe]
    split
    · exact List.nil_subset _
    · exact List.nil_subset _
    · split
      · exact List.nil_subset _
      · exact List.Subset.refl _
  | funded p deposit card => exact List.Subset.refl _
  | mirrorRead p deposit card mirror =>
    simp only [observe]
    split
    · exact List.nil_subset _
    · exact List.subset_append_right _ _
  | ready p deposit card => exact List.Subset.refl _
  | conflict => exact List.nil_subset _
  | done | looked => exact absurd rfl (ha _)

end

theorem observe_locks (sha256 : String → String) (db : Db) (r : Request) (t : Seen r)
    (ha : ∀ rows, (service sha256).action r t ≠ .run rows) :
    locksOf ⟨r, (service sha256).observe db r t⟩ ⊆
      ((service sha256).action r t).rows ++ locksOf ⟨r, t⟩ := by
  cases r with
  | authorization env r f => exact AuthorizationSeen.observe_locks ha
  | settlement env r =>
    cases t with
    | start => exact List.nil_subset _
    | found hold =>
      cases hold with
      | error e => exact absurd rfl (ha _)
      | ok hold => exact List.Subset.refl _
    | locked => exact absurd rfl (ha _)
  | reversal env r =>
    cases t with
    | start => exact List.nil_subset _
    | found hold =>
      cases hold with
      | error e => exact absurd rfl (ha _)
      | ok hold => exact List.Subset.refl _
    | locked => exact absurd rfl (ha _)
  | voiding env accountId authorizationId fraudAlertId => exact VoidSeen.observe_locks ha
  | feeReversal env accountId transactionId preloaded => exact FeeSeen.observe_locks ha
  | triage env r => exact @TriageSeen.observe_locks db env sha256 t r ha
  | payment env r => exact @PaymentSeen.observe_locks db env sha256 t r ha
  | archive cutoff => cases t <;> exact List.nil_subset _

theorem body_resume {sha256 : String → String} {db db' : Db} {r : Request} {t t' : Seen r}
    (hb : (service sha256).body db r t = .resume db' t') :
    (∃ env req f card account alert placed,
        (⟨r, t⟩ : Session Seen) =
          ⟨.authorization env req f, .alertRead card account alert⟩ ∧
        (⟨r, t'⟩ : Session Seen) =
          ⟨.authorization env req f, .holdPlaced account.id placed⟩ ∧
        authorizeUnderLock db env req f card account alert = .ok (db', .inr placed)) ∨
      (∃ env req p deposit card existing, db' = db ∧
        (⟨r, t⟩ : Session Seen) = ⟨.payment env req, .looked p deposit card existing⟩ ∧
        (⟨r, t'⟩ : Session Seen) = ⟨.payment env req, .conflict p⟩) := by
  cases r with
  | authorization env r f =>
    simp only [service] at hb
    cases t with
    | alertRead card account alert =>
      simp only [AuthorizationSeen.body] at hb
      split at hb
      · cases hb
      · cases hb
      · next hu =>
        cases hb
        exact Or.inl ⟨env, r, f, card, account, alert, _, rfl, rfl, hu⟩
    | cardRead card => cases card <;> cases hb
    | locked card account => cases account <;> cases hb
    | _ => cases hb
  | payment env r =>
    simp only [service] at hb
    cases t with
    | looked p deposit card existing =>
      simp only [PaymentSeen.body] at hb
      split at hb
      · cases hb
      · cases hb
        exact Or.inr ⟨env, r, p, deposit, card, existing, rfl, rfl, rfl⟩
      · cases hb
      · cases hb
    | _ => cases hb
  | settlement env r =>
    cases t with
    | found hold => cases hold <;> cases hb
    | locked hold account => cases account <;> cases hb
    | _ => cases hb
  | reversal env r =>
    cases t with
    | found hold => cases hold <;> cases hb
    | locked hold account => cases account <;> cases hb
    | _ => cases hb
  | voiding env accountId authorizationId fraudAlertId =>
    cases t with
    | looked completed => cases completed <;> cases hb
    | locked account => cases account <;> cases hb
    | _ => cases hb
  | feeReversal env accountId transactionId preloaded =>
    cases t with
    | locked account => cases account <;> cases hb
    | _ => cases hb
  | triage env r => cases t <;> cases hb
  | archive cutoff => cases t <;> cases hb

/-- A session holds no lock before its first locking statement, gets one from each of them, and
keeps them until it ends its transaction. -/
theorem service_claims (sha256 : String → String) :
    Claims (service sha256) (fun s k => k ∈ locksOf s) where
  enter r k hk := by
    rw [enter_locks sha256 r] at hk
    cases hk
  read db r t k ha hk := by
    have hsub := observe_locks sha256 db r t (by simp [ha]) hk
    rwa [ha] at hsub
  lock db r t k k' ha hk := by
    have hsub := observe_locks sha256 db r t (by simp [ha]) hk
    rw [ha] at hsub
    simpa [Action.rows] using hsub
  resume db r t db' t' k rows _ hb := by
    rcases body_resume hb with ⟨env, req, f, card, account, alert, placed, -, ht, -⟩ |
      ⟨env, req, p, deposit, card, existing, -, -, ht⟩
    · rw [ht]
      exact List.not_mem_nil
    · rw [ht]
      exact List.not_mem_nil

abbrev ServiceWorld := World ℕ Db Seen LockedRow Reply

abbrev ServiceEvent := Event ℕ Request

abbrev serving (sha256 : String → String) (admits : Request → Prop) :
    Runs.Machine ServiceWorld ServiceEvent :=
  machine (service sha256) admits

end BankingService
