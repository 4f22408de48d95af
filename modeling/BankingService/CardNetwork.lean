import BankingService.CreditCardServicing

/-! The card network switch: authorization holds, settlements and reversals. A body gets the rows
that the session has loaded; what it writes is committed by its caller. -/
namespace BankingService

open Python Relational Checked ClampedCache

structure CardAuthHoldRequest where
  cardToken : String
  amountCents : ℤ
  retrievalReferenceNumber : String
  merchantCategoryCode : String
  merchantName : String
  cardNetwork : String
  createdAt : Option Timestamp
  positive : 0 < amountCents

/-- What fraud scoring and its settings say about one authorization, and whether the process is
lost between the two commits of a call. -/
structure FraudEvaluation where
  score : ℤ
  isFlagged : Bool
  alertsEnabled : Bool
  alertThreshold : ℤ
  interrupted : Bool

def FraudEvaluation.raisesAlert (f : FraudEvaluation) : Bool :=
  f.alertsEnabled && f.isFlagged && decide (f.alertThreshold ≤ f.score)

structure AuthorizationResponse where
  actionCode : String
  authCode : String
  authorizationId : Option Uuid
  status : HoldStatus
  declineReason : String
  fraudAlertId : Option Uuid
  deriving DecidableEq

def duplicateResponse (existing : TransactionAuthorization) : AuthorizationResponse :=
  { actionCode := if existing.status = .pending then "00" else "51"
    authCode := existing.authCode, authorizationId := some existing.id,
    status := existing.status, declineReason := existing.declineReason, fraudAlertId := none }

def declined (actionCode reason : String) : AuthorizationResponse :=
  { actionCode := actionCode, authCode := "000000", authorizationId := none, status := .declined,
    declineReason := reason, fraudAlertId := none }

/-- A decline that leaves an audit event only. -/
def declineUnrecorded (db : Db) (env : Ambient) (r : CardAuthHoldRequest)
    (context : List (String × JsonValue)) (actionCode reason : String) :
    Except PyException (Db × AuthorizationResponse) := do
  let db ← recordAudit db env "CREDIT_AUTHORIZATION_DECLINED"
    (context ++ [("retrieval_reference_number", .text r.retrievalReferenceNumber),
      ("amount_cents", .int r.amountCents), ("reason", .text reason)])
  return (db, declined actionCode reason)

def declineCardNotFound (db : Db) (env : Ambient) (r : CardAuthHoldRequest) :
    Except PyException (Db × AuthorizationResponse) :=
  declineUnrecorded db env r [] "75" "CARD_NOT_FOUND"

def declineCardBlocked (db : Db) (env : Ambient) (r : CardAuthHoldRequest) (card : IssuedCard) :
    Except PyException (Db × AuthorizationResponse) :=
  declineUnrecorded db env r
    [("card_id", .text card.id.str), ("account_id", .text card.accountId.str)] "75" "CARD_BLOCKED"

def declineAccountNotFound (db : Db) (env : Ambient) (r : CardAuthHoldRequest)
    (card : IssuedCard) : Except PyException (Db × AuthorizationResponse) :=
  declineUnrecorded db env r [("card_id", .text card.id.str)] "83" "ACCOUNT_NOT_FOUND"

def declineAccountFrozen (db : Db) (env : Ambient) (r : CardAuthHoldRequest) (card : IssuedCard)
    (account : CreditAccount) : Except PyException (Db × AuthorizationResponse) :=
  declineUnrecorded db env r
    [("card_id", .text card.id.str), ("account_id", .text account.id.str)] "83" "ACCOUNT_FROZEN"

def IssuedCard.usable (card : IssuedCard) : Bool :=
  decide (card.status = .active) && card.isActive

def newHold (env : Ambient) (r : CardAuthHoldRequest) (card : IssuedCard) (accountId : Uuid)
    (status : HoldStatus) (declineReason authCode : String) (score : Option ℤ)
    (createdAt expiresAt : Timestamp) : TransactionAuthorization :=
  { id := env.uuid4 2, cardId := card.id, accountId := accountId,
    transactionAmountCents := r.amountCents, transactionCurrency := "USD",
    billingAmountCents := r.amountCents, billingCurrency := "USD", status := status,
    declineReason := declineReason, authCode := authCode,
    retrievalReferenceNumber := r.retrievalReferenceNumber, cardNetwork := r.cardNetwork,
    merchantCategoryCode := r.merchantCategoryCode, merchantName := some r.merchantName,
    fraudRiskScore := score, createdAt := createdAt, expiresAt := expiresAt }

def addAuthorization (db : Db) (h : TransactionAuthorization) : Except PyException Db := do
  let holds ← insert db.authorizations h
  return { db with authorizations := holds }

/-- A decline for insufficient funds is kept in the history. -/
def declineInsufficientFunds (db : Db) (env : Ambient) (r : CardAuthHoldRequest)
    (card : IssuedCard) (account : CreditAccount) :
    Except PyException (Db × AuthorizationResponse) := do
  let hold := newHold env r card account.id .declined "INSUFFICIENT_FUNDS" "000000" none env.now
    env.now
  let db ← addAuthorization db hold
  let db ← recordAudit db (env.part 1) "CREDIT_AUTHORIZATION_DECLINED"
    [("authorization_id", .text hold.id.str), ("card_id", .text card.id.str),
      ("account_id", .text account.id.str),
      ("retrieval_reference_number", .text r.retrievalReferenceNumber),
      ("amount_cents", .int r.amountCents), ("currency", .text account.currency.text),
      ("reason", .text "INSUFFICIENT_FUNDS")]
  return (db, declined "51" "INSUFFICIENT_FUNDS")

/-- `create_or_update_alert_from_model_decision`. A new alert sends a secure message, and that
commits everything written so far; the event that is to follow it is returned. -/
def createOrUpdateAlert (db : Db) (env : Ambient) (customer : User) (card : IssuedCard)
    (account : CreditAccount) (hold : TransactionAuthorization) (existing : Option FraudAlert) :
    Except PyException (Db × Uuid × Option (List (String × JsonValue))) :=
  let item : SuspiciousTransaction := ⟨some hold.id.str, none⟩
  match existing with
  | some alert => do
    let db := appendSuspiciousAuthorization db alert hold.id.str item
    let db ← recordAudit db (env.part 0) "FRAUD_ALERT_UPDATED"
      [("fraud_alert_id", .text alert.id.str), ("customer_id", .text customer.id.str),
        ("credit_account_id", .text account.id.str), ("authorization_id", .text hold.id.str),
        ("source", .text alert.source)]
    return (db, alert.id, none)
  | none => do
    let alert : FraudAlert :=
      { id := (env.part 1).uuid4 0, customerId := customer.id,
        authProviderUid := customer.authProviderUid, creditAccountId := account.id,
        cardId := card.id, cardLastFour := card.lastFour, status := .isOpen,
        source := "MODEL_DETECTED_FRAUD", messageThreadId := ((env.part 1).uuid4 1).str,
        suspiciousAuthorizationIds := [hold.id.str], suspiciousTransactions := [item],
        remediationStatus := "NOT_STARTED", triagedAt := none,
        selectedDisputedAuthorizationIds := [], selectedDisputedTransactionIds := [],
        provisionalCreditCents := 0, replacementCardId := none, createdAt := env.now,
        resolvedAt := none }
    let alerts ← insert db.fraudAlerts alert
    let db ← recordAudit { db with fraudAlerts := alerts } (env.part 2) "FRAUD_ALERT_CREATED"
      [("fraud_alert_id", .text alert.id.str), ("customer_id", .text customer.id.str),
        ("credit_account_id", .text account.id.str), ("card_last_four", .text card.lastFour),
        ("authorization_ids", .texts [hold.id.str]), ("source", .text alert.source)]
    let db ← sendSecureMessage db (env.part 3) customer.authProviderUid alert.messageThreadId
    return (db, alert.id, some
      [("fraud_alert_id", .text alert.id.str), ("correlation_id", .text alert.id.str),
        ("customer_id", .text customer.id.str),
        ("message_id", .text ((env.part 3).uuid4 1).str),
        ("thread_id", .text alert.messageThreadId), ("channel", .text "SECURE_MESSAGE_AND_PUSH"),
        ("source", .text alert.source)])

/-- A hold that is stored but not yet counted in the available credit. With a notice to record, it
is committed. -/
structure PlacedHold where
  hold : TransactionAuthorization
  fraudAlertId : Option Uuid
  notice : Option (List (String × JsonValue))

/-- A hold that is approved, or flagged for the customer to confirm. -/
def approvedHold (env : Ambient) (r : CardAuthHoldRequest) (f : FraudEvaluation)
    (card : IssuedCard) (account : CreditAccount) : TransactionAuthorization :=
  let now := r.createdAt.getD env.now
  newHold env r card account.id (if f.isFlagged then .flagged else .pending) "NONE"
    (toString (100000 + (env.part 0).randbelow 900000)) (some f.score) now
    (now + 7 * 24 * 3600 * 1000000)

/-- A score above the threshold raises an alert, unless the customer is unknown. -/
def raiseAlert (db : Db) (env : Ambient) (f : FraudEvaluation) (card : IssuedCard)
    (account : CreditAccount) (hold : TransactionAuthorization) (alert : Option FraudAlert) :
    Except PyException (Db × Option Uuid × Option (List (String × JsonValue))) :=
  match if f.raisesAlert then db.users.get? account.customerId else none with
  | none => .ok (db, none, none)
  | some customer => do
    let (db, alertId, notice) ← createOrUpdateAlert db env customer card account hold alert
    return (db, some alertId, notice)

def placeHold (db : Db) (env : Ambient) (r : CardAuthHoldRequest) (f : FraudEvaluation)
    (card : IssuedCard) (account : CreditAccount) (alert : Option FraudAlert) :
    Except PyException (Db × PlacedHold) := do
  let hold := approvedHold env r f card account
  let db ← addAuthorization db hold
  let db ← recordAudit db (env.part 1) "FRAUD_MODEL_DECISION_RECORDED"
    [("authorization_id", .text hold.id.str), ("customer_id", .text account.customerId.str),
      ("credit_account_id", .text account.id.str), ("card_id", .text card.id.str),
      ("score", .int f.score)]
  let (db, alertId, notice) ← raiseAlert db (env.part 3) f card account hold alert
  return (db, ⟨hold, alertId, notice⟩)

def finishHold (db : Db) (env : Ambient) (r : CardAuthHoldRequest) (placed : PlacedHold)
    (account : CreditAccount) : Except PyException (Db × AuthorizationResponse) := do
  let (db, account) ← recalculateAvailableCredit db account account
  let db ← recordAudit db (env.part 4)
    (if placed.hold.status = .flagged then "CREDIT_AUTHORIZATION_FLAGGED"
      else "CREDIT_AUTHORIZATION_AUTHORIZED")
    [("authorization_id", .text placed.hold.id.str), ("card_id", .text placed.hold.cardId.str),
      ("account_id", .text account.id.str),
      ("retrieval_reference_number", .text r.retrievalReferenceNumber),
      ("amount_cents", .int r.amountCents), ("currency", .text account.currency.text)]
  return (db, ⟨"00", placed.hold.authCode, some placed.hold.id, placed.hold.status, "NONE",
    placed.fraudAlertId⟩)

/-- How a call goes on once its writes are done: answered, or with a hold that a new alert's
message has already committed. -/
abbrev HoldProgress := AuthorizationResponse ⊕ PlacedHold

/-- Everything under the account lock. `alert` is the open alert as the session loaded it. -/
def authorizeUnderLock (db : Db) (env : Ambient) (r : CardAuthHoldRequest) (f : FraudEvaluation)
    (card : IssuedCard) (account : CreditAccount) (alert : Option FraudAlert) :
    Except PyException (Db × HoldProgress) :=
  if account.status ≠ .active then do
    let (db, response) ← declineAccountFrozen db env r card account
    return (db, .inl response)
  else if r.amountCents > account.availableCreditCents then do
    let (db, response) ← declineInsufficientFunds db env r card account
    return (db, .inl response)
  else do
    let (db, placed) ← placeHold db env r f card account alert
    if placed.notice.isSome then return (db, .inr placed)
    else do
      let (db, response) ← finishHold db env r placed account
      return (db, .inl response)

/-- A declined call adds at most a declined hold. -/
structure Declined (db : Db) (r : CardAuthHoldRequest) (account : CreditAccount) (db' : Db) :
    Prop where
  credit : db'.creditAccounts = db.creditAccounts
  holds : db'.authorizations = db.authorizations ∨
    ∃ hold, hold.accountId = account.id ∧ hold.status = .declined ∧
      hold.retrievalReferenceNumber = r.retrievalReferenceNumber ∧
      db.authorizations.insert? hold = some db'.authorizations

/-- A placed hold is stored before anything is counted. -/
structure Placed (db : Db) (r : CardAuthHoldRequest) (f : FraudEvaluation) (card : IssuedCard)
    (account : CreditAccount) (hold : TransactionAuthorization) (db' : Db) : Prop where
  stored : db.authorizations.insert? hold = some db'.authorizations
  hold : hold.accountId = account.id ∧ hold.cardId = card.id ∧
    hold.billingAmountCents = r.amountCents ∧
    hold.retrievalReferenceNumber = r.retrievalReferenceNumber ∧
    hold.status = if f.isFlagged then .flagged else .pending
  credit : db'.creditAccounts = db.creditAccounts

theorem createOrUpdateAlert_frame {db db' : Db} {env : Ambient} {customer : User}
    {card : IssuedCard} {account : CreditAccount} {hold : TransactionAuthorization}
    {alert : Option FraudAlert} {id : Uuid} {notice : Option (List (String × JsonValue))}
    (h : createOrUpdateAlert db env customer card account hold alert = .ok (db', id, notice)) :
    ∃ alerts users outbox,
      db' = { db with fraudAlerts := alerts, users := users, auditOutbox := outbox } := by
  cases alert with
  | some alert =>
    simp only [createOrUpdateAlert, bind_eq_ok, recordAudit_eq_ok, pure_eq_ok] at h
    obtain ⟨db₁, ⟨outbox, -, rfl⟩, h⟩ := h
    cases h
    exact ⟨_, _, outbox, rfl⟩
  | none =>
    simp only [createOrUpdateAlert, bind_eq_ok, insert_eq_ok, recordAudit_eq_ok, pure_eq_ok] at h
    obtain ⟨alerts, -, db₁, ⟨outbox, -, rfl⟩, db₂, hsent, h⟩ := h
    obtain ⟨users, outbox, rfl⟩ := sendSecureMessage_frame hsent
    cases h
    exact ⟨alerts, users, outbox, rfl⟩

theorem raiseAlert_frame {db db' : Db} {env : Ambient} {f : FraudEvaluation} {card : IssuedCard}
    {account : CreditAccount} {hold : TransactionAuthorization} {alert : Option FraudAlert}
    {id : Option Uuid} {notice : Option (List (String × JsonValue))}
    (h : raiseAlert db env f card account hold alert = .ok (db', id, notice)) :
    ∃ alerts users outbox,
      db' = { db with fraudAlerts := alerts, users := users, auditOutbox := outbox } := by
  unfold raiseAlert at h
  split at h
  · cases h
    exact ⟨_, _, _, rfl⟩
  · simp only [bind_eq_ok, pure_eq_ok] at h
    obtain ⟨⟨db₁, alertId, c⟩, hc, h⟩ := h
    cases h
    exact createOrUpdateAlert_frame hc

theorem placed_of_ok {db db' : Db} {env : Ambient} {r : CardAuthHoldRequest}
    {f : FraudEvaluation} {card : IssuedCard} {account : CreditAccount}
    {alert : Option FraudAlert} {placed : PlacedHold}
    (h : placeHold db env r f card account alert = .ok (db', placed)) :
    Placed db r f card account placed.hold db' := by
  simp only [placeHold, addAuthorization, bind_eq_ok, insert_eq_ok, recordAudit_eq_ok,
    pure_eq_ok] at h
  obtain ⟨db₁, ⟨holds, hholds, rfl⟩, db₂, ⟨outbox, -, rfl⟩, ⟨db₃, id, notice⟩, ha, h⟩ := h
  cases h
  obtain ⟨alerts, users, outbox', rfl⟩ := raiseAlert_frame ha
  exact ⟨hholds, ⟨rfl, rfl, rfl, rfl, rfl⟩, rfl⟩

theorem finishHold_effect {db db' : Db} {env : Ambient} {r : CardAuthHoldRequest}
    {placed : PlacedHold} {account : CreditAccount} {response : AuthorizationResponse}
    (h : finishHold db env r placed account = .ok (db', response)) :
    ∃ updated, updated = { account with
        availableCreditCents := headroom account.creditLimitCents
          (account.clearedBalanceCents + heldTotal db' account.id) } ∧
      db'.creditAccounts = (saveAccount db account updated).creditAccounts ∧
      db'.authorizations = db.authorizations := by
  simp only [finishHold, bind_eq_ok, recordAudit_eq_ok, pure_eq_ok] at h
  obtain ⟨⟨db₁, updated⟩, hr, db₂, ⟨outbox, -, rfl⟩, h⟩ := h
  cases h
  obtain ⟨hbalance, rfl⟩ := recalculate_eq_ok hr
  exact ⟨updated, hbalance, rfl, rfl⟩

theorem declineUnrecorded_frame {db db' : Db} {env : Ambient} {r : CardAuthHoldRequest}
    {context : List (String × JsonValue)} {code reason : String} {response : AuthorizationResponse}
    (h : declineUnrecorded db env r context code reason = .ok (db', response)) :
    ∃ outbox, db' = { db with auditOutbox := outbox } := by
  simp only [declineUnrecorded, bind_eq_ok, recordAudit_eq_ok, pure_eq_ok] at h
  obtain ⟨db₁, ⟨outbox, -, rfl⟩, h⟩ := h
  cases h
  exact ⟨outbox, rfl⟩

theorem declineInsufficientFunds_effect {db db' : Db} {env : Ambient} {r : CardAuthHoldRequest}
    {card : IssuedCard} {account : CreditAccount} {response : AuthorizationResponse}
    (h : declineInsufficientFunds db env r card account = .ok (db', response)) :
    Declined db r account db' := by
  simp only [declineInsufficientFunds, addAuthorization, bind_eq_ok, insert_eq_ok,
    recordAudit_eq_ok, pure_eq_ok] at h
  obtain ⟨db₁, ⟨holds, hholds, rfl⟩, db₂, ⟨outbox, -, rfl⟩, h⟩ := h
  cases h
  exact ⟨rfl, Or.inr ⟨_, rfl, rfl, rfl, hholds⟩⟩

/-- What is left after the commit in the middle. The account is loaded afresh, without a lock. -/
def finishCommittedHold (db : Db) (env : Ambient) (r : CardAuthHoldRequest)
    (placed : PlacedHold) (account : Option CreditAccount) :
    Except PyException (Db × AuthorizationResponse) := do
  let db ← recordAudit db (env.part 5) "FRAUD_ALERT_CUSTOMER_NOTIFIED" (placed.notice.getD [])
  let account ← orRaise account .objectDeletedError
  finishHold db env r placed account

theorem finishCommittedHold_cases {db db' : Db} {env : Ambient} {r : CardAuthHoldRequest}
    {placed : PlacedHold} {row : Option CreditAccount} {response : AuthorizationResponse}
    (h : finishCommittedHold db env r placed row = .ok (db', response)) :
    ∃ outbox account, row = some account ∧
      finishHold { db with auditOutbox := outbox } env r placed account = .ok (db', response) := by
  simp only [finishCommittedHold, bind_eq_ok, recordAudit_eq_ok, orRaise_eq_ok] at h
  obtain ⟨db₁, ⟨outbox, -, rfl⟩, account, hrow, h⟩ := h
  exact ⟨outbox, account, hrow, h⟩

def processAuthorization (db : Db) (env : Ambient) (r : CardAuthHoldRequest)
    (f : FraudEvaluation) : Db × Except PyException AuthorizationResponse :=
  match getAuthorizationByRrn db r.retrievalReferenceNumber with
  | some existing => (db, .ok (duplicateResponse existing))
  | none =>
    match getCardByToken db r.cardToken with
    | none => commitOrRollback db (declineCardNotFound db env r)
    | some card =>
      if card.usable then
        match db.creditAccounts.get? card.accountId with
        | none => commitOrRollback db (declineAccountNotFound db env r card)
        | some account =>
          match authorizeUnderLock db env r f card account
              (getOpenAlertForAccount db account.id) with
          | .error e => (db, .error e)
          | .ok (db, .inl response) => (db, .ok response)
          | .ok (db, .inr placed) =>
            if f.interrupted then (db, .error .operationalError)
            else commitOrRollback db
              (finishCommittedHold db env r placed (db.creditAccounts.get? account.id))
      else commitOrRollback db (declineCardBlocked db env r card)

structure CardSettlementRequest where
  retrievalReferenceNumber : String
  amountCents : ℤ
  postedAt : Option Timestamp
  /-- What merchant enrichment makes of the descriptor. -/
  resolvedDescription : String

structure SettlementResult where
  postedTransactionId : Uuid
  transactionId : Uuid
  financialEventId : String
  clearedBalanceCents : ℤ
  availableCreditCents : ℤ
  deriving DecidableEq

/-- `auth.billing_currency or account.currency`. -/
def settlementCurrency (auth : TransactionAuthorization) (account : CreditAccount) :
    Except PyException CurrencyCode :=
  if auth.billingCurrency = "" then .ok account.currency
  else orRaise (CurrencyCode.ofText? auth.billingCurrency) .validationError

/-- The hold to settle or to reverse; the two differ in the end of the message. -/
def findActiveHold (db : Db) (rrn suffix : String) : Except PyException TransactionAuthorization :=
  orRaise (getActiveAuthorizationByRrn db rrn)
    (.valueError ("No active authorization hold found with RRN: " ++ rrn ++ suffix))

def findLockedAccount (db : Db) (auth : TransactionAuthorization) :
    Except PyException CreditAccount :=
  orRaise (db.creditAccounts.get? auth.accountId) (.valueError "Credit account not found")

/-- Captures a hold: journal, statement row, cleared balance, available credit. -/
def settleHold (db : Db) (env : Ambient) (r : CardSettlementRequest)
    (auth : TransactionAuthorization) (account : CreditAccount) :
    Except PyException (Db × SettlementResult) := do
  let postedAt := r.postedAt.getD env.now
  let (db, mirror) ← ensureCreditJournalAccount db (env.part 0) account
  let (db, clearing) ← ensureSystemJournalAccount db (env.part 1)
    "SYSTEM_CARD_MERCHANT_CLEARING" "Card network merchant settlement clearing" account.currency
  let currency ← settlementCurrency auth account
  let money ← Money.new r.amountCents currency
  let (db, posting) ← postFinancialTransaction db (env.part 2)
    { idempotencyKey := "card-settlement:" ++ r.retrievalReferenceNumber
      userId := some account.customerId
      description := r.resolvedDescription
      sourceType := "CARD_SETTLEMENT"
      sourceReferences :=
        [("authorization_id", .str auth.id.str),
          ("retrieval_reference_number", .str r.retrievalReferenceNumber),
          ("credit_account_id", .str account.id.str)]
      currency := currency
      postedAt := some postedAt
      entries := pairOf mirror.id clearing.id money }
  let postedId := (env.part 3).uuid4 0
  let db ← addPostedTransaction (setHoldStatus db auth.id .settled)
    { id := postedId, accountId := account.id, authorizationId := some auth.id,
      journalTransactionId := some posting.transaction.id, authCode := some auth.authCode,
      retrievalReferenceNumber := some r.retrievalReferenceNumber, amountCents := -r.amountCents,
      description := r.resolvedDescription, postedAt := postedAt }
  let (db, updated) ← recalculateAvailableCredit db account
    { account with clearedBalanceCents := account.clearedBalanceCents + r.amountCents }
  let db := updateMirror db mirror.id updated
  let db ← recordAudit db (env.part 4) "CREDIT_TRANSACTION_SETTLED"
    [("authorization_id", .text auth.id.str), ("posted_transaction_id", .text postedId.str),
      ("transaction_id", .text posting.transaction.id.str),
      ("financial_event_id", .text posting.eventId), ("account_id", .text account.id.str),
      ("retrieval_reference_number", .text r.retrievalReferenceNumber),
      ("amount_cents", .int r.amountCents), ("currency", .text currency.text)]
  return (db, ⟨postedId, posting.transaction.id, posting.eventId, updated.clearedBalanceCents,
    updated.availableCreditCents⟩)

structure Settled (db : Db) (account : CreditAccount) (auth : TransactionAuthorization)
    (r : CardSettlementRequest) (updated : CreditAccount) (statement : PostedTransaction)
    (db' : Db) : Prop where
  holds : db'.authorizations = (setHoldStatus db auth.id .settled).authorizations
  balance : updated = { account with
    clearedBalanceCents := account.clearedBalanceCents + r.amountCents,
    availableCreditCents := headroom account.creditLimitCents
      (account.clearedBalanceCents + r.amountCents + heldTotal db' account.id) }
  posting : ∃ money, money.amountMinor = r.amountCents ∧
    CardPosting db account updated ("card-settlement:" ++ r.retrievalReferenceNumber) .debit money
      statement db'
  statement : statement.accountId = account.id ∧ statement.authorizationId = some auth.id ∧
    statement.amountCents = -r.amountCents

theorem settled_of_ok {db db' : Db} {env : Ambient} {r : CardSettlementRequest}
    {auth : TransactionAuthorization} {account : CreditAccount} {result : SettlementResult}
    (h : settleHold db env r auth account = .ok (db', result)) :
    ∃ updated statement, Settled db account auth r updated statement db' := by
  simp only [settleHold, addPostedTransaction, bind_eq_ok, insert_eq_ok, recordAudit_eq_ok,
    pure_eq_ok] at h
  obtain ⟨⟨db₁, mirror⟩, hm, ⟨db₂, clearing⟩, hc, currency, -, money, hmoney, ⟨db₃, posting⟩, hp,
    db₄, ⟨posted, hposted, rfl⟩, ⟨db₅, updated⟩, hr, db₆, ⟨outbox, -, rfl⟩, h⟩ := h
  cases h
  rw [Money.new_eq_ok] at hmoney
  have hj : CardJournaled db account ("card-settlement:" ++ r.retrievalReferenceNumber) .debit money
      mirror clearing posting.transaction db₃ := cardJournaled (by decide) hm hc rfl hp
  obtain ⟨accounts, txs, entries, box, rfl⟩ := hj.frame
  obtain ⟨hbalance, rfl⟩ := recalculate_eq_ok hr
  have hid : updated.id = account.id := by rw [hbalance]
  refine ⟨updated, _, rfl, hbalance, ⟨money, hmoney.1,
    CardJournaled.posting hj hid rfl hposted rfl rfl rfl rfl⟩, rfl, rfl, rfl⟩

def processSettlement (db : Db) (env : Ambient) (r : CardSettlementRequest) :
    Except PyException (Db × SettlementResult) := do
  require (0 < r.amountCents) (.valueError "Settlement amount must be positive.")
  let auth ← findActiveHold db r.retrievalReferenceNumber ""
  let account ← findLockedAccount db auth
  settleHold db env r auth account

structure CardReversalRequest where
  retrievalReferenceNumber : String
  reason : Option String

def reverseHold (db : Db) (env : Ambient) (r : CardReversalRequest)
    (auth : TransactionAuthorization) (account : CreditAccount) : Except PyException (Db × ℤ) := do
  let db := setHoldStatus db auth.id .reversed
  let (db, updated) ← recalculateAvailableCredit db account account
  let db ← recordAudit db env "CREDIT_AUTHORIZATION_REVERSED"
    [("authorization_id", .text auth.id.str), ("account_id", .text account.id.str),
      ("retrieval_reference_number", .text r.retrievalReferenceNumber),
      ("amount_cents", .int (if auth.billingAmountCents ≠ 0 then auth.billingAmountCents
        else auth.transactionAmountCents)),
      ("currency", .text (if auth.billingCurrency ≠ "" then auth.billingCurrency
        else account.currency.text)),
      ("reason", .text (if r.reason.getD "" ≠ "" then r.reason.getD "" else "NETWORK_REVERSAL"))]
  return (db, updated.availableCreditCents)

theorem holdReleased_of_reverse {db db' : Db} {env : Ambient} {r : CardReversalRequest}
    {auth : TransactionAuthorization} {account : CreditAccount} {available : ℤ}
    (h : reverseHold db env r auth account = .ok (db', available)) :
    ∃ updated, HoldReleased db account auth updated db' := by
  simp only [reverseHold, bind_eq_ok, recordAudit_eq_ok, pure_eq_ok] at h
  obtain ⟨⟨db₁, updated⟩, hr, db₂, ⟨outbox, -, rfl⟩, h⟩ := h
  cases h
  obtain ⟨hbalance, rfl⟩ := recalculate_eq_ok hr
  exact ⟨updated, rfl, hbalance, rfl, rfl, rfl⟩

def processReversal (db : Db) (env : Ambient) (r : CardReversalRequest) :
    Except PyException (Db × ℤ) := do
  let auth ← findActiveHold db r.retrievalReferenceNumber " to reverse."
  let account ← findLockedAccount db auth
  reverseHold db env r auth account

theorem findActiveHold_eq_ok {db : Db} {rrn suffix : String} {auth : TransactionAuthorization}
    (h : findActiveHold db rrn suffix = .ok auth) :
    db.authorizations.get? auth.id = some auth ∧ auth.retrievalReferenceNumber = rrn ∧
      auth.isActive := by
  obtain ⟨hmem, hrrn, hactive⟩ := Table.first?_mem (orRaise_eq_ok.mp h)
  exact ⟨Table.get?_of_mem hmem, hrrn, hactive⟩

theorem findLockedAccount_eq_ok {db : Db} {auth : TransactionAuthorization}
    {account : CreditAccount} (h : findLockedAccount db auth = .ok account) :
    db.creditAccounts.get? account.id = some account ∧ account.id = auth.accountId := by
  have hget := orRaise_eq_ok.mp h
  have hid : account.id = auth.accountId := (Table.get?_eq_some.mp hget).2
  exact ⟨hid ▸ hget, hid⟩

theorem processSettlement_cases {db db' : Db} {env : Ambient} {r : CardSettlementRequest}
    {result : SettlementResult} (h : processSettlement db env r = .ok (db', result)) :
    ∃ auth account, (db.authorizations.get? auth.id = some auth ∧ auth.isActive) ∧
      db.creditAccounts.get? account.id = some account ∧ account.id = auth.accountId ∧
      0 < r.amountCents ∧ settleHold db env r auth account = .ok (db', result) := by
  simp only [processSettlement, bind_eq_ok, require_eq_ok] at h
  obtain ⟨-, hpos, auth, hauth, account, haccount, h⟩ := h
  obtain ⟨hget, -, hactive⟩ := findActiveHold_eq_ok hauth
  obtain ⟨hacc, hid⟩ := findLockedAccount_eq_ok haccount
  exact ⟨auth, account, ⟨hget, hactive⟩, hacc, hid, hpos, h⟩

theorem processReversal_cases {db db' : Db} {env : Ambient} {r : CardReversalRequest}
    {available : ℤ} (h : processReversal db env r = .ok (db', available)) :
    ∃ auth account, db.authorizations.get? auth.id = some auth ∧
      db.creditAccounts.get? account.id = some account ∧ account.id = auth.accountId ∧
      reverseHold db env r auth account = .ok (db', available) := by
  simp only [processReversal, bind_eq_ok] at h
  obtain ⟨auth, hauth, account, haccount, h⟩ := h
  obtain ⟨hget, -, -⟩ := findActiveHold_eq_ok hauth
  obtain ⟨hacc, hid⟩ := findLockedAccount_eq_ok haccount
  exact ⟨auth, account, hget, hacc, hid, h⟩

/-- Under the account lock a call is declined, or its hold is placed and then counted, unless a
commit comes in between. -/
theorem authorizeUnderLock_cases {db db' : Db} {env : Ambient} {r : CardAuthHoldRequest}
    {f : FraudEvaluation} {card : IssuedCard} {account : CreditAccount}
    {alert : Option FraudAlert} {progress : HoldProgress}
    (h : authorizeUnderLock db env r f card account alert = .ok (db', progress)) :
    ((∃ response, progress = .inl response) ∧ Declined db r account db') ∨
    (r.amountCents ≤ account.availableCreditCents ∧ ∃ db₁ placed,
      Placed db r f card account placed.hold db₁ ∧
      ((progress = .inr placed ∧ db' = db₁) ∨
        ∃ response, progress = .inl response ∧
          finishHold db₁ env r placed account = .ok (db', response))) := by
  unfold authorizeUnderLock at h
  split at h
  · simp only [bind_eq_ok, pure_eq_ok] at h
    obtain ⟨⟨db₁, response⟩, hd, h⟩ := h
    cases h
    obtain ⟨outbox, rfl⟩ := declineUnrecorded_frame hd
    exact Or.inl ⟨⟨response, rfl⟩, rfl, Or.inl rfl⟩
  split at h
  · simp only [bind_eq_ok, pure_eq_ok] at h
    obtain ⟨⟨db₁, response⟩, hd, h⟩ := h
    cases h
    exact Or.inl ⟨⟨response, rfl⟩, declineInsufficientFunds_effect hd⟩
  · next hfunds =>
    simp only [bind_eq_ok] at h
    obtain ⟨⟨db₁, placed⟩, hp, h⟩ := h
    refine Or.inr ⟨not_lt.mp hfunds, db₁, placed, placed_of_ok hp, ?_⟩
    split at h
    · cases h
      exact Or.inl ⟨rfl, rfl⟩
    · simp only [bind_eq_ok, pure_eq_ok] at h
      obtain ⟨⟨db₂, response⟩, hf, h⟩ := h
      cases h
      exact Or.inr ⟨response, rfl, hf⟩

end BankingService
