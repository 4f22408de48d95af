import BankingService.CardPostings
import BankingService.FraudRepository
import Mathlib.Algebra.Order.Group.Unbundled.Abs

/-! Servicing of a card account: limit increases, reversals of posted charges, and the steps of
fraud remediation. Each body works on the session's copy of the account and does not commit. -/
namespace BankingService

open Python Relational Checked ClampedCache

structure CreditLimitFacts where
  accountStatus : AccountStatus
  currencyCode : CurrencyCode
  currentLimitMinor : ℤ
  productActive : Option Bool
  minimumLimitMinor : Option ℤ
  maximumLimitMinor : Option ℤ

def creditLimitFacts (account : CreditAccount) (product : Option CreditProduct) :
    CreditLimitFacts :=
  { accountStatus := account.status, currencyCode := account.currency,
    currentLimitMinor := account.creditLimitCents,
    productActive := product.map fun p => p.isActive,
    minimumLimitMinor := product.map fun p => p.minCreditLimitCents,
    maximumLimitMinor := product.map fun p => p.maxCreditLimitCents }

/-- Ordered, closed execution guards; `none` lets the request through. -/
def evaluateCreditLimit (facts : CreditLimitFacts) (amount : ℤ) (currency : CurrencyCode) :
    Option String :=
  if facts.accountStatus ≠ .active then some "ACCOUNT_INACTIVE"
  else if facts.currencyCode ≠ .usd ∨ currency ≠ .usd then some "UNSUPPORTED_CURRENCY"
  else if ¬ (0 < facts.currentLimitMinor ∧ facts.currentLimitMinor ≤ MAX_MINOR) then
    some "ACCOUNT_LIMIT_INVALID"
  else
    match facts.productActive, facts.minimumLimitMinor, facts.maximumLimitMinor with
    | some true, some lo, some hi =>
      if ¬ (0 < lo ∧ lo ≤ hi ∧ hi ≤ MAX_MINOR) then some "PRODUCT_POLICY_INVALID"
      else if ¬ (0 < amount ∧ amount ≤ MAX_MINOR) then some "REQUESTED_LIMIT_INVALID"
      else if amount ≤ facts.currentLimitMinor then some "LIMIT_NOT_INCREASED"
      else if ¬ (lo ≤ amount ∧ amount ≤ hi) then some "PRODUCT_LIMIT_OUT_OF_BOUNDS"
      else none
    | _, _, _ => some "PRODUCT_POLICY_UNAVAILABLE"

def refuseWith (reason : Option String) : Except PyException Unit :=
  match reason with
  | none => .ok ()
  | some r => .error (.valueError ("Credit-limit policy refused the request: " ++ r ++ "."))

structure LimitIncreaseResult where
  accountId : Uuid
  newLimitCents : ℤ
  availableCreditCents : ℤ
  deriving DecidableEq

/-- A strict USD increase. The available credit moves by the change of the limit. -/
def applyLimitIncrease (db : Db) (env : Ambient) (accountId : Uuid) (requestedLimitCents : ℤ) :
    Except PyException (Db × LimitIncreaseResult) := do
  require (0 < requestedLimitCents ∧ requestedLimitCents ≤ MAX_MINOR)
    (.valueError "Requested limit must be positive canonical integer minor units.")
  let account ← orRaise (db.creditAccounts.get? accountId)
    (.valueError "An owned account is required.")
  let product := db.creditProducts.get? account.productCode
  refuseWith (evaluateCreditLimit (creditLimitFacts account product) requestedLimitCents .usd)
  let limitChange := requestedLimitCents - account.creditLimitCents
  require (InRange account.availableCreditCents)
    (.valueError "Current available credit exceeds the canonical Money range.")
  let available := account.availableCreditCents + limitChange
  require (InRange available) (.valueError "Available credit exceeds the canonical Money range.")
  let updated := { account with
    creditLimitCents := requestedLimitCents, availableCreditCents := available,
    lastLimitIncreaseAt := some env.now }
  let db := saveAccount db account updated
  let db ← recordAudit db env "CREDIT_LIMIT_INCREASED"
    [("account_id", .text accountId.str), ("new_limit_cents", .int requestedLimitCents)]
  return (db, ⟨accountId, requestedLimitCents, available⟩)

structure LimitRaised (db : Db) (accountId : Uuid) (account updated : CreditAccount) (limit : ℤ)
    (db' : Db) : Prop where
  found : db.creditAccounts.get? accountId = some account
  positive : 0 < account.creditLimitCents
  raised : account.creditLimitCents < limit
  credit : db'.creditAccounts = (saveAccount db account updated).creditAccounts
  balance : ∃ now, updated = { account with
    creditLimitCents := limit,
    availableCreditCents := account.availableCreditCents + (limit - account.creditLimitCents),
    lastLimitIncreaseAt := some now }
  holds : db'.authorizations = db.authorizations

theorem evaluateCreditLimit_eq_none {facts : CreditLimitFacts} {amount : ℤ}
    {currency : CurrencyCode} (h : evaluateCreditLimit facts amount currency = none) :
    0 < facts.currentLimitMinor ∧ facts.currentLimitMinor < amount := by
  unfold evaluateCreditLimit at h
  split at h
  · cases h
  split at h
  · cases h
  split at h
  · cases h
  next hlimit =>
  rw [not_not] at hlimit
  split at h
  · split_ifs at h with hpolicy hrange hraise
    exact ⟨hlimit.1, not_le.mp hraise⟩
  · cases h

theorem limitRaised_of_ok {db db' : Db} {env : Ambient} {accountId : Uuid} {limit : ℤ}
    {result : LimitIncreaseResult}
    (h : applyLimitIncrease db env accountId limit = .ok (db', result)) :
    ∃ account updated, LimitRaised db accountId account updated limit db' := by
  simp only [applyLimitIncrease, bind_eq_ok, require_eq_ok, orRaise_eq_ok, recordAudit_eq_ok,
    pure_eq_ok] at h
  obtain ⟨-, -, account, hfound, ⟨⟩, hpolicy, -, -, -, -, db₁, ⟨outbox, -, rfl⟩, h⟩ := h
  cases h
  have hnone : evaluateCreditLimit (creditLimitFacts account
      (db.creditProducts.get? account.productCode)) limit .usd = none := by
    unfold refuseWith at hpolicy
    split at hpolicy
    · assumption
    · cases hpolicy
  obtain ⟨hpos, hlt⟩ := evaluateCreditLimit_eq_none hnone
  exact ⟨account, _, hfound, hpos, hlt, rfl, ⟨_, rfl⟩, rfl⟩

structure FeeReversalResult where
  accountId : Uuid
  reversedAmountCents : ℤ
  transactionId : Uuid
  clearedBalanceCents : ℤ
  availableCreditCents : ℤ
  deriving DecidableEq

def lockedAccount (db : Db) (accountId : Uuid) : Except PyException CreditAccount :=
  orRaise (db.creditAccounts.get? accountId)
    (.valueError ("Account '" ++ accountId.str ++ "' not found."))

/-- Credits a posted debit back; the account is locked. The available credit moves by the
amount. -/
def reverseUnderLock (db : Db) (env : Ambient) (account : CreditAccount)
    (transactionId : String) : Except PyException (Db × FeeReversalResult) := do
  let id ← uuidParam transactionId
  let original ← orRaise (getLedgerEntryByIdForAccount db id account.id)
    (.valueError ("Original transaction '" ++ transactionId ++ "' not found in ledger."))
  require (original.amountCents < 0) (.valueError ("Transaction '" ++ transactionId ++
    "' is a credit and cannot be reversed (Amount: " ++ toString original.amountCents ++
    " cents)."))
  match getReversalEntry db account.id transactionId with
  | some prior => .error (.valueError ("Transaction '" ++ transactionId ++
      "' has already been reversed in ledger (Reversal ID: " ++ prior.id.str ++ ")."))
  | none => do
    let reversalAmount := |original.amountCents|
    let description := if original.description = "LATE_FEE"
      then reversalDescriptionOld transactionId else reversalDescriptionNew transactionId
    let (db, mirror) ← ensureCreditJournalAccount db (env.part 0) account
    let (db, clearing) ← ensureSystemJournalAccount db (env.part 1)
      "SYSTEM_CARD_REVERSAL_CLEARING" "Card reversal and dispute clearing" account.currency
    let money ← Money.new reversalAmount account.currency
    let (db, posting) ← postFinancialTransaction db (env.part 2)
      { idempotencyKey := "card-reversal:" ++ transactionId
        userId := some account.customerId
        description := description
        sourceType := "CARD_POSTED_TRANSACTION_REVERSAL"
        sourceReferences :=
          [("credit_account_id", .str account.id.str),
            ("original_statement_transaction_id", .str original.id.str)]
        currency := account.currency
        postedAt := some env.now
        entries := pairOf clearing.id mirror.id money }
    let db ← addPostedTransaction db
      { id := (env.part 3).uuid4 0, accountId := account.id, authorizationId := none,
        journalTransactionId := some posting.transaction.id, authCode := none,
        retrievalReferenceNumber := none, amountCents := reversalAmount,
        description := description, postedAt := env.now }
    let updated := { account with
      clearedBalanceCents := account.clearedBalanceCents - reversalAmount,
      availableCreditCents := account.availableCreditCents + reversalAmount }
    let db := updateMirror (saveAccount db account updated) mirror.id updated
    let db ← recordAudit db (env.part 4) "FEE_REVERSED"
      [("account_id", .text account.id.str), ("reversal_amount_cents", .int reversalAmount),
        ("transaction_id", .text posting.transaction.id.str),
        ("financial_event_id", .text posting.eventId)]
    return (db, ⟨account.id, reversalAmount, posting.transaction.id,
      updated.clearedBalanceCents, updated.availableCreditCents⟩)

structure FeeReversed (db : Db) (account : CreditAccount) (transactionId : String)
    (original : PostedTransaction) (updated : CreditAccount) (statement : PostedTransaction)
    (db' : Db) : Prop where
  found : ∃ id, Uuid.parse? transactionId = some id ∧
    getLedgerEntryByIdForAccount db id account.id = some original
  debit : original.amountCents < 0
  unreversed : getReversalEntry db account.id transactionId = none
  balance : updated = { account with
    clearedBalanceCents := account.clearedBalanceCents - |original.amountCents|,
    availableCreditCents := account.availableCreditCents + |original.amountCents| }
  posting : ∃ money, money.amountMinor = |original.amountCents| ∧
    CardPosting db account updated ("card-reversal:" ++ transactionId) .credit money statement db'
  statement : statement.accountId = account.id ∧ statement.authorizationId = none ∧
    statement.amountCents = |original.amountCents| ∧
    (statement.description = reversalDescriptionOld transactionId ∨
      statement.description = reversalDescriptionNew transactionId)
  holds : db'.authorizations = db.authorizations

theorem feeReversed_of_ok {db db' : Db} {env : Ambient} {account : CreditAccount}
    {transactionId : String} {result : FeeReversalResult}
    (h : reverseUnderLock db env account transactionId = .ok (db', result)) :
    ∃ original updated statement,
      FeeReversed db account transactionId original updated statement db' := by
  simp only [reverseUnderLock, uuidParam, bind_eq_ok, orRaise_eq_ok, require_eq_ok] at h
  obtain ⟨id, hid, original, hfound, -, hdebit, h⟩ := h
  cases hprior : getReversalEntry db account.id transactionId with
  | some prior => simp [hprior] at h
  | none =>
    simp only [hprior, addPostedTransaction, bind_eq_ok, insert_eq_ok, recordAudit_eq_ok,
      pure_eq_ok] at h
    obtain ⟨⟨db₁, mirror⟩, hm, ⟨db₂, clearing⟩, hc, money, hmoney, ⟨db₃, posting⟩, hp, db₄,
      ⟨posted, hposted, rfl⟩, db₅, ⟨outbox, -, rfl⟩, h⟩ := h
    cases h
    rw [Money.new_eq_ok] at hmoney
    have hj : CardJournaled db account ("card-reversal:" ++ transactionId) .credit money mirror
        clearing posting.transaction db₃ := cardJournaled (by decide) hm hc rfl hp
    obtain ⟨accounts, txs, entries, box, rfl⟩ := hj.frame
    refine ⟨original, _, _, ⟨id, hid, hfound⟩, hdebit, hprior, rfl,
      ⟨money, hmoney.1, hj.posting rfl rfl hposted rfl rfl rfl rfl⟩, ⟨rfl, rfl, rfl, ?_⟩, rfl⟩
    dsimp only
    split
    · exact Or.inl rfl
    · exact Or.inr rfl

def reversePostedFee (db : Db) (env : Ambient) (accountId : Uuid) (transactionId : String) :
    Except PyException (Db × FeeReversalResult) := do
  let account ← lockedAccount db accountId
  reverseUnderLock db env account transactionId

def sameDenomination (money : Money) (currency : CurrencyCode) : Except PyException Unit :=
  require (money.currencyCode = currency)
    (.valueError "Fraud result denomination does not match the account")

def normalizeVoid (payload : CaseResult) (currency : CurrencyCode) :
    Except PyException VoidResult :=
  match payload with
  | .voided r => do
    sameDenomination r.voidedAmount currency
    sameDenomination r.availableCredit currency
    return r
  | _ => .error .keyError

def normalizeCredit (payload : CaseResult) (currency : CurrencyCode) :
    Except PyException ProvisionalCreditResult :=
  match payload with
  | .credited r => do
    sameDenomination r.creditedAmount currency
    sameDenomination r.availableCredit currency
    sameDenomination r.clearedBalance currency
    return r
  | _ => .error .keyError

def setHoldStatus (db : Db) (id : Uuid) (status : HoldStatus) : Db :=
  { db with authorizations := db.authorizations.update id fun h => { h with status := status } }

theorem heldTotal_setHoldStatus {db : Db} {auth : TransactionAuthorization} {status : HoldStatus}
    {id : Uuid} (h : db.authorizations.get? auth.id = some auth) (hid : id ≠ auth.accountId) :
    heldTotal (setHoldStatus db auth.id status) id = heldTotal db id := by
  have hother : ∀ s : HoldStatus, (if { auth with status := s }.accountId = id ∧
      TransactionAuthorization.isActive { auth with status := s } then
        auth.billingAmountCents else 0) = 0 :=
    fun s => if_neg fun ⟨ha, _⟩ => hid ha.symm
  unfold heldTotal setHoldStatus
  have htotal := Table.total_update (fun a => { a with status := status }) h
    fun a => if a.accountId = id ∧ a.isActive then a.billingAmountCents else 0
  simpa [hother, hid.symm] using htotal

def voidKey (authorizationId : String) : String := "fraud-auth-void:" ++ authorizationId

/-- Releases a disputed hold; the account is locked. -/
def voidUnderLock (db : Db) (env : Ambient) (account : CreditAccount) (authorizationId : String)
    (fraudAlertId : Uuid) : Except PyException (Db × CreditAccount × VoidResult) := do
  let id ← uuidParam authorizationId
  let auth ← orRaise (getAuthorizationByIdForAccount db id account.id)
    (.valueError ("Authorization '" ++ authorizationId ++ "' not found for account."))
  require auth.isActive (.valueError ("Authorization '" ++ authorizationId ++
    "' is not pending and cannot be voided."))
  let (db, action) ← createCaseAction db (env.part 0) fraudAlertId "FRAUD_AUTHORIZATION_VOIDED"
    (voidKey authorizationId)
  let release ← Money.ofText auth.billingAmountCents auth.billingCurrency
  require (release.currencyCode = account.currency ∧ 0 ≤ release.amountMinor)
    (.valueError "Authorization billing Money does not match the account")
  let db := setHoldStatus db auth.id .reversed
  let (db, updated) ← recalculateAvailableCredit db account account
  let available ← Money.new updated.availableCreditCents account.currency
  let result : VoidResult := ⟨account.id, auth.id, fraudAlertId, release, available⟩
  let db ← recordAudit db (env.part 1) "FRAUD_AUTHORIZATION_VOIDED"
    [("fraud_alert_id", .text fraudAlertId.str), ("account_id", .text account.id.str),
      ("card_id", .text auth.cardId.str), ("authorization_id", .text auth.id.str),
      ("money", .money release)]
  return (completeCaseAction db env action.id (.voided result), updated, result)

structure HoldReleased (db : Db) (account : CreditAccount) (auth : TransactionAuthorization)
    (updated : CreditAccount) (db' : Db) : Prop where
  holds : db'.authorizations = (setHoldStatus db auth.id .reversed).authorizations
  balance : updated = { account with
    availableCreditCents := headroom account.creditLimitCents
      (account.clearedBalanceCents + heldTotal db' account.id) }
  credit : db'.creditAccounts = (saveAccount db account updated).creditAccounts
  posted : db'.postedTransactions = db.postedTransactions
  journal : db'.transactions = db.transactions

theorem holdReleased_of_void {db db' : Db} {env : Ambient} {account updated : CreditAccount}
    {authorizationId : String} {fraudAlertId : Uuid} {result : VoidResult}
    (h : voidUnderLock db env account authorizationId fraudAlertId = .ok (db', updated, result)) :
    ∃ id auth, Uuid.parse? authorizationId = some id ∧
      getAuthorizationByIdForAccount db id account.id = some auth ∧ auth.isActive ∧
      HoldReleased db account auth updated db' := by
  simp only [voidUnderLock, uuidParam, bind_eq_ok, orRaise_eq_ok, require_eq_ok,
    recordAudit_eq_ok, pure_eq_ok] at h
  obtain ⟨id, hid, auth, hauth, -, hactive, ⟨db₁, action⟩, ha, release, -, -, -, ⟨db₂, account'⟩,
    hr, available, -, db₃, ⟨outbox, -, rfl⟩, h⟩ := h
  cases h
  obtain ⟨actions, rfl⟩ := createCaseAction_frame ha
  obtain ⟨hbalance, rfl⟩ := recalculate_eq_ok hr
  exact ⟨id, auth, hid, hauth, hactive, rfl, hbalance, rfl, rfl, rfl⟩

/-- Voids a hold, once for each alert and spelling of the hold's id. -/
def voidFraudAuthorizationHold (db : Db) (env : Ambient) (account : CreditAccount)
    (authorizationId : String) (fraudAlertId : Uuid) :
    Except PyException (Db × CreditAccount × VoidResult) :=
  match getSucceededAction db fraudAlertId (voidKey authorizationId) with
  | some action => do
    let result ← normalizeVoid action.resultPayload account.currency
    return (db, account, result)
  | none => voidUnderLock db env account authorizationId fraudAlertId

def creditKey (transactionId : String) : String := "fraud-provisional-credit:" ++ transactionId

def creditUnderLock (db : Db) (env : Ambient) (account : CreditAccount) (transactionId : String)
    (fraudAlertId : Uuid) : Except PyException (Db × CreditAccount × ProvisionalCreditResult) := do
  let id ← uuidParam transactionId
  let original ← orRaise (getLedgerEntryByIdForAccount db id account.id)
    (.valueError ("Posted transaction '" ++ transactionId ++ "' not found for account."))
  require (original.amountCents < 0) (.valueError ("Posted transaction '" ++ transactionId ++
    "' is not a debit and cannot receive a provisional credit."))
  require (getFraudProvisionalCreditEntry db account.id transactionId = none)
    (.valueError ("Posted transaction '" ++ transactionId ++
      "' already has a provisional fraud credit."))
  let (db, action) ← createCaseAction db (env.part 0) fraudAlertId
    "FRAUD_PROVISIONAL_CREDIT_APPLIED" (creditKey transactionId)
  let creditAmount := |original.amountCents|
  let (db, mirror) ← ensureCreditJournalAccount db (env.part 1) account
  let (db, clearing) ← ensureSystemJournalAccount db (env.part 2)
    "SYSTEM_FRAUD_LOSS_CLEARING" "Fraud provisional credit loss clearing" account.currency
  let money ← Money.new creditAmount account.currency
  let (db, posting) ← postFinancialTransaction db (env.part 3)
    { idempotencyKey := "fraud-provisional-credit-journal:" ++ transactionId
      userId := some account.customerId
      description := "Fraud provisional credit for " ++ transactionId
      sourceType := "FRAUD_PROVISIONAL_CREDIT"
      sourceReferences :=
        [("fraud_alert_id", .str fraudAlertId.str),
          ("original_statement_transaction_id", .str original.id.str),
          ("credit_account_id", .str account.id.str)]
      currency := account.currency
      postedAt := some env.now
      entries := pairOf clearing.id mirror.id money }
  let creditId := (env.part 4).uuid4 0
  let db ← addPostedTransaction db
    { id := creditId, accountId := account.id, authorizationId := none,
      journalTransactionId := some posting.transaction.id, authCode := none,
      retrievalReferenceNumber := none, amountCents := creditAmount,
      description := provisionalCreditDescription transactionId, postedAt := env.now }
  let (db, updated) ← recalculateAvailableCredit db account
    { account with clearedBalanceCents := account.clearedBalanceCents - creditAmount }
  let db := updateMirror db mirror.id updated
  let cleared ← Money.new updated.clearedBalanceCents account.currency
  let available ← Money.new updated.availableCreditCents account.currency
  let result : ProvisionalCreditResult :=
    ⟨account.id, original.id, creditId, fraudAlertId, money, posting.transaction.id, cleared,
      available⟩
  let db ← recordAudit db (env.part 5) "FRAUD_PROVISIONAL_CREDIT_APPLIED"
    [("fraud_alert_id", .text fraudAlertId.str), ("account_id", .text account.id.str),
      ("posted_transaction_id", .text original.id.str),
      ("provisional_credit_transaction_id", .text creditId.str), ("money", .money money),
      ("transaction_id", .text posting.transaction.id.str),
      ("financial_event_id", .text posting.eventId)]
  return (completeCaseAction db env action.id (.credited result), updated, result)

structure ProvisionallyCredited (db : Db) (account : CreditAccount) (transactionId : String)
    (original : PostedTransaction) (updated : CreditAccount) (statement : PostedTransaction)
    (db' : Db) : Prop where
  found : ∃ id, Uuid.parse? transactionId = some id ∧
    getLedgerEntryByIdForAccount db id account.id = some original
  debit : original.amountCents < 0
  uncredited : getFraudProvisionalCreditEntry db account.id transactionId = none
  balance : updated = { account with
    clearedBalanceCents := account.clearedBalanceCents - |original.amountCents|,
    availableCreditCents := headroom account.creditLimitCents
      (account.clearedBalanceCents - |original.amountCents| + heldTotal db' account.id) }
  posting : ∃ money, money.amountMinor = |original.amountCents| ∧
    CardPosting db account updated ("fraud-provisional-credit-journal:" ++ transactionId) .credit
      money statement db'
  statement : statement.accountId = account.id ∧ statement.authorizationId = none ∧
    statement.amountCents = |original.amountCents| ∧
    statement.description = provisionalCreditDescription transactionId
  holds : db'.authorizations = db.authorizations

theorem provisionallyCredited_of_ok {db db' : Db} {env : Ambient} {account updated : CreditAccount}
    {transactionId : String} {fraudAlertId : Uuid} {result : ProvisionalCreditResult}
    (h : creditUnderLock db env account transactionId fraudAlertId = .ok (db', updated, result)) :
    ∃ original statement,
      ProvisionallyCredited db account transactionId original updated statement db' := by
  simp only [creditUnderLock, uuidParam, addPostedTransaction, bind_eq_ok, orRaise_eq_ok,
    require_eq_ok, insert_eq_ok, recordAudit_eq_ok, pure_eq_ok] at h
  obtain ⟨id, hid, original, hfound, -, hdebit, -, hprior, ⟨db₀, action⟩, ha, ⟨db₁, mirror⟩, hm,
    ⟨db₂, clearing⟩, hc, money, hmoney, ⟨db₃, posting⟩, hp, db₄, ⟨posted, hposted, rfl⟩,
    ⟨db₅, account'⟩, hr, cleared, -, available, -, db₆, ⟨outbox, -, rfl⟩, h⟩ := h
  cases h
  rw [Money.new_eq_ok] at hmoney
  obtain ⟨actions, rfl⟩ := createCaseAction_frame ha
  have hj : CardJournaled { db with fraudCaseActions := actions } account
      ("fraud-provisional-credit-journal:" ++ transactionId) .credit money mirror clearing
      posting.transaction db₃ := cardJournaled (by decide) hm hc rfl hp
  obtain ⟨accounts, txs, entries, box, rfl⟩ := hj.frame
  obtain ⟨hbalance, rfl⟩ := recalculate_eq_ok hr
  have hid' : account'.id = account.id := by rw [hbalance]
  refine ⟨original, _, ⟨id, hid, hfound⟩, hdebit, hprior, hbalance, ⟨money, hmoney.1,
    CardPosting.of_tables (hj.posting hid' rfl hposted rfl rfl rfl rfl) rfl rfl rfl rfl rfl⟩,
    ⟨rfl, rfl, rfl, rfl⟩, rfl⟩

/-- Credits a debit, once for each alert and spelling of the debit's id. -/
def applyFraudProvisionalCredit (db : Db) (env : Ambient) (account : CreditAccount)
    (transactionId : String) (fraudAlertId : Uuid) :
    Except PyException (Db × CreditAccount × ProvisionalCreditResult) :=
  match getSucceededAction db fraudAlertId (creditKey transactionId) with
  | some action => do
    let result ← normalizeCredit action.resultPayload account.currency
    return (db, account, result)
  | none => creditUnderLock db env account transactionId fraudAlertId

/-- The account of a remediation call. A completed action is answered without a lock. -/
def remediatedAccount (db : Db) (accountId fraudAlertId : Uuid) (key : String) :
    Except PyException CreditAccount :=
  match getSucceededAction db fraudAlertId key with
  | some _ => orRaise (db.creditAccounts.get? accountId)
      (.valueError "Fraud result account no longer exists")
  | none => lockedAccount db accountId

def voidOnAccount (db : Db) (env : Ambient) (accountId : Uuid) (authorizationId : String)
    (fraudAlertId : Uuid) : Except PyException (Db × VoidResult) := do
  let account ← remediatedAccount db accountId fraudAlertId (voidKey authorizationId)
  let (db, _, result) ← voidFraudAuthorizationHold db env account authorizationId fraudAlertId
  return (db, result)

def creditOnAccount (db : Db) (env : Ambient) (accountId : Uuid) (transactionId : String)
    (fraudAlertId : Uuid) : Except PyException (Db × ProvisionalCreditResult) := do
  let account ← remediatedAccount db accountId fraudAlertId (creditKey transactionId)
  let (db, _, result) ← applyFraudProvisionalCredit db env account transactionId fraudAlertId
  return (db, result)

theorem remediatedAccount_eq_ok {db : Db} {accountId fraudAlertId : Uuid} {key : String}
    {account : CreditAccount} (h : remediatedAccount db accountId fraudAlertId key = .ok account) :
    db.creditAccounts.get? accountId = some account := by
  unfold remediatedAccount at h
  split at h
  · exact orRaise_eq_ok.mp h
  · exact orRaise_eq_ok.mp h

theorem voidFraudAuthorizationHold_cases {db db' : Db} {env : Ambient}
    {account updated : CreditAccount} {authorizationId : String} {fraudAlertId : Uuid}
    {result : VoidResult}
    (h : voidFraudAuthorizationHold db env account authorizationId fraudAlertId =
      .ok (db', updated, result)) :
    (db' = db ∧ updated = account) ∨
      voidUnderLock db env account authorizationId fraudAlertId = .ok (db', updated, result) := by
  unfold voidFraudAuthorizationHold at h
  split at h
  · simp only [bind_eq_ok, pure_eq_ok] at h
    obtain ⟨result, -, h⟩ := h
    cases h
    exact Or.inl ⟨rfl, rfl⟩
  · exact Or.inr h

theorem applyFraudProvisionalCredit_cases {db db' : Db} {env : Ambient}
    {account updated : CreditAccount} {transactionId : String} {fraudAlertId : Uuid}
    {result : ProvisionalCreditResult}
    (h : applyFraudProvisionalCredit db env account transactionId fraudAlertId =
      .ok (db', updated, result)) :
    (db' = db ∧ updated = account) ∨
      (getSucceededAction db fraudAlertId (creditKey transactionId) = none ∧
        creditUnderLock db env account transactionId fraudAlertId =
          .ok (db', updated, result)) := by
  unfold applyFraudProvisionalCredit at h
  split at h
  · simp only [bind_eq_ok, pure_eq_ok] at h
    obtain ⟨result, -, h⟩ := h
    cases h
    exact Or.inl ⟨rfl, rfl⟩
  · next hn => exact Or.inr ⟨hn, h⟩

structure ReplacementResult where
  accountId : Uuid
  oldCardId : Uuid
  newCardId : Uuid
  newLastFour : String
  deriving DecidableEq

def generateLastFour (env : Ambient) : String :=
  let digits := toString (env.randbelow 10000)
  String.ofList (List.replicate (4 - digits.length) '0') ++ digits

def IssuedCard.deactivate (c : IssuedCard) : IssuedCard :=
  { c with isActive := false, status := if c.status = .active then .blocked else c.status }

def findReplacedCard (db : Db) (accountId : Uuid) (compromisedCardId : Option Uuid) :
    Except PyException IssuedCard :=
  let cards := db.issuedCards.select fun c => c.accountId = accountId
  match compromisedCardId with
  | some id => do
    let card ← orRaise (cards.find? fun c => c.id = id)
      (.valueError "Compromised card not found for the specified account.")
    require (card.status ≠ .expired)
      (.valueError ("Card '" ++ id.str ++ "' is not eligible for replacement."))
    return card
  | none =>
    orRaise ((cards.find? fun c => c.isActive).or
        (cards.find? fun c => c.status = .blocked ∨ c.status = .reportedStolen))
      (.valueError "No existing card found for replacement.")

/-- Blocks the compromised card, or every active one, and issues another. -/
def issueReplacementCard (db : Db) (env : Ambient) (accountId : Uuid) (reason : String)
    (issueVirtualCard : Bool) (fraudAlertId compromisedCardId : Option Uuid) :
    Except PyException (Db × ReplacementResult) := do
  let account ← orRaise (db.creditAccounts.get? accountId)
    (.valueError ("Account '" ++ accountId.str ++ "' not found."))
  let current ← findReplacedCard db account.id compromisedCardId
  let blocked := match compromisedCardId with
    | some _ => [current]
    | none => db.issuedCards.select fun c => c.accountId = account.id ∧ c.isActive
  let cards := blocked.foldl (fun t c => t.update c.id IssuedCard.deactivate) db.issuedCards
  let replacement : IssuedCard :=
    { id := (env.part 0).uuid4 0, accountId := account.id,
      cardholderName := current.cardholderName,
      cardToken := "tok_visa_reissue_" ++ (env.part 1).tokenHex 8,
      lastFour := generateLastFour (env.part 2), isActive := true, expMonth := current.expMonth,
      expYear := max current.expYear (env.year + 4), status := .active,
      isVirtual := issueVirtualCard }
  let cards ← insert cards replacement
  let db ← recordAudit { db with issuedCards := cards } (env.part 3) "CARD_REPLACED"
    [("account_id", .text account.id.str), ("old_card_id", .text current.id.str),
      ("old_card_token", .text current.cardToken), ("new_card_id", .text replacement.id.str),
      ("new_card_token", .text replacement.cardToken),
      ("new_last_four", .text replacement.lastFour), ("reason", .text reason),
      ("is_virtual", .bool issueVirtualCard),
      ("fraud_alert_id", (fraudAlertId.map fun id => JsonValue.text id.str).getD .null)]
  return (db, ⟨account.id, current.id, replacement.id, replacement.lastFour⟩)

end BankingService
