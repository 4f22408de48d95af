import BankingService.CreditCardServicing

/-! Bill payments from a deposit account to a card, the sweep that archives their stored
responses, and the opening of deposit accounts. -/
namespace BankingService

open Python Relational Checked ClampedCache

structure BillPaymentRequest where
  userId : Uuid
  sourceAccountId : String
  creditAccountId : String
  money : Money
  idempotencyKey : String

structure BillPayment where
  userId : Uuid
  sourceAccountId : Uuid
  creditAccountId : Uuid
  money : Money
  idempotencyKey : String
  positive : 0 < money.amountMinor
  key_given : strip idempotencyKey ≠ "" ∧ idempotencyKey.length ≤ 128
  deriving DecidableEq

def accountUuid (text : String) : Except PyException Uuid :=
  orRaise (Uuid.parse? text) (.httpException 400 "Account identifiers must be UUIDs.")

def validatePayment (r : BillPaymentRequest) : Except PyException BillPayment :=
  if hm : 0 < r.money.amountMinor then
    if hk : strip r.idempotencyKey ≠ "" ∧ r.idempotencyKey.length ≤ 128 then do
      let source ← accountUuid r.sourceAccountId
      let credit ← accountUuid r.creditAccountId
      return ⟨r.userId, source, credit, r.money, r.idempotencyKey, hm, hk⟩
    else .error (.httpException 400
      "A non-empty Idempotency-Key (max 128 characters) is required.")
  else .error (.httpException 400 "Payment requires positive Money.")

section
variable (sha256 : String → String)

/-- The key under which a customer's payment is stored. -/
def durableKey (userId : Uuid) (idempotencyKey : String) : String :=
  "bill-payment:" ++ sha256 (userId.str ++ ":" ++ idempotencyKey)

/-- `json.dumps` of the accounts and the money, with sorted keys. -/
def paymentDocument (p : BillPayment) : String :=
  "\x7b\"credit_account_id\": \"" ++ p.creditAccountId.str ++
    "\", \"money\": \x7b\"amount_minor\": " ++ toString p.money.amountMinor ++
    ", \"currency_code\": \"" ++ p.money.currencyCode.text ++
    "\"\x7d, \"source_account_id\": \"" ++ p.sourceAccountId.str ++ "\"\x7d"

def requestHash (p : BillPayment) : String := sha256 (paymentDocument p)

def replayPayment (db : Db) (p : BillPayment) : Except PyException (Option BillPaymentResult) :=
  match findTransaction db (durableKey sha256 p.userId p.idempotencyKey) with
  | none => .ok none
  | some existing =>
    if existing.requestHash ≠ some (requestHash sha256 p) then
      .error (.httpException 409
        "Idempotency key reused with different account, amount, or currency.")
    else
      match existing.responsePayload with
      | none => .error (.httpException 409 "Payment is in progress. Retry with the same key.")
      | some (.billPayment result) => .ok (some result)
      | some (.transfer _) => .error .validationError

def getDepositAccountForUser (db : Db) (userId accountId : Uuid) : Option Account :=
  (db.accounts.get? accountId).filter fun a => a.userId = some userId ∧ a.status = .active

def Account.isDeposit (a : Account) : Prop := a.accountType = .checking ∨ a.accountType = .savings

instance : DecidablePred Account.isDeposit := fun _ => inferInstanceAs (Decidable (_ ∨ _))

def findSource (db : Db) (p : BillPayment) : Except PyException Account :=
  orRaise ((getDepositAccountForUser db p.userId p.sourceAccountId).filter fun a => a.isDeposit)
    (.httpException 404 "Source deposit account not found.")

def getCreditAccountForUser (db : Db) (userId accountId : Uuid) : Option CreditAccount :=
  (db.creditAccounts.get? accountId).filter fun a => a.customerId = userId ∧ a.status = .active

def findTarget (db : Db) (p : BillPayment) : Except PyException CreditAccount :=
  orRaise (getCreditAccountForUser db p.userId p.creditAccountId)
    (.httpException 404 "Target credit account not found.")

def checkFunds (p : BillPayment) (deposit : Account) (card : CreditAccount) :
    Except PyException Unit := do
  require (deposit.currency = p.money.currencyCode ∧ card.currency = p.money.currencyCode)
    (.httpException 422 "Payment and both account currencies must match.")
  require (p.money.amountMinor ≤ deposit.clearedBalanceCents)
    (.httpException 422 "Insufficient funds in source account.")
  require (p.money.amountMinor ≤ card.clearedBalanceCents)
    (.httpException 422 "Payment exceeds outstanding card balance.")

def findMirror (db : Db) (card : CreditAccount) : Option Account :=
  db.accounts.first? fun a => a.creditAccountId = some card.id

def checkMirror (p : BillPayment) (mirror : Option Account) : Except PyException Unit :=
  match mirror with
  | none => .ok ()
  | some m => require (m.currency = p.money.currencyCode)
      (.httpException 422 "Card journal denomination mismatch.")

def idTail (id : Uuid) : String := String.ofList (id.str.toList.drop 32)

/-- `deposit_acc.cleared_balance_cents -= amount`. -/
def debitDeposit (db : Db) (deposit : Account) (amount : ℤ) : Db :=
  { db with
    accounts := db.accounts.update deposit.id fun a =>
      { a with clearedBalanceCents := deposit.clearedBalanceCents - amount } }

def storeResponse (db : Db) (transactionId : Uuid) (hash : Option String)
    (payload : ResponsePayload) : Db :=
  { db with
    transactions := db.transactions.update transactionId fun t =>
      { t with requestHash := hash, responsePayload := some payload, responseStatus := some 200 } }

/-- Moves the money. The accounts are locked and `existing` is what the journal's lookup of the
key gave. -/
def executePayment (db : Db) (env : Ambient) (p : BillPayment) (deposit : Account)
    (card : CreditAccount) (existing : Option Transaction) :
    Except PyException (Db × BillPaymentResult) := do
  let amount := p.money.amountMinor
  let (db, mirror) ← ensureCreditJournalAccount db (env.part 0) card
  let (db, posting) ← postAfterLookup db (env.part 1)
    { idempotencyKey := durableKey sha256 p.userId p.idempotencyKey
      userId := some p.userId
      description := "Credit Card Bill Payment to Account ending in " ++ idTail card.id
      sourceType := "CREDIT_CARD_BILL_PAYMENT"
      currency := p.money.currencyCode
      sourceReferences :=
        [("source_account_id", .str p.sourceAccountId.str),
          ("credit_account_id", .str p.creditAccountId.str)]
      entries := pairOf deposit.id mirror.id p.money } existing
  let (db, updated) ← recalculateAvailableCredit (debitDeposit db deposit amount) card
    { card with clearedBalanceCents := card.clearedBalanceCents - amount }
  let statementId := (env.part 2).uuid4 0
  let db ← addPostedTransaction (updateMirror db mirror.id updated)
    { id := statementId, accountId := card.id, authorizationId := none,
      journalTransactionId := some posting.transaction.id, authCode := none,
      retrievalReferenceNumber := none, amountCents := amount,
      description := "Bill Payment Received - Thank You", postedAt := env.now }
  let source ← Money.new (deposit.clearedBalanceCents - amount) p.money.currencyCode
  let cleared ← Money.new updated.clearedBalanceCents p.money.currencyCode
  let available ← Money.new updated.availableCreditCents p.money.currencyCode
  let result : BillPaymentResult :=
    { transactionId := posting.transaction.id.str, money := p.money, sourceClearedBalance := source,
      creditClearedBalance := cleared, creditAvailableCredit := available }
  let db := storeResponse db posting.transaction.id (some (requestHash sha256 p))
    (.billPayment result)
  let db ← recordAudit db (env.part 3) "BILL_PAYMENT_EXECUTED"
    [("source_account_id", .text p.sourceAccountId.str),
      ("credit_account_id", .text p.creditAccountId.str), ("money", .money p.money),
      ("transaction_id", .text posting.transaction.id.str),
      ("statement_transaction_id", .text statementId.str)]
  return (db, result)

/-- What a payment leaves in the ledger: the deposit account is lower by the amount, the card's
mirror shows the card's new balance, and every other account is as it was. -/
structure PaymentBooks (accounts : Table Account) (deposit : Account) (updated : CreditAccount)
    (amount : ℤ) (mirrorId : Uuid) (accounts' : Table Account) : Prop where
  mirror : ∃ m, accounts'.get? mirrorId = some m ∧ m.creditAccountId = some updated.id ∧
    m.clearedBalanceCents = updated.clearedBalanceCents
  before : ∀ a, accounts.get? mirrorId = some a → a.creditAccountId = some updated.id
  apart : deposit.id ≠ mirrorId
  paid : accounts'.get? deposit.id =
    some { deposit with clearedBalanceCents := deposit.clearedBalanceCents - amount }
  kept : ∀ id, id ≠ mirrorId → id ≠ deposit.id → accounts'.get? id = accounts.get? id
  totals : ∀ g : Account → ℤ, (∀ a, a.creditAccountId ≠ none → g a = 0) →
    accounts'.total g + g deposit = accounts.total g +
      g { deposit with clearedBalanceCents := deposit.clearedBalanceCents - amount }

theorem Account.isDeposit.unmirrored {a : Account} (h : a.isDeposit) :
    a.creditAccountId = none := by
  by_contra hne
  have hcard := a.mirror_is_card hne
  rcases h with h | h <;> rw [h] at hcard <;> cases hcard

theorem paymentBooks (db : Db) (amount : ℤ) {accounts : Table Account} {deposit mirror : Account}
    {card updated : CreditAccount} (hd : accounts.get? deposit.id = some deposit)
    (hdeposit : deposit.isDeposit) (hm : MirrorEnsured accounts card mirror db.accounts)
    (hid : updated.id = card.id) :
    PaymentBooks accounts deposit updated amount mirror.id
      (updateMirror (debitDeposit db deposit amount) mirror.id updated).accounts := by
  have happart : deposit.id ≠ mirror.id := by
    intro heq
    have hcard := hm.before deposit (heq ▸ hd)
    rw [hdeposit.unmirrored] at hcard
    cases hcard
  have hd₁ : db.accounts.get? deposit.id = some deposit := by
    rw [hm.others _ happart]
    exact hd
  have hdebited : ∀ id, id ≠ deposit.id →
      (debitDeposit db deposit amount).accounts.get? id = db.accounts.get? id := by
    intro id hne
    simp only [debitDeposit]
    exact Table.get?_update_of_ne _ hne
  have hmirror : (debitDeposit db deposit amount).accounts.get? mirror.id = some mirror := by
    rw [hdebited _ happart.symm]
    exact hm.found
  have hpaid : (debitDeposit db deposit amount).accounts.get? deposit.id =
      some { deposit with clearedBalanceCents := deposit.clearedBalanceCents - amount } := by
    simp only [debitDeposit]
    exact Table.get?_update_self
      (fun a => { a with clearedBalanceCents := deposit.clearedBalanceCents - amount }) hd₁
  refine ⟨⟨_, get?_updateMirror_self hmirror, ?_, rfl⟩, ?_, happart, ?_, ?_, ?_⟩
  · rw [hid]
    exact hm.card
  · intro a ha
    rw [hid]
    exact hm.before a ha
  · rw [get?_updateMirror_of_ne happart]
    exact hpaid
  · intro id hne hnd
    rw [get?_updateMirror_of_ne hne, hdebited id hnd]
    exact hm.others id hne
  · intro g hg
    rw [← hm.totals g hg]
    have hdebit := Table.total_update
      (fun a => { a with clearedBalanceCents := deposit.clearedBalanceCents - amount }) hd₁ g
    have hcopy := Table.total_update (fun m => { m with
      clearedBalanceCents := updated.clearedBalanceCents
      availableCreditCents := updated.availableCreditCents }) hmirror g
    rw [hg mirror (by simp [hm.card]), hg _ (by simp [hm.card]), add_zero, add_zero] at hcopy
    exact (congrArg (· + g deposit) hcopy).trans hdebit

structure Paid (db : Db) (p : BillPayment) (deposit : Account) (card : CreditAccount)
    (existing : Option Transaction) (updated : CreditAccount) (statement : PostedTransaction)
    (t : Transaction) (result : BillPaymentResult) (db' : Db) : Prop where
  balance : updated = { card with
    clearedBalanceCents := card.clearedBalanceCents - p.money.amountMinor,
    availableCreditCents := headroom card.creditLimitCents
      (card.clearedBalanceCents - p.money.amountMinor + heldTotal db' card.id) }
  credit : db'.creditAccounts = (saveAccount db card updated).creditAccounts
  posted : db.postedTransactions.insert? statement = some db'.postedTransactions
  statement : statement.accountId = card.id ∧ statement.authorizationId = none ∧
    statement.amountCents = p.money.amountMinor
  holds : db'.authorizations = db.authorizations
  books : ∃ mirrorId, PaymentBooks db.accounts deposit updated p.money.amountMinor mirrorId
      db'.accounts ∧
    ((existing = none ∧ ∃ db₁, PairAppended db (durableKey sha256 p.userId p.idempotencyKey)
        deposit.id mirrorId p.money t db₁ ∧ db'.ledgerEntries = db₁.ledgerEntries ∧
        db'.transactions = (storeResponse db₁ t.id (some (requestHash sha256 p))
          (.billPayment result)).transactions) ∨
      (existing = some t ∧ ∃ e ∈ entriesOf db t.id, e.accountId = deposit.id))
  result : result.money = p.money

theorem paid_of_ok {db db' : Db} {env : Ambient} {p : BillPayment} {deposit : Account}
    {card : CreditAccount} {existing : Option Transaction} {result : BillPaymentResult}
    (hd : db.accounts.get? deposit.id = some deposit) (hdeposit : deposit.isDeposit)
    (h : executePayment sha256 db env p deposit card existing = .ok (db', result)) :
    ∃ updated statement t,
      Paid sha256 db p deposit card existing updated statement t result db' := by
  simp only [executePayment, addPostedTransaction, bind_eq_ok, insert_eq_ok, recordAudit_eq_ok,
    pure_eq_ok] at h
  obtain ⟨⟨db₁, mirror⟩, hm, ⟨db₂, posting⟩, hp, ⟨db₃, updated⟩, hr, db₄, ⟨posted, hposted, rfl⟩,
    source, -, cleared, -, available, -, db₅, ⟨outbox, -, rfl⟩, h⟩ := h
  cases h
  obtain ⟨accounts, rfl, hmirror⟩ := ensureCreditJournalAccount_effect hm
  obtain ⟨⟨txs, entries, box, rfl⟩, hj⟩ := postAfterLookup_pair rfl hp
  obtain ⟨hbalance, rfl⟩ := recalculate_eq_ok hr
  have hid : updated.id = card.id := by rw [hbalance]
  have hbooks := paymentBooks { db with accounts := accounts } p.money.amountMinor hd hdeposit
    hmirror hid
  refine ⟨updated, _, posting.transaction, hbalance, rfl, hposted, ⟨rfl, rfl, rfl⟩, rfl,
    ⟨mirror.id, hbooks, ?_⟩, rfl⟩
  rcases hj with ⟨hn, ha⟩ | ⟨hs, hf⟩
  · exact Or.inl ⟨hn, _, ⟨ha.keyed, ha.transactions, ha.entries⟩, rfl, rfl⟩
  · exact Or.inr ⟨hs, hf.debited⟩

/-- A violated unique constraint means that another request was faster; its response is looked
up once more. -/
def replayAfterConflict (db : Db) (p : BillPayment) : Except PyException BillPaymentResult := do
  let previous ← replayPayment sha256 db p
  orRaise previous (.httpException 409
    "Concurrent payment conflict. Retry with the same Idempotency-Key.")

/-- Pays on its own. A previous response is returned as it was stored. -/
def executeBillPaymentForUser (db : Db) (env : Ambient) (r : BillPaymentRequest) :
    Except PyException (Db × BillPaymentResult) := do
  let p ← validatePayment r
  match ← replayPayment sha256 db p with
  | some previous => return (db, previous)
  | none => do
    let deposit ← findSource db p
    let card ← findTarget db p
    checkFunds p deposit card
    checkMirror p (findMirror db card)
    match executePayment sha256 db env p deposit card
        (findTransaction db (durableKey sha256 p.userId p.idempotencyKey)) with
    | .error .integrityError => do
      let previous ← replayAfterConflict sha256 db p
      return (db, previous)
    | .error .operationalError => .error (.httpException 409
        "Account lock conflict. Retry with the same Idempotency-Key.")
    | outcome => outcome

theorem findSource_eq_ok {db : Db} {p : BillPayment} {deposit : Account}
    (h : findSource db p = .ok deposit) :
    db.accounts.get? deposit.id = some deposit ∧ deposit.id = p.sourceAccountId ∧
      deposit.isDeposit := by
  have hfound := orRaise_eq_ok.mp h
  rw [Option.filter_eq_some_iff] at hfound
  obtain ⟨hget, hdeposit⟩ := hfound
  rw [getDepositAccountForUser, Option.filter_eq_some_iff] at hget
  have hid : deposit.id = p.sourceAccountId := (Table.get?_eq_some.mp hget.1).2
  exact ⟨hid ▸ hget.1, hid, by simpa using hdeposit⟩

theorem findTarget_eq_ok {db : Db} {p : BillPayment} {card : CreditAccount}
    (h : findTarget db p = .ok card) :
    db.creditAccounts.get? card.id = some card ∧ card.id = p.creditAccountId := by
  have hfound := orRaise_eq_ok.mp h
  rw [getCreditAccountForUser, Option.filter_eq_some_iff] at hfound
  have hid : card.id = p.creditAccountId := (Table.get?_eq_some.mp hfound.1).2
  exact ⟨hid ▸ hfound.1, hid⟩

theorem executeBillPaymentForUser_cases {db db' : Db} {env : Ambient} {r : BillPaymentRequest}
    {result : BillPaymentResult}
    (h : executeBillPaymentForUser sha256 db env r = .ok (db', result)) :
    db' = db ∨ ∃ p deposit card updated statement t,
      (db.accounts.get? deposit.id = some deposit ∧ deposit.isDeposit) ∧
      db.creditAccounts.get? card.id = some card ∧
      Paid sha256 db p deposit card
        (findTransaction db (durableKey sha256 p.userId p.idempotencyKey)) updated statement t
        result db' := by
  simp only [executeBillPaymentForUser, bind_eq_ok] at h
  obtain ⟨p, -, previous, -, h⟩ := h
  cases previous with
  | some previous =>
    rw [pure_eq_ok] at h
    cases h
    exact Or.inl rfl
  | none =>
    simp only [bind_eq_ok] at h
    obtain ⟨deposit, hd, card, hc, -, -, -, -, h⟩ := h
    obtain ⟨hget, -, hdeposit⟩ := findSource_eq_ok hd
    obtain ⟨hcard, -⟩ := findTarget_eq_ok hc
    split at h
    · simp only [bind_eq_ok, pure_eq_ok] at h
      obtain ⟨previous, -, h⟩ := h
      cases h
      exact Or.inl rfl
    · cases h
    · obtain ⟨updated, statement, t, hpaid⟩ := paid_of_ok sha256 hget hdeposit h
      exact Or.inr ⟨p, deposit, card, updated, statement, t, ⟨hget, hdeposit⟩, hcard, hpaid⟩

end

/-- The transactions older than the cutoff that still hold a response. -/
def staleTransactions (db : Db) (cutoff : Timestamp) : List Uuid :=
  (db.transactions.select fun t => t.createdAt < cutoff ∧ t.responsePayload ≠ none).map
    Transaction.id

def Transaction.archive (t : Transaction) : Transaction :=
  { t with responsePayload := none, requestHash := some "ARCHIVED_EXPIRED" }

/-- Purges the responses that the sweep found. -/
def archiveTransactions (db : Db) (stale : List Uuid) : Db :=
  stale.foldl (fun db id =>
    { db with transactions := db.transactions.update id Transaction.archive }) db

structure DepositAccountCreateRequest where
  accountType : String
  productName : String
  initialDepositCents : ℕ

def depositType? (text : String) : Option AccountType :=
  if upper text = "CHECKING" then some .checking
  else if upper text = "SAVINGS" then some .savings else none

/-- `accountNumber` is the number drawn, which no account has. -/
def newDepositAccount (env : Ambient) (r : DepositAccountCreateRequest) (userId : Uuid)
    (accountType : AccountType) (accountNumber : ℕ) : Account :=
  { id := env.uuid4 0, userId := some userId,
    accountNumber := (if accountType = .checking then "CHK-" else "SAV-") ++ toString accountNumber,
    accountType := accountType, productName := r.productName,
    productCode := some "CHECKING_EVERYDAY", creditAccountId := none, status := .active,
    creditLimitCents := 0, clearedBalanceCents := r.initialDepositCents, availableCreditCents := 0,
    currency := .usd, mirror_is_card := fun h => absurd rfl h,
    system_number := fun h => by
      unfold isSystemNumber at h
      split at h <;> simp [List.prefix_iff_eq_take] at h }

/-- `sys_acc.cleared_balance_cents += initial_deposit_cents`. -/
def fundSystemAccount (db : Db) (account : Account) (amount : ℤ) : Db :=
  { db with
    accounts := db.accounts.update account.id fun a =>
      { a with clearedBalanceCents := account.clearedBalanceCents + amount } }

def fundDeposit (db : Db) (env : Ambient) (r : DepositAccountCreateRequest)
    (idempotencyKey : Option String) (userId : Uuid) (applicationId : Uuid) (account : Account) :
    Except PyException Db := do
  let (db, system) ← ensureSystemJournalAccount db (env.part 0) "SYSTEM_EXTERNAL_FUNDING"
    "External funding clearing counterparty" account.currency
  let money ← Money.new r.initialDepositCents account.currency
  let (db, _) ← postFinancialTransaction db (env.part 1)
    { idempotencyKey := if idempotencyKey.getD "" ≠ "" then idempotencyKey.getD ""
        else "IDEMP-DEP-" ++ (env.part 2).tokenHex 16
      userId := some userId
      description := "Initial deposit funding for " ++ r.productName
      sourceType := "INITIAL_DEPOSIT_FUNDING"
      sourceReferences :=
        [("account_id", .str account.id.str), ("application_id", .str applicationId.str)]
      currency := account.currency
      entries := pairOf system.id account.id money }
  return fundSystemAccount db system r.initialDepositCents

/-- The customer's profile. A missing one is provisioned, and that commits. -/
def provisionProfile (db : Db) (env : Ambient) (authProviderUid : String) :
    Except PyException Db := do
  match db.users.first? fun u => u.authProviderUid = authProviderUid with
  | some _ => return db
  | none => do
    let users ← insert db.users ⟨env.uuid4 0, authProviderUid, none⟩
    recordAudit { db with users := users } (env.part 1) "USER_CREATED"
      [("user_id", .text authProviderUid)]

def openDepositAccount (db : Db) (env : Ambient) (r : DepositAccountCreateRequest)
    (accountType : AccountType) (authProviderUid : String) (idempotencyKey : Option String)
    (accountNumber : ℕ) : Except PyException (Db × Account) := do
  let user ← orRaise (db.users.first? fun u => u.authProviderUid = authProviderUid)
    (.httpException 404 "User profile could not be resolved.")
  let account := newDepositAccount (env.part 0) r user.id accountType accountNumber
  let accounts ← insert db.accounts account
  let db := { db with accounts := accounts }
  if 0 < r.initialDepositCents then do
    let db ← fundDeposit db (env.part 1) r idempotencyKey user.id ((env.part 2).uuid4 0) account
    return (db, account)
  else return (db, account)

def createDepositAccount (db : Db) (env : Ambient) (r : DepositAccountCreateRequest)
    (authProviderUid : String) (idempotencyKey : Option String) (accountNumber : ℕ) :
    Db × Except PyException Account :=
  match depositType? r.accountType with
  | none => (db, .error
      (.httpException 400 "Invalid account_type. Must be CHECKING or SAVINGS."))
  | some accountType =>
    match provisionProfile db (env.part 3) authProviderUid with
    | .error _ => (db, .error (.httpException 500 "Failed to auto-provision user profile"))
    | .ok db => commitOrRollback db
        (openDepositAccount db env r accountType authProviderUid idempotencyKey accountNumber)

end BankingService
