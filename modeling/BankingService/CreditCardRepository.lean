import BankingService.Schema
import BankingService.Library.ClampedCache

/-! Queries on cards, holds and statement rows, and the available credit that the bank
recomputes. An account passed here is the session's own copy of the row. -/
namespace BankingService

open Python Relational Checked ClampedCache

variable {db db' : Db}

def TransactionAuthorization.isActive (h : TransactionAuthorization) : Prop :=
  h.status = .pending ∨ h.status = .flagged

instance : DecidablePred TransactionAuthorization.isActive := fun _ =>
  inferInstanceAs (Decidable (_ ∨ _))

def getAuthorizationByRrn (db : Db) (rrn : String) : Option TransactionAuthorization :=
  db.authorizations.first? fun h => h.retrievalReferenceNumber = rrn

/-- The same lookup with `statuses=["PENDING", "FLAGGED"]`. -/
def getActiveAuthorizationByRrn (db : Db) (rrn : String) : Option TransactionAuthorization :=
  db.authorizations.first? fun h => h.retrievalReferenceNumber = rrn ∧ h.isActive

/-- A query parameter of type UUID. Text that is not one makes the statement fail. -/
def uuidParam (text : String) : Except PyException Uuid :=
  orRaise (Uuid.parse? text) .statementError

def getAuthorizationByIdForAccount (db : Db) (id accountId : Uuid) :
    Option TransactionAuthorization :=
  (db.authorizations.get? id).filter fun h => h.accountId = accountId

theorem getAuthorizationByIdForAccount_eq_some {id accountId : Uuid}
    {auth : TransactionAuthorization}
    (h : getAuthorizationByIdForAccount db id accountId = some auth) :
    db.authorizations.get? auth.id = some auth ∧ accountId = auth.accountId := by
  rw [getAuthorizationByIdForAccount, Option.filter_eq_some_iff] at h
  have hid : auth.id = id := (Table.get?_eq_some.mp h.1).2
  exact ⟨hid ▸ h.1, by simpa [eq_comm] using h.2⟩

def getCardByToken (db : Db) (token : String) : Option IssuedCard :=
  db.issuedCards.first? fun c => c.cardToken = token

def getLedgerEntryByIdForAccount (db : Db) (id accountId : Uuid) : Option PostedTransaction :=
  (db.postedTransactions.get? id).filter fun p => p.accountId = accountId

def reversalDescriptionOld (transactionId : String) : String := "FEE_REVERSAL_REF_" ++ transactionId
def reversalDescriptionNew (transactionId : String) : String := "REVERSAL_REF_" ++ transactionId

def provisionalCreditDescription (transactionId : String) : String :=
  "FRAUD_PROVISIONAL_CREDIT_REF_" ++ transactionId

def getFraudProvisionalCreditEntry (db : Db) (accountId : Uuid) (transactionId : String) :
    Option PostedTransaction :=
  db.postedTransactions.first? fun p => p.accountId = accountId ∧ p.authorizationId = none ∧
    p.description = provisionalCreditDescription transactionId

def getReversalEntry (db : Db) (accountId : Uuid) (transactionId : String) :
    Option PostedTransaction :=
  db.postedTransactions.first? fun p => p.accountId = accountId ∧ p.authorizationId = none ∧
    (p.description = reversalDescriptionOld transactionId ∨
      p.description = reversalDescriptionNew transactionId)

def activeHolds (db : Db) (accountId : Uuid) : List TransactionAuthorization :=
  db.authorizations.select fun h => h.accountId = accountId ∧ h.isActive

/-- Adds up holds, each of which must be a nonnegative amount in the account's currency. -/
def addHolds (currency : CurrencyCode) : ℤ → List TransactionAuthorization → Except PyException ℤ
  | total, [] => .ok total
  | total, h :: hs => do
    let money ← Money.ofText h.billingAmountCents h.billingCurrency
    require (money.currencyCode = currency ∧ 0 ≤ money.amountMinor)
      (.valueError "Authorization billing Money does not match the account")
    addHolds currency (total + money.amountMinor) hs

def getPendingAuthTotal (db : Db) (account : CreditAccount) : Except PyException ℤ := do
  require ((db.creditAccounts.get? account.id).isSome)
    (.valueError "Authorization account does not exist")
  let total ← addHolds account.currency 0 (activeHolds db account.id)
  let money ← Money.new total account.currency
  return money.amountMinor

def calculateAvailableCreditCents (db : Db) (account : CreditAccount) : Except PyException ℤ := do
  let pendingSum ← getPendingAuthTotal db account
  let rawAvailable := account.creditLimitCents - account.clearedBalanceCents - pendingSum
  return max 0 (min account.creditLimitCents rawAvailable)

/-- A row after a session that loaded `loaded` writes the columns it changed. -/
def CreditAccount.write (loaded current row : CreditAccount) : CreditAccount :=
  { row with
    creditLimitCents := assign loaded.creditLimitCents current.creditLimitCents row.creditLimitCents
    clearedBalanceCents :=
      assign loaded.clearedBalanceCents current.clearedBalanceCents row.clearedBalanceCents
    availableCreditCents :=
      assign loaded.availableCreditCents current.availableCreditCents row.availableCreditCents
    lastLimitIncreaseAt :=
      assign loaded.lastLimitIncreaseAt current.lastLimitIncreaseAt row.lastLimitIncreaseAt }

def saveAccount (db : Db) (loaded current : CreditAccount) : Db :=
  { db with
    creditAccounts := db.creditAccounts.update loaded.id (CreditAccount.write loaded current) }

def recalculateAvailableCredit (db : Db) (loaded current : CreditAccount) :
    Except PyException (Db × CreditAccount) := do
  let available ← calculateAvailableCreditCents db current
  let account := { current with availableCreditCents := available }
  return (saveAccount db loaded account, account)

def heldTotal (db : Db) (accountId : Uuid) : ℤ :=
  db.authorizations.total fun h =>
    if h.accountId = accountId ∧ h.isActive then h.billingAmountCents else 0

theorem sum_activeHolds (db : Db) (accountId : Uuid) :
    ((activeHolds db accountId).map fun h => h.billingAmountCents).sum = heldTotal db accountId :=
  Table.sum_select

theorem addHolds_eq_ok {currency : CurrencyCode} {total n : ℤ}
    {l : List TransactionAuthorization} (h : addHolds currency total l = .ok n) :
    n = total + (l.map fun h => h.billingAmountCents).sum := by
  induction l generalizing total with
  | nil =>
    cases h
    simp
  | cons x l ih =>
    simp only [addHolds, bind_eq_ok, Money.ofText_eq_ok, require_eq_ok] at h
    obtain ⟨m, ⟨hm, -⟩, -, -, h⟩ := h
    rw [ih h, hm, List.map_cons, List.sum_cons, add_assoc]

theorem calculate_eq_ok {account : CreditAccount} {n : ℤ}
    (h : calculateAvailableCreditCents db account = .ok n) :
    n = headroom account.creditLimitCents
      (account.clearedBalanceCents + heldTotal db account.id) := by
  simp only [calculateAvailableCreditCents, getPendingAuthTotal, bind_eq_ok, require_eq_ok,
    Money.new_eq_ok, pure_eq_ok] at h
  obtain ⟨p, ⟨-, -, t, ht, m, ⟨hm, -⟩, rfl⟩, rfl⟩ := h
  have htotal := addHolds_eq_ok ht
  rw [zero_add, sum_activeHolds] at htotal
  rw [hm, htotal, headroom, sub_sub]

theorem recalculate_eq_ok {loaded current account : CreditAccount}
    (h : recalculateAvailableCredit db loaded current = .ok (db', account)) :
    account = { current with
      availableCreditCents := headroom current.creditLimitCents
        (current.clearedBalanceCents + heldTotal db current.id) } ∧
      db' = saveAccount db loaded account := by
  simp only [recalculateAvailableCredit, bind_eq_ok, pure_eq_ok] at h
  obtain ⟨n, hn, h⟩ := h
  cases h
  rw [calculate_eq_ok hn]
  exact ⟨rfl, rfl⟩

/-- The session's copy after changes to the columns that it writes. -/
def Revises (account updated : CreditAccount) : Prop :=
  updated = { account with
    creditLimitCents := updated.creditLimitCents,
    clearedBalanceCents := updated.clearedBalanceCents,
    availableCreditCents := updated.availableCreditCents,
    lastLimitIncreaseAt := updated.lastLimitIncreaseAt }

theorem get?_saveAccount_self {account updated : CreditAccount}
    (h : db.creditAccounts.get? account.id = some account) (hu : Revises account updated) :
    (saveAccount db account updated).creditAccounts.get? account.id = some updated := by
  have hwrite : CreditAccount.write account updated account = updated := by
    unfold CreditAccount.write
    simp only [assign_current]
    exact hu.symm
  have hget : (saveAccount db account updated).creditAccounts.get? account.id =
      some (CreditAccount.write account updated account) :=
    Table.get?_update_self (CreditAccount.write account updated) h
  rw [hget, hwrite]

theorem get?_saveAccount_of_ne {account updated : CreditAccount} {id : Uuid}
    (h : id ≠ account.id) :
    (saveAccount db account updated).creditAccounts.get? id = db.creditAccounts.get? id := by
  simp only [saveAccount]
  exact Table.get?_update_of_ne _ h

theorem heldTotal_insert {hold : TransactionAuthorization} {holds : Table TransactionAuthorization}
    (h : db.authorizations.insert? hold = some holds)
    (ha : db'.authorizations = holds) (id : Uuid) :
    heldTotal db' id = heldTotal db id +
      if hold.accountId = id ∧ hold.isActive then hold.billingAmountCents else 0 := by
  unfold heldTotal
  rw [ha, Table.total_insert h]

theorem heldTotal_congr (h : db'.authorizations = db.authorizations) (id : Uuid) :
    heldTotal db' id = heldTotal db id := by
  unfold heldTotal
  rw [h]

end BankingService
