import BankingService.Accounts

/-! Transfers between two universal accounts. -/
namespace BankingService

open Python Relational Checked

structure TransferRequest where
  sourceAccountId : String
  destAccountId : String
  money : Money
  description : String
  idempotencyKey : String
  userId : Option Uuid
  /-- `json.dumps` of the caller's payload. -/
  requestPayload : Option String

def keyCollision : PyException :=
  .httpException 409 "Idempotency key collision with altered parameters."

/-- The stored response of a transfer under the same key with the same parameters. -/
def replayTransfer (db : Db) (r : TransferRequest) (hash : Option String) :
    Except PyException (Option TransferResult) :=
  match findTransaction db r.idempotencyKey with
  | none => .ok none
  | some existing =>
    match existing.responsePayload with
    | some (.transfer previous) => do
      require (existing.currencyCode = r.money.currencyCode ∧ previous.money = r.money ∧
        previous.sourceAccountId = r.sourceAccountId ∧ previous.destAccountId = r.destAccountId)
        keyCollision
      require (hash = none ∨ existing.requestHash = none ∨ hash = existing.requestHash) keyCollision
      return some previous
    | _ => .error keyCollision

/-- Both accounts, locked and found again under the text of their ids. -/
def acquireAccountLocks (db : Db) (source dest : String) :
    Except PyException (Account × Account) := do
  let s ← orRaise (Uuid.parse? source) (.valueError "badly formed hexadecimal UUID string")
  let d ← orRaise (Uuid.parse? dest) (.valueError "badly formed hexadecimal UUID string")
  require ((db.accounts.select fun a => a.id = s ∨ a.id = d).length =
      if source = dest then 1 else 2)
    (.httpException 404 "One or more specified accounts were not found.")
  let sourceAccount ← orRaise ((db.accounts.get? s).filter fun a => a.id.str = source) .keyError
  let destAccount ← orRaise ((db.accounts.get? d).filter fun a => a.id.str = dest) .keyError
  return (sourceAccount, destAccount)

def checkBalance (source : Account) (amount : ℤ) : Except PyException Unit :=
  if source.isDeposit then
    require (amount ≤ source.clearedBalanceCents)
      (.httpException 422 "Insufficient cash funds in checking/savings account.")
  else if source.accountType = .creditCard then
    require (amount ≤ source.availableCreditCents)
      (.httpException 422 "Insufficient available credit.")
  else .ok ()

/-- What leaving with `amount` does to the cached balances of an account. A system account keeps
none. -/
def Account.transferOut (amount : ℤ) (a : Account) : Account :=
  if a.isDeposit then { a with clearedBalanceCents := a.clearedBalanceCents - amount }
  else if a.accountType = .creditCard then
    { a with
      availableCreditCents := a.availableCreditCents - amount,
      clearedBalanceCents := a.clearedBalanceCents + amount }
  else a

def Account.transferIn (amount : ℤ) (a : Account) : Account :=
  if a.isDeposit then { a with clearedBalanceCents := a.clearedBalanceCents + amount }
  else if a.accountType = .creditCard then
    { a with
      availableCreditCents := a.availableCreditCents + amount,
      clearedBalanceCents := a.clearedBalanceCents - amount }
  else a

theorem Account.transferOut_clash (amount : ℤ) (a b : Account)
    (h : Row.Clash (a.transferOut amount) b) : Row.Clash a b := by
  unfold transferOut at h
  split at h
  · exact h
  · split at h <;> exact h

theorem Account.transferIn_clash (amount : ℤ) (a b : Account)
    (h : Row.Clash (a.transferIn amount) b) : Row.Clash a b := by
  unfold transferIn at h
  split at h
  · exact h
  · split at h <;> exact h

def moveBalances (db : Db) (source dest : Uuid) (amount : ℤ) : Db :=
  { db with
    accounts :=
      (db.accounts.update source (Account.transferOut amount)
        (Account.transferOut_clash amount)).update
        dest (Account.transferIn amount) (Account.transferIn_clash amount) }

def executeTransfer (sha256 : String → String) (db : Db) (env : Ambient) (r : TransferRequest) :
    Except PyException (Db × TransferResult) := do
  require (0 < r.money.amountMinor) (.httpException 400 "Transfer amount must be positive.")
  let hash := r.requestPayload.map sha256
  match ← replayTransfer db r hash with
  | some previous => return (db, previous)
  | none => do
    let (source, dest) ← acquireAccountLocks db r.sourceAccountId r.destAccountId
    require (source.currency = r.money.currencyCode ∧ dest.currency = r.money.currencyCode)
      (.httpException 422 "Transfer account denomination mismatch.")
    checkBalance source r.money.amountMinor
    let (db, posting) ← postFinancialTransaction db (env.part 0)
      { idempotencyKey := r.idempotencyKey
        userId := r.userId.or source.userId
        description := r.description
        sourceType := "ACCOUNT_TRANSFER"
        sourceReferences :=
          [("source_account_id", .str source.id.str),
            ("destination_account_id", .str dest.id.str)]
        currency := source.currency
        entries := pairOf source.id dest.id r.money }
    let result : TransferResult :=
      { transactionId := posting.transaction.id.str, sourceAccountId := source.id.str,
        destAccountId := dest.id.str, money := r.money, idempotencyKey := r.idempotencyKey }
    let db := storeResponse (moveBalances db source.id dest.id r.money.amountMinor)
      posting.transaction.id hash (.transfer result)
    let db ← recordAudit db (env.part 1) "MONETARY_TRANSFER_EXECUTED"
      [("status", .text result.status), ("transaction_id", .text result.transactionId),
        ("source_account_id", .text result.sourceAccountId),
        ("dest_account_id", .text result.destAccountId), ("money", .money result.money),
        ("idempotency_key", .text result.idempotencyKey)]
    return (db, result)

end BankingService
