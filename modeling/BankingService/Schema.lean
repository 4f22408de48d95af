import BankingService.Library.Checked
import BankingService.Library.Json
import BankingService.Library.Table
import BankingService.Money

/-! The tables that the modelled operations read and write. A check constraint of the database is
a field of its row, a unique constraint is part of the row's `Clash`. -/
namespace BankingService

open Python Relational

structure User where
  id : Uuid
  authProviderUid : String
  email : Option String
  deriving DecidableEq

instance : Row User Uuid where
  key := User.id
  Clash a b := a.id = b.id ∨ a.authProviderUid = b.authProviderUid
  clash_symm h := h.imp Eq.symm Eq.symm
  clash_of_key := Or.inl

structure CreditProduct where
  productCode : String
  minCreditLimitCents : ℤ
  maxCreditLimitCents : ℤ
  isActive : Bool
  deriving DecidableEq

instance : Row CreditProduct String := Row.ofKey CreditProduct.productCode

inductive AccountStatus where
  | active
  | frozen
  | delinquent
  | closed
  deriving DecidableEq

structure CreditAccount where
  id : Uuid
  customerId : Uuid
  productCode : String
  status : AccountStatus
  creditLimitCents : ℤ
  clearedBalanceCents : ℤ
  availableCreditCents : ℤ
  currency : CurrencyCode
  lastLimitIncreaseAt : Option Timestamp
  deriving DecidableEq

instance : Row CreditAccount Uuid := Row.ofKey CreditAccount.id

inductive CardStatus where
  | active
  | blocked
  | reportedStolen
  | expired
  deriving DecidableEq

structure IssuedCard where
  id : Uuid
  accountId : Uuid
  cardholderName : String
  cardToken : String
  lastFour : String
  isActive : Bool
  expMonth : ℕ
  expYear : ℕ
  status : CardStatus
  isVirtual : Bool
  deriving DecidableEq

instance : Row IssuedCard Uuid where
  key := IssuedCard.id
  Clash a b := a.id = b.id ∨ a.cardToken = b.cardToken
  clash_symm h := h.imp Eq.symm Eq.symm
  clash_of_key := Or.inl

inductive HoldStatus where
  | pending
  | flagged
  | settled
  | reversed
  | declined
  deriving DecidableEq

/-- `billingCurrency` has no currency constraint, and nothing makes a retrieval reference number
unique. -/
structure TransactionAuthorization where
  id : Uuid
  cardId : Uuid
  accountId : Uuid
  transactionAmountCents : ℤ
  transactionCurrency : String
  billingAmountCents : ℤ
  billingCurrency : String
  status : HoldStatus
  declineReason : String
  authCode : String
  retrievalReferenceNumber : String
  cardNetwork : String
  merchantCategoryCode : String
  merchantName : Option String
  fraudRiskScore : Option ℤ
  createdAt : Timestamp
  expiresAt : Timestamp
  deriving DecidableEq

instance : Row TransactionAuthorization Uuid := Row.ofKey TransactionAuthorization.id

/-- A statement row: positive amounts are payments and credits, negative ones charges and fees. -/
structure PostedTransaction where
  id : Uuid
  accountId : Uuid
  authorizationId : Option Uuid
  journalTransactionId : Option Uuid
  authCode : Option String
  retrievalReferenceNumber : Option String
  amountCents : ℤ
  description : String
  postedAt : Timestamp
  deriving DecidableEq

instance : Row PostedTransaction Uuid where
  key := PostedTransaction.id
  Clash a b := a.id = b.id ∨
    (a.journalTransactionId = b.journalTransactionId ∧ a.journalTransactionId ≠ none)
  clash_symm := by
    rintro a b (h | ⟨h, hn⟩)
    · exact Or.inl h.symm
    · exact Or.inr ⟨h.symm, h ▸ hn⟩
  clash_of_key := Or.inl

inductive AccountType where
  | creditCard
  | checking
  | savings
  | system
  deriving DecidableEq

/-- The numbers under which the clearing accounts are kept. -/
def isSystemNumber (number : String) : Prop := "SYSTEM_".toList <+: number.toList

instance (number : String) : Decidable (isSystemNumber number) :=
  inferInstanceAs (Decidable (_ <+: _))

/-- A universal account. Only a card's journal mirror refers to a credit account, and only a
clearing account has a number of its kind. -/
structure Account where
  id : Uuid
  userId : Option Uuid
  accountNumber : String
  accountType : AccountType
  productName : String
  productCode : Option String
  creditAccountId : Option Uuid
  status : AccountStatus
  creditLimitCents : ℤ
  clearedBalanceCents : ℤ
  availableCreditCents : ℤ
  currency : CurrencyCode
  mirror_is_card : creditAccountId ≠ none → accountType = .creditCard
  system_number : isSystemNumber accountNumber → accountType = .system
  deriving DecidableEq

instance : Row Account Uuid where
  key := Account.id
  Clash a b := a.id = b.id ∨ a.accountNumber = b.accountNumber ∨
    (a.creditAccountId = b.creditAccountId ∧ a.creditAccountId ≠ none)
  clash_symm := by
    rintro a b (h | h | ⟨h, hn⟩)
    · exact Or.inl h.symm
    · exact Or.inr (Or.inl h.symm)
    · exact Or.inr (Or.inr ⟨h.symm, h ▸ hn⟩)
  clash_of_key := Or.inl

inductive Direction where
  | debit
  | credit
  deriving DecidableEq

def Direction.text : Direction → String
  | debit => "DEBIT"
  | credit => "CREDIT"

structure AccountLedgerEntry where
  entryId : Uuid
  transactionId : Uuid
  accountId : Uuid
  amountMinor : ℤ
  entryType : Direction
  postedAt : Timestamp
  positive : 0 < amountMinor
  deriving DecidableEq

instance : Row AccountLedgerEntry Uuid := Row.ofKey AccountLedgerEntry.entryId

structure BillPaymentResult where
  transactionId : String
  money : Money
  sourceClearedBalance : Money
  creditClearedBalance : Money
  creditAvailableCredit : Money
  status : String := "SUCCESS"
  disposition : String := "POSTED"
  message : String := "Bill payment successfully processed."
  deriving DecidableEq

structure TransferResult where
  transactionId : String
  sourceAccountId : String
  destAccountId : String
  money : Money
  idempotencyKey : String
  status : String := "SUCCESS"
  deriving DecidableEq

/-- The JSON documents that are stored as a transaction's response. -/
inductive ResponsePayload where
  | billPayment (result : BillPaymentResult)
  | transfer (result : TransferResult)
  deriving DecidableEq

structure Transaction where
  id : Uuid
  idempotencyKey : String
  userId : Option Uuid
  status : String
  description : String
  requestHash : Option String
  responsePayload : Option ResponsePayload
  responseStatus : Option ℕ
  createdAt : Timestamp
  currencyCode : CurrencyCode
  deriving DecidableEq

instance : Row Transaction Uuid where
  key := Transaction.id
  Clash a b := a.id = b.id ∨ a.idempotencyKey = b.idempotencyKey
  clash_symm h := h.imp Eq.symm Eq.symm
  clash_of_key := Or.inl

inductive JsonValue where
  | null
  | bool (b : Bool)
  | int (n : ℤ)
  | text (s : String)
  | texts (l : List String)
  | money (m : Money)
  deriving DecidableEq

def Money.modelDump (m : Money) : List (String × Json) :=
  [("amount_minor", .int m.amountMinor), ("currency_code", .str m.currencyCode.text)]

def JsonValue.json : JsonValue → Json
  | null => .null
  | bool b => .bool b
  | int n => .int n
  | text s => .str s
  | texts l => .arr (l.map Json.str)
  | money m => .obj m.modelDump

/-- The references of an event, as the caller passes them. -/
abbrev SourceReferences := List (String × Json)

structure EventEntry where
  entryId : Uuid
  accountId : Uuid
  direction : Direction
  money : Money
  deriving DecidableEq

structure FinancialEvent where
  eventId : String
  schemaVersion : ℕ
  transactionId : Uuid
  eventTime : Timestamp
  postedAt : Timestamp
  currencyCode : CurrencyCode
  sourceType : String
  sourceReferences : SourceReferences
  description : String
  entries : List EventEntry

inductive AuditPayload where
  | financial (event : FinancialEvent)
  | object (fields : List (String × JsonValue))

structure AuditOutbox where
  eventId : String
  eventType : String
  schemaVersion : ℕ
  payload : AuditPayload
  createdAt : Timestamp

instance : Row AuditOutbox String := Row.ofKey AuditOutbox.eventId

inductive AlertStatus where
  | isOpen
  | triagedPendingReview
  | resolved (resolution : String)
  | expiredNoCustomerResponse
  | supersededByNewSimulation
  deriving DecidableEq

def AlertStatus.text : AlertStatus → String
  | isOpen => "OPEN"
  | triagedPendingReview => "TRIAGED_PENDING_REVIEW"
  | resolved resolution => "RESOLVED_" ++ resolution
  | expiredNoCustomerResponse => "EXPIRED_NO_CUSTOMER_RESPONSE"
  | supersededByNewSimulation => "SUPERSEDED_BY_NEW_SIMULATION"

structure SuspiciousTransaction where
  authorizationId : Option String
  transactionId : Option String
  deriving DecidableEq

structure FraudAlert where
  id : Uuid
  customerId : Uuid
  authProviderUid : String
  creditAccountId : Uuid
  cardId : Uuid
  cardLastFour : String
  status : AlertStatus
  source : String
  messageThreadId : String
  suspiciousAuthorizationIds : List String
  suspiciousTransactions : List SuspiciousTransaction
  remediationStatus : String
  triagedAt : Option Timestamp
  selectedDisputedAuthorizationIds : List String
  selectedDisputedTransactionIds : List String
  provisionalCreditCents : ℤ
  replacementCardId : Option Uuid
  createdAt : Timestamp
  resolvedAt : Option Timestamp
  deriving DecidableEq

instance : Row FraudAlert Uuid where
  key := FraudAlert.id
  Clash a b := a.id = b.id ∨ a.messageThreadId = b.messageThreadId
  clash_symm h := h.imp Eq.symm Eq.symm
  clash_of_key := Or.inl

structure VoidResult where
  accountId : Uuid
  authorizationId : Uuid
  fraudAlertId : Uuid
  voidedAmount : Money
  availableCredit : Money
  deriving DecidableEq

structure ProvisionalCreditResult where
  accountId : Uuid
  transactionId : Uuid
  provisionalCreditTransactionId : Uuid
  fraudAlertId : Uuid
  creditedAmount : Money
  journalTransactionId : Uuid
  clearedBalance : Money
  availableCredit : Money
  deriving DecidableEq

structure TriageResult where
  outcome : String
  voidedAuthorizations : List VoidResult
  provisionalCredits : List ProvisionalCreditResult
  replacementCardId : Option Uuid
  escalated : Bool
  deriving DecidableEq

inductive CaseResult where
  | none
  | voided (result : VoidResult)
  | credited (result : ProvisionalCreditResult)
  | triaged (result : TriageResult)
  | expired (status remediationStatus : String)
  deriving DecidableEq

inductive CaseActionStatus where
  | pending
  | succeeded
  deriving DecidableEq

structure FraudCaseAction where
  id : Uuid
  fraudAlertId : Uuid
  actionType : String
  status : CaseActionStatus
  idempotencyKey : Option String
  resultPayload : CaseResult
  createdAt : Timestamp
  completedAt : Option Timestamp
  deriving DecidableEq

instance : Row FraudCaseAction Uuid where
  key := FraudCaseAction.id
  Clash a b := a.id = b.id ∨ (a.fraudAlertId = b.fraudAlertId ∧
    a.idempotencyKey = b.idempotencyKey ∧ a.idempotencyKey ≠ none)
  clash_symm := by
    rintro a b (h | ⟨hf, hk, hn⟩)
    · exact Or.inl h.symm
    · exact Or.inr ⟨hf.symm, hk.symm, hk ▸ hn⟩
  clash_of_key := Or.inl

inductive ProposalStatus where
  | proposed
  | presented
  | confirmed
  | committing
  | committed
  | declined
  | invalidated
  | expired
  deriving DecidableEq

structure ProposalScope where
  customerId : Uuid
  supportSessionId : String
  runtimeName : String
  runtimeSessionId : String
  deriving DecidableEq

abbrev Evidence := List (String × JsonValue)

/-- `evidence.get(key)`. -/
def Evidence.get (e : Evidence) (key : String) : Option JsonValue :=
  (e.find? fun f => f.1 = key).map Prod.snd

structure BoundPayload (π : Type) where
  facts : π
  businessInputFingerprint : String
  deriving DecidableEq

/-- A proposed action; `π` is its payload and `ρ` the result of executing it. -/
structure ActionProposal (π ρ : Type) where
  id : Uuid
  bankDecisionRef : Option String
  definitionId : String
  definitionRevision : ℕ
  definitionDigest : String
  contractVersion : String
  actionType : String
  status : ProposalStatus
  scope : ProposalScope
  accountId : Option Uuid
  originatingCustomerTurnId : String
  resetGeneration : String
  confirmationPolicy : String
  actionPayload : π
  payloadFingerprint : String
  customerSafeSummary : String
  catalogSnapshotId : Option String
  idempotencyKey : String
  presentedAssistantTurnId : Option String
  confirmationCustomerTurnId : Option String
  confirmationEvidence : Option Evidence
  resultPayload : Option ρ
  invalidationReason : Option String
  expiresAt : Timestamp
  createdAt : Timestamp
  presentedAt : Option Timestamp
  confirmedAt : Option Timestamp
  commitStartedAt : Option Timestamp
  completedAt : Option Timestamp
  deriving DecidableEq

def ProposalStatus.isActive : ProposalStatus → Prop
  | proposed | presented | confirmed | committing => True
  | committed | declined | invalidated | expired => False

instance : DecidablePred ProposalStatus.isActive := fun s => by
  cases s <;> unfold ProposalStatus.isActive <;> infer_instance

section
variable {π ρ : Type}

def ActionProposal.sameSession (a b : ActionProposal π ρ) : Prop :=
  a.scope.customerId = b.scope.customerId ∧ a.scope.supportSessionId = b.scope.supportSessionId

instance : DecidableRel (ActionProposal.sameSession (π := π) (ρ := ρ)) := fun _ _ =>
  inferInstanceAs (Decidable (_ ∧ _))

/-- One active proposal for a support session, one proposal of an action type for an idempotency
key in it, and one for a bank decision. -/
instance : Row (ActionProposal π ρ) Uuid where
  key := ActionProposal.id
  Clash a b := a.id = b.id ∨ (a.bankDecisionRef = b.bankDecisionRef ∧ a.bankDecisionRef ≠ none) ∨
    (a.sameSession b ∧ ((a.actionType = b.actionType ∧ a.idempotencyKey = b.idempotencyKey) ∨
      (a.status.isActive ∧ b.status.isActive)))
  clash_symm := by
    rintro a b (h | ⟨hd, hn⟩ | ⟨⟨hc, hs⟩, hk⟩)
    · exact Or.inl h.symm
    · exact Or.inr (Or.inl ⟨hd.symm, hd ▸ hn⟩)
    · exact Or.inr (Or.inr ⟨⟨hc.symm, hs.symm⟩, hk.imp (And.imp Eq.symm Eq.symm) And.symm⟩)
  clash_of_key := Or.inl

end

structure Db where
  users : Table User
  creditProducts : Table CreditProduct
  creditAccounts : Table CreditAccount
  issuedCards : Table IssuedCard
  authorizations : Table TransactionAuthorization
  postedTransactions : Table PostedTransaction
  accounts : Table Account
  transactions : Table Transaction
  ledgerEntries : Table AccountLedgerEntry
  auditOutbox : Table AuditOutbox
  fraudAlerts : Table FraudAlert
  fraudCaseActions : Table FraudCaseAction

def Db.empty : Db :=
  ⟨.empty, .empty, .empty, .empty, .empty, .empty, .empty, .empty, .empty, .empty, .empty, .empty⟩

structure Ambient where
  now : Timestamp
  year : ℕ
  uuid4 : ℕ → Uuid

/-- The UUIDs left to the `k`-th call made from here. -/
def Ambient.part (env : Ambient) (k : ℕ) : Ambient :=
  { env with uuid4 := fun n => env.uuid4 (16 * n + k) }

/-- Values that no other seed gives, for calls on fixed inputs. -/
def Ambient.seeded (seed : ℕ) : Ambient := ⟨seed, 2026, fun n => .ofNat (65536 * seed + n)⟩

/-- `secrets.token_hex(n)`, for `n` up to 16. -/
def Ambient.tokenHex (env : Ambient) (n : ℕ) : String :=
  String.ofList (((env.uuid4 0).digits.take (2 * n)).map Uuid.hexDigit)

/-- `secrets.randbelow(n)`. -/
def Ambient.randbelow (env : Ambient) (n : ℕ) : ℕ :=
  ((env.uuid4 1).digits.foldl (fun m d => 16 * m + d.val) 0) % n

/-- `db.add(row)` and a flush. -/
def insert {ρ κ : Type} [Row ρ κ] (t : Table ρ) (r : ρ) : Except PyException (Table ρ) :=
  Checked.orRaise (t.insert? r) .integrityError

@[simp] theorem insert_eq_ok {ρ κ : Type} [Row ρ κ] {t t' : Table ρ} {r : ρ} :
    insert t r = .ok t' ↔ t.insert? r = some t' := by
  simp [insert]

/-- `db.add_all(rows)` and a flush. -/
def insertAll {ρ κ : Type} [Row ρ κ] (t : Table ρ) (l : List ρ) : Except PyException (Table ρ) :=
  Checked.orRaise (t.insertAll? l) .integrityError

@[simp] theorem insertAll_eq_ok {ρ κ : Type} [Row ρ κ] {t t' : Table ρ} {l : List ρ} :
    insertAll t l = .ok t' ↔ t.insertAll? l = some t' := by
  simp [insertAll]

/-- A call that commits what it wrote, or rolls it back and raises. -/
def commitOrRollback {α : Type} (db : Db) (call : Except PyException (Db × α)) :
    Db × Except PyException α :=
  match call with
  | .ok (db', a) => (db', .ok a)
  | .error e => (db, .error e)

/-- A call that commits once changes nothing or has returned. -/
theorem commitOrRollback_cases {α : Type} (db : Db) (call : Except PyException (Db × α)) :
    (commitOrRollback db call).1 = db ∨
      ∃ a, call = .ok ((commitOrRollback db call).1, a) := by
  unfold commitOrRollback
  cases call with
  | ok r => exact Or.inr ⟨r.2, rfl⟩
  | error e => exact Or.inl rfl

theorem commitOrRollback_keeps {α : Type} {P : Db → Prop} {db : Db}
    {call : Except PyException (Db × α)} (start : P db)
    (commits : ∀ db' a, call = .ok (db', a) → P db') : P (commitOrRollback db call).1 := by
  rcases commitOrRollback_cases db call with hsame | ⟨a, hok⟩
  · rw [hsame]
    exact start
  · exact commits _ a hok

theorem commitOrRollback_of_ok {α : Type} {db db' : Db} {call : Except PyException (Db × α)}
    {a : α} (h : call = .ok (db', a)) : (commitOrRollback db call).1 = db' := by
  rw [h]
  rfl

theorem commitOrRollback_of_error {α : Type} {db : Db} {call : Except PyException (Db × α)}
    (h : ∀ a, call ≠ .ok a) : (commitOrRollback db call).1 = db := by
  cases call with
  | ok a => exact absurd rfl (h a)
  | error e => rfl

/-- A column that the session assigned is written only if its value differs from the one it had
loaded; a column that another transaction changed in between is otherwise left alone. -/
def assign {α : Type} [DecidableEq α] (loaded new current : α) : α :=
  if new = loaded then current else new

@[simp] theorem assign_current {α : Type} [DecidableEq α] (new current : α) :
    assign current new current = new := by
  unfold assign
  split <;> simp_all

end BankingService
