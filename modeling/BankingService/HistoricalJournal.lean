import BankingService.AuditRelay

/-! The migration that brings an older ledger into the journal: it normalizes the entries, balances
one-sided transactions, adds the card statements and records an event for every transaction. -/
namespace BankingService.HistoricalJournal

open Python Relational Checked IsoTime

/-- What the statements leave to PostgreSQL. The digits of a digest are those of a UUID. -/
structure Postgres where
  upper : String → String
  md5 : String → Uuid
  jsonb : List (String × Json) → String
  currentTimestamp : LocalDateTime

structure Account where
  id : Uuid
  accountNumber : String
  creditAccountId : Option Uuid
  currency : Option String
  deriving DecidableEq

instance : Row Account Uuid where
  key := Account.id
  Clash a b := a.id = b.id ∨ a.accountNumber = b.accountNumber ∨
    (a.creditAccountId ≠ none ∧ a.creditAccountId = b.creditAccountId)
  clash_symm := by
    rintro a b (h | h | ⟨h, heq⟩)
    · exact Or.inl h.symm
    · exact Or.inr (Or.inl h.symm)
    · exact Or.inr (Or.inr ⟨heq ▸ h, heq.symm⟩)
  clash_of_key := Or.inl

structure Transaction where
  id : Uuid
  idempotencyKey : String
  description : Option String
  deriving DecidableEq

instance : Row Transaction Uuid where
  key := Transaction.id
  Clash a b := a.id = b.id ∨ a.idempotencyKey = b.idempotencyKey
  clash_symm := Or.imp Eq.symm Eq.symm
  clash_of_key := Or.inl

structure LedgerEntry where
  entryId : Uuid
  transactionId : Uuid
  accountId : Uuid
  amountCents : ℤ
  entryType : String
  postedAt : LocalDateTime
  deriving DecidableEq

instance : Row LedgerEntry Uuid := Row.ofKey LedgerEntry.entryId

structure CreditAccount where
  id : Uuid
  currency : Option String
  deriving DecidableEq

instance : Row CreditAccount Uuid := Row.ofKey CreditAccount.id

structure PostedTransaction where
  id : Uuid
  accountId : Uuid
  amountCents : ℤ
  description : String
  postedAt : LocalDateTime
  journalTransactionId : Option Uuid
  deriving DecidableEq

instance : Row StoredEvent String := Row.ofKey StoredEvent.eventId

structure Ledger where
  accounts : Table Account
  transactions : Table Transaction
  entries : Table LedgerEntry
  creditAccounts : Table CreditAccount
  postedTransactions : List PostedTransaction
  auditOutbox : Table StoredEvent

def entriesOf (db : Ledger) (transactionId : Uuid) : List LedgerEntry :=
  db.entries.select fun e => e.transactionId = transactionId

section
variable {ρ κ : Type} [Row ρ κ]

/-- `INSERT … ON CONFLICT (column) DO NOTHING`; other constraints raise. -/
def insertMissing (conflict : ρ → ρ → Prop) [DecidableRel conflict] (t : Table ρ) (r : ρ) :
    Except PyException (Table ρ) :=
  if ∃ x ∈ t.rows, conflict x r then .ok t else insert t r

def insertAllMissing (conflict : ρ → ρ → Prop) [DecidableRel conflict] (t : Table ρ) (l : List ρ) :
    Except PyException (Table ρ) :=
  l.foldlM (insertMissing conflict) t

end

/-- The value of a `BIGINT` column. -/
def bigint (n : ℤ) : Except PyException ℤ := do
  require (-2 ^ 63 ≤ n ∧ n < 2 ^ 63) .statementError
  return n

/-- `INSERT INTO account_ledger … ON CONFLICT (entry_id) DO NOTHING`. -/
def insertEntry (db : Ledger) (e : LedgerEntry) : Except PyException Ledger :=
  if ∃ x ∈ db.entries.rows, x.entryId = e.entryId then .ok db
  else do
    require ((db.accounts.get? e.accountId).isSome ∧ (db.transactions.get? e.transactionId).isSome)
      .integrityError
    let entries ← insert db.entries e
    return { db with entries }

variable (pg : Postgres)

def normalizeEntry (e : LedgerEntry) : Except PyException LedgerEntry := do
  let amountCents ← bigint e.amountCents.natAbs
  return { e with amountCents, entryType := pg.upper e.entryType }

def normalizeEntries (db : Ledger) : Except PyException Ledger := do
  let rows ← db.entries.rows.mapM (normalizeEntry pg)
  let entries ← insertAll .empty rows
  return { db with entries }

def legacyClearingId : Uuid := .ofNat 0x00000000000040008000000000000901
def merchantClearingId : Uuid := .ofNat 0x00000000000040008000000000000902

def insertClearing (id : Uuid) (accountNumber : String) (db : Ledger) :
    Except PyException Ledger := do
  let accounts ← insertMissing (fun a b => a.accountNumber = b.accountNumber) db.accounts
    { id, accountNumber, creditAccountId := none, currency := some "USD" }
  return { db with accounts }

def net (entries : List LedgerEntry) : ℤ :=
  (entries.map fun e => if e.entryType = "DEBIT" then e.amountCents else -e.amountCents).sum

/-- The balancing split of a one-sided transaction. -/
def balancingEntry (db : Ledger) (transactionId : Uuid) : Except PyException LedgerEntry := do
  let net := net (entriesOf db transactionId)
  let amountCents ← bigint net.natAbs
  return {
    entryId := pg.md5 ("legacy-balance:" ++ transactionId.str), transactionId,
    accountId := legacyClearingId, amountCents,
    entryType := if 0 < net then "CREDIT" else "DEBIT", postedAt := pg.currentTimestamp }

def balanceTransactions (db : Ledger) : Except PyException Ledger := do
  let imbalances := (db.entries.rows.map LedgerEntry.transactionId).dedup.filter
    fun id => net (entriesOf db id) ≠ 0
  let rows ← imbalances.mapM (balancingEntry pg db)
  rows.foldlM insertEntry db

def receivable (c : CreditAccount) : Account :=
  { id := pg.md5 ("credit-journal:" ++ c.id.str), accountNumber := "CARD-" ++ c.id.str,
    creditAccountId := some c.id, currency := some (c.currency.getD "USD") }

def addReceivables (db : Ledger) : Except PyException Ledger := do
  let accounts ← insertAllMissing
    (fun a b => a.creditAccountId ≠ none ∧ a.creditAccountId = b.creditAccountId) db.accounts
    (db.creditAccounts.rows.map (receivable pg))
  return { db with accounts }

def statementKey (p : PostedTransaction) : String := "backfill-card-statement:" ++ p.id.str

def addStatementTransactions (db : Ledger) : Except PyException Ledger := do
  let rows := db.postedTransactions.filter fun p =>
    (db.creditAccounts.get? p.accountId).isSome ∧ p.amountCents ≠ 0 ∧ p.journalTransactionId = none
  let transactions ← insertAllMissing (fun a b => a.idempotencyKey = b.idempotencyKey)
    db.transactions (rows.map fun p =>
      { id := pg.md5 ("statement-journal:" ++ p.id.str), idempotencyKey := statementKey p,
        description := some p.description })
  return { db with transactions }

def split (p : PostedTransaction) (transactionId accountId : Uuid) (name entryType : String) :
    Except PyException LedgerEntry := do
  let amountCents ← bigint p.amountCents.natAbs
  return {
    entryId := pg.md5 ("statement-split:" ++ p.id.str ++ ":" ++ name), transactionId, accountId,
    amountCents, entryType, postedAt := p.postedAt }

def statementPosts (db : Ledger) : List (PostedTransaction × Account × Transaction) :=
  (db.postedTransactions.filter fun p => p.amountCents ≠ 0).flatMap fun p =>
    (db.accounts.select fun a => a.creditAccountId = some p.accountId).flatMap fun a =>
      (db.transactions.select fun t => t.idempotencyKey = statementKey p).map fun t => (p, a, t)

def addStatementSplits (db : Ledger) : Except PyException Ledger := do
  let posts := statementPosts db
  let card ← posts.mapM fun x => split pg x.1 x.2.2.id x.2.1.id "card"
    (if x.1.amountCents < 0 then "DEBIT" else "CREDIT")
  let counterparty ← posts.mapM fun x => split pg x.1 x.2.2.id merchantClearingId "counterparty"
    (if x.1.amountCents < 0 then "CREDIT" else "DEBIT")
  (card ++ counterparty).foldlM insertEntry db

def linkStatements (db : Ledger) : Ledger :=
  let link := fun p : PostedTransaction =>
    match db.transactions.first? fun t => t.idempotencyKey = statementKey p with
    | some t => { p with journalTransactionId := p.journalTransactionId.or (some t.id) }
    | none => p
  { db with postedTransactions := db.postedTransactions.map link }

def parts (d : LocalDateTime) : List ℕ :=
  [d.year, d.month, d.day, d.hour, d.minute, d.second, d.microsecond]

def earliest (d : LocalDateTime) (l : List LocalDateTime) : LocalDateTime :=
  l.foldl (fun a b => if parts b < parts a then b else a) d

def eventIdFor (transactionId : Uuid) : Uuid := pg.md5 ("financial-event:" ++ transactionId.str)

def currencyOf (db : Ledger) (e : LedgerEntry) : Option String :=
  (db.accounts.get? e.accountId).bind Account.currency

/-- `COALESCE(MIN(a.currency), 'USD')`. -/
def eventCurrency (db : Ledger) (entries : List LedgerEntry) : String :=
  ((entries.filterMap (currencyOf db)).min?).getD "USD"

def entryFields (e : LedgerEntry) : List (String × Json) :=
  [("entry_id", .str e.entryId.str), ("account_id", .str e.accountId.str),
    ("direction", .str e.entryType), ("amount_cents", .int e.amountCents)]

/-- The payload of an event. A column without a zone is written without an offset. -/
def eventFields (db : Ledger) (t : Transaction) (e : LedgerEntry) (es : List LedgerEntry) :
    List (String × Json) :=
  let postedAt := String.ofList
    (earliest e.postedAt (es.map LedgerEntry.postedAt)).trimmedText
  let entries := (e :: es).insertionSort fun a b => a.entryId.str ≤ b.entryId.str
  [("event_id", .str (eventIdFor pg t.id).str), ("schema_version", .int 1),
    ("transaction_id", .str t.id.str), ("event_time", .str postedAt), ("posted_at", .str postedAt),
    ("currency", .str (eventCurrency db (e :: es))),
    ("source_type", .str "HISTORICAL_LEDGER_BACKFILL"), ("source_references", .obj []),
    ("description", t.description.elim .null .str),
    ("entries", .arr (entries.map fun x => .obj (entryFields x)))]

def historicalEvent (db : Ledger) (t : Transaction) : Option StoredEvent :=
  match entriesOf db t.id with
  | [] => none
  | e :: es =>
    some { eventId := (eventIdFor pg t.id).str, eventType := FINANCIAL_EVENT_TYPE,
           schemaVersion := 1, payload := pg.jsonb (eventFields pg db t e es),
           createdAt := pg.currentTimestamp }

def recordEvents (db : Ledger) : Except PyException Ledger := do
  let auditOutbox ← insertAllMissing (fun a b => a.eventId = b.eventId) db.auditOutbox
    (db.transactions.rows.filterMap (historicalEvent pg db))
  return { db with auditOutbox }

def checkEntries (db : Ledger) : Except PyException Unit :=
  require (∀ e ∈ db.entries.rows, 0 < e.amountCents ∧
    (e.entryType = "DEBIT" ∨ e.entryType = "CREDIT")) .integrityError

def upgrade (db : Ledger) : Except PyException Ledger := do
  let db ← normalizeEntries pg db
  let db ← insertClearing legacyClearingId "SYSTEM_LEGACY_JOURNAL_CLEARING" db
  let db ← balanceTransactions pg db
  let db ← addReceivables pg db
  let db ← insertClearing merchantClearingId "SYSTEM_CARD_MERCHANT_CLEARING" db
  let db ← addStatementTransactions pg db
  let db ← addStatementSplits pg db
  let db ← recordEvents pg (linkStatements db)
  checkEntries db
  return db

end BankingService.HistoricalJournal
