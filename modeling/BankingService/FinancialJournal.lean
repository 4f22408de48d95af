import BankingService.Audit
import Mathlib.Data.List.Sort

/-! The balanced financial journal. A posting is checked, then either found again under its
idempotency key or appended with its event. -/
namespace BankingService

open Python Relational Checked

def FINANCIAL_EVENT_TYPE : String := "FINANCIAL_TRANSACTION_POSTED"
def FINANCIAL_EVENT_SCHEMA_VERSION : ℕ := 2

structure JournalEntrySpec where
  accountId : Uuid
  direction : String
  money : Money
  deriving DecidableEq

structure JournalPosting where
  transaction : Transaction
  entries : List AccountLedgerEntry
  eventId : String
  deriving DecidableEq

/-- The USD account keeps the plain number; other denominations get their own. -/
def clearingNumber (accountNumber : String) (currency : CurrencyCode) : String :=
  if currency = .usd then accountNumber else accountNumber ++ "_" ++ currency.text

def ensureSystemJournalAccount (db : Db) (env : Ambient) (accountNumber description : String)
    (currency : CurrencyCode) : Except PyException (Db × Account) :=
  let number := clearingNumber accountNumber currency
  match db.accounts.first? fun a => a.accountNumber = number with
  | some account => do
    require (account.currency = currency) (.valueError "Clearing account denomination mismatch")
    return (db, account)
  | none => do
    let account : Account :=
      { id := env.uuid4 0, userId := none, accountNumber := number, accountType := .system,
        productName := description, productCode := none, creditAccountId := none,
        status := .active, creditLimitCents := 0, clearedBalanceCents := 0,
        availableCreditCents := 0, currency := currency, mirror_is_card := fun h => absurd rfl h,
        system_number := fun _ => rfl }
    let accounts ← insert db.accounts account
    return ({ db with accounts := accounts }, account)

def Account.synchronize (c : CreditAccount) (m : Account) : Account :=
  { m with
    status := c.status, clearedBalanceCents := c.clearedBalanceCents,
    availableCreditCents := c.availableCreditCents, creditLimitCents := c.creditLimitCents }

/-- The journal account of a card. An existing one is overwritten from the credit account. -/
def ensureCreditJournalAccount (db : Db) (env : Ambient) (c : CreditAccount) :
    Except PyException (Db × Account) :=
  match db.accounts.first? fun a => a.creditAccountId = some c.id with
  | some account => do
    require (account.currency = c.currency)
      (.valueError "Card journal mirror denomination mismatch")
    return ({ db with accounts := db.accounts.update account.id (Account.synchronize c) },
      account.synchronize c)
  | none => do
    let account : Account :=
      { id := env.uuid4 0, userId := some c.customerId, accountNumber := "CARD-" ++ c.id.str,
        accountType := .creditCard, productName := "Card receivable (" ++ c.productCode ++ ")",
        productCode := none, creditAccountId := some c.id, status := c.status,
        creditLimitCents := c.creditLimitCents, clearedBalanceCents := c.clearedBalanceCents,
        availableCreditCents := c.availableCreditCents, currency := c.currency,
        mirror_is_card := fun _ => rfl,
        system_number := fun h => absurd h (by simp [isSystemNumber]) }
    let accounts ← insert db.accounts account
    return ({ db with accounts := accounts }, account)

/-- A card's mirror is there and shows the card's balance; no other account changed. -/
structure MirrorEnsured (accounts : Table Account) (c : CreditAccount) (mirror : Account)
    (accounts' : Table Account) : Prop where
  card : mirror.creditAccountId = some c.id
  found : accounts'.get? mirror.id = some mirror
  balance : mirror.clearedBalanceCents = c.clearedBalanceCents
  before : ∀ a, accounts.get? mirror.id = some a → a.creditAccountId = some c.id
  others : ∀ id, id ≠ mirror.id → accounts'.get? id = accounts.get? id
  totals : ∀ g : Account → ℤ, (∀ a, a.creditAccountId ≠ none → g a = 0) →
    accounts'.total g = accounts.total g

structure ClearingEnsured (accounts : Table Account) (clearing : Account)
    (accounts' : Table Account) : Prop where
  system : clearing.accountType = .system
  found : accounts'.get? clearing.id = some clearing
  kept : ∀ id a, accounts.get? id = some a → accounts'.get? id = some a
  opened : ∀ id a, accounts'.get? id = some a → accounts.get? id = some a ∨ a.accountType = .system

section
variable {db db' : Db} {env : Ambient}

theorem ensureCreditJournalAccount_effect {c : CreditAccount} {mirror : Account}
    (h : ensureCreditJournalAccount db env c = .ok (db', mirror)) :
    ∃ accounts, db' = { db with accounts := accounts } ∧
      MirrorEnsured db.accounts c mirror accounts := by
  unfold ensureCreditJournalAccount at h
  cases hf : db.accounts.first? fun a => a.creditAccountId = some c.id with
  | some a =>
    simp only [hf, bind_eq_ok, require_eq_ok, pure_eq_ok] at h
    obtain ⟨-, -, h⟩ := h
    cases h
    obtain ⟨ha, hc⟩ := Table.first?_mem hf
    have hget : db.accounts.get? a.id = some a := Table.get?_of_mem ha
    refine ⟨_, rfl, hc, ?_, rfl, ?_, ?_, ?_⟩
    · have hself : (db.accounts.update a.id (Account.synchronize c)).get? a.id =
          some (a.synchronize c) := Table.get?_update_self _ hget
      exact hself
    · intro b hb
      have hab := hget.symm.trans hb
      cases hab
      exact hc
    · intro id hid
      have hother : (db.accounts.update a.id (Account.synchronize c)).get? id =
          db.accounts.get? id := Table.get?_update_of_ne _ hid
      exact hother
    · intro g hg
      have htotal : (db.accounts.update a.id (Account.synchronize c)).total g + g a =
          db.accounts.total g + g (a.synchronize c) := Table.total_update _ hget g
      have hzero : g a = 0 ∧ g (a.synchronize c) = 0 :=
        ⟨hg a (by simp [hc]), hg _ (by simp [Account.synchronize, hc])⟩
      rw [hzero.1, hzero.2, add_zero, add_zero] at htotal
      exact htotal
  | none =>
    simp only [hf, bind_eq_ok, insert_eq_ok, pure_eq_ok] at h
    obtain ⟨accounts, hi, h⟩ := h
    cases h
    refine ⟨accounts, rfl, rfl, Table.get?_insert_self hi, rfl, ?_, ?_, ?_⟩
    · intro b hb
      obtain ⟨hm, hk⟩ := Table.get?_eq_some.mp hb
      exact absurd (Or.inl hk) (Table.fresh_insert hi hm)
    · intro id hid
      rw [Table.get?_insert hi]
      exact if_neg (fun hk => hid hk.symm)
    · intro g hg
      rw [Table.total_insert hi, hg _ (by simp), add_zero]

theorem clearingNumber_system {number : String} (h : isSystemNumber number)
    (currency : CurrencyCode) : isSystemNumber (clearingNumber number currency) := by
  unfold clearingNumber
  split
  · exact h
  · unfold isSystemNumber at *
    rw [String.toList_append, String.toList_append, List.append_assoc]
    exact h.trans (List.prefix_append _ _)

theorem ensureSystemJournalAccount_effect {number description : String} {currency : CurrencyCode}
    {clearing : Account} (hn : isSystemNumber number)
    (h : ensureSystemJournalAccount db env number description currency = .ok (db', clearing)) :
    ∃ accounts, db' = { db with accounts := accounts } ∧
      ClearingEnsured db.accounts clearing accounts := by
  unfold ensureSystemJournalAccount at h
  cases hf : db.accounts.first? fun a => a.accountNumber = clearingNumber number currency with
  | some a =>
    simp only [hf, bind_eq_ok, require_eq_ok, pure_eq_ok] at h
    obtain ⟨-, -, h⟩ := h
    cases h
    obtain ⟨ha, hc⟩ := Table.first?_mem hf
    have hsystem : clearing.accountType = .system :=
      clearing.system_number (by rw [hc]; exact clearingNumber_system hn currency)
    exact ⟨_, rfl, hsystem, Table.get?_of_mem ha, fun _ _ h => h, fun _ _ h => Or.inl h⟩
  | none =>
    simp only [hf, bind_eq_ok, insert_eq_ok, pure_eq_ok] at h
    obtain ⟨accounts, hi, h⟩ := h
    cases h
    refine ⟨accounts, rfl, rfl, Table.get?_insert_self hi, ?_, ?_⟩
    · exact fun id a ha => Table.get?_insert_of_some hi ha
    · intro id a ha
      rw [Table.get?_insert hi, ite_eq_iff] at ha
      rcases ha with ⟨-, ha⟩ | ⟨-, ha⟩
      · cases ha
        exact Or.inr rfl
      · exact Or.inl ha

end

def Direction.ofText? (s : String) : Option Direction :=
  if s = "DEBIT" then some .debit else if s = "CREDIT" then some .credit else none

structure NormalizedEntry (currency : CurrencyCode) where
  accountId : Uuid
  direction : Direction
  money : Money
  denominated : money.currencyCode = currency
  positive : 0 < money.amountMinor

variable {currency : CurrencyCode}

def normalizeEntry (currency : CurrencyCode) (spec : JournalEntrySpec) :
    Except PyException (NormalizedEntry currency) :=
  if hc : spec.money.currencyCode = currency then
    match Direction.ofText? (upper spec.direction) with
    | none => .error (.valueError ("Invalid journal direction: " ++ Python.repr spec.direction))
    | some direction =>
      if hp : 0 < spec.money.amountMinor then
        .ok ⟨spec.accountId, direction, spec.money, hc, hp⟩
      else .error (.valueError "Journal amounts must be positive; direction carries the sign.")
  else .error (.valueError "Journal entry currency does not match transaction currency")

def directionTotal (d : Direction) (l : List (NormalizedEntry currency)) : ℤ :=
  ((l.filter fun e => e.direction = d).map fun e => e.money.amountMinor).sum

structure BalancedEntries (currency : CurrencyCode) where
  entries : List (NormalizedEntry currency)
  two_or_more : 2 ≤ entries.length
  balanced : directionTotal .debit entries = directionTotal .credit entries

def validateEntries (currency : CurrencyCode) (specs : List JournalEntrySpec) :
    Except PyException (BalancedEntries currency) := do
  let normalized ← specs.mapM (normalizeEntry currency)
  if h2 : 2 ≤ normalized.length then
    if hb : directionTotal .debit normalized = directionTotal .credit normalized then
      .ok ⟨normalized, h2, hb⟩
    else .error (.valueError ("Unbalanced " ++ currency.text ++ " transaction: debits=" ++
      toString (directionTotal .debit normalized) ++ ", credits=" ++
      toString (directionTotal .credit normalized) ++ "."))
  else .error (.valueError "A financial transaction requires at least two journal entries.")

theorem normalizeEntry_eq_ok {spec : JournalEntrySpec} {e : NormalizedEntry currency} :
    normalizeEntry currency spec = .ok e ↔ e.accountId = spec.accountId ∧ e.money = spec.money ∧
      Direction.ofText? (upper spec.direction) = some e.direction := by
  obtain ⟨account, direction, money, hc, hp⟩ := e
  unfold normalizeEntry
  constructor
  · split
    · split
      · simp
      · next d hd =>
        split
        · rintro ⟨⟩
          exact ⟨rfl, rfl, hd⟩
        · simp
    · simp
  · rintro ⟨rfl, rfl, hd⟩
    rw [dif_pos hc]
    simp only [hd]
    rw [dif_pos hp]

theorem validateEntries_eq_ok {specs : List JournalEntrySpec} {b : BalancedEntries currency} :
    validateEntries currency specs = .ok b ↔
      List.Forall₂ (fun spec e => normalizeEntry currency spec = .ok e) specs b.entries := by
  rw [← mapM_eq_ok]
  obtain ⟨entries, h2, hb⟩ := b
  simp only [validateEntries, bind_eq_ok]
  constructor
  · rintro ⟨l, hl, h⟩
    split at h
    · split at h
      · cases h
        exact hl
      · cases h
    · cases h
  · intro h
    refine ⟨entries, h, ?_⟩
    rw [dif_pos h2, dif_pos hb]

def NormalizedEntry.signature (e : NormalizedEntry currency) : String × Direction × ℤ :=
  (e.accountId.str, e.direction, e.money.amountMinor)

def AccountLedgerEntry.signature (e : AccountLedgerEntry) : String × Direction × ℤ :=
  (e.accountId.str, e.entryType, e.amountMinor)

def entriesOf (db : Db) (transactionId : Uuid) : List AccountLedgerEntry :=
  db.ledgerEntries.select fun e => e.transactionId = transactionId

/-- SQL's `LIKE`: `%` stands for any text and `_` for any character. -/
def like : List Char → List Char → Bool
  | [], text => text.isEmpty
  | '%' :: pattern, text => text.tails.any (like pattern)
  | _ :: _, [] => false
  | c :: pattern, d :: text => (c == '_' || c == d) && like pattern text

def transactionPattern (id : Uuid) : List Char :=
  "%\"transaction_id\":\"".toList ++ id.str.toList ++ "\"%".toList

/-- Whether the payload is `LIKE` the pattern: by the event's own field, or by what its references
hold at any depth. Nothing else of its text can be: the quotes inside a string are escaped. -/
def mentionsTransaction (id : Uuid) (r : AuditOutbox) : Prop :=
  r.eventType = FINANCIAL_EVENT_TYPE ∧
    match r.payload with
    | .financial e => e.transactionId = id ∨
        like (transactionPattern id) (Json.obj e.sourceReferences).sorted.text
    | .object fields =>
        like (transactionPattern id) (Json.obj (fields.map fun f => (f.1, f.2.json))).sorted.text

instance (id : Uuid) : DecidablePred (mentionsTransaction id) := fun r => by
  unfold mentionsTransaction
  cases r.payload <;> infer_instance

def replayPosting (db : Db) (key : String) (entries : BalancedEntries currency)
    (existing : Transaction) : Except PyException JournalPosting := do
  let existingEntries := (entriesOf db existing.id).insertionSort
    fun a b => a.entryId.str ≤ b.entryId.str
  require (currency = existing.currencyCode ∧
      (entries.entries.map NormalizedEntry.signature).Perm
        (existingEntries.map AccountLedgerEntry.signature))
    (.valueError ("Financial transaction idempotency key was reused with different " ++
      "journal entries: " ++ key))
  match db.auditOutbox.select (mentionsTransaction existing.id) with
  | [] => return ⟨existing, existingEntries, "existing:" ++ existing.id.str⟩
  | [event] => return ⟨existing, existingEntries, event.eventId⟩
  | _ => .error .multipleResultsFound

def postedTransaction (env : Ambient) (key description : String) (userId : Option Uuid)
    (currency : CurrencyCode) : Transaction :=
  { id := env.uuid4 0, idempotencyKey := key, userId := userId, status := "COMPLETED",
    description := description, requestHash := none, responsePayload := none,
    responseStatus := none, createdAt := env.now, currencyCode := currency }

def postedEntries (env : Ambient) (timestamp : Timestamp) (entries : BalancedEntries currency) :
    List AccountLedgerEntry :=
  entries.entries.mapIdx fun i e =>
    { entryId := env.uuid4 (i + 2), transactionId := env.uuid4 0, accountId := e.accountId,
      amountMinor := e.money.amountMinor, entryType := e.direction, postedAt := timestamp,
      positive := e.positive }

def eventEntry (currency : CurrencyCode) (e : AccountLedgerEntry) :
    Except PyException EventEntry := do
  let money ← Money.new e.amountMinor currency
  return ⟨e.entryId, e.accountId, e.entryType, money⟩

def appendPosting (db : Db) (env : Ambient) (key description sourceType : String)
    (references : SourceReferences) (userId : Option Uuid) (postedAt : Option Timestamp)
    (entries : BalancedEntries currency) : Except PyException (Db × JournalPosting) := do
  require (∀ e ∈ entries.entries, (db.accounts.get? e.accountId).isSome)
    (.valueError "Journal entry account not found")
  require (∀ a ∈ db.accounts.select
      (fun a => a.id ∈ entries.entries.map NormalizedEntry.accountId), a.currency = currency)
    (.valueError "Journal account denomination does not match transaction currency")
  let timestamp := postedAt.getD env.now
  let transaction := postedTransaction env key description userId currency
  let journalEntries := postedEntries env timestamp entries
  let transactions ← insert db.transactions transaction
  let ledgerEntries ← insertAll db.ledgerEntries journalEntries
  let eventId := (env.uuid4 1).str
  let eventEntries ← journalEntries.mapM (eventEntry currency)
  let db ← recordAuditEvent { db with transactions := transactions, ledgerEntries := ledgerEntries }
    env FINANCIAL_EVENT_TYPE
    (.financial
      { eventId := eventId, schemaVersion := FINANCIAL_EVENT_SCHEMA_VERSION,
        transactionId := transaction.id, eventTime := timestamp, postedAt := timestamp,
        currencyCode := currency, sourceType := sourceType, sourceReferences := references,
        description := description, entries := eventEntries })
    eventId FINANCIAL_EVENT_SCHEMA_VERSION
  return (db, ⟨transaction, journalEntries, eventId⟩)

structure PostingRequest where
  idempotencyKey : String
  description : String
  entries : List JournalEntrySpec
  sourceType : String
  currency : CurrencyCode := .usd
  sourceReferences : SourceReferences := []
  userId : Option Uuid := none
  postedAt : Option Timestamp := none

def findTransaction (db : Db) (key : String) : Option Transaction :=
  db.transactions.first? fun t => t.idempotencyKey = key

/-- A posting whose lookup of the key gave `existing`. -/
def postAfterLookup (db : Db) (env : Ambient) (r : PostingRequest) (existing : Option Transaction) :
    Except PyException (Db × JournalPosting) := do
  let entries ← validateEntries r.currency r.entries
  match existing with
  | some existing => do
    let posting ← replayPosting db r.idempotencyKey entries existing
    return (db, posting)
  | none =>
    appendPosting db env r.idempotencyKey r.description r.sourceType r.sourceReferences r.userId
      r.postedAt entries

/-- Appends a balanced transaction and its event without committing. -/
def postFinancialTransaction (db : Db) (env : Ambient) (r : PostingRequest) :
    Except PyException (Db × JournalPosting) :=
  postAfterLookup db env r (findTransaction db r.idempotencyKey)

variable {db db' : Db} {env : Ambient} {r : PostingRequest} {p : JournalPosting}

/-- The rows that a posting appends, and nothing else. -/
structure Appended (db : Db) (env : Ambient) (r : PostingRequest)
    (entries : BalancedEntries r.currency) (db' : Db) (p : JournalPosting) : Prop where
  accounts : ∀ e ∈ entries.entries,
    ∃ a, db.accounts.get? e.accountId = some a ∧ a.currency = r.currency
  transaction : p.transaction =
    postedTransaction env r.idempotencyKey r.description r.userId r.currency
  entries : p.entries = postedEntries env (r.postedAt.getD env.now) entries
  transactions : db.transactions.insert? p.transaction = some db'.transactions
  ledger : db.ledgerEntries.insertAll? p.entries = some db'.ledgerEntries
  event : ∃ l e, p.entries.mapM (eventEntry r.currency) = .ok l ∧
    e.transactionId = p.transaction.id ∧ e.currencyCode = r.currency ∧ e.entries = l ∧
    db.auditOutbox.insert? ⟨p.eventId, FINANCIAL_EVENT_TYPE, FINANCIAL_EVENT_SCHEMA_VERSION,
      .financial e, env.now⟩ = some db'.auditOutbox
  frame : db' = { db with
    transactions := db'.transactions, ledgerEntries := db'.ledgerEntries,
    auditOutbox := db'.auditOutbox }

theorem appended_of_appendPosting {entries : BalancedEntries r.currency}
    (h : appendPosting db env r.idempotencyKey r.description r.sourceType r.sourceReferences
      r.userId r.postedAt entries = .ok (db', p)) : Appended db env r entries db' p := by
  simp only [appendPosting, bind_eq_ok, require_eq_ok, insert_eq_ok, insertAll_eq_ok,
    recordAuditEvent_eq_ok, pure_eq_ok] at h
  obtain ⟨-, hfound, -, hcur, txs, htxs, les, hles, l, hl, db₁, ⟨box, hbox, rfl⟩, hp⟩ := h
  cases hp
  refine ⟨?_, rfl, rfl, htxs, hles, ⟨l, _, hl, rfl, rfl, rfl, hbox⟩, rfl⟩
  intro e he
  obtain ⟨a, ha⟩ := Option.isSome_iff_exists.mp (hfound e he)
  obtain ⟨hrow, hid⟩ := Table.get?_eq_some.mp ha
  refine ⟨a, ha, hcur a (Table.mem_select.mpr ⟨hrow, ?_⟩)⟩
  exact List.mem_map.mpr ⟨e, he, hid.symm⟩

theorem postAfterLookup_cases {existing : Option Transaction}
    (h : postAfterLookup db env r existing = .ok (db', p)) :
    ∃ entries, validateEntries r.currency r.entries = .ok entries ∧
      ((∃ t, existing = some t ∧ replayPosting db r.idempotencyKey entries t = .ok p ∧ db' = db) ∨
        (existing = none ∧ Appended db env r entries db' p)) := by
  simp only [postAfterLookup, bind_eq_ok] at h
  obtain ⟨entries, hv, h⟩ := h
  refine ⟨entries, hv, ?_⟩
  cases existing with
  | some t =>
    simp only [bind_eq_ok, pure_eq_ok] at h
    obtain ⟨q, hq, h⟩ := h
    cases h
    exact Or.inl ⟨t, rfl, hq, rfl⟩
  | none => exact Or.inr ⟨rfl, appended_of_appendPosting h⟩

theorem findTransaction_eq_some {key : String} {t : Transaction} :
    findTransaction db key = some t ↔ t ∈ db.transactions.rows ∧ t.idempotencyKey = key := by
  constructor
  · exact Table.first?_mem
  · rintro ⟨ht, hk⟩
    exact Table.first?_eq_some_of_unique (fun _ _ ha hb => Or.inr (ha.trans hb.symm)) ht hk

theorem findTransaction_eq_none {key : String} :
    findTransaction db key = none ↔ ∀ t ∈ db.transactions.rows, t.idempotencyKey ≠ key :=
  Table.first?_eq_none

/-- A posting either finds its transaction under the key or appends a new one. -/
theorem postFinancialTransaction_cases (h : postFinancialTransaction db env r = .ok (db', p)) :
    ∃ entries, validateEntries r.currency r.entries = .ok entries ∧
      ((∃ t, t ∈ db.transactions.rows ∧ t.idempotencyKey = r.idempotencyKey ∧
          replayPosting db r.idempotencyKey entries t = .ok p ∧ db' = db) ∨
        ((∀ t ∈ db.transactions.rows, t.idempotencyKey ≠ r.idempotencyKey) ∧
          Appended db env r entries db' p)) := by
  obtain ⟨entries, hv, ⟨t, ht, hp, hdb⟩ | ⟨hn, ha⟩⟩ := postAfterLookup_cases h
  · obtain ⟨hm, hk⟩ := findTransaction_eq_some.mp ht
    exact ⟨entries, hv, Or.inl ⟨t, hm, hk, hp, hdb⟩⟩
  · exact ⟨entries, hv, Or.inr ⟨findTransaction_eq_none.mp hn, ha⟩⟩

end BankingService
