import BankingService.Library.Checked
import BankingService.Library.Table
import BankingService.Python
import Mathlib.Data.List.Dedup

/-! The evidence that a ledger can be given denominations, and the migration that relies on it. A
missing account currency is read as USD. -/
namespace BankingService.MoneyReconciliation

open Python Relational Checked

structure Account where
  id : Uuid
  accountType : String
  creditAccountId : Option Uuid
  clearedBalanceCents : ℤ
  currency : Option String
  deriving DecidableEq

instance : Row Account Uuid := Row.ofKey Account.id

structure CardAccount where
  id : Uuid
  currency : Option String
  deriving DecidableEq

instance : Row CardAccount Uuid := Row.ofKey CardAccount.id

structure Transaction where
  id : Uuid
  currencyCode : Option String
  deriving DecidableEq

instance : Row Transaction Uuid := Row.ofKey Transaction.id

structure Entry where
  entryId : Uuid
  transactionId : Uuid
  accountId : Uuid
  entryType : String
  amountCents : ℤ
  deriving DecidableEq

instance : Row Entry Uuid := Row.ofKey Entry.entryId

structure Database where
  accounts : Table Account
  cards : Table CardAccount
  transactions : Table Transaction
  entries : Table Entry
  hasCurrencyCode : Bool
  no_column : hasCurrencyCode = false → ∀ t ∈ transactions.rows, t.currencyCode = none

def SUPPORTED : List String := ["USD", "MXN", "JPY", "BHD"]

/-- `currency or "USD"` -/
def orUsd (currency : Option String) : String :=
  match currency with
  | some c => if c = "" then "USD" else c
  | none => "USD"

namespace Database

variable (db : Database)

def postings (transactionId : Uuid) : List Entry :=
  db.entries.select fun e => e.transactionId = transactionId

def related (accountId : Uuid) : List Uuid :=
  (db.entries.select fun e => e.accountId = accountId).map Entry.entryId

def Orphan (e : Entry) : Prop :=
  db.accounts.get? e.accountId = none ∨ db.transactions.get? e.transactionId = none

instance (e : Entry) : Decidable (db.Orphan e) := inferInstanceAs (Decidable (_ ∨ _))

end Database

/-- A credit counts up and anything else down. -/
def signedCents (e : Entry) : ℤ := e.amountCents * (if e.entryType = "CREDIT" then 1 else -1)

inductive Source where
  | accounts
  | creditAccounts
  deriving DecidableEq, Repr

structure Item where
  table : Source
  id : Uuid
  currency : Option String
  entryIds : List Uuid
  deriving DecidableEq

structure Difference where
  accountId : Uuid
  accountType : String
  cachedMinor : ℤ
  journalMinor : ℤ
  deriving DecidableEq

/-- What the accounts of a transaction's entries say of its currency. -/
inductive Denomination where
  | mixed
  | unresolved
  | inferred (currency : String)
  deriving DecidableEq

def Denomination.currency? : Denomination → Option String
  | .inferred currency => some currency
  | _ => none

structure Counts where
  accounts : ℕ
  cardAccounts : ℕ
  transactions : ℕ
  entries : ℕ
  deriving DecidableEq

structure Report where
  counts : Counts
  nullAccounts : List Item
  invalidAccounts : List Item
  mirrorConflicts : List Uuid
  mixedTransactions : List Uuid
  unresolvedTransactions : List Uuid
  headerConflicts : List Uuid
  orphanEntries : List Uuid
  unbalancedTransactions : List Uuid
  balanceDifferences : List Difference
  inferredTransactionCurrencies : List (Uuid × String)
  deriving DecidableEq

namespace Database

variable (db : Database)

def accountItem (a : Account) : Item := ⟨.accounts, a.id, a.currency, db.related a.id⟩

def cardItem (c : CardAccount) : Item :=
  ⟨.creditAccounts, c.id, c.currency,
    (db.accounts.select fun m => m.creditAccountId = some c.id).flatMap fun m => db.related m.id⟩

def items : List Item := db.accounts.rows.map db.accountItem ++ db.cards.rows.map db.cardItem

def MirrorConflict (a : Account) : Prop :=
  ∃ cardId ∈ a.creditAccountId, ∀ card ∈ db.cards.get? cardId,
    orUsd a.currency ≠ orUsd card.currency

instance (a : Account) : Decidable (db.MirrorConflict a) :=
  inferInstanceAs (Decidable (∃ cardId ∈ a.creditAccountId, ∀ card ∈ db.cards.get? cardId,
    orUsd a.currency ≠ orUsd card.currency))

def currencies (transactionId : Uuid) : List String :=
  ((db.postings transactionId).filterMap fun e =>
    (db.accounts.get? e.accountId).map fun a => orUsd a.currency).dedup

def denomination (transactionId : Uuid) : Denomination :=
  match db.currencies transactionId with
  | [c] => if c ∈ SUPPORTED then .inferred c else .unresolved
  | [] => .unresolved
  | _ :: _ :: _ => .mixed

def HeaderConflict (t : Transaction) : Prop :=
  ∃ code ∈ t.currencyCode, ∃ c ∈ (db.denomination t.id).currency?, code ≠ c

instance (t : Transaction) : Decidable (db.HeaderConflict t) :=
  inferInstanceAs (Decidable (∃ code ∈ t.currencyCode,
    ∃ c ∈ (db.denomination t.id).currency?, code ≠ c))

def Unbalanced (t : Transaction) : Prop := ((db.postings t.id).map signedCents).sum ≠ 0

instance (t : Transaction) : Decidable (db.Unbalanced t) := inferInstanceAs (Decidable (_ ≠ _))

/-- The change that an entry makes to the balance of its account; a card account counts the other
way. -/
def balanceChange (e : Entry) : ℤ :=
  match db.accounts.get? e.accountId with
  | some a => if a.accountType = "CREDIT_CARD" then - signedCents e else signedCents e
  | none => 0

def journalMinor (accountId : Uuid) : ℤ :=
  ((db.entries.select fun e => e.accountId = accountId ∧ ¬ db.Orphan e).map db.balanceChange).sum

def balanceDifferences : List Difference :=
  (db.accounts.select fun a => a.clearedBalanceCents ≠ db.journalMinor a.id).map fun a =>
    ⟨a.id, a.accountType, a.clearedBalanceCents, db.journalMinor a.id⟩

def transactionsWhere (p : Transaction → Prop) [DecidablePred p] : List Uuid :=
  (db.transactions.select p).map Transaction.id

def reconcileMoney : Report where
  counts := ⟨db.accounts.rows.length, db.cards.rows.length, db.transactions.rows.length,
    db.entries.rows.length⟩
  nullAccounts := db.items.filter fun item => item.currency = none
  invalidAccounts := db.items.filter fun item => ∃ c ∈ item.currency, c ∉ SUPPORTED
  mirrorConflicts := (db.accounts.select db.MirrorConflict).map Account.id
  mixedTransactions := db.transactionsWhere fun t => db.denomination t.id = .mixed
  unresolvedTransactions := db.transactionsWhere fun t => db.denomination t.id = .unresolved
  headerConflicts := db.transactionsWhere db.HeaderConflict
  orphanEntries := (db.entries.select db.Orphan).map Entry.entryId
  unbalancedTransactions := db.transactionsWhere db.Unbalanced
  balanceDifferences := db.balanceDifferences
  inferredTransactionCurrencies := db.transactions.rows.filterMap fun t =>
    (db.denomination t.id).currency?.map fun c => (t.id, c)

end Database

inductive Finding where
  | item (item : Item)
  | id (id : Uuid)
  deriving DecidableEq

def migrationBlockers (report : Report) : List (String × List Finding) :=
  [("invalid_accounts", report.invalidAccounts.map .item),
    ("mirror_conflicts", report.mirrorConflicts.map .id),
    ("mixed_transactions", report.mixedTransactions.map .id),
    ("unresolved_transactions", report.unresolvedTransactions.map .id),
    ("header_conflicts", report.headerConflicts.map .id),
    ("orphan_entries", report.orphanEntries.map .id),
    ("unbalanced_transactions", report.unbalancedTransactions.map .id)].filter fun p => p.2 ≠ []

inductive Dialect where
  | postgresql
  | sqlite
  deriving DecidableEq, Repr

inductive MigrationError where
  | runtimeError (blockers : List String)
  | duplicateColumn
  | integrityError
  deriving DecidableEq, Repr

/-- `NOT NULL` and the check of a currency column. -/
def Denominated (currency : Option String) : Prop := ∃ c ∈ currency, c ∈ SUPPORTED

instance (currency : Option String) : Decidable (Denominated currency) :=
  inferInstanceAs (Decidable (∃ c ∈ currency, c ∈ SUPPORTED))

/-- `UPDATE … SET currency='USD' WHERE currency IS NULL` -/
def backfill (currency : Option String) : Option String := some (currency.getD "USD")

namespace Database

variable (db : Database)

def backfillAccounts : Table Account :=
  db.accounts.updateAll fun a => { a with
    currency := backfill a.currency }

def backfillCards : Table CardAccount :=
  db.cards.updateAll fun c => { c with
    currency := backfill c.currency }

/-- The rows that `UPDATE … FROM` joins to a transaction. -/
def joined (accounts : Table Account) (transactionId : Uuid) : List (Option String) :=
  (db.postings transactionId).filterMap fun e =>
    (accounts.get? e.accountId).map Account.currency

/-- `SET currency_code=a.currency`. Of several joined rows PostgreSQL takes one, and does not say
which. -/
def joinedCode (pick : Uuid → ℕ) (accounts : Table Account) (t : Transaction) : Option String :=
  let rows := db.joined accounts t.id
  (rows[pick t.id % rows.length]?).getD t.currencyCode

def reportedCode (t : Transaction) : Option String :=
  match db.reconcileMoney.inferredTransactionCurrencies.lookup t.id with
  | some code => some code
  | none => t.currencyCode

def backfilledCode (dialect : Dialect) (pick : Uuid → ℕ) (t : Transaction) : Option String :=
  match dialect with
  | .postgresql => db.joinedCode pick db.backfillAccounts t
  | .sqlite => db.reportedCode t

def backfillTransactions (dialect : Dialect) (pick : Uuid → ℕ) : Table Transaction :=
  db.transactions.updateAll fun t => { t with
    currencyCode := db.backfilledCode dialect pick t }

def upgrade (dialect : Dialect) (pick : Uuid → ℕ) : Except MigrationError Database := do
  let blockers := migrationBlockers db.reconcileMoney
  require (blockers = []) (.runtimeError (blockers.map Prod.fst))
  require (db.hasCurrencyCode = false) .duplicateColumn
  require (∀ a ∈ db.backfillAccounts.rows, Denominated a.currency) .integrityError
  require (∀ c ∈ db.backfillCards.rows, Denominated c.currency) .integrityError
  let transactions := db.backfillTransactions dialect pick
  require (∀ t ∈ transactions.rows, Denominated t.currencyCode) .integrityError
  return {
    accounts := db.backfillAccounts
    cards := db.backfillCards
    transactions
    entries := db.entries
    hasCurrencyCode := true
    no_column := by
      intro h
      cases h }

/-- The currency of an account or a card, with a missing one read as USD. -/
abbrev read (currency : Option String) : String := currency.getD "USD"

/-- Every entry of a transaction is of one account currency. -/
def EntriesIn (transactionId : Uuid) (currency : String) : Prop :=
  ∀ e ∈ db.postings transactionId, ∀ a ∈ db.accounts.get? e.accountId, read a.currency = currency

/-- A ledger whose denominations leave no question. -/
structure Consistent (db : Database) : Prop where
  entries : ∀ e ∈ db.entries.rows, (∃ a, db.accounts.get? e.accountId = some a) ∧
    ∃ t, db.transactions.get? e.transactionId = some t
  denominated : ∀ t ∈ db.transactions.rows, db.postings t.id ≠ [] ∧
    ∃ c ∈ SUPPORTED, db.EntriesIn t.id c ∧ ∀ code ∈ t.currencyCode, code = c
  balanced : ∀ t ∈ db.transactions.rows, ((db.postings t.id).map signedCents).sum = 0
  accounts : ∀ a ∈ db.accounts.rows, ∀ c ∈ a.currency, c ∈ SUPPORTED
  cards : ∀ a ∈ db.cards.rows, ∀ c ∈ a.currency, c ∈ SUPPORTED
  mirrors : ∀ a ∈ db.accounts.rows, ∀ cardId ∈ a.creditAccountId,
    ∃ card, db.cards.get? cardId = some card ∧ read a.currency = read card.currency

theorem orUsd_eq_read {currency : Option String} (h : ∀ c ∈ currency, c ∈ SUPPORTED) :
    orUsd currency = read currency := by
  cases currency with
  | none => rfl
  | some c =>
    have hne : c ≠ "" := by
      rintro rfl
      exact absurd (h "" rfl) (by decide)
    exact if_neg hne

variable {db : Database}

theorem denomination_cases (t : Uuid) : db.denomination t = .mixed ∨
    db.denomination t = .unresolved ∨ ∃ c, db.denomination t = .inferred c := by
  cases db.denomination t with
  | mixed => exact Or.inl rfl
  | unresolved => exact Or.inr (Or.inl rfl)
  | inferred c => exact Or.inr (Or.inr ⟨c, rfl⟩)

theorem transactionsWhere_eq_nil {p : Transaction → Prop} [DecidablePred p] :
    db.transactionsWhere p = [] ↔ ∀ t ∈ db.transactions.rows, ¬ p t := by
  rw [transactionsWhere, List.map_eq_nil_iff, Table.select_eq_nil]

/-- No finding of any of the seven kinds. -/
structure Unblocked (db : Database) : Prop where
  supported : ∀ item ∈ db.items, ∀ c ∈ item.currency, c ∈ SUPPORTED
  mirrors : ∀ a ∈ db.accounts.rows, ¬ db.MirrorConflict a
  inferred : ∀ t ∈ db.transactions.rows, ∃ c, db.denomination t.id = .inferred c
  headers : ∀ t ∈ db.transactions.rows, ¬ db.HeaderConflict t
  orphans : ∀ e ∈ db.entries.rows, ¬ db.Orphan e
  balanced : ∀ t ∈ db.transactions.rows, ¬ db.Unbalanced t

theorem migrationBlockers_eq_nil :
    migrationBlockers db.reconcileMoney = [] ↔ Unblocked db := by
  simp only [migrationBlockers, List.filter_eq_nil_iff, List.forall_mem_cons, List.not_mem_nil,
    IsEmpty.forall_iff, implies_true, and_true, decide_eq_true_eq, not_not, List.map_eq_nil_iff,
    reconcileMoney, transactionsWhere_eq_nil, Table.select_eq_nil, not_exists, not_and]
  constructor
  · rintro ⟨hinvalid, hmirrors, hmixed, hunresolved, hheaders, horphans, hbalanced⟩
    refine ⟨hinvalid, hmirrors, fun t ht => ?_, hheaders, horphans, hbalanced⟩
    · exact ((denomination_cases t.id).resolve_left (hmixed t ht)).resolve_left
        (hunresolved t ht)
  · intro h
    refine ⟨h.supported, h.mirrors, ?_, ?_, h.headers, h.orphans, h.balanced⟩
    · intro t ht hmixed
      obtain ⟨c, hc⟩ := h.inferred t ht
      cases hc.symm.trans hmixed
    · intro t ht hunresolved
      obtain ⟨c, hc⟩ := h.inferred t ht
      cases hc.symm.trans hunresolved

theorem dedup_eq_singleton {α : Type} [DecidableEq α] {l : List α} {a : α} :
    l.dedup = [a] ↔ a ∈ l ∧ ∀ x ∈ l, x = a := by
  constructor
  · intro h
    constructor
    · rw [← List.mem_dedup, h]
      exact List.mem_singleton_self a
    · intro x hx
      rw [← List.mem_dedup, h] at hx
      exact List.mem_singleton.mp hx
  · rintro ⟨ha, hall⟩
    have hperm : l.dedup.Perm [a] := by
      rw [List.perm_ext_iff_of_nodup l.nodup_dedup (List.nodup_singleton a)]
      intro x
      rw [List.mem_dedup, List.mem_singleton]
      constructor
      · exact hall x
      · rintro rfl
        exact ha
    exact List.perm_singleton.mp hperm

theorem denomination_eq_inferred {t : Uuid} {c : String} : db.denomination t = .inferred c ↔
    c ∈ SUPPORTED ∧ db.currencies t = [c] := by
  unfold denomination
  split
  next c' hcurrencies =>
    split
    next hsupported =>
      rw [hcurrencies, Denomination.inferred.injEq, List.singleton_inj]
      constructor
      · rintro rfl
        exact ⟨hsupported, rfl⟩
      · exact fun h => h.2
    next hunsupported =>
      constructor
      · intro h
        cases h
      · rw [hcurrencies, List.singleton_inj]
        rintro ⟨hc, rfl⟩
        exact absurd hc hunsupported
  next hnone =>
    rw [hnone]
    constructor
    · intro h
      cases h
    · intro h
      cases h.2
  next hmany =>
    rw [hmany]
    constructor
    · intro h
      cases h
    · intro h
      cases h.2

theorem mem_postings {t : Uuid} {e : Entry} :
    e ∈ db.postings t ↔ e ∈ db.entries.rows ∧ e.transactionId = t := Table.mem_select

/-- With the accounts all there, a transaction has one denomination if it has an entry and all its
entries are in that currency. -/
theorem inferred_iff {t : Uuid} {c : String}
    (hsupported : ∀ a ∈ db.accounts.rows, ∀ c ∈ a.currency, c ∈ SUPPORTED)
    (hfound : ∀ e ∈ db.postings t, ∃ a, db.accounts.get? e.accountId = some a) :
    db.denomination t = .inferred c ↔
      c ∈ SUPPORTED ∧ db.postings t ≠ [] ∧ db.EntriesIn t c := by
  rw [denomination_eq_inferred, currencies, dedup_eq_singleton]
  have hread : ∀ e a, db.accounts.get? e = some a → orUsd a.currency = read a.currency :=
    fun e a ha => orUsd_eq_read (hsupported a (Table.get?_eq_some.mp ha).1)
  refine and_congr_right fun _ => ?_
  simp only [List.mem_filterMap, Option.map_eq_some_iff]
  constructor
  · rintro ⟨⟨e, he, a, ha, rfl⟩, hall⟩
    refine ⟨List.ne_nil_of_mem he, fun e' he' a' ha' => ?_⟩
    rw [← hread _ a' ha']
    exact hall _ ⟨e', he', a', ha', rfl⟩
  · rintro ⟨hne, hin⟩
    obtain ⟨e, he⟩ := List.exists_mem_of_ne_nil _ hne
    obtain ⟨a, ha⟩ := hfound e he
    constructor
    · refine ⟨e, he, a, ha, ?_⟩
      rw [hread _ a ha]
      exact hin e he a ha
    · rintro x ⟨e', he', a', ha', rfl⟩
      rw [hread _ a' ha']
      exact hin e' he' a' ha'

theorem items_supported : (∀ item ∈ db.items, ∀ c ∈ item.currency, c ∈ SUPPORTED) ↔
    (∀ a ∈ db.accounts.rows, ∀ c ∈ a.currency, c ∈ SUPPORTED) ∧
      ∀ a ∈ db.cards.rows, ∀ c ∈ a.currency, c ∈ SUPPORTED := by
  simp only [items, List.forall_mem_append, List.forall_mem_map, accountItem, cardItem]

theorem not_orphan_iff {e : Entry} : ¬ db.Orphan e ↔
    (∃ a, db.accounts.get? e.accountId = some a) ∧
      ∃ t, db.transactions.get? e.transactionId = some t := by
  rw [Orphan, not_or, ← ne_eq, ← ne_eq, Option.ne_none_iff_exists', Option.ne_none_iff_exists']

theorem not_headerConflict_iff {t : Transaction} {c : String}
    (hc : db.denomination t.id = .inferred c) :
    ¬ db.HeaderConflict t ↔ ∀ code ∈ t.currencyCode, code = c := by
  simp only [HeaderConflict, hc, Denomination.currency?, Option.mem_some_iff, exists_eq_left',
    not_exists, not_and, not_not]

theorem not_mirrorConflict_iff {a : Account}
    (ha : ∀ c ∈ a.currency, c ∈ SUPPORTED)
    (hcards : ∀ card ∈ db.cards.rows, ∀ c ∈ card.currency, c ∈ SUPPORTED) :
    ¬ db.MirrorConflict a ↔ ∀ cardId ∈ a.creditAccountId,
      ∃ card, db.cards.get? cardId = some card ∧ read a.currency = read card.currency := by
  have hread : ∀ id card, db.cards.get? id = some card → orUsd card.currency = read card.currency :=
    fun id card h => orUsd_eq_read (hcards card (Table.get?_eq_some.mp h).1)
  simp only [MirrorConflict, orUsd_eq_read ha, not_exists, not_and, not_forall, not_not,
    Option.mem_def]
  constructor
  · intro h cardId hid
    obtain ⟨card, hcard, heq⟩ := h cardId hid
    exact ⟨card, hcard, heq.trans (hread _ _ hcard)⟩
  · intro h cardId hid
    obtain ⟨card, hcard, heq⟩ := h cardId hid
    exact ⟨card, hcard, heq.trans (hread _ _ hcard).symm⟩

/-- The seven kinds of findings miss no inconsistency and report nothing else. -/
theorem unblocked_iff : Unblocked db ↔ Consistent db := by
  constructor
  · intro h
    obtain ⟨haccounts, hcards⟩ := items_supported.mp h.supported
    have hentries := fun e he => not_orphan_iff.mp (h.orphans e he)
    have hfound : ∀ t, ∀ e ∈ db.postings t, ∃ a, db.accounts.get? e.accountId = some a :=
      fun t e he => (hentries e (mem_postings.mp he).1).1
    refine ⟨hentries, fun t ht => ?_, fun t ht => not_not.mp (h.balanced t ht), haccounts, hcards,
      fun a ha => (not_mirrorConflict_iff (haccounts a ha) hcards).mp (h.mirrors a ha)⟩
    obtain ⟨c, hc⟩ := h.inferred t ht
    obtain ⟨hsupported, hne, hin⟩ := (inferred_iff haccounts (hfound t.id)).mp hc
    exact ⟨hne, c, hsupported, hin, (not_headerConflict_iff hc).mp (h.headers t ht)⟩
  · intro h
    have hfound : ∀ t, ∀ e ∈ db.postings t, ∃ a, db.accounts.get? e.accountId = some a :=
      fun t e he => (h.entries e (mem_postings.mp he).1).1
    have hinferred : ∀ t ∈ db.transactions.rows, ∃ c, db.denomination t.id = .inferred c ∧
        ∀ code ∈ t.currencyCode, code = c := by
      intro t ht
      obtain ⟨hne, c, hsupported, hin, hheader⟩ := h.denominated t ht
      exact ⟨c, (inferred_iff h.accounts (hfound t.id)).mpr ⟨hsupported, hne, hin⟩, hheader⟩
    constructor
    · exact items_supported.mpr ⟨h.accounts, h.cards⟩
    · intro a ha
      exact (not_mirrorConflict_iff (h.accounts a ha) h.cards).mpr (h.mirrors a ha)
    · intro t ht
      obtain ⟨c, hc, -⟩ := hinferred t ht
      exact ⟨c, hc⟩
    · intro t ht
      obtain ⟨c, hc, hheader⟩ := hinferred t ht
      exact (not_headerConflict_iff hc).mpr hheader
    · exact fun e he => not_orphan_iff.mpr (h.entries e he)
    · exact fun t ht => not_not.mpr (h.balanced t ht)

/-- The migrated ledger: the same rows, each with the denomination that was read from it. -/
structure Migrated (db db' : Database) : Prop where
  accounts : db'.accounts = db.backfillAccounts
  cards : db'.cards = db.backfillCards
  entries : db'.entries = db.entries
  ids : db'.transactions.rows.map Transaction.id = db.transactions.rows.map Transaction.id
  supported : (∀ a ∈ db'.accounts.rows, Denominated a.currency) ∧
    (∀ c ∈ db'.cards.rows, Denominated c.currency) ∧
    ∀ t ∈ db'.transactions.rows, Denominated t.currencyCode
  transactions : ∀ t ∈ db'.transactions.rows, db'.postings t.id ≠ [] ∧
    ∀ e ∈ db'.postings t.id, ∃ a, db'.accounts.get? e.accountId = some a ∧
      a.currency = t.currencyCode
  mirrors : ∀ a ∈ db'.accounts.rows, ∀ cardId ∈ a.creditAccountId,
    ∃ card, db'.cards.get? cardId = some card ∧ a.currency = card.currency

theorem denominated_backfill {currency : Option String} (h : ∀ c ∈ currency, c ∈ SUPPORTED) :
    Denominated (backfill currency) := by
  cases currency with
  | none => exact ⟨"USD", rfl, by decide⟩
  | some c => exact ⟨c, rfl, h c rfl⟩

theorem backfillAccounts_get? {id : Uuid} {a : Account} (h : db.accounts.get? id = some a) :
    db.backfillAccounts.get? id = some { a with
      currency := some (read a.currency) } := by
  have hget : db.backfillAccounts.get? id = (db.accounts.get? id).map fun a => { a with
      currency := backfill a.currency } := Table.get?_updateAll _
  rw [hget, h]
  rfl

theorem backfillCards_get? {id : Uuid} {c : CardAccount} (h : db.cards.get? id = some c) :
    db.backfillCards.get? id = some { c with
      currency := some (read c.currency) } := by
  have hget : db.backfillCards.get? id = (db.cards.get? id).map fun c => { c with
      currency := backfill c.currency } := Table.get?_updateAll _
  rw [hget, h]
  rfl

/-- Whichever joined row PostgreSQL takes, it is the one denomination. -/
theorem joinedCode_eq {t : Transaction} {c : String} (pick : Uuid → ℕ)
    (hfound : ∀ e ∈ db.postings t.id, ∃ a, db.accounts.get? e.accountId = some a)
    (hne : db.postings t.id ≠ []) (hin : db.EntriesIn t.id c) :
    db.joinedCode pick db.backfillAccounts t = some c := by
  have hall : ∀ x ∈ db.joined db.backfillAccounts t.id, x = some c := by
    intro x hx
    obtain ⟨e, he, hx⟩ := List.mem_filterMap.mp hx
    obtain ⟨a, ha⟩ := hfound e he
    rw [backfillAccounts_get? ha] at hx
    cases hx
    rw [hin e he a ha]
  have hpos : 0 < (db.joined db.backfillAccounts t.id).length := by
    obtain ⟨e, he⟩ := List.exists_mem_of_ne_nil _ hne
    obtain ⟨a, ha⟩ := hfound e he
    have hmem : some (read a.currency) ∈ db.joined db.backfillAccounts t.id := by
      refine List.mem_filterMap.mpr ⟨e, he, ?_⟩
      rw [backfillAccounts_get? ha]
      rfl
    exact List.length_pos_of_mem hmem
  have hlt := Nat.mod_lt (pick t.id) hpos
  unfold joinedCode
  dsimp only
  rw [List.getElem?_eq_getElem hlt, Option.getD_some]
  exact hall _ (List.getElem_mem hlt)

theorem lookup_inferred {t : Transaction} {c : String} (ht : t ∈ db.transactions.rows)
    (hc : db.denomination t.id = .inferred c) :
    db.reconcileMoney.inferredTransactionCurrencies.lookup t.id = some c := by
  have hrows : ∀ l : List Transaction, t ∈ l → (l.filterMap fun t =>
      (db.denomination t.id).currency?.map fun c => (t.id, c)).lookup t.id = some c := by
    intro l
    induction l with
    | nil =>
      intro h
      cases h
    | cons u l ih =>
      intro h
      by_cases hid : t.id = u.id
      · rw [List.filterMap_cons_some (b := (t.id, c)) (by rw [← hid, hc]; rfl)]
        rw [List.lookup_cons_self]
      · have htl : t ∈ l := (List.mem_cons.mp h).resolve_left fun htu => hid (htu ▸ rfl)
        cases hu : (db.denomination u.id).currency? with
        | none =>
          rw [List.filterMap_cons_none (by rw [hu]; rfl)]
          exact ih htl
        | some c' =>
          rw [List.filterMap_cons_some (b := (u.id, c')) (by rw [hu]; rfl), List.lookup_cons]
          rw [beq_false_of_ne hid]
          exact ih htl
  exact hrows _ ht

theorem backfilled_code (h : Consistent db) (dialect : Dialect) (pick : Uuid → ℕ) {t : Transaction}
    (ht : t ∈ db.transactions.rows) : ∃ c ∈ SUPPORTED, db.postings t.id ≠ [] ∧
      db.EntriesIn t.id c ∧ db.backfilledCode dialect pick t = some c := by
  have hfound : ∀ e ∈ db.postings t.id, ∃ a, db.accounts.get? e.accountId = some a :=
    fun e he => (h.entries e (mem_postings.mp he).1).1
  obtain ⟨hne, c, hsupported, hin, -⟩ := h.denominated t ht
  refine ⟨c, hsupported, hne, hin, ?_⟩
  cases dialect with
  | postgresql => exact joinedCode_eq pick hfound hne hin
  | sqlite =>
    have hc := (inferred_iff h.accounts hfound).mpr ⟨hsupported, hne, hin⟩
    simp only [backfilledCode, reportedCode, lookup_inferred ht hc]

theorem upgrade_migrated (h : Consistent db) (hcolumn : db.hasCurrencyCode = false)
    (dialect : Dialect) (pick : Uuid → ℕ) :
    ∃ db', db.upgrade dialect pick = .ok db' ∧ Migrated db db' := by
  have haccounts : ∀ a ∈ db.backfillAccounts.rows, Denominated a.currency := by
    intro a ha
    obtain ⟨b, hb, rfl⟩ := List.mem_map.mp ha
    exact denominated_backfill (h.accounts b hb)
  have hcards : ∀ c ∈ db.backfillCards.rows, Denominated c.currency := by
    intro c hc
    obtain ⟨d, hd, rfl⟩ := List.mem_map.mp hc
    exact denominated_backfill (h.cards d hd)
  have htransactions : ∀ t ∈ (db.backfillTransactions dialect pick).rows,
      Denominated t.currencyCode := by
    intro t ht
    obtain ⟨u, hu, rfl⟩ := List.mem_map.mp ht
    obtain ⟨c, hsupported, -, -, hcode⟩ := backfilled_code h dialect pick hu
    exact ⟨c, hcode, hsupported⟩
  refine ⟨⟨db.backfillAccounts, db.backfillCards, db.backfillTransactions dialect pick, db.entries,
    true, nofun⟩, ?_, ?_⟩
  · simp only [upgrade, bind_eq_ok, require_eq_ok, pure_eq_ok, exists_const]
    exact ⟨migrationBlockers_eq_nil.mpr (unblocked_iff.mpr h), hcolumn, haccounts, hcards,
      htransactions, trivial⟩
  · constructor
    · rfl
    · rfl
    · rfl
    · exact List.map_map.trans rfl
    · exact ⟨haccounts, hcards, htransactions⟩
    · intro t ht
      obtain ⟨u, hu, rfl⟩ := List.mem_map.mp ht
      obtain ⟨c, -, hne, hin, hcode⟩ := backfilled_code h dialect pick hu
      refine ⟨hne, fun e he => ?_⟩
      obtain ⟨a, ha⟩ := (h.entries e (mem_postings.mp he).1).1
      refine ⟨_, backfillAccounts_get? ha, ?_⟩
      rw [hin e he a ha]
      exact hcode.symm
    · intro a ha cardId hid
      obtain ⟨b, hb, rfl⟩ := List.mem_map.mp ha
      obtain ⟨card, hcard, heq⟩ := h.mirrors b hb cardId hid
      refine ⟨_, backfillCards_get? hcard, ?_⟩
      rw [← heq]
      rfl

/-- An empty report is exactly a ledger without inconsistencies, and one on which the migration
goes through. -/
theorem blockers_complete (db : Database) :
    (migrationBlockers db.reconcileMoney = [] ↔ Consistent db) ∧
    (migrationBlockers db.reconcileMoney = [] → db.hasCurrencyCode = false →
      ∀ dialect pick, ∃ db', db.upgrade dialect pick = .ok db' ∧ Migrated db db') := by
  have hiff : migrationBlockers db.reconcileMoney = [] ↔ Consistent db :=
    migrationBlockers_eq_nil.trans unblocked_iff
  exact ⟨hiff, fun hnone hcolumn => upgrade_migrated (hiff.mp hnone) hcolumn⟩

def legacyLedger : Database :=
  { accounts := ⟨[⟨.ofNat 1, "CHECKING", none, 500, none⟩,
      ⟨.ofNat 2, "CREDIT_CARD", some (.ofNat 3), 500, some "USD"⟩], by decide +kernel⟩
    cards := ⟨[⟨.ofNat 3, none⟩], by decide +kernel⟩
    transactions := ⟨[⟨.ofNat 4, none⟩], by decide +kernel⟩
    entries := ⟨[⟨.ofNat 5, .ofNat 4, .ofNat 1, "CREDIT", 500⟩,
      ⟨.ofNat 6, .ofNat 4, .ofNat 2, "DEBIT", 500⟩], by decide +kernel⟩
    hasCurrencyCode := false
    no_column := by decide +kernel }

theorem blockers_complete_legacy :
    Consistent legacyLedger ∧ ∃ db', legacyLedger.upgrade .postgresql (fun _ => 1) = .ok db' ∧
      Migrated legacyLedger db' := by
  have hnone : migrationBlockers legacyLedger.reconcileMoney = [] := by decide +kernel
  obtain ⟨hiff, hmigrated⟩ := blockers_complete legacyLedger
  exact ⟨hiff.mp hnone, hmigrated hnone rfl .postgresql fun _ => 1⟩

end Database

end BankingService.MoneyReconciliation
