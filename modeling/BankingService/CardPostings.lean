import BankingService.CreditCardRepository
import BankingService.FinancialJournal

/-! Postings to a card account: two balanced journal entries, one of them on the card's mirror,
a statement row, and the card's balance copied to the mirror. -/
namespace BankingService

open Python Relational Checked

def updateMirror (db : Db) (mirrorId : Uuid) (account : CreditAccount) : Db :=
  { db with
    accounts := db.accounts.update mirrorId fun m =>
      { m with
        clearedBalanceCents := account.clearedBalanceCents
        availableCreditCents := account.availableCreditCents } }

def addPostedTransaction (db : Db) (p : PostedTransaction) : Except PyException Db := do
  let posted ← insert db.postedTransactions p
  return { db with postedTransactions := posted }

/-- A transfer of `amount` from one journal account to another. -/
def pairOf (debit credit : Uuid) (money : Money) : List JournalEntrySpec :=
  [⟨debit, "DEBIT", money⟩, ⟨credit, "CREDIT", money⟩]

variable {db db₁ db₂ db₃ db' : Db} {env : Ambient}

structure PairAppended (db : Db) (key : String) (debit credit : Uuid) (money : Money)
    (t : Transaction) (db' : Db) : Prop where
  keyed : t.idempotencyKey = key
  transactions : db.transactions.insert? t = some db'.transactions
  entries : ∃ e₁ e₂, db.ledgerEntries.insertAll? [e₁, e₂] = some db'.ledgerEntries ∧
    (e₁.accountId = debit ∧ e₁.entryType = .debit ∧ e₁.amountMinor = money.amountMinor) ∧
    (e₂.accountId = credit ∧ e₂.entryType = .credit ∧ e₂.amountMinor = money.amountMinor) ∧
    e₁.transactionId = t.id ∧ e₂.transactionId = t.id

theorem PairAppended.fresh {key : String} {debit credit : Uuid} {money : Money} {t : Transaction}
    (h : PairAppended db key debit credit money t db') :
    ∀ x ∈ db.transactions.rows, x.idempotencyKey ≠ key := by
  intro x hx hk
  exact Table.fresh_insert h.transactions hx (Or.inr (hk.trans h.keyed.symm))

structure PairFound (db : Db) (debit : Uuid) (t : Transaction) (db' : Db) : Prop where
  same : db' = db
  debited : ∃ e ∈ entriesOf db t.id, e.accountId = debit

theorem validate_pairOf {currency : CurrencyCode} {debit credit : Uuid} {money : Money}
    {b : BalancedEntries currency}
    (h : validateEntries currency (pairOf debit credit money) = .ok b) :
    ∃ e₁ e₂, b.entries = [e₁, e₂] ∧
      (e₁.accountId = debit ∧ e₁.direction = .debit ∧ e₁.money = money) ∧
      e₂.accountId = credit ∧ e₂.direction = .credit ∧ e₂.money = money := by
  rw [validateEntries_eq_ok, pairOf] at h
  obtain ⟨e₁, l₁, h₁, hl, hb⟩ := List.forall₂_cons_left_iff.mp h
  obtain ⟨e₂, l₂, h₂, hnil, rfl⟩ := List.forall₂_cons_left_iff.mp hl
  rw [List.forall₂_nil_left_iff] at hnil
  subst hnil
  rw [normalizeEntry_eq_ok] at h₁ h₂
  have hd : Direction.ofText? (upper "DEBIT") = some .debit := by decide
  have hc : Direction.ofText? (upper "CREDIT") = some .credit := by decide
  refine ⟨e₁, e₂, hb, ⟨h₁.1, ?_, h₁.2.1⟩, h₂.1, ?_, h₂.2.1⟩
  · exact (Option.some.inj (hd.symm.trans h₁.2.2)).symm
  · exact (Option.some.inj (hc.symm.trans h₂.2.2)).symm

theorem replayPosting_pair {currency : CurrencyCode} {key : String} {debit credit : Uuid}
    {money : Money} {b : BalancedEntries currency} {t : Transaction} {p : JournalPosting}
    (hb : validateEntries currency (pairOf debit credit money) = .ok b)
    (h : replayPosting db key b t = .ok p) :
    p.transaction = t ∧ ∃ e ∈ entriesOf db t.id, e.accountId = debit := by
  obtain ⟨e₁, e₂, hentries, ⟨haccount, -, -⟩, -⟩ := validate_pairOf hb
  simp only [replayPosting, bind_eq_ok, require_eq_ok] at h
  obtain ⟨-, ⟨-, hperm⟩, h⟩ := h
  constructor
  · split at h
    · cases h
      rfl
    · cases h
      rfl
    · cases h
  · have hmem : e₁.signature ∈ b.entries.map NormalizedEntry.signature := by
      rw [hentries]
      exact List.mem_cons_self
    obtain ⟨e, he, hsig⟩ := List.mem_map.mp (hperm.mem_iff.mp hmem)
    rw [List.mem_insertionSort] at he
    refine ⟨e, he, ?_⟩
    have hstr : e.accountId.str = e₁.accountId.str := congrArg Prod.fst hsig
    exact (Uuid.str_injective hstr).trans haccount

theorem Appended.pair {r : PostingRequest} {debit credit : Uuid} {money : Money}
    {b : BalancedEntries r.currency} {p : JournalPosting}
    (hr : r.entries = pairOf debit credit money)
    (hb : validateEntries r.currency r.entries = .ok b) (h : Appended db env r b db' p) :
    PairAppended db r.idempotencyKey debit credit money p.transaction db' := by
  rw [hr] at hb
  obtain ⟨e₁, e₂, hentries, ⟨ha₁, hd₁, hm₁⟩, ha₂, hd₂, hm₂⟩ := validate_pairOf hb
  have hposted := h.entries
  simp only [postedEntries, hentries, List.mapIdx_cons, List.mapIdx_nil] at hposted
  refine ⟨?_, h.transactions, ?_⟩
  · rw [h.transaction]
    rfl
  · have hledger := h.ledger
    rw [hposted] at hledger
    refine ⟨_, _, hledger, ⟨ha₁, hd₁, ?_⟩, ⟨ha₂, hd₂, ?_⟩, ?_, ?_⟩
    · rw [← hm₁]
    · rw [← hm₂]
    · rw [h.transaction]
      rfl
    · rw [h.transaction]
      rfl

/-- A posting of two entries whose lookup of the key gave `existing`. -/
theorem postAfterLookup_pair {r : PostingRequest} {debit credit : Uuid} {money : Money}
    {existing : Option Transaction} {p : JournalPosting}
    (hr : r.entries = pairOf debit credit money)
    (h : postAfterLookup db env r existing = .ok (db', p)) :
    (∃ transactions entries outbox, db' = { db with
      transactions := transactions, ledgerEntries := entries, auditOutbox := outbox }) ∧
    ((existing = none ∧
        PairAppended db r.idempotencyKey debit credit money p.transaction db') ∨
      (existing = some p.transaction ∧ PairFound db debit p.transaction db')) := by
  obtain ⟨b, hb, ⟨t, rfl, hp, rfl⟩ | ⟨rfl, ha⟩⟩ := postAfterLookup_cases h
  · obtain ⟨ht, hfound⟩ := replayPosting_pair (by rw [← hr]; exact hb) hp
    refine ⟨⟨_, _, _, rfl⟩, Or.inr ⟨by rw [ht], rfl, ?_⟩⟩
    rw [ht]
    exact hfound
  · exact ⟨⟨_, _, _, ha.frame⟩, Or.inl ⟨rfl, ha.pair hr hb⟩⟩

theorem postFinancialTransaction_pair {r : PostingRequest} {debit credit : Uuid} {money : Money}
    {p : JournalPosting} (hr : r.entries = pairOf debit credit money)
    (h : postFinancialTransaction db env r = .ok (db', p)) :
    (∃ transactions entries outbox, db' = { db with
      transactions := transactions, ledgerEntries := entries, auditOutbox := outbox }) ∧
    (PairAppended db r.idempotencyKey debit credit money p.transaction db' ∨
      (p.transaction ∈ db.transactions.rows ∧ p.transaction.idempotencyKey = r.idempotencyKey ∧
        PairFound db debit p.transaction db')) := by
  obtain ⟨hframe, ⟨-, ha⟩ | ⟨ht, hf⟩⟩ := postAfterLookup_pair hr h
  · exact ⟨hframe, Or.inl ha⟩
  · obtain ⟨hmem, hkey⟩ := findTransaction_eq_some.mp ht
    exact ⟨hframe, Or.inr ⟨hmem, hkey, hf⟩⟩

/-- What a posting leaves in the ledger: the card's mirror shows the card's new balance, the
other side is a clearing account, and every other account is as it was. -/
structure CardBooks (accounts : Table Account) (updated : CreditAccount)
    (mirrorId clearingId : Uuid) (accounts' : Table Account) : Prop where
  mirror : ∃ m, accounts'.get? mirrorId = some m ∧ m.creditAccountId = some updated.id ∧
    m.clearedBalanceCents = updated.clearedBalanceCents
  before : ∀ a, accounts.get? mirrorId = some a → a.creditAccountId = some updated.id
  clearing : ∃ s, accounts'.get? clearingId = some s ∧ s.accountType = .system
  kept : ∀ id a, id ≠ mirrorId → accounts.get? id = some a → accounts'.get? id = some a
  opened : ∀ id a, id ≠ mirrorId → accounts'.get? id = some a →
    accounts.get? id = some a ∨ a.accountType = .system

theorem get?_updateMirror_self {m : Account} {updated : CreditAccount}
    (h : db.accounts.get? m.id = some m) :
    (updateMirror db m.id updated).accounts.get? m.id = some { m with
      clearedBalanceCents := updated.clearedBalanceCents
      availableCreditCents := updated.availableCreditCents } := by
  simp only [updateMirror]
  exact Table.get?_update_self _ h

theorem get?_updateMirror_of_ne {mirrorId id : Uuid} {updated : CreditAccount}
    (h : id ≠ mirrorId) :
    (updateMirror db mirrorId updated).accounts.get? id = db.accounts.get? id := by
  simp only [updateMirror]
  exact Table.get?_update_of_ne _ h

theorem cardBooks {accounts accounts₁ accounts₂ : Table Account} {card updated : CreditAccount}
    {mirror clearing : Account} (hm : MirrorEnsured accounts card mirror accounts₁)
    (hc : ClearingEnsured accounts₁ clearing accounts₂) (hid : updated.id = card.id)
    (hdb : db.accounts = accounts₂) :
    CardBooks accounts updated mirror.id clearing.id
      (updateMirror db mirror.id updated).accounts := by
  subst hdb
  have hmirror : db.accounts.get? mirror.id = some mirror := hc.kept _ _ hm.found
  have hne : clearing.id ≠ mirror.id := by
    intro h
    have hsame : mirror = clearing := by
      have := hc.found
      rw [h, hmirror] at this
      exact Option.some.inj this
    have hcard : mirror.accountType = .creditCard := mirror.mirror_is_card (by simp [hm.card])
    rw [hsame, hc.system] at hcard
    cases hcard
  refine ⟨⟨_, get?_updateMirror_self hmirror, ?_, rfl⟩, ?_, ?_, ?_, ?_⟩
  · rw [hid]
    exact hm.card
  · intro a ha
    rw [hid]
    exact hm.before a ha
  · refine ⟨clearing, ?_, hc.system⟩
    rw [get?_updateMirror_of_ne hne]
    exact hc.found
  · intro id a hidm ha
    rw [get?_updateMirror_of_ne hidm]
    apply hc.kept
    rw [hm.others id hidm]
    exact ha
  · intro id a hidm ha
    rw [get?_updateMirror_of_ne hidm] at ha
    rw [← hm.others id hidm]
    exact hc.opened id a ha

inductive PairJournaled (db : Db) (key : String) (debit credit : Uuid) (money : Money)
    (t : Transaction) (db' : Db) : Prop where
  | appended (new : PairAppended db key debit credit money t db')
  | found (stored : t ∈ db.transactions.rows) (keyed : t.idempotencyKey = key)
      (transactions : db'.transactions = db.transactions)
      (entries : db'.ledgerEntries = db.ledgerEntries)

/-- The account debited, or credited, by a posting whose `intoMirror` side is the mirror. -/
def sideOf (side intoMirror : Direction) (mirrorId clearingId : Uuid) : Uuid :=
  if side = intoMirror then mirrorId else clearingId

structure CardJournaled (db : Db) (account : CreditAccount) (key : String) (intoMirror : Direction)
    (money : Money) (mirror clearing : Account) (t : Transaction) (db' : Db) : Prop where
  frame : ∃ accounts transactions entries outbox, db' = { db with
    accounts := accounts, transactions := transactions, ledgerEntries := entries,
    auditOutbox := outbox }
  mirrored : ∃ accounts, MirrorEnsured db.accounts account mirror accounts ∧
    ClearingEnsured accounts clearing db'.accounts
  journaled : PairJournaled db key (sideOf .debit intoMirror mirror.id clearing.id)
    (sideOf .credit intoMirror mirror.id clearing.id) money t db'

theorem cardJournaled {account : CreditAccount} {intoMirror : Direction} {env₁ env₂ env₃ : Ambient}
    {mirror clearing : Account} {number description : String} {currency : CurrencyCode}
    {r : PostingRequest} {money : Money} {p : JournalPosting} (hn : isSystemNumber number)
    (hm : ensureCreditJournalAccount db env₁ account = .ok (db₁, mirror))
    (hc : ensureSystemJournalAccount db₁ env₂ number description currency = .ok (db₂, clearing))
    (hr : r.entries = pairOf (sideOf .debit intoMirror mirror.id clearing.id)
      (sideOf .credit intoMirror mirror.id clearing.id) money)
    (hp : postFinancialTransaction db₂ env₃ r = .ok (db₃, p)) :
    CardJournaled db account r.idempotencyKey intoMirror money mirror clearing
      p.transaction db₃ := by
  obtain ⟨accounts₁, rfl, hmirror⟩ := ensureCreditJournalAccount_effect hm
  obtain ⟨accounts₂, rfl, hclearing⟩ := ensureSystemJournalAccount_effect hn hc
  obtain ⟨⟨txs, entries, outbox, rfl⟩, hj⟩ := postFinancialTransaction_pair hr hp
  refine ⟨⟨_, _, _, _, rfl⟩, ⟨accounts₁, hmirror, hclearing⟩, ?_⟩
  rcases hj with ha | ⟨hmem, hkey, hf⟩
  · exact .appended ⟨ha.keyed, ha.transactions, ha.entries⟩
  · have htxs := congrArg Db.transactions hf.same
    have hentries := congrArg Db.ledgerEntries hf.same
    exact .found hmem hkey htxs hentries

structure CardPosting (db : Db) (account updated : CreditAccount) (key : String)
    (intoMirror : Direction) (money : Money) (statement : PostedTransaction) (db' : Db) : Prop where
  same_account : updated.id = account.id
  credit : db'.creditAccounts = (saveAccount db account updated).creditAccounts
  posted : db.postedTransactions.insert? statement = some db'.postedTransactions
  journal :
    ∃ mirrorId clearingId t, CardBooks db.accounts updated mirrorId clearingId db'.accounts ∧
    statement.journalTransactionId = some t.id ∧
    PairJournaled db key (sideOf .debit intoMirror mirrorId clearingId)
      (sideOf .credit intoMirror mirrorId clearingId) money t db'

theorem CardJournaled.posting {account updated : CreditAccount} {key : String}
    {intoMirror : Direction} {money : Money} {mirror clearing : Account} {t : Transaction}
    {statement : PostedTransaction} (h : CardJournaled db account key intoMirror money mirror
      clearing t db₁)
    (hid : updated.id = account.id)
    (hcredit : db'.creditAccounts = (saveAccount db account updated).creditAccounts)
    (hstatement : db.postedTransactions.insert? statement = some db'.postedTransactions)
    (ht : statement.journalTransactionId = some t.id)
    (haccounts : db'.accounts = (updateMirror db₁ mirror.id updated).accounts)
    (htxs : db'.transactions = db₁.transactions)
    (hentries : db'.ledgerEntries = db₁.ledgerEntries) :
    CardPosting db account updated key intoMirror money statement db' := by
  obtain ⟨accounts, hm, hc⟩ := h.mirrored
  refine ⟨hid, hcredit, hstatement, mirror.id, clearing.id, t, ?_, ht, ?_⟩
  · rw [haccounts]
    exact cardBooks hm hc hid rfl
  · cases h.journaled with
    | appended new =>
      refine .appended ⟨new.keyed, ?_, ?_⟩
      · rw [htxs]
        exact new.transactions
      · rw [hentries]
        exact new.entries
    | found stored keyed txs entries =>
      exact .found stored keyed (htxs.trans txs) (hentries.trans entries)

/-- A posting reads and writes five tables only. -/
theorem CardPosting.of_tables {account updated : CreditAccount} {key : String}
    {intoMirror : Direction} {money : Money} {statement : PostedTransaction}
    (h : CardPosting db₁ account updated key intoMirror money statement db')
    (hc : db₁.creditAccounts = db.creditAccounts)
    (hp : db₁.postedTransactions = db.postedTransactions)
    (ha : db₁.accounts = db.accounts) (ht : db₁.transactions = db.transactions)
    (hl : db₁.ledgerEntries = db.ledgerEntries) :
    CardPosting db account updated key intoMirror money statement db' := by
  obtain ⟨mirrorId, clearingId, t, hbooks, hjt, hj⟩ := h.journal
  refine ⟨h.same_account, ?_, ?_, mirrorId, clearingId, t, ?_, hjt, ?_⟩
  · rw [h.credit]
    unfold saveAccount
    rw [hc]
  · rw [← hp]
    exact h.posted
  · rw [← ha]
    exact hbooks
  · cases hj with
    | appended new =>
      refine .appended ⟨new.keyed, ?_, ?_⟩
      · rw [← ht]
        exact new.transactions
      · rw [← hl]
        exact new.entries
    | found stored keyed txs entries =>
      exact .found (ht ▸ stored) keyed (txs.trans ht) (entries.trans hl)

end BankingService
