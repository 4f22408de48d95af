import BankingService.CreditCardRepository
import Mathlib.Data.List.Sort

/-! The history of a deposit account: the rows newest first, each with the balance after it,
computed back from the current balance. -/
namespace BankingService.DepositHistory

open Python Relational Checked

structure DepositRow where
  entryId : Uuid
  transactionId : Uuid
  money : Money
  entryType : Direction
  description : String
  postedAt : Timestamp
  runningBalance : Money
  pending : Bool
  deriving DecidableEq

def signedMinor (entryType : Direction) (amountMinor : ℤ) : ℤ :=
  if entryType = .credit then amountMinor else -amountMinor

def isPending (db : Db) (e : AccountLedgerEntry) : Bool :=
  (db.transactions.get? e.transactionId).any fun t => t.status = "PENDING"

/-- The loop; `runningBal` is the balance after the first of the entries. -/
def results (db : Db) (currency : CurrencyCode) :
    ℤ → List AccountLedgerEntry → Except PyException (List DepositRow)
  | _, [] => .ok []
  | runningBal, entry :: entries => do
    let money ← Money.new entry.amountMinor currency
    let runningBalance ← Money.new runningBal currency
    let rest ← results db currency
      (if isPending db entry then runningBal
        else runningBal - signedMinor entry.entryType entry.amountMinor) entries
    return {
      entryId := entry.entryId
      transactionId := entry.transactionId
      money := money
      entryType := entry.entryType
      description := ((db.transactions.get? entry.transactionId).map (·.description)).getD
        "Posted Transaction"
      postedAt := entry.postedAt
      runningBalance := runningBalance
      pending := isPending db entry } :: rest

def entriesOf (db : Db) (account : Account) : List AccountLedgerEntry :=
  db.ledgerEntries.select fun e => e.accountId = account.id

/-- `order_by(posted_at.desc())`. -/
def newestFirst (entries : List AccountLedgerEntry) : List AccountLedgerEntry :=
  entries.insertionSort fun a b => b.postedAt ≤ a.postedAt

def ownAccount (db : Db) (authProviderUid accountId : String) : Except PyException Account := do
  let user ← orRaise (db.users.first? fun u => u.authProviderUid = authProviderUid)
    (.httpException 404 "User profile not found.")
  let id ← uuidParam accountId
  orRaise ((db.accounts.get? id).filter fun a => a.userId = some user.id ∧ a.status = .active)
    (.httpException 404 "Account not found.")

def getDepositTransactions (db : Db) (authProviderUid accountId : String) :
    Except PyException (List DepositRow) := do
  let account ← ownAccount db authProviderUid accountId
  results db account.currency account.clearedBalanceCents (newestFirst (entriesOf db account))

/-- What an entry adds to the balance. -/
def effect (db : Db) (e : AccountLedgerEntry) : ℤ :=
  if isPending db e then 0 else signedMinor e.entryType e.amountMinor

/-- The opening balance and the entries that were posted up to `t`. -/
def balanceAt (db : Db) (account : Account) (opening : ℤ) (t : Timestamp) : ℤ :=
  opening + (((entriesOf db account).filter fun e => e.postedAt ≤ t).map (effect db)).sum

def DepositRow.signed (row : DepositRow) : ℤ := signedMinor row.entryType row.money.amountMinor

structure Shows (db : Db) (e : AccountLedgerEntry) (row : DepositRow) : Prop where
  entry : row.entryId = e.entryId
  amount : row.money.amountMinor = e.amountMinor
  entryType : row.entryType = e.entryType
  postedAt : row.postedAt = e.postedAt
  pending : row.pending = isPending db e

section
variable {db : Db} {currency : CurrencyCode} {opening runningBal : ℤ}
variable {entries : List AccountLedgerEntry} {rows : List DepositRow} {row : DepositRow}
variable {e : AccountLedgerEntry}

theorem Shows.effect (h : Shows db e row) :
    effect db e = if row.pending then 0 else row.signed := by
  rw [DepositHistory.effect, DepositRow.signed, h.pending, h.entryType, h.amount]

theorem undone : (if isPending db e then runningBal
    else runningBal - signedMinor e.entryType e.amountMinor) = runningBal - effect db e := by
  unfold DepositHistory.effect
  split
  · rw [sub_zero]
  · rfl

/-- A row shows the first entry and the balance at hand, and the rest follows from the balance
before it. -/
theorem results_cons (h : results db currency runningBal entries = .ok (row :: rows))
    (hbal : runningBal = opening + (entries.map (effect db)).sum) :
    ∃ e es, entries = e :: es ∧ Shows db e row ∧ row.runningBalance.amountMinor = runningBal ∧
      results db currency (runningBal - effect db e) es = .ok rows ∧
      runningBal - effect db e = opening + (es.map (effect db)).sum := by
  cases entries with
  | nil => cases h
  | cons e es =>
    simp only [results, bind_eq_ok, pure_eq_ok, Money.new_eq_ok] at h
    obtain ⟨money, ⟨hmoney, -⟩, running, ⟨hrunning, -⟩, rest, hrest, h⟩ := h
    cases h
    rw [undone] at hrest
    refine ⟨e, es, rfl, ⟨rfl, hmoney, rfl, rfl, rfl⟩, hrunning, hrest, ?_⟩
    rw [hbal, List.map_cons, List.sum_cons]
    omega

theorem results_nil (h : results db currency runningBal entries = .ok []) : entries = [] := by
  cases entries with
  | nil => rfl
  | cons e es =>
    simp only [results, bind_eq_ok, pure_eq_ok] at h
    obtain ⟨_, -, _, -, _, -, h⟩ := h
    cases h

theorem upTo_newest {es : List AccountLedgerEntry} (h : ∀ x ∈ es, x.postedAt < e.postedAt) :
    (e :: es).filter (fun x => x.postedAt ≤ e.postedAt) = e :: es := by
  rw [List.filter_eq_self]
  intro x hx
  rcases List.mem_cons.mp hx with rfl | hx
  · exact decide_eq_true le_rfl
  · exact decide_eq_true (h x hx).le

theorem upTo_older {es : List AccountLedgerEntry} {t : Timestamp} (h : t < e.postedAt) :
    (e :: es).filter (fun x => x.postedAt ≤ t) = es.filter fun x => x.postedAt ≤ t := by
  apply List.filter_cons_of_neg
  simpa using h

theorem results_shows (h : results db currency runningBal entries = .ok rows)
    (ordered : entries.Pairwise fun a b => b.postedAt < a.postedAt)
    (hbal : runningBal = opening + (entries.map (effect db)).sum) :
    List.Forall₂ (fun e row => Shows db e row ∧ row.runningBalance.amountMinor =
      opening + ((entries.filter fun x => x.postedAt ≤ e.postedAt).map (effect db)).sum)
      entries rows := by
  induction rows generalizing runningBal entries with
  | nil =>
    rw [results_nil h]
    exact .nil
  | cons row rows ih =>
    obtain ⟨e, es, rfl, hshows, hrunning, hrest, hleft⟩ := results_cons h hbal
    obtain ⟨hnewest, hordered⟩ := List.pairwise_cons.mp ordered
    constructor
    · rw [upTo_newest hnewest, ← hbal]
      exact ⟨hshows, hrunning⟩
    · have hrows : List.Forall₂ (fun x row => x ∈ es ∧ _) es rows :=
        (List.forall₂_and_left _ _).mpr ⟨fun x hx => hx, ih hrest hordered hleft⟩
      refine hrows.imp ?_
      rintro x row ⟨hx, hshows, hbalance⟩
      rw [upTo_older (hnewest x hx)]
      exact ⟨hshows, hbalance⟩

theorem results_differ {before after : List DepositRow} {newer older : DepositRow}
    (h : results db currency runningBal entries = .ok (before ++ newer :: older :: after))
    (hbal : runningBal = opening + (entries.map (effect db)).sum) :
    newer.runningBalance.amountMinor - older.runningBalance.amountMinor =
      if newer.pending then 0 else newer.signed := by
  induction before generalizing runningBal entries with
  | nil =>
    obtain ⟨e, es, -, hshows, hnewer, hrest, hleft⟩ := results_cons h hbal
    obtain ⟨-, -, -, -, holder, -⟩ := results_cons hrest hleft
    rw [← hshows.effect, hnewer, holder]
    omega
  | cons row before ih =>
    obtain ⟨e, es, -, -, -, hrest, hleft⟩ := results_cons h hbal
    exact ih hrest hleft

theorem results_oldest {before : List DepositRow}
    (h : results db currency runningBal entries = .ok (before ++ [row]))
    (hbal : runningBal = opening + (entries.map (effect db)).sum) :
    row.runningBalance.amountMinor - (if row.pending then 0 else row.signed) = opening := by
  induction before generalizing runningBal entries with
  | nil =>
    obtain ⟨e, es, -, hshows, hrunning, hrest, hleft⟩ := results_cons h hbal
    rw [← hshows.effect, hrunning, hleft, results_nil hrest]
    exact add_zero opening
  | cons first before ih =>
    obtain ⟨e, es, -, -, -, hrest, hleft⟩ := results_cons h hbal
    exact ih hrest hleft

theorem results_ok (hbal : runningBal = opening + (entries.map (effect db)).sum)
    (ordered : entries.Pairwise fun a b => b.postedAt < a.postedAt)
    (range : ∀ e ∈ entries, InRange e.amountMinor ∧
      InRange (opening + ((entries.filter fun x => x.postedAt ≤ e.postedAt).map (effect db)).sum)) :
    ∃ rows, results db currency runningBal entries = .ok rows := by
  induction entries generalizing runningBal with
  | nil => exact ⟨[], rfl⟩
  | cons e es ih =>
    obtain ⟨hnewest, hordered⟩ := List.pairwise_cons.mp ordered
    obtain ⟨hamount, hbalance⟩ := range e List.mem_cons_self
    rw [upTo_newest hnewest, ← hbal] at hbalance
    have hleft : runningBal - effect db e = opening + (es.map (effect db)).sum := by
      rw [hbal, List.map_cons, List.sum_cons]
      omega
    obtain ⟨rest, hrest⟩ := ih hleft hordered fun x hx => by
      have hx' := range x (List.mem_cons_of_mem _ hx)
      rw [upTo_older (hnewest x hx)] at hx'
      exact hx'
    simp only [results, undone, bind_eq_ok, pure_eq_ok, Money.new_eq_ok]
    exact ⟨_, ⟨e.amountMinor, currency, hamount⟩, ⟨rfl, rfl⟩, ⟨runningBal, currency, hbalance⟩,
      ⟨rfl, rfl⟩, rest, hrest, rfl⟩

end

theorem newestFirst_perm (entries : List AccountLedgerEntry) :
    (newestFirst entries).Perm entries := List.perm_insertionSort _ entries

theorem newestFirst_ordered {entries : List AccountLedgerEntry}
    (h : (entries.map (·.postedAt)).Nodup) :
    (newestFirst entries).Pairwise fun a b => b.postedAt < a.postedAt := by
  have : Std.Total fun a b : AccountLedgerEntry => b.postedAt ≤ a.postedAt :=
    ⟨fun a b => le_total b.postedAt a.postedAt⟩
  have : IsTrans AccountLedgerEntry fun a b => b.postedAt ≤ a.postedAt :=
    ⟨fun a b c hab hbc => hbc.trans hab⟩
  have hsorted : (newestFirst entries).Pairwise fun a b => b.postedAt ≤ a.postedAt :=
    List.pairwise_insertionSort _ entries
  have hdistinct : ((newestFirst entries).map (·.postedAt)).Nodup :=
    ((newestFirst_perm entries).map _).nodup_iff.mpr h
  have hne : (newestFirst entries).Pairwise fun a b => a.postedAt ≠ b.postedAt :=
    List.pairwise_map.mp hdistinct
  exact (hsorted.and hne).imp fun ⟨hle, hne⟩ => lt_of_le_of_ne hle (Ne.symm hne)

theorem balanceAt_newestFirst {db : Db} {account : Account} {opening : ℤ} {t : Timestamp} :
    opening + (((newestFirst (entriesOf db account)).filter fun e => e.postedAt ≤ t).map
      (effect db)).sum = balanceAt db account opening t := by
  have hperm := ((newestFirst_perm (entriesOf db account)).filter fun e => e.postedAt ≤ t).map
    (effect db)
  rw [balanceAt, hperm.sum_eq]

structure Correct (db : Db) (account : Account) (opening : ℤ) (rows : List DepositRow) : Prop where
  entries : List.Forall₂ (Shows db) (newestFirst (entriesOf db account)) rows
  balances : ∀ row ∈ rows,
    row.runningBalance.amountMinor = balanceAt db account opening row.postedAt
  differences : ∀ before newer older after, rows = before ++ newer :: older :: after →
    newer.runningBalance.amountMinor - older.runningBalance.amountMinor =
      if newer.pending then 0 else newer.signed
  oldest : ∀ before row, rows = before ++ [row] →
    row.runningBalance.amountMinor - (if row.pending then 0 else row.signed) = opening

/-- The history of an account whose cached balance is its opening balance and its entries that are
not pending. It comes out unless an amount or a balance is out of range. -/
theorem history_correct {db : Db} {authProviderUid accountId : String} {account : Account}
    {opening : ℤ} (own : ownAccount db authProviderUid accountId = .ok account)
    (distinct : ((entriesOf db account).map (·.postedAt)).Nodup)
    (cached : account.clearedBalanceCents =
      opening + ((entriesOf db account).map (effect db)).sum) :
    (∀ rows, getDepositTransactions db authProviderUid accountId = .ok rows →
        Correct db account opening rows) ∧
      ((∀ e ∈ entriesOf db account,
          InRange e.amountMinor ∧ InRange (balanceAt db account opening e.postedAt)) →
        ∃ rows, getDepositTransactions db authProviderUid accountId = .ok rows) := by
  have hordered := newestFirst_ordered distinct
  have hbal : account.clearedBalanceCents =
      opening + ((newestFirst (entriesOf db account)).map (effect db)).sum := by
    rw [((newestFirst_perm _).map _).sum_eq]
    exact cached
  have hcall : getDepositTransactions db authProviderUid accountId = results db account.currency
      account.clearedBalanceCents (newestFirst (entriesOf db account)) := by
    rw [getDepositTransactions, own]
    rfl
  rw [hcall]
  constructor
  · intro rows h
    have hshows := results_shows h hordered hbal
    refine ⟨hshows.imp fun _ _ hrow => hrow.1, ?_, ?_, ?_⟩
    · intro row hrow
      obtain ⟨e, -, hentry, hbalance⟩ := mem_right_of_forall₂ hshows hrow
      rw [hbalance, hentry.postedAt]
      exact balanceAt_newestFirst
    · rintro before newer older after rfl
      exact results_differ h hbal
    · rintro before row rfl
      exact results_oldest h hbal
  · intro hrange
    refine results_ok hbal hordered fun e he => ?_
    obtain ⟨hamount, hbalance⟩ := hrange e ((newestFirst_perm _).mem_iff.mp he)
    rw [balanceAt_newestFirst]
    exact ⟨hamount, hbalance⟩

def savings : Account where
  id := .ofNat 1
  userId := some (.ofNat 7)
  accountNumber := "40001"
  accountType := .savings
  productName := "Savings"
  productCode := none
  creditAccountId := none
  status := .active
  creditLimitCents := 0
  clearedBalanceCents := 70
  availableCreditCents := 0
  currency := .usd
  mirror_is_card := nofun
  system_number := by decide

def entry (n : ℕ) (amount : ℤ) (entryType : Direction) (positive : 0 < amount) :
    AccountLedgerEntry :=
  ⟨.ofNat n, .ofNat (10 + n), .ofNat 1, amount, entryType, n, positive⟩

def transaction (n : ℕ) (status : String) : Transaction :=
  ⟨.ofNat (10 + n), "key-" ++ toString n, some (.ofNat 7), status, "Payment", none, none, none, n,
    .usd⟩

def pendingDeposit : Db :=
  { Db.empty with
    users := ⟨[⟨.ofNat 7, "customer-7", none⟩], List.pairwise_singleton _ _⟩
    accounts := ⟨[savings], List.pairwise_singleton _ _⟩
    transactions := ⟨[transaction 1 "POSTED", transaction 2 "PENDING", transaction 3 "POSTED"],
      by decide⟩
    ledgerEntries := ⟨[entry 1 20 .debit (by decide), entry 2 50 .credit (by decide),
      entry 3 10 .debit (by decide)], by decide⟩ }

theorem pendingDeposit_correct :
    ∃ rows, getDepositTransactions pendingDeposit "customer-7" (Uuid.ofNat 1).str = .ok rows ∧
      rows.map (·.runningBalance.amountMinor) = [70, 80, 80] ∧
      Correct pendingDeposit savings 100 rows := by
  obtain ⟨hcorrect, hrange⟩ := @history_correct pendingDeposit "customer-7" (Uuid.ofNat 1).str
    savings 100 (by decide +kernel) (by decide) (by decide)
  obtain ⟨rows, hrows⟩ := hrange (by decide)
  have hshown : (getDepositTransactions pendingDeposit "customer-7" (Uuid.ofNat 1).str).map
      (fun rows => rows.map (·.runningBalance.amountMinor)) = .ok [70, 80, 80] := by decide +kernel
  refine ⟨rows, hrows, ?_, hcorrect rows hrows⟩
  rw [hrows] at hshown
  exact Except.ok.inj hshown

/-- A pending row shows the balance of the row before it. -/
theorem pending_row_moves_nothing :
    ¬ ∀ (db : Db) (authProviderUid accountId : String) (account : Account) (opening : ℤ)
      (rows : List DepositRow), ownAccount db authProviderUid accountId = .ok account →
      ((entriesOf db account).map (·.postedAt)).Nodup →
      account.clearedBalanceCents = opening + ((entriesOf db account).map (effect db)).sum →
      getDepositTransactions db authProviderUid accountId = .ok rows →
      ∀ before newer older after, rows = before ++ newer :: older :: after →
        newer.runningBalance.amountMinor - older.runningBalance.amountMinor = newer.signed := by
  intro h
  have hcall : (getDepositTransactions pendingDeposit "customer-7" (Uuid.ofNat 1).str).map
      (fun rows => rows.map fun row => (row.runningBalance.amountMinor, row.signed)) =
        .ok [(70, -10), (80, 50), (80, -20)] := by decide +kernel
  cases hrows : getDepositTransactions pendingDeposit "customer-7" (Uuid.ofNat 1).str with
  | error e =>
    rw [hrows] at hcall
    cases hcall
  | ok rows =>
    rw [hrows] at hcall
    have hshown := Except.ok.inj hcall
    have hthree : rows.length = 3 := by simpa using congrArg List.length hshown
    obtain ⟨newest, deposit, oldest, rfl⟩ := List.length_eq_three.mp hthree
    have hdiffer := h pendingDeposit "customer-7" (Uuid.ofNat 1).str savings 100 _
      (by decide +kernel) (by decide) (by decide) hrows [newest] deposit oldest [] rfl
    simp only [List.map_cons, List.map_nil, List.cons.injEq, Prod.mk.injEq, and_true] at hshown
    omega

end BankingService.DepositHistory
