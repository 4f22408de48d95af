import BankingService.HistoricalEvents
import Mathlib.Data.List.Dedup
import Mathlib.Data.Set.Function

/-! The journal that the migration leaves: every transaction in balance, the entries that were there
in their places, and a transaction of two entries behind every row of a card statement. -/
namespace BankingService.HistoricalJournal

open Python Relational Checked PipelineContract

section
variable {pg : Postgres} {db db' : Ledger} {e : LedgerEntry} {l : List LedgerEntry}

/-- Without conflicts all entries are inserted, each on an account that is there, and nothing else
is changed. -/
theorem insertEntries_append (hold : ∀ x ∈ db.entries.rows, ∀ e ∈ l, x.entryId ≠ e.entryId)
    (hnew : l.Pairwise fun x y => x.entryId ≠ y.entryId) (h : l.foldlM insertEntry db = .ok db') :
    db'.entries.rows = db.entries.rows ++ l ∧ (∀ e ∈ l, (db.accounts.get? e.accountId).isSome) ∧
      db' = { db with
        entries := db'.entries } := by
  induction l generalizing db with
  | nil =>
    cases h
    exact ⟨(List.append_nil _).symm, nofun, rfl⟩
  | cons e l ih =>
    rw [List.foldlM_cons, bind_eq_ok] at h
    obtain ⟨u, hu, hl⟩ := h
    rw [List.pairwise_cons] at hnew
    have hfresh : ¬ ∃ x ∈ db.entries.rows, x.entryId = e.entryId := by
      rintro ⟨x, hx, hid⟩
      exact hold x hx e List.mem_cons_self hid
    rw [insertEntry, if_neg hfresh] at hu
    simp only [bind_eq_ok, require_eq_ok, insert_eq_ok, pure_eq_ok] at hu
    obtain ⟨-, ⟨haccount, -⟩, entries, hentries, rfl⟩ := hu
    have hrows : entries.rows = db.entries.rows ++ [e] := Table.rows_insert hentries
    have hleft : ∀ x ∈ entries.rows, ∀ y ∈ l, x.entryId ≠ y.entryId := by
      intro x hx y hy
      rcases (Table.mem_insert hentries).mp hx with hx | rfl
      · exact hold x hx y (.tail _ hy)
      · exact hnew.1 y hy
    obtain ⟨hlast, haccounts, hframe⟩ := @ih { db with
      entries := entries } hleft hnew.2 hl
    refine ⟨?_, ?_, hframe⟩
    · rw [hlast, hrows, List.append_assoc, List.singleton_append]
    · exact List.forall_mem_cons.mpr ⟨haccount, haccounts⟩

def normalized (pg : Postgres) (e : LedgerEntry) : LedgerEntry :=
  { e with
    amountCents := e.amountCents.natAbs
    entryType := pg.upper e.entryType }

theorem bigint_eq_ok {n m : ℤ} (h : bigint n = .ok m) : m = n := by
  simp only [bigint, bind_eq_ok, pure_eq_ok] at h
  obtain ⟨-, -, rfl⟩ := h
  rfl

theorem normalizeEntries_rows (h : normalizeEntries pg db = .ok db') :
    db'.entries.rows = db.entries.rows.map (normalized pg) ∧ db' = { db with
      entries := db'.entries } := by
  simp only [normalizeEntries, bind_eq_ok, insertAll_eq_ok, pure_eq_ok] at h
  obtain ⟨rows, hrows, entries, hentries, rfl⟩ := h
  refine ⟨?_, rfl⟩
  have hall : rows = db.entries.rows.map (normalized pg) := by
    refine mapM_eq_map ?_ hrows
    intro x y hxy
    simp only [normalizeEntry, bind_eq_ok, pure_eq_ok] at hxy
    obtain ⟨n, hn, rfl⟩ := hxy
    rw [bigint_eq_ok hn]
    rfl
  change entries.rows = _
  rw [Table.rows_insertAll hentries, hall]
  rfl

theorem net_append (l l' : List LedgerEntry) : net (l ++ l') = net l + net l' := by
  simp only [net, List.map_append, List.sum_append]

@[simp] theorem net_nil : net [] = 0 := rfl

/-- What an entry adds to the net of its transaction. -/
def side (e : LedgerEntry) : ℤ := if e.entryType = "DEBIT" then e.amountCents else -e.amountCents

@[simp] theorem net_cons (e : LedgerEntry) (l : List LedgerEntry) : net (e :: l) = side e + net l :=
  List.sum_cons

def ofTransaction (id : Uuid) (l : List LedgerEntry) : List LedgerEntry :=
  l.filter fun e => e.transactionId = id

theorem entriesOf_eq (db : Ledger) (id : Uuid) :
    entriesOf db id = ofTransaction id db.entries.rows := rfl

theorem ofTransaction_append (id : Uuid) (l l' : List LedgerEntry) :
    ofTransaction id (l ++ l') = ofTransaction id l ++ ofTransaction id l' :=
  List.filter_append _ _

theorem ofTransaction_cons (id : Uuid) (e : LedgerEntry) (l : List LedgerEntry) :
    ofTransaction id (e :: l) =
      if e.transactionId = id then e :: ofTransaction id l else ofTransaction id l := by
  simp only [ofTransaction, List.filter_cons, decide_eq_true_eq]

/-- The balancing entry of a transaction whose entries are `l`. -/
def balancing (pg : Postgres) (db : Ledger) (id : Uuid) : LedgerEntry :=
  { entryId := pg.md5 ("legacy-balance:" ++ id.str), transactionId := id,
    accountId := legacyClearingId, amountCents := (net (entriesOf db id)).natAbs,
    entryType := if 0 < net (entriesOf db id) then "CREDIT" else "DEBIT",
    postedAt := pg.currentTimestamp }

theorem side_balancing (id : Uuid) : side (balancing pg db id) = -net (entriesOf db id) := by
  unfold side balancing
  dsimp only
  by_cases hpos : 0 < net (entriesOf db id)
  · rw [if_pos hpos, if_neg (by decide)]
    omega
  · rw [if_neg hpos, if_pos rfl]
    omega

def imbalances (db : Ledger) : List Uuid :=
  (db.entries.rows.map LedgerEntry.transactionId).dedup.filter fun id => net (entriesOf db id) ≠ 0

theorem mem_imbalances {id : Uuid} : id ∈ imbalances db ↔ net (entriesOf db id) ≠ 0 := by
  rw [imbalances, List.mem_filter, List.mem_dedup, decide_eq_true_eq]
  refine and_iff_right_of_imp fun hne => ?_
  by_contra hnone
  apply hne
  have hnil : entriesOf db id = [] := by
    refine Table.select_eq_nil.mpr fun e he hid => hnone ?_
    exact hid ▸ List.mem_map_of_mem he
  rw [hnil]
  rfl

theorem net_balancing {ids : List Uuid} (hnodup : ids.Nodup) (id : Uuid) :
    net (ofTransaction id (ids.map (balancing pg db))) =
      if id ∈ ids then -net (entriesOf db id) else 0 := by
  induction ids with
  | nil => rfl
  | cons i ids ih =>
    obtain ⟨hi, hrest⟩ := List.nodup_cons.mp hnodup
    have htransaction : (balancing pg db i).transactionId = i := rfl
    rw [List.map_cons, ofTransaction_cons, htransaction]
    by_cases hid : i = id
    · subst hid
      rw [if_pos rfl, net_cons, side_balancing, ih hrest, if_neg hi, if_pos List.mem_cons_self,
        add_zero]
    · rw [if_neg hid, ih hrest]
      simp only [List.mem_cons, Ne.symm hid, false_or]

theorem imbalances_owned (owned : Owned db) {id : Uuid} (hid : id ∈ imbalances db) :
    ∃ t ∈ db.transactions.rows, t.id = id := by
  obtain ⟨e, he, rfl⟩ := List.mem_map.mp (List.mem_dedup.mp (List.mem_filter.mp hid).1)
  exact owned e he

theorem balanceTransactions_rows (owned : Owned db)
    (injective : ∀ s ∈ db.transactions.rows, ∀ t ∈ db.transactions.rows,
      pg.md5 ("legacy-balance:" ++ s.id.str) = pg.md5 ("legacy-balance:" ++ t.id.str) → s.id = t.id)
    (fresh : ∀ e ∈ db.entries.rows, ∀ t ∈ db.transactions.rows,
      e.entryId ≠ pg.md5 ("legacy-balance:" ++ t.id.str))
    (h : balanceTransactions pg db = .ok db') :
    db'.entries.rows = db.entries.rows ++ (imbalances db).map (balancing pg db) ∧ db' = { db with
      entries := db'.entries } := by
  simp only [balanceTransactions, bind_eq_ok] at h
  obtain ⟨rows, hrows, hinsert⟩ := h
  have hall : rows = (imbalances db).map (balancing pg db) := by
    refine mapM_eq_map ?_ hrows
    intro id e he
    simp only [balancingEntry, bind_eq_ok, pure_eq_ok] at he
    obtain ⟨n, hn, rfl⟩ := he
    rw [bigint_eq_ok hn]
    rfl
  subst hall
  have hall := insertEntries_append ?_ ?_ hinsert
  · exact ⟨hall.1, hall.2.2⟩
  · intro x hx e he
    obtain ⟨id, hid, rfl⟩ := List.mem_map.mp he
    obtain ⟨t, ht, rfl⟩ := imbalances_owned owned hid
    exact fresh x hx t ht
  · refine List.pairwise_map.mpr ((List.Nodup.filter _ (List.nodup_dedup _)).imp_of_mem ?_)
    intro i j hi hj hne heq
    obtain ⟨s, hs, rfl⟩ := imbalances_owned owned hi
    obtain ⟨t, ht, rfl⟩ := imbalances_owned owned hj
    exact hne (injective s hs t ht heq)

theorem net_of_balanced
    (h : db'.entries.rows = db.entries.rows ++ (imbalances db).map (balancing pg db)) (id : Uuid) :
    net (entriesOf db' id) = 0 := by
  have hnodup : (imbalances db).Nodup := List.Nodup.filter _ (List.nodup_dedup _)
  rw [entriesOf_eq, h, ofTransaction_append, net_append, net_balancing hnodup, ← entriesOf_eq]
  split
  · omega
  next hbalanced =>
    rw [mem_imbalances, not_not] at hbalanced
    rw [hbalanced, add_zero]

end

def statementTransaction (pg : Postgres) (p : PostedTransaction) : Transaction :=
  { id := pg.md5 ("statement-journal:" ++ p.id.str), idempotencyKey := statementKey p,
    description := some p.description }

def posted (db : Ledger) : List PostedTransaction :=
  db.postedTransactions.filter fun p => p.amountCents ≠ 0

def cardSplit (pg : Postgres) (p : PostedTransaction) (accountId : Uuid) : LedgerEntry :=
  { entryId := pg.md5 ("statement-split:" ++ p.id.str ++ ":" ++ "card"),
    transactionId := (statementTransaction pg p).id, accountId,
    amountCents := p.amountCents.natAbs,
    entryType := if p.amountCents < 0 then "DEBIT" else "CREDIT", postedAt := p.postedAt }

def counterpartySplit (pg : Postgres) (p : PostedTransaction) : LedgerEntry :=
  { entryId := pg.md5 ("statement-split:" ++ p.id.str ++ ":" ++ "counterparty"),
    transactionId := (statementTransaction pg p).id, accountId := merchantClearingId,
    amountCents := p.amountCents.natAbs,
    entryType := if p.amountCents < 0 then "CREDIT" else "DEBIT", postedAt := p.postedAt }

theorem statementKey_injective {p q : PostedTransaction} (h : statementKey p = statementKey q) :
    p.id = q.id := by
  unfold statementKey at h
  exact Uuid.str_injective ((String.append_right_inj _).mp h)

section
variable {pg : Postgres} {db db' : Ledger} {p q : PostedTransaction} {id account : Uuid}

theorem side_splits : side (cardSplit pg p account) + side (counterpartySplit pg p) = 0 := by
  unfold side cardSplit counterpartySplit
  dsimp only
  by_cases hneg : p.amountCents < 0
  · rw [if_pos hneg, if_pos hneg, if_pos rfl, if_neg (by decide)]
    omega
  · rw [if_neg hneg, if_neg hneg, if_pos rfl, if_neg (by decide)]
    omega

theorem net_splits (accountOf : PostedTransaction → Uuid) (l : List PostedTransaction) (id : Uuid) :
    net (ofTransaction id (l.map fun p => cardSplit pg p (accountOf p))) +
      net (ofTransaction id (l.map (counterpartySplit pg))) = 0 := by
  induction l with
  | nil => rfl
  | cons p l ih =>
    have hside := @side_splits pg p (accountOf p)
    have hcard :
      (cardSplit pg p (accountOf p)).transactionId = (statementTransaction pg p).id := rfl
    have hcounterparty : (counterpartySplit pg p).transactionId = (statementTransaction pg p).id :=
      rfl
    rw [List.map_cons, List.map_cons, ofTransaction_cons, ofTransaction_cons, hcard, hcounterparty]
    by_cases hid : (statementTransaction pg p).id = id
    · rw [if_pos hid, if_pos hid, net_cons, net_cons]
      omega
    · rw [if_neg hid, if_neg hid]
      exact ih

theorem ofTransaction_map {l : List PostedTransaction} {f : PostedTransaction → LedgerEntry}
    (hf : ∀ p, (f p).transactionId = (statementTransaction pg p).id)
    (hdistinct : l.Pairwise fun p q =>
      (statementTransaction pg p).id ≠ (statementTransaction pg q).id)
    (hp : p ∈ l) : ofTransaction (statementTransaction pg p).id (l.map f) = [f p] := by
  induction l with
  | nil => cases hp
  | cons q l ih =>
    obtain ⟨hq, hrest⟩ := List.pairwise_cons.mp hdistinct
    have hnil : ∀ r, (∀ x ∈ l, r ≠ (statementTransaction pg x).id) →
        ofTransaction r (l.map f) = [] := by
      intro r hr
      refine List.filter_eq_nil_iff.mpr fun e he => ?_
      obtain ⟨x, hx, rfl⟩ := List.mem_map.mp he
      rw [hf, decide_eq_true_eq]
      exact (hr x hx).symm
    rw [List.map_cons, ofTransaction_cons, hf]
    rcases List.mem_cons.mp hp with rfl | hp
    · rw [if_pos rfl, hnil _ hq]
    · rw [if_neg (hq p hp), ih hrest hp]

theorem addStatementTransactions_rows
    (statements : ∀ p ∈ db.postedTransactions,
      (db.creditAccounts.get? p.accountId).isSome ∧ p.journalTransactionId = none)
    (distinct : db.postedTransactions.Pairwise fun p q => p.id ≠ q.id)
    (fresh : ∀ t ∈ db.transactions.rows, ∀ p ∈ db.postedTransactions,
      t.idempotencyKey ≠ statementKey p)
    (h : addStatementTransactions pg db = .ok db') :
    db'.transactions.rows = db.transactions.rows ++ (posted db).map (statementTransaction pg) ∧
      db' = { db with
        transactions := db'.transactions } := by
  simp only [addStatementTransactions, bind_eq_ok, pure_eq_ok] at h
  obtain ⟨transactions, htransactions, rfl⟩ := h
  have hrows : (db.postedTransactions.filter fun p => (db.creditAccounts.get? p.accountId).isSome ∧
      p.amountCents ≠ 0 ∧ p.journalTransactionId = none) = posted db := by
    refine List.filter_congr fun p hp => ?_
    obtain ⟨hcard, hnone⟩ := statements p hp
    simp only [hcard, hnone, true_and, and_true]
  rw [hrows] at htransactions
  refine ⟨append_insertAllMissing ?_ ?_ htransactions, rfl⟩
  · intro t ht u hu
    obtain ⟨p, hp, rfl⟩ := List.mem_map.mp hu
    exact fresh t ht p (List.mem_filter.mp hp).1
  · refine List.pairwise_map.mpr ((distinct.sublist List.filter_sublist).imp ?_)
    intro p q hne heq
    exact hne (statementKey_injective heq)

/-- Each posted row is joined to one account and to its own transaction. -/
theorem statementPosts_eq {accountOf : PostedTransaction → Account}
    (accounts : ∀ p ∈ posted db,
      (db.accounts.select fun a => a.creditAccountId = some p.accountId) = [accountOf p])
    (transactions : ∀ p ∈ posted db,
      (db.transactions.select fun t => t.idempotencyKey = statementKey p) =
        [statementTransaction pg p]) :
    statementPosts db = (posted db).map fun p => (p, accountOf p, statementTransaction pg p) := by
  rw [List.map_eq_flatMap]
  refine List.flatMap_congr fun p hp => ?_
  rw [accounts p hp, transactions p hp]
  rfl

theorem split_eq_ok {transactionId accountId : Uuid} {name entryType : String} {e : LedgerEntry}
    (h : split pg p transactionId accountId name entryType = .ok e) :
    e = { entryId := pg.md5 ("statement-split:" ++ p.id.str ++ ":" ++ name), transactionId,
          accountId, amountCents := p.amountCents.natAbs, entryType, postedAt := p.postedAt } := by
  simp only [split, bind_eq_ok, pure_eq_ok] at h
  obtain ⟨n, hn, rfl⟩ := h
  rw [bigint_eq_ok hn]

theorem addStatementSplits_rows {accountOf : PostedTransaction → Account}
    (posts : statementPosts db =
      (posted db).map fun p => (p, accountOf p, statementTransaction pg p))
    (fresh : ∀ x ∈ db.entries.rows, ∀ p ∈ posted db, ∀ account,
      x.entryId ≠ (cardSplit pg p account).entryId ∧ x.entryId ≠ (counterpartySplit pg p).entryId)
    (card_distinct : (posted db).Pairwise fun p q => ∀ a b,
      (cardSplit pg p a).entryId ≠ (cardSplit pg q b).entryId)
    (counterparty_distinct : (posted db).Pairwise fun p q =>
      (counterpartySplit pg p).entryId ≠ (counterpartySplit pg q).entryId)
    (sides : ∀ p ∈ posted db, ∀ q ∈ posted db, ∀ a,
      (cardSplit pg p a).entryId ≠ (counterpartySplit pg q).entryId)
    (h : addStatementSplits pg db = .ok db') :
    db'.entries.rows = db.entries.rows ++
      ((posted db).map (fun p => cardSplit pg p (accountOf p).id) ++
        (posted db).map (counterpartySplit pg)) ∧
      (∀ p ∈ posted db, (db.accounts.get? merchantClearingId).isSome) ∧ db' = { db with
        entries := db'.entries } := by
  simp only [addStatementSplits, bind_eq_ok] at h
  obtain ⟨card, hcard, counterparty, hcounterparty, hinsert⟩ := h
  rw [posts, List.mapM_map] at hcard hcounterparty
  have hcards : card = (posted db).map fun p => cardSplit pg p (accountOf p).id :=
    mapM_eq_map (fun p e he => split_eq_ok he) hcard
  have hcounterparties : counterparty = (posted db).map (counterpartySplit pg) :=
    mapM_eq_map (fun p e he => split_eq_ok he) hcounterparty
  subst hcards hcounterparties
  have hall := insertEntries_append ?_ ?_ hinsert
  · refine ⟨hall.1, fun p hp => ?_, hall.2.2⟩
    exact hall.2.1 _ (List.mem_append_right _ (List.mem_map_of_mem (f := counterpartySplit pg) hp))
  · intro x hx e he
    rcases List.mem_append.mp he with he | he
    · obtain ⟨p, hp, rfl⟩ := List.mem_map.mp he
      exact (fresh x hx p hp _).1
    · obtain ⟨p, hp, rfl⟩ := List.mem_map.mp he
      exact (fresh x hx p hp p.id).2
  · refine List.pairwise_append.mpr ⟨?_, ?_, ?_⟩
    · exact List.pairwise_map.mpr (card_distinct.imp fun h => h _ _)
    · exact List.pairwise_map.mpr counterparty_distinct
    · intro x hx y hy
      obtain ⟨p, hp, rfl⟩ := List.mem_map.mp hx
      obtain ⟨q, hq, rfl⟩ := List.mem_map.mp hy
      exact sides p hp q hq _

end

def balanceName (id : Uuid) : String := "legacy-balance:" ++ id.str
def journalName (id : Uuid) : String := "statement-journal:" ++ id.str
def splitName (id : Uuid) (name : String) : String := "statement-split:" ++ id.str ++ ":" ++ name

def derivedNames (db : Ledger) : Set String := fun s =>
  (∃ t ∈ db.transactions.rows, s = balanceName t.id) ∨
    ∃ p ∈ db.postedTransactions, s = journalName p.id ∨ s = splitName p.id "card" ∨
      s = splitName p.id "counterparty"

/-- A ledger as the older schema leaves it: no row has an id or a key that the migration derives,
and its two new columns are empty. -/
structure PreMigration (pg : Postgres) (db : Ledger) : Prop where
  owned : Owned db
  statements : ∀ p ∈ db.postedTransactions,
    (db.creditAccounts.get? p.accountId).isSome ∧ p.journalTransactionId = none
  distinct : db.postedTransactions.Pairwise fun p q => p.id ≠ q.id
  entries : ∀ e ∈ db.entries.rows, ∀ name ∈ derivedNames db, e.entryId ≠ pg.md5 name
  transactions : ∀ t ∈ db.transactions.rows, (∀ name ∈ derivedNames db, t.id ≠ pg.md5 name) ∧
    ∀ p ∈ db.postedTransactions, t.idempotencyKey ≠ statementKey p

theorem balanceName_injective {i j : Uuid} (h : balanceName i = balanceName j) : i = j :=
  Uuid.str_injective ((String.append_right_inj _).mp h)

theorem journalName_injective {i j : Uuid} (h : journalName i = journalName j) : i = j :=
  Uuid.str_injective ((String.append_right_inj _).mp h)

theorem splitName_injective {i j : Uuid} {m n : String} (h : splitName i m = splitName j n) :
    i = j ∧ m = n := by
  unfold splitName at h
  rw [String.append_assoc, String.append_assoc, String.append_assoc, String.append_assoc,
    String.append_right_inj] at h
  have hl : i.str.toList ++ (":" ++ m).toList = j.str.toList ++ (":" ++ n).toList := by
    rw [← String.toList_append, h, String.toList_append]
  obtain ⟨hi, hrest⟩ := List.append_inj hl (i.length_str.trans j.length_str.symm)
  exact ⟨Uuid.str_injective (String.toList_inj.mp hi),
    (String.append_right_inj _).mp (String.toList_inj.mp hrest)⟩

theorem balanceName_ne_splitName (i j : Uuid) (n : String) : balanceName i ≠ splitName j n := by
  unfold balanceName splitName
  intro h
  have hl := congrArg (fun s => s.toList.head?) h
  have hbalance : "legacy-balance:".toList = _ := String.toList_ofList
  have hsplit : "statement-split:".toList = _ := String.toList_ofList
  rw [String.append_assoc, String.append_assoc] at hl
  simp only [String.toList_append, hbalance, hsplit, List.cons_append, List.head?_cons] at hl
  cases hl

section
variable {pg : Postgres} {db db' : Ledger} {p q : PostedTransaction}

theorem balanceName_derived {t : Transaction} (ht : t ∈ db.transactions.rows) :
    balanceName t.id ∈ derivedNames db := Or.inl ⟨t, ht, rfl⟩

theorem journalName_derived (hp : p ∈ db.postedTransactions) :
    journalName p.id ∈ derivedNames db := Or.inr ⟨p, hp, Or.inl rfl⟩

theorem cardName_derived (hp : p ∈ db.postedTransactions) :
    splitName p.id "card" ∈ derivedNames db := Or.inr ⟨p, hp, Or.inr (Or.inl rfl)⟩

theorem counterpartyName_derived (hp : p ∈ db.postedTransactions) :
    splitName p.id "counterparty" ∈ derivedNames db := Or.inr ⟨p, hp, Or.inr (Or.inr rfl)⟩

theorem mem_posted : p ∈ posted db ↔ p ∈ db.postedTransactions ∧ p.amountCents ≠ 0 := by
  rw [posted, List.mem_filter, decide_eq_true_eq]

theorem PreMigration.eq_of_id (pre : PreMigration pg db) (hp : p ∈ db.postedTransactions)
    (hq : q ∈ db.postedTransactions) (hid : p.id = q.id) : p = q :=
  List.inj_on_of_nodup_map (List.pairwise_map.mpr pre.distinct) hp hq hid

theorem posted_distinct (pre : PreMigration pg db) (injective : Set.InjOn pg.md5 (derivedNames db))
    {f : Uuid → String} (derived : ∀ p ∈ db.postedTransactions, f p.id ∈ derivedNames db)
    (hf : ∀ i j, f i = f j → i = j) :
    (posted db).Pairwise fun p q => pg.md5 (f p.id) ≠ pg.md5 (f q.id) := by
  refine (pre.distinct.sublist List.filter_sublist).imp_of_mem ?_
  intro p q hp hq hne heq
  exact hne
    (hf _ _ (injective (derived p (mem_posted.mp hp).1) (derived q (mem_posted.mp hq).1) heq))

end

def linked (transactions : Table Transaction) (p : PostedTransaction) : PostedTransaction :=
  match transactions.first? fun t => t.idempotencyKey = statementKey p with
  | some t => { p with
    journalTransactionId := p.journalTransactionId.or (some t.id) }
  | none => p

/-- The rows after the upgrade, by the statements that put them there. -/
structure Upgraded (pg : Postgres) (db db' : Ledger) (older : List LedgerEntry)
    (journalOf : PostedTransaction → Account) : Prop where
  normal : db.entries.rows.map (normalized pg) ⊆ older
  settled : ∀ id, net (ofTransaction id older) = 0
  owned : ∀ e ∈ older, ∃ t ∈ db.transactions.rows, t.id = e.transactionId
  entries :
    db'.entries.rows = older ++ ((posted db).map (fun p => cardSplit pg p (journalOf p).id) ++
    (posted db).map (counterpartySplit pg))
  transactions : db'.transactions.rows =
    db.transactions.rows ++ (posted db).map (statementTransaction pg)
  statements : db'.postedTransactions = db.postedTransactions.map (linked db'.transactions)
  creditAccounts : db'.creditAccounts = db.creditAccounts
  journal : ∀ c ∈ db.creditAccounts.rows, ∃ a ∈ db'.accounts.rows, a.creditAccountId = some c.id
  accountOf : ∀ p ∈ posted db,
    (db'.accounts.select fun a => a.creditAccountId = some p.accountId) = [journalOf p]
  clearing : ∀ p ∈ posted db, ∃ m ∈ db'.accounts.rows, m.id = merchantClearingId
  checked : ∀ e ∈ db'.entries.rows, 0 < e.amountCents ∧
    (e.entryType = "DEBIT" ∨ e.entryType = "CREDIT")

section
variable {pg : Postgres} {db db' : Ledger}

theorem insertClearing_frame {id : Uuid} {number : String}
    (h : insertClearing id number db = .ok db') : db' = { db with
      accounts := db'.accounts } := by
  simp only [insertClearing, bind_eq_ok, pure_eq_ok] at h
  obtain ⟨accounts, -, rfl⟩ := h
  rfl

theorem addReceivables_frame (h : addReceivables pg db = .ok db') : db' = { db with
      accounts := db'.accounts } := by
  simp only [addReceivables, bind_eq_ok, pure_eq_ok] at h
  obtain ⟨accounts, -, rfl⟩ := h
  rfl

/-- The older entries when they are in balance. -/
structure Balanced (pg : Postgres) (db db' : Ledger) : Prop where
  normal : db.entries.rows.map (normalized pg) ⊆ db'.entries.rows
  settled : ∀ id, net (entriesOf db' id) = 0
  owned : ∀ e ∈ db'.entries.rows, ∃ t ∈ db.transactions.rows, t.id = e.transactionId
  fresh : ∀ e ∈ db'.entries.rows, ∀ p ∈ db.postedTransactions,
    e.entryId ≠ pg.md5 (splitName p.id "card") ∧ e.entryId ≠ pg.md5 (splitName p.id "counterparty")
  transactions : db'.transactions = db.transactions
  statements : db'.postedTransactions = db.postedTransactions
  creditAccounts : db'.creditAccounts = db.creditAccounts

theorem balanced_of_ok {db₁ db₂ db₃ : Ledger} (pre : PreMigration pg db)
    (injective : Set.InjOn pg.md5 (derivedNames db)) (h₁ : normalizeEntries pg db = .ok db₁)
    (h₂ : insertClearing legacyClearingId "SYSTEM_LEGACY_JOURNAL_CLEARING" db₁ = .ok db₂)
    (h₃ : balanceTransactions pg db₂ = .ok db₃) : Balanced pg db db₃ := by
  obtain ⟨hrows₁, hframe₁⟩ := normalizeEntries_rows h₁
  have hframe₂ := insertClearing_frame h₂
  have hrows₂ : db₂.entries.rows = db.entries.rows.map (normalized pg) := by
    rw [hframe₂]
    exact hrows₁
  have htransactions : db₂.transactions = db.transactions := by
    rw [hframe₂, hframe₁]
  have howned : Owned db₂ := by
    intro e he
    rw [hrows₂] at he
    obtain ⟨x, hx, rfl⟩ := List.mem_map.mp he
    rw [htransactions]
    exact pre.owned x hx
  have hfresh : ∀ e ∈ db₂.entries.rows, ∀ name ∈ derivedNames db, e.entryId ≠ pg.md5 name := by
    intro e he
    rw [hrows₂] at he
    obtain ⟨x, hx, rfl⟩ := List.mem_map.mp he
    exact pre.entries x hx
  obtain ⟨hrows₃, hframe₃⟩ := balanceTransactions_rows howned (by
    intro s hs t ht heq
    rw [htransactions] at hs ht
    exact balanceName_injective
      (injective (balanceName_derived hs) (balanceName_derived ht) heq)) (by
    intro e he t ht
    rw [htransactions] at ht
    exact hfresh e he _ (balanceName_derived ht)) h₃
  -- an entry is an older one, or balances the transaction of an older one
  have hentry : ∀ e ∈ db₃.entries.rows, e ∈ db₂.entries.rows ∨
      ∃ t ∈ db.transactions.rows, e = balancing pg db₂ t.id := by
    intro e he
    rw [hrows₃, List.mem_append] at he
    refine he.imp_right fun he => ?_
    obtain ⟨id, hid, rfl⟩ := List.mem_map.mp he
    obtain ⟨t, ht, rfl⟩ := imbalances_owned howned hid
    rw [htransactions] at ht
    exact ⟨t, ht, rfl⟩
  refine ⟨?_, net_of_balanced hrows₃, ?_, ?_, ?_, ?_, ?_⟩
  · rw [hrows₃, hrows₂]
    exact List.subset_append_left _ _
  · intro e he
    rcases hentry e he with he | ⟨t, ht, rfl⟩
    · rw [← htransactions]
      exact howned e he
    · exact ⟨t, ht, rfl⟩
  · intro e he p hp
    rcases hentry e he with he | ⟨t, ht, rfl⟩
    · exact ⟨hfresh e he _ (cardName_derived hp), hfresh e he _ (counterpartyName_derived hp)⟩
    · have hbalance := balanceName_derived ht
      refine ⟨fun heq => balanceName_ne_splitName t.id p.id "card" ?_,
        fun heq => balanceName_ne_splitName t.id p.id "counterparty" ?_⟩
      · exact injective hbalance (cardName_derived hp) heq
      · exact injective hbalance (counterpartyName_derived hp) heq
  · rw [hframe₃]
    exact htransactions
  · rw [hframe₃, hframe₂, hframe₁]
  · rw [hframe₃, hframe₂, hframe₁]

structure Joined (pg : Postgres) (db db' : Ledger) (accountOf : PostedTransaction → Account) :
    Prop where
  transactions : db'.transactions.rows =
    db.transactions.rows ++ (posted db).map (statementTransaction pg)
  journal : ∀ c ∈ db.creditAccounts.rows, ∃ a ∈ db'.accounts.rows, a.creditAccountId = some c.id
  accounts : ∀ p ∈ posted db,
    (db'.accounts.select fun a => a.creditAccountId = some p.accountId) = [accountOf p]

theorem select_journal {a : Account} {id : Uuid} (ha : a ∈ db.accounts.rows)
    (hcredit : a.creditAccountId = some id) :
    (db.accounts.select fun a => a.creditAccountId = some id) = [a] := by
  refine Table.select_eq_singleton ha hcredit fun x _ hx => Or.inr (Or.inr ⟨?_, ?_⟩)
  · rw [hx]
    exact nofun
  · rw [hx, hcredit]

theorem joined_of_ok {db₃ db₄ db₅ db₆ : Ledger} (pre : PreMigration pg db)
    (balanced : Balanced pg db db₃) (h₄ : addReceivables pg db₃ = .ok db₄)
    (h₅ : insertClearing merchantClearingId "SYSTEM_CARD_MERCHANT_CLEARING" db₄ = .ok db₅)
    (h₆ : addStatementTransactions pg db₅ = .ok db₆) :
    ∃ accountOf, Joined pg db db₆ accountOf ∧ db₆.entries = db₃.entries ∧
      db₆.postedTransactions = db.postedTransactions ∧ db₆.creditAccounts = db.creditAccounts := by
  obtain ⟨-, -, hreceivable⟩ := addReceivables_kept h₄
  have hframe₄ := addReceivables_frame h₄
  have hframe₅ := insertClearing_frame h₅
  have htransactions : db₅.transactions = db.transactions := by
    rw [hframe₅, hframe₄]
    exact balanced.transactions
  have hstatements : db₅.postedTransactions = db.postedTransactions := by
    rw [hframe₅, hframe₄]
    exact balanced.statements
  have hcredit : db₅.creditAccounts = db.creditAccounts := by
    rw [hframe₅, hframe₄]
    exact balanced.creditAccounts
  have hposted : posted db₅ = posted db := by
    rw [posted, hstatements]
    rfl
  obtain ⟨hrows₆, hframe₆⟩ := addStatementTransactions_rows (by
    rw [hstatements, hcredit]
    exact pre.statements) (by
    rw [hstatements]
    exact pre.distinct) (by
    rw [htransactions, hstatements]
    exact fun t ht => (pre.transactions t ht).2) h₆
  have hjournal : ∀ c ∈ db.creditAccounts.rows, ∃ a ∈ db₆.accounts.rows,
      a.creditAccountId = some c.id := by
    intro c hc
    rw [← balanced.creditAccounts] at hc
    obtain ⟨a, ha, hid⟩ := hreceivable c hc
    refine ⟨a, ?_, hid⟩
    rw [hframe₆]
    exact (insertClearing_kept h₅).1.accounts ha
  have hone : ∀ p ∈ posted db, ∃ a : Account,
      (db₆.accounts.select fun a => a.creditAccountId = some p.accountId) = [a] := by
    intro p hp
    obtain ⟨hcard, -⟩ := pre.statements p (mem_posted.mp hp).1
    obtain ⟨c, hc⟩ := Option.isSome_iff_exists.mp hcard
    obtain ⟨hcmem, hcid⟩ := Table.get?_eq_some.mp hc
    obtain ⟨a, ha, hid⟩ := hjournal c hcmem
    exact ⟨a, select_journal ha (hid.trans (congrArg some hcid))⟩
  have : Nonempty Account := ⟨⟨merchantClearingId, "", none, none⟩⟩
  choose! accountOf haccountOf using hone
  refine ⟨accountOf, ⟨?_, hjournal, haccountOf⟩, ?_, ?_, ?_⟩
  · rw [hrows₆, htransactions, hposted]
  · rw [hframe₆, hframe₅, hframe₄]
  · rw [hframe₆]
    exact hstatements
  · rw [hframe₆]
    exact hcredit

theorem select_statement {p : PostedTransaction}
    (h : statementTransaction pg p ∈ db.transactions.rows) :
    (db.transactions.select fun t => t.idempotencyKey = statementKey p) =
      [statementTransaction pg p] :=
  Table.select_eq_singleton h rfl fun _ _ ht => Or.inr ht

theorem upgrade_upgraded (pre : PreMigration pg db)
    (injective : Set.InjOn pg.md5 (derivedNames db)) (h : upgrade pg db = .ok db') :
    ∃ older journalOf, Upgraded pg db db' older journalOf := by
  simp only [upgrade, bind_eq_ok, pure_eq_ok] at h
  obtain ⟨db₁, h₁, db₂, h₂, db₃, h₃, db₄, h₄, db₅, h₅, db₆, h₆, db₇, h₇, db₈, h₈, ⟨⟩,
    hcheck, rfl⟩ :=
    h
  have balanced := balanced_of_ok pre injective h₁ h₂ h₃
  obtain ⟨accountOf, joined, hentries, hstatements, hcredit⟩ := joined_of_ok pre balanced h₄ h₅ h₆
  have hposted : posted db₆ = posted db := by
    rw [posted, hstatements]
    rfl
  have hposts : statementPosts db₆ =
      (posted db₆).map fun p => (p, accountOf p, statementTransaction pg p) := by
    refine statementPosts_eq ?_ ?_
    · rw [hposted]
      exact joined.accounts
    · intro p hp
      rw [hposted] at hp
      refine select_statement ?_
      rw [joined.transactions]
      exact List.mem_append_right _ (List.mem_map_of_mem hp)
  have hsplits := @addStatementSplits_rows pg db₆ db₇ accountOf hposts (by
    intro x hx p hp account
    rw [hposted, mem_posted] at hp
    rw [hentries] at hx
    exact balanced.fresh x hx p hp.1) (by
    rw [hposted]
    exact (posted_distinct pre injective (fun _ hp => cardName_derived hp)
      fun _ _ h => (splitName_injective h).1).imp fun h _ _ => h) (by
    rw [hposted]
    exact posted_distinct pre injective (fun _ hp => counterpartyName_derived hp)
      fun _ _ h => (splitName_injective h).1) (by
    intro p hp q hq _ heq
    rw [hposted, mem_posted] at hp hq
    have hname := injective (cardName_derived hp.1) (counterpartyName_derived hq.1) heq
    exact absurd (splitName_injective hname).2 (by decide)) h₇
  obtain ⟨hrows₇, hclearing, hframe₇⟩ := hsplits
  simp only [recordEvents, bind_eq_ok, pure_eq_ok] at h₈
  obtain ⟨outbox, -, rfl⟩ := h₈
  rw [checkEntries, require_eq_ok] at hcheck
  have haccounts : db₇.accounts = db₆.accounts := by rw [hframe₇]
  have htransactions : db₇.transactions = db₆.transactions := by rw [hframe₇]
  refine ⟨db₃.entries.rows, accountOf, balanced.normal, balanced.settled,
    balanced.owned, ?_, ?_, ?_,
    ?_, ?_, ?_, ?_, hcheck⟩
  · rw [hposted, hentries] at hrows₇
    exact hrows₇
  · exact (congrArg Table.rows htransactions).trans joined.transactions
  · have hstatements₇ : db₇.postedTransactions = db.postedTransactions := by
      rw [hframe₇]
      exact hstatements
    exact congrArg (List.map (linked db₇.transactions)) hstatements₇
  · have hcredit₇ : db₇.creditAccounts = db.creditAccounts := by
      rw [hframe₇]
      exact hcredit
    exact hcredit₇
  · intro c hc
    obtain ⟨a, ha, hid⟩ := joined.journal c hc
    exact ⟨a, haccounts ▸ ha, hid⟩
  · intro p hp
    have hone := joined.accounts p hp
    rw [← haccounts] at hone
    exact hone
  · intro p hp
    rw [← hposted] at hp
    obtain ⟨m, hm⟩ := Option.isSome_iff_exists.mp (hclearing p hp)
    rw [← haccounts] at hm
    exact ⟨m, Table.get?_eq_some.mp hm⟩

end

def directionTotal (direction : String) (l : List LedgerEntry) : ℤ :=
  ((l.filter fun e => e.entryType = direction).map LedgerEntry.amountCents).sum

/-- The row is linked to one transaction, and no other row is. The transaction has two entries: the
row's amount on the card's account of the journal, and the same amount the other way on the
merchants' account. -/
def Journaled (db : Ledger) (p : PostedTransaction) : Prop :=
  ∃ t ∈ db.transactions.rows, p.journalTransactionId = some t.id ∧
    (∀ q ∈ db.postedTransactions, q.journalTransactionId = some t.id → q = p) ∧
    ∃ a ∈ db.accounts.rows, a.creditAccountId = some p.accountId ∧
    ∃ m ∈ db.accounts.rows, m.id = merchantClearingId ∧
    ∃ card counterparty, entriesOf db t.id = [card, counterparty] ∧
      card.accountId = a.id ∧ card.amountCents = p.amountCents.natAbs ∧
      card.entryType = (if p.amountCents < 0 then "DEBIT" else "CREDIT") ∧
      counterparty.accountId = m.id ∧ counterparty.amountCents = p.amountCents.natAbs ∧
      counterparty.entryType = (if p.amountCents < 0 then "CREDIT" else "DEBIT")

/-- The journal of the ledger `db'` that is made of `db`. -/
structure Backfilled (db db' : Ledger) : Prop where
  positive : ∀ e ∈ db'.entries.rows, 0 < e.amountCents
  balanced : ∀ id, directionTotal "DEBIT" (entriesOf db' id) =
    directionTotal "CREDIT" (entriesOf db' id)
  kept : ∀ e ∈ db.entries.rows, ∃ e', db'.entries.get? e.entryId = some e' ∧
    e'.transactionId = e.transactionId ∧ e'.accountId = e.accountId ∧
    e'.amountCents = e.amountCents.natAbs
  cards : db'.creditAccounts = db.creditAccounts
  journal : ∀ c ∈ db.creditAccounts.rows, ∃ a : Account,
    (db'.accounts.select fun a => a.creditAccountId = some c.id) = [a]
  statements : (db'.postedTransactions.map fun p => { p with
    journalTransactionId := none }) = db.postedTransactions
  journaled : ∀ p ∈ db'.postedTransactions, p.amountCents ≠ 0 → Journaled db' p

section
variable {pg : Postgres} {db db' : Ledger} {older l : List LedgerEntry}
  {journalOf : PostedTransaction → Account} {p : PostedTransaction}

theorem net_eq_totals (h : ∀ e ∈ l, e.entryType = "DEBIT" ∨ e.entryType = "CREDIT") :
    net l = directionTotal "DEBIT" l - directionTotal "CREDIT" l := by
  induction l with
  | nil => rfl
  | cons e l ih =>
    have hl := ih fun x hx => h x (.tail _ hx)
    have hne : "DEBIT" ≠ "CREDIT" := by decide
    rw [net_cons, hl, side]
    simp only [directionTotal, List.filter_cons]
    rcases h e List.mem_cons_self with htype | htype
    · simp only [htype, if_true, decide_true, List.map_cons, List.sum_cons, hne, decide_false,
        Bool.false_eq_true, if_false]
      omega
    · simp only [htype, hne.symm, decide_true, List.map_cons, List.sum_cons, if_true, decide_false,
        Bool.false_eq_true, if_false]
      omega

theorem linked_accountId (transactions : Table Transaction) (p : PostedTransaction) :
    (linked transactions p).accountId = p.accountId := by
  unfold linked
  split <;> rfl

theorem linked_amountCents (transactions : Table Transaction) (p : PostedTransaction) :
    (linked transactions p).amountCents = p.amountCents := by
  unfold linked
  split <;> rfl

theorem linked_unlinked {transactions : Table Transaction} (h : p.journalTransactionId = none) :
    { linked transactions p with
      journalTransactionId := none } = p := by
  unfold linked
  split <;> cases p <;> cases h <;> rfl

variable (pre : PreMigration pg db) (injective : Set.InjOn pg.md5 (derivedNames db))
  (upgraded : Upgraded pg db db' older journalOf)

include pre upgraded

theorem linked_posted (hp : p ∈ posted db) : (linked db'.transactions p).journalTransactionId =
    some (statementTransaction pg p).id := by
  have hmem : statementTransaction pg p ∈ db'.transactions.rows := by
    rw [upgraded.transactions]
    exact List.mem_append_right _ (List.mem_map_of_mem hp)
  have hfirst : (db'.transactions.first? fun t => t.idempotencyKey = statementKey p) =
      some (statementTransaction pg p) :=
    Table.first?_eq_some_of_unique (fun _ _ ha hb => Or.inr (ha.trans hb.symm)) hmem rfl
  obtain ⟨-, hnone⟩ := pre.statements p (mem_posted.mp hp).1
  rw [linked, hfirst]
  simp only [hnone, Option.none_or]

theorem linked_zero (hp : p ∈ db.postedTransactions) (hzero : p.amountCents = 0) :
    (linked db'.transactions p).journalTransactionId = none := by
  have hfirst : (db'.transactions.first? fun t => t.idempotencyKey = statementKey p) = none := by
    refine Table.first?_eq_none.mpr fun t ht hkey => ?_
    rw [upgraded.transactions, List.mem_append] at ht
    rcases ht with ht | ht
    · exact (pre.transactions t ht).2 p hp hkey
    · obtain ⟨q, hq, rfl⟩ := List.mem_map.mp ht
      obtain ⟨hq, hamount⟩ := mem_posted.mp hq
      obtain rfl := pre.eq_of_id hq hp (statementKey_injective hkey)
      exact hamount hzero
  rw [linked, hfirst]
  exact (pre.statements p hp).2

include injective

theorem entriesOf_statement (hp : p ∈ posted db) :
    entriesOf db' (statementTransaction pg p).id =
      [cardSplit pg p (journalOf p).id, counterpartySplit pg p] := by
  have hdistinct : (posted db).Pairwise fun p q =>
      (statementTransaction pg p).id ≠ (statementTransaction pg q).id :=
    posted_distinct pre injective (fun _ hp => journalName_derived hp)
      fun _ _ h => journalName_injective h
  have holder : ofTransaction (statementTransaction pg p).id older = [] := by
    refine List.filter_eq_nil_iff.mpr fun e he => ?_
    obtain ⟨t, ht, hid⟩ := upgraded.owned e he
    rw [decide_eq_true_eq, ← hid]
    exact (pre.transactions t ht).1 _ (journalName_derived (mem_posted.mp hp).1)
  rw [entriesOf_eq, upgraded.entries, ofTransaction_append, ofTransaction_append, holder,
    @ofTransaction_map pg p _ (fun p => cardSplit pg p (journalOf p).id)
      (fun _ => rfl) hdistinct hp,
    ofTransaction_map (fun _ => rfl) hdistinct hp]
  rfl

theorem journaled_of_posted (hp : p ∈ posted db) :
    Journaled db' (linked db'.transactions p) := by
  have hlink := linked_posted pre upgraded hp
  have hjournal := upgraded.accountOf p hp
  have hmem : journalOf p ∈ db'.accounts.select fun a => a.creditAccountId = some p.accountId := by
    rw [hjournal]
    exact List.mem_singleton_self _
  obtain ⟨haccount, hcredit⟩ := Table.mem_select.mp hmem
  obtain ⟨m, hm, hmid⟩ := upgraded.clearing p hp
  refine ⟨statementTransaction pg p, ?_, hlink, ?_, journalOf p, haccount, ?_, m, hm, hmid,
    cardSplit pg p (journalOf p).id, counterpartySplit pg p,
    entriesOf_statement pre injective upgraded hp, rfl, ?_, ?_, hmid.symm, ?_, ?_⟩
  · rw [upgraded.transactions]
    exact List.mem_append_right _ (List.mem_map_of_mem hp)
  · -- another row has another transaction, or none
    intro q hq hqlink
    rw [upgraded.statements] at hq
    obtain ⟨r, hr, rfl⟩ := List.mem_map.mp hq
    have hpmem := (mem_posted.mp hp).1
    by_cases hzero : r.amountCents = 0
    · rw [linked_zero pre upgraded hr hzero] at hqlink
      cases hqlink
    · rw [linked_posted pre upgraded (mem_posted.mpr ⟨hr, hzero⟩)] at hqlink
      have hname := injective (journalName_derived hr) (journalName_derived hpmem)
        (Option.some.inj hqlink)
      rw [pre.eq_of_id hr hpmem (journalName_injective hname)]
  · rw [linked_accountId]
    exact hcredit
  · rw [linked_amountCents]
    rfl
  · rw [linked_amountCents]
    rfl
  · rw [linked_amountCents]
    rfl
  · rw [linked_amountCents]
    rfl

omit upgraded

/-- The upgrade leaves a journal in balance that has every older entry and every row of a card
statement. -/
theorem upgrade_backfilled (upgraded : upgrade pg db = .ok db') : Backfilled db db' := by
  obtain ⟨older, journalOf, upgraded⟩ := upgrade_upgraded pre injective upgraded
  have hchecked := upgraded.checked
  refine ⟨fun e he => (hchecked e he).1, ?_, ?_, upgraded.creditAccounts, ?_, ?_, ?_⟩
  · intro id
    have hsplits := @net_splits pg (fun p => (journalOf p).id) (posted db) id
    have hnet : net (entriesOf db' id) = 0 := by
      rw [entriesOf_eq, upgraded.entries, ofTransaction_append, ofTransaction_append, net_append,
        net_append, upgraded.settled, hsplits, add_zero]
    have htypes : ∀ e ∈ entriesOf db' id, e.entryType = "DEBIT" ∨ e.entryType = "CREDIT" :=
      fun e he => (hchecked e (Table.mem_select.mp he).1).2
    rw [net_eq_totals htypes] at hnet
    omega
  · intro e he
    refine ⟨normalized pg e, Table.get?_eq_some.mpr ⟨?_, rfl⟩, rfl, rfl, rfl⟩
    rw [upgraded.entries]
    exact List.mem_append_left _ (upgraded.normal (List.mem_map_of_mem he))
  · intro c hc
    obtain ⟨a, ha, hid⟩ := upgraded.journal c hc
    exact ⟨a, select_journal ha hid⟩
  · rw [upgraded.statements, List.map_map]
    refine (List.map_congr_left fun p hp => ?_).trans (List.map_id _)
    exact linked_unlinked (pre.statements p hp).2
  · intro p hp hamount
    rw [upgraded.statements] at hp
    obtain ⟨q, hq, rfl⟩ := List.mem_map.mp hp
    rw [linked_amountCents] at hamount
    exact journaled_of_posted pre injective upgraded (mem_posted.mpr ⟨hq, hamount⟩)

end

/-- A withdrawal of 5.00 that has one signed entry. -/
def withdrawalTransaction : Transaction := ⟨.ofNat 7, "withdrawal-7", some "Withdrawal"⟩

def withdrawal : LedgerEntry :=
  { entryId := .ofNat 1, transactionId := .ofNat 7, accountId := .ofNat 3, amountCents := -500,
    entryType := "credit", postedAt := noon }

def purchase : PostedTransaction :=
  ⟨.ofNat 8, .ofNat 5, -1200, "Groceries", noon, none⟩

def authorizationFee : PostedTransaction :=
  ⟨.ofNat 9, .ofNat 5, 0, "Authorization fee", noon, none⟩

def cardLedger : Ledger where
  accounts := ⟨[account 3], by decide⟩
  transactions := ⟨[withdrawalTransaction], by decide⟩
  entries := ⟨[withdrawal], by decide⟩
  creditAccounts := ⟨[⟨.ofNat 5, none⟩], by decide⟩
  postedTransactions := [purchase, authorizationFee]
  auditOutbox := .empty

def cardDigests : List (String × ℕ) :=
  [("legacy-balance:00000000-0000-0000-0000-000000000007", 0x0afdcef7a9d85f467bb9a3303d75f895),
    ("credit-journal:00000000-0000-0000-0000-000000000005", 0x53472a4e4b5f3791ee05af1291cecc58),
    ("statement-journal:00000000-0000-0000-0000-000000000008", 0x3a3b1b1a058a74e1ab313d24f244cf4f),
    ("statement-journal:00000000-0000-0000-0000-000000000009", 0x70c3e70bfcb0bfb7ff3e27f42a5339b3),
    ("statement-split:00000000-0000-0000-0000-000000000008:card",
      0x1a2d998d265952f63cdf0c1943c177b8),
    ("statement-split:00000000-0000-0000-0000-000000000009:card",
      0x7e71e79fdd92a82ece367bee1c30edbf),
    ("statement-split:00000000-0000-0000-0000-000000000008:counterparty",
      0x37f866ea28a16dc76a20f03cf905a2cb),
    ("statement-split:00000000-0000-0000-0000-000000000009:counterparty",
      0x641b50f7449f1008112e908c05442d57),
    ("financial-event:00000000-0000-0000-0000-000000000007", 0xe12368f6384a459a374195c205fb60be),
    ("financial-event:3a3b1b1a-058a-74e1-ab31-3d24f244cf4f", 0x916dc65635b3acf5c84d5c690a7462ea)]

def cardEvents : List (String × String) :=
  [("e12368f6-384a-459a-3741-95c205fb60be",
      "\x7b\"entries\": [\x7b\"entry_id\": \"00000000-0000-0000-0000-000000000001\", \"direction\": \"CREDIT\", \"account_id\": \"00000000-0000-0000-0000-000000000003\", \"amount_cents\": 500\x7d, \x7b\"entry_id\": \"0afdcef7-a9d8-5f46-7bb9-a3303d75f895\", \"direction\": \"DEBIT\", \"account_id\": \"00000000-0000-4000-8000-000000000901\", \"amount_cents\": 500\x7d], \"currency\": \"USD\", \"event_id\": \"e12368f6-384a-459a-3741-95c205fb60be\", \"posted_at\": \"2026-07-16T12:00:00\", \"event_time\": \"2026-07-16T12:00:00\", \"description\": \"Withdrawal\", \"source_type\": \"HISTORICAL_LEDGER_BACKFILL\", \"schema_version\": 1, \"transaction_id\": \"00000000-0000-0000-0000-000000000007\", \"source_references\": \x7b\x7d\x7d"),
    ("916dc656-35b3-acf5-c84d-5c690a7462ea",
      "\x7b\"entries\": [\x7b\"entry_id\": \"1a2d998d-2659-52f6-3cdf-0c1943c177b8\", \"direction\": \"DEBIT\", \"account_id\": \"53472a4e-4b5f-3791-ee05-af1291cecc58\", \"amount_cents\": 1200\x7d, \x7b\"entry_id\": \"37f866ea-28a1-6dc7-6a20-f03cf905a2cb\", \"direction\": \"CREDIT\", \"account_id\": \"00000000-0000-4000-8000-000000000902\", \"amount_cents\": 1200\x7d], \"currency\": \"USD\", \"event_id\": \"916dc656-35b3-acf5-c84d-5c690a7462ea\", \"posted_at\": \"2026-07-16T12:00:00\", \"event_time\": \"2026-07-16T12:00:00\", \"description\": \"Groceries\", \"source_type\": \"HISTORICAL_LEDGER_BACKFILL\", \"schema_version\": 1, \"transaction_id\": \"3a3b1b1a-058a-74e1-ab31-3d24f244cf4f\", \"source_references\": \x7b\x7d\x7d")]

def cardPostgres : Postgres where
  upper := upper
  md5 name := .ofNat ((cardDigests.lookup name).getD 0)
  jsonb fields :=
    match fields with
    | (_, .str eventId) :: _ => (cardEvents.lookup eventId).getD ""
    | _ => ""
  currentTimestamp := noon

def cardNames : List String :=
  [balanceName (.ofNat 7), journalName (.ofNat 8), journalName (.ofNat 9),
    splitName (.ofNat 8) "card", splitName (.ofNat 9) "card",
    splitName (.ofNat 8) "counterparty", splitName (.ofNat 9) "counterparty"]

theorem mem_cardNames {name : String} (h : name ∈ derivedNames cardLedger) : name ∈ cardNames := by
  rcases h with ⟨t, ht, rfl⟩ | ⟨p, hp, hname⟩
  · obtain rfl := List.mem_singleton.mp ht
    exact List.mem_cons_self
  · rcases List.mem_pair.mp hp with rfl | rfl <;> rcases hname with rfl | rfl | rfl <;>
      simp [cardNames, purchase, authorizationFee]

theorem cardPostgres_injective : Set.InjOn cardPostgres.md5 (derivedNames cardLedger) := by
  have hall :
    ∀ a ∈ cardNames, ∀ b ∈ cardNames, cardPostgres.md5 a = cardPostgres.md5 b → a = b := by
    decide +kernel
  intro a ha b hb heq
  exact hall a (mem_cardNames ha) b (mem_cardNames hb) heq

theorem cardLedger_preMigration : PreMigration cardPostgres cardLedger where
  owned := by
    intro e he
    obtain rfl := List.mem_singleton.mp he
    exact ⟨withdrawalTransaction, List.mem_singleton_self _, rfl⟩
  statements := by decide +kernel
  distinct := by decide +kernel
  entries := by
    have hall : ∀ name ∈ cardNames, withdrawal.entryId ≠ cardPostgres.md5 name := by decide +kernel
    intro e he name hname
    obtain rfl := List.mem_singleton.mp he
    exact hall name (mem_cardNames hname)
  transactions := by
    have hall : ∀ name ∈ cardNames, withdrawalTransaction.id ≠ cardPostgres.md5 name := by
      decide +kernel
    intro t ht
    obtain rfl := List.mem_singleton.mp ht
    exact ⟨fun name hname => hall name (mem_cardNames hname), by decide +kernel⟩

theorem cardLedger_backfilled : ∃ db', upgrade cardPostgres cardLedger = .ok db' ∧
    Backfilled cardLedger db' := by
  have hok : (upgrade cardPostgres cardLedger).isOk = true := by decide +kernel
  cases h : upgrade cardPostgres cardLedger with
  | error x =>
    rw [h] at hok
    cases hok
  | ok db' =>
    exact ⟨db', rfl, upgrade_backfilled cardLedger_preMigration cardPostgres_injective h⟩

end BankingService.HistoricalJournal
