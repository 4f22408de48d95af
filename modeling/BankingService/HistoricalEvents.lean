import BankingService.HistoricalJournal
import BankingService.PipelineContract

/-! Every transaction that the migration leaves with entries has one event. No such event passes the
pipeline: its time comes from a column without a zone, and the pipeline wants an offset. -/
namespace BankingService.HistoricalJournal

open Python Relational Checked IsoTime AuditIcebergPipeline PipelineContract

section
variable {ρ κ : Type} [Row ρ κ] {conflict : ρ → ρ → Prop} [DecidableRel conflict]
  {t t' : Table ρ} {r : ρ} {l : List ρ}

theorem insertMissing_cases (h : insertMissing conflict t r = .ok t') :
    (t' = t ∧ ∃ x ∈ t.rows, conflict x r) ∨ t'.rows = t.rows ++ [r] := by
  unfold insertMissing at h
  split at h
  · next hx =>
    cases h
    exact Or.inl ⟨rfl, hx⟩
  · rw [insert_eq_ok] at h
    exact Or.inr (Table.rows_insert h)

theorem rows_insertMissing (h : insertMissing conflict t r = .ok t') : t.rows ⊆ t'.rows := by
  intro x hx
  rcases insertMissing_cases h with ⟨rfl, -⟩ | hrows
  · exact hx
  · rw [hrows]
    exact List.mem_append_left _ hx

theorem rows_insertAllMissing (h : insertAllMissing conflict t l = .ok t') : t.rows ⊆ t'.rows := by
  induction l generalizing t with
  | nil =>
    cases h
    exact List.Subset.refl _
  | cons r l ih =>
    rw [insertAllMissing, List.foldlM_cons, bind_eq_ok] at h
    obtain ⟨u, hu, hl⟩ := h
    exact List.Subset.trans (rows_insertMissing hu) (ih hl)

theorem present_insertAllMissing (hself : ∀ x : ρ, x ∈ l → conflict x x)
    (h : insertAllMissing conflict t l = .ok t') (hr : r ∈ l) : ∃ x ∈ t'.rows, conflict x r := by
  induction l generalizing t with
  | nil => cases hr
  | cons s l ih =>
    rw [insertAllMissing, List.foldlM_cons, bind_eq_ok] at h
    obtain ⟨u, hu, hl⟩ := h
    rcases List.mem_cons.mp hr with rfl | hr
    · have hsub := rows_insertAllMissing hl
      rcases insertMissing_cases hu with ⟨rfl, x, hx, hc⟩ | hrows
      · exact ⟨x, hsub hx, hc⟩
      · refine ⟨r, hsub ?_, hself r List.mem_cons_self⟩
        rw [hrows]
        exact List.mem_append_right _ List.mem_cons_self
    · exact ih (fun x hx => hself x (List.mem_cons_of_mem _ hx)) hl hr

/-- Without conflicts all rows are inserted. -/
theorem append_insertAllMissing (hold : ∀ x ∈ t.rows, ∀ y ∈ l, ¬ conflict x y)
    (hnew : l.Pairwise fun x y => ¬ conflict x y) (h : insertAllMissing conflict t l = .ok t') :
    t'.rows = t.rows ++ l := by
  induction l generalizing t with
  | nil =>
    cases h
    rw [List.append_nil]
  | cons r l ih =>
    rw [insertAllMissing, List.foldlM_cons, bind_eq_ok] at h
    obtain ⟨u, hu, hl⟩ := h
    rw [List.pairwise_cons] at hnew
    rcases insertMissing_cases hu with ⟨-, x, hx, hc⟩ | hrows
    · exact absurd hc (hold x hx r List.mem_cons_self)
    · have hall : ∀ x ∈ u.rows, ∀ y ∈ l, ¬ conflict x y := by
        intro x hx y hy
        rw [hrows, List.mem_append, List.mem_singleton] at hx
        rcases hx with hx | rfl
        · exact hold x hx y (List.mem_cons_of_mem _ hy)
        · exact hnew.1 y hy
      rw [ih hall hnew.2 hl, hrows, List.append_assoc, List.singleton_append]

end

def Owned (db : Ledger) : Prop :=
  ∀ e ∈ db.entries.rows, ∃ t ∈ db.transactions.rows, t.id = e.transactionId

/-- The entries, the transactions and the outbox as a step leaves them: what is owned stays owned,
entries do not go away, and the outbox and the statements are as they were. -/
structure Kept (db db' : Ledger) : Prop where
  owned : Owned db → Owned db'
  entries : db.entries.rows ≠ [] → db'.entries.rows ≠ []
  accounts : db.accounts.rows ⊆ db'.accounts.rows
  transactions : db.transactions.rows ⊆ db'.transactions.rows
  creditAccounts : db'.creditAccounts = db.creditAccounts
  statements : db'.postedTransactions = db.postedTransactions
  outbox : db'.auditOutbox = db.auditOutbox

theorem Kept.refl (db : Ledger) : Kept db db :=
  ⟨id, id, List.Subset.refl _, List.Subset.refl _, rfl, rfl, rfl⟩

theorem Kept.trans {a b c : Ledger} (h : Kept a b) (h' : Kept b c) : Kept a c where
  owned ha := h'.owned (h.owned ha)
  entries ha := h'.entries (h.entries ha)
  accounts := List.Subset.trans h.accounts h'.accounts
  transactions := List.Subset.trans h.transactions h'.transactions
  creditAccounts := h'.creditAccounts.trans h.creditAccounts
  statements := h'.statements.trans h.statements
  outbox := h'.outbox.trans h.outbox

section
variable {pg : Postgres} {db db' : Ledger} {e : LedgerEntry} {l : List LedgerEntry}

theorem insertEntry_kept (h : insertEntry db e = .ok db') :
    Kept db db' ∧ db'.entries.rows ≠ [] := by
  unfold insertEntry at h
  split at h
  · next hx =>
    cases h
    obtain ⟨x, hx, -⟩ := hx
    exact ⟨.refl _, List.ne_nil_of_mem hx⟩
  · simp only [bind_eq_ok, require_eq_ok, insert_eq_ok, pure_eq_ok] at h
    obtain ⟨-, ⟨-, htransaction⟩, entries, hentries, rfl⟩ := h
    obtain ⟨t, ht⟩ := Option.isSome_iff_exists.mp htransaction
    obtain ⟨htmem, htid⟩ := Table.get?_eq_some.mp ht
    have hne : entries.rows ≠ [] := by
      rw [Table.rows_insert hentries]
      simp
    refine ⟨⟨fun howned x hx => ?_, fun _ => hne, List.Subset.refl _, List.Subset.refl _, rfl, rfl,
      rfl⟩, hne⟩
    rcases (Table.mem_insert hentries).mp hx with hx | rfl
    · exact howned x hx
    · exact ⟨t, htmem, htid⟩

theorem insertEntries_kept (h : l.foldlM insertEntry db = .ok db') :
    Kept db db' ∧ (l ≠ [] → db'.entries.rows ≠ []) := by
  induction l generalizing db with
  | nil =>
    cases h
    exact ⟨.refl _, fun hne => absurd rfl hne⟩
  | cons e l ih =>
    rw [List.foldlM_cons, bind_eq_ok] at h
    obtain ⟨u, hu, hl⟩ := h
    obtain ⟨hkept, hne⟩ := insertEntry_kept hu
    obtain ⟨hrest, -⟩ := ih hl
    exact ⟨hkept.trans hrest, fun _ => hrest.entries hne⟩

theorem normalizeEntries_kept (h : normalizeEntries pg db = .ok db') :
    Kept db db' ∧ (db.entries.rows = [] → db'.entries.rows = []) := by
  simp only [normalizeEntries, bind_eq_ok, insertAll_eq_ok, pure_eq_ok] at h
  obtain ⟨rows, hrows, entries, hentries, rfl⟩ := h
  rw [mapM_eq_ok] at hrows
  have hrows' : entries.rows = rows := by
    rw [Table.rows_insertAll hentries]
    rfl
  refine ⟨⟨fun howned x hx => ?_, fun hne => ?_, List.Subset.refl _, List.Subset.refl _, rfl, rfl,
    rfl⟩, fun hnil => ?_⟩
  · rw [show entries.rows = rows from hrows'] at hx
    obtain ⟨y, hy, hxy⟩ := mem_right_of_forall₂ hrows hx
    simp only [normalizeEntry, bind_eq_ok, pure_eq_ok] at hxy
    obtain ⟨-, -, rfl⟩ := hxy
    exact howned y hy
  · rw [show entries.rows = rows from hrows']
    rintro rfl
    exact hne (List.forall₂_nil_right_iff.mp hrows)
  · rw [hnil] at hrows
    rw [show entries.rows = rows from hrows']
    exact List.forall₂_nil_left_iff.mp hrows

theorem insertClearing_kept {id : Uuid} {number : String}
    (h : insertClearing id number db = .ok db') :
    Kept db db' ∧ db'.entries = db.entries := by
  simp only [insertClearing, bind_eq_ok, pure_eq_ok] at h
  obtain ⟨accounts, haccounts, rfl⟩ := h
  exact ⟨⟨fun h => h, fun h => h, rows_insertMissing haccounts, List.Subset.refl _, rfl, rfl, rfl⟩,
    rfl⟩

theorem balanceTransactions_kept (h : balanceTransactions pg db = .ok db') :
    Kept db db' ∧ (db.entries.rows = [] → db'.entries.rows = []) := by
  simp only [balanceTransactions, bind_eq_ok] at h
  obtain ⟨rows, hrows, hinsert⟩ := h
  refine ⟨(insertEntries_kept hinsert).1, fun hnil => ?_⟩
  rw [hnil] at hrows
  cases hrows
  cases hinsert
  exact hnil

theorem addReceivables_kept (h : addReceivables pg db = .ok db') :
    Kept db db' ∧ db'.entries = db.entries ∧
      ∀ c ∈ db.creditAccounts.rows, ∃ a ∈ db'.accounts.rows, a.creditAccountId = some c.id := by
  simp only [addReceivables, bind_eq_ok, pure_eq_ok] at h
  obtain ⟨accounts, haccounts, rfl⟩ := h
  refine ⟨⟨fun h => h, fun h => h, rows_insertAllMissing haccounts, List.Subset.refl _, rfl, rfl,
    rfl⟩, rfl, fun c hc => ?_⟩
  obtain ⟨a, ha, -, heq⟩ := present_insertAllMissing (by
    intro x hx
    obtain ⟨c, -, rfl⟩ := List.mem_map.mp hx
    exact ⟨by rintro ⟨⟩, rfl⟩) haccounts (List.mem_map_of_mem hc)
  exact ⟨a, ha, heq⟩

theorem addStatementTransactions_kept (h : addStatementTransactions pg db = .ok db') :
    Kept db db' ∧ db'.entries = db.entries ∧
      ∀ p ∈ db.postedTransactions, (db.creditAccounts.get? p.accountId).isSome →
        p.amountCents ≠ 0 → p.journalTransactionId = none →
          ∃ t ∈ db'.transactions.rows, t.idempotencyKey = statementKey p := by
  simp only [addStatementTransactions, bind_eq_ok, pure_eq_ok] at h
  obtain ⟨transactions, htransactions, rfl⟩ := h
  refine ⟨⟨fun howned x hx => ?_, fun h => h, List.Subset.refl _,
    rows_insertAllMissing htransactions, rfl, rfl, rfl⟩, rfl, fun p hp hcredit hne hnone => ?_⟩
  · obtain ⟨t, ht, hid⟩ := howned x hx
    exact ⟨t, rows_insertAllMissing htransactions ht, hid⟩
  · obtain ⟨t, ht, hkey⟩ := present_insertAllMissing (by exact fun _ _ => rfl) htransactions
      (List.mem_map_of_mem (List.mem_filter.mpr ⟨hp, decide_eq_true ⟨hcredit, hne, hnone⟩⟩))
    exact ⟨t, ht, hkey⟩

theorem addStatementSplits_kept (h : addStatementSplits pg db = .ok db') :
    Kept db db' ∧ (statementPosts db ≠ [] → db'.entries.rows ≠ []) ∧
      (statementPosts db = [] → db' = db) := by
  simp only [addStatementSplits, bind_eq_ok, mapM_eq_ok] at h
  obtain ⟨card, hcard, counterparty, hcounterparty, hinsert⟩ := h
  obtain ⟨hkept, hentries⟩ := insertEntries_kept hinsert
  refine ⟨hkept, fun hne => hentries ?_, fun hnil => ?_⟩
  · intro happend
    obtain ⟨rfl, -⟩ := List.append_eq_nil_iff.mp happend
    exact hne (List.forall₂_nil_right_iff.mp hcard)
  · rw [hnil] at hcard hcounterparty
    cases hcard
    cases hcounterparty
    cases hinsert
    rfl

end

/-- A ledger as the older schema leaves it, next to the migration's names. -/
structure Legacy (pg : Postgres) (db : Ledger) : Prop where
  owned : Owned db
  statements : ∀ p ∈ db.postedTransactions,
    (db.creditAccounts.get? p.accountId).isSome ∧ p.journalTransactionId = none
  events : ∀ x ∈ db.auditOutbox.rows, ∀ id, x.eventId ≠ (eventIdFor pg id).str

/-- Nothing to report: no entries, and no amount on a card statement. -/
def NothingPosted (db : Ledger) : Prop :=
  db.entries.rows = [] ∧ ∀ p ∈ db.postedTransactions, p.amountCents = 0

section
variable {pg : Postgres} {db db' : Ledger}

theorem statementPosts_eq_nil (h : ∀ p ∈ db.postedTransactions, p.amountCents = 0) :
    statementPosts db = [] := by
  have hnone : db.postedTransactions.filter (fun p => p.amountCents ≠ 0) = [] := by
    rw [List.filter_eq_nil_iff]
    intro p hp
    simp [h p hp]
  rw [statementPosts, hnone]
  rfl

theorem statementPosts_ne_nil {p : PostedTransaction} {a : Account} {t : Transaction}
    (hp : p ∈ db.postedTransactions) (hne : p.amountCents ≠ 0) (ha : a ∈ db.accounts.rows)
    (hcredit : a.creditAccountId = some p.accountId) (ht : t ∈ db.transactions.rows)
    (hkey : t.idempotencyKey = statementKey p) : statementPosts db ≠ [] := by
  refine List.ne_nil_of_mem (a := (p, a, t)) (List.mem_flatMap.mpr ⟨p, ?_, ?_⟩)
  · exact List.mem_filter.mpr ⟨hp, by simpa using hne⟩
  · refine List.mem_flatMap.mpr ⟨a, Table.mem_select.mpr ⟨ha, hcredit⟩, ?_⟩
    exact List.mem_map_of_mem (Table.mem_select.mpr ⟨ht, hkey⟩)

/-- The ledger before the events are recorded, and the events. -/
theorem upgrade_steps (h : upgrade pg db = .ok db') (legacy : Legacy pg db) :
    ∃ mid, recordEvents pg mid = .ok db' ∧ Owned mid ∧ mid.auditOutbox = db.auditOutbox ∧
      (mid.entries.rows = [] ↔ NothingPosted db) := by
  simp only [upgrade, bind_eq_ok, pure_eq_ok] at h
  obtain ⟨db₁, h₁, db₂, h₂, db₃, h₃, db₄, h₄, db₅, h₅, db₆, h₆, db₇, h₇, db₈, h₈, -, -, rfl⟩ := h
  obtain ⟨k₁, n₁⟩ := normalizeEntries_kept h₁
  obtain ⟨k₂, n₂⟩ := insertClearing_kept h₂
  obtain ⟨k₃, n₃⟩ := balanceTransactions_kept h₃
  obtain ⟨k₄, n₄, receivable₄⟩ := addReceivables_kept h₄
  obtain ⟨k₅, n₅⟩ := insertClearing_kept h₅
  obtain ⟨k₆, n₆, transaction₆⟩ := addStatementTransactions_kept h₆
  obtain ⟨k₇, n₇, e₇⟩ := addStatementSplits_kept h₇
  have k₃' := (k₁.trans k₂).trans k₃
  have k₅' := (k₃'.trans k₄).trans k₅
  have k₆' := k₅'.trans k₆
  refine ⟨_, h₈, (k₆'.trans k₇).owned legacy.owned, (k₆'.trans k₇).outbox, ?_, ?_⟩
  · intro hnil
    refine ⟨by_contra fun hne => (k₆'.trans k₇).entries hne hnil, fun p hp => ?_⟩
    by_contra hne
    obtain ⟨hcredit, hnone⟩ := legacy.statements p hp
    obtain ⟨c, hc⟩ := Option.isSome_iff_exists.mp hcredit
    obtain ⟨hcmem, hcid⟩ := Table.get?_eq_some.mp hc
    obtain ⟨a, ha, hacredit⟩ := receivable₄ c (by rw [k₃'.creditAccounts]; exact hcmem)
    obtain ⟨t, ht, hkey⟩ := transaction₆ p (by rw [k₅'.statements]; exact hp)
      (by rw [k₅'.creditAccounts]; exact hcredit) hne hnone
    refine n₇ (statementPosts_ne_nil (by rw [k₆'.statements]; exact hp) hne
      (k₆.accounts (k₅.accounts ha)) ?_ ht hkey) hnil
    rw [hacredit]
    exact congrArg some hcid
  · rintro ⟨hnil, hzero⟩
    have hposts : statementPosts db₆ = [] :=
      statementPosts_eq_nil (by rw [k₆'.statements]; exact hzero)
    rw [linkStatements, e₇ hposts, n₆, n₅, n₄]
    exact n₃ (by rw [n₂]; exact n₁ hnil)

end

def eventsOf (pg : Postgres) (db : Ledger) (t : Transaction) : List StoredEvent :=
  db.auditOutbox.select fun x => x.eventType = FINANCIAL_EVENT_TYPE ∧ x.schemaVersion = 1 ∧
    x.eventId = (eventIdFor pg t.id).str

theorem filter_filterMap_single {α β : Type} {f : α → Option β} {p : β → Bool} {l : List α} {a : α}
    {b : β} (nodup : l.Nodup) (ha : a ∈ l) (hf : f a = some b) (hp : p b = true)
    (hother : ∀ x ∈ l, x ≠ a → ∀ y, f x = some y → p y = false) :
    (l.filterMap f).filter p = [b] := by
  obtain ⟨l₁, l₂, rfl⟩ := List.append_of_mem ha
  have hne : ∀ x ∈ l₁ ++ l₂, x ≠ a := by
    rintro x hx rfl
    rw [List.nodup_middle] at nodup
    exact (List.nodup_cons.mp nodup).1 hx
  have hnil : ∀ l : List α, (∀ x ∈ l, x ∈ l₁ ++ l₂) → (l.filterMap f).filter p = [] := by
    intro l hl
    rw [List.filter_eq_nil_iff]
    intro y hy
    obtain ⟨x, hx, hxy⟩ := List.mem_filterMap.mp hy
    have hmem := hl x hx
    rw [hother x (List.mem_append.mpr ((List.mem_append.mp hmem).imp_right
      (List.mem_cons_of_mem _))) (hne x hmem) y hxy]
    exact Bool.false_ne_true
  rw [List.filterMap_append, List.filterMap_cons, hf, List.filter_append,
    hnil l₁ fun x hx => List.mem_append_left _ hx]
  simp only [List.filter_cons, hp, if_true, List.nil_append]
  rw [hnil l₂ fun x hx => List.mem_append_right _ hx]

section
variable {pg : Postgres} {db db' : Ledger} {t : Transaction} {row : StoredEvent}

theorem historicalEvent_id (h : historicalEvent pg db t = some row) :
    row.eventId = (eventIdFor pg t.id).str ∧ row.eventType = FINANCIAL_EVENT_TYPE ∧
      row.schemaVersion = 1 := by
  unfold historicalEvent at h
  split at h
  · cases h
  · cases h
    exact ⟨rfl, rfl, rfl⟩

theorem historicalEvent_isSome (h : entriesOf db t.id ≠ []) :
    ∃ row, historicalEvent pg db t = some row := by
  unfold historicalEvent
  split
  · next hnil => exact absurd hnil h
  · exact ⟨_, rfl⟩

theorem nodup_transactions (db : Ledger) : db.transactions.rows.Nodup :=
  db.transactions.distinct.imp fun h heq => h (Row.clash_of_key (congrArg Transaction.id heq))

theorem recordEvents_single (injective : Function.Injective (eventIdFor pg))
    (fresh : ∀ x ∈ db.auditOutbox.rows, ∀ id, x.eventId ≠ (eventIdFor pg id).str)
    (h : recordEvents pg db = .ok db') (ht : t ∈ db'.transactions.rows)
    (hentries : entriesOf db' t.id ≠ []) :
    ∃ row, eventsOf pg db' t = [row] ∧ historicalEvent pg db' t = some row := by
  simp only [recordEvents, bind_eq_ok, pure_eq_ok] at h
  obtain ⟨outbox, houtbox, rfl⟩ := h
  have hkey : ∀ x ∈ db.transactions.rows, ∀ y ∈ db.transactions.rows,
      eventIdFor pg x.id = eventIdFor pg y.id → x = y :=
    fun x hx y hy heq => Table.eq_of_key hx hy (injective heq)
  have hrows := append_insertAllMissing (by
    intro x hx y hy heq
    obtain ⟨s, -, hs⟩ := List.mem_filterMap.mp hy
    exact fresh x hx s.id (heq.trans (historicalEvent_id hs).1)) (by
    rw [List.pairwise_filterMap]
    refine (nodup_transactions db).imp_of_mem ?_
    intro x y hx hy hne a ha b hb heq
    rw [(historicalEvent_id ha).1, (historicalEvent_id hb).1] at heq
    exact hne (hkey x hx y hy (Uuid.str_injective heq))) houtbox
  obtain ⟨row, hrow⟩ : ∃ row, historicalEvent pg db t = some row := historicalEvent_isSome hentries
  refine ⟨row, ?_, hrow⟩
  obtain ⟨hid, htype, hversion⟩ := historicalEvent_id hrow
  rw [eventsOf, Table.select, hrows, List.filter_append, List.filter_eq_nil_iff.mpr]
  · rw [List.nil_append]
    refine filter_filterMap_single (nodup_transactions db) ht hrow ?_ ?_
    · simp [hid, htype, hversion]
    · intro x hx hne y hy
      have hneq : y.eventId ≠ (eventIdFor pg t.id).str := by
        rw [(historicalEvent_id hy).1]
        exact fun heq => hne (hkey x hx t ht (Uuid.str_injective heq))
      simp [hneq]
  · intro x hx
    simp [fresh x hx t.id]

end

/-- A rendered object, if it is read, still has its texts. -/
def Renders (pg : Postgres) (mapper : Mapper) : Prop :=
  ∀ fields document, (fields.map Prod.fst).Nodup →
    mapper.readTree (pg.jsonb fields) = some document →
    ∀ name s, (name, .str s) ∈ fields → document.get name = some (.str s)

section
variable {pg : Postgres} {db : Ledger} {t : Transaction} {row : StoredEvent} {mapper : Mapper}
  {sha256 : String → String} {now : LocalDateTime} {messageId : Option String} {ingestedAt : ℤ}

theorem requiredText_get {document : Json} {name s s' : String}
    (hget : document.get name = some (.str s)) (h : requiredText document name = .ok s') :
    s' = s := by
  rw [requiredText, hget] at h
  simp only at h
  split at h
  · cases h
  · cases h
    rfl

theorem parseFinancial_of_delivered (strict : mapper.Strict)
    (financial : row.eventType = FINANCIAL_EVENT_TYPE) {m : ParsedMessage}
    (h : parseMessage mapper sha256 (delivered row now messageId) ingestedAt = .ok m) :
    ∃ eventId version created published ledger,
      parseFinancial mapper eventId version row.payload created published ingestedAt =
        .ok ledger := by
  simp only [parseMessage, bind_eq_ok, orRaise_eq_ok, require_eq_ok] at h
  obtain ⟨envelope, henvelope, eventId, -, eventType, htype, version, -, -, -, payload, hpayload, -,
    -, created, -, -, -, published, -, hrest⟩ := h
  rw [readTree_envelope strict] at henvelope
  cases henvelope
  obtain rfl := requiredText_get
    (get_document envelope_keys (show (_, Json.str row.eventType) ∈ _ by simp [envelopeFields]))
      htype
  obtain rfl := requiredText_get
    (get_document envelope_keys (show (_, Json.str row.payload) ∈ _ by simp [envelopeFields]))
    hpayload
  have hfinancial : row.eventType = "FINANCIAL_TRANSACTION_POSTED" := financial
  have hevidence : ¬ row.eventType = "PROPOSAL_EVIDENCE_SNAPSHOT" := by
    rw [hfinancial]
    decide
  rw [if_neg hevidence, if_pos hfinancial] at hrest
  simp only [bind_eq_ok] at hrest
  obtain ⟨ledger, hledger, -⟩ := hrest
  exact ⟨_, _, _, _, _, hledger⟩

/-- The time of a historical event has no offset. -/
theorem historicalEvent_refused (strict : mapper.Strict) (renders : Renders pg mapper)
    (h : historicalEvent pg db t = some row) (m : ParsedMessage) :
    parseMessage mapper sha256 (delivered row now messageId) ingestedAt ≠ .ok m := by
  intro hm
  obtain ⟨eventId, version, created, published, ledger, hledger⟩ :=
    parseFinancial_of_delivered strict (historicalEvent_id h).2.1 hm
  simp only [parseFinancial, bind_eq_ok, orRaise_eq_ok] at hledger
  obtain ⟨document, hdocument, -, -, -, -, -, -, -, -, -, -, -, -, postedAt, hpostedAt,
    _, htime, -⟩ :=
    hledger
  unfold historicalEvent at h
  split at h
  · cases h
  · next e es _ =>
    cases h
    have hkeys : ((eventFields pg db t e es).map Prod.fst).Nodup := by simp [eventFields]
    have hget := renders _ document hkeys hdocument "posted_at"
      (String.ofList (earliest e.postedAt (es.map LedgerEntry.postedAt)).trimmedText)
      (by simp [eventFields])
    obtain rfl := requiredText_get hget hpostedAt
    simp only [parseTimestamp, parse_trimmed, orRaise, bind_eq_ok, reduceCtorEq, false_and,
      exists_false] at htime

abbrev Reported := String × String × String × ℤ × ℤ × String

def LedgerRow.reported (x : LedgerRow) : Reported :=
  (x.entryId, x.accountId, x.direction, x.amountCents, x.postedAt, x.currency)

def reportedEntries (db : Ledger) : List LedgerEntry → List Reported
  | [] => []
  | e :: es =>
    let postedAt := (utc (earliest e.postedAt (es.map LedgerEntry.postedAt))).toJava.epochMilli
    (e :: es).map fun x =>
      (x.entryId.str, x.accountId.str, x.entryType, x.amountCents, postedAt,
        (currencyOf db x).getD "USD")

/-- One event is recorded, and the pipeline makes it the rows of the transaction's entries. -/
def ReachesPipeline (mapper : Mapper) (sha256 : String → String) (pg : Postgres) (db : Ledger)
    (now : LocalDateTime) (messageId : Option String) (ingestedAt : ℤ) (t : Transaction) : Prop :=
  ∃ row m, eventsOf pg db t = [row] ∧
    parseMessage mapper sha256 (delivered row now messageId) ingestedAt = .ok m ∧
    (m.ledgerEntries.map LedgerRow.reported).Perm (reportedEntries db (entriesOf db t.id))

/-- No transaction with entries reaches the pipeline. -/
theorem not_reachesPipeline {db db' : Ledger} (strict : mapper.Strict) (renders : Renders pg mapper)
    (injective : Function.Injective (eventIdFor pg)) (legacy : Legacy pg db)
    (upgraded : upgrade pg db = .ok db') (ht : t ∈ db'.transactions.rows)
    (hentries : entriesOf db' t.id ≠ []) :
    ¬ ReachesPipeline mapper sha256 pg db' now messageId ingestedAt t := by
  rintro ⟨row, m, hrow, hm, -⟩
  obtain ⟨mid, hrecord, -, houtbox, -⟩ := upgrade_steps upgraded legacy
  obtain ⟨row', hrow', hevent⟩ :=
    recordEvents_single injective (by rw [houtbox]; exact legacy.events) hrecord ht hentries
  rw [hrow'] at hrow
  cases hrow
  exact historicalEvent_refused strict renders hevent m hm

/-- After the upgrade every transaction with entries has one event. The events reach the pipeline
only where there is none: where the ledger had no entries and the card statements no amounts. -/
theorem history_reaches_pipeline_iff {db db' : Ledger} (strict : mapper.Strict)
    (renders : Renders pg mapper) (injective : Function.Injective (eventIdFor pg))
    (legacy : Legacy pg db) (upgraded : upgrade pg db = .ok db') (now : LocalDateTime)
    (messageId : Option String) (ingestedAt : ℤ) :
    (∀ t ∈ db'.transactions.rows, entriesOf db' t.id ≠ [] → ∃ row, eventsOf pg db' t = [row]) ∧
    ((∀ t ∈ db'.transactions.rows, entriesOf db' t.id ≠ [] →
        ReachesPipeline mapper sha256 pg db' now messageId ingestedAt t) ↔ NothingPosted db) := by
  obtain ⟨mid, hrecord, howned, houtbox, hnothing⟩ := upgrade_steps upgraded legacy
  have hframe : db'.entries = mid.entries ∧ db'.transactions = mid.transactions := by
    simp only [recordEvents, bind_eq_ok, pure_eq_ok] at hrecord
    obtain ⟨outbox, -, rfl⟩ := hrecord
    exact ⟨rfl, rfl⟩
  refine ⟨fun t ht hne => ?_, ?_⟩
  · obtain ⟨row, hrow, -⟩ :=
      recordEvents_single injective (by rw [houtbox]; exact legacy.events) hrecord ht hne
    exact ⟨row, hrow⟩
  · rw [← hnothing]
    constructor
    · intro hreaches
      by_contra hne
      obtain ⟨e, he⟩ := List.exists_mem_of_ne_nil _ hne
      obtain ⟨t, ht, hid⟩ := howned e he
      have hentries : entriesOf db' t.id ≠ [] :=
        List.ne_nil_of_mem (Table.mem_select.mpr ⟨by rw [hframe.1]; exact he, hid.symm⟩)
      rw [← hframe.2] at ht
      exact not_reachesPipeline strict renders injective legacy upgraded ht hentries
        (hreaches t ht hentries)
    · intro hnil t _ hentries
      refine absurd ?_ hentries
      rw [entriesOf, Table.select, hframe.1, hnil]
      rfl

end

/-- An account of a transfer of 5.00. -/
def account (n : ℕ) : Account :=
  { id := .ofNat n, accountNumber := "CHK-" ++ toString n, creditAccountId := none,
    currency := some "USD" }

def transferEntry (n account : ℕ) (entryType : String) : LedgerEntry :=
  { entryId := .ofNat n, transactionId := .ofNat 7, accountId := .ofNat account, amountCents := 500,
    entryType, postedAt := noon }

def transferTransaction : Transaction := ⟨.ofNat 7, "transfer-7", some "Transfer"⟩

def transferLedger : Ledger where
  accounts := ⟨[account 3, account 4], by decide⟩
  transactions := ⟨[transferTransaction], by decide⟩
  entries := ⟨[transferEntry 1 3 "debit", transferEntry 2 4 "credit"], by decide⟩
  creditAccounts := .empty
  postedTransactions := []
  auditOutbox := .empty

def transferDigest : Uuid := .ofNat 299260158319802498401820634430981234878

def transferMd5 (name : String) : Uuid :=
  Equiv.swap (.ofNat 7) transferDigest
    ((Uuid.parse? (String.ofList (name.toList.drop 16))).getD (.ofNat 0))

def transferFields : List (String × Json) :=
  [("event_id", .str transferDigest.str), ("schema_version", .int 1),
    ("transaction_id", .str (Uuid.ofNat 7).str), ("event_time", .str "2026-07-16T12:00:00"),
    ("posted_at", .str "2026-07-16T12:00:00"), ("currency", .str "USD"),
    ("source_type", .str "HISTORICAL_LEDGER_BACKFILL"), ("source_references", .obj []),
    ("description", .str "Transfer"),
    ("entries", .arr [.obj (entryFields (transferEntry 1 3 "DEBIT")),
      .obj (entryFields (transferEntry 2 4 "CREDIT"))])]

def transferText : String :=
  "\x7b\"entries\": [\x7b\"entry_id\": \"00000000-0000-0000-0000-000000000001\", \"direction\": \"DEBIT\", \"account_id\": \"00000000-0000-0000-0000-000000000003\", \"amount_cents\": 500\x7d, \x7b\"entry_id\": \"00000000-0000-0000-0000-000000000002\", \"direction\": \"CREDIT\", \"account_id\": \"00000000-0000-0000-0000-000000000004\", \"amount_cents\": 500\x7d], \"currency\": \"USD\", \"event_id\": \"e12368f6-384a-459a-3741-95c205fb60be\", \"posted_at\": \"2026-07-16T12:00:00\", \"event_time\": \"2026-07-16T12:00:00\", \"description\": \"Transfer\", \"source_type\": \"HISTORICAL_LEDGER_BACKFILL\", \"schema_version\": 1, \"transaction_id\": \"00000000-0000-0000-0000-000000000007\", \"source_references\": \x7b\x7d\x7d"

open Classical in
noncomputable def transferPostgres : Postgres where
  upper := upper
  md5 := transferMd5
  jsonb fields := if fields = transferFields then transferText else (Json.obj fields).dumps
  currentTimestamp := noon

theorem transferMd5_injective : Function.Injective (eventIdFor transferPostgres) := by
  intro a b h
  have hname : ∀ u : Uuid, eventIdFor transferPostgres u =
      Equiv.swap (.ofNat 7) transferDigest u := by
    intro u
    have hdrop : String.ofList (("financial-event:" ++ u.str).toList.drop 16) = u.str := by
      rw [String.toList_append,
        List.drop_left' (by decide : "financial-event:".toList.length = 16), String.ofList_toList]
    simp only [eventIdFor, transferPostgres, transferMd5, hdrop, Uuid.parse?_str, Option.getD_some]
  rw [hname, hname] at h
  exact (Equiv.swap _ _).injective h

def textOf (name : String) (document : Json) : Option String :=
  match document.get name with
  | some (.str s) => some s
  | _ => none

theorem get_of_textOf {name s : String} {document : Json} (h : textOf name document = some s) :
    document.get name = some (.str s) := by
  unfold textOf at h
  split at h
  · next heq =>
    cases h
    exact heq
  · cases h

def readsAs (document : Json) (f : String × Json) : Bool :=
  match f.2 with
  | .str s => textOf f.1 document == some s
  | _ => true

set_option maxRecDepth 8000 in
theorem transfer_read :
    (Json.parse transferText).any
      (fun document => transferFields.all (readsAs document)) = true := by
  -- The characters are taken from the literal; decoding its bytes would take minutes.
  have hchars : transferText.toList = _ := String.toList_ofList
  rw [Json.parse, Json.read, ← String.length_toList, hchars]
  decide +kernel

theorem transferPostgres_renders : Renders transferPostgres jsonMapper := by
  intro fields document hkeys hread name s hmem
  simp only [transferPostgres, jsonMapper] at hread
  split at hread
  · next heq =>
    subst heq
    have hall := transfer_read
    rw [hread] at hall
    exact get_of_textOf (eq_of_beq (List.all_eq_true.mp hall _ hmem))
  · rw [Json.parse_dumps] at hread
    split at hread
    · cases hread
      exact get_document hkeys hmem
    · cases hread

theorem transferLedger_legacy : Legacy transferPostgres transferLedger where
  owned := by
    intro e he
    refine ⟨transferTransaction, List.mem_singleton.mpr rfl, ?_⟩
    simp only [transferLedger, List.mem_cons, List.not_mem_nil, or_false] at he
    rcases he with rfl | rfl <;> rfl
  statements := nofun
  events := nofun

theorem transferLedger_upgraded : ∃ db', upgrade transferPostgres transferLedger = .ok db' ∧
    transferTransaction ∈ db'.transactions.rows ∧ entriesOf db' (.ofNat 7) ≠ [] := by
  have hsome : (upgrade transferPostgres transferLedger).toOption.any (fun db =>
      transferTransaction ∈ db.transactions.rows ∧ entriesOf db (.ofNat 7) ≠ []) = true := by
    decide +kernel
  cases h : upgrade transferPostgres transferLedger with
  | error x =>
    rw [h] at hsome
    cases hsome
  | ok db' =>
    rw [h] at hsome
    exact ⟨db', rfl, of_decide_eq_true hsome⟩

theorem transferLedger_reaches_iff : ∃ db', upgrade transferPostgres transferLedger = .ok db' ∧
    (∀ t ∈ db'.transactions.rows, entriesOf db' t.id ≠ [] →
      ∃ row, eventsOf transferPostgres db' t = [row]) ∧
    ((∀ t ∈ db'.transactions.rows, entriesOf db' t.id ≠ [] →
        ReachesPipeline jsonMapper emptyDigest transferPostgres db' noon none 0 t) ↔
      NothingPosted transferLedger) := by
  obtain ⟨db', hupgrade, -, -⟩ := transferLedger_upgraded
  exact ⟨db', hupgrade, history_reaches_pipeline_iff jsonMapper_strict transferPostgres_renders
    transferMd5_injective transferLedger_legacy hupgrade noon none 0⟩

/-- The event of the transfer goes to the dead-letter topic. -/
theorem transfer_refused : ∃ db', upgrade transferPostgres transferLedger = .ok db' ∧
    transferTransaction ∈ db'.transactions.rows ∧ entriesOf db' transferTransaction.id ≠ [] ∧
    ¬ ReachesPipeline jsonMapper emptyDigest transferPostgres db' noon none 0
      transferTransaction := by
  obtain ⟨db', hupgrade, ht, hentries⟩ := transferLedger_upgraded
  exact ⟨db', hupgrade, ht, hentries, not_reachesPipeline jsonMapper_strict
    transferPostgres_renders transferMd5_injective transferLedger_legacy hupgrade ht hentries⟩

end BankingService.HistoricalJournal
