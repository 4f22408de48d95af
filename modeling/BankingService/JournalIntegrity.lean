import BankingService.FinancialJournal
import BankingService.Library.Runs

/-! Over any run of postings, every stored transaction is balanced, in one currency and reported
by one event, and a key is worth one transaction. -/
namespace JournalIntegrity

open BankingService Python Relational Checked Runs

abbrev Call := Ambient × PostingRequest

def next (db : Db) (c : Call) : Db :=
  match postFinancialTransaction db c.1 c.2 with
  | .ok (db', _) => db'
  | .error _ => db

def machine : Machine Db Call := ⟨fun _ _ => True, next⟩

/-- What one line of a transaction says. -/
abbrev Line := Uuid × Direction × ℤ

def AccountLedgerEntry.line (e : AccountLedgerEntry) : Line :=
  (e.accountId, e.entryType, e.amountMinor)

def lineTotal (d : Direction) (l : List Line) : ℤ :=
  ((l.filter fun x => x.2.1 = d).map fun x => x.2.2).sum

def linesOf (db : Db) (t : Transaction) : List Line :=
  (entriesOf db t.id).map AccountLedgerEntry.line

/-- The events of the current version that were recorded for a transaction. -/
def recordedFor (id : Uuid) (r : AuditOutbox) : Prop :=
  r.eventType = FINANCIAL_EVENT_TYPE ∧ r.schemaVersion = FINANCIAL_EVENT_SCHEMA_VERSION ∧
    match r.payload with
    | .financial e => e.transactionId = id
    | .object _ => False

instance (id : Uuid) : DecidablePred (recordedFor id) := fun r =>
  have : Decidable (match r.payload with
      | .financial e => e.transactionId = id
      | .object _ => False) :=
    match r.payload with
    | .financial e => inferInstanceAs (Decidable (e.transactionId = id))
    | .object _ => inferInstanceAs (Decidable False)
  inferInstanceAs (Decidable (_ ∧ _ ∧ _))

/-- The event repeats the transaction's entries, in any order. -/
structure Reports (db : Db) (t : Transaction) (e : FinancialEvent) : Prop where
  currency : e.currencyCode = t.currencyCode
  entries : (e.entries.map fun x =>
      (x.entryId, x.accountId, x.direction, x.money.amountMinor, x.money.currencyCode)).Perm
    ((entriesOf db t.id).map fun x =>
      (x.entryId, x.accountId, x.entryType, x.amountMinor, t.currencyCode))

structure Recorded (db : Db) (t : Transaction) : Prop where
  two_or_more : 2 ≤ (entriesOf db t.id).length
  positive : ∀ e ∈ entriesOf db t.id, 0 < e.amountMinor
  balanced : lineTotal .debit (linesOf db t) = lineTotal .credit (linesOf db t)
  denominated : ∀ e ∈ entriesOf db t.id,
    ∃ a, db.accounts.get? e.accountId = some a ∧ a.currency = t.currencyCode
  reported : ∃ r e, db.auditOutbox.select (recordedFor t.id) = [r] ∧ r.payload = .financial e ∧
    Reports db t e

structure Invariant (db : Db) : Prop where
  recorded : ∀ t ∈ db.transactions.rows, Recorded db t
  entries_owned : ∀ e ∈ db.ledgerEntries.rows,
    ∃ t ∈ db.transactions.rows, e.transactionId = t.id
  events_owned : ∀ r ∈ db.auditOutbox.rows, r.eventType = FINANCIAL_EVENT_TYPE →
    ∃ t ∈ db.transactions.rows, recordedFor t.id r

theorem invariant_of_unused {db : Db} (ht : db.transactions.rows = [])
    (he : db.ledgerEntries.rows = [])
    (ho : ∀ r ∈ db.auditOutbox.rows, r.eventType ≠ FINANCIAL_EVENT_TYPE) : Invariant db where
  recorded := by simp [ht]
  entries_owned := by simp [he]
  events_owned := fun r hr h => absurd h (ho r hr)

def specLine? (currency : CurrencyCode) (s : JournalEntrySpec) : Option Line :=
  if s.money.currencyCode = currency ∧ 0 < s.money.amountMinor then
    (Direction.ofText? (upper s.direction)).map fun d => (s.accountId, d, s.money.amountMinor)
  else none

/-- Every entry of the request is valid by itself, and these are their lines. -/
def Reads (r : PostingRequest) (lines : List Line) : Prop :=
  List.Forall₂ (fun s x => specLine? r.currency s = some x) r.entries lines

structure Valid (r : PostingRequest) (lines : List Line) : Prop where
  reads : Reads r lines
  two_or_more : 2 ≤ lines.length
  balanced : lineTotal .debit lines = lineTotal .credit lines

def Denominated (db : Db) (currency : CurrencyCode) (lines : List Line) : Prop :=
  ∀ x ∈ lines, ∃ a, db.accounts.get? x.1 = some a ∧ a.currency = currency

/-- The request repeats the transaction `t`: its currency and the multiset of its entries. -/
def Repeats (db : Db) (r : PostingRequest) (t : Transaction) : Prop :=
  r.currency = t.currencyCode ∧ ∃ lines, Reads r lines ∧ lines.Perm (linesOf db t)

section Entries

variable {currency : CurrencyCode}

def NormalizedEntry.line (e : NormalizedEntry currency) : Line :=
  (e.accountId, e.direction, e.money.amountMinor)

theorem specLine_eq_some {s : JournalEntrySpec} {x : Line} :
    specLine? currency s = some x ↔
      ∃ e, normalizeEntry currency s = .ok e ∧ NormalizedEntry.line e = x := by
  unfold specLine?
  constructor
  · intro h
    split at h
    · next hs =>
      obtain ⟨d, hd, rfl⟩ := Option.map_eq_some_iff.mp h
      exact ⟨⟨s.accountId, d, s.money, hs.1, hs.2⟩,
        normalizeEntry_eq_ok.mpr ⟨rfl, rfl, hd⟩, rfl⟩
    · cases h
  · rintro ⟨e, he, rfl⟩
    obtain ⟨ha, hm, hd⟩ := normalizeEntry_eq_ok.mp he
    rw [← hm, if_pos ⟨e.denominated, e.positive⟩, hd, ← ha]
    rfl

theorem reads_of_validate {r : PostingRequest} {b : BalancedEntries r.currency}
    (h : validateEntries r.currency r.entries = .ok b) :
    Reads r (b.entries.map NormalizedEntry.line) := by
  rw [validateEntries_eq_ok] at h
  unfold Reads
  rw [List.forall₂_map_right_iff]
  exact h.imp fun s e he => specLine_eq_some.mpr ⟨e, he, rfl⟩

theorem lineTotal_line (d : Direction) (l : List (NormalizedEntry currency)) :
    lineTotal d (l.map NormalizedEntry.line) = directionTotal d l := by
  unfold lineTotal directionTotal
  rw [List.filter_map, List.map_map]
  rfl

theorem valid_of_validate {r : PostingRequest} {b : BalancedEntries r.currency}
    (h : validateEntries r.currency r.entries = .ok b) :
    Valid r (b.entries.map NormalizedEntry.line) where
  reads := reads_of_validate h
  two_or_more := by simpa using b.two_or_more
  balanced := by simpa only [lineTotal_line] using b.balanced

theorem normalized_of_reads {r : PostingRequest} {lines : List Line} (h : Reads r lines) :
    ∃ l : List (NormalizedEntry r.currency),
      List.Forall₂ (fun s e => normalizeEntry r.currency s = .ok e) r.entries l ∧
        l.map NormalizedEntry.line = lines := by
  unfold Reads at h
  generalize r.entries = specs at h
  induction h with
  | nil => exact ⟨[], List.Forall₂.nil, rfl⟩
  | cons hs _ ih =>
    obtain ⟨e, he, hx⟩ := specLine_eq_some.mp hs
    obtain ⟨l, hl, hxs⟩ := ih
    exact ⟨e :: l, List.Forall₂.cons he hl, by simp [hx, hxs]⟩

theorem validate_of_valid {r : PostingRequest} {lines : List Line} (h : Valid r lines) :
    ∃ b, validateEntries r.currency r.entries = .ok b ∧
      b.entries.map NormalizedEntry.line = lines := by
  obtain ⟨l, hl, rfl⟩ := normalized_of_reads h.reads
  have h2 : 2 ≤ l.length := by simpa using h.two_or_more
  have hb : directionTotal .debit l = directionTotal .credit l := by
    simpa only [lineTotal_line] using h.balanced
  exact ⟨⟨l, h2, hb⟩, validateEntries_eq_ok.mpr hl, rfl⟩

end Entries

theorem reads_unique {r : PostingRequest} {l l' : List Line} (h : Reads r l) (h' : Reads r l') :
    l = l' := by
  unfold Reads at h h'
  generalize r.entries = specs at h h'
  induction h generalizing l' with
  | nil =>
    cases h'
    rfl
  | cons hx _ ih =>
    cases h' with
    | cons hy ht =>
      rw [hx] at hy
      rw [Option.some.inj hy, ih ht]

section Replay

variable {db : Db} {t : Transaction} {r : PostingRequest}

theorem mentions_of_recorded {x : AuditOutbox} (h : recordedFor t.id x) :
    mentionsTransaction t.id x := by
  obtain ⟨htype, -, hm⟩ := h
  refine ⟨htype, ?_⟩
  cases hp : x.payload with
  | object fields => simp [hp] at hm
  | financial e =>
    simp only [hp] at hm ⊢
    exact Or.inl hm

theorem select_mentions (hu : ∀ x ∈ db.auditOutbox.rows, mentionsTransaction t.id x →
      recordedFor t.id x) :
    db.auditOutbox.select (mentionsTransaction t.id) =
      db.auditOutbox.select (recordedFor t.id) := by
  refine List.filter_congr ?_
  intro x hx
  simp only [decide_eq_decide]
  exact ⟨hu x hx, mentions_of_recorded⟩

theorem signature_line_injective :
    Function.Injective fun x : Line => (x.1.str, x.2.1, x.2.2) := by
  rintro ⟨a, d, n⟩ ⟨b, e, m⟩ h
  simp only [Prod.mk.injEq] at h
  obtain ⟨ha, rfl, rfl⟩ := h
  rw [Uuid.str_injective ha]

theorem signatures_perm_iff {currency : CurrencyCode} {b : BalancedEntries currency}
    {l : List AccountLedgerEntry} :
    (b.entries.map NormalizedEntry.signature).Perm (l.map AccountLedgerEntry.signature) ↔
      (b.entries.map NormalizedEntry.line).Perm (l.map AccountLedgerEntry.line) := by
  rw [← List.map_perm_map_iff signature_line_injective, List.map_map, List.map_map]
  rfl

theorem repeats_iff {b : BalancedEntries r.currency}
    (hv : validateEntries r.currency r.entries = .ok b) :
    Repeats db r t ↔ r.currency = t.currencyCode ∧
      (b.entries.map NormalizedEntry.signature).Perm
        (((entriesOf db t.id).insertionSort fun a b => a.entryId.str ≤ b.entryId.str).map
          AccountLedgerEntry.signature) := by
  have hsort := List.perm_insertionSort
    (fun a b : AccountLedgerEntry => a.entryId.str ≤ b.entryId.str) (entriesOf db t.id)
  rw [signatures_perm_iff]
  refine and_congr_right fun _ => ?_
  constructor
  · rintro ⟨lines, hl, hp⟩
    rw [reads_unique (reads_of_validate hv) hl]
    exact hp.trans (hsort.symm.map _)
  · exact fun hp => ⟨_, reads_of_validate hv, hp.trans (hsort.map _)⟩

/-- A replay that does not repeat the stored transaction is refused. -/
theorem repeats_of_replay {b : BalancedEntries r.currency} {p : JournalPosting}
    (hv : validateEntries r.currency r.entries = .ok b)
    (h : replayPosting db r.idempotencyKey b t = .ok p) : Repeats db r t := by
  simp only [replayPosting, bind_eq_ok, require_eq_ok] at h
  obtain ⟨-, hsame, -⟩ := h
  exact (repeats_iff hv).mpr hsame

/-- A replay that repeats a transaction finds it, its entries and its event, as long as no other
event mentions it. -/
theorem replay_of_repeats (hr : Recorded db t) {b : BalancedEntries r.currency}
    (hv : validateEntries r.currency r.entries = .ok b) (h : Repeats db r t)
    (hu : ∀ x ∈ db.auditOutbox.rows, mentionsTransaction t.id x → recordedFor t.id x) :
    ∃ p x, replayPosting db r.idempotencyKey b t = .ok p ∧ p.transaction = t ∧
      p.entries.Perm (entriesOf db t.id) ∧ db.auditOutbox.select (recordedFor t.id) = [x] ∧
      p.eventId = x.eventId := by
  obtain ⟨x, e, hx, -, -⟩ := hr.reported
  have hsort := List.perm_insertionSort
    (fun a b : AccountLedgerEntry => a.entryId.str ≤ b.entryId.str) (entriesOf db t.id)
  refine ⟨⟨t, _, x.eventId⟩, x, ?_, rfl, hsort, hx, rfl⟩
  simp only [replayPosting, require, if_pos ((repeats_iff hv).mp h), select_mentions hu, hx]
  rfl

/-- Where another event mentions the transaction, no replay is answered. -/
theorem replay_of_mentioned (hr : Recorded db t) {x : AuditOutbox} (hx : x ∈ db.auditOutbox.rows)
    (hm : mentionsTransaction t.id x) (hn : ¬ recordedFor t.id x) {key : String}
    {currency : CurrencyCode} {b : BalancedEntries currency} {p : JournalPosting} :
    replayPosting db key b t ≠ .ok p := by
  obtain ⟨own, -, hown, -, -⟩ := hr.reported
  have hrecorded : own ∈ db.auditOutbox.select (recordedFor t.id) := by
    rw [hown]
    exact List.mem_singleton_self own
  obtain ⟨hmem, hself⟩ := Table.mem_select.mp hrecorded
  have hfound : own ∈ db.auditOutbox.select (mentionsTransaction t.id) :=
    Table.mem_select.mpr ⟨hmem, mentions_of_recorded hself⟩
  have hother : x ∈ db.auditOutbox.select (mentionsTransaction t.id) :=
    Table.mem_select.mpr ⟨hx, hm⟩
  intro h
  simp only [replayPosting, bind_eq_ok] at h
  obtain ⟨-, -, h⟩ := h
  cases hsel : db.auditOutbox.select (mentionsTransaction t.id) with
  | nil =>
    rw [hsel] at hfound
    cases hfound
  | cons y rest =>
    cases rest with
    | nil =>
      rw [hsel, List.mem_singleton] at hfound hother
      rw [hother, ← hfound] at hn
      exact hn hself
    | cons z rest =>
      rw [hsel] at h
      cases h

end Replay

section Append

variable {db db' : Db} {env : Ambient} {r : PostingRequest} {p : JournalPosting}
  {b : BalancedEntries r.currency}

theorem map_postedEntries {γ : Type} {timestamp : Timestamp} {currency : CurrencyCode}
    {b : BalancedEntries currency} {f : AccountLedgerEntry → γ}
    {g : NormalizedEntry currency → γ}
    (h : ∀ e : AccountLedgerEntry, ∀ n, e.transactionId = env.uuid4 0 → e.accountId = n.accountId →
      e.amountMinor = n.money.amountMinor → e.entryType = n.direction → f e = g n) :
    (postedEntries env timestamp b).map f = b.entries.map g := by
  unfold postedEntries
  rw [List.mapIdx_eq_zipIdx_map, List.map_map]
  conv_rhs => rw [← List.zipIdx_map_fst 0 b.entries, List.map_map]
  refine List.map_congr_left ?_
  rintro ⟨n, i⟩ -
  exact h _ _ rfl rfl rfl rfl

theorem posted_lines {timestamp : Timestamp} :
    (postedEntries env timestamp b).map AccountLedgerEntry.line =
      b.entries.map NormalizedEntry.line := by
  refine map_postedEntries ?_
  intro e n _ ha hm hd
  simp [AccountLedgerEntry.line, NormalizedEntry.line, ha, hm, hd]

theorem posted_owner {timestamp : Timestamp} {e : AccountLedgerEntry}
    (he : e ∈ postedEntries env timestamp b) : e.transactionId = env.uuid4 0 := by
  obtain ⟨i, -, rfl⟩ := List.mem_mapIdx.mp he
  rfl

theorem posted_account {timestamp : Timestamp} {e : AccountLedgerEntry}
    (he : e ∈ postedEntries env timestamp b) : ∃ n ∈ b.entries, e.accountId = n.accountId := by
  obtain ⟨i, hi, rfl⟩ := List.mem_mapIdx.mp he
  exact ⟨b.entries[i], List.getElem_mem hi, rfl⟩

theorem eventEntries_eq {currency : CurrencyCode} {l : List AccountLedgerEntry}
    {l' : List EventEntry} (h : l.mapM (eventEntry currency) = .ok l') :
    (l'.map fun x =>
      (x.entryId, x.accountId, x.direction, x.money.amountMinor, x.money.currencyCode)) =
    l.map fun x => (x.entryId, x.accountId, x.entryType, x.amountMinor, currency) := by
  rw [mapM_eq_ok] at h
  induction h with
  | nil => rfl
  | cons hx _ ih =>
    simp only [eventEntry, bind_eq_ok, Money.new_eq_ok, pure_eq_ok] at hx
    obtain ⟨m, ⟨hm, hc⟩, rfl⟩ := hx
    simp [ih, hm, hc]

theorem entriesOf_new (ha : Appended db env r b db' p) (hi : Invariant db) :
    entriesOf db' p.transaction.id = p.entries := by
  have hfresh : ∀ e ∈ db.ledgerEntries.rows, e.transactionId ≠ p.transaction.id := by
    intro e he h
    obtain ⟨t, ht, hid⟩ := hi.entries_owned e he
    exact Table.fresh_insert ha.transactions ht (Or.inl (hid.symm.trans h))
  unfold entriesOf
  rw [Table.select_insertAll ha.ledger, Table.select_eq_nil.mpr hfresh, List.nil_append,
    List.filter_eq_self]
  intro e he
  rw [ha.entries] at he
  rw [ha.transaction]
  exact decide_eq_true (posted_owner he)

theorem entriesOf_old (ha : Appended db env r b db' p) {t : Transaction}
    (ht : t ∈ db.transactions.rows) : entriesOf db' t.id = entriesOf db t.id := by
  have hne : env.uuid4 0 ≠ t.id := by
    have := Table.fresh_insert ha.transactions ht
    rw [ha.transaction] at this
    exact fun h => this (Or.inl h.symm)
  have hnone : ∀ e ∈ p.entries, e.transactionId ≠ t.id := by
    intro e he h
    rw [ha.entries] at he
    exact hne ((posted_owner he).symm.trans h)
  unfold entriesOf
  rw [Table.select_insertAll ha.ledger, List.append_right_eq_self]
  exact List.filter_eq_nil_iff.mpr (by simpa using hnone)

theorem reported_new (ha : Appended db env r b db' p) (hi : Invariant db) :
    ∃ x e, db'.auditOutbox.select (recordedFor p.transaction.id) = [x] ∧
      x.payload = .financial e ∧ Reports db' p.transaction e := by
  obtain ⟨l, e, hl, htx, hcur, hle, hbox⟩ := ha.event
  have hfresh : ∀ x ∈ db.auditOutbox.rows, ¬ recordedFor p.transaction.id x := by
    rintro x hx ⟨htype, -, hm⟩
    obtain ⟨t, ht, -, -, ht'⟩ := hi.events_owned x hx htype
    cases hp : x.payload with
    | object fields => simp [hp] at hm
    | financial f =>
      simp only [hp] at hm ht'
      exact Table.fresh_insert ha.transactions ht (Or.inl (ht'.symm.trans hm))
  have hcode : p.transaction.currencyCode = r.currency := by rw [ha.transaction]; rfl
  refine ⟨⟨p.eventId, FINANCIAL_EVENT_TYPE, FINANCIAL_EVENT_SCHEMA_VERSION, .financial e, env.now⟩,
    e, ?_, rfl, ?_, ?_⟩
  · rw [Table.select_insert hbox, Table.select_eq_nil.mpr hfresh, List.nil_append]
    exact List.filter_eq_self.mpr (by simp [recordedFor, htx])
  · rw [hcur, hcode]
  · rw [entriesOf_new ha hi, hle, eventEntries_eq hl, hcode]

theorem select_old (ha : Appended db env r b db' p) {t : Transaction}
    (ht : t ∈ db.transactions.rows) :
    db'.auditOutbox.select (recordedFor t.id) = db.auditOutbox.select (recordedFor t.id) := by
  obtain ⟨l, e, -, htx, -, -, hbox⟩ := ha.event
  have hne : e.transactionId ≠ t.id := by
    rw [htx]
    exact fun h => Table.fresh_insert ha.transactions ht (Or.inl h.symm)
  rw [Table.select_insert hbox]
  simp [recordedFor, hne]

theorem recorded_new (ha : Appended db env r b db' p) (hi : Invariant db) :
    Recorded db' p.transaction := by
  have hlines : linesOf db' p.transaction = b.entries.map NormalizedEntry.line := by
    unfold linesOf
    rw [entriesOf_new ha hi, ha.entries, posted_lines]
  refine ⟨?_, fun e _ => e.positive, ?_, ?_, reported_new ha hi⟩
  · rw [entriesOf_new ha hi, ha.entries, postedEntries, List.length_mapIdx]
    exact b.two_or_more
  · rw [hlines, lineTotal_line, lineTotal_line]
    exact b.balanced
  · intro e he
    rw [entriesOf_new ha hi, ha.entries] at he
    obtain ⟨n, hn, hacc⟩ := posted_account he
    obtain ⟨a, hget, hcur⟩ := ha.accounts n hn
    refine ⟨a, ?_, ?_⟩
    · rw [ha.frame, hacc]
      exact hget
    · rw [ha.transaction]
      exact hcur

theorem recorded_old (ha : Appended db env r b db' p) {t : Transaction}
    (ht : t ∈ db.transactions.rows) (hr : Recorded db t) : Recorded db' t := by
  have hent := entriesOf_old ha ht
  obtain ⟨x, e, hx, hp, hc, hrep⟩ := hr.reported
  refine ⟨?_, fun e _ => e.positive, ?_, ?_, x, e, ?_, hp, hc, ?_⟩
  · rw [hent]
    exact hr.two_or_more
  · simpa only [linesOf, hent] using hr.balanced
  · rw [hent, ha.frame]
    exact hr.denominated
  · rw [select_old ha ht]
    exact hx
  · rw [hent]
    exact hrep

theorem append_keeps_invariant (ha : Appended db env r b db' p) (hi : Invariant db) :
    Invariant db' := by
  have hold : ∀ t ∈ db.transactions.rows, t ∈ db'.transactions.rows := fun t ht =>
    (Table.mem_insert ha.transactions).mpr (Or.inl ht)
  have hnew : p.transaction ∈ db'.transactions.rows :=
    (Table.mem_insert ha.transactions).mpr (Or.inr rfl)
  refine ⟨?_, ?_, ?_⟩
  · intro t ht
    rcases (Table.mem_insert ha.transactions).mp ht with ht | rfl
    · exact recorded_old ha ht (hi.recorded t ht)
    · exact recorded_new ha hi
  · intro e he
    rcases (Table.mem_insertAll ha.ledger).mp he with he | he
    · obtain ⟨t, ht, hid⟩ := hi.entries_owned e he
      exact ⟨t, hold t ht, hid⟩
    · rw [ha.entries] at he
      refine ⟨p.transaction, hnew, ?_⟩
      rw [posted_owner he, ha.transaction]
      rfl
  · intro x hx htype
    obtain ⟨l, e, -, htx, -, -, hbox⟩ := ha.event
    rcases (Table.mem_insert hbox).mp hx with hx | rfl
    · obtain ⟨t, ht, hrec⟩ := hi.events_owned x hx htype
      exact ⟨t, hold t ht, hrec⟩
    · exact ⟨p.transaction, hnew, rfl, rfl, htx⟩

end Append

theorem next_keeps_invariant (db : Db) (c : Call) (hi : Invariant db) : Invariant (next db c) := by
  unfold next
  split
  · next db' p h =>
    obtain ⟨b, -, ⟨t, -, -, -, rfl⟩ | ⟨-, ha⟩⟩ := postFinancialTransaction_cases h
    · exact hi
    · exact append_keeps_invariant ha hi
  · exact hi

/-- The call raises and writes nothing. -/
def Raises (db : Db) (c : Call) : Prop :=
  (∃ e, postFinancialTransaction db c.1 c.2 = .error e) ∧ next db c = db

/-- The call writes nothing and returns the stored transaction with its entries and event. -/
def Returns (db : Db) (c : Call) (t : Transaction) : Prop :=
  next db c = db ∧ ∃ p x, postFinancialTransaction db c.1 c.2 = .ok (db, p) ∧
    p.transaction = t ∧ p.entries.Perm (entriesOf db t.id) ∧
    db.auditOutbox.select (recordedFor t.id) = [x] ∧ p.eventId = x.eventId

theorem raises_of_error {db : Db} {c : Call} {e : PyException}
    (h : postFinancialTransaction db c.1 c.2 = .error e) : Raises db c := by
  refine ⟨⟨e, h⟩, ?_⟩
  unfold next
  rw [h]

theorem raises_of_not_ok {db : Db} {c : Call}
    (h : ∀ db' p, postFinancialTransaction db c.1 c.2 ≠ .ok (db', p)) : Raises db c := by
  cases hp : postFinancialTransaction db c.1 c.2 with
  | ok q => exact absurd hp (h q.1 q.2)
  | error e => exact raises_of_error hp

theorem invalid_raises {db : Db} {c : Call} (h : ∀ lines, ¬ Valid c.2 lines) : Raises db c := by
  refine raises_of_not_ok fun db' p hp => ?_
  obtain ⟨b, hv, -⟩ := postFinancialTransaction_cases hp
  exact h _ (valid_of_validate hv)

theorem undenominated_raises {db : Db} {c : Call}
    (hk : ∀ t ∈ db.transactions.rows, t.idempotencyKey ≠ c.2.idempotencyKey)
    (h : ∀ lines, Valid c.2 lines → ¬ Denominated db c.2.currency lines) : Raises db c := by
  refine raises_of_not_ok fun db' p hp => ?_
  obtain ⟨b, hv, ⟨t, ht, hkey, -⟩ | ⟨-, ha⟩⟩ := postFinancialTransaction_cases hp
  · exact hk t ht hkey
  · refine h _ (valid_of_validate hv) ?_
    intro x hx
    obtain ⟨e, he, rfl⟩ := List.mem_map.mp hx
    exact ha.accounts e he

theorem valid_of_repeats {db : Db} {r : PostingRequest} {t : Transaction} (hr : Recorded db t)
    (h : Repeats db r t) : ∃ lines, Valid r lines := by
  obtain ⟨-, lines, hl, hp⟩ := h
  have htotal : ∀ d, lineTotal d lines = lineTotal d (linesOf db t) := fun d =>
    ((hp.filter _).map _).sum_eq
  refine ⟨lines, hl, ?_, ?_⟩
  · rw [hp.length_eq, linesOf, List.length_map]
    exact hr.two_or_more
  · rw [htotal, htotal]
    exact hr.balanced

theorem post_existing {db : Db} {c : Call} {t : Transaction} (ht : t ∈ db.transactions.rows)
    (hk : t.idempotencyKey = c.2.idempotencyKey) {b : BalancedEntries c.2.currency}
    (hb : validateEntries c.2.currency c.2.entries = .ok b) :
    postFinancialTransaction db c.1 c.2 =
      (replayPosting db c.2.idempotencyKey b t >>= fun p => pure (db, p)) := by
  simp only [postFinancialTransaction, postAfterLookup, hb, findTransaction_eq_some.mpr ⟨ht, hk⟩]
  rfl

theorem reuse_raises {db : Db} {c : Call} {t : Transaction} (ht : t ∈ db.transactions.rows)
    (hk : t.idempotencyKey = c.2.idempotencyKey) (hn : ¬ Repeats db c.2 t) : Raises db c := by
  refine raises_of_not_ok fun db' p hp => ?_
  obtain ⟨b, hb, -⟩ := postFinancialTransaction_cases hp
  rw [post_existing ht hk hb, bind_eq_ok] at hp
  obtain ⟨q, hq, -⟩ := hp
  exact hn (repeats_of_replay hb hq)

theorem repeat_returns {db : Db} {c : Call} {t : Transaction} (hi : Invariant db)
    (ht : t ∈ db.transactions.rows) (hk : t.idempotencyKey = c.2.idempotencyKey)
    (hr : Repeats db c.2 t)
    (hu : ∀ x ∈ db.auditOutbox.rows, mentionsTransaction t.id x → recordedFor t.id x) :
    Returns db c t := by
  obtain ⟨lines, hvalid⟩ := valid_of_repeats (hi.recorded t ht) hr
  obtain ⟨b, hb, -⟩ := validate_of_valid hvalid
  obtain ⟨p, x, hp, hrest⟩ := replay_of_repeats (hi.recorded t ht) hb hr hu
  have hpost : postFinancialTransaction db c.1 c.2 = .ok (db, p) := by
    rw [post_existing ht hk hb, hp]
    rfl
  refine ⟨?_, p, x, hpost, hrest⟩
  unfold next
  rw [hpost]

theorem ofText_text (d : Direction) : Direction.ofText? (upper d.text) = some d := by
  cases d <;> decide

/-- Every stored transaction can be repeated: by the entries of its event. -/
theorem repetition {db : Db} {t : Transaction} (h : Recorded db t) :
    ∃ r : PostingRequest, t.idempotencyKey = r.idempotencyKey ∧ Repeats db r t := by
  obtain ⟨x, e, -, -, -, hentries⟩ := h.reported
  refine ⟨{ idempotencyKey := t.idempotencyKey, description := "", sourceType := ""
            currency := t.currencyCode
            entries := e.entries.map fun x => ⟨x.accountId, x.direction.text, x.money⟩ },
    rfl, rfl, e.entries.map fun x => (x.accountId, x.direction, x.money.amountMinor), ?_, ?_⟩
  · unfold Reads
    rw [List.forall₂_map_left_iff, List.forall₂_map_right_iff, List.forall₂_same]
    intro y hy
    obtain ⟨l, -, hl⟩ := List.mem_map.mp (hentries.mem_iff.mp (List.mem_map_of_mem hy))
    simp only [Prod.mk.injEq] at hl
    obtain ⟨-, -, -, hamount, hcurrency⟩ := hl
    rw [specLine?, if_pos ⟨hcurrency.symm, hamount ▸ l.positive⟩, ofText_text]
    rfl
  · have hlines := hentries.map fun y : Uuid × Uuid × Direction × ℤ × CurrencyCode =>
      ((y.2.1, y.2.2.1, y.2.2.2.1) : Line)
    rw [List.map_map, List.map_map] at hlines
    exact hlines

/-- Invalid calls, and reuses of a key that repeat nothing, are refused. -/
structure Refused (db : Db) (c : Call) : Prop where
  reused : ∀ t ∈ db.transactions.rows, t.idempotencyKey = c.2.idempotencyKey →
    ¬ Repeats db c.2 t → Raises db c
  invalid : (∀ lines, ¬ Valid c.2 lines) → Raises db c
  undenominated : (∀ t ∈ db.transactions.rows, t.idempotencyKey ≠ c.2.idempotencyKey) →
    (∀ lines, Valid c.2 lines → ¬ Denominated db c.2.currency lines) → Raises db c

structure Answered (db : Db) (c : Call) : Prop extends Refused db c where
  repeated : ∀ t ∈ db.transactions.rows, t.idempotencyKey = c.2.idempotencyKey →
    Repeats db c.2 t → Returns db c t

/-- A financial event names the transaction that it was recorded for, and no other one in its
references. -/
def Unmentioned (db : Db) : Prop :=
  ∀ t ∈ db.transactions.rows, ∀ x ∈ db.auditOutbox.rows,
    mentionsTransaction t.id x → recordedFor t.id x

theorem refused (db : Db) (c : Call) : Refused db c where
  reused _ := reuse_raises
  invalid := invalid_raises
  undenominated := undenominated_raises

theorem answered_iff_unmentioned {db : Db} (hi : Invariant db) :
    (∀ c, Answered db c) ↔ Unmentioned db := by
  constructor
  · intro h t ht x hx hm
    by_contra hn
    obtain ⟨r, hk, hr⟩ := repetition (hi.recorded t ht)
    obtain ⟨lines, hvalid⟩ := valid_of_repeats (hi.recorded t ht) hr
    obtain ⟨b, hb, -⟩ := validate_of_valid hvalid
    obtain ⟨-, p, -, hp, -⟩ := (h (.seeded 0, r)).repeated t ht hk hr
    rw [@post_existing db (.seeded 0, r) t ht hk b hb, bind_eq_ok] at hp
    obtain ⟨q, hq, -⟩ := hp
    exact replay_of_mentioned (hi.recorded t ht) hx hm hn hq
  · intro hu c
    exact ⟨refused db c, fun t ht hk hr => repeat_returns hi ht hk hr (hu t ht)⟩

/-- From any journal that satisfies the invariant (an unused one does), every run of postings
keeps it and refuses what is to be refused. In every state reached a repeated call is answered with
the stored transaction exactly as long as no event mentions another transaction than its own. -/
theorem journal_stays_balanced {db : Db} (start : Invariant db) (calls : List Call) :
    machine.Throughout (fun s => Invariant s ∧ ∀ c, Refused s c) db calls ∧
      (machine.Throughout (fun s => Invariant s ∧ ∀ c, Answered s c) db calls ↔
        machine.Throughout Unmentioned db calls) := by
  have hrun : machine.Throughout Invariant db calls :=
    throughout_of_keep next_keeps_invariant start
  refine ⟨hrun.mono fun s hi => ⟨hi, refused s⟩, fun h => ?_, fun h => ?_⟩
  · exact h.mono fun s hs => (answered_iff_unmentioned hs.1).mp hs.2
  · exact (hrun.and h).mono fun s hs => ⟨hs.1, (answered_iff_unmentioned hs.1).mpr hs.2⟩

/-- An account of a posting of 5.00. -/
def checkingAccount (id : Uuid) : Account :=
  { id := id, userId := none, accountNumber := "CHK-" ++ id.str, accountType := .checking,
    productName := "Checking", productCode := none, creditAccountId := none, status := .active,
    creditLimitCents := 0, clearedBalanceCents := 0, availableCreditCents := 0, currency := .usd,
    mirror_is_card := fun h => absurd rfl h,
    system_number := fun h => absurd h (by simp [isSystemNumber]) }

def twoAccounts : Db :=
  { Db.empty with
    accounts := ⟨[checkingAccount (.ofNat 1), checkingAccount (.ofNat 2)], by decide⟩ }

def fiveDollars : Money := ⟨500, .usd, by decide⟩

def transferOf (entries : List JournalEntrySpec) : PostingRequest :=
  { idempotencyKey := "transfer-1", description := "Transfer", entries := entries,
    sourceType := "TEST" }

def transferred : PostingRequest :=
  transferOf [⟨.ofNat 1, "DEBIT", fiveDollars⟩, ⟨.ofNat 2, "CREDIT", fiveDollars⟩]

def postedOnce : Call := (.seeded 1, transferred)

def postedTwice : List Call :=
  [postedOnce,
    (.seeded 2, transferOf
      [⟨.ofNat 2, "credit", fiveDollars⟩, ⟨.ofNat 1, "Debit", fiveDollars⟩])]

instance : DecidablePred Unmentioned := fun db =>
  inferInstanceAs (Decidable (∀ t ∈ db.transactions.rows, ∀ x ∈ db.auditOutbox.rows,
    mentionsTransaction t.id x → recordedFor t.id x))

theorem twoAccounts_unused : Invariant twoAccounts :=
  invariant_of_unused rfl rfl (fun r hr => by cases hr)

theorem twoAccounts_stay_balanced :
    (machine.final twoAccounts postedTwice).transactions.rows.length = 1 ∧
      machine.Throughout (fun s => Invariant s ∧ ∀ c, Answered s c) twoAccounts postedTwice := by
  refine ⟨by decide, (journal_stays_balanced twoAccounts_unused postedTwice).2.mpr ?_⟩
  have hstates : Unmentioned twoAccounts ∧ Unmentioned (machine.final twoAccounts [postedOnce]) ∧
      Unmentioned (machine.final twoAccounts postedTwice) := by decide +kernel
  exact hstates

def returned : List Call :=
  [postedOnce,
    (.seeded 2, { transferred with
      idempotencyKey := "transfer-2"
      sourceReferences := [("returned", .obj
        [("transaction_id", .str ((Ambient.seeded 1).uuid4 0).str)])] })]

/-- The first transfer is found by its key and repeated exactly, but two events are `LIKE` its
id. -/
theorem returned_transfer_unanswered :
    Invariant (machine.final twoAccounts returned) ∧
      ¬ Answered (machine.final twoAccounts returned) (.seeded 3, transferred) := by
  have hrun : machine.Throughout Invariant twoAccounts returned :=
    throughout_of_keep next_keeps_invariant twoAccounts_unused
  refine ⟨hrun.last, fun h => ?_⟩
  have hstored : postedTransaction (.seeded 1) "transfer-1" "Transfer" none .usd ∈
      (machine.final twoAccounts returned).transactions.rows := by decide +kernel
  have hreads : Reads transferred [(.ofNat 1, .debit, 500), (.ofNat 2, .credit, 500)] :=
    .cons (by decide) (.cons (by decide) .nil)
  obtain ⟨-, p, -, hp, -⟩ := h.repeated _ hstored rfl ⟨rfl, _, hreads, by decide +kernel⟩
  have hrefused : (postFinancialTransaction (machine.final twoAccounts returned) (.seeded 3)
      transferred).toOption.isSome = false := by decide +kernel
  rw [hp] at hrefused
  cases hrefused

end JournalIntegrity
