import BankingService.AuditRelay
import BankingService.JournalIntegrity
import Mathlib.Algebra.Order.BigOperators.Group.List

/-! What the services record and what the pipeline accepts are one contract: the envelope of an
evidence artifact always passes, that of a posting exactly if Java knows the offset of its time and
its references are JSON. -/
namespace BankingService.PipelineContract

open Python Relational Checked IsoTime AuditIcebergPipeline JournalIntegrity

theorem isBlank_uuid (u : Uuid) : isBlank u.str = false := by
  obtain ⟨digits, hsize⟩ := u
  cases digits with
  | nil => cases hsize
  | cons d digits =>
    have hdigit : ∀ d : Fin 16, isWhitespace (Uuid.hexDigit d) = false := by decide
    exact isBlank_cons (hdigit d)

theorem isBlank_isoformat (d : AwareDateTime) : isBlank d.isoformat = false := by
  have hdigit : ∀ n, isWhitespace (n % 10).digitChar = false := by
    intro n
    have hall : ∀ n : Fin 10, isWhitespace n.val.digitChar = false := by decide
    exact hall ⟨n % 10, Nat.mod_lt _ (by decide)⟩
  exact isBlank_cons (hdigit _)

theorem isBlank_currency (c : CurrencyCode) : isBlank c.text = false := by
  cases c <;> decide

theorem isBlank_direction (d : Direction) : isBlank d.text = false := by
  cases d <;> decide

def EventEntry.line (e : EventEntry) : Line := (e.accountId, e.direction, e.money.amountMinor)

def ledgerRow (header : EventHeader) (e : EventEntry) : LedgerRow :=
  { entryId := e.entryId.str, eventId := header.eventId, transactionId := header.transactionId,
    accountId := e.accountId.str, direction := e.direction.text,
    amountCents := e.money.amountMinor, currency := header.currency,
    sourceType := header.sourceType, sourceReferences := header.sourceReferences,
    postedAt := header.postedAt, sourceCreatedAt := header.sourceCreatedAt,
    publishedAt := header.publishedAt, ingestedAt := header.ingestedAt }

structure EntryRead (e : EventEntry) (document m : Json) : Prop where
  entryId : requiredText document "entry_id" = .ok e.entryId.str
  accountId : requiredText document "account_id" = .ok e.accountId.str
  direction : requiredText document "direction" = .ok e.direction.text
  money : document.get "money" = some m
  amount : requiredLong m "amount_minor" = .ok e.money.amountMinor
  currency : requiredText m "currency_code" = .ok e.money.currencyCode.text

theorem entry_keys (e : EventEntry) : (e.fields.map Prod.fst).Nodup := by
  simp [EventEntry.fields]

theorem money_keys (m : Money) : (m.modelDump.map Prod.fst).Nodup := by
  simp [Money.modelDump]

theorem entryRead_document (e : EventEntry) :
    EntryRead e (Json.obj e.fields).sorted (Json.obj e.money.modelDump).sorted where
  entryId := requiredText_document (entry_keys e) (by simp [EventEntry.fields]) (isBlank_uuid _)
  accountId := requiredText_document (entry_keys e) (by simp [EventEntry.fields]) (isBlank_uuid _)
  direction := requiredText_document (entry_keys e) (by simp [EventEntry.fields])
    (isBlank_direction _)
  money := get_document (entry_keys e) (by simp [EventEntry.fields])
  amount := by
    have hbounds : -(2 ^ 53 - 1) ≤ e.money.amountMinor ∧ e.money.amountMinor ≤ 2 ^ 53 - 1 :=
      e.money.in_range
    refine requiredLong_document (money_keys _) (by simp [Money.modelDump]) ?_
    unfold CanConvertToLong
    omega
  currency := requiredText_document (money_keys _) (by simp [Money.modelDump])
    (isBlank_currency _)

theorem lineTotal_single (d : Direction) (x : Line) :
    lineTotal d [x] = if x.2.1 = d then x.2.2 else 0 := by
  unfold lineTotal
  split
  · next h => simp [h]
  · next h => simp [h]

theorem addExact_ok {a b : ℤ} (h : CanConvertToLong (a + b)) : addExact a b = .ok (a + b) := by
  simp [addExact, h]

theorem add_text {totals : Totals} {e : EventEntry}
    (debits : 0 ≤ totals.debits ∧ totals.debits + lineTotal .debit [EventEntry.line e] < 2 ^ 63)
    (credits : 0 ≤ totals.credits ∧
      totals.credits + lineTotal .credit [EventEntry.line e] < 2 ^ 63)
    (positive : 0 < e.money.amountMinor) :
    totals.add e.direction.text e.money.amountMinor =
      .ok (totals.debits + lineTotal .debit [EventEntry.line e],
        totals.credits + lineTotal .credit [EventEntry.line e]) := by
  simp only [lineTotal_single, EventEntry.line] at debits credits ⊢
  cases hd : e.direction with
  | debit =>
    rw [hd, if_pos rfl] at debits
    have hadd := addExact_ok (a := totals.debits) (b := e.money.amountMinor)
      ⟨by omega, debits.2⟩
    simp [Totals.add, Direction.text, hadd]
  | credit =>
    rw [hd, if_pos rfl] at credits
    have hadd := addExact_ok (a := totals.credits) (b := e.money.amountMinor)
      ⟨by omega, credits.2⟩
    simp [Totals.add, Direction.text, hadd]

theorem upperCase_direction (d : Direction) :
    upperCase d.text = d.text ∧ (d.text = "DEBIT" ∨ d.text = "CREDIT") := by
  cases d <;> decide

theorem parseEntry_document {header : EventHeader} {totals : Totals} {e : EventEntry}
    (version : header.schemaVersion = 2) (currency : header.currency = e.money.currencyCode.text)
    (positive : 0 < e.money.amountMinor) (fresh : e.entryId.str ∉ totals.entryIds)
    (debits : 0 ≤ totals.debits ∧ totals.debits + lineTotal .debit [EventEntry.line e] < 2 ^ 63)
    (credits : 0 ≤ totals.credits ∧
      totals.credits + lineTotal .credit [EventEntry.line e] < 2 ^ 63) :
    parseEntry header totals (Json.obj e.fields).sorted =
      .ok ⟨totals.debits + lineTotal .debit [EventEntry.line e],
        totals.credits + lineTotal .credit [EventEntry.line e],
        e.entryId.str :: totals.entryIds, totals.ledger ++ [ledgerRow header e]⟩ := by
  have hread := entryRead_document e
  obtain ⟨hupper, hdirection⟩ := upperCase_direction e.direction
  have hadd := add_text debits credits positive
  rw [← hupper] at hadd hdirection
  have hone : ¬ header.schemaVersion = 1 := by omega
  have hbounds : e.money.amountMinor ≤ 2 ^ 53 - 1 := e.money.in_range.2
  have hsafe : e.money.amountMinor ≤ 9007199254740991 := by omega
  simp only [parseEntry, bind_eq_ok, require_eq_ok, pure_eq_ok, if_neg hone, if_pos version,
    hread.money, Option.getD_some]
  refine ⟨_, hread.entryId, (), fresh, _, hread.direction, _, hread.amount, _, hread.currency, (),
    ⟨currency, hsafe⟩, (), ⟨positive, hdirection⟩, _, hadd, _, hread.accountId, ?_⟩
  rw [hupper, ledgerRow]

theorem lineTotal_cons (d : Direction) (x : Line) (l : List Line) :
    lineTotal d (x :: l) = lineTotal d [x] + lineTotal d l := by
  unfold lineTotal
  by_cases h : x.2.1 = d
  · simp [h]
  · simp [h]

theorem lineTotal_nonneg {d : Direction} {l : List Line} (h : ∀ x ∈ l, 0 < x.2.2) :
    0 ≤ lineTotal d l := by
  refine List.sum_nonneg fun n hn => ?_
  obtain ⟨x, hx, rfl⟩ := List.mem_map.mp hn
  exact (h x (List.mem_filter.mp hx).1).le

/-- The entries of an event, as `post_financial_transaction` records them. -/
structure Entries (currency : CurrencyCode) (es : List EventEntry) : Prop where
  currency : ∀ e ∈ es, e.money.currencyCode = currency
  positive : ∀ e ∈ es, 0 < e.money.amountMinor
  distinct : (es.map fun e => e.entryId).Nodup

theorem Entries.tail {currency : CurrencyCode} {e : EventEntry} {es : List EventEntry}
    (h : Entries currency (e :: es)) : Entries currency es :=
  ⟨fun x hx => h.currency x (List.mem_cons_of_mem _ hx),
    fun x hx => h.positive x (List.mem_cons_of_mem _ hx), (List.nodup_cons.mp h.distinct).2⟩

theorem foldlM_documents {header : EventHeader} {currency : CurrencyCode}
    (version : header.schemaVersion = 2) (same : header.currency = currency.text)
    {es : List EventEntry} {totals : Totals} (h : Entries currency es)
    (fresh : ∀ e ∈ es, e.entryId.str ∉ totals.entryIds)
    (debits : 0 ≤ totals.debits ∧
      totals.debits + lineTotal .debit (es.map EventEntry.line) < 2 ^ 63)
    (credits : 0 ≤ totals.credits ∧
      totals.credits + lineTotal .credit (es.map EventEntry.line) < 2 ^ 63) :
    (es.map fun e => (Json.obj e.fields).sorted).foldlM (parseEntry header) totals =
      .ok ⟨totals.debits + lineTotal .debit (es.map EventEntry.line),
        totals.credits + lineTotal .credit (es.map EventEntry.line),
        (es.map fun e => e.entryId.str).reverse ++ totals.entryIds,
        totals.ledger ++ es.map (ledgerRow header)⟩ := by
  induction es generalizing totals with
  | nil => simp [lineTotal, pure, Except.pure]
  | cons e es ih =>
    have hpositive : ∀ x ∈ (e :: es).map EventEntry.line, 0 < x.2.2 := by
      intro x hx
      obtain ⟨y, hy, rfl⟩ := List.mem_map.mp hx
      exact h.positive y hy
    have hrest : ∀ d, 0 ≤ lineTotal d (es.map EventEntry.line) := fun d =>
      lineTotal_nonneg fun x hx => hpositive x (List.mem_cons_of_mem _ hx)
    have hone : ∀ d, 0 ≤ lineTotal d [EventEntry.line e] := fun d =>
      lineTotal_nonneg fun x hx => hpositive x (by
        rw [List.mem_singleton.mp hx]
        exact List.mem_cons_self)
    have hdebit := hrest .debit
    have hcredit := hrest .credit
    have hdebit' := hone .debit
    have hcredit' := hone .credit
    have hsum : ∀ d, lineTotal d ((e :: es).map EventEntry.line) =
        lineTotal d [EventEntry.line e] + lineTotal d (es.map EventEntry.line) :=
      fun d => lineTotal_cons d _ _
    rw [hsum] at debits credits
    have hstep := parseEntry_document version
      (same.trans (congrArg CurrencyCode.text (h.currency e List.mem_cons_self).symm))
      (h.positive e List.mem_cons_self) (fresh e List.mem_cons_self) ⟨debits.1, by omega⟩
      ⟨credits.1, by omega⟩
    have hfresh : ∀ x ∈ es, x.entryId.str ∉ e.entryId.str :: totals.entryIds := by
      intro x hx hmem
      rcases List.mem_cons.mp hmem with heq | hmem
      · refine (List.nodup_cons.mp h.distinct).1 (List.mem_map.mpr ⟨x, hx, ?_⟩)
        exact Uuid.str_injective heq
      · exact fresh x (List.mem_cons_of_mem _ hx) hmem
    have hloop := @ih ⟨totals.debits + lineTotal .debit [EventEntry.line e],
      totals.credits + lineTotal .credit [EventEntry.line e], e.entryId.str :: totals.entryIds,
      totals.ledger ++ [ledgerRow header e]⟩ h.tail hfresh
        ⟨by simp only; omega, by simp only; omega⟩
      ⟨by simp only; omega, by simp only; omega⟩
    rw [List.map_cons, List.foldlM_cons, hstep]
    refine hloop.trans ?_
    rw [hsum, hsum]
    simp [add_assoc]

section
variable {mapper : Mapper} {e : FinancialEvent} {timestamp : AwareDateTime}

theorem event_keys : ((e.fields timestamp).map Prod.fst).Nodup := by
  simp [FinancialEvent.fields]

/-- Only the references of an event can hold a number that is not finite. -/
theorem finite_event : (Json.obj (e.fields timestamp)).finite =
    (Json.obj e.sourceReferences).finite := by
  have hentries : Json.finiteItems (e.entries.map fun x => .obj x.fields) = true := by
    rw [Json.finiteItems_iff]
    intro x hx
    obtain ⟨y, -, rfl⟩ := List.mem_map.mp hx
    rfl
  simp [FinancialEvent.fields, Json.finite, Json.finiteFields, hentries]

structure Recorded (e : FinancialEvent) : Prop where
  eventId : isBlank e.eventId = false
  version : e.schemaVersion = 2
  sourceType : isBlank e.sourceType = false
  entries : Entries e.currencyCode e.entries
  one_or_more : e.entries ≠ []
  balanced : lineTotal .debit (e.entries.map EventEntry.line) =
    lineTotal .credit (e.entries.map EventEntry.line)
  bounded : lineTotal .debit (e.entries.map EventEntry.line) < 2 ^ 63

def header (mapper : Mapper) (e : FinancialEvent) (timestamp : AwareDateTime)
    (sourceCreatedAt publishedAt ingestedAt : ℤ) : EventHeader :=
  { eventId := e.eventId, schemaVersion := 2, transactionId := e.transactionId.str,
    currency := e.currencyCode.text, sourceType := e.sourceType,
    sourceReferences := some (mapper.writeValueAsString (Json.obj e.sourceReferences).sorted),
    postedAt := timestamp.toJava.epochMilli, sourceCreatedAt, publishedAt, ingestedAt }

theorem parseTimestamp_isoformat (d : AwareDateTime) :
    parseTimestamp d.isoformat =
      if Readable d.offset then .ok d.toJava.epochMilli else .error .dateTimeParse := by
  rw [parseTimestamp, parse_isoformat]
  split <;> rfl

structure EventRead (e : FinancialEvent) (timestamp : AwareDateTime) (document : Json) : Prop where
  eventId : requiredText document "event_id" = .ok e.eventId
  transactionId : requiredText document "transaction_id" = .ok e.transactionId.str
  version : requiredLong document "schema_version" = .ok 2
  currency : requiredText document "currency_code" = .ok e.currencyCode.text
  sourceType : requiredText document "source_type" = .ok e.sourceType
  postedAt : requiredText document "posted_at" = .ok timestamp.isoformat
  references : document.get "source_references" = some (Json.obj e.sourceReferences).sorted
  entries : document.get "entries" = some (.arr (e.entries.map fun x => (Json.obj x.fields).sorted))

theorem eventRead_document (h : Recorded e) :
    EventRead e timestamp (Json.obj (e.fields timestamp)).sorted where
  eventId := requiredText_document event_keys (by simp [FinancialEvent.fields]) h.eventId
  transactionId := requiredText_document event_keys (by simp [FinancialEvent.fields])
    (isBlank_uuid _)
  version := requiredLong_document event_keys (by simp [FinancialEvent.fields, h.version])
    (by decide)
  currency := requiredText_document event_keys (by simp [FinancialEvent.fields])
    (isBlank_currency _)
  sourceType := requiredText_document event_keys (by simp [FinancialEvent.fields]) h.sourceType
  postedAt := requiredText_document event_keys (by simp [FinancialEvent.fields])
    (isBlank_isoformat _)
  references := get_document event_keys (by simp [FinancialEvent.fields])
  entries := by
    have hget : (Json.obj (e.fields timestamp)).sorted.get "entries" =
        some (Json.arr (e.entries.map fun x => .obj x.fields)).sorted :=
      get_document event_keys (by simp [FinancialEvent.fields])
    rw [hget, Json.sorted, Json.sortedItems_eq, List.map_map]
    rfl

theorem checkVersion_document {document : Json}
    (h : EventRead e timestamp document) : checkVersion document 2 = .ok () := by
  simp [checkVersion, bind_eq_ok, h.version]

theorem readCurrency_document {document : Json} (h : EventRead e timestamp document) :
    readCurrency document 2 = .ok e.currencyCode.text := by
  have hcurrency : isCurrency e.currencyCode.text = true ∧
      ((2 : ℤ) = 2 → e.currencyCode.text ∈ supportedCurrencies) := by
    cases e.currencyCode <;> decide
  simp only [readCurrency, bind_eq_ok, require_eq_ok, pure_eq_ok]
  exact ⟨_, h.currency, (), ⟨hcurrency.1, fun _ => hcurrency.2 rfl⟩, rfl⟩

theorem fanOut_document {header : EventHeader} (version : header.schemaVersion = 2)
    (same : header.currency = e.currencyCode.text) (h : Recorded e) :
    fanOut header (some (.arr (e.entries.map fun x => (Json.obj x.fields).sorted))) =
      .ok (e.entries.map (ledgerRow header)) := by
  have hloop := @foldlM_documents _ _ version same _ ⟨0, 0, [], []⟩ h.entries
    (fun _ _ => List.not_mem_nil) ⟨le_rfl, by simp only [zero_add]; exact h.bounded⟩
    ⟨le_rfl, by simp only [zero_add, ← h.balanced]; exact h.bounded⟩
  cases hes : e.entries with
  | nil => exact absurd hes h.one_or_more
  | cons x es =>
    rw [hes, List.map_cons] at hloop
    have hbalanced := h.balanced
    rw [hes] at hbalanced
    simp only [fanOut, List.map_cons, hloop, ok_bind]
    rw [require_of (by rw [zero_add, zero_add]; exact hbalanced), ok_bind]
    rfl

/-- A recorded event is fanned out unless its references are not JSON or its time is in a zone that
Java does not know. -/
theorem parseFinancial_document (strict : mapper.Strict) (h : Recorded e)
    (sourceCreatedAt publishedAt ingestedAt : ℤ) :
    parseFinancial mapper e.eventId 2 (Json.obj (e.fields timestamp)).dumps
        sourceCreatedAt publishedAt ingestedAt =
      if (Json.obj e.sourceReferences).finite then
        if Readable timestamp.offset then
          .ok (e.entries.map (ledgerRow (header mapper e timestamp sourceCreatedAt publishedAt
            ingestedAt)))
        else .error .dateTimeParse
      else .error .jsonProcessing := by
  have hread : EventRead e timestamp _ := eventRead_document h
  by_cases hfinite : (Json.obj e.sourceReferences).finite
  · have htree : mapper.readTree (Json.obj (e.fields timestamp)).dumps =
        some (Json.obj (e.fields timestamp)).sorted := by
      refine strict.reads _ _ ((Json.parse_dumps _).trans (if_pos ?_))
      rw [finite_event]
      exact hfinite
    rw [if_pos hfinite, parseFinancial, htree]
    simp only [orRaise, ok_bind, hread.eventId, hread.transactionId, checkVersion_document hread,
      readCurrency_document hread, hread.sourceType, hread.postedAt, hread.references,
      hread.entries, parseTimestamp_isoformat, require_of]
    split
    · exact fanOut_document rfl rfl h
    · rfl
  · have htree : mapper.readTree (Json.obj (e.fields timestamp)).dumps = none := by
      refine strict.refuses _ ?_
      rw [finite_event]
      exact Bool.eq_false_iff.mpr hfinite
    rw [if_neg hfinite, parseFinancial, htree]
    rfl

end

section
variable {mapper : Mapper} {sha256 : String → String} {row : StoredEvent} {now : LocalDateTime}
  {messageId : Option String} {ingestedAt : ℤ}

def envelopeFields (row : StoredEvent) (now : LocalDateTime) : List (String × Json) :=
  [("event_id", .str row.eventId), ("event_type", .str row.eventType),
    ("schema_version", .int (if row.schemaVersion = 0 then 1 else row.schemaVersion)),
    ("payload", .str row.payload), ("created_at", .str (utcIso row.createdAt)),
    ("published_at", .str (utcIso now)), ("source", .str "alloydb.audit.audit_outbox")]

theorem envelope_keys : ((envelopeFields row now).map Prod.fst).Nodup := by
  simp [envelopeFields]

theorem readTree_envelope (strict : mapper.Strict) :
    mapper.readTree (delivered row now messageId).payload =
      some (Json.obj (envelopeFields row now)).sorted :=
  strict.reads _ _ ((Json.parse_dumps _).trans (if_pos rfl))

theorem parseTimestamp_utcIso (d : LocalDateTime) :
    parseTimestamp (utcIso d) = .ok (utc d).toJava.epochMilli := by
  rw [utcIso, parseTimestamp_isoformat, if_pos (show Readable (utc d).offset by
    simp [utc, Readable])]

theorem isBlank_utcIso (d : LocalDateTime) : isBlank (utcIso d) = false :=
  isBlank_isoformat _

theorem requiredText_envelope {name s : String} (h : (name, .str s) ∈ envelopeFields row now)
    (visible : isBlank s = false) :
    requiredText (Json.obj (envelopeFields row now)).sorted name = .ok s :=
  requiredText_document envelope_keys h visible

structure Sendable (row : StoredEvent) : Prop where
  eventId : isBlank row.eventId = false
  eventType : isBlank row.eventType = false
  version : 1 ≤ row.schemaVersion ∧ row.schemaVersion < 2 ^ 63
  payload : isBlank row.payload = false

def auditRow (mapper : Mapper) (row : StoredEvent) (now : LocalDateTime)
    (messageId : Option String) (ingestedAt : ℤ) : AuditRow :=
  { eventId := row.eventId, eventType := row.eventType, schemaVersion := row.schemaVersion,
    payload := row.payload, sourceCreatedAt := (utc row.createdAt).toJava.epochMilli,
    publishedAt := (utc now).toJava.epochMilli, ingestedAt, transportMessageId := messageId,
    transportAttributes := attributesText mapper (delivered row now messageId) }

/-- The relay and the pipeline agree on the envelope: what is left is the payload. -/
theorem parseMessage_delivered (strict : mapper.Strict) (h : Sendable row) :
    parseMessage mapper sha256 (delivered row now messageId) ingestedAt = (do
      if row.eventType = "PROPOSAL_EVIDENCE_SNAPSHOT" then
        checkEvidence mapper sha256 row.eventId row.schemaVersion row.payload
      let ledger ←
        if row.eventType = "FINANCIAL_TRANSACTION_POSTED" then
          parseFinancial mapper row.eventId row.schemaVersion row.payload
            (utc row.createdAt).toJava.epochMilli (utc now).toJava.epochMilli ingestedAt
        else pure []
      return ⟨auditRow mapper row now messageId ingestedAt, ledger,
        row.eventType == "PROPOSAL_EVIDENCE_SNAPSHOT"⟩) := by
  have heventId : requiredText (Json.obj (envelopeFields row now)).sorted "event_id" = _ :=
    requiredText_envelope (by simp [envelopeFields]) h.eventId
  have heventType : requiredText (Json.obj (envelopeFields row now)).sorted "event_type" = _ :=
    requiredText_envelope (by simp [envelopeFields]) h.eventType
  have hpayload : requiredText (Json.obj (envelopeFields row now)).sorted "payload" = _ :=
    requiredText_envelope (by simp [envelopeFields]) h.payload
  have hcreatedAt : requiredText (Json.obj (envelopeFields row now)).sorted "created_at" = _ :=
    requiredText_envelope (by simp [envelopeFields]) (isBlank_utcIso row.createdAt)
  have hpublishedAt : requiredText (Json.obj (envelopeFields row now)).sorted "published_at" = _ :=
    requiredText_envelope (by simp [envelopeFields]) (isBlank_utcIso now)
  have hversion : requiredLong (Json.obj (envelopeFields row now)).sorted "schema_version" =
      .ok (row.schemaVersion : ℤ) := by
    have hpos : ¬ row.schemaVersion = 0 := by have := h.version.1; omega
    refine requiredLong_document envelope_keys (by simp [envelopeFields, hpos]) ?_
    have hbound := h.version.2
    unfold CanConvertToLong
    omega
  have hpositive : (1 : ℤ) ≤ row.schemaVersion := by exact_mod_cast h.version.1
  rw [parseMessage, readTree_envelope strict]
  simp only [orRaise, ok_bind, heventId, heventType, hversion, require_of hpositive, hpayload,
    hcreatedAt, hpublishedAt, parseTimestamp_utcIso]
  rfl

end

section
variable {db db' : Db} {env : Ambient} {r : PostingRequest} {p : JournalPosting}
  {row : AuditOutbox} {e : FinancialEvent}

/-- The event of a posting, and the entries that it reports. -/
structure EventOf (env : Ambient) (r : PostingRequest) (p : JournalPosting) (row : AuditOutbox)
    (e : FinancialEvent) : Prop where
  row : row = ⟨e.eventId, FINANCIAL_EVENT_TYPE, FINANCIAL_EVENT_SCHEMA_VERSION, .financial e,
    env.now⟩
  eventId : e.eventId = (env.uuid4 1).str
  version : e.schemaVersion = 2
  currency : e.currencyCode = r.currency
  sourceType : e.sourceType = r.sourceType
  references : e.sourceReferences = r.sourceReferences
  entries : p.entries.mapM (eventEntry r.currency) = .ok e.entries
  lines : ∃ b : BalancedEntries r.currency,
    p.entries.map AccountLedgerEntry.line = b.entries.map NormalizedEntry.line
  distinct : (p.entries.map AccountLedgerEntry.entryId).Nodup

theorem event_of_posting (h : postFinancialTransaction db env r = .ok (db', p))
    (mem : row ∈ db'.auditOutbox.rows) (new : row ∉ db.auditOutbox.rows) :
    ∃ e, EventOf env r p row e := by
  obtain ⟨b, -, ⟨t, -, -, -, rfl⟩ | ⟨hfresh, ha⟩⟩ := postFinancialTransaction_cases h
  · exact absurd mem new
  · have hlookup := findTransaction_eq_none.mpr hfresh
    simp only [postFinancialTransaction, postAfterLookup, hlookup, appendPosting, bind_eq_ok,
      require_eq_ok, insert_eq_ok, insertAll_eq_ok, recordAuditEvent_eq_ok, pure_eq_ok] at h
    obtain ⟨b, -, -, -, -, -, txs, -, les, hles, l, hl, db₁, ⟨box, hbox, rfl⟩, hp⟩ := h
    cases hp
    rcases (Table.mem_insert hbox).mp mem with hold | rfl
    · exact absurd hold new
    · refine ⟨⟨_, _, _, _, _, _, _, _, _, _⟩, rfl, rfl, rfl, rfl, rfl, rfl, hl,
        ⟨b, posted_lines⟩, ?_⟩
      have hdistinct := les.distinct
      rw [Table.rows_insertAll hles, List.pairwise_append] at hdistinct
      exact List.pairwise_map.mpr hdistinct.2.1

theorem line_eventEntries (h : EventOf env r p row e) :
    e.entries.map EventEntry.line = p.entries.map AccountLedgerEntry.line := by
  have heq := congrArg (List.map fun x => (x.2.1, x.2.2.1, x.2.2.2.1)) (eventEntries_eq h.entries)
  rw [List.map_map, List.map_map] at heq
  exact heq

theorem entries_of_posting (h : EventOf env r p row e) : Entries e.currencyCode e.entries := by
  have heq := eventEntries_eq h.entries
  have hentry : ∀ x ∈ e.entries, ∃ y ∈ p.entries, y.amountMinor = x.money.amountMinor ∧
      r.currency = x.money.currencyCode := by
    intro x hx
    have hmem := List.mem_map_of_mem (f := fun x : EventEntry =>
      (x.entryId, x.accountId, x.direction, x.money.amountMinor, x.money.currencyCode)) hx
    rw [heq] at hmem
    obtain ⟨y, hy, hxy⟩ := List.mem_map.mp hmem
    simp only [Prod.mk.injEq] at hxy
    exact ⟨y, hy, hxy.2.2.2⟩
  refine ⟨fun x hx => ?_, fun x hx => ?_, ?_⟩
  · obtain ⟨y, -, -, hcurrency⟩ := hentry x hx
    rw [← hcurrency, h.currency]
  · obtain ⟨y, -, hamount, -⟩ := hentry x hx
    rw [← hamount]
    exact y.positive
  · have hids := congrArg (List.map Prod.fst) heq
    rw [List.map_map, List.map_map] at hids
    exact hids.symm ▸ h.distinct

theorem recorded_of_posting (h : EventOf env r p row e) (visible : isBlank r.sourceType = false)
    (bounded : lineTotal .debit (p.entries.map AccountLedgerEntry.line) < 2 ^ 63) :
    Recorded e := by
  obtain ⟨b, hb⟩ := h.lines
  have hlines := (line_eventEntries h).trans hb
  refine ⟨?_, h.version, ?_, entries_of_posting h, ?_, ?_, ?_⟩
  · rw [h.eventId]
    exact isBlank_uuid _
  · rw [h.sourceType]
    exact visible
  · intro hnil
    have hlength := congrArg List.length hlines
    rw [hnil, List.length_map, List.length_map, List.length_nil] at hlength
    have htwo := b.two_or_more
    omega
  · rw [hlines, lineTotal_line, lineTotal_line]
    exact b.balanced
  · rw [line_eventEntries h]
    exact bounded

def storedRow (e : FinancialEvent) (postedAt : AwareDateTime) (createdAt : LocalDateTime) :
    StoredEvent :=
  recordedEvent FINANCIAL_EVENT_TYPE (.obj (e.fields postedAt))
    e.eventId FINANCIAL_EVENT_SCHEMA_VERSION createdAt

theorem stored_of_posting {postedAt : AwareDateTime} {createdAt : LocalDateTime}
    (h : EventOf env r p row e) :
    row.stored postedAt createdAt = some (storedRow e postedAt createdAt) := by
  rw [h.row]
  rfl

theorem sendable_recordedEvent {eventType eventId : String} {fields : List (String × Json)}
    {version : ℕ} {createdAt : LocalDateTime} (hid : isBlank eventId = false)
    (htype : isBlank eventType = false) (hversion : 1 ≤ version ∧ version < 2 ^ 63) :
    Sendable (recordedEvent eventType (.obj fields) eventId version createdAt) :=
  ⟨hid, htype, hversion, isBlank_dumps _⟩

theorem parseMessage_financial {mapper : Mapper} {sha256 : String → String}
    (strict : mapper.Strict) (h : Recorded e) {postedAt : AwareDateTime}
    {createdAt now : LocalDateTime} {messageId : Option String} {ingestedAt : ℤ} :
    parseMessage mapper sha256
      (delivered (storedRow e postedAt createdAt) now messageId) ingestedAt =
      if (Json.obj e.sourceReferences).finite then
        if Readable postedAt.offset then
          .ok ⟨auditRow mapper (storedRow e postedAt createdAt) now messageId ingestedAt,
            e.entries.map (ledgerRow (header mapper e postedAt
              (utc createdAt).toJava.epochMilli (utc now).toJava.epochMilli ingestedAt)), false⟩
        else .error .dateTimeParse
      else .error .jsonProcessing := by
  have htype : (storedRow e postedAt createdAt).eventType = "FINANCIAL_TRANSACTION_POSTED" := rfl
  have hevidence : ¬ (storedRow e postedAt createdAt).eventType = "PROPOSAL_EVIDENCE_SNAPSHOT" := by
    rw [htype]
    decide
  have hfinancial : parseFinancial mapper (storedRow e postedAt createdAt).eventId
      (storedRow e postedAt createdAt).schemaVersion (storedRow e postedAt createdAt).payload
      (utc (storedRow e postedAt createdAt).createdAt).toJava.epochMilli
      (utc now).toJava.epochMilli ingestedAt = _ :=
    parseFinancial_document strict h _ _ _
  have hsendable : Sendable (storedRow e postedAt createdAt) :=
    sendable_recordedEvent h.eventId (by decide) (by decide)
  rw [parseMessage_delivered strict hsendable]
  simp only [if_neg hevidence, if_pos htype, beq_eq_false_iff_ne.mpr hevidence, hfinancial]
  split
  · split <;> rfl
  · rfl

end

section
variable {uuid5 : String → Uuid} {sha256 : String → String} {auditEventId : Uuid}
  {snapshot : List (String × Json)} {createdAt now : LocalDateTime} {stored : StoredEvent}
  {mapper : Mapper} {messageId : Option String} {ingestedAt : ℤ}

def artifactFields (artifactId auditEventId : Uuid) (digest snapshotJson : String) :
    List (String × Json) :=
  [("evidence_contract", .str ProposalEvidence.CONTRACT), ("artifact_id", .str artifactId.str),
    ("audit_event_id", .str auditEventId.str), ("snapshot_digest", .str digest),
    ("snapshot_json", .str snapshotJson)]

theorem archive_eq_ok :
    ProposalEvidence.archive uuid5 sha256 auditEventId snapshot createdAt = .ok stored ↔
      (Json.obj snapshot).finite = true ∧
        stored = recordedEvent ProposalEvidence.EVENT_TYPE
          (.obj (artifactFields (ProposalEvidence.artifactIdFor uuid5 auditEventId) auditEventId
            (sha256 (Json.obj snapshot).dumps) (Json.obj snapshot).dumps))
          (ProposalEvidence.artifactIdFor uuid5 auditEventId).str 1 createdAt := by
  simp only [ProposalEvidence.archive, ProposalEvidence.dumpsFinite, bind_eq_ok, require_eq_ok,
    pure_eq_ok, artifactFields]
  constructor
  · rintro ⟨_, ⟨-, hfinite, rfl⟩, h⟩
    exact ⟨hfinite, h.symm⟩
  · rintro ⟨hfinite, h⟩
    exact ⟨_, ⟨(), hfinite, rfl⟩, h.symm⟩

theorem checkEvidence_artifact (strict : mapper.Strict) (digest : ∀ s, isBlank (sha256 s) = false)
    {artifactId : Uuid} (finite : (Json.obj snapshot).finite = true) :
    checkEvidence mapper sha256 artifactId.str 1
      (Json.obj (artifactFields artifactId auditEventId (sha256 (Json.obj snapshot).dumps)
        (Json.obj snapshot).dumps)).dumps = .ok () := by
  set fields := artifactFields artifactId auditEventId (sha256 (Json.obj snapshot).dumps)
    (Json.obj snapshot).dumps with hfields
  have hkeys : (fields.map Prod.fst).Nodup := by simp [hfields, artifactFields]
  have hartifact : mapper.readTree (Json.obj fields).dumps = some (Json.obj fields).sorted :=
    strict.reads _ _ ((Json.parse_dumps _).trans (if_pos rfl))
  have hsnapshot : mapper.readTree (Json.obj snapshot).dumps = some (Json.obj snapshot).sorted :=
    strict.reads _ _ ((Json.parse_dumps _).trans (if_pos finite))
  have hcontract : requiredText (Json.obj fields).sorted "evidence_contract" = _ :=
    requiredText_document hkeys (by simp [hfields, artifactFields])
      (by decide : isBlank ProposalEvidence.CONTRACT = false)
  have hid : requiredText (Json.obj fields).sorted "artifact_id" = _ :=
    requiredText_document hkeys (by simp [hfields, artifactFields]) (isBlank_uuid artifactId)
  have haudit : requiredText (Json.obj fields).sorted "audit_event_id" = _ :=
    requiredText_document hkeys (by simp [hfields, artifactFields]) (isBlank_uuid auditEventId)
  have htext : requiredText (Json.obj fields).sorted "snapshot_json" = _ :=
    requiredText_document hkeys (by simp [hfields, artifactFields]) (isBlank_dumps snapshot)
  have hdigest : requiredText (Json.obj fields).sorted "snapshot_digest" = _ :=
    requiredText_document hkeys (by simp [hfields, artifactFields])
      (digest (Json.obj snapshot).dumps)
  simp only [checkEvidence, hartifact, orRaise, ok_bind, hcontract, hid, haudit, htext, hsnapshot,
    hdigest, ProposalEvidence.CONTRACT, require_of]
  rfl

theorem parseMessage_archive (strict : mapper.Strict) (digest : ∀ s, isBlank (sha256 s) = false)
    (h : ProposalEvidence.archive uuid5 sha256 auditEventId snapshot createdAt = .ok stored) :
    parseMessage mapper sha256 (delivered stored now messageId) ingestedAt =
      .ok ⟨auditRow mapper stored now messageId ingestedAt, [], true⟩ := by
  obtain ⟨hfinite, rfl⟩ := archive_eq_ok.mp h
  have hcheck := @checkEvidence_artifact _ auditEventId _ mapper strict digest
    (ProposalEvidence.artifactIdFor uuid5 auditEventId) hfinite
  rw [parseMessage_delivered strict
    (sendable_recordedEvent (isBlank_uuid _) (by decide) (by decide))]
  refine (congrArg (· >>= fun _ => _) hcheck).trans ?_
  rfl

end

abbrev Posted := String × String × String × ℤ × String

def LedgerRow.posted (x : LedgerRow) : Posted :=
  (x.entryId, x.accountId, x.direction, x.amountCents, x.currency)

def AccountLedgerEntry.posted (currency : CurrencyCode) (x : AccountLedgerEntry) : Posted :=
  (x.entryId.str, x.accountId.str, x.entryType.text, x.amountMinor, currency.text)

/-- The message is accepted, and its ledger rows are the journal entries. -/
def FansOut (answer : Except PipelineError ParsedMessage) (currency : CurrencyCode)
    (entries : List AccountLedgerEntry) : Prop :=
  ∃ m, answer = .ok m ∧ m.evidence = false ∧
    m.ledgerEntries.map LedgerRow.posted = entries.map (AccountLedgerEntry.posted currency)

/-- The message is accepted as evidence, and the artifact passes the checks, the last of which is
that of its digest. -/
def Verified (mapper : Mapper) (sha256 : String → String)
    (answer : Except PipelineError ParsedMessage) (stored : StoredEvent) : Prop :=
  ∃ m, answer = .ok m ∧ m.evidence = true ∧ m.ledgerEntries = [] ∧
    checkEvidence mapper sha256 stored.eventId stored.schemaVersion stored.payload = .ok ()

section
variable {db db' : Db} {env : Ambient} {r : PostingRequest} {p : JournalPosting}
  {row : AuditOutbox} {e : FinancialEvent} {mapper : Mapper} {sha256 : String → String}
  {postedAt : AwareDateTime} {createdAt now : LocalDateTime} {messageId : Option String}
  {ingestedAt : ℤ}

theorem posted_rows (h : EventOf env r p row e) (fields : EventHeader)
    (currency : fields.currency = e.currencyCode.text) :
    (e.entries.map (ledgerRow fields)).map LedgerRow.posted =
      p.entries.map (AccountLedgerEntry.posted r.currency) := by
  have heq := congrArg (List.map fun x : Uuid × Uuid × Direction × ℤ × CurrencyCode =>
    (x.1.str, x.2.1.str, x.2.2.1.text, x.2.2.2.1, r.currency.text)) (eventEntries_eq h.entries)
  rw [List.map_map, List.map_map] at heq
  rw [List.map_map]
  refine Eq.trans (List.map_congr_left fun x _ => ?_) heq
  simp [ledgerRow, LedgerRow.posted, currency, h.currency]

/-- The pipeline accepts the event of a posting exactly if it can read its time and its
references. -/
theorem fansOut_iff (strict : mapper.Strict) (h : EventOf env r p row e)
    (visible : isBlank r.sourceType = false)
    (bounded : lineTotal .debit (p.entries.map AccountLedgerEntry.line) < 2 ^ 63) :
    FansOut (parseMessage mapper sha256 (delivered (storedRow e postedAt createdAt) now messageId)
        ingestedAt) r.currency p.entries ↔
      Readable postedAt.offset ∧ (Json.obj r.sourceReferences).finite = true := by
  unfold FansOut
  rw [parseMessage_financial strict (recorded_of_posting h visible bounded), h.references]
  by_cases hfinite : (Json.obj r.sourceReferences).finite = true
  · by_cases hreadable : Readable postedAt.offset
    · rw [if_pos hfinite, if_pos hreadable]
      exact ⟨fun _ => ⟨hreadable, hfinite⟩, fun _ => ⟨_, rfl, rfl, posted_rows h _ rfl⟩⟩
    · rw [if_pos hfinite, if_neg hreadable]
      exact ⟨fun ⟨_, hm, _⟩ => (nomatch hm), fun hc => absurd hc.1 hreadable⟩
  · rw [if_neg hfinite]
    exact ⟨fun ⟨_, hm, _⟩ => (nomatch hm), fun hc => absurd hc.2 hfinite⟩

end

/-- Strict JSON. -/
def jsonMapper : Mapper := ⟨Json.parse, Json.dumps⟩

theorem jsonMapper_strict : jsonMapper.Strict where
  reads _ _ h := h
  refuses j h := by
    refine (Json.parse_dumps j).trans (if_neg ?_)
    rw [h]
    decide

def noon : LocalDateTime :=
  ⟨2026, 7, 16, 12, 0, 0, 0, by decide, by decide, by decide, by decide, by decide, by decide,
    by decide⟩

def atOffset (hours : ℤ) (h : (hours * 3600000000).natAbs < 24 * 3600 * 1000000) :
    AwareDateTime :=
  ⟨noon, hours * 3600000000, h⟩

def transfer (references : SourceReferences) : PostingRequest :=
  { transferred with sourceReferences := references }

theorem recorded_of_new {db db' : Db} {env : Ambient} {r : PostingRequest} {p : JournalPosting}
    (h : postFinancialTransaction db env r = .ok (db', p))
    (new : findTransaction db r.idempotencyKey = none) :
    ∃ row ∈ db'.auditOutbox.rows, row ∉ db.auditOutbox.rows := by
  obtain ⟨b, -, ⟨t, ht, hk, -, -⟩ | ⟨-, ha⟩⟩ := postFinancialTransaction_cases h
  · exact absurd hk (findTransaction_eq_none.mp new t ht)
  · obtain ⟨l, e, -, -, -, -, hbox⟩ := ha.event
    refine ⟨_, (Table.mem_insert hbox).mpr (Or.inr rfl), fun hold => ?_⟩
    exact Table.fresh_insert hbox hold (Row.clash_of_key rfl)

def transferTotal (references : SourceReferences) : Option ℤ :=
  (postFinancialTransaction twoAccounts (.seeded 1) (transfer references)).toOption.map
    fun x => lineTotal .debit (x.2.entries.map AccountLedgerEntry.line)

theorem transfer_posts {references : SourceReferences}
    (total : transferTotal references = some 500) :
    ∃ db' p row,
      postFinancialTransaction twoAccounts (.seeded 1) (transfer references) = .ok (db', p) ∧
        row ∈ db'.auditOutbox.rows ∧ row ∉ twoAccounts.auditOutbox.rows ∧
        lineTotal .debit (p.entries.map AccountLedgerEntry.line) < 2 ^ 63 := by
  unfold transferTotal at total
  cases h : postFinancialTransaction twoAccounts (.seeded 1) (transfer references) with
  | error x =>
    rw [h] at total
    cases total
  | ok x =>
    obtain ⟨row, hmem, hnew⟩ := recorded_of_new h rfl
    rw [h] at total
    have htotal : lineTotal .debit (x.2.entries.map AccountLedgerEntry.line) = 500 :=
      Option.some.inj total
    refine ⟨x.1, x.2, row, rfl, hmem, hnew, ?_⟩
    rw [htotal]
    decide

/-- The digest of `{}`. -/
def emptyDigest : String → String := fun _ =>
  "44136fa355b3678a1146ad16f7e8649e94fb4fc21fe77e8310c060f61caaff8a"

def artifactOfSeven : String → Uuid := fun _ => .ofNat 328050175363079583370484045399931342993

/-- The transfer is posted and its event does not reach the ledger. -/
def Refused (references : SourceReferences) (postedAt : AwareDateTime) : Prop :=
  ∃ db' p row stored,
    postFinancialTransaction twoAccounts (.seeded 1) (transfer references) = .ok (db', p) ∧
      row ∈ db'.auditOutbox.rows ∧ row.stored postedAt noon = some stored ∧
      ¬ FansOut (parseMessage jsonMapper emptyDigest (delivered stored noon none) 0) .usd p.entries

theorem refused_of_unreadable {references : SourceReferences} {postedAt : AwareDateTime}
    (total : transferTotal references = some 500)
    (h : ¬ (Readable postedAt.offset ∧ (Json.obj references).finite = true)) :
    Refused references postedAt := by
  obtain ⟨db', p, row, hpost, hmem, hnew, hbounded⟩ := transfer_posts total
  obtain ⟨e, he⟩ := event_of_posting hpost hmem hnew
  refine ⟨db', p, row, _, hpost, hmem, stored_of_posting he, fun hfans => h ?_⟩
  exact (fansOut_iff jsonMapper_strict he (by decide : isBlank "TEST" = false) hbounded).mp hfans

end BankingService.PipelineContract
