import BankingService.AuditPipeline

/-! The step of the pipeline that parses a message. Its output is one row with the ledger rows of a
balanced event, or one dead letter. -/
namespace AuditIcebergPipeline

open Checked

/-- A message as it is read from the subscription. -/
structure RawMessage where
  payload : List UInt8
  attributes : List (String × String)
  messageId : Option String
  deriving DecidableEq

/-- What the libraries do: the text in the bytes of a payload, and what an exception says about a
payload that a library does not read. -/
structure Libraries extends Mapper where
  decode : List UInt8 → Option String
  sha256 : String → String
  getMessage : List UInt8 → PipelineError → Option String

/-- `getClass().getSimpleName()`. -/
def PipelineError.simpleName : PipelineError → String
  | illegalArgument _ => "IllegalArgumentException"
  | jsonProcessing => "JsonParseException"
  | dateTimeParse => "DateTimeParseException"
  | arithmetic => "ArithmeticException"

def base64UrlChar (n : ℕ) : Char :=
  "ABCDEFGHIJKLMNOPQRSTUVWXYZabcdefghijklmnopqrstuvwxyz0123456789-_".toList.getD n 'A'

/-- `Base64.getUrlEncoder().withoutPadding()`. -/
def base64Url : List UInt8 → List Char
  | [] => []
  | [a] =>
    let n := a.toNat * 2 ^ 4
    [n / 2 ^ 6, n % 2 ^ 6].map base64UrlChar
  | [a, b] =>
    let n := (a.toNat * 2 ^ 8 + b.toNat) * 2 ^ 2
    [n / 2 ^ 12, n / 2 ^ 6 % 2 ^ 6, n % 2 ^ 6].map base64UrlChar
  | a :: b :: c :: bytes =>
    let n := (a.toNat * 2 ^ 8 + b.toNat) * 2 ^ 8 + c.toNat
    [n / 2 ^ 18, n / 2 ^ 12 % 2 ^ 6, n / 2 ^ 6 % 2 ^ 6, n % 2 ^ 6].map base64UrlChar ++
      base64Url bytes

/-- `Map.put`. -/
def put (attributes : List (String × String)) (key value : String) : List (String × String) :=
  attributes.filter (fun x => x.1 ≠ key) ++ [(key, value)]

/-- The characters that fit into `n` UTF-16 units. -/
def firstUnits : ℕ → List Char → List Char
  | _, [] => []
  | n, c :: cs =>
    let units := if c.toNat < 0x10000 then 1 else 2
    if units ≤ n then c :: firstUnits (n - units) cs else []

section
variable (libs : Libraries)

def detail (payload : List UInt8) (error : PipelineError) : String :=
  match error with
  | .illegalArgument message => message
  | error => (libs.getMessage payload error).getD error.simpleName

def deadLetterMessage (message : RawMessage) (error : PipelineError) : RawMessage where
  payload := message.payload
  attributes :=
    put (put message.attributes "dlq_error"
      (String.ofList (firstUnits 512 (detail libs message.payload error).toList)))
      "dlq_stage" "validate-envelope-v1"
  messageId :=
    match message.messageId with
    | some messageId =>
      if isBlank messageId then
        some ("dlq-" ++ String.ofList (base64Url (message.payload.take 18)))
      else some messageId
    | none => some ("dlq-" ++ String.ofList (base64Url (message.payload.take 18)))

inductive Output where
  | audit (row : AuditRow)
  | evidence (row : AuditRow)
  | ledger (row : LedgerRow)
  | deadLetter (message : RawMessage)
  deriving DecidableEq

/-- What was written stays written when the computation throws. -/
abbrev Emitting := ExceptT PipelineError (StateM (List Output))

def output (row : Output) : Emitting Unit := modifyGet fun written => ((), written ++ [row])

def parse (message : RawMessage) (ingestedAt : ℤ) : Except PipelineError ParsedMessage := do
  let payload ← orRaise (libs.decode message.payload) .jsonProcessing
  parseMessage libs.toMapper libs.sha256 ⟨payload, message.attributes, message.messageId⟩ ingestedAt

def process (message : RawMessage) (now : ℤ) : Emitting Unit :=
  tryCatch
    (do
      let parsed ← liftExcept (parse libs message now)
      output (if parsed.evidence then .evidence parsed.audit else .audit parsed.audit)
      parsed.ledgerEntries.forM fun row => output (.ledger row))
    fun error => output (.deadLetter (deadLetterMessage libs message error))

def written (message : RawMessage) (now : ℤ) : List Output :=
  ((process libs message now).run []).2

end

def total (direction : String) (rows : List LedgerRow) : ℤ :=
  ((rows.filter fun row => row.direction = direction).map (·.amountCents)).sum

/-- The amount is read as the version of the event says. -/
def Amount (header : EventHeader) (entry : Json) (amount : ℤ) : Prop :=
  if header.schemaVersion = 1 then entry.get "amount_cents" = some (.int amount)
  else ∃ money, entry.get "money" = some money ∧ money.get "amount_minor" = some (.int amount) ∧
    (header.schemaVersion = 2 → money.get "currency_code" = some (.str header.currency))

structure RowOf (header : EventHeader) (entry : Json) (row : LedgerRow) : Prop where
  entryId : entry.get "entry_id" = some (.str row.entryId)
  accountId : entry.get "account_id" = some (.str row.accountId)
  direction : ∃ direction, entry.get "direction" = some (.str direction) ∧
    row.direction = upperCase direction
  amount : Amount header entry row.amountCents
  side : row.direction = "DEBIT" ∨ row.direction = "CREDIT"
  positive : 0 < row.amountCents
  shared : row.eventId = header.eventId ∧ row.transactionId = header.transactionId ∧
    row.currency = header.currency ∧ row.sourceType = header.sourceType

/-- What the loop has read. The sums are those of the integers, and each fits into 64 bits. -/
structure EntriesRead (header : EventHeader) (entries : List Json) (totals : Totals) : Prop where
  shown : List.Forall₂ (RowOf header) entries totals.ledger
  entryIds : totals.entryIds = (totals.ledger.map (·.entryId)).reverse
  distinct : totals.entryIds.Nodup
  debits : totals.debits = total "DEBIT" totals.ledger
  credits : totals.credits = total "CREDIT" totals.ledger
  debitsFit : CanConvertToLong totals.debits
  creditsFit : CanConvertToLong totals.credits

/-- The rows of a financial event: one for each entry, and balanced. -/
structure FannedOut (header : EventHeader) (entries : List Json) (rows : List LedgerRow) :
    Prop where
  shown : List.Forall₂ (RowOf header) entries rows
  distinct : (rows.map (·.entryId)).Nodup
  balanced : total "DEBIT" rows = total "CREDIT" rows
  fits : CanConvertToLong (total "DEBIT" rows)

section
variable {node : Json} {field s : String} {n : ℤ}

theorem requiredText_get (h : requiredText node field = .ok s) :
    node.get field = some (.str s) := by
  unfold requiredText at h
  split at h
  · next t ht =>
    split at h
    · cases h
    · cases h
      exact ht
  · cases h

theorem requiredLong_get (h : requiredLong node field = .ok n) :
    node.get field = some (.int n) := by
  unfold requiredLong at h
  split at h
  · next m hm =>
    split at h
    · cases h
      exact hm
    · cases h
  · cases h

end

section
variable {header : EventHeader} {totals totals' : Totals} {entry : Json} {entries : List Json}

theorem addExact_eq_ok {a b c : ℤ} (h : addExact a b = .ok c) : c = a + b ∧ CanConvertToLong c := by
  simp only [addExact, bind_eq_ok, require_eq_ok, pure_eq_ok] at h
  obtain ⟨-, hfits, rfl⟩ := h
  exact ⟨rfl, hfits⟩

theorem total_concat {direction : String} {rows : List LedgerRow} {row : LedgerRow} :
    total direction (rows ++ [row]) =
      total direction rows + if row.direction = direction then row.amountCents else 0 := by
  unfold total
  rw [List.filter_append, List.map_append, List.sum_append]
  by_cases hrow : row.direction = direction
  · simp [hrow]
  · simp [hrow]

theorem add_sums {direction : String} {amount debits credits : ℤ}
    (h : totals.add direction amount = .ok (debits, credits))
    (side : direction = "DEBIT" ∨ direction = "CREDIT")
    (debitsFit : CanConvertToLong totals.debits) (creditsFit : CanConvertToLong totals.credits) :
    (debits = totals.debits + (if direction = "DEBIT" then amount else 0) ∧
      CanConvertToLong debits) ∧
    (credits = totals.credits + (if direction = "CREDIT" then amount else 0) ∧
      CanConvertToLong credits) := by
  unfold Totals.add at h
  split at h
  · next hdebit =>
    subst hdebit
    simp only [bind_eq_ok, pure_eq_ok, Prod.mk.injEq] at h
    obtain ⟨sum, hsum, rfl, rfl⟩ := h
    exact ⟨addExact_eq_ok hsum, by simp, creditsFit⟩
  · next hdebit =>
    obtain rfl := side.resolve_left hdebit
    simp only [bind_eq_ok, pure_eq_ok, Prod.mk.injEq] at h
    obtain ⟨sum, hsum, rfl, rfl⟩ := h
    exact ⟨⟨by simp, debitsFit⟩, addExact_eq_ok hsum⟩

theorem amount_read {amount : ℤ}
    (hamount : requiredLong
      (if header.schemaVersion = 1 then entry else (entry.get "money").getD .null)
      (if header.schemaVersion = 1 then "amount_cents" else "amount_minor") = .ok amount)
    (hcurrency : header.schemaVersion = 2 →
      requiredText (if header.schemaVersion = 1 then entry else (entry.get "money").getD .null)
        "currency_code" = .ok header.currency) :
    Amount header entry amount := by
  unfold Amount
  split
  · next hone =>
    rw [if_pos hone, if_pos hone] at hamount
    exact requiredLong_get hamount
  · next hone =>
    rw [if_neg hone, if_neg hone] at hamount
    rw [if_neg hone] at hcurrency
    have hminor := requiredLong_get hamount
    cases hmoney : entry.get "money" with
    | none =>
      rw [hmoney] at hminor
      cases hminor
    | some money =>
      rw [hmoney] at hminor hcurrency
      exact ⟨money, rfl, hminor, fun htwo => requiredText_get (hcurrency htwo)⟩

theorem parseEntry_row (h : parseEntry header totals entry = .ok totals') :
    ∃ row, RowOf header entry row ∧ row.entryId ∉ totals.entryIds ∧
      totals.add row.direction row.amountCents = .ok (totals'.debits, totals'.credits) ∧
      totals'.entryIds = row.entryId :: totals.entryIds ∧
      totals'.ledger = totals.ledger ++ [row] := by
  simp only [AuditIcebergPipeline.parseEntry, bind_eq_ok, require_eq_ok] at h
  obtain ⟨entryId, hid, -, hnew, direction, hdirection, amount, hamount, h⟩ := h
  -- The currency of the entry is looked at in version 2 only.
  have hchecked : ∃ sums accountId, (header.schemaVersion = 2 →
        requiredText (if header.schemaVersion = 1 then entry else (entry.get "money").getD .null)
          "currency_code" = .ok header.currency) ∧
      (0 < amount ∧ (upperCase direction = "DEBIT" ∨ upperCase direction = "CREDIT")) ∧
      totals.add (upperCase direction) amount = .ok sums ∧
      requiredText entry "account_id" = .ok accountId ∧
      totals' = ⟨sums.1, sums.2, entryId :: totals.entryIds, totals.ledger ++
        [⟨entryId, header.eventId, header.transactionId, accountId, upperCase direction, amount,
          header.currency, header.sourceType, header.sourceReferences, header.postedAt,
          header.sourceCreatedAt, header.publishedAt, header.ingestedAt⟩]⟩ := by
    split at h
    · simp only [bind_eq_ok, require_eq_ok, pure_eq_ok] at h
      obtain ⟨currency, hcurrency, -, hsame, -, hside, sums, hadd, accountId, haccount, rfl⟩ := h
      exact ⟨sums, accountId, fun _ => hsame.1 ▸ hcurrency, hside, hadd, haccount, rfl⟩
    · next htwo =>
      simp only [bind_eq_ok, require_eq_ok, pure_eq_ok] at h
      obtain ⟨-, hside, sums, hadd, accountId, haccount, rfl⟩ := h
      exact ⟨sums, accountId, fun h => absurd h htwo, hside, hadd, haccount, rfl⟩
  obtain ⟨sums, accountId, hcurrency, ⟨hpositive, hside⟩, hadd, haccount, rfl⟩ := hchecked
  refine ⟨_, ⟨?_, ?_, ?_, ?_, ?_, ?_, ?_⟩, hnew, hadd, rfl, rfl⟩
  · exact requiredText_get hid
  · exact requiredText_get haccount
  · exact ⟨direction, requiredText_get hdirection, rfl⟩
  · exact amount_read hamount hcurrency
  · exact hside
  · exact hpositive
  · exact ⟨rfl, rfl, rfl, rfl⟩

theorem EntriesRead.parseEntry (h : EntriesRead header entries totals)
    (hentry : parseEntry header totals entry = .ok totals') :
    EntriesRead header (entries ++ [entry]) totals' := by
  obtain ⟨row, hrow, hnew, hadd, hids, hledger⟩ := parseEntry_row hentry
  obtain ⟨⟨hdebits, hdebitsFit⟩, hcredits, hcreditsFit⟩ :=
    add_sums hadd hrow.side h.debitsFit h.creditsFit
  constructor
  · rw [hledger]
    exact List.rel_append h.shown (.cons hrow .nil)
  · rw [hids, hledger, h.entryIds, List.map_append, List.reverse_append]
    rfl
  · rw [hids]
    exact List.nodup_cons.mpr ⟨hnew, h.distinct⟩
  · rw [hledger, total_concat, hdebits, h.debits]
  · rw [hledger, total_concat, hcredits, h.credits]
  · exact hdebitsFit
  · exact hcreditsFit

theorem EntriesRead.foldlM {done : List Json} (h : EntriesRead header done totals)
    (hloop : entries.foldlM (AuditIcebergPipeline.parseEntry header) totals = .ok totals') :
    EntriesRead header (done ++ entries) totals' := by
  induction entries generalizing done totals with
  | nil =>
    rw [List.foldlM_nil, pure_eq_ok] at hloop
    rw [← hloop, List.append_nil]
    exact h
  | cons entry entries ih =>
    rw [List.foldlM_cons, bind_eq_ok] at hloop
    obtain ⟨next, hentry, hrest⟩ := hloop
    rw [← List.singleton_append, ← List.append_assoc]
    exact ih (h.parseEntry hentry) hrest

theorem entriesRead_start : EntriesRead header [] ⟨0, 0, [], []⟩ where
  shown := .nil
  entryIds := rfl
  distinct := List.nodup_nil
  debits := rfl
  credits := rfl
  debitsFit := by decide
  creditsFit := by decide

theorem fanOut_ok {document : Option Json} {rows : List LedgerRow}
    (h : fanOut header document = .ok rows) :
    ∃ entries, document = some (.arr entries) ∧ entries ≠ [] ∧ FannedOut header entries rows := by
  unfold fanOut at h
  split at h
  · next entry entries =>
    simp only [bind_eq_ok, require_eq_ok, pure_eq_ok] at h
    obtain ⟨totals, hloop, -, hbalanced, rfl⟩ := h
    have hread : EntriesRead header (entry :: entries) totals := entriesRead_start.foldlM hloop
    refine ⟨entry :: entries, rfl, List.cons_ne_nil _ _, hread.shown, ?_, ?_, ?_⟩
    · rw [← List.nodup_reverse, ← hread.entryIds]
      exact hread.distinct
    · rw [← hread.debits, ← hread.credits]
      exact hbalanced
    · rw [← hread.debits]
      exact hread.debitsFit
  · cases h

end

/-- The digest that an artifact states is that of its snapshot. -/
def Digested (libs : Libraries) (payload : String) : Prop :=
  ∃ artifact snapshot, libs.readTree payload = some artifact ∧
    artifact.get "snapshot_json" = some (.str snapshot) ∧
    artifact.get "snapshot_digest" = some (.str (libs.sha256 snapshot))

def Financial (libs : Libraries) (row : AuditRow) (rows : List LedgerRow) : Prop :=
  ∃ document header entries, libs.readTree row.payload = some document ∧
    document.get "entries" = some (.arr entries) ∧ entries ≠ [] ∧
    header.eventId = row.eventId ∧ header.schemaVersion = row.schemaVersion ∧
    FannedOut header entries rows

/-- What `parseMessage` accepts. -/
structure Accepted (libs : Libraries) (message : RawMessage) (parsed : ParsedMessage) : Prop where
  envelope : ∃ payload envelope, libs.decode message.payload = some payload ∧
    libs.readTree payload = some envelope ∧
    envelope.get "event_id" = some (.str parsed.audit.eventId) ∧
    envelope.get "event_type" = some (.str parsed.audit.eventType) ∧
    envelope.get "schema_version" = some (.int parsed.audit.schemaVersion) ∧
    envelope.get "payload" = some (.str parsed.audit.payload)
  evidence : parsed.evidence = true ↔ parsed.audit.eventType = "PROPOSAL_EVIDENCE_SNAPSHOT"
  digest : parsed.evidence = true → Digested libs parsed.audit.payload
  financial : parsed.audit.eventType = "FINANCIAL_TRANSACTION_POSTED" →
    Financial libs parsed.audit parsed.ledgerEntries
  other : parsed.audit.eventType ≠ "FINANCIAL_TRANSACTION_POSTED" → parsed.ledgerEntries = []

section
variable {libs : Libraries} {eventId payload : String} {version createdAt publishedAt now : ℤ}

theorem checkEvidence_digested
    (h : checkEvidence libs.toMapper libs.sha256 eventId version payload = .ok ()) :
    Digested libs payload := by
  simp only [checkEvidence, bind_eq_ok, require_eq_ok, orRaise_eq_ok] at h
  obtain ⟨artifact, hread, -, -, _, -, -, -, _, -, -, -, _, -, snapshot, hsnapshot, _, -, -, -,
    digest, hdigest, hsame⟩ := h
  refine ⟨artifact, snapshot, hread, requiredText_get hsnapshot, ?_⟩
  rw [hsame]
  exact requiredText_get hdigest

theorem parseFinancial_fannedOut {rows : List LedgerRow}
    (h : parseFinancial libs.toMapper eventId version payload createdAt publishedAt now =
      .ok rows) :
    ∃ document header entries, libs.readTree payload = some document ∧
      document.get "entries" = some (.arr entries) ∧ entries ≠ [] ∧
      header.eventId = eventId ∧ header.schemaVersion = version ∧
      FannedOut header entries rows := by
  simp only [parseFinancial, bind_eq_ok, require_eq_ok, orRaise_eq_ok] at h
  obtain ⟨document, hread, _, -, -, -, _, -, -, -, _, -, _, -, _, -, _, -, h⟩ := h
  obtain ⟨entries, hentries, hne, hrows⟩ := fanOut_ok h
  exact ⟨document, _, entries, hread, hentries, hne, rfl, rfl, hrows⟩

theorem parse_accepted {message : RawMessage} {parsed : ParsedMessage}
    (h : parse libs message now = .ok parsed) : Accepted libs message parsed := by
  simp only [parse, parseMessage, bind_eq_ok, require_eq_ok, orRaise_eq_ok] at h
  obtain ⟨text, hdecode, envelope, hread, eventId, hid, eventType, htype, version, hversion, -, -,
    payload, hpayload, created, -, createdAt, -, published, -, publishedAt, -, h⟩ := h
  obtain ⟨hevidence, ledger, hfinancial, hother, rfl⟩ : (eventType = "PROPOSAL_EVIDENCE_SNAPSHOT" →
        checkEvidence libs.toMapper libs.sha256 eventId version payload = .ok ()) ∧
      ∃ ledger, (eventType = "FINANCIAL_TRANSACTION_POSTED" →
        parseFinancial libs.toMapper eventId version payload createdAt publishedAt now =
          .ok ledger) ∧
      (eventType ≠ "FINANCIAL_TRANSACTION_POSTED" → ledger = []) ∧
      parsed = ⟨⟨eventId, eventType, version, payload, createdAt, publishedAt, now,
        message.messageId, attributesText libs.toMapper ⟨text, message.attributes,
          message.messageId⟩⟩, ledger, eventType == "PROPOSAL_EVIDENCE_SNAPSHOT"⟩ := by
    split at h
    · next hsnapshot =>
      subst hsnapshot
      simp only [bind_eq_ok, if_neg (show "PROPOSAL_EVIDENCE_SNAPSHOT" ≠
        "FINANCIAL_TRANSACTION_POSTED" by decide), pure_eq_ok] at h
      obtain ⟨_, hchecked, ledger, rfl, rfl⟩ := h
      exact ⟨fun _ => hchecked, [], fun h => absurd h (by decide), fun _ => rfl, rfl⟩
    · next hsnapshot =>
      refine ⟨fun h => absurd h hsnapshot, ?_⟩
      split at h
      · next hposted =>
        simp only [bind_eq_ok, pure_eq_ok] at h
        obtain ⟨ledger, hledger, rfl⟩ := h
        exact ⟨ledger, fun _ => hledger, fun h => absurd hposted h, rfl⟩
      · next hposted =>
        simp only [bind_eq_ok, pure_eq_ok] at h
        obtain ⟨ledger, rfl, rfl⟩ := h
        exact ⟨[], fun h => absurd h hposted, fun _ => rfl, rfl⟩
  constructor
  · exact ⟨text, envelope, hdecode, hread, requiredText_get hid, requiredText_get htype,
      requiredLong_get hversion, requiredText_get hpayload⟩
  · exact beq_iff_eq
  · intro h
    exact checkEvidence_digested (hevidence (beq_iff_eq.mp h))
  · intro h
    exact parseFinancial_fannedOut (hfinancial h)
  · exact hother

end

section
variable {libs : Libraries} {message : RawMessage} {now : ℤ}

theorem forM_output {rows : List LedgerRow} {before : List Output} :
    (rows.forM fun row => output (.ledger row)).run before =
      (.ok (), before ++ rows.map .ledger) := by
  induction rows generalizing before with
  | nil =>
    rw [List.map_nil, List.append_nil]
    rfl
  | cons row rows ih =>
    rw [List.map_cons, List.append_cons]
    exact ih

theorem tryCatch_ok {body : Emitting Unit} {handler : PipelineError → Emitting Unit}
    {before after : List Output} (h : body.run before = (.ok (), after)) :
    (tryCatch body handler).run before = (.ok (), after) := by
  have hbody : body before = (.ok (), after) := h
  simp only [tryCatch, tryCatchThe, MonadExceptOf.tryCatch, ExceptT.tryCatch,
    ExceptT.run, ExceptT.mk,
    bind, StateT.bind, hbody]
  rfl

theorem written_ok {parsed : ParsedMessage} (h : parse libs message now = .ok parsed) :
    written libs message now =
      (if parsed.evidence then .evidence parsed.audit else .audit parsed.audit) ::
        parsed.ledgerEntries.map .ledger := by
  rw [written, process, h]
  exact congrArg Prod.snd (tryCatch_ok (@forM_output parsed.ledgerEntries [_]))

theorem written_error {e : PipelineError} (h : parse libs message now = .error e) :
    written libs message now = [.deadLetter (deadLetterMessage libs message e)] := by
  rw [written, process, h]
  rfl

/-- All or nothing: a message is written as one row with the ledger rows of its entries, or as one
dead letter. -/
theorem written_all_or_nothing (libs : Libraries) (message : RawMessage) (now : ℤ) :
    (∃ parsed, parse libs message now = .ok parsed ∧ Accepted libs message parsed ∧
      written libs message now =
        (if parsed.evidence then .evidence parsed.audit else .audit parsed.audit) ::
          parsed.ledgerEntries.map .ledger) ∨
    ∃ e, parse libs message now = .error e ∧
      written libs message now = [.deadLetter (deadLetterMessage libs message e)] := by
  rcases ok_or_error (parse libs message now) with ⟨parsed, h⟩ | ⟨e, h⟩
  · left
    exact ⟨parsed, h, parse_accepted h, written_ok h⟩
  · right
    exact ⟨e, h, written_error h⟩

end

def snapshotText : String := (Json.obj [("proposal_id", .str "proposal-1")]).dumps

/-- `sha256` gives the digest of that snapshot. -/
def messageLibraries : Libraries where
  readTree := Json.parse
  writeValueAsString := Json.dumps
  decode bytes := String.fromUTF8? ⟨bytes.toArray⟩
  sha256 _ := "c5f64a0dc8c3f1c241ad8dc8b3479b4d090a5dd25f7e017620da353f712d461e"
  getMessage _ _ := none

def entryDocument (entryId accountId direction : String) : Json :=
  .obj [("entry_id", .str entryId), ("account_id", .str accountId), ("direction", .str direction),
    ("money", .obj [("amount_minor", .int 500), ("currency_code", .str "USD")])]

def purchaseFields : List (String × Json) :=
  [("event_id", .str "event-1"), ("transaction_id", .str "transaction-1"),
    ("schema_version", .int 2), ("currency_code", .str "USD"), ("source_type", .str "CARD_NETWORK"),
    ("posted_at", .str "2026-03-01T12:00:00+00:00"),
    ("entries", .arr [entryDocument "entry-1" "account-1" "DEBIT",
      entryDocument "entry-2" "account-2" "CREDIT"])]

def artifactDocument : List (String × Json) :=
  [("evidence_contract", .str "proposal-evidence.v1"), ("artifact_id", .str "event-2"),
    ("audit_event_id", .str "event-1"), ("snapshot_json", .str snapshotText),
    ("snapshot_digest", .str (messageLibraries.sha256 snapshotText))]

def envelopeDocument (eventId eventType : String) (version : ℤ) (payload : String) :
    List (String × Json) :=
  [("event_id", .str eventId), ("event_type", .str eventType), ("schema_version", .int version),
    ("payload", .str payload), ("created_at", .str "2026-03-01T12:00:00Z"),
    ("published_at", .str "2026-03-01T12:00:05Z")]

def messageOf (eventId eventType : String) (version : ℤ) (payload : List (String × Json)) :
    RawMessage where
  payload := Python.utf8
    (Json.obj (envelopeDocument eventId eventType version (Json.obj payload).dumps)).dumps
  attributes := [("event_id", eventId)]
  messageId := some "1"

def purchaseMessage : RawMessage :=
  messageOf "event-1" "FINANCIAL_TRANSACTION_POSTED" 2 purchaseFields

def artifactMessage : RawMessage :=
  messageOf "event-2" "PROPOSAL_EVIDENCE_SNAPSHOT" 1 artifactDocument

theorem readTree_obj {fields : List (String × Json)} (finite : (Json.obj fields).finite = true) :
    messageLibraries.readTree (Json.obj fields).dumps = some (Json.obj fields).sorted :=
  (Json.parse_dumps _).trans (if_pos finite)

def auditOf (eventId eventType : String) (version : ℤ) (payload : List (String × Json)) :
    AuditRow :=
  { eventId, eventType, schemaVersion := version, payload := (Json.obj payload).dumps
    sourceCreatedAt := 1772366400000, publishedAt := 1772366405000, ingestedAt := 0
    transportMessageId := some "1"
    transportAttributes := (Json.obj [("event_id", .str eventId)]).dumps }

theorem parse_messageOf {eventId eventType : String} {version : ℤ} {payload : List (String × Json)}
    (hid : isBlank eventId = false) (htype : isBlank eventType = false) (hversion : 1 ≤ version)
    (hlong : CanConvertToLong version) :
    parse messageLibraries (messageOf eventId eventType version payload) 0 = (do
      if eventType = "PROPOSAL_EVIDENCE_SNAPSHOT" then
        checkEvidence messageLibraries.toMapper messageLibraries.sha256 eventId version
          (Json.obj payload).dumps
      let ledger ←
        if eventType = "FINANCIAL_TRANSACTION_POSTED" then
          parseFinancial messageLibraries.toMapper eventId version (Json.obj payload).dumps
            1772366400000 1772366405000 0
        else pure []
      return ⟨auditOf eventId eventType version payload, ledger,
        eventType == "PROPOSAL_EVIDENCE_SNAPSHOT"⟩) := by
  have hdistinct : ((envelopeDocument eventId eventType version (Json.obj payload).dumps).map
      Prod.fst).Nodup := by
    simp [envelopeDocument]
  have hdecode : ∀ text, messageLibraries.decode (Python.utf8 text) = some text :=
    Python.decode_utf8
  have hread : messageLibraries.readTree (Json.obj (envelopeDocument eventId eventType version
      (Json.obj payload).dumps)).dumps = _ := readTree_obj rfl
  have hcreated : parseTimestamp "2026-03-01T12:00:00Z" = .ok 1772366400000 := by decide +kernel
  have hpublished : parseTimestamp "2026-03-01T12:00:05Z" = .ok 1772366405000 := by decide +kernel
  have htext : ∀ name s, (name, Json.str s) ∈ envelopeDocument eventId eventType version
      (Json.obj payload).dumps → isBlank s = false → requiredText (Json.obj (envelopeDocument
        eventId eventType version (Json.obj payload).dumps)).sorted name = .ok s :=
    fun _ _ hmem hvisible => requiredText_document hdistinct hmem hvisible
  have hnumber : requiredLong (Json.obj (envelopeDocument eventId eventType version
      (Json.obj payload).dumps)).sorted "schema_version" = .ok version :=
    requiredLong_document hdistinct (by simp [envelopeDocument]) hlong
  have heventId := htext "event_id" eventId (by simp [envelopeDocument]) hid
  have heventType := htext "event_type" eventType (by simp [envelopeDocument]) htype
  have hpayload := htext "payload" _ (by simp [envelopeDocument]) (isBlank_dumps payload)
  have hcreatedAt := htext "created_at" "2026-03-01T12:00:00Z" (by simp [envelopeDocument])
    (by decide +kernel)
  have hpublishedAt :=
    htext "published_at" "2026-03-01T12:00:05Z" (by simp [envelopeDocument]) (by decide +kernel)
  simp only [parse, messageOf, hdecode, orRaise, ok_bind, parseMessage, hread, heventId, heventType,
    hnumber, hpayload, require_of hversion, hcreatedAt, hcreated, hpublishedAt, hpublished]
  rfl

theorem purchase_parsed : ∃ parsed, parse messageLibraries purchaseMessage 0 = .ok parsed ∧
    parsed.evidence = false ∧ parsed.ledgerEntries.length = 2 := by
  have hread : messageLibraries.readTree (Json.obj purchaseFields).dumps = _ := readTree_obj rfl
  have hrows : ((parseFinancial ⟨fun _ => some (Json.obj purchaseFields).sorted, Json.dumps⟩
      "event-1" 2 "" 1772366400000 1772366405000 0).toOption.map List.length) = some 2 := by
    decide +kernel
  have hsame : parseFinancial messageLibraries.toMapper "event-1" 2 (Json.obj purchaseFields).dumps
      1772366400000 1772366405000 0 =
      parseFinancial ⟨fun _ => some (Json.obj purchaseFields).sorted, Json.dumps⟩ "event-1" 2 ""
        1772366400000 1772366405000 0 := by
    simp only [parseFinancial, hread]
    rfl
  rw [purchaseMessage,
    parse_messageOf (by decide +kernel) (by decide +kernel) (by decide) (by decide),
    if_neg (by decide), if_pos rfl, hsame]
  rcases ok_or_error (parseFinancial ⟨fun _ => some (Json.obj purchaseFields).sorted, Json.dumps⟩
      "event-1" 2 "" 1772366400000 1772366405000 0) with ⟨rows, hok⟩ | ⟨e, hok⟩
  · rw [hok] at hrows ⊢
    exact ⟨_, rfl, rfl, Option.some.inj hrows⟩
  · rw [hok] at hrows
    cases hrows

theorem artifact_parsed : ∃ parsed, parse messageLibraries artifactMessage 0 = .ok parsed ∧
    parsed.evidence = true ∧ parsed.ledgerEntries = [] := by
  have hread : messageLibraries.readTree (Json.obj artifactDocument).dumps = _ := readTree_obj rfl
  have hsnapshot : messageLibraries.readTree snapshotText = _ := readTree_obj rfl
  have hchecked : checkEvidence messageLibraries.toMapper messageLibraries.sha256 "event-2" 1
      (Json.obj artifactDocument).dumps = .ok () := by
    have hdistinct : (artifactDocument.map Prod.fst).Nodup := by simp [artifactDocument]
    have htext : ∀ name s, (name, Json.str s) ∈ artifactDocument → isBlank s = false →
        requiredText (Json.obj artifactDocument).sorted name = .ok s :=
      fun _ _ hmem hvisible => requiredText_document hdistinct hmem hvisible
    have hcontract := htext "evidence_contract" "proposal-evidence.v1" (by simp [artifactDocument])
      (by decide +kernel)
    have hid := htext "artifact_id" "event-2" (by simp [artifactDocument]) (by decide +kernel)
    have hevent := htext "audit_event_id" "event-1" (by simp [artifactDocument]) (by decide +kernel)
    have htake := htext "snapshot_json" snapshotText (by simp [artifactDocument]) (isBlank_dumps _)
    have hdigest := htext "snapshot_digest" (messageLibraries.sha256 snapshotText)
      (by simp [artifactDocument]) (by decide +kernel)
    have hobject : isObject (Json.obj [("proposal_id", .str "proposal-1")]).sorted = true := rfl
    rw [checkEvidence, hread, orRaise, ok_bind, require_of rfl, ok_bind, hcontract, ok_bind,
      require_of rfl, ok_bind, hid, ok_bind, require_of rfl, ok_bind, hevent, ok_bind, htake, ok_bind,
      hsnapshot, orRaise, ok_bind, require_of hobject, ok_bind, hdigest, ok_bind, require_of rfl]
  rw [artifactMessage, parse_messageOf (by decide +kernel) (by decide +kernel) le_rfl (by decide),
    if_pos rfl, if_neg (by decide), hchecked]
  exact ⟨_, rfl, rfl, rfl⟩

theorem purchase_and_artifact_written :
    (∃ parsed, Accepted messageLibraries purchaseMessage parsed ∧ parsed.ledgerEntries.length = 2 ∧
      written messageLibraries purchaseMessage 0 =
        .audit parsed.audit :: parsed.ledgerEntries.map .ledger) ∧
    ∃ parsed, Accepted messageLibraries artifactMessage parsed ∧
      written messageLibraries artifactMessage 0 = [.evidence parsed.audit] := by
  have haccepted : ∀ {message parsed}, parse messageLibraries message 0 = .ok parsed →
      Accepted messageLibraries message parsed ∧ written messageLibraries message 0 =
        (if parsed.evidence then .evidence parsed.audit else .audit parsed.audit) ::
          parsed.ledgerEntries.map .ledger := by
    intro message parsed hparsed
    rcases written_all_or_nothing messageLibraries message 0 with
      ⟨accepted, h, hsound, hwritten⟩ | ⟨e, he, -⟩
    · obtain rfl := Except.ok.inj (hparsed.symm.trans h)
      exact ⟨hsound, hwritten⟩
    · rw [hparsed] at he
      cases he
  constructor
  · obtain ⟨parsed, hparsed, hevidence, hlength⟩ := purchase_parsed
    obtain ⟨hsound, hwritten⟩ := haccepted hparsed
    refine ⟨parsed, hsound, hlength, ?_⟩
    rw [hwritten, hevidence]
    rfl
  · obtain ⟨parsed, hparsed, hevidence, hledger⟩ := artifact_parsed
    obtain ⟨hsound, hwritten⟩ := haccepted hparsed
    refine ⟨parsed, hsound, ?_⟩
    rw [hwritten, hevidence, hledger]
    rfl

end AuditIcebergPipeline
