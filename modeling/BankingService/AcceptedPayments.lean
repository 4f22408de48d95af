import BankingService.Accounts

/-! When a bill payment is accepted: its values are drawn afresh, the accounts have the money and
every amount that it reports is one that money can have. -/
namespace BankingService

open Python Relational Checked ClampedCache

def paymentDraws (env : Ambient) : List Uuid :=
  [(env.part 0).uuid4 0, (env.part 1).uuid4 0, (env.part 1).uuid4 1, (env.part 1).uuid4 2,
    (env.part 1).uuid4 3, (env.part 2).uuid4 0, (env.part 3).uuid4 0]

structure Unused (db : Db) (u : Uuid) : Prop where
  account : ∀ a ∈ db.accounts.rows, a.id ≠ u
  transaction : ∀ t ∈ db.transactions.rows, t.id ≠ u
  entry : ∀ e ∈ db.ledgerEntries.rows, e.entryId ≠ u
  posted : ∀ p ∈ db.postedTransactions.rows, p.id ≠ u ∧ p.journalTransactionId ≠ some u
  event : ∀ x ∈ db.auditOutbox.rows, x.eventId ≠ u.str

structure FreshDraws (db : Db) (env : Ambient) : Prop where
  distinct : (paymentDraws env).Nodup
  unused : ∀ u ∈ paymentDraws env, Unused db u

/-- The columns of an account that a payment does not write. -/
def Account.identity (a : Account) : Uuid × String × Option Uuid × CurrencyCode :=
  (a.id, a.accountNumber, a.creditAccountId, a.currency)

/-- The rows after a payment: those that were there, and rows under drawn values. -/
structure Grown (drawn : List Uuid) (key : String) (card : CreditAccount) (db db' : Db) : Prop where
  accounts : ∀ a ∈ db'.accounts.rows, (∃ b ∈ db.accounts.rows, b.identity = a.identity) ∨
    (a.id ∈ drawn ∧ a.creditAccountId = some card.id ∧ a.currency = card.currency)
  transactions : ∀ t ∈ db'.transactions.rows,
    (∃ s ∈ db.transactions.rows, s.id = t.id ∧ s.idempotencyKey = t.idempotencyKey) ∨
      (t.id ∈ drawn ∧ t.idempotencyKey = key)
  entries : ∀ e ∈ db'.ledgerEntries.rows, e ∈ db.ledgerEntries.rows ∨ e.entryId ∈ drawn
  posted : ∀ p ∈ db'.postedTransactions.rows, p ∈ db.postedTransactions.rows ∨
    (p.id ∈ drawn ∧ ∃ u ∈ drawn, p.journalTransactionId = some u)
  events : ∀ x ∈ db'.auditOutbox.rows, x ∈ db.auditOutbox.rows ∨ ∃ u ∈ drawn, x.eventId = u.str

theorem Unused.grown {drawn : List Uuid} {key : String} {card : CreditAccount} {db db' : Db}
    {u : Uuid} (h : Unused db u) (grown : Grown drawn key card db db') (hu : u ∉ drawn) :
    Unused db' u := by
  refine ⟨fun a ha => ?_, fun t ht => ?_, fun e he => ?_, fun p hp => ?_, fun x hx => ?_⟩
  · rcases grown.accounts a ha with ⟨b, hb, hsame⟩ | ⟨hdrawn, -⟩
    · have hid : b.id = a.id := congrArg Prod.fst hsame
      exact hid ▸ h.account b hb
    · exact ne_of_mem_of_not_mem hdrawn hu
  · rcases grown.transactions t ht with ⟨s, hs, hid, -⟩ | ⟨hdrawn, -⟩
    · exact hid ▸ h.transaction s hs
    · exact ne_of_mem_of_not_mem hdrawn hu
  · rcases grown.entries e he with he | hdrawn
    · exact h.entry e he
    · exact ne_of_mem_of_not_mem hdrawn hu
  · rcases grown.posted p hp with hp | ⟨hdrawn, v, hv, hjournal⟩
    · exact h.posted p hp
    · refine ⟨ne_of_mem_of_not_mem hdrawn hu, ?_⟩
      rw [hjournal]
      exact fun heq => hu (Option.some.inj heq ▸ hv)
  · rcases grown.events x hx with hx | ⟨v, hv, hevent⟩
    · exact h.event x hx
    · rw [hevent]
      exact fun heq => hu (Uuid.str_injective heq ▸ hv)

section
variable {drawn : List Uuid} {key : String} {card : CreditAccount} {db db' db'' : Db}
  {env : Ambient}

theorem Grown.refl : Grown drawn key card db db :=
  ⟨fun a ha => Or.inl ⟨a, ha, rfl⟩, fun t ht => Or.inl ⟨t, ht, rfl, rfl⟩, fun _ => Or.inl,
    fun _ => Or.inl, fun _ => Or.inl⟩

theorem Grown.trans (h : Grown drawn key card db db') (h' : Grown drawn key card db' db'') :
    Grown drawn key card db db'' := by
  refine ⟨fun a ha => ?_, fun t ht => ?_, fun e he => ?_, fun p hp => ?_, fun x hx => ?_⟩
  · rcases h'.accounts a ha with ⟨b, hb, hab⟩ | hnew
    · obtain ⟨hid, hrest⟩ := Prod.mk.inj hab
      obtain ⟨-, hrest⟩ := Prod.mk.inj hrest
      obtain ⟨hcredit, hcurrency⟩ := Prod.mk.inj hrest
      rw [← hab, ← hid, ← hcredit, ← hcurrency]
      exact h.accounts b hb
    · exact Or.inr hnew
  · rcases h'.transactions t ht with ⟨s, hs, hid, hkey⟩ | hnew
    · rw [← hid, ← hkey]
      exact h.transactions s hs
    · exact Or.inr hnew
  · exact (h'.entries e he).elim (h.entries e) Or.inr
  · exact (h'.posted p hp).elim (h.posted p) Or.inr
  · exact (h'.events x hx).elim (h.events x) Or.inr

theorem mem_update_identity {t : Table Account} {a : Account} {id : Uuid} {f : Account → Account}
    (free : ∀ a b, Row.Clash (f a) b → Row.Clash a b) (ha : a ∈ (t.update id f free).rows)
    (hf : ∀ a, (f a).identity = a.identity := by exact fun _ => rfl) :
    ∃ b ∈ t.rows, b.identity = a.identity := by
  obtain ⟨b, hb, rfl⟩ := (Table.mem_update free).mp ha
  refine ⟨b, hb, ?_⟩
  split
  · exact (hf b).symm
  · rfl

theorem debitDeposit_grown {deposit : Account} {amount : ℤ} :
    Grown drawn key card db (debitDeposit db deposit amount) where
  accounts _ ha := Or.inl (mem_update_identity (by exact fun _ _ h => h) ha)
  transactions t ht := Or.inl ⟨t, ht, rfl, rfl⟩
  entries _ := Or.inl
  posted _ := Or.inl
  events _ := Or.inl

theorem updateMirror_grown {mirrorId : Uuid} {account : CreditAccount} :
    Grown drawn key card db (updateMirror db mirrorId account) where
  accounts _ ha := Or.inl (mem_update_identity (by exact fun _ _ h => h) ha)
  transactions t ht := Or.inl ⟨t, ht, rfl, rfl⟩
  entries _ := Or.inl
  posted _ := Or.inl
  events _ := Or.inl

theorem saveAccount_grown {loaded current : CreditAccount} :
    Grown drawn key card db (saveAccount db loaded current) where
  accounts a ha := Or.inl ⟨a, ha, rfl⟩
  transactions t ht := Or.inl ⟨t, ht, rfl, rfl⟩
  entries _ := Or.inl
  posted _ := Or.inl
  events _ := Or.inl

theorem storeResponse_grown {id : Uuid} {hash : Option String} {payload : ResponsePayload} :
    Grown drawn key card db (storeResponse db id hash payload) where
  accounts a ha := Or.inl ⟨a, ha, rfl⟩
  transactions t ht := by
    obtain ⟨s, hs, rfl⟩ := (Table.mem_update (by exact fun _ _ h => h)).mp ht
    refine Or.inl ⟨s, hs, ?_⟩
    split
    · exact ⟨rfl, rfl⟩
    · exact ⟨rfl, rfl⟩
  entries _ := Or.inl
  posted _ := Or.inl
  events _ := Or.inl

theorem addPostedTransaction_grown {p : PostedTransaction} {u : Uuid} (hid : p.id ∈ drawn)
    (hu : u ∈ drawn) (hjournal : p.journalTransactionId = some u)
    (h : addPostedTransaction db p = .ok db') : Grown drawn key card db db' := by
  simp only [addPostedTransaction, bind_eq_ok, insert_eq_ok, pure_eq_ok] at h
  obtain ⟨posted, hposted, rfl⟩ := h
  have same : Grown drawn key card db db := .refl
  refine ⟨same.accounts, same.transactions, same.entries, fun q hq => ?_, same.events⟩
  rcases (Table.mem_insert hposted).mp hq with hq | rfl
  · exact Or.inl hq
  · exact Or.inr ⟨hid, u, hu, hjournal⟩

theorem recordAudit_grown {eventType : String} {fields : List (String × JsonValue)}
    (hu : env.uuid4 0 ∈ drawn) (h : recordAudit db env eventType fields = .ok db') :
    Grown drawn key card db db' := by
  rw [recordAudit_eq_ok] at h
  obtain ⟨outbox, houtbox, rfl⟩ := h
  have same : Grown drawn key card db db := .refl
  refine ⟨same.accounts, same.transactions, same.entries, same.posted, fun x hx => ?_⟩
  rcases (Table.mem_insert houtbox).mp hx with hx | rfl
  · exact Or.inl hx
  · exact Or.inr ⟨_, hu, rfl⟩

theorem ensureCreditJournalAccount_grown {mirror : Account} (hu : env.uuid4 0 ∈ drawn)
    (h : ensureCreditJournalAccount db env card = .ok (db', mirror)) :
    Grown drawn key card db db' := by
  have same : Grown drawn key card db db := .refl
  unfold ensureCreditJournalAccount at h
  cases hfirst : db.accounts.first? fun a => a.creditAccountId = some card.id with
  | some m =>
    simp only [hfirst, bind_eq_ok, require_eq_ok, pure_eq_ok] at h
    obtain ⟨-, -, h⟩ := h
    cases h
    exact ⟨fun a ha => Or.inl (mem_update_identity (by exact fun _ _ h => h) ha),
      same.transactions, same.entries,
      same.posted, same.events⟩
  | none =>
    simp only [hfirst, bind_eq_ok, insert_eq_ok, pure_eq_ok] at h
    obtain ⟨accounts, hinsert, h⟩ := h
    cases h
    refine ⟨fun a ha => ?_, same.transactions, same.entries, same.posted, same.events⟩
    rcases (Table.mem_insert hinsert).mp ha with ha | rfl
    · exact Or.inl ⟨a, ha, rfl⟩
    · exact Or.inr ⟨hu, rfl, rfl⟩

theorem appendPosting_eventId {currency : CurrencyCode} {entries : BalancedEntries currency}
    {description sourceType : String} {references : SourceReferences} {userId : Option Uuid}
    {postedAt : Option Timestamp} {p : JournalPosting}
    (h : appendPosting db env key description sourceType references userId postedAt entries =
      .ok (db', p)) : p.eventId = (env.uuid4 1).str := by
  simp only [appendPosting, bind_eq_ok, pure_eq_ok] at h
  obtain ⟨_, _, _, _, _, _, _, _, _, _, _, _, h⟩ := h
  cases h
  rfl

theorem postPair_grown {r : PostingRequest} {debit credit : Uuid} {money : Money}
    {p : JournalPosting} (hr : r.entries = pairOf debit credit money)
    (hkey : r.idempotencyKey = key)
    (hdrawn : (List.range 4).map env.uuid4 ⊆ drawn)
    (h : postAfterLookup db env r none = .ok (db', p)) :
    Grown drawn key card db db' ∧ p.transaction.id = env.uuid4 0 := by
  simp only [postAfterLookup, bind_eq_ok] at h
  obtain ⟨entries, hvalid, h⟩ := h
  rw [hr] at hvalid
  obtain ⟨e₁, e₂, hpair, -⟩ := validate_pairOf hvalid
  have heventId := appendPosting_eventId h
  have appended := appended_of_appendPosting h
  have hid : p.transaction.id = env.uuid4 0 := by
    rw [appended.transaction]
    rfl
  obtain ⟨l, event, -, -, -, -, hevent⟩ := appended.event
  refine ⟨⟨fun a ha => ?_, fun t ht => ?_, fun e he => ?_, fun q hq => ?_, fun x hx => ?_⟩, hid⟩
  · rw [appended.frame] at ha
    exact Or.inl ⟨a, ha, rfl⟩
  · rcases (Table.mem_insert appended.transactions).mp ht with ht | rfl
    · exact Or.inl ⟨t, ht, rfl, rfl⟩
    · refine Or.inr ⟨hid ▸ hdrawn (List.mem_map_of_mem (by decide : 0 ∈ List.range 4)), ?_⟩
      rw [appended.transaction]
      exact hkey
  · rcases (Table.mem_insertAll appended.ledger).mp he with he | he
    · exact Or.inl he
    · rw [appended.entries, postedEntries, hpair] at he
      rcases List.mem_pair.mp he with rfl | rfl
      · exact Or.inr (hdrawn (List.mem_map_of_mem (by decide : 2 ∈ List.range 4)))
      · exact Or.inr (hdrawn (List.mem_map_of_mem (by decide : 3 ∈ List.range 4)))
  · rw [appended.frame] at hq
    exact Or.inl hq
  · rcases (Table.mem_insert hevent).mp hx with hx | rfl
    · exact Or.inl hx
    · exact Or.inr ⟨_, hdrawn (List.mem_map_of_mem (by decide : 1 ∈ List.range 4)), heventId⟩

variable {sha256 : String → String} {p : BillPayment} {deposit : Account}
  {result : BillPaymentResult}

theorem executePayment_grown
    (h : executePayment sha256 db env p deposit card none = .ok (db', result)) :
    Grown (paymentDraws env) (durableKey sha256 p.userId p.idempotencyKey) card db db' := by
  simp only [executePayment, bind_eq_ok, pure_eq_ok] at h
  obtain ⟨⟨db₁, mirror⟩, hm, ⟨db₂, posting⟩, hp, ⟨db₃, updated⟩, hr, db₄, hposted, source, -,
    cleared, -, available, -, db₅, haudit, h⟩ := h
  cases h
  obtain ⟨-, rfl⟩ := recalculate_eq_ok hr
  have hensured := @ensureCreditJournalAccount_grown (paymentDraws env)
    (durableKey sha256 p.userId p.idempotencyKey) card db db₁ (env.part 0) mirror
    (by simp [paymentDraws]) hm
  obtain ⟨happended, hid⟩ := @postPair_grown (paymentDraws env)
    (durableKey sha256 p.userId p.idempotencyKey) card db₁ db₂ (env.part 1) _ _ _ _ _ rfl rfl
    (by simp [paymentDraws, List.range_succ]) hp
  have hstatement := @addPostedTransaction_grown (paymentDraws env)
    (durableKey sha256 p.userId p.idempotencyKey) card _ _ _ _ (by simp [paymentDraws]) (by
      rw [hid]
      simp [paymentDraws]) rfl hposted
  have haudited := @recordAudit_grown (paymentDraws env)
    (durableKey sha256 p.userId p.idempotencyKey) card _ _ _ _ _ (by simp [paymentDraws]) haudit
  exact hensured.trans (happended.trans (debitDeposit_grown.trans (saveAccount_grown.trans
    (updateMirror_grown.trans (hstatement.trans (storeResponse_grown.trans haudited))))))

end

section
variable {ρ κ : Type} [Row ρ κ] {t : Table ρ} {r : ρ} {l : List ρ}

theorem insert_of_free (free : ∀ x ∈ t.rows, ¬ Row.Clash x r) : ∃ t', insert t r = .ok t' := by
  simp only [insert_eq_ok]
  exact Table.insert?_of_free free

theorem insertAll_of_free (free : ∀ x ∈ t.rows, ∀ r ∈ l, ¬ Row.Clash x r)
    (apart : l.Pairwise fun a b => ¬ Row.Clash a b) : ∃ t', insertAll t l = .ok t' := by
  simp only [insertAll_eq_ok]
  exact Table.insertAll?_of_free free apart

end

/-- A card on which payments are not refused: its mirror is in its currency, or can be opened, and
its holds are amounts in its currency. -/
structure Servable (db : Db) (card : CreditAccount) : Prop where
  holds : ∀ h ∈ activeHolds db card.id,
    CurrencyCode.ofText? h.billingCurrency = some card.currency ∧
    0 ≤ h.billingAmountCents ∧ InRange h.billingAmountCents
  held : InRange (heldTotal db card.id)
  mirror : ∀ a ∈ db.accounts.rows, a.creditAccountId = some card.id → a.currency = card.currency
  number : ∀ a ∈ db.accounts.rows, a.accountNumber = "CARD-" ++ card.id.str →
    a.creditAccountId = some card.id
  limit : card.creditLimitCents ≤ MAX_MINOR

section
variable {db db' : Db} {env : Ambient} {card : CreditAccount}

theorem ensureCreditJournalAccount_currency {mirror : Account}
    (h : ensureCreditJournalAccount db env card = .ok (db', mirror)) :
    mirror.currency = card.currency := by
  unfold ensureCreditJournalAccount at h
  split at h
  · simp only [bind_eq_ok, require_eq_ok, pure_eq_ok] at h
    obtain ⟨-, hcurrency, h⟩ := h
    cases h
    exact hcurrency
  · simp only [bind_eq_ok, pure_eq_ok] at h
    obtain ⟨accounts, -, h⟩ := h
    cases h
    rfl

theorem ensureCreditJournalAccount_ok (servable : Servable db card)
    (unused : Unused db (env.uuid4 0)) : ∃ r, ensureCreditJournalAccount db env card = .ok r := by
  unfold ensureCreditJournalAccount
  cases hfirst : db.accounts.first? fun a => a.creditAccountId = some card.id with
  | some m =>
    obtain ⟨hm, hcredit⟩ := Table.first?_mem hfirst
    simp only [bind_eq_ok, require_eq_ok, pure_eq_ok]
    exact ⟨_, (), servable.mirror m hm hcredit, rfl⟩
  | none =>
    have hnone := Table.first?_eq_none.mp hfirst
    simp only [bind_eq_ok, pure_eq_ok]
    refine (insert_of_free fun x hx => ?_).elim fun accounts haccounts => ⟨_, _, haccounts, rfl⟩
    rintro (hid | hnumber | ⟨hcredit, -⟩)
    · exact unused.account x hx hid
    · exact hnone x hx (servable.number x hx hnumber)
    · exact hnone x hx hcredit

theorem addHolds_ok {l : List TransactionAuthorization} {currency : CurrencyCode} {total : ℤ}
    (h : ∀ h ∈ l, CurrencyCode.ofText? h.billingCurrency = some currency ∧
      0 ≤ h.billingAmountCents ∧ InRange h.billingAmountCents) :
    ∃ n, addHolds currency total l = .ok n := by
  induction l generalizing total with
  | nil => exact ⟨total, rfl⟩
  | cons x l ih =>
    obtain ⟨⟨hcurrency, hnonneg, hrange⟩, hl⟩ := List.forall_mem_cons.mp h
    obtain ⟨n, hn⟩ := @ih (total + x.billingAmountCents) hl
    refine ⟨n, ?_⟩
    simp only [addHolds, bind_eq_ok, Money.ofText_eq_ok, require_eq_ok]
    exact ⟨⟨x.billingAmountCents, currency, hrange⟩, ⟨rfl, hcurrency⟩, (), ⟨rfl, hnonneg⟩, hn⟩

theorem recalculateAvailableCredit_ok {loaded current : CreditAccount}
    (hfound : (db.creditAccounts.get? current.id).isSome)
    (holds : ∀ h ∈ activeHolds db current.id,
      CurrencyCode.ofText? h.billingCurrency = some current.currency ∧
        0 ≤ h.billingAmountCents ∧ InRange h.billingAmountCents)
    (held : InRange (heldTotal db current.id)) :
    ∃ r, recalculateAvailableCredit db loaded current = .ok r := by
  obtain ⟨n, hn⟩ := @addHolds_ok _ _ 0 holds
  have htotal := addHolds_eq_ok hn
  rw [zero_add, sum_activeHolds] at htotal
  subst htotal
  simp only [recalculateAvailableCredit, calculateAvailableCreditCents, getPendingAuthTotal,
    bind_eq_ok, require_eq_ok, Money.new_eq_ok, pure_eq_ok]
  exact ⟨_, _, ⟨_, ⟨(), hfound, _, hn, ⟨_, current.currency, held⟩, ⟨rfl, rfl⟩, rfl⟩, rfl⟩, rfl⟩

theorem recordAuditEvent_ok {eventType eventId : String} {payload : AuditPayload} {v : ℕ}
    (free : ∀ x ∈ db.auditOutbox.rows, x.eventId ≠ eventId) :
    ∃ db', recordAuditEvent db env eventType payload eventId v = .ok db' := by
  simp only [recordAuditEvent, bind_eq_ok, pure_eq_ok]
  exact (insert_of_free free).elim fun outbox houtbox => ⟨_, outbox, houtbox, rfl⟩

theorem eventEntry_ok {currency : CurrencyCode} {e : AccountLedgerEntry}
    (h : InRange e.amountMinor) : ∃ x, eventEntry currency e = .ok x := by
  simp only [eventEntry, bind_eq_ok, Money.new_eq_ok, pure_eq_ok]
  exact ⟨_, ⟨e.amountMinor, currency, h⟩, ⟨rfl, rfl⟩, rfl⟩

theorem postPair_ok {r : PostingRequest} {debit credit : Account} {money : Money}
    (hr : r.entries = pairOf debit.id credit.id money) (hmoney : money.currencyCode = r.currency)
    (positive : 0 < money.amountMinor)
    (hdebit : db.accounts.get? debit.id = some debit ∧ debit.currency = r.currency)
    (hcredit : db.accounts.get? credit.id = some credit ∧ credit.currency = r.currency)
    (key : ∀ t ∈ db.transactions.rows, t.idempotencyKey ≠ r.idempotencyKey)
    (unused : ∀ u ∈ (List.range 4).map env.uuid4, Unused db u)
    (apart : env.uuid4 2 ≠ env.uuid4 3) : ∃ x, postAfterLookup db env r none = .ok x := by
  have hunused : ∀ i < 4, Unused db (env.uuid4 i) := fun i hi =>
    unused _ (List.mem_map_of_mem (List.mem_range.mpr hi))
  let e₁ : NormalizedEntry r.currency := ⟨debit.id, .debit, money, hmoney, positive⟩
  let e₂ : NormalizedEntry r.currency := ⟨credit.id, .credit, money, hmoney, positive⟩
  let entries : BalancedEntries r.currency :=
    ⟨[e₁, e₂], le_rfl, by simp [directionTotal, e₁, e₂]⟩
  have hvalid : validateEntries r.currency r.entries = .ok entries := by
    rw [hr, validateEntries_eq_ok]
    have htexts : Direction.ofText? (upper "DEBIT") = some .debit ∧
        Direction.ofText? (upper "CREDIT") = some .credit := by decide
    exact .cons (normalizeEntry_eq_ok.mpr ⟨rfl, rfl, htexts.1⟩)
      (.cons (normalizeEntry_eq_ok.mpr ⟨rfl, rfl, htexts.2⟩) .nil)
  obtain ⟨transactions, htransactions⟩ := @insert_of_free Transaction Uuid _ db.transactions
    (postedTransaction env r.idempotencyKey r.description r.userId r.currency) (by
    rintro t ht (hid | hkey)
    · exact (hunused 0 (by omega)).transaction t ht hid
    · exact key t ht hkey)
  obtain ⟨ledger, hledger⟩ := @insertAll_of_free AccountLedgerEntry Uuid _ db.ledgerEntries
    (postedEntries env (r.postedAt.getD env.now) entries) (by
    intro x hx e he hid
    rcases List.mem_pair.mp he with rfl | rfl
    · exact (hunused 2 (by omega)).entry x hx hid
    · exact (hunused 3 (by omega)).entry x hx hid) (List.pairwise_pair.mpr apart)
  obtain ⟨l₁, h₁⟩ := @eventEntry_ok r.currency
    ⟨env.uuid4 2, env.uuid4 0, debit.id, money.amountMinor, .debit,
      r.postedAt.getD env.now, positive⟩
    money.in_range
  obtain ⟨l₂, h₂⟩ := @eventEntry_ok r.currency
    ⟨env.uuid4 3, env.uuid4 0, credit.id, money.amountMinor, .credit, r.postedAt.getD env.now,
      positive⟩ money.in_range
  have hevents :
    (postedEntries env (r.postedAt.getD env.now) entries).mapM (eventEntry r.currency) =
      .ok [l₁, l₂] := mapM_eq_ok.mpr (.cons h₁ (.cons h₂ .nil))
  have haccount : ∀ e ∈ entries.entries, e.accountId = debit.id ∨ e.accountId = credit.id := by
    intro e he
    rcases List.mem_pair.mp he with rfl | rfl
    · exact Or.inl rfl
    · exact Or.inr rfl
  simp only [postAfterLookup, appendPosting, bind_eq_ok, require_eq_ok, pure_eq_ok]
  obtain ⟨db', hrecorded⟩ := @recordAuditEvent_ok { db with
      transactions := transactions
      ledgerEntries := ledger } env FINANCIAL_EVENT_TYPE (env.uuid4 1).str
    (.financial
      { eventId := (env.uuid4 1).str, schemaVersion := FINANCIAL_EVENT_SCHEMA_VERSION,
        transactionId := env.uuid4 0, eventTime := r.postedAt.getD env.now,
        postedAt := r.postedAt.getD env.now, currencyCode := r.currency, sourceType := r.sourceType,
        sourceReferences := r.sourceReferences, description := r.description, entries := [l₁, l₂] })
    FINANCIAL_EVENT_SCHEMA_VERSION (hunused 1 (by omega)).event
  refine ⟨_, entries, hvalid, (), fun e he => ?_, (), fun a ha => ?_, transactions, htransactions,
    ledger, hledger, _, hevents, db', hrecorded, rfl⟩
  · rcases haccount e he with hid | hid
    · rw [hid, hdebit.1]
      rfl
    · rw [hid, hcredit.1]
      rfl
  · obtain ⟨ha, hid⟩ := Table.mem_select.mp ha
    obtain ⟨e, he, heid⟩ := List.mem_map.mp hid
    have hget : db.accounts.get? e.accountId = some a := Table.get?_eq_some.mpr ⟨ha, heid.symm⟩
    rcases haccount e he with heq | heq
    · rw [heq, hdebit.1] at hget
      cases hget
      exact hdebit.2
    · rw [heq, hcredit.1] at hget
      cases hget
      exact hcredit.2

structure Payable (db : Db) (p : BillPayment) (deposit : Account)
    (card : CreditAccount) : Prop where
  source : db.accounts.get? deposit.id = some deposit ∧ deposit.isDeposit
  owned : deposit.id = p.sourceAccountId ∧ deposit.userId = some p.userId ∧ deposit.status = .active
  target : db.creditAccounts.get? card.id = some card
  held : card.id = p.creditAccountId ∧ card.customerId = p.userId ∧ card.status = .active
  currencies : deposit.currency = p.money.currencyCode ∧ card.currency = p.money.currencyCode
  funds : p.money.amountMinor ≤ deposit.clearedBalanceCents ∧
    deposit.clearedBalanceCents ≤ MAX_MINOR
  debt : p.money.amountMinor ≤ card.clearedBalanceCents ∧ card.clearedBalanceCents ≤ MAX_MINOR
  servable : Servable db card

theorem inRange_of_le {n : ℤ} (h : 0 ≤ n) (hmax : n ≤ MAX_MINOR) : InRange n := by
  have hpos : (0 : ℤ) ≤ MAX_MINOR := by decide
  exact ⟨by omega, hmax⟩

theorem headroom_inRange {limit used : ℤ} (h : limit ≤ MAX_MINOR) :
    InRange (headroom limit used) := by
  have hpos : (0 : ℤ) ≤ MAX_MINOR := by decide
  refine inRange_of_le (le_max_left _ _) (max_le hpos ((min_le_left _ _).trans h))

theorem money_ok {n : ℤ} {c : CurrencyCode} (h : InRange n) : ∃ m, Money.new n c = .ok m :=
  ⟨⟨n, c, h⟩, Money.new_eq_ok.mpr ⟨rfl, rfl⟩⟩

variable {sha256 : String → String} {p : BillPayment} {deposit : Account}

theorem executePayment_ok (payable : Payable db p deposit card) (fresh : FreshDraws db env)
    (key : ∀ t ∈ db.transactions.rows,
      t.idempotencyKey ≠ durableKey sha256 p.userId p.idempotencyKey) :
    ∃ r, executePayment sha256 db env p deposit card none = .ok r := by
  unfold executePayment
  refine exists_bind (ensureCreditJournalAccount_ok payable.servable
    (fresh.unused ((env.part 0).uuid4 0) (by simp [paymentDraws]))) ?_
  rintro ⟨db₁, mirror⟩ hm
  have hcurrency := ensureCreditJournalAccount_currency hm
  have hgrown₁ := @ensureCreditJournalAccount_grown [(env.part 0).uuid4 0] "" card db db₁
    (env.part 0) mirror List.mem_cons_self hm
  obtain ⟨accounts, rfl, ensured⟩ := ensureCreditJournalAccount_effect hm
  have happart : deposit.id ≠ mirror.id := by
    intro heq
    have hcard := ensured.before deposit (heq ▸ payable.source.1)
    rw [payable.source.2.unmirrored] at hcard
    cases hcard
  have hdebit : accounts.get? deposit.id = some deposit :=
    (ensured.others _ happart).trans payable.source.1
  obtain ⟨hhead, hrest⟩ := List.nodup_cons.mp fresh.distinct
  -- what the posting draws is still unused when the mirror is there
  have hunused₁ : ∀ u ∈ (paymentDraws env).tail, Unused { db with
      accounts := accounts } u := by
    intro u hu
    refine (fresh.unused u (List.mem_cons_of_mem _ hu)).grown hgrown₁ ?_
    rw [List.mem_singleton]
    rintro rfl
    exact hhead hu
  have hdistinct := fresh.distinct
  simp only [paymentDraws, List.nodup_cons, List.mem_cons, List.not_mem_nil, or_false,
    not_or] at hdistinct
  have hdraws : (List.range 4).map (env.part 1).uuid4 ⊆ (paymentDraws env).tail := by
    simp [paymentDraws, List.range_succ]
  dsimp only
  refine exists_bind (postPair_ok rfl rfl p.positive ⟨hdebit, payable.currencies.1⟩
    ⟨ensured.found, hcurrency.trans payable.currencies.2⟩ key
    (fun u hu => hunused₁ u (hdraws hu)) hdistinct.2.2.2.1.1) ?_
  rintro ⟨db₂, posting⟩ hp
  obtain ⟨hgrown₂, hid⟩ :=
    @postPair_grown _ _ card _ db₂ _ _ _ _ _ _ rfl rfl (List.Subset.refl _) hp
  obtain ⟨⟨transactions, entries, outbox, rfl⟩, -⟩ := postAfterLookup_pair rfl hp
  dsimp only
  refine exists_bind (recalculateAvailableCredit_ok ?_ payable.servable.holds
    payable.servable.held) ?_
  · change (db.creditAccounts.get? card.id).isSome
    rw [payable.target]
    rfl
  rintro ⟨db₃, updated⟩ hr
  obtain ⟨hbalance, rfl⟩ := recalculate_eq_ok hr
  dsimp only at hbalance ⊢
  have hstatement := fresh.unused ((env.part 2).uuid4 0) (by simp [paymentDraws])
  have hjournal := fresh.unused ((env.part 1).uuid4 0) (by simp [paymentDraws])
  refine exists_bind (exists_bind (insert_of_free ?_) fun posted _ => ⟨_, rfl⟩) ?_
  · rintro x hx (heq | ⟨heq, -⟩)
    · exact (hstatement.posted x hx).1 heq
    · exact (hjournal.posted x hx).2 (heq.trans (congrArg some hid))
  rintro db₄ hposted
  obtain ⟨hfunds, hsource⟩ := payable.funds
  obtain ⟨howed, hdebt⟩ := payable.debt
  have hpositive := p.positive
  refine exists_bind (money_ok ?_) fun source _ => exists_bind (money_ok ?_) fun cleared _ =>
    exists_bind (money_ok ?_) fun available _ => exists_bind (recordAuditEvent_ok ?_) fun db₅ _ =>
    ⟨_, rfl⟩
  · exact inRange_of_le (by omega) (by omega)
  · rw [hbalance]
    dsimp only
    exact inRange_of_le (by omega) (by omega)
  · rw [hbalance]
    exact headroom_inRange payable.servable.limit
  · simp only [addPostedTransaction, bind_eq_ok, pure_eq_ok] at hposted
    obtain ⟨posted, -, rfl⟩ := hposted
    refine ((hunused₁ ((env.part 3).uuid4 0) (by simp [paymentDraws])).grown hgrown₂ ?_).event
    change (env.part 3).uuid4 0 ∉ [(env.part 1).uuid4 0, (env.part 1).uuid4 1, (env.part 1).uuid4 2,
      (env.part 1).uuid4 3]
    simp only [List.mem_cons, List.not_mem_nil, or_false, not_or]
    exact ⟨Ne.symm hdistinct.2.1.2.2.2.2, Ne.symm hdistinct.2.2.1.2.2.2,
      Ne.symm hdistinct.2.2.2.1.2.2, Ne.symm hdistinct.2.2.2.2.1.2⟩

theorem replayPayment_unused (key : ∀ t ∈ db.transactions.rows,
    t.idempotencyKey ≠ durableKey sha256 p.userId p.idempotencyKey) :
    replayPayment sha256 db p = .ok none := by
  rw [replayPayment, findTransaction_eq_none.mpr key]

theorem executeBillPaymentForUser_ok {r : BillPaymentRequest} (hvalid : validatePayment r = .ok p)
    (payable : Payable db p deposit card) (fresh : FreshDraws db env)
    (key : ∀ t ∈ db.transactions.rows,
      t.idempotencyKey ≠ durableKey sha256 p.userId p.idempotencyKey) :
    ∃ x, executeBillPaymentForUser sha256 db env r = .ok x := by
  have hsource : findSource db p = .ok deposit := by
    obtain ⟨hid, huser, hactive⟩ := payable.owned
    obtain ⟨hget, hdeposit⟩ := payable.source
    rw [findSource, orRaise_eq_ok, getDepositAccountForUser, ← hid, hget]
    simp [huser, hactive, hdeposit]
  have htarget : findTarget db p = .ok card := by
    obtain ⟨hid, huser, hactive⟩ := payable.held
    rw [findTarget, orRaise_eq_ok, getCreditAccountForUser, ← hid, payable.target]
    simp [huser, hactive]
  have hmirror : checkMirror p (findMirror db card) = .ok () := by
    cases hfirst : findMirror db card with
    | none => rfl
    | some m =>
      obtain ⟨hm, hcredit⟩ := Table.first?_mem hfirst
      exact require_of ((payable.servable.mirror m hm hcredit).trans payable.currencies.2)
  have hfunds : checkFunds p deposit card = .ok () := by
    simp only [checkFunds, bind_eq_ok, require_eq_ok]
    exact ⟨(), payable.currencies, (), payable.funds.1, payable.debt.1⟩
  obtain ⟨x, hx⟩ := executePayment_ok payable fresh key
  refine ⟨x, ?_⟩
  simp only [executeBillPaymentForUser, bind_eq_ok]
  refine ⟨p, hvalid, none, replayPayment_unused key, ?_⟩
  simp only [bind_eq_ok]
  refine ⟨deposit, hsource, card, htarget, (), hfunds, (), hmirror, ?_⟩
  rw [findTransaction_eq_none.mpr key, hx]

theorem executeBillPaymentForUser_effect {r : BillPaymentRequest} {result : BillPaymentResult}
    (hvalid : validatePayment r = .ok p)
    (key : ∀ t ∈ db.transactions.rows,
      t.idempotencyKey ≠ durableKey sha256 p.userId p.idempotencyKey)
    (h : executeBillPaymentForUser sha256 db env r = .ok (db', result)) :
    ∃ deposit card updated statement t, findSource db p = .ok deposit ∧
      findTarget db p = .ok card ∧ checkFunds p deposit card = .ok () ∧
      Paid sha256 db p deposit card none updated statement t result db' ∧
      Grown (paymentDraws env) (durableKey sha256 p.userId p.idempotencyKey) card db db' := by
  simp only [executeBillPaymentForUser, bind_eq_ok] at h
  obtain ⟨q, hq, previous, hprevious, h⟩ := h
  obtain rfl : q = p := Except.ok.inj (hq.symm.trans hvalid)
  rw [replayPayment_unused key] at hprevious
  cases hprevious
  simp only [bind_eq_ok] at h
  obtain ⟨deposit, hsource, card, htarget, ⟨⟩, hfunds, -, -, h⟩ := h
  rw [findTransaction_eq_none.mpr key] at h
  split at h
  · -- another request was not faster: there is no transaction under the key
    simp only [replayAfterConflict, replayPayment_unused key, bind_eq_ok, Except.ok.injEq,
      exists_eq_left', orRaise] at h
    obtain ⟨previous, hnone, -⟩ := h
    cases hnone
  · cases h
  · obtain ⟨hget, -, hdeposit⟩ := findSource_eq_ok hsource
    obtain ⟨updated, statement, t, hpaid⟩ := paid_of_ok sha256 hget hdeposit h
    exact ⟨deposit, card, updated, statement, t, hsource, htarget, hfunds, hpaid,
      executePayment_grown h⟩

end

end BankingService
