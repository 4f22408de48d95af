import BankingService.FraudAlerts
import Mathlib.Logic.Relation

/-! What a triage does, step by step. A triage that is committed is a run of the steps below, and
it runs only where its workflow has not succeeded before. -/
namespace BankingService

open Python Relational Checked Relation

def Reports (P : AuditOutbox → Prop) (t t' : Table AuditOutbox) : Prop :=
  ∃ l, t'.rows = t.rows ++ l ∧ ∀ e ∈ l, P e

theorem Reports.refl (P : AuditOutbox → Prop) (t : Table AuditOutbox) : Reports P t t :=
  ⟨[], (List.append_nil _).symm, fun _ he => absurd he List.not_mem_nil⟩

theorem Reports.trans {P : AuditOutbox → Prop} {t₁ t₂ t₃ : Table AuditOutbox}
    (h : Reports P t₁ t₂) (h' : Reports P t₂ t₃) : Reports P t₁ t₃ := by
  obtain ⟨l, hl, hP⟩ := h
  obtain ⟨l', hl', hP'⟩ := h'
  refine ⟨l ++ l', by rw [hl', hl, List.append_assoc], ?_⟩
  intro e he
  rcases List.mem_append.mp he with he | he
  · exact hP e he
  · exact hP' e he

theorem reports_insert {P : AuditOutbox → Prop} {t t' : Table AuditOutbox} {e : AuditOutbox}
    (h : t.insert? e = some t') (he : P e) : Reports P t t' :=
  ⟨[e], Table.rows_insert h, fun _ hx => List.mem_singleton.mp hx ▸ he⟩

theorem Reports.countP {P p : AuditOutbox → Prop} [DecidablePred p] {t t' : Table AuditOutbox}
    (h : Reports P t t') (hp : ∀ e, P e → ¬ p e) :
    t'.rows.countP (fun e => p e) = t.rows.countP fun e => p e := by
  obtain ⟨l, hl, hP⟩ := h
  have hnone : l.countP (fun e => p e) = 0 := by
    rw [List.countP_eq_zero]
    intro e he
    simpa using hp e (hP e he)
  rw [hl, List.countP_append, hnone, add_zero]

def AuditOutbox.field (e : AuditOutbox) (key : String) : Option JsonValue :=
  match e.payload with
  | .object fields => (fields.find? fun f => f.1 = key).map Prod.snd
  | .financial _ => none

def HOLD_VOIDED : String := "FRAUD_AUTHORIZATION_VOIDED"
def CARD_REPLACED : String := "CARD_REPLACED"

/-- Events of the type say neither that a hold was released nor that a card was replaced. -/
def PlainType (eventType : String) : Prop := eventType ≠ HOLD_VOIDED ∧ eventType ≠ CARD_REPLACED

instance : DecidablePred PlainType := fun _ => inferInstanceAs (Decidable (_ ∧ _))

def Plain (e : AuditOutbox) : Prop := PlainType e.eventType

/-- The posted transaction that a description beginning with `head` names. -/
def PostedTransaction.reference? (head : String) (p : PostedTransaction) : Option Uuid :=
  if head.toList <+: p.description.toList then
    Uuid.parse? (String.ofList (p.description.toList.drop head.toList.length))
  else none

theorem reference?_append {head text : String} {p : PostedTransaction}
    (h : p.description = head ++ text) : p.reference? head = Uuid.parse? text := by
  have hlist : p.description.toList = head.toList ++ text.toList := by
    rw [h, String.toList_append]
  rw [PostedTransaction.reference?, hlist, if_pos (List.prefix_append _ _), List.drop_left,
    String.ofList_toList]

inductive RemedyStep (r : TriageRequest) (alert : FraudAlert) (db : Db) : Db → Prop where
  | noted {users : Table User} {actions : Table FraudCaseAction} {outbox : Table AuditOutbox}
      (events : Reports Plain db.auditOutbox outbox) :
      RemedyStep r alert db
        { db with users := users, fraudCaseActions := actions, auditOutbox := outbox }
  | voided {auth : TransactionAuthorization} {credit : Table CreditAccount}
      {actions : Table FraudCaseAction} {outbox : Table AuditOutbox} {event : AuditOutbox}
      (stored : db.authorizations.get? auth.id = some auth) (active : auth.isActive)
      (recorded : db.auditOutbox.insert? event = some outbox) (type : event.eventType = HOLD_VOIDED)
      (named : event.field "authorization_id" = some (.text auth.id.str)) :
      RemedyStep r alert db
        { setHoldStatus db auth.id .reversed with
          creditAccounts := credit, fraudCaseActions := actions, auditOutbox := outbox }
  | credited {text : String} {id : Uuid} {original statement : PostedTransaction}
      {credit : Table CreditAccount} {posted : Table PostedTransaction} {accounts : Table Account}
      {transactions : Table Transaction} {entries : Table AccountLedgerEntry}
      {actions : Table FraudCaseAction} {outbox : Table AuditOutbox}
      (disputed : text ∈ r.disputedTransactionIds) (parsed : Uuid.parse? text = some id)
      (found : getLedgerEntryByIdForAccount db id alert.creditAccountId = some original)
      (debit : original.amountCents < 0)
      (uncredited : getFraudProvisionalCreditEntry db alert.creditAccountId text = none)
      (statement_account : statement.accountId = alert.creditAccountId)
      (statement_authorization : statement.authorizationId = none)
      (statement_amount : statement.amountCents = |original.amountCents|)
      (statement_text : statement.description = provisionalCreditDescription text)
      (inserted : db.postedTransactions.insert? statement = some posted)
      (events : Reports Plain db.auditOutbox outbox) :
      RemedyStep r alert db
        { db with
          creditAccounts := credit, postedTransactions := posted, accounts := accounts,
          transactions := transactions, ledgerEntries := entries, fraudCaseActions := actions,
          auditOutbox := outbox }
  | marked {env : Ambient} {text : String} {authorizationIds transactionIds : List String}
      {cents : ℤ} :
      RemedyStep r alert db
        (markTriaged db env alert.id text authorizationIds transactionIds cents none)
  | settled {status : AlertStatus} {resolvedAt : Option Timestamp} :
      RemedyStep r alert db (setAlertStatus db alert.id status resolvedAt)

/-- The card is replaced, the customer told, and the alert marked with the replacement. -/
inductive Replacement (r : TriageRequest) (alert : FraudAlert) (db : Db) : Db → Prop where
  | replaced {env : Ambient} {text : String} {authorizationIds transactionIds : List String}
      {cents : ℤ} {users : Table User} {cards : Table IssuedCard} {outbox told : Table AuditOutbox}
      {event : AuditOutbox} {card : Uuid}
      (asked : r.issueReplacement = true) (disputes : r.hasDisputes = true)
      (recorded : db.auditOutbox.insert? event = some outbox)
      (type : event.eventType = CARD_REPLACED)
      (named : event.field "old_card_id" = some (.text alert.cardId.str))
      (events : Reports Plain outbox told) :
      Replacement r alert db
        (markTriaged { db with users := users, issuedCards := cards, auditOutbox := told } env
          alert.id text authorizationIds transactionIds cents (some card))

abbrev RemedyPath (r : TriageRequest) (alert : FraudAlert) : Db → Db → Prop :=
  ReflTransGen (RemedyStep r alert)

/-- The steps of one triage; at most one of them replaces the card. -/
inductive TriageRun (r : TriageRequest) (alert : FraudAlert) (db db' : Db) : Prop where
  | kept (path : RemedyPath r alert db db')
  | replaced {db₁ db₂ : Db} (before : RemedyPath r alert db db₁)
      (replacement : Replacement r alert db₁ db₂) (after : RemedyPath r alert db₂ db')

theorem TriageRun.trans {r : TriageRequest} {alert : FraudAlert} {db db₁ db' : Db}
    (h : TriageRun r alert db db₁) (after : RemedyPath r alert db₁ db') :
    TriageRun r alert db db' := by
  cases h with
  | kept path => exact .kept (path.trans after)
  | replaced before replacement path => exact .replaced before replacement (path.trans after)

theorem TriageRun.after {r : TriageRequest} {alert : FraudAlert} {db db₁ db' : Db}
    (before : RemedyPath r alert db db₁) (h : TriageRun r alert db₁ db') :
    TriageRun r alert db db' := by
  cases h with
  | kept path => exact .kept (before.trans path)
  | replaced path replacement after => exact .replaced (before.trans path) replacement after

/-- The workflow runs: the alert and its account are found, nothing has succeeded under the key,
and the disputed ids are on the alert. -/
structure TriageExecutes (sha256 : String → String) (db : Db) (r : TriageRequest)
    (alert : FraudAlert) : Prop where
  found : ∃ id, Uuid.parse? r.fraudAlertId = some id ∧
    getAlertForCustomer db id r.authProviderUid = some alert
  account : ∃ account, db.creditAccounts.get? alert.creditAccountId = some account ∧
    account.customerId = alert.customerId
  unfinished : getSucceededAction db alert.id (workflowKey sha256 r) = none
  scope : checkScope alert r = .ok ()

variable {db db' : Db} {env : Ambient} {r : TriageRequest} {alert : FraudAlert}

theorem TriageExecutes.stored {sha256 : String → String} (h : TriageExecutes sha256 db r alert) :
    db.fraudAlerts.get? alert.id = some alert := by
  obtain ⟨id, -, hget⟩ := h.found
  obtain ⟨hrow, -⟩ := Option.filter_eq_some_iff.mp hget
  have hid : alert.id = id := (Table.get?_eq_some.mp hrow).2
  rw [hid]
  exact hrow

/-- The alert that a call runs its workflow on, if it runs one. -/
def executingAlert? (sha256 : String → String) (db : Db) (r : TriageRequest) : Option FraudAlert :=
  ((Uuid.parse? r.fraudAlertId).bind fun id => getAlertForCustomer db id r.authProviderUid).filter
    fun alert =>
      ((db.creditAccounts.get? alert.creditAccountId).any fun a =>
        a.customerId = alert.customerId) ∧
        getSucceededAction db alert.id (workflowKey sha256 r) = none ∧ checkScope alert r = .ok ()

theorem triageExecutes_iff {sha256 : String → String} :
    TriageExecutes sha256 db r alert ↔ executingAlert? sha256 db r = some alert := by
  simp only [executingAlert?, Option.filter_eq_some_iff, Option.bind_eq_some_iff,
    Option.any_eq_true, decide_eq_true_eq]
  constructor
  · intro h
    exact ⟨h.found, h.account, h.unfinished, h.scope⟩
  · rintro ⟨found, account, unfinished, scope⟩
    exact ⟨found, account, unfinished, scope⟩

theorem voidUnderLock_step {account updated : CreditAccount} {text : String} {alertId : Uuid}
    {result : VoidResult}
    (h : voidUnderLock db env account text alertId = .ok (db', updated, result)) :
    updated.id = account.id ∧ RemedyStep r alert db db' := by
  simp only [voidUnderLock, bind_eq_ok, orRaise_eq_ok, require_eq_ok, recordAudit_eq_ok,
    pure_eq_ok] at h
  obtain ⟨id, -, auth, hauth, -, hactive, ⟨db₁, action⟩, ha, release, -, -, -, ⟨db₂, account'⟩, hr,
    available, -, db₃, ⟨outbox, hbox, rfl⟩, h⟩ := h
  cases h
  obtain ⟨actions, rfl⟩ := createCaseAction_frame ha
  obtain ⟨hbalance, rfl⟩ := recalculate_eq_ok hr
  refine ⟨by rw [hbalance], ?_⟩
  exact .voided (getAuthorizationByIdForAccount_eq_some hauth).1 hactive hbox rfl
    (by simp [AuditOutbox.field])

theorem voidFraudAuthorizationHold_path {account updated : CreditAccount} {text : String}
    {alertId : Uuid} {result : VoidResult}
    (h : voidFraudAuthorizationHold db env account text alertId = .ok (db', updated, result)) :
    updated.id = account.id ∧ RemedyPath r alert db db' := by
  rcases voidFraudAuthorizationHold_cases h with ⟨rfl, rfl⟩ | h
  · exact ⟨rfl, .refl⟩
  · obtain ⟨hid, hstep⟩ := voidUnderLock_step h
    exact ⟨hid, .single hstep⟩

theorem voidAll_path {account updated : CreditAccount} {alertId : Uuid} {texts : List String}
    {results : List VoidResult}
    (h : voidAll db env account alertId texts = .ok (db', updated, results)) :
    updated.id = account.id ∧ RemedyPath r alert db db' := by
  induction texts generalizing db env account results with
  | nil =>
    cases h
    exact ⟨rfl, .refl⟩
  | cons text texts ih =>
    simp only [voidAll, bind_eq_ok, pure_eq_ok] at h
    obtain ⟨⟨db₁, account₁, result⟩, hvoid, ⟨db₂, account₂, rest⟩, hrest, h⟩ := h
    cases h
    obtain ⟨hid, hstep⟩ : _ ∧ RemedyPath r alert _ _ := voidFraudAuthorizationHold_path hvoid
    obtain ⟨hid', hpath⟩ := ih hrest
    exact ⟨hid'.trans hid, hstep.trans hpath⟩

theorem postFinancialTransaction_reports {q : PostingRequest} {p : JournalPosting}
    (h : postFinancialTransaction db env q = .ok (db', p)) :
    Reports Plain db.auditOutbox db'.auditOutbox := by
  obtain ⟨entries, -, ⟨-, -, -, -, rfl⟩ | ⟨-, happended⟩⟩ := postFinancialTransaction_cases h
  · exact .refl _ _
  · obtain ⟨l, e, -, -, -, -, hbox⟩ := happended.event
    exact reports_insert hbox (show PlainType FINANCIAL_EVENT_TYPE by decide)

theorem creditUnderLock_step {account updated : CreditAccount} {text : String} {alertId : Uuid}
    {result : ProvisionalCreditResult} (haccount : account.id = alert.creditAccountId)
    (disputed : text ∈ r.disputedTransactionIds)
    (h : creditUnderLock db env account text alertId = .ok (db', updated, result)) :
    updated.id = account.id ∧ RemedyStep r alert db db' := by
  simp only [creditUnderLock, uuidParam, addPostedTransaction, bind_eq_ok, orRaise_eq_ok,
    require_eq_ok, insert_eq_ok, recordAudit_eq_ok, pure_eq_ok] at h
  obtain ⟨id, hid, original, hfound, -, hdebit, -, hprior, ⟨db₀, action⟩, ha, ⟨db₁, mirror⟩, hm,
    ⟨db₂, clearing⟩, hc, money, hmoney, ⟨db₃, posting⟩, hp, db₄, ⟨posted, hposted, rfl⟩,
    ⟨db₅, account'⟩, hr, cleared, -, available, -, db₆, ⟨outbox, hbox, rfl⟩, h⟩ := h
  cases h
  obtain ⟨actions, rfl⟩ := createCaseAction_frame ha
  have hj : CardJournaled { db with fraudCaseActions := actions } account
      ("fraud-provisional-credit-journal:" ++ text) .credit money mirror clearing
      posting.transaction db₃ := cardJournaled (by decide) hm hc rfl hp
  have hreports := postFinancialTransaction_reports hp
  obtain ⟨accounts₁, rfl, -⟩ := ensureCreditJournalAccount_effect hm
  obtain ⟨accounts₂, rfl, -⟩ := ensureSystemJournalAccount_effect (by decide) hc
  obtain ⟨accounts, txs, entries, box, rfl⟩ := hj.frame
  obtain ⟨hbalance, rfl⟩ := recalculate_eq_ok hr
  refine ⟨by rw [hbalance], ?_⟩
  rw [haccount] at hfound hprior
  exact .credited disputed hid hfound hdebit hprior haccount rfl rfl rfl hposted
    (hreports.trans (reports_insert hbox
      (show PlainType "FRAUD_PROVISIONAL_CREDIT_APPLIED" by decide)))

theorem applyFraudProvisionalCredit_path {account updated : CreditAccount} {text : String}
    {alertId : Uuid} {result : ProvisionalCreditResult}
    (haccount : account.id = alert.creditAccountId) (disputed : text ∈ r.disputedTransactionIds)
    (h : applyFraudProvisionalCredit db env account text alertId = .ok (db', updated, result)) :
    updated.id = account.id ∧ RemedyPath r alert db db' := by
  rcases applyFraudProvisionalCredit_cases h with ⟨rfl, rfl⟩ | ⟨-, h⟩
  · exact ⟨rfl, .refl⟩
  · obtain ⟨hid, hstep⟩ := creditUnderLock_step haccount disputed h
    exact ⟨hid, .single hstep⟩

theorem creditAll_path {account updated : CreditAccount} {alertId : Uuid} {texts : List String}
    {results : List ProvisionalCreditResult} (haccount : account.id = alert.creditAccountId)
    (disputed : ∀ text ∈ texts, text ∈ r.disputedTransactionIds)
    (h : creditAll db env account alertId texts = .ok (db', updated, results)) :
    RemedyPath r alert db db' := by
  induction texts generalizing db env account results with
  | nil =>
    cases h
    exact .refl
  | cons text texts ih =>
    simp only [creditAll, bind_eq_ok, pure_eq_ok] at h
    obtain ⟨⟨db₁, account₁, result⟩, hcredit, ⟨db₂, account₂, rest⟩, hrest, h⟩ := h
    cases h
    obtain ⟨hid, hstep⟩ := applyFraudProvisionalCredit_path haccount
      (disputed text List.mem_cons_self) hcredit
    exact hstep.trans (ih (hid.trans haccount)
      (fun text ht => disputed text (List.mem_cons_of_mem _ ht)) hrest)

theorem recordAudit_step {eventType : String} {fields : List (String × JsonValue)}
    (h : recordAudit db env eventType fields = .ok db')
    (plain : PlainType eventType) : RemedyStep r alert db db' := by
  obtain ⟨outbox, hbox, rfl⟩ := recordAudit_eq_ok.mp h
  exact .noted (reports_insert hbox plain)

theorem sendSecureMessage_reports {uid threadId : String}
    (h : sendSecureMessage db env uid threadId = .ok db') :
    ∃ users outbox, db' = { db with users := users, auditOutbox := outbox } ∧
      Reports Plain db.auditOutbox outbox := by
  simp only [sendSecureMessage, bind_eq_ok, recordAudit_eq_ok] at h
  obtain ⟨db₁, huser, outbox, hbox, rfl⟩ := h
  unfold ensureUser at huser
  split at huser
  · cases huser
    exact ⟨_, outbox, rfl, reports_insert hbox (by decide : PlainType "MESSAGE_SENT")⟩
  · simp only [bind_eq_ok, insert_eq_ok, pure_eq_ok] at huser
    obtain ⟨users, -, rfl⟩ := huser
    exact ⟨users, outbox, rfl, reports_insert hbox (by decide : PlainType "MESSAGE_SENT")⟩

theorem resolveRecognized_path {result : TriageResult}
    (h : resolveRecognized db env alert = .ok (db', result)) : RemedyPath r alert db db' := by
  simp only [resolveRecognized, recordTriageMessage, bind_eq_ok, pure_eq_ok] at h
  obtain ⟨db₁, hsent, db₂, h₂, db₃, h₃, db₄, h₄, h⟩ := h
  cases h
  obtain ⟨users, outbox, rfl, events⟩ := sendSecureMessage_reports hsent
  have htold : RemedyPath r alert db (markTriaged
      { resolveAlert db env alert.id (.resolved "CUSTOMER_RECOGNIZED") with
        users := users, auditOutbox := outbox } env alert.id "CUSTOMER_RECOGNIZED" [] [] 0 none) :=
    ((ReflTransGen.single .settled).tail (.noted events)).tail .marked
  exact ((htold.tail (recordAudit_step h₂ (by decide))).tail (recordAudit_step h₃ (by decide))).tail
    (recordAudit_step h₄ (by decide))

/-- The alert is marked in the same step in which its card is replaced. -/
theorem replaceIfAsked_run {replacement : Option Uuid} {text uid threadId : String}
    {authorizationIds transactionIds : List String} {cents : ℤ} {db₁ : Db} {env₁ env₂ : Ambient}
    (disputes : r.hasDisputes = true)
    (h : replaceIfAsked db env alert r.issueReplacement = .ok (db₁, replacement))
    (sent : sendSecureMessage db₁ env₁ uid threadId = .ok db') :
    TriageRun r alert db (markTriaged db' env₂ alert.id text authorizationIds transactionIds cents
      replacement) := by
  obtain ⟨users, told, rfl, events⟩ := sendSecureMessage_reports sent
  unfold replaceIfAsked at h
  split at h
  · next asked =>
    simp only [issueReplacementCard, findReplacedCard, bind_eq_ok, orRaise_eq_ok, require_eq_ok,
      recordAudit_eq_ok, pure_eq_ok] at h
    obtain ⟨⟨db₁, issued⟩, ⟨account, -, current, ⟨card, hcard, -, -, rfl⟩, cards, -, db₂,
      ⟨outbox, hbox, rfl⟩, hissued⟩, h⟩ := h
    cases hissued
    cases h
    have hid : card.id = alert.cardId := by simpa using List.find?_some hcard
    exact .replaced .refl
      (.replaced asked disputes hbox rfl (by simp [AuditOutbox.field, hid]) events) .refl
  · cases h
    exact .kept ((ReflTransGen.single (.noted events)).tail .marked)

theorem remediateDisputes_run {account : CreditAccount} {result : TriageResult}
    (haccount : account.id = alert.creditAccountId) (disputes : r.hasDisputes = true)
    (h : remediateDisputes db env r alert account = .ok (db', result)) :
    TriageRun r alert db db' := by
  simp only [remediateDisputes, recordTriageMessage, bind_eq_ok, pure_eq_ok] at h
  obtain ⟨⟨db₁, account₁, voided⟩, hvoid, ⟨db₂, account₂, credits⟩, hcredit, ⟨db₃, replacement⟩,
    hreplace, db₄, hsent, voidedMoney, -, creditMoney, -, db₅, hrecorded, db₆, htold, h⟩ := h
  cases h
  obtain ⟨hid, hvoids⟩ : _ ∧ RemedyPath r alert _ _ := voidAll_path hvoid
  have hcredits := creditAll_path (r := r) (hid.trans haccount) (fun _ ht => ht) hcredit
  exact TriageRun.after (hvoids.trans hcredits) ((replaceIfAsked_run disputes hreplace hsent).trans
    (((ReflTransGen.single .settled).tail (recordAudit_step hrecorded (by decide))).tail
      (recordAudit_step htold (by decide))))

theorem triageAfterLookup_run {sha256 : String → String} {account : CreditAccount}
    {result : CaseResult} (haccount : account.id = alert.creditAccountId)
    (h : triageAfterLookup sha256 db env r alert account none = .ok (db', result)) :
    checkScope alert r = .ok () ∧ TriageRun r alert db db' := by
  simp only [triageAfterLookup, bind_eq_ok] at h
  obtain ⟨⟨db₁, action⟩, ha, ⟨⟩, hscope, h⟩ := h
  obtain ⟨actions, rfl⟩ := createCaseAction_frame ha
  have hnoted : RemedyStep r alert db { db with fraudCaseActions := actions } :=
    .noted (.refl _ _)
  have hdone : ∀ v result, RemedyStep r alert v (completeCaseAction v env action.id result) :=
    fun v _ => .noted (.refl _ _)
  refine ⟨hscope, TriageRun.after (.single hnoted) ?_⟩
  split at h
  · next disputes =>
    simp only [bind_eq_ok, pure_eq_ok] at h
    obtain ⟨⟨db₂, result'⟩, hremedy, h⟩ := h
    cases h
    exact (remediateDisputes_run haccount disputes hremedy).trans (.single (hdone _ _))
  · simp only [bind_eq_ok, pure_eq_ok] at h
    obtain ⟨⟨db₂, result'⟩, hremedy, h⟩ := h
    cases h
    exact .kept ((resolveRecognized_path hremedy).tail (hdone _ _))

theorem triageFraudCase_cases {sha256 : String → String} {result : Option CaseResult}
    (h : triageFraudCase sha256 db env r = .ok (db', result)) :
    db' = db ∨ ∃ alert, TriageExecutes sha256 db r alert ∧ TriageRun r alert db db' := by
  simp only [triageFraudCase, uuidParam, bind_eq_ok, orRaise_eq_ok] at h
  obtain ⟨id, hid, h⟩ := h
  split at h
  · cases h
    exact Or.inl rfl
  · next alert halert =>
    simp only [requireFraudAccount, bind_eq_ok, orRaise_eq_ok, Option.filter_eq_some_iff,
      decide_eq_true_eq, pure_eq_ok] at h
    obtain ⟨account, ⟨hget, howner⟩, ⟨db₁, result'⟩, htriage, h⟩ := h
    cases h
    cases hdone : getSucceededAction db alert.id (workflowKey sha256 r) with
    | some action =>
      simp only [hdone, triageAfterLookup, bind_eq_ok, pure_eq_ok] at htriage
      obtain ⟨result, -, htriage⟩ := htriage
      cases htriage
      exact Or.inl rfl
    | none =>
      rw [hdone] at htriage
      obtain ⟨hscope, hrun⟩ := triageAfterLookup_run (Table.get?_eq_some.mp hget).2 htriage
      exact Or.inr ⟨alert, ⟨⟨id, hid, halert⟩, ⟨account, hget, howner⟩, hdone, hscope⟩, hrun⟩

end BankingService
