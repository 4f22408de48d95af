import BankingService.Operations
import BankingService.Remediation

/-! The cached balance of a deposit account follows the journal, through every call of the service:
a card's postings leave the deposits alone, and what a payment, a transfer or an opening writes to a
deposit account is what it writes to the journal. -/
namespace BankingService.DepositLedger

open Python Relational Checked Runs

/-- What an entry does to the account it is on, as the holder of a deposit sees it. -/
def signed (e : AccountLedgerEntry) : ℤ :=
  match e.entryType with
  | .credit => e.amountMinor
  | .debit => -e.amountMinor

def net (db : Db) (id : Uuid) : ℤ :=
  db.ledgerEntries.total fun e => if e.accountId = id then signed e else 0

def Owned (db : Db) : Prop :=
  ∀ e ∈ db.ledgerEntries.rows, (db.accounts.get? e.accountId).isSome = true

/-- What an account held before the journal of a run begins; an account that was not there yet held
nothing. -/
def opening (start : Db) (id : Uuid) : ℤ :=
  match start.accounts.get? id with
  | some a => a.clearedBalanceCents - net start id
  | none => 0

def Covered (db : Db) : Prop :=
  ∀ id a, db.accounts.get? id = some a → a.isDeposit → 0 ≤ a.clearedBalanceCents

structure OnJournal (start db : Db) : Prop where
  owned : Owned db
  present : ∀ id, (start.accounts.get? id).isSome = true → (db.accounts.get? id).isSome = true
  balance : ∀ id a, db.accounts.get? id = some a → a.isDeposit →
    a.clearedBalanceCents = opening start id + net db id
  covered : Covered db

section
variable {start db db₁ db' : Db} {env : Ambient}

theorem onJournal_start (owned : Owned db) (covered : Covered db) : OnJournal db db := by
  refine ⟨owned, fun _ h => h, ?_, covered⟩
  intro id a ha _
  simp only [opening, ha]
  omega

theorem OnJournal.opening_absent (h : OnJournal start db) {id : Uuid}
    (hnew : db.accounts.get? id = none) : opening start id = 0 := by
  have hstart : start.accounts.get? id = none := by
    by_contra hne
    have hsome := h.present id (Option.isSome_iff_ne_none.mpr hne)
    rw [hnew] at hsome
    cases hsome
  simp only [opening, hstart]

theorem net_same (h : db'.ledgerEntries = db.ledgerEntries) (id : Uuid) :
    net db' id = net db id := by
  unfold net
  rw [h]

theorem net_pair {key : String} {debit credit : Uuid} {money : Money} {t : Transaction}
    (h : PairAppended db key debit credit money t db') (id : Uuid) :
    net db' id = net db id - (if debit = id then money.amountMinor else 0) +
      (if credit = id then money.amountMinor else 0) := by
  obtain ⟨e₁, e₂, hinsert, ⟨ha₁, hd₁, hm₁⟩, ⟨ha₂, hd₂, hm₂⟩, -, -⟩ := h.entries
  have hrows := Table.rows_insertAll hinsert
  unfold net Table.total
  rw [hrows, List.map_append, List.sum_append]
  simp only [List.map_cons, List.map_nil, List.sum_cons, List.sum_nil, signed, ha₁, hd₁, hm₁, ha₂,
    hd₂, hm₂]
  by_cases hdebit : debit = id <;> by_cases hcredit : credit = id <;>
    simp only [hdebit, hcredit, if_true, if_false] <;> omega

theorem owned_pair {key : String} {debit credit : Uuid} {money : Money} {t : Transaction}
    (h : PairAppended db key debit credit money t db₁)
    (hentries : db'.ledgerEntries = db₁.ledgerEntries)
    (present : ∀ id, (db.accounts.get? id).isSome = true → (db'.accounts.get? id).isSome = true)
    (hdebit : (db'.accounts.get? debit).isSome = true)
    (hcredit : (db'.accounts.get? credit).isSome = true) (owned : Owned db) : Owned db' := by
  obtain ⟨e₁, e₂, hinsert, ⟨ha₁, -, -⟩, ⟨ha₂, -, -⟩, -, -⟩ := h.entries
  intro e he
  rw [hentries, Table.rows_insertAll hinsert, List.mem_append] at he
  rcases he with he | he
  · exact present _ (owned e he)
  · rcases List.mem_cons.mp he with rfl | he
    · rw [ha₁]
      exact hdebit
    · rw [List.mem_singleton.mp he, ha₂]
      exact hcredit

theorem net_absent (owned : Owned db) {id : Uuid} (h : db.accounts.get? id = none) :
    net db id = 0 := by
  unfold net Table.total
  apply List.sum_eq_zero
  intro x hx
  obtain ⟨e, he, rfl⟩ := List.mem_map.mp hx
  rw [if_neg]
  intro hid
  have hsome := owned e he
  rw [hid, h] at hsome
  cases hsome

structure LeavesDeposits (db db' : Db) : Prop where
  accounts : ∀ id a, a.isDeposit → (db'.accounts.get? id = some a ↔ db.accounts.get? id = some a)
  present : ∀ id, (db.accounts.get? id).isSome = true → (db'.accounts.get? id).isSome = true
  entries : ∀ id a, db.accounts.get? id = some a → a.isDeposit → net db' id = net db id
  owned : Owned db → Owned db'

theorem LeavesDeposits.refl (db : Db) : LeavesDeposits db db :=
  ⟨fun _ _ _ => Iff.rfl, fun _ h => h, fun _ _ _ _ => rfl, fun h => h⟩

theorem LeavesDeposits.trans (h : LeavesDeposits db db₁) (h' : LeavesDeposits db₁ db') :
    LeavesDeposits db db' := by
  refine ⟨?_, fun id hid => h'.present id (h.present id hid), ?_, fun ho => h'.owned (h.owned ho)⟩
  · intro id a ha
    exact (h'.accounts id a ha).trans (h.accounts id a ha)
  · intro id a hget ha
    rw [h'.entries id a ((h.accounts id a ha).mpr hget) ha]
    exact h.entries id a hget ha

theorem leavesDeposits_same (ha : db'.accounts = db.accounts)
    (hl : db'.ledgerEntries = db.ledgerEntries) : LeavesDeposits db db' := by
  refine ⟨?_, ?_, fun id _ _ _ => net_same hl id, ?_⟩
  · intro id a _
    rw [ha]
  · intro id h
    rw [ha]
    exact h
  · intro owned e he
    rw [ha]
    rw [hl] at he
    exact owned e he

theorem LeavesDeposits.onJournal (h : LeavesDeposits db db') (hj : OnJournal start db) :
    OnJournal start db' := by
  refine ⟨h.owned hj.owned, fun id hid => h.present id (hj.present id hid), ?_, ?_⟩
  · intro id a ha hdeposit
    have hbefore := (h.accounts id a hdeposit).mp ha
    rw [h.entries id a hbefore hdeposit]
    exact hj.balance id a hbefore hdeposit
  · intro id a ha hdeposit
    exact hj.covered id a ((h.accounts id a hdeposit).mp ha) hdeposit

theorem isDeposit_not_system {a : Account} (h : a.isDeposit) : a.accountType ≠ .system := by
  rcases h with h | h <;> rw [h] <;> decide

theorem cardBooks_leave {updated : CreditAccount} {mirrorId clearingId debit credit : Uuid}
    {key : String} {money : Money} {t : Transaction}
    (hbooks : CardBooks db.accounts updated mirrorId clearingId db'.accounts)
    (hdebit : debit = mirrorId ∨ debit = clearingId)
    (hcredit : credit = mirrorId ∨ credit = clearingId)
    (hj : PairJournaled db key debit credit money t db') : LeavesDeposits db db' := by
  obtain ⟨m, hm, hmcard, -⟩ := hbooks.mirror
  obtain ⟨s, hs, hsystem⟩ := hbooks.clearing
  have haccounts : ∀ id a, a.isDeposit →
      (db'.accounts.get? id = some a ↔ db.accounts.get? id = some a) := by
    intro id a ha
    have hunmirrored := ha.unmirrored
    by_cases hid : id = mirrorId
    · constructor
      · intro h
        rw [hid, hm] at h
        cases h
        rw [hunmirrored] at hmcard
        cases hmcard
      · intro h
        have hcard := hbooks.before a (hid ▸ h)
        rw [hunmirrored] at hcard
        cases hcard
    · constructor
      · intro h
        rcases hbooks.opened id a hid h with h | h
        · exact h
        · exact absurd h (isDeposit_not_system ha)
      · exact hbooks.kept id a hid
  have hpresent :
    ∀ id, (db.accounts.get? id).isSome = true → (db'.accounts.get? id).isSome = true := by
    intro id h
    by_cases hid : id = mirrorId
    · rw [hid, hm]
      rfl
    · obtain ⟨a, ha⟩ := Option.isSome_iff_exists.mp h
      rw [hbooks.kept id a hid ha]
      rfl
  have hside : ∀ id, id = mirrorId ∨ id = clearingId → (db'.accounts.get? id).isSome = true ∧
      ∀ a, db.accounts.get? id = some a → ¬ a.isDeposit := by
    rintro id (rfl | rfl)
    · refine ⟨by rw [hm]; rfl, ?_⟩
      intro a ha hdeposit
      have hcard := hbooks.before a ha
      rw [hdeposit.unmirrored] at hcard
      cases hcard
    · refine ⟨by rw [hs]; rfl, ?_⟩
      intro a ha hdeposit
      have hkept := (haccounts id a hdeposit).mpr ha
      rw [hs] at hkept
      cases hkept
      exact isDeposit_not_system hdeposit hsystem
  cases hj with
  | found stored keyed transactions entries =>
    refine ⟨haccounts, hpresent, fun id _ _ _ => net_same entries id, ?_⟩
    intro owned e he
    rw [entries] at he
    exact hpresent _ (owned e he)
  | appended new =>
    refine ⟨haccounts, hpresent, ?_, ?_⟩
    · intro id a ha hdeposit
      have hd : debit ≠ id := fun h => (hside debit hdebit).2 a (h ▸ ha) hdeposit
      have hc : credit ≠ id := fun h => (hside credit hcredit).2 a (h ▸ ha) hdeposit
      rw [net_pair new id, if_neg hd, if_neg hc]
      omega
    · exact owned_pair new rfl hpresent (hside debit hdebit).1 (hside credit hcredit).1

theorem cardPosting_leaves {account updated : CreditAccount} {key : String} {intoMirror : Direction}
    {money : Money} {statement : PostedTransaction}
    (h : CardPosting db account updated key intoMirror money statement db') :
    LeavesDeposits db db' := by
  obtain ⟨mirrorId, clearingId, t, hbooks, -, hj⟩ := h.journal
  refine cardBooks_leave hbooks ?_ ?_ hj
  · unfold sideOf
    split
    · exact Or.inl rfl
    · exact Or.inr rfl
  · unfold sideOf
    split
    · exact Or.inl rfl
    · exact Or.inr rfl

theorem settlement_leaves {r : CardSettlementRequest} {result : SettlementResult}
    (h : processSettlement db env r = .ok (db', result)) : LeavesDeposits db db' := by
  obtain ⟨auth, account, -, -, -, -, h⟩ := processSettlement_cases h
  obtain ⟨updated, statement, hs⟩ := settled_of_ok h
  obtain ⟨money, -, hp⟩ := hs.posting
  exact cardPosting_leaves hp

theorem networkReversal_leaves {r : CardReversalRequest} {available : ℤ}
    (h : processReversal db env r = .ok (db', available)) : LeavesDeposits db db' := by
  obtain ⟨auth, account, -, -, -, h⟩ := processReversal_cases h
  simp only [reverseHold, bind_eq_ok, recordAudit_eq_ok, pure_eq_ok] at h
  obtain ⟨⟨db₁, updated⟩, hr, db₂, ⟨outbox, -, rfl⟩, h⟩ := h
  cases h
  obtain ⟨-, rfl⟩ := recalculate_eq_ok hr
  exact leavesDeposits_same rfl rfl

theorem feeReversal_leaves {accountId : Uuid} {transactionId : String} {result : FeeReversalResult}
    (h : reversePostedFee db env accountId transactionId = .ok (db', result)) :
    LeavesDeposits db db' := by
  simp only [reversePostedFee, bind_eq_ok] at h
  obtain ⟨account, -, h⟩ := h
  obtain ⟨original, updated, statement, hr⟩ := feeReversed_of_ok h
  obtain ⟨money, -, hp⟩ := hr.posting
  exact cardPosting_leaves hp

theorem void_leaves {account updated : CreditAccount} {text : String} {alertId : Uuid}
    {result : VoidResult}
    (h : voidFraudAuthorizationHold db env account text alertId = .ok (db', updated, result)) :
    LeavesDeposits db db' := by
  rcases voidFraudAuthorizationHold_cases h with ⟨rfl, rfl⟩ | h
  · exact .refl _
  · simp only [voidUnderLock, bind_eq_ok, orRaise_eq_ok, require_eq_ok, recordAudit_eq_ok,
      pure_eq_ok] at h
    obtain ⟨id, -, auth, -, -, -, ⟨db₁, action⟩, ha, release, -, -, -, ⟨db₂, account'⟩, hr,
      available, -, db₃, ⟨outbox, -, rfl⟩, h⟩ := h
    cases h
    obtain ⟨actions, rfl⟩ := createCaseAction_frame ha
    obtain ⟨-, rfl⟩ := recalculate_eq_ok hr
    exact leavesDeposits_same rfl rfl

theorem credit_leaves {account updated : CreditAccount} {text : String} {alertId : Uuid}
    {result : ProvisionalCreditResult}
    (h : applyFraudProvisionalCredit db env account text alertId = .ok (db', updated, result)) :
    LeavesDeposits db db' := by
  rcases applyFraudProvisionalCredit_cases h with ⟨rfl, rfl⟩ | ⟨-, h⟩
  · exact .refl _
  · obtain ⟨original, statement, hr⟩ := provisionallyCredited_of_ok h
    obtain ⟨money, -, hp⟩ := hr.posting
    exact cardPosting_leaves hp

theorem voidOnAccount_leaves {accountId alertId : Uuid} {text : String} {result : VoidResult}
    (h : voidOnAccount db env accountId text alertId = .ok (db', result)) :
    LeavesDeposits db db' := by
  simp only [voidOnAccount, bind_eq_ok, pure_eq_ok] at h
  obtain ⟨account, -, ⟨db₁, updated, result'⟩, hvoid, h⟩ := h
  cases h
  exact void_leaves hvoid

theorem creditOnAccount_leaves {accountId alertId : Uuid} {text : String}
    {result : ProvisionalCreditResult}
    (h : creditOnAccount db env accountId text alertId = .ok (db', result)) :
    LeavesDeposits db db' := by
  simp only [creditOnAccount, bind_eq_ok, pure_eq_ok] at h
  obtain ⟨account, -, ⟨db₁, updated, result'⟩, hcredit, h⟩ := h
  cases h
  exact credit_leaves hcredit

theorem voidAll_leaves {account updated : CreditAccount} {alertId : Uuid} {texts : List String}
    {results : List VoidResult}
    (h : voidAll db env account alertId texts = .ok (db', updated, results)) :
    LeavesDeposits db db' := by
  induction texts generalizing db env account results with
  | nil =>
    cases h
    exact .refl _
  | cons text texts ih =>
    simp only [voidAll, bind_eq_ok, pure_eq_ok] at h
    obtain ⟨⟨db₁, account₁, result⟩, hvoid, ⟨db₂, account₂, rest⟩, hrest, h⟩ := h
    cases h
    exact (void_leaves hvoid).trans (ih hrest)

theorem creditAll_leaves {account updated : CreditAccount} {alertId : Uuid} {texts : List String}
    {results : List ProvisionalCreditResult}
    (h : creditAll db env account alertId texts = .ok (db', updated, results)) :
    LeavesDeposits db db' := by
  induction texts generalizing db env account results with
  | nil =>
    cases h
    exact .refl _
  | cons text texts ih =>
    simp only [creditAll, bind_eq_ok, pure_eq_ok] at h
    obtain ⟨⟨db₁, account₁, result⟩, hcredit, ⟨db₂, account₂, rest⟩, hrest, h⟩ := h
    cases h
    exact (credit_leaves hcredit).trans (ih hrest)

theorem audit_leaves {eventType : String} {fields : List (String × JsonValue)}
    (h : recordAudit db env eventType fields = .ok db') : LeavesDeposits db db' := by
  obtain ⟨outbox, -, rfl⟩ := recordAudit_eq_ok.mp h
  exact leavesDeposits_same rfl rfl

theorem message_leaves {uid threadId : String}
    (h : sendSecureMessage db env uid threadId = .ok db') :
    LeavesDeposits db db' := by
  obtain ⟨users, outbox, rfl⟩ := sendSecureMessage_frame h
  exact leavesDeposits_same rfl rfl

theorem replacement_leaves {alert : FraudAlert} {asked : Bool} {replacement : Option Uuid}
    (h : replaceIfAsked db env alert asked = .ok (db', replacement)) : LeavesDeposits db db' := by
  unfold replaceIfAsked at h
  split at h
  · simp only [issueReplacementCard, bind_eq_ok, orRaise_eq_ok, insert_eq_ok, recordAudit_eq_ok,
      pure_eq_ok] at h
    obtain ⟨⟨db₁, issued⟩, ⟨account, -, current, -, cards, -, db₂, ⟨outbox, -, rfl⟩, hissued⟩, h⟩ :=
      h
    cases hissued
    cases h
    exact leavesDeposits_same rfl rfl
  · cases h
    exact .refl _

theorem disputes_leave {r : TriageRequest} {alert : FraudAlert} {account : CreditAccount}
    {result : TriageResult} (h : remediateDisputes db env r alert account = .ok (db', result)) :
    LeavesDeposits db db' := by
  simp only [remediateDisputes, recordTriageMessage, bind_eq_ok, pure_eq_ok] at h
  obtain ⟨⟨db₁, account₁, voided⟩, hvoid, ⟨db₂, account₂, credits⟩, hcredit, ⟨db₃, replacement⟩,
    hreplace, db₄, hsent, voidedMoney, -, creditMoney, -, db₅, hrecorded, db₆, htold, h⟩ := h
  cases h
  have hmarked : ∀ status text holds posted cents card, LeavesDeposits db₄
      (setAlertStatus (markTriaged db₄ env alert.id text holds posted cents card) alert.id status
        none) :=
    fun _ _ _ _ _ _ => leavesDeposits_same rfl rfl
  have hremedied := ((voidAll_leaves hvoid).trans (creditAll_leaves hcredit)).trans
    (replacement_leaves hreplace)
  exact (((hremedied.trans (message_leaves hsent)).trans (hmarked _ _ _ _ _ _)).trans
    (audit_leaves hrecorded)).trans (audit_leaves htold)

theorem recognized_leaves {alert : FraudAlert} {result : TriageResult}
    (h : resolveRecognized db env alert = .ok (db', result)) : LeavesDeposits db db' := by
  simp only [resolveRecognized, recordTriageMessage, bind_eq_ok, pure_eq_ok] at h
  obtain ⟨db₁, hsent, db₂, h₂, db₃, h₃, db₄, h₄, h⟩ := h
  cases h
  have hresolved :
    LeavesDeposits db (resolveAlert db env alert.id (.resolved "CUSTOMER_RECOGNIZED")) :=
    leavesDeposits_same rfl rfl
  have hmarked :
    LeavesDeposits db₁ (markTriaged db₁ env alert.id "CUSTOMER_RECOGNIZED" [] [] 0 none) :=
    leavesDeposits_same rfl rfl
  exact ((((hresolved.trans (message_leaves hsent)).trans hmarked).trans (audit_leaves h₂)).trans
    (audit_leaves h₃)).trans (audit_leaves h₄)

theorem triage_leaves {sha256 : String → String} {r : TriageRequest} {result : Option CaseResult}
    (h : triageFraudCase sha256 db env r = .ok (db', result)) : LeavesDeposits db db' := by
  simp only [triageFraudCase, bind_eq_ok] at h
  obtain ⟨id, -, h⟩ := h
  split at h
  · cases h
    exact .refl _
  · simp only [bind_eq_ok, pure_eq_ok] at h
    obtain ⟨account, -, ⟨db₁, result'⟩, htriage, h⟩ := h
    cases h
    unfold triageAfterLookup at htriage
    split at htriage
    · simp only [bind_eq_ok, pure_eq_ok] at htriage
      obtain ⟨result, -, htriage⟩ := htriage
      cases htriage
      exact .refl _
    · simp only [bind_eq_ok] at htriage
      obtain ⟨⟨db₂, action⟩, ha, ⟨⟩, -, htriage⟩ := htriage
      obtain ⟨actions, rfl⟩ := createCaseAction_frame ha
      have hnoted : LeavesDeposits db { db with fraudCaseActions := actions } :=
        leavesDeposits_same rfl rfl
      have hdone : ∀ v result, LeavesDeposits v (completeCaseAction v env action.id result) :=
        fun _ _ => leavesDeposits_same rfl rfl
      split at htriage
      · simp only [bind_eq_ok, pure_eq_ok] at htriage
        obtain ⟨⟨db₃, result⟩, hremedy, htriage⟩ := htriage
        cases htriage
        exact (hnoted.trans (disputes_leave hremedy)).trans (hdone _ _)
      · simp only [bind_eq_ok, pure_eq_ok] at htriage
        obtain ⟨⟨db₃, result⟩, hremedy, htriage⟩ := htriage
        cases htriage
        exact (hnoted.trans (recognized_leaves hremedy)).trans (hdone _ _)

theorem increase_leaves {accountId : Uuid} {limit : ℤ} {result : LimitIncreaseResult}
    (h : applyLimitIncrease db env accountId limit = .ok (db', result)) :
    LeavesDeposits db db' := by
  simp only [applyLimitIncrease, bind_eq_ok, require_eq_ok, orRaise_eq_ok, recordAudit_eq_ok,
    pure_eq_ok] at h
  obtain ⟨-, -, account, -, ⟨⟩, -, -, -, -, -, db₁, ⟨outbox, -, rfl⟩, h⟩ := h
  cases h
  exact leavesDeposits_same rfl rfl

theorem unrecorded_leaves {r : CardAuthHoldRequest} {context : List (String × JsonValue)}
    {code reason : String} :
    LeavesDeposits db (commitOrRollback db (declineUnrecorded db env r context code reason)).1 := by
  apply commitOrRollback_keeps (P := LeavesDeposits db) (.refl _)
  intro db' response h
  obtain ⟨outbox, rfl⟩ := declineUnrecorded_frame h
  exact leavesDeposits_same rfl rfl

theorem finishHold_leaves {r : CardAuthHoldRequest} {placed : PlacedHold} {account : CreditAccount}
    {response : AuthorizationResponse}
    (h : finishHold db env r placed account = .ok (db', response)) : LeavesDeposits db db' := by
  simp only [finishHold, bind_eq_ok, recordAudit_eq_ok, pure_eq_ok] at h
  obtain ⟨⟨db₁, updated⟩, hr, db₂, ⟨outbox, -, rfl⟩, h⟩ := h
  cases h
  obtain ⟨-, rfl⟩ := recalculate_eq_ok hr
  exact leavesDeposits_same rfl rfl

theorem authorizeUnderLock_leaves {r : CardAuthHoldRequest} {f : FraudEvaluation}
    {card : IssuedCard}
    {account : CreditAccount} {alert : Option FraudAlert} {progress : HoldProgress}
    (h : authorizeUnderLock db env r f card account alert = .ok (db', progress)) :
    LeavesDeposits db db' := by
  unfold authorizeUnderLock at h
  split at h
  · simp only [bind_eq_ok, pure_eq_ok] at h
    obtain ⟨⟨db₁, response⟩, hd, h⟩ := h
    cases h
    obtain ⟨outbox, rfl⟩ := declineUnrecorded_frame hd
    exact leavesDeposits_same rfl rfl
  split at h
  · simp only [declineInsufficientFunds, addAuthorization, bind_eq_ok, recordAudit_eq_ok,
      pure_eq_ok] at h
    obtain ⟨⟨db₁, response⟩, ⟨db₂, ⟨holds, -, rfl⟩, db₃, ⟨outbox, -, rfl⟩, hd⟩, h⟩ := h
    cases hd
    cases h
    exact leavesDeposits_same rfl rfl
  · simp only [placeHold, addAuthorization, bind_eq_ok, recordAudit_eq_ok, pure_eq_ok] at h
    obtain ⟨⟨db₁, placed⟩, ⟨db₂, ⟨holds, -, rfl⟩, db₃, ⟨outbox, -, rfl⟩, ⟨db₄, id, notice⟩, ha,
      hp⟩, h⟩ := h
    cases hp
    obtain ⟨alerts, users, outbox', hraised⟩ := raiseAlert_frame ha
    have hplaced : LeavesDeposits db db₄ := by
      rw [hraised]
      exact leavesDeposits_same rfl rfl
    split at h
    · cases h
      exact hplaced
    · simp only [bind_eq_ok, pure_eq_ok] at h
      obtain ⟨⟨db₅, response⟩, hf, h⟩ := h
      cases h
      exact hplaced.trans (finishHold_leaves hf)

theorem authorization_leaves {r : CardAuthHoldRequest} {f : FraudEvaluation} :
    LeavesDeposits db (processAuthorization db env r f).1 := by
  unfold processAuthorization
  split
  · exact .refl _
  · split
    · exact unrecorded_leaves
    · split
      · split
        · exact unrecorded_leaves
        · split
          · exact .refl _
          · next hu => exact authorizeUnderLock_leaves hu
          · next hu =>
            have hplaced := authorizeUnderLock_leaves hu
            split
            · exact hplaced
            · apply commitOrRollback_keeps (P := LeavesDeposits db) hplaced
              intro db' response h
              obtain ⟨outbox, account, -, hf⟩ := finishCommittedHold_cases h
              refine (hplaced.trans ?_).trans (finishHold_leaves hf)
              exact leavesDeposits_same rfl rfl
      · exact unrecorded_leaves

theorem replayPayment_none {sha256 : String → String} {p : BillPayment}
    (h : replayPayment sha256 db p = .ok none) :
    findTransaction db (durableKey sha256 p.userId p.idempotencyKey) = none := by
  unfold replayPayment at h
  split at h
  · assumption
  · split at h
    · cases h
    · split at h <;> cases h

theorem paid_onJournal {sha256 : String → String} {p : BillPayment} {deposit : Account}
    {card updated : CreditAccount} {statement : PostedTransaction} {t : Transaction}
    {result : BillPaymentResult} (hget : db.accounts.get? deposit.id = some deposit)
    (hdeposit : deposit.isDeposit) (hfunds : p.money.amountMinor ≤ deposit.clearedBalanceCents)
    (h : Paid sha256 db p deposit card none updated statement t result db')
    (hj : OnJournal start db) : OnJournal start db' := by
  obtain ⟨mirrorId, hbooks, ⟨-, db₁, hpair, hentries, -⟩ | ⟨hnone, -⟩⟩ := h.books
  swap
  · cases hnone
  obtain ⟨m, hm, hmcard, -⟩ := hbooks.mirror
  have hpresent :
    ∀ id, (db.accounts.get? id).isSome = true → (db'.accounts.get? id).isSome = true := by
    intro id hsome
    by_cases hmirror : id = mirrorId
    · rw [hmirror, hm]
      rfl
    · by_cases hpaid : id = deposit.id
      · rw [hpaid, hbooks.paid]
        rfl
      · rw [hbooks.kept id hmirror hpaid]
        exact hsome
  have hnet : ∀ id, id ≠ mirrorId →
      net db' id = net db id - (if deposit.id = id then p.money.amountMinor else 0) := by
    intro id hid
    rw [net_same hentries, net_pair hpair id, if_neg hid.symm]
    omega
  -- a deposit account after the payment is one from before it, lower by what it paid
  have hcases : ∀ id a, db'.accounts.get? id = some a → a.isDeposit → id ≠ mirrorId ∧
      ∃ b, db.accounts.get? id = some b ∧ b.isDeposit ∧ a.clearedBalanceCents =
        b.clearedBalanceCents - (if deposit.id = id then p.money.amountMinor else 0) ∧
        (deposit.id = id → b = deposit) := by
    intro id a ha hdep
    have hmirror : id ≠ mirrorId := by
      rintro rfl
      rw [hm] at ha
      cases ha
      rw [hdep.unmirrored] at hmcard
      cases hmcard
    refine ⟨hmirror, ?_⟩
    by_cases hpaid : id = deposit.id
    · subst hpaid
      rw [hbooks.paid] at ha
      cases ha
      exact ⟨deposit, hget, hdeposit, by rw [if_pos rfl], fun _ => rfl⟩
    · rw [hbooks.kept id hmirror hpaid] at ha
      refine ⟨a, ha, hdep, ?_, fun heq => absurd heq.symm hpaid⟩
      rw [if_neg (fun heq => hpaid heq.symm)]
      omega
  refine ⟨?_, fun id hid => hpresent id (hj.present id hid), ?_, ?_⟩
  · refine owned_pair hpair hentries hpresent (hpresent _ (by rw [hget]; rfl)) ?_ hj.owned
    rw [hm]
    rfl
  · intro id a ha hdep
    obtain ⟨hmirror, b, hb, hbdep, hcleared, -⟩ := hcases id a ha hdep
    rw [hcleared, hj.balance id b hb hbdep, hnet id hmirror]
    omega
  · intro id a ha hdep
    obtain ⟨-, b, hb, hbdep, hcleared, hsame⟩ := hcases id a ha hdep
    have hcovered := hj.covered id b hb hbdep
    by_cases hpaid : deposit.id = id
    · rw [hcleared, if_pos hpaid, hsame hpaid]
      omega
    · rw [hcleared, if_neg hpaid]
      omega

theorem payment_onJournal {sha256 : String → String} {r : BillPaymentRequest}
    {result : BillPaymentResult} (h : executeBillPaymentForUser sha256 db env r = .ok (db', result))
    (hj : OnJournal start db) : OnJournal start db' := by
  simp only [executeBillPaymentForUser, bind_eq_ok] at h
  obtain ⟨p, -, previous, hreplay, h⟩ := h
  cases previous with
  | some previous =>
    rw [pure_eq_ok] at h
    cases h
    exact hj
  | none =>
    simp only [bind_eq_ok] at h
    obtain ⟨deposit, hd, card, hc, ⟨⟩, hfunds, -, -, h⟩ := h
    obtain ⟨hget, -, hdeposit⟩ := findSource_eq_ok hd
    split at h
    · simp only [bind_eq_ok, pure_eq_ok] at h
      obtain ⟨previous, -, h⟩ := h
      cases h
      exact hj
    · cases h
    · rw [replayPayment_none hreplay] at h
      obtain ⟨updated, statement, t, hpaid⟩ := paid_of_ok sha256 hget hdeposit h
      simp only [checkFunds, bind_eq_ok, require_eq_ok] at hfunds
      obtain ⟨-, -, -, henough, -⟩ := hfunds
      exact paid_onJournal hget hdeposit henough hpaid hj

theorem transferOut_isDeposit {amount : ℤ} {a : Account} :
    (a.transferOut amount).isDeposit ↔ a.isDeposit := by
  unfold Account.transferOut
  split
  · exact Iff.rfl
  · split <;> exact Iff.rfl

theorem transferIn_isDeposit {amount : ℤ} {a : Account} :
    (a.transferIn amount).isDeposit ↔ a.isDeposit := by
  unfold Account.transferIn
  split
  · exact Iff.rfl
  · split <;> exact Iff.rfl

theorem transferOut_id (amount : ℤ) (a : Account) : (a.transferOut amount).id = a.id := by
  unfold Account.transferOut
  split
  · rfl
  · split <;> rfl

theorem transferIn_id (amount : ℤ) (a : Account) : (a.transferIn amount).id = a.id := by
  unfold Account.transferIn
  split
  · rfl
  · split <;> rfl

/-- A deposit account after a transfer is one from before it, less what it sent and more by what it
received. -/
theorem moved_deposit {source dest : Uuid} {amount : ℤ} {id : Uuid} {a : Account}
    (ha : (moveBalances db source dest amount).accounts.get? id = some a) (hdep : a.isDeposit) :
    ∃ b, db.accounts.get? id = some b ∧ b.isDeposit ∧
      a.clearedBalanceCents = b.clearedBalanceCents -
      (if source = id then amount else 0) + (if dest = id then amount else 0) := by
  simp only [moveBalances] at ha
  rw [Table.get?_update _ (transferIn_id amount) (Account.transferIn_clash amount)] at ha
  have hout : ∀ k, (db.accounts.update source (Account.transferOut amount)
      (Account.transferOut_clash amount)).get? k =
      if k = source then (db.accounts.get? source).map (Account.transferOut amount)
      else db.accounts.get? k :=
    fun k => Table.get?_update _ (transferOut_id amount) _
  have hsent : ∀ c, (db.accounts.update source (Account.transferOut amount)
      (Account.transferOut_clash amount)).get? id = some c → c.isDeposit →
      ∃ b, db.accounts.get? id = some b ∧ b.isDeposit ∧
        c.clearedBalanceCents = b.clearedBalanceCents - (if source = id then amount else 0) := by
    intro c hc hcdep
    rw [hout id] at hc
    by_cases hid : id = source
    · subst hid
      rw [if_pos rfl] at hc
      obtain ⟨b, hb, rfl⟩ := Option.map_eq_some_iff.mp hc
      have hbdep := transferOut_isDeposit.mp hcdep
      refine ⟨b, hb, hbdep, ?_⟩
      rw [if_pos rfl, Account.transferOut, if_pos hbdep]
    · rw [if_neg hid] at hc
      refine ⟨c, hc, hcdep, ?_⟩
      rw [if_neg (fun h => hid h.symm)]
      omega
  by_cases hid : id = dest
  · subst hid
    rw [if_pos rfl] at ha
    obtain ⟨c, hc, rfl⟩ := Option.map_eq_some_iff.mp ha
    have hcdep := transferIn_isDeposit.mp hdep
    obtain ⟨b, hb, hbdep, hcleared⟩ := hsent c hc hcdep
    refine ⟨b, hb, hbdep, ?_⟩
    rw [if_pos rfl, Account.transferIn, if_pos hcdep]
    dsimp only
    omega
  · rw [if_neg hid] at ha
    obtain ⟨b, hb, hbdep, hcleared⟩ := hsent a ha hdep
    have hdest : dest ≠ id := fun h => hid h.symm
    refine ⟨b, hb, hbdep, ?_⟩
    rw [if_neg hdest]
    omega

theorem moved_present {source dest : Uuid} {amount : ℤ} {id : Uuid}
    (h : (db.accounts.get? id).isSome = true) :
    ((moveBalances db source dest amount).accounts.get? id).isSome = true := by
  simp only [moveBalances]
  rw [Table.get?_update _ (transferIn_id amount) (Account.transferIn_clash amount)]
  have hsent : ∀ k, (db.accounts.get? k).isSome = true →
      ((db.accounts.update source (Account.transferOut amount)
        (Account.transferOut_clash amount)).get? k).isSome = true := by
    intro k hk
    rw [Table.get?_update _ (transferOut_id amount) (Account.transferOut_clash amount)]
    split
    · next hks =>
      rw [Option.isSome_map, ← hks]
      exact hk
    · exact hk
  split
  · next hid =>
    rw [Option.isSome_map]
    exact hsent dest (hid ▸ h)
  · exact hsent id h

/-- What a transfer that is not a repeated one does. -/
structure Transferred (db : Db) (source dest : Account) (money : Money) (db' : Db) : Prop where
  source_found : db.accounts.get? source.id = some source
  dest_found : (db.accounts.get? dest.id).isSome = true
  positive : 0 < money.amountMinor
  funded : checkBalance source money.amountMinor = .ok ()
  accounts : db'.accounts = (moveBalances db source.id dest.id money.amountMinor).accounts
  entries : ∃ key t db₁, PairAppended db key source.id dest.id money t db₁ ∧
    db'.ledgerEntries = db₁.ledgerEntries

theorem replayTransfer_none {r : TransferRequest} {hash : Option String}
    (h : replayTransfer db r hash = .ok none) : findTransaction db r.idempotencyKey = none := by
  unfold replayTransfer at h
  split at h
  · assumption
  · split at h
    · simp only [bind_eq_ok, pure_eq_ok] at h
      obtain ⟨-, -, -, -, h⟩ := h
      cases h
    · cases h

theorem executeTransfer_cases {sha256 : String → String} {r : TransferRequest}
    {result : TransferResult} (h : executeTransfer sha256 db env r = .ok (db', result)) :
    db' = db ∨ ∃ source dest, Transferred db source dest r.money db' := by
  simp only [executeTransfer, bind_eq_ok, require_eq_ok] at h
  obtain ⟨-, hpos, previous, hreplay, h⟩ := h
  cases previous with
  | some previous =>
    rw [pure_eq_ok] at h
    cases h
    exact Or.inl rfl
  | none =>
    simp only [bind_eq_ok, require_eq_ok, recordAudit_eq_ok, pure_eq_ok] at h
    obtain ⟨⟨source, dest⟩, hlocks, -, -, ⟨⟩, hfunded, ⟨db₁, posting⟩, hpost, db₂,
      ⟨outbox, -, rfl⟩, h⟩ := h
    cases h
    simp only [acquireAccountLocks, bind_eq_ok, orRaise_eq_ok, Option.filter_eq_some_iff,
      pure_eq_ok] at hlocks
    obtain ⟨s, -, d, -, -, -, a, ⟨hs, -⟩, b, ⟨hd, -⟩, hlocks⟩ := hlocks
    cases hlocks
    have hsid : source.id = s := (Table.get?_eq_some.mp hs).2
    have hdid : dest.id = d := (Table.get?_eq_some.mp hd).2
    obtain ⟨⟨txs, entries, box, rfl⟩, hpair | ⟨hmem, hkey, -⟩⟩ :=
      postFinancialTransaction_pair rfl hpost
    · exact Or.inr ⟨source, dest, hsid ▸ hs, by rw [hdid, hd]; rfl, hpos, hfunded, rfl,
        ⟨_, _, _, hpair, rfl⟩⟩
    · exact absurd hkey (findTransaction_eq_none.mp (replayTransfer_none hreplay) _ hmem)

theorem transfer_onJournal {source dest : Account} {money : Money}
    (h : Transferred db source dest money db') (hj : OnJournal start db) : OnJournal start db' := by
  obtain ⟨key, t, db₁, hpair, hentries⟩ := h.entries
  have hpresent :
    ∀ id, (db.accounts.get? id).isSome = true → (db'.accounts.get? id).isSome = true := by
    intro id hid
    rw [h.accounts]
    exact moved_present hid
  refine ⟨?_, fun id hid => hpresent id (hj.present id hid), ?_, ?_⟩
  · refine owned_pair hpair hentries hpresent (hpresent _ ?_) (hpresent _ h.dest_found) hj.owned
    rw [h.source_found]
    rfl
  · intro id a ha hdep
    rw [h.accounts] at ha
    obtain ⟨b, hb, hbdep, hcleared⟩ := moved_deposit ha hdep
    rw [hcleared, hj.balance id b hb hbdep, net_same hentries, net_pair hpair id]
    omega
  · intro id a ha hdep
    rw [h.accounts] at ha
    obtain ⟨b, hb, hbdep, hcleared⟩ := moved_deposit ha hdep
    have hcovered := hj.covered id b hb hbdep
    have hpos := h.positive
    by_cases hsource : source.id = id
    · have hsame : b = source := by
        have hfound := h.source_found
        rw [hsource, hb] at hfound
        exact Option.some.inj hfound
      have hfunded := h.funded
      rw [checkBalance, if_pos (hsame ▸ hbdep), require_eq_ok, ← hsame] at hfunded
      rw [hcleared, if_pos hsource]
      split <;> omega
    · rw [hcleared, if_neg hsource]
      split <;> omega

theorem executeTransfer_onJournal {sha256 : String → String} {r : TransferRequest}
    {result : TransferResult} (h : executeTransfer sha256 db env r = .ok (db', result))
    (hj : OnJournal start db) : OnJournal start db' := by
  rcases executeTransfer_cases h with rfl | ⟨source, dest, ht⟩
  · exact hj
  · exact transfer_onJournal ht hj

theorem replayPosting_accounts {currency : CurrencyCode} {key : String}
    {b : BalancedEntries currency} {t : Transaction} {p : JournalPosting}
    (h : replayPosting db key b t = .ok p) {e : NormalizedEntry currency} (he : e ∈ b.entries) :
    ∃ x ∈ db.ledgerEntries.rows, x.accountId = e.accountId := by
  simp only [replayPosting, bind_eq_ok, require_eq_ok] at h
  obtain ⟨-, ⟨-, hperm⟩, -⟩ := h
  have hmem : e.signature ∈ b.entries.map NormalizedEntry.signature := List.mem_map.mpr ⟨e, he, rfl⟩
  obtain ⟨x, hx, hsig⟩ := List.mem_map.mp (hperm.mem_iff.mp hmem)
  rw [List.mem_insertionSort] at hx
  have hstr : x.accountId.str = e.accountId.str := congrArg Prod.fst hsig
  exact ⟨x, (Table.mem_select.mp hx).1, Uuid.str_injective hstr⟩

theorem posting_new {r : PostingRequest} {debit credit : Uuid} {money : Money} {p : JournalPosting}
    (hr : r.entries = pairOf debit credit money)
    (hfree : ∀ x ∈ db.ledgerEntries.rows, x.accountId ≠ credit)
    (h : postFinancialTransaction db env r = .ok (db', p)) :
    (∃ transactions entries outbox, db' = { db with
      transactions := transactions, ledgerEntries := entries, auditOutbox := outbox }) ∧
    PairAppended db r.idempotencyKey debit credit money p.transaction db' := by
  obtain ⟨b, hb, ⟨t, -, -, hp, -⟩ | ⟨-, ha⟩⟩ := postFinancialTransaction_cases h
  · rw [hr] at hb
    obtain ⟨e₁, e₂, hentries, -, hcredit, -, -⟩ := validate_pairOf hb
    obtain ⟨x, hx, hxid⟩ := replayPosting_accounts hp
      (show e₂ ∈ b.entries by rw [hentries]; exact .tail _ List.mem_cons_self)
    exact absurd (hxid.trans hcredit) (hfree x hx)
  · exact ⟨⟨_, _, _, ha.frame⟩, ha.pair hr hb⟩

theorem opened_unfunded {accounts : Table Account} {account : Account}
    (hi : db.accounts.insert? account = some accounts) (hj : OnJournal start db) :
    let opened : Db := { db with accounts := accounts }
    Owned opened ∧
    (∀ id, (start.accounts.get? id).isSome = true → (accounts.get? id).isSome = true) ∧
    (∀ id a, id ≠ account.id → accounts.get? id = some a → db.accounts.get? id = some a) ∧
    opening start account.id = 0 ∧ net opened account.id = 0 := by
  have hnew : db.accounts.get? account.id = none := by
    rw [Table.get?_eq_none]
    intro a ha hid
    exact Table.fresh_insert hi ha (Row.clash_of_key hid)
  have hkept : ∀ id, (db.accounts.get? id).isSome = true → (accounts.get? id).isSome = true := by
    intro id h
    obtain ⟨a, ha⟩ := Option.isSome_iff_exists.mp h
    rw [Table.get?_insert_of_some hi ha]
    rfl
  refine ⟨fun e he => hkept _ (hj.owned e he), fun id hid => hkept id (hj.present id hid), ?_,
    hj.opening_absent hnew, net_absent hj.owned hnew⟩
  intro id a hne ha
  rw [Table.get?_insert hi] at ha
  split at ha
  · next hkey => exact absurd hkey.symm hne
  · exact ha

/-- The funding of a new account: its own credit, against an account that is no deposit. -/
structure Funded (db : Db) (account : Account) (amount : ℤ) (db' : Db) : Prop where
  kept : ∀ id a, db.accounts.get? id = some a → a.isDeposit → db'.accounts.get? id = some a
  deposits : ∀ id a, db'.accounts.get? id = some a → a.isDeposit → db.accounts.get? id = some a
  present : ∀ id, (db.accounts.get? id).isSome = true → (db'.accounts.get? id).isSome = true
  entries : ∃ key system money t db₁, money.amountMinor = amount ∧
    (db'.accounts.get? system).isSome = true ∧
      (∀ a, db.accounts.get? system = some a → ¬ a.isDeposit) ∧
    PairAppended db key system account.id money t db₁ ∧ db'.ledgerEntries = db₁.ledgerEntries

theorem funded_of_ok {r : DepositAccountCreateRequest} {key : Option String}
    {userId applicationId : Uuid} {account : Account}
    (hfree : ∀ x ∈ db.ledgerEntries.rows, x.accountId ≠ account.id)
    (h : fundDeposit db env r key userId applicationId account = .ok db') :
    Funded db account r.initialDepositCents db' := by
  simp only [fundDeposit, bind_eq_ok, pure_eq_ok] at h
  obtain ⟨⟨db₁, system⟩, hs, money, hmoney, ⟨db₂, posting⟩, hp, rfl⟩ := h
  obtain ⟨accounts, rfl, hclearing⟩ := ensureSystemJournalAccount_effect (by decide) hs
  have hunused : ∀ x ∈ ({ db with accounts := accounts } : Db).ledgerEntries.rows,
      x.accountId ≠ account.id := hfree
  obtain ⟨⟨txs, entries, box, rfl⟩, hpair⟩ := posting_new rfl hunused hp
  rw [Money.new_eq_ok] at hmoney
  have hupdate : ∀ id, (accounts.update system.id fun a =>
      { a with clearedBalanceCents := system.clearedBalanceCents + r.initialDepositCents }).get?
      id =
      if id = system.id then (accounts.get? system.id).map fun a =>
        { a with clearedBalanceCents := system.clearedBalanceCents + r.initialDepositCents }
      else accounts.get? id := fun id => Table.get?_update _
  have hsystem : ∀ id a, accounts.get? id = some a → a.isDeposit → id ≠ system.id := by
    rintro id a ha hdep rfl
    rw [hclearing.found] at ha
    cases ha
    exact isDeposit_not_system hdep hclearing.system
  refine ⟨?_, ?_, ?_, _, system.id, money, _, _, hmoney.1, ?_, ?_, ⟨hpair.keyed, hpair.transactions,
    hpair.entries⟩, rfl⟩
  · intro id a ha hdep
    have hkept := hclearing.kept id a ha
    simp only [fundSystemAccount]
    rw [hupdate id, if_neg (hsystem id a hkept hdep)]
    exact hkept
  · intro id a ha hdep
    simp only [fundSystemAccount] at ha
    rw [hupdate id] at ha
    split at ha
    · obtain ⟨b, hb, rfl⟩ := Option.map_eq_some_iff.mp ha
      exact absurd rfl (hsystem system.id b hb hdep)
    · rcases hclearing.opened id a ha with ha | htype
      · exact ha
      · exact absurd htype (isDeposit_not_system hdep)
  · intro id hid
    obtain ⟨a, ha⟩ := Option.isSome_iff_exists.mp hid
    have hkept := hclearing.kept id a ha
    simp only [fundSystemAccount]
    rw [hupdate id]
    split
    · rw [hclearing.found]
      rfl
    · rw [hkept]
      rfl
  · simp only [fundSystemAccount]
    rw [hupdate, if_pos rfl, hclearing.found]
    rfl
  · intro a ha hdep
    exact hsystem system.id a (hclearing.kept _ a ha) hdep rfl

theorem opening_onJournal {r : DepositAccountCreateRequest} {accountType : AccountType}
    {uid : String} {key : Option String} {number : ℕ} {account : Account}
    (h : openDepositAccount db env r accountType uid key number = .ok (db', account))
    (hj : OnJournal start db) : OnJournal start db' := by
  simp only [openDepositAccount, bind_eq_ok, insert_eq_ok] at h
  obtain ⟨user, -, accounts, hi, h⟩ := h
  generalize haccount : newDepositAccount (env.part 0) r user.id accountType number = opened at hi h
  have hcleared : opened.clearedBalanceCents = r.initialDepositCents := by
    rw [← haccount]
    rfl
  obtain ⟨howned, hpresent, hothers, hopening, hnet⟩ := opened_unfunded hi hj
  have hnonneg : (0 : ℤ) ≤ r.initialDepositCents := Int.natCast_nonneg _
  have hself : accounts.get? opened.id = some opened := Table.get?_insert_self hi
  split at h
  · simp only [bind_eq_ok, pure_eq_ok] at h
    obtain ⟨db₁, hfund, h⟩ := h
    cases h
    have hfree : ∀ x ∈ db.ledgerEntries.rows, x.accountId ≠ account.id := by
      intro x hx hid
      have hsome := hj.owned x hx
      rw [hid] at hsome
      obtain ⟨a, ha⟩ := Option.isSome_iff_exists.mp hsome
      obtain ⟨hrow, hkey⟩ := Table.get?_eq_some.mp ha
      exact Table.fresh_insert hi hrow (Row.clash_of_key hkey)
    have hunused : ∀ x ∈ ({ db with accounts := accounts } : Db).ledgerEntries.rows,
        x.accountId ≠ account.id := hfree
    have hfunded := funded_of_ok hunused hfund
    obtain ⟨key, system, money, t, db₂, hamount, hsystem, hnodeposit, hpair, hentries⟩ :=
      hfunded.entries
    have hbooked : ∀ id a, accounts.get? id = some a → a.isDeposit → net db' id =
        net db id + if account.id = id then (r.initialDepositCents : ℤ) else 0 := by
      intro id a ha hdep
      have hne : system ≠ id := fun heq => hnodeposit a (heq ▸ ha) hdep
      rw [net_same hentries, net_pair hpair id, if_neg hne, hamount]
      simp only [net]
      omega
    refine ⟨?_, fun id hid => hfunded.present id (hpresent id hid), ?_, ?_⟩
    · refine owned_pair hpair hentries hfunded.present hsystem (hfunded.present _ ?_) howned
      rw [hself]
      rfl
    · intro id a ha hdep
      have hbefore := hfunded.deposits id a ha hdep
      rw [hbooked id a hbefore hdep]
      by_cases hid : id = account.id
      · have hsame : account = a := by
          rw [hid, hself] at hbefore
          exact Option.some.inj hbefore
        have hzero : net db account.id = 0 := hnet
        rw [if_pos hid.symm, ← hsame, hid, hcleared, hopening, hzero]
        omega
      · rw [if_neg (fun heq => hid heq.symm), hj.balance id a (hothers id a hid hbefore) hdep]
        omega
    · intro id a ha hdep
      have hbefore := hfunded.deposits id a ha hdep
      by_cases hid : id = account.id
      · rw [hid, hself] at hbefore
        cases hbefore
        rw [hcleared]
        exact hnonneg
      · exact hj.covered id a (hothers id a hid hbefore) hdep
  · next hzero =>
    rw [pure_eq_ok] at h
    cases h
    have hnothing : r.initialDepositCents = 0 := by omega
    refine ⟨howned, hpresent, ?_, ?_⟩
    · intro id a ha hdep
      by_cases hid : id = account.id
      · have hsame : account = a := by
          rw [hid, hself] at ha
          exact Option.some.inj ha
        rw [← hsame, hid, hcleared, hopening, hnet, hnothing]
        rfl
      · exact hj.balance id a (hothers id a hid ha) hdep
    · intro id a ha hdep
      by_cases hid : id = account.id
      · rw [hid, hself] at ha
        cases ha
        rw [hcleared]
        exact hnonneg
      · exact hj.covered id a (hothers id a hid ha) hdep

theorem creation_onJournal {r : DepositAccountCreateRequest} {uid : String} {key : Option String}
    {number : ℕ} (hj : OnJournal start db) :
    OnJournal start (createDepositAccount db env r uid key number).1 := by
  unfold createDepositAccount
  split
  · exact hj
  · split
    · exact hj
    · next profile hprofile =>
      have hleaves : LeavesDeposits db profile := by
        unfold provisionProfile at hprofile
        split at hprofile
        · cases hprofile
          exact .refl _
        · simp only [bind_eq_ok] at hprofile
          obtain ⟨users, -, hrecorded⟩ := hprofile
          have hadded : LeavesDeposits db { db with users := users } := leavesDeposits_same rfl rfl
          exact hadded.trans (audit_leaves hrecorded)
      have hprovisioned := hleaves.onJournal hj
      exact commitOrRollback_keeps hprovisioned fun _ _ h => opening_onJournal h hprovisioned

/-- Each of the service's calls keeps every deposit account on the journal. -/
theorem perform_onJournal (sha256 : String → String) (e : Ambient × Operation)
    (hj : OnJournal start db) : OnJournal start (perform sha256 db e.1 e.2).1 := by
  obtain ⟨env, op⟩ := e
  cases op with
  | processAuthorization r f => exact authorization_leaves.onJournal hj
  | processSettlement r =>
    exact commitOrRollback_keeps hj fun _ _ h => (settlement_leaves h).onJournal hj
  | processReversal r =>
    exact commitOrRollback_keeps hj fun _ _ h => (networkReversal_leaves h).onJournal hj
  | executeBillPayment r => exact commitOrRollback_keeps hj fun _ _ h => payment_onJournal h hj
  | reversePostedFee accountId transactionId =>
    exact commitOrRollback_keeps hj fun _ _ h => (feeReversal_leaves h).onJournal hj
  | voidFraudAuthorizationHold accountId authorizationId fraudAlertId =>
    exact commitOrRollback_keeps hj fun _ _ h => (voidOnAccount_leaves h).onJournal hj
  | applyFraudProvisionalCredit accountId transactionId fraudAlertId =>
    exact commitOrRollback_keeps hj fun _ _ h => (creditOnAccount_leaves h).onJournal hj
  | applyLimitIncrease accountId limit =>
    exact commitOrRollback_keeps hj fun _ _ h => (increase_leaves h).onJournal hj
  | triageFraudCase r =>
    simp only [perform, outcome]
    exact commitOrRollback_keeps hj fun _ _ h => (triage_leaves h).onJournal hj
  | createDepositAccount r uid key number => exact creation_onJournal hj
  | executeTransfer r =>
    exact commitOrRollback_keeps hj fun _ _ h => executeTransfer_onJournal h hj

end

/-- In every run of the service's calls, each deposit account holds what it opened with and what the
journal says of it, and none is overdrawn. -/
theorem deposits_on_journal (sha256 : String → String) {start : Db} (owned : Owned start)
    (covered : Covered start) (es : List (Ambient × Operation)) :
    ∀ id a, ((operations sha256 fun _ => True).final start es).accounts.get? id = some a →
      a.isDeposit → a.clearedBalanceCents =
        opening start id + net ((operations sha256 fun _ => True).final start es) id ∧
      0 ≤ a.clearedBalanceCents := by
  have hrun := ((throughout_of_keep (fun _ e h => perform_onJournal sha256 e h)
    (onJournal_start owned covered) :
      (operations sha256 fun _ => True).Throughout (OnJournal start) start es)).last
  intro id a ha hdep
  exact ⟨hrun.balance id a ha hdep, hrun.covered id a ha hdep⟩

theorem unmirrored : (none : Option Uuid) ≠ none → AccountType.savings = .creditCard :=
  fun h => absurd rfl h

def saver (id : Uuid) (cents : ℤ) : Account :=
  { id := id, userId := none, accountNumber := "SAV-" ++ id.str, accountType := .savings,
    productName := "Savings", productCode := none, creditAccountId := none, status := .active,
    creditLimitCents := 0, clearedBalanceCents := cents, availableCreditCents := 0,
      currency := .usd,
    mirror_is_card := unmirrored,
    system_number := fun h => absurd h (by simp [isSystemNumber]) }

def savers : Db :=
  { Db.empty with accounts := ⟨[saver (.ofNat 1) 1000, saver (.ofNat 2) 0], by decide⟩ }

def transferBetween (source dest : ℕ) (key : String) (money : Money) : Operation :=
  .executeTransfer
    { sourceAccountId := (Uuid.ofNat source).str, destAccountId := (Uuid.ofNat dest).str,
      money := money, description := "Rent", idempotencyKey := key, userId := none,
      requestPayload := none }

def rentMonth : List (Ambient × Operation) :=
  [(.seeded 1, transferBetween 1 2 "rent" ⟨300, .usd, by decide⟩),
    (.seeded 2, transferBetween 1 2 "rent" ⟨300, .usd, by decide⟩),
    (.seeded 3, transferBetween 2 1 "refund" ⟨470, .usd, by decide⟩)]

theorem rent_on_journal :
    let last := (operations id fun _ => True).final savers rentMonth
    ((last.accounts.get? (.ofNat 1)).map Account.clearedBalanceCents = some 700 ∧
      (last.accounts.get? (.ofNat 2)).map Account.clearedBalanceCents = some 300) ∧
    ∀ id a, last.accounts.get? id = some a → a.isDeposit →
      a.clearedBalanceCents = opening savers id + net last id ∧ 0 ≤ a.clearedBalanceCents := by
  have howned : Owned savers := by
    intro e he
    cases he
  have hcovered : Covered savers := by
    intro id a ha _
    obtain ⟨hmem, -⟩ := Table.get?_eq_some.mp ha
    rcases List.mem_cons.mp hmem with rfl | hmem
    · decide
    · rw [List.mem_singleton.mp hmem]
      decide
  exact ⟨by decide +kernel, deposits_on_journal id howned hcovered rentMonth⟩

end BankingService.DepositLedger
