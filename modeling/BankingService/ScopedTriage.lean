import BankingService.FraudTriage
import BankingService.Remediation
import Mathlib.Data.List.Dedup

/-! A triage releases and credits flagged items of its alert only, and a call that names anything
else is refused, unless the alert flags no authorization. -/
namespace ScopedTriage

open BankingService Python Relational Checked

/-- The holds that change are among those that the texts name, and so are the credited postings. -/
structure Touches (authorizations transactions : List String) (db db' : Db) : Prop where
  holds : ∀ id, db'.authorizations.get? id ≠ db.authorizations.get? id →
    ∃ text ∈ authorizations, Uuid.parse? text = some id
  credits : ∀ p ∈ db'.postedTransactions.rows, p ∉ db.postedTransactions.rows →
    ∃ text ∈ transactions, p.description = provisionalCreditDescription text

structure Flagged (alert : FraudAlert) (r : TriageRequest) : Prop where
  authorizations : ∀ text ∈ r.disputedAuthorizationIds, text ∈ alert.suspiciousAuthorizationIds
  transactions : ∀ text ∈ r.disputedTransactionIds, text ∈ alert.transactionIds

def For (db : Db) (r : TriageRequest) (alert : FraudAlert) : Prop :=
  ∃ id, Uuid.parse? r.fraudAlertId = some id ∧
    getAlertForCustomer db id r.authProviderUid = some alert

/-- The call touches flagged items only, and if it names another it raises and changes nothing. -/
def InScope (sha256 : String → String) (db : Db) (env : Ambient) (r : TriageRequest)
    (alert : FraudAlert) : Prop :=
  let outcome := commitOrRollback db (triageFraudCase sha256 db env r)
  Touches alert.suspiciousAuthorizationIds alert.transactionIds db outcome.1 ∧
    (¬ Flagged alert r → outcome.1 = db ∧ ∃ e, outcome.2 = .error e)

section
variable {db db₁ db' : Db} {env : Ambient} {authorizations transactions : List String}

theorem touches_of_same (holds : db'.authorizations = db.authorizations)
    (posted : db'.postedTransactions = db.postedTransactions) :
    Touches authorizations transactions db db' := by
  constructor
  · intro id hid
    rw [holds] at hid
    exact absurd rfl hid
  · intro p hp hnew
    rw [posted] at hp
    exact absurd hp hnew

theorem Touches.trans (h : Touches authorizations transactions db db₁)
    (h' : Touches authorizations transactions db₁ db') :
    Touches authorizations transactions db db' := by
  constructor
  · intro id hid
    by_cases hsame : db₁.authorizations.get? id = db.authorizations.get? id
    · rw [← hsame] at hid
      exact h'.holds id hid
    · exact h.holds id hsame
  · intro p hp hnew
    by_cases hearlier : p ∈ db₁.postedTransactions.rows
    · exact h.credits p hearlier hnew
    · exact h'.credits p hp hearlier

theorem Touches.after_same (h : Touches authorizations transactions db₁ db')
    (holds : db₁.authorizations = db.authorizations)
    (posted : db₁.postedTransactions = db.postedTransactions) :
    Touches authorizations transactions db db' :=
  (touches_of_same holds posted).trans h

theorem Touches.mono {authorizations' transactions' : List String}
    (h : Touches authorizations transactions db db')
    (ha : ∀ text ∈ authorizations, text ∈ authorizations')
    (ht : ∀ text ∈ transactions, text ∈ transactions') :
    Touches authorizations' transactions' db db' := by
  constructor
  · intro id hid
    obtain ⟨text, htext, hparse⟩ := h.holds id hid
    exact ⟨text, ha text htext, hparse⟩
  · intro p hp hnew
    obtain ⟨text, htext, hdescription⟩ := h.credits p hp hnew
    exact ⟨text, ht text htext, hdescription⟩

theorem touches_void {account updated : CreditAccount} {text : String} {alertId : Uuid}
    {result : VoidResult} (named : text ∈ authorizations)
    (h : voidFraudAuthorizationHold db env account text alertId = .ok (db', updated, result)) :
    Touches authorizations transactions db db' := by
  rcases voidFraudAuthorizationHold_cases h with ⟨rfl, -⟩ | h
  · exact touches_of_same rfl rfl
  · obtain ⟨id, auth, hparse, hauth, -, released⟩ := holdReleased_of_void h
    have hid : auth.id = id := by
      rw [getAuthorizationByIdForAccount, Option.filter_eq_some_iff] at hauth
      exact (Table.get?_eq_some.mp hauth.1).2
    constructor
    · intro other hchanged
      rw [released.holds] at hchanged
      by_cases hother : other = auth.id
      · exact ⟨text, named, by rw [hparse, hother, hid]⟩
      · refine absurd ?_ hchanged
        exact (Table.get?_update fun a : TransactionAuthorization =>
          { a with status := .reversed }).trans (if_neg hother)
    · intro p hp hnew
      rw [released.posted] at hp
      exact absurd hp hnew

theorem touches_credit {account updated : CreditAccount} {text : String} {alertId : Uuid}
    {result : ProvisionalCreditResult} (named : text ∈ transactions)
    (h : applyFraudProvisionalCredit db env account text alertId = .ok (db', updated, result)) :
    Touches authorizations transactions db db' := by
  rcases applyFraudProvisionalCredit_cases h with ⟨rfl, -⟩ | ⟨-, h⟩
  · exact touches_of_same rfl rfl
  · obtain ⟨original, statement, credited⟩ := provisionallyCredited_of_ok h
    obtain ⟨money, -, posting⟩ := credited.posting
    constructor
    · intro id hchanged
      rw [credited.holds] at hchanged
      exact absurd rfl hchanged
    · intro p hp hnew
      rw [Table.rows_insert posting.posted, List.mem_append, List.mem_singleton] at hp
      rcases hp with hp | rfl
      · exact absurd hp hnew
      · exact ⟨text, named, credited.statement.2.2.2⟩

theorem touches_voidAll {account updated : CreditAccount} {alertId : Uuid} {texts : List String}
    {results : List VoidResult} (named : ∀ text ∈ texts, text ∈ authorizations)
    (h : voidAll db env account alertId texts = .ok (db', updated, results)) :
    Touches authorizations transactions db db' := by
  induction texts generalizing db env account results with
  | nil =>
    cases h
    exact touches_of_same rfl rfl
  | cons text texts ih =>
    simp only [voidAll, bind_eq_ok, pure_eq_ok] at h
    obtain ⟨⟨db₁, account₁, result⟩, hvoid, ⟨db₂, account₂, rest⟩, hrest, h⟩ := h
    cases h
    have hfirst : Touches authorizations transactions db db₁ :=
      touches_void (named text List.mem_cons_self) hvoid
    exact hfirst.trans (ih (fun t ht => named t (List.mem_cons_of_mem _ ht)) hrest)

theorem touches_creditAll {account updated : CreditAccount} {alertId : Uuid} {texts : List String}
    {results : List ProvisionalCreditResult} (named : ∀ text ∈ texts, text ∈ transactions)
    (h : creditAll db env account alertId texts = .ok (db', updated, results)) :
    Touches authorizations transactions db db' := by
  induction texts generalizing db env account results with
  | nil =>
    cases h
    exact touches_of_same rfl rfl
  | cons text texts ih =>
    simp only [creditAll, bind_eq_ok, pure_eq_ok] at h
    obtain ⟨⟨db₁, account₁, result⟩, hcredit, ⟨db₂, account₂, rest⟩, hrest, h⟩ := h
    cases h
    have hfirst : Touches authorizations transactions db db₁ :=
      touches_credit (named text List.mem_cons_self) hcredit
    exact hfirst.trans (ih (fun t ht => named t (List.mem_cons_of_mem _ ht)) hrest)

theorem touches_message {uid threadId : String}
    (h : sendSecureMessage db env uid threadId = .ok db') :
    Touches authorizations transactions db db' := by
  obtain ⟨users, outbox, rfl⟩ := sendSecureMessage_frame h
  exact touches_of_same rfl rfl

theorem touches_recognized {alert : FraudAlert} {result : TriageResult}
    (h : resolveRecognized db env alert = .ok (db', result)) :
    Touches authorizations transactions db db' := by
  simp only [resolveRecognized, recordTriageMessage, bind_eq_ok, recordAudit_eq_ok, pure_eq_ok] at h
  obtain ⟨db₁, hsent, db₂, ⟨outbox₂, -, rfl⟩, db₃, ⟨outbox₃, -, rfl⟩, db₄, ⟨outbox₄, -, rfl⟩, h⟩ :=
    h
  cases h
  have htold : Touches authorizations transactions db db₁ :=
    (touches_message hsent).after_same rfl rfl
  exact htold.trans (touches_of_same rfl rfl)

theorem touches_replacement {alert : FraudAlert} {asked : Bool} {replacement : Option Uuid}
    (h : replaceIfAsked db env alert asked = .ok (db', replacement)) :
    Touches authorizations transactions db db' := by
  unfold replaceIfAsked at h
  split at h
  · simp only [issueReplacementCard, bind_eq_ok, recordAudit_eq_ok, pure_eq_ok] at h
    obtain ⟨⟨db₁, issued⟩, ⟨account, -, current, -, cards, -, db₂, ⟨outbox, -, rfl⟩, hissued⟩, h⟩ :=
      h
    cases hissued
    cases h
    exact touches_of_same rfl rfl
  · cases h
    exact touches_of_same rfl rfl

theorem touches_remediated {r : TriageRequest} {alert : FraudAlert} {account : CreditAccount}
    {result : TriageResult} (h : remediateDisputes db env r alert account = .ok (db', result)) :
    Touches r.disputedAuthorizationIds r.disputedTransactionIds db db' := by
  simp only [remediateDisputes, recordTriageMessage, bind_eq_ok, recordAudit_eq_ok,
    pure_eq_ok] at h
  obtain ⟨⟨db₁, account₁, voided⟩, hvoid, ⟨db₂, account₂, credits⟩, hcredit, ⟨db₃, replacement⟩,
    hreplace, db₄, hsent, voidedMoney, -, creditMoney, -, db₅, ⟨outbox, -, rfl⟩, db₆,
    ⟨outbox', -, rfl⟩, h⟩ := h
  cases h
  have hvoids : Touches r.disputedAuthorizationIds r.disputedTransactionIds db db₁ :=
    touches_voidAll (fun _ ht => ht) hvoid
  have hcredits : Touches r.disputedAuthorizationIds r.disputedTransactionIds db₁ db₂ :=
    touches_creditAll (fun _ ht => ht) hcredit
  have hremedied := ((hvoids.trans hcredits).trans (touches_replacement hreplace)).trans
    (touches_message hsent)
  exact hremedied.trans (touches_of_same rfl rfl)

/-- What a triage does with an alert touches the items that the call names. -/
theorem touches_triage {sha256 : String → String} {r : TriageRequest} {alert : FraudAlert}
    {account : CreditAccount} {completed : Option FraudCaseAction} {result : CaseResult}
    (h : triageAfterLookup sha256 db env r alert account completed = .ok (db', result)) :
    Touches r.disputedAuthorizationIds r.disputedTransactionIds db db' ∧
      (completed = none → checkScope alert r = .ok ()) := by
  cases completed with
  | some action =>
    simp only [triageAfterLookup, bind_eq_ok, pure_eq_ok] at h
    obtain ⟨replayed, -, h⟩ := h
    cases h
    exact ⟨touches_of_same rfl rfl, by rintro ⟨⟩⟩
  | none =>
    simp only [triageAfterLookup, bind_eq_ok] at h
    obtain ⟨⟨db₁, action⟩, ha, ⟨⟩, hscope, h⟩ := h
    obtain ⟨actions, rfl⟩ := createCaseAction_frame ha
    have hdone : ∀ v result, Touches r.disputedAuthorizationIds r.disputedTransactionIds v
        (completeCaseAction v env action.id (.triaged result)) := fun _ _ => touches_of_same rfl rfl
    refine ⟨?_, fun _ => hscope⟩
    split at h
    · simp only [bind_eq_ok, pure_eq_ok] at h
      obtain ⟨⟨db₂, result'⟩, hremedy, h⟩ := h
      cases h
      have htouches : Touches r.disputedAuthorizationIds r.disputedTransactionIds db db₂ :=
        (touches_remediated hremedy).after_same rfl rfl
      exact htouches.trans (hdone db₂ result')
    · simp only [bind_eq_ok, pure_eq_ok] at h
      obtain ⟨⟨db₂, result'⟩, hremedy, h⟩ := h
      cases h
      have htouches : Touches r.disputedAuthorizationIds r.disputedTransactionIds db db₂ :=
        (touches_recognized hremedy).after_same rfl rfl
      exact htouches.trans (hdone db₂ result')

theorem unexpectedIds_eq_nil {ids allowed : List String} :
    unexpectedIds ids allowed = [] ↔ ∀ id ∈ ids, id ∈ allowed := by
  rw [List.eq_nil_iff_forall_not_mem]
  simp only [unexpectedIds, List.mem_insertionSort, List.mem_dedup, List.mem_filter,
    decide_eq_true_eq, not_and, not_not]

theorem checkScope_eq_ok {alert : FraudAlert} {r : TriageRequest} :
    checkScope alert r = .ok () ↔
      (alert.suspiciousAuthorizationIds = [] ∨
        ∀ text ∈ r.disputedAuthorizationIds, text ∈ alert.suspiciousAuthorizationIds) ∧
      ∀ text ∈ r.disputedTransactionIds, text ∈ alert.transactionIds := by
  simp only [checkScope, bind_eq_ok, require_eq_ok, unexpectedIds_eq_nil]
  constructor
  · rintro ⟨⟨⟩, ha, ht⟩
    exact ⟨ha, ht⟩
  · rintro ⟨ha, ht⟩
    exact ⟨(), ha, ht⟩

theorem triage_cases {sha256 : String → String} {r : TriageRequest} {alert : FraudAlert}
    {result : Option CaseResult} (hfor : For db r alert)
    (h : triageFraudCase sha256 db env r = .ok (db', result)) :
    Touches r.disputedAuthorizationIds r.disputedTransactionIds db db' ∧
      (getSucceededAction db alert.id (workflowKey sha256 r) = none →
        checkScope alert r = .ok ()) := by
  obtain ⟨id, hid, halert⟩ := hfor
  simp only [triageFraudCase, uuidParam, bind_eq_ok, orRaise_eq_ok] at h
  obtain ⟨id', hid', h⟩ := h
  obtain rfl := Option.some.inj (hid.symm.trans hid')
  rw [halert] at h
  simp only [bind_eq_ok, pure_eq_ok] at h
  obtain ⟨account, -, ⟨db₁, result'⟩, htriage, h⟩ := h
  cases h
  exact touches_triage htriage

end

/-- A call that names flagged items only is in scope. One that names another is in scope if nothing
has succeeded under its key and the alert flags some authorization, or the call names a transaction
that is not flagged. -/
theorem triage_in_scope {sha256 : String → String} {db : Db} {env : Ambient} {r : TriageRequest}
    {alert : FraudAlert} (hfor : For db r alert)
    (hchecked : Flagged alert r ∨ getSucceededAction db alert.id (workflowKey sha256 r) = none ∧
      (alert.suspiciousAuthorizationIds = [] →
        ∃ text ∈ r.disputedTransactionIds, text ∉ alert.transactionIds)) :
    InScope sha256 db env r alert := by
  unfold InScope
  cases h : triageFraudCase sha256 db env r with
  | error e => exact ⟨touches_of_same rfl rfl, fun _ => ⟨rfl, e, rfl⟩⟩
  | ok answer =>
    obtain ⟨db', result⟩ := answer
    obtain ⟨htouches, hscope⟩ := triage_cases hfor h
    have hflagged : Flagged alert r := by
      rcases hchecked with hflagged | ⟨hfresh, hempty⟩
      · exact hflagged
      · obtain ⟨ha, ht⟩ := checkScope_eq_ok.mp (hscope hfresh)
        refine ⟨ha.resolve_left fun hnone => ?_, ht⟩
        obtain ⟨text, htext, hother⟩ := hempty hnone
        exact hother (ht text htext)
    exact ⟨htouches.mono hflagged.authorizations hflagged.transactions,
      fun hother => absurd hflagged hother⟩

def disputing : TriageRequest :=
  ⟨"customer-7", (Uuid.ofNat 30).str, [(Uuid.ofNat 20).str], [], false, false, none⟩

/-- The payment is flagged and another hold is disputed. -/
theorem other_hold_refused :
    InScope (fun s => s) fraudDb (.seeded 1)
      { disputing with disputedAuthorizationIds := [(Uuid.ofNat 21).str] } fraudAlert :=
  triage_in_scope ⟨.ofNat 30, by decide +kernel, by decide +kernel⟩
    (Or.inr ⟨by decide +kernel, by decide⟩)

def emptyAlert : FraudAlert :=
  { fraudAlert with
    suspiciousAuthorizationIds := []
    suspiciousTransactions := [] }

def emptyAlertDb : Db :=
  { fraudDb with
    fraudAlerts := ⟨[emptyAlert], List.pairwise_singleton _ _⟩ }

theorem unflagged_hold_released :
    ¬ ∀ (sha256 : String → String) (db : Db) (env : Ambient) (r : TriageRequest)
      (alert : FraudAlert), For db r alert → InScope sha256 db env r alert := by
  intro h
  have hscope := h (fun s => s) emptyAlertDb (.seeded 1) disputing emptyAlert
    ⟨.ofNat 30, by decide +kernel, by decide +kernel⟩
  have hreleased : (commitOrRollback emptyAlertDb
      (triageFraudCase (fun s => s) emptyAlertDb (.seeded 1) disputing)).1.authorizations.get?
        (.ofNat 20) ≠ emptyAlertDb.authorizations.get? (.ofNat 20) := by decide +kernel
  obtain ⟨text, htext, -⟩ := hscope.1.holds (.ofNat 20) hreleased
  cases htext

end ScopedTriage
