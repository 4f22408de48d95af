import BankingService.FraudTriage
import BankingService.Operations
import BankingService.Remediation
import Mathlib.Data.List.Dedup

/-! Triage called again and again on one alert, with any selections, options and keys: no hold is
released twice and no posted transaction credited twice; the card is replaced once if no workflow
that asks for a replacement runs after one was issued. -/
namespace BankingService.RemediatedOnce

open Python Relational Checked Relation Runs

def Tells (eventType key : String) (id : Uuid) (e : AuditOutbox) : Prop :=
  e.eventType = eventType ∧ e.field key = some (.text id.str)

instance (eventType key : String) (id : Uuid) : DecidablePred (Tells eventType key id) :=
  fun _ => inferInstanceAs (Decidable (_ ∧ _))

def voids (db : Db) (hold : Uuid) : ℕ :=
  db.auditOutbox.rows.countP fun e => Tells HOLD_VOIDED "authorization_id" hold e

def replacements (db : Db) (card : Uuid) : ℕ :=
  db.auditOutbox.rows.countP fun e => Tells CARD_REPLACED "old_card_id" card e

/-- The provisional credits of the posted transaction, however its id is spelled in them. -/
def credits (db : Db) (posted : Uuid) : ℕ :=
  db.postedTransactions.rows.countP fun p =>
    p.reference? "FRAUD_PROVISIONAL_CREDIT_REF_" = some posted

theorem tells_self {eventType key : String} {id id' : Uuid} {e : AuditOutbox}
    (type : e.eventType = eventType) (named : e.field key = some (.text id.str)) :
    Tells eventType key id' e ↔ id' = id := by
  unfold Tells
  rw [named]
  constructor
  · rintro ⟨-, htext⟩
    exact (Uuid.str_injective (JsonValue.text.inj (Option.some.inj htext))).symm
  · rintro rfl
    exact ⟨type, rfl⟩

theorem countP_insert {ρ κ : Type} [Row ρ κ] {t t' : Table ρ} {r : ρ} (h : t.insert? r = some t')
    (p : ρ → Prop) [DecidablePred p] :
    t'.rows.countP (fun x => p x) = t.rows.countP (fun x => p x) + if p r then 1 else 0 := by
  rw [Table.rows_insert h, List.countP_append, List.countP_singleton]
  simp

/-- A hold that is active can still be released. -/
def voidBudget (db : Db) (hold : Uuid) : ℕ :=
  voids db hold + if ∃ a ∈ db.authorizations.get? hold, a.isActive then 1 else 0

/-- A posted transaction without an entry can still be credited. -/
def creditBudget (db : Db) (account posted : Uuid) : ℕ :=
  credits db posted +
    if getFraudProvisionalCreditEntry db account posted.str = none then 1 else 0

section
variable {r : TriageRequest} {alert : FraudAlert} {db db' : Db}

theorem voids_plain {outbox : Table AuditOutbox} (h : Reports Plain db.auditOutbox outbox)
    (hold : Uuid) : outbox.rows.countP (fun e => Tells HOLD_VOIDED "authorization_id" hold e) =
      voids db hold :=
  h.countP fun _ hplain htells => hplain.1 htells.1

theorem replacements_plain {outbox : Table AuditOutbox} (h : Reports Plain db.auditOutbox outbox)
    (card : Uuid) : outbox.rows.countP (fun e => Tells CARD_REPLACED "old_card_id" card e) =
      replacements db card :=
  h.countP fun _ hplain htells => hplain.2 htells.1

theorem voidBudget_step (h : RemedyStep r alert db db') (hold : Uuid) :
    voidBudget db' hold = voidBudget db hold := by
  unfold voidBudget
  cases h with
  | noted events => rw [voids, voids_plain events]
  | credited _ _ _ _ _ _ _ _ _ _ events => rw [voids, voids_plain events]
  | marked | settled => rfl
  | @voided auth credit actions outbox event stored active recorded type named =>
    have hvoids : outbox.rows.countP (fun e => Tells HOLD_VOIDED "authorization_id" hold e) =
        voids db hold + if hold = auth.id then 1 else 0 := by
      rw [countP_insert recorded, voids, if_congr (tells_self type named) rfl rfl]
    have hget : (setHoldStatus db auth.id .reversed).authorizations.get? hold =
        if hold = auth.id then some { auth with status := .reversed }
        else db.authorizations.get? hold := by
      refine (Table.get?_update fun a : TransactionAuthorization =>
        { a with status := .reversed }).trans ?_
      rw [stored]
      rfl
    change outbox.rows.countP (fun e => Tells HOLD_VOIDED "authorization_id" hold e) +
      (if ∃ a ∈ (setHoldStatus db auth.id .reversed).authorizations.get? hold, a.isActive
        then 1 else 0) = _
    rw [hvoids, hget]
    by_cases hself : hold = auth.id
    · subst hself
      have hreversed : ¬ ∃ a ∈ some { auth with status := HoldStatus.reversed }, a.isActive := by
        simp [TransactionAuthorization.isActive]
      rw [if_pos rfl, if_pos rfl, if_neg hreversed, if_pos ⟨auth, stored, active⟩]
    · rw [if_neg hself, if_neg hself, add_zero]

theorem provisionalCreditDescription_injective :
    Function.Injective provisionalCreditDescription := by
  intro s t h
  unfold provisionalCreditDescription at h
  have hlist := congrArg String.toList h
  rw [String.toList_append, String.toList_append] at hlist
  exact String.toList_inj.mp ((List.append_right_inj _).mp hlist)

theorem creditBudget_step (spelled : ∀ text ∈ r.disputedTransactionIds, ∃ u : Uuid, text = u.str)
    (h : RemedyStep r alert db db') (posted : Uuid) :
    creditBudget db' alert.creditAccountId posted =
      creditBudget db alert.creditAccountId posted := by
  cases h with
  | noted | marked | settled | voided => rfl
  | @credited text id original statement _ rows _ _ _ _ _ disputed parsed found debit uncredited
      account authorization amount description inserted events =>
    obtain ⟨u, rfl⟩ := spelled text disputed
    obtain rfl : u = id := Option.some.inj ((Uuid.parse?_str u).symm.trans parsed)
    have hreference : statement.reference? "FRAUD_PROVISIONAL_CREDIT_REF_" = some u := by
      rw [reference?_append description, Uuid.parse?_str]
    have hcredits : rows.rows.countP (fun p =>
        p.reference? "FRAUD_PROVISIONAL_CREDIT_REF_" = some posted) =
          credits db posted + if u = posted then 1 else 0 := by
      rw [countP_insert inserted, hreference, credits]
      simp only [Option.some.injEq]
    have hentry : rows.first? (fun p => p.accountId = alert.creditAccountId ∧
        p.authorizationId = none ∧ p.description = provisionalCreditDescription posted.str) =
          (getFraudProvisionalCreditEntry db alert.creditAccountId posted.str).or
            (if u = posted then some statement else none) := by
      have hmatch :
        (statement.accountId = alert.creditAccountId ∧ statement.authorizationId = none ∧
          statement.description = provisionalCreditDescription posted.str) ↔ u = posted := by
        constructor
        · rintro ⟨-, -, htext⟩
          exact Uuid.str_injective
            (provisionalCreditDescription_injective (description.symm.trans htext))
        · rintro rfl
          exact ⟨account, authorization, description⟩
      rw [Table.first?_insert inserted, if_congr hmatch rfl rfl, getFraudProvisionalCreditEntry]
    unfold creditBudget
    have hafter : ∀ entry, entry = rows.first? (fun p => p.accountId = alert.creditAccountId ∧
        p.authorizationId = none ∧ p.description = provisionalCreditDescription posted.str) →
        rows.rows.countP (fun p => p.reference? "FRAUD_PROVISIONAL_CREDIT_REF_" = some posted) +
          (if entry = none then 1 else 0) = credits db posted + if getFraudProvisionalCreditEntry db
            alert.creditAccountId posted.str = none then 1 else 0 := by
      rintro _ rfl
      rw [hcredits, hentry]
      by_cases hself : u = posted
      · subst hself
        simp [uncredited]
      · simp [hself]
    exact hafter _ rfl

theorem alert_step (h : RemedyStep r alert db db') {a : FraudAlert}
    (ha : db.fraudAlerts.get? alert.id = some a) :
    ∃ b, db'.fraudAlerts.get? alert.id = some b ∧ b.cardId = a.cardId ∧
      b.creditAccountId = a.creditAccountId ∧ b.suspiciousTransactions = a.suspiciousTransactions ∧
      b.replacementCardId = a.replacementCardId := by
  cases h with
  | noted | voided | credited => exact ⟨a, ha, rfl, rfl, rfl, rfl⟩
  | marked | settled => exact ⟨_, Table.get?_update_self _ ha, rfl, rfl, rfl, rfl⟩

theorem replacements_step (h : RemedyStep r alert db db') (card : Uuid) :
    replacements db' card = replacements db card := by
  cases h with
  | noted events => exact replacements_plain events card
  | credited _ _ _ _ _ _ _ _ _ _ events => exact replacements_plain events card
  | marked | settled => rfl
  | voided stored active recorded type named =>
    refine (countP_insert recorded _).trans ?_
    rw [if_neg, add_zero, replacements]
    rintro ⟨htype, -⟩
    exact absurd (type.symm.trans htype) (by decide)

/-- What a triage does to the rows that it must not touch twice. -/
structure BudgetKept (account : Uuid) (db db' : Db) : Prop where
  holds : ∀ hold, voidBudget db' hold = voidBudget db hold
  posted : ∀ posted, creditBudget db' account posted = creditBudget db account posted

theorem BudgetKept.refl (account : Uuid) (db : Db) : BudgetKept account db db :=
  ⟨fun _ => rfl, fun _ => rfl⟩

theorem BudgetKept.trans {account : Uuid} {db₁ db₂ db₃ : Db} (h : BudgetKept account db₁ db₂)
    (h' : BudgetKept account db₂ db₃) : BudgetKept account db₁ db₃ :=
  ⟨fun hold => (h'.holds hold).trans (h.holds hold),
    fun posted => (h'.posted posted).trans (h.posted posted)⟩

structure AlertAs (a : FraudAlert) (db : Db) (b : FraudAlert) : Prop where
  stored : db.fraudAlerts.get? a.id = some b
  card : b.cardId = a.cardId
  account : b.creditAccountId = a.creditAccountId
  items : b.suspiciousTransactions = a.suspiciousTransactions

theorem budgetKept_path (spelled : ∀ text ∈ r.disputedTransactionIds, ∃ u : Uuid, text = u.str)
    (h : RemedyPath r alert db db') : BudgetKept alert.creditAccountId db db' := by
  induction h with
  | refl => exact .refl _ _
  | tail _ hstep ih =>
    exact ih.trans ⟨voidBudget_step hstep, creditBudget_step spelled hstep⟩

theorem replacements_path (h : RemedyPath r alert db db') (card : Uuid) :
    replacements db' card = replacements db card := by
  induction h with
  | refl => rfl
  | tail _ hstep ih => exact (replacements_step hstep card).trans ih

theorem alertAs_path (h : RemedyPath r alert db db') {b : FraudAlert} (hb : AlertAs alert db b) :
    ∃ b', AlertAs alert db' b' ∧ b'.replacementCardId = b.replacementCardId := by
  induction h with
  | refl => exact ⟨b, hb, rfl⟩
  | tail _ hstep ih =>
    obtain ⟨b', hb', hsame⟩ := ih
    obtain ⟨c, hc, hcard, haccount, hitems, hreplacement⟩ := alert_step hstep hb'.stored
    exact ⟨c, ⟨hc, hcard.trans hb'.card, haccount.trans hb'.account, hitems.trans hb'.items⟩,
      hreplacement.trans hsame⟩

theorem budgetKept_replacement (h : Replacement r alert db db') (account : Uuid) :
    BudgetKept account db db' := by
  cases h with
  | replaced asked disputes recorded type named events =>
    refine ⟨fun hold => ?_, fun posted => rfl⟩
    refine congrArg (· + _) ((events.countP ?_).trans ((countP_insert recorded _).trans ?_))
    · exact fun e plain he => plain.1 he.1
    rw [if_neg, add_zero, voids]
    rintro ⟨htype, -⟩
    exact absurd (type.symm.trans htype) (by decide)

theorem replacement_effect (h : Replacement r alert db db') {b : FraudAlert}
    (hb : AlertAs alert db b) :
    (r.issueReplacement = true ∧ r.hasDisputes = true) ∧
      (∀ card, replacements db' card ≤ replacements db card + 1) ∧
      ∃ b', AlertAs alert db' b' ∧ b'.replacementCardId ≠ none := by
  cases h with
  | replaced asked disputes recorded type named events =>
    refine ⟨⟨asked, disputes⟩, fun card => ?_, _, ⟨Table.get?_update_self _ hb.stored, hb.card,
      hb.account, hb.items⟩, by simp⟩
    refine (events.countP ?_).le.trans
      ((countP_insert recorded _).le.trans (Nat.add_le_add_left ?_ _))
    · exact fun e plain he => plain.2 he.1
    split <;> omega

theorem budgetKept_run (spelled : ∀ text ∈ r.disputedTransactionIds, ∃ u : Uuid, text = u.str)
    (h : TriageRun r alert db db') : BudgetKept alert.creditAccountId db db' := by
  cases h with
  | kept path => exact budgetKept_path spelled path
  | replaced before replacement after =>
    exact ((budgetKept_path spelled before).trans (budgetKept_replacement replacement _)).trans
      (budgetKept_path spelled after)

theorem alertAs_run (h : TriageRun r alert db db') {b : FraudAlert} (hb : AlertAs alert db b) :
    ∃ b', AlertAs alert db' b' := by
  cases h with
  | kept path =>
    obtain ⟨b', hb', -⟩ := alertAs_path path hb
    exact ⟨b', hb'⟩
  | replaced before replacement after =>
    obtain ⟨b₁, hb₁, -⟩ := alertAs_path before hb
    obtain ⟨-, -, b₂, hb₂, -⟩ := replacement_effect replacement hb₁
    obtain ⟨b', hb', -⟩ := alertAs_path after hb₂
    exact ⟨b', hb'⟩

/-- An alert without a replacement can still get one. -/
def replaceBudget (db : Db) (id card : Uuid) : ℕ :=
  replacements db card +
    if ∃ b ∈ db.fraudAlerts.get? id, b.replacementCardId = none then 1 else 0

theorem replaceBudget_of_alert {b : FraudAlert} (hb : AlertAs alert db b) (card : Uuid) :
    replaceBudget db alert.id card =
      replacements db card + if b.replacementCardId = none then 1 else 0 := by
  simp [replaceBudget, hb.stored]

theorem replaceBudget_run (h : TriageRun r alert db db') {b : FraudAlert}
    (hb : AlertAs alert db b)
    (first : r.issueReplacement = true → r.hasDisputes = true → b.replacementCardId = none)
    (card : Uuid) : replaceBudget db' alert.id card ≤ replaceBudget db alert.id card := by
  cases h with
  | kept path =>
    obtain ⟨b', hb', hsame⟩ := alertAs_path path hb
    rw [replaceBudget_of_alert hb', replaceBudget_of_alert hb, hsame, replacements_path path]
  | replaced before replacement after =>
    obtain ⟨b₁, hb₁, hsame⟩ := alertAs_path before hb
    obtain ⟨⟨asked, disputes⟩, hcount, b₂, hb₂, hsome⟩ := replacement_effect replacement hb₁
    obtain ⟨b', hb', hsame'⟩ := alertAs_path after hb₂
    rw [replaceBudget_of_alert hb', replaceBudget_of_alert hb, hsame', if_neg hsome,
      if_pos (first asked disputes), replacements_path after, ← replacements_path before]
    exact hcount card

end

def TriageOf (id : Uuid) : Operation → Prop
  | .triageFraudCase r => Uuid.parse? r.fraudAlertId = some id
  | _ => False

/-- The ids of an alert's items are written as they are printed. -/
def Canonical (a : FraudAlert) : Prop := ∀ text ∈ a.transactionIds, ∃ u : Uuid, text = u.str

/-- A workflow that asks for a replacement runs only on an alert that has none. -/
def ReplacesFirst (sha256 : String → String) (db : Db) (e : Ambient × Operation) : Prop :=
  match e.2 with
  | .triageFraudCase r => ∀ alert, TriageExecutes sha256 db r alert → r.issueReplacement = true →
      r.hasDisputes = true → alert.replacementCardId = none
  | _ => True

instance (sha256 : String → String) (db : Db) :
    DecidablePred (ReplacesFirst sha256 db) := fun e =>
  match e with
  | (_, .triageFraudCase r) =>
    decidable_of_iff (∀ alert ∈ executingAlert? sha256 db r, r.issueReplacement = true →
      r.hasDisputes = true → alert.replacementCardId = none)
      (forall_congr' fun _ => by rw [Option.mem_def, ← triageExecutes_iff])
  | (_, .processAuthorization _ _) | (_, .processSettlement _) | (_, .processReversal _)
  | (_, .executeBillPayment _) | (_, .reversePostedFee _ _)
  | (_, .voidFraudAuthorizationHold _ _ _) | (_, .applyFraudProvisionalCredit _ _ _)
  | (_, .applyLimitIncrease _ _) | (_, .createDepositAccount _ _ _ _) | (_, .executeTransfer _) =>
    isTrue trivial

section
variable {sha256 : String → String} {db : Db} {a b : FraudAlert} {e : Ambient × Operation}

/-- A call changes nothing, or runs its workflow on the alert. -/
theorem call_cases (he : TriageOf a.id e.2) (hb : AlertAs a db b) :
    (perform sha256 db e.1 e.2).1 = db ∨ ∃ r, e.2 = .triageFraudCase r ∧
      TriageExecutes sha256 db r b ∧ TriageRun r b db (perform sha256 db e.1 e.2).1 := by
  obtain ⟨env, operation⟩ := e
  cases operation with
  | triageFraudCase r =>
    simp only [perform, outcome]
    rcases commitOrRollback_cases db (triageFraudCase sha256 db env r) with hsame | ⟨result, hok⟩
    · exact Or.inl hsame
    · rcases triageFraudCase_cases hok with hsame | ⟨alert, hexec, hrun⟩
      · exact Or.inl hsame
      · obtain ⟨id, hid, hget⟩ := hexec.found
        obtain rfl : a.id = id := Option.some.inj (Eq.trans (Eq.symm he) hid)
        obtain rfl : b = alert :=
          Option.some.inj (hb.stored.symm.trans (Option.filter_eq_some_iff.mp hget).1)
        exact Or.inr ⟨r, rfl, hexec, hrun⟩
  | _ => exact absurd he id

theorem scope_transactions {r : TriageRequest} (h : checkScope b r = .ok ()) :
    ∀ text ∈ r.disputedTransactionIds, text ∈ b.transactionIds := by
  simp only [checkScope, bind_eq_ok, require_eq_ok] at h
  obtain ⟨-, -, hnone⟩ := h
  intro text htext
  by_contra hout
  have hmem : text ∈ unexpectedIds r.disputedTransactionIds b.transactionIds := by
    rw [unexpectedIds, List.mem_insertionSort, List.mem_dedup, List.mem_filter]
    exact ⟨htext, by simpa using hout⟩
  rw [hnone] at hmem
  exact absurd hmem List.not_mem_nil

theorem AlertAs.self (hb : AlertAs a db b) : b.id = a.id ∧ AlertAs b db b := by
  have hid : b.id = a.id := (Table.get?_eq_some.mp hb.stored).2
  exact ⟨hid, by rw [hid]; exact hb.stored, rfl, rfl, rfl⟩

theorem call_kept (canonical : Canonical a) (he : TriageOf a.id e.2) (hb : AlertAs a db b) :
    (∃ b', AlertAs a (perform sha256 db e.1 e.2).1 b') ∧
      BudgetKept a.creditAccountId db (perform sha256 db e.1 e.2).1 := by
  rcases @call_cases sha256 _ _ _ _ he hb with hsame | ⟨r, -, hexec, hrun⟩
  · rw [hsame]
    exact ⟨⟨b, hb⟩, .refl _ _⟩
  · obtain ⟨hid, hself⟩ := hb.self
    obtain ⟨b', hb'⟩ := alertAs_run hrun hself
    refine ⟨⟨b', by rw [← hid]; exact hb'.stored, hb'.card.trans hb.card,
      hb'.account.trans hb.account, hb'.items.trans hb.items⟩, ?_⟩
    rw [← hb.account]
    refine budgetKept_run ?_ hrun
    intro text htext
    have hitems : b.transactionIds = a.transactionIds := by
      rw [FraudAlert.transactionIds, hb.items]
      rfl
    exact canonical text (hitems ▸ scope_transactions hexec.scope text htext)

theorem call_replaces (he : TriageOf a.id e.2) (hb : AlertAs a db b)
    (first : ReplacesFirst sha256 db e) (card : Uuid) :
    replaceBudget (perform sha256 db e.1 e.2).1 a.id card ≤ replaceBudget db a.id card := by
  rcases @call_cases sha256 _ _ _ _ he hb with hsame | ⟨r, hr, hexec, hrun⟩
  · rw [hsame]
  · obtain ⟨hid, hself⟩ := hb.self
    rw [← hid]
    refine replaceBudget_run hrun hself ?_ card
    simp only [ReplacesFirst, hr] at first
    exact first b hexec

end

/-- However often triage is called on an alert, with whatever selections, options and keys, each
hold is released at most once and each posted transaction credited at most once. Each card is
replaced at most once if no workflow that asks for a replacement runs on the alert after it has
got one. -/
theorem remediated_at_most_once {sha256 : String → String} {a : FraudAlert} {start : Db}
    {es : List (Ambient × Operation)} (stored : start.fraudAlerts.get? a.id = some a)
    (canonical : Canonical a) (run : (operations sha256 (TriageOf a.id)).Run start es) :
    let last := (operations sha256 (TriageOf a.id)).final start es
    (∀ hold, voids last hold ≤ voids start hold + 1) ∧
      (∀ posted, credits last posted ≤ credits start posted + 1) ∧
      ((operations sha256 (TriageOf a.id)).Each (ReplacesFirst sha256) start es →
        ∀ card, replacements last card ≤ replacements start card + 1) := by
  intro last
  have hstart : AlertAs a start a := ⟨stored, rfl, rfl, rfl⟩
  have hkept : (∃ b, AlertAs a last b) ∧ BudgetKept a.creditAccountId start last := by
    refine final_of_each (P := fun db => (∃ b, AlertAs a db b) ∧
      BudgetKept a.creditAccountId start db) ?_ ⟨⟨a, hstart⟩, .refl _ _⟩ run
    rintro db e ⟨⟨b, hb⟩, hbudget⟩ he
    obtain ⟨hb', hcall⟩ := @call_kept sha256 _ _ _ _ canonical he hb
    exact ⟨hb', hbudget.trans hcall⟩
  refine ⟨fun hold => ?_, fun posted => ?_, fun first card => ?_⟩
  · have hbudget := hkept.2.holds hold
    unfold voidBudget at hbudget
    split at hbudget <;> split at hbudget <;> omega
  · have hbudget := hkept.2.posted posted
    unfold creditBudget at hbudget
    split at hbudget <;> split at hbudget <;> omega
  · have hle : (∃ b, AlertAs a last b) ∧
        replaceBudget last a.id card ≤ replaceBudget start a.id card := by
      refine final_of_each (P := fun db => (∃ b, AlertAs a db b) ∧
        replaceBudget db a.id card ≤ replaceBudget start a.id card) ?_ ⟨⟨a, hstart⟩, le_rfl⟩
        (Machine.Each.and run first)
      rintro db e ⟨⟨b, hb⟩, hbudget⟩ ⟨he, hfirst⟩
      obtain ⟨hb', -⟩ := @call_kept sha256 _ _ _ _ canonical he hb
      exact ⟨hb', (call_replaces he hb hfirst card).trans hbudget⟩
    have hbudget := hle.2
    unfold replaceBudget at hbudget
    split at hbudget <;> split at hbudget <;> omega

def spread (seed : ℕ) : Ambient :=
  ⟨seed, 2026, fun n => .ofNat ((16 ^ 10 * seed + n) * (2 ^ 64 + 1))⟩

def disputed (replace : Bool) (key : String) : Operation :=
  .triageFraudCase
    ⟨"customer-7", (Uuid.ofNat 30).str, [(Uuid.ofNat 20).str], [], replace, false, some key⟩

theorem disputed_run {es : List (Ambient × Operation)}
    (h : ∀ e ∈ es, ∃ replace key, e.2 = disputed replace key) :
    (operations fraudDigests.sha256 (TriageOf fraudAlert.id)).Run fraudDb es := by
  refine each_of_forall (C := fun e : Ambient × Operation => TriageOf fraudAlert.id e.2)
    (fun e he => ?_) fraudDb
  obtain ⟨replace, key, hop⟩ := h e he
  rw [hop]
  exact Uuid.parse?_str fraudAlert.id

def replacedOnce : List (Ambient × Operation) :=
  [(spread 1, disputed true "first"), (spread 2, disputed true "first"),
    (spread 3, disputed false "second")]

theorem replacedOnce_at_most_once :
    let last := (operations fraudDigests.sha256 (TriageOf fraudAlert.id)).final fraudDb replacedOnce
    (∀ hold, voids last hold ≤ voids fraudDb hold + 1) ∧
      (∀ posted, credits last posted ≤ credits fraudDb posted + 1) ∧
      ∀ card, replacements last card ≤ replacements fraudDb card + 1 := by
  have hrun :
    (operations fraudDigests.sha256 (TriageOf fraudAlert.id)).Run fraudDb replacedOnce := by
    refine disputed_run fun e he => ?_
    simp only [replacedOnce, List.mem_cons, List.not_mem_nil, or_false] at he
    rcases he with rfl | rfl | rfl <;> exact ⟨_, _, rfl⟩
  have hcanonical : Canonical fraudAlert := fun text htext => absurd htext List.not_mem_nil
  obtain ⟨hvoids, hcredits, hreplaced⟩ := @remediated_at_most_once fraudDigests.sha256
    fraudAlert fraudDb _ rfl hcanonical hrun
  exact ⟨hvoids, hcredits, hreplaced (by decide +kernel)⟩

/-- Another key is enough to have the card replaced a second time. -/
theorem card_is_replaced_twice :
    let es := [(spread 1, disputed true "first"), (spread 2, disputed true "second")]
    (operations fraudDigests.sha256 (TriageOf fraudAlert.id)).Run fraudDb es ∧
      replacements fraudDb fraudAlert.cardId = 0 ∧
      replacements ((operations fraudDigests.sha256 (TriageOf fraudAlert.id)).final fraudDb es)
        fraudAlert.cardId = 2 := by
  refine ⟨disputed_run fun e he => ?_, by decide +kernel, by decide +kernel⟩
  simp only [List.mem_cons, List.not_mem_nil, or_false] at he
  rcases he with rfl | rfl <;> exact ⟨_, _, rfl⟩

end BankingService.RemediatedOnce
