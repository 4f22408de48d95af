import BankingService.Operations
import Mathlib.Algebra.Order.Group.Int

/-! The cached available credit of a card account. Most calls recompute it; a fee reversal and a
limit increase move it by a difference, and a hold whose alert commits first is counted only
afterwards. The cache stays equal to what would be recomputed exactly while the differences
agree with the clamp. -/
namespace AvailableCredit

open BankingService Python Relational Checked Runs ClampedCache

def used (db : Db) (a : CreditAccount) : ℤ := a.clearedBalanceCents + heldTotal db a.id

/-- The cached available credit is what would be recomputed. -/
def CreditCurrent (id : Uuid) (db : Db) : Prop :=
  ∀ a, db.creditAccounts.get? id = some a →
    a.availableCreditCents = headroom a.creditLimitCents (used db a)

/-- The calls that change holds, balances and limits of a card account. -/
def CardOperation : Operation → Prop
  | .processAuthorization _ _ | .processSettlement _ | .processReversal _ | .executeBillPayment _
  | .reversePostedFee _ _ | .voidFraudAuthorizationHold _ _ _
  | .applyFraudProvisionalCredit _ _ _ | .applyLimitIncrease _ _ => True
  | .triageFraudCase _ | .createDepositAccount _ _ _ _ | .executeTransfer _ => False

/-- A hold was stored, an alert's message committed it, and the call ended before the hold was
counted. -/
def StoppedBetweenCommits (id : Uuid) (db : Db) (env : Ambient) (r : CardAuthHoldRequest)
    (f : FraudEvaluation) : Prop :=
  ∃ card db₁ placed account, getAuthorizationByRrn db r.retrievalReferenceNumber = none ∧
    getCardByToken db r.cardToken = some card ∧ card.usable = true ∧ card.accountId = id ∧
    db.creditAccounts.get? card.accountId = some account ∧
    authorizeUnderLock db env r f card account (getOpenAlertForAccount db account.id) =
      .ok (db₁, .inr placed) ∧
    (f.interrupted = true ∨ ∀ x, finishCommittedHold db₁ env r placed
      (db₁.creditAccounts.get? account.id) ≠ .ok x)

/-- Where a call moves the cache by a difference, the difference is what recomputing gives: the
account is within its limit, and no more is given back than is used. -/
def DifferenceExact (id : Uuid) (db : Db) (e : Ambient × Operation) : Prop :=
  match e.2 with
  | .reversePostedFee accountId transactionId =>
    accountId = id → (∃ x, reversePostedFee db e.1 accountId transactionId = .ok x) →
      ∀ a uuid original, db.creditAccounts.get? id = some a →
        Uuid.parse? transactionId = some uuid → db.postedTransactions.get? uuid = some original →
        used db a ≤ a.creditLimitCents ∧ |original.amountCents| ≤ used db a
  | .applyLimitIncrease accountId limit =>
    accountId = id → (∃ x, applyLimitIncrease db e.1 accountId limit = .ok x) →
      ∀ a, db.creditAccounts.get? id = some a → used db a ≤ a.creditLimitCents
  | .processAuthorization r f =>
    StoppedBetweenCommits id db e.1 r f →
      ∀ a, db.creditAccounts.get? id = some a → used db a + r.amountCents ≤ 0
  | _ => True

/-- A hold that a swipe adds to the account does not exceed the recomputed availability. -/
def ApprovalCovered (sha256 : String → String) (id : Uuid) (db : Db) (e : Ambient × Operation) :
    Prop :=
  ∀ r f, e.2 = .processAuthorization r f → ∀ a, db.creditAccounts.get? id = some a →
    (∃ hold ∈ (perform sha256 db e.1 e.2).1.authorizations.rows,
      hold ∉ db.authorizations.rows ∧ hold.accountId = id ∧ hold.isActive) →
    r.amountCents ≤ headroom a.creditLimitCents (used db a)

section
variable {db db' : Db} {env : Ambient} {id : Uuid} {account updated : CreditAccount}

structure Recomputed (db : Db) (account : CreditAccount) (db' : Db) : Prop where
  found : db.creditAccounts.get? account.id = some account
  here : ∃ updated, updated.id = account.id ∧
    updated.availableCreditCents = headroom updated.creditLimitCents (used db' updated) ∧
    db'.creditAccounts.get? account.id = some updated
  others : ∀ id, id ≠ account.id → db'.creditAccounts.get? id = db.creditAccounts.get? id ∧
    heldTotal db' id = heldTotal db id

theorem creditCurrent_congr (hc : db'.creditAccounts.get? id = db.creditAccounts.get? id)
    (hh : heldTotal db' id = heldTotal db id) : CreditCurrent id db' ↔ CreditCurrent id db := by
  unfold CreditCurrent used
  rw [hc]
  constructor
  · intro h a ha
    have hid : a.id = id := (Table.get?_eq_some.mp ha).2
    rw [hid, ← hh, ← hid]
    exact h a ha
  · intro h a ha
    have hid : a.id = id := (Table.get?_eq_some.mp ha).2
    rw [hid, hh, ← hid]
    exact h a ha

theorem Recomputed.current (h : Recomputed db account db') (hc : CreditCurrent id db) :
    CreditCurrent id db' := by
  by_cases hid : id = account.id
  · subst hid
    obtain ⟨updated, -, havail, hget⟩ := h.here
    intro a ha
    rw [hget] at ha
    cases ha
    exact havail
  · obtain ⟨hrow, hheld⟩ := h.others id hid
    exact (creditCurrent_congr hrow hheld).mpr hc

theorem recomputed_of_save (hget : db.creditAccounts.get? account.id = some account)
    (hcredit : db'.creditAccounts = (saveAccount db account updated).creditAccounts)
    (hrevised : Revises account updated) (hid : updated.id = account.id)
    (havail : updated.availableCreditCents = headroom updated.creditLimitCents
      (updated.clearedBalanceCents + heldTotal db' account.id))
    (hheld : ∀ id, id ≠ account.id → heldTotal db' id = heldTotal db id) :
    Recomputed db account db' := by
  refine ⟨hget, ⟨updated, hid, ?_, ?_⟩, ?_⟩
  · unfold used
    rw [hid]
    exact havail
  · rw [hcredit]
    exact get?_saveAccount_self hget hrevised
  · intro id hne
    refine ⟨?_, hheld id hne⟩
    rw [hcredit]
    exact get?_saveAccount_of_ne hne

theorem recomputed_of_settled {auth : TransactionAuthorization} {r : CardSettlementRequest}
    {statement : PostedTransaction} (h : Settled db account auth r updated statement db')
    (hauth : db.authorizations.get? auth.id = some auth)
    (hget : db.creditAccounts.get? account.id = some account) (hid : account.id = auth.accountId) :
    Recomputed db account db' := by
  obtain ⟨money, -, hposting⟩ := h.posting
  refine recomputed_of_save hget hposting.credit ?_ hposting.same_account ?_ ?_
  · unfold Revises
    rw [h.balance]
  · rw [h.balance]
  · intro id hne
    rw [heldTotal_congr h.holds]
    exact heldTotal_setHoldStatus hauth (hid ▸ hne)

theorem recomputed_of_released {auth : TransactionAuthorization}
    (h : HoldReleased db account auth updated db')
    (hauth : db.authorizations.get? auth.id = some auth)
    (hget : db.creditAccounts.get? account.id = some account) (hid : account.id = auth.accountId) :
    Recomputed db account db' := by
  refine recomputed_of_save hget h.credit ?_ ?_ ?_ ?_
  · unfold Revises
    rw [h.balance]
  · rw [h.balance]
  · rw [h.balance]
  · intro id hne
    rw [heldTotal_congr h.holds]
    exact heldTotal_setHoldStatus hauth (hid ▸ hne)

theorem recomputed_of_credited {transactionId : String} {original statement : PostedTransaction}
    (h : ProvisionallyCredited db account transactionId original updated statement db')
    (hget : db.creditAccounts.get? account.id = some account) : Recomputed db account db' := by
  obtain ⟨money, -, hposting⟩ := h.posting
  refine recomputed_of_save hget hposting.credit ?_ hposting.same_account ?_ ?_
  · unfold Revises
    rw [h.balance]
  · rw [h.balance]
  · exact fun id _ => heldTotal_congr h.holds id

theorem recomputed_of_paid {sha256 : String → String} {p : BillPayment} {deposit : Account}
    {existing : Option Transaction} {statement : PostedTransaction} {t : Transaction}
    {result : BillPaymentResult}
    (h : Paid sha256 db p deposit account existing updated statement t result db')
    (hget : db.creditAccounts.get? account.id = some account) : Recomputed db account db' := by
  refine recomputed_of_save hget h.credit ?_ ?_ ?_ ?_
  · unfold Revises
    rw [h.balance]
  · rw [h.balance]
  · rw [h.balance]
  · exact fun id _ => heldTotal_congr h.holds id

theorem heldTotal_placed {r : CardAuthHoldRequest} {f : FraudEvaluation} {card : IssuedCard}
    {hold : TransactionAuthorization} (h : Placed db r f card account hold db') (id : Uuid) :
    heldTotal db' id = heldTotal db id + if account.id = id then r.amountCents else 0 := by
  obtain ⟨haccount, -, hamount, -, hstatus⟩ := h.hold
  have hactive : hold.isActive := by
    unfold TransactionAuthorization.isActive
    rw [hstatus]
    split
    · exact Or.inr rfl
    · exact Or.inl rfl
  rw [heldTotal_insert h.stored rfl, haccount, hamount]
  simp [hactive]

theorem recomputed_of_counted {r : CardAuthHoldRequest} {f : FraudEvaluation} {card : IssuedCard}
    {placed : PlacedHold} {db₁ : Db} {response : AuthorizationResponse}
    (hp : Placed db r f card account placed.hold db₁)
    (hf : finishHold db₁ env r placed account = .ok (db', response))
    (hget : db.creditAccounts.get? account.id = some account) : Recomputed db account db' := by
  obtain ⟨updated, hbalance, hcredit, hholds⟩ := finishHold_effect hf
  have hsaved : db'.creditAccounts = (saveAccount db account updated).creditAccounts := by
    rw [hcredit]
    unfold saveAccount
    rw [hp.credit]
  refine recomputed_of_save hget hsaved ?_ ?_ ?_ ?_
  · unfold Revises
    rw [hbalance]
  · rw [hbalance]
  · rw [hbalance]
  · intro id hne
    rw [heldTotal_congr hholds, heldTotal_placed hp, if_neg hne.symm, add_zero]

/-- Nothing changed that counts: no account and no active hold. -/
structure Uncounted (db db' : Db) : Prop where
  credit : db'.creditAccounts = db.creditAccounts
  held : ∀ id, heldTotal db' id = heldTotal db id
  inactive : ∀ hold ∈ db'.authorizations.rows, hold ∈ db.authorizations.rows ∨ ¬ hold.isActive

theorem uncounted_of_same (hc : db'.creditAccounts = db.creditAccounts)
    (hh : db'.authorizations = db.authorizations) : Uncounted db db' :=
  ⟨hc, heldTotal_congr hh, fun _ h => Or.inl (hh ▸ h)⟩

theorem uncounted_of_declined {r : CardAuthHoldRequest} (h : Declined db r account db') :
    Uncounted db db' := by
  rcases h.holds with hsame | ⟨hold, -, hdeclined, -, hi⟩
  · exact uncounted_of_same h.credit hsame
  · have hinactive : ¬ hold.isActive := by
      unfold TransactionAuthorization.isActive
      rw [hdeclined]
      decide
    refine ⟨h.credit, ?_, ?_⟩
    · intro id
      rw [heldTotal_insert hi rfl]
      simp [hinactive]
    · intro x hx
      rcases (Table.mem_insert hi).mp hx with hx | rfl
      · exact Or.inl hx
      · exact Or.inr hinactive

theorem Uncounted.current (h : Uncounted db db') : CreditCurrent id db' ↔ CreditCurrent id db :=
  creditCurrent_congr (by rw [h.credit]) (h.held id)

theorem uncounted_of_unrecorded {r : CardAuthHoldRequest} {context : List (String × JsonValue)}
    {code reason : String} :
    Uncounted db (commitOrRollback db (declineUnrecorded db env r context code reason)).1 := by
  rcases commitOrRollback_cases db (declineUnrecorded db env r context code reason) with
    h | ⟨response, h⟩
  · rw [h]
    exact uncounted_of_same rfl rfl
  · obtain ⟨outbox, h⟩ := declineUnrecorded_frame h
    rw [h]
    exact uncounted_of_same rfl rfl

/-- How a swipe can leave the database: nothing that counts changed, the hold was placed and
counted, or it was placed and the call stopped. -/
theorem processAuthorization_cases (db : Db) (env : Ambient) (r : CardAuthHoldRequest)
    (f : FraudEvaluation) :
    Uncounted db (processAuthorization db env r f).1 ∨
    ∃ (card : IssuedCard) (account : CreditAccount) (placed : PlacedHold) (db₁ : Db),
      db.creditAccounts.get? account.id = some account ∧
      r.amountCents ≤ account.availableCreditCents ∧ Placed db r f card account placed.hold db₁ ∧
      ((∃ response, finishHold db₁ env r placed account =
          .ok ((processAuthorization db env r f).1, response)) ∨
        ((processAuthorization db env r f).1 = db₁ ∧
          StoppedBetweenCommits account.id db env r f)) := by
  have hsame : Uncounted db db := uncounted_of_same rfl rfl
  unfold processAuthorization
  cases hrrn : getAuthorizationByRrn db r.retrievalReferenceNumber with
  | some existing => exact Or.inl hsame
  | none =>
    cases hcard : getCardByToken db r.cardToken with
    | none => exact Or.inl uncounted_of_unrecorded
    | some card =>
      dsimp only
      split
      · next husable =>
        cases haccount : db.creditAccounts.get? card.accountId with
        | none => exact Or.inl uncounted_of_unrecorded
        | some account =>
          have hid : account.id = card.accountId := (Table.get?_eq_some.mp haccount).2
          have hget : db.creditAccounts.get? account.id = some account := hid ▸ haccount
          dsimp only
          cases hu : authorizeUnderLock db env r f card account
              (getOpenAlertForAccount db account.id) with
          | error e => exact Or.inl hsame
          | ok x =>
            obtain ⟨db₁, progress⟩ := x
            rcases authorizeUnderLock_cases hu with ⟨⟨response, rfl⟩, hd⟩ |
              ⟨hfunds, db₂, placed, hp, ⟨rfl, rfl⟩ | ⟨response, rfl, hf⟩⟩
            · exact Or.inl (uncounted_of_declined hd)
            · have hreload : db₁.creditAccounts.get? account.id = some account := by
                rw [hp.credit]
                exact hget
              have hstopped : (f.interrupted = true ∨ ∀ x, finishCommittedHold db₁ env r placed
                  (db₁.creditAccounts.get? account.id) ≠ .ok x) →
                  StoppedBetweenCommits account.id db env r f := fun h =>
                ⟨card, db₁, placed, account, hrrn, hcard, husable, hid.symm, haccount, hu, h⟩
              dsimp only
              split
              · next hi =>
                exact Or.inr ⟨card, account, placed, db₁, hget, hfunds, hp,
                  Or.inr ⟨rfl, hstopped (Or.inl hi)⟩⟩
              · rcases ok_or_error (finishCommittedHold db₁ env r placed
                  (db₁.creditAccounts.get? account.id)) with ⟨⟨db₂, response⟩, h⟩ | ⟨e, h⟩
                · obtain ⟨outbox, reloaded, hrow, hf⟩ := finishCommittedHold_cases h
                  cases hreload.symm.trans hrow
                  rw [commitOrRollback_of_ok h]
                  exact Or.inr ⟨card, account, placed, { db₁ with auditOutbox := outbox }, hget,
                    hfunds, ⟨hp.stored, hp.hold, hp.credit⟩, Or.inl ⟨response, hf⟩⟩
                · have hne : ∀ x, finishCommittedHold db₁ env r placed
                      (db₁.creditAccounts.get? account.id) ≠ .ok x := by
                    intro x hx
                    rw [h] at hx
                    cases hx
                  exact Or.inr ⟨card, account, placed, db₁, hget, hfunds, hp,
                    Or.inr ⟨commitOrRollback_of_error hne, hstopped (Or.inr hne)⟩⟩
            · exact Or.inr ⟨card, account, placed, db₂, hget, hfunds, hp, Or.inl ⟨response, hf⟩⟩
      · exact Or.inl uncounted_of_unrecorded

theorem placed_of_stopped {r : CardAuthHoldRequest} {f : FraudEvaluation}
    (h : StoppedBetweenCommits id db env r f) :
    ∃ (card : IssuedCard) (account : CreditAccount) (placed : PlacedHold),
      db.creditAccounts.get? id = some account ∧ r.amountCents ≤ account.availableCreditCents ∧
      Placed db r f card account placed.hold (processAuthorization db env r f).1 := by
  obtain ⟨card, db₁, placed, account, hrrn, hcard, husable, hid, haccount, hu, hstop⟩ := h
  have hfinal : (processAuthorization db env r f).1 = db₁ := by
    unfold processAuthorization
    simp only [hrrn, hcard, husable, if_true, haccount, hu]
    split
    · rfl
    · next hi => exact commitOrRollback_of_error (hstop.resolve_left hi)
  rcases authorizeUnderLock_cases hu with ⟨⟨response, hr⟩, -⟩ |
    ⟨hfunds, db₂, placed', hp, ⟨hr, hdb⟩ | ⟨response, hr, -⟩⟩
  · cases hr
  · cases hr
    rw [hfinal, hdb]
    exact ⟨card, account, placed, hid ▸ haccount, hfunds, hp⟩
  · cases hr

/-- An uncounted hold leaves the cache current only if nothing was in use either way. -/
theorem creditCurrent_placed_iff {r : CardAuthHoldRequest} {f : FraudEvaluation}
    {card : IssuedCard} {hold : TransactionAuthorization}
    (hget : db.creditAccounts.get? id = some account)
    (hfunds : r.amountCents ≤ account.availableCreditCents)
    (hp : Placed db r f card account hold db') (hc : CreditCurrent id db) :
    CreditCurrent id db' ↔ used db account + r.amountCents ≤ 0 := by
  have hid : account.id = id := (Table.get?_eq_some.mp hget).2
  have havail := hc account hget
  have hwithin : used db account + r.amountCents ≤ account.creditLimitCents :=
    within_of_le_headroom r.positive (havail ▸ hfunds)
  have hused : used db' account = used db account + r.amountCents := by
    unfold used
    rw [heldTotal_placed hp, if_pos rfl, add_assoc]
  rw [← headroom_charge_iff r.positive hwithin, ← hused, ← havail]
  constructor
  · intro h
    exact (h account (by rw [hp.credit]; exact hget)).symm
  · intro h a ha
    rw [hp.credit, hget] at ha
    cases ha
    exact h.symm

theorem authorization_exact {r : CardAuthHoldRequest} {f : FraudEvaluation}
    (hc : CreditCurrent id db) :
    CreditCurrent id (processAuthorization db env r f).1 ↔
      DifferenceExact id db (env, .processAuthorization r f) := by
  constructor
  · intro h hstop a ha
    obtain ⟨card, account, placed, hget, hfunds, hp⟩ := placed_of_stopped hstop
    rw [hget] at ha
    cases ha
    exact (creditCurrent_placed_iff hget hfunds hp hc).mp h
  · intro h
    rcases processAuthorization_cases db env r f with hu |
      ⟨card, account, placed, db₁, hget, hfunds,
      hp, ⟨response, hf⟩ | ⟨hdb, hstop⟩⟩
    · exact hu.current.mpr hc
    · exact (recomputed_of_counted hp hf hget).current hc
    · rw [hdb]
      by_cases hid : account.id = id
      · subst hid
        exact (creditCurrent_placed_iff hget hfunds hp hc).mpr (h hstop account hget)
      · refine (creditCurrent_congr (by rw [hp.credit]) ?_).mpr hc
        rw [heldTotal_placed hp, if_neg hid, add_zero]

theorem authorization_covered {sha256 : String → String} {e : Ambient × Operation}
    (hc : CreditCurrent id db) : ApprovalCovered sha256 id db e := by
  rintro r f he a ha ⟨hold, hmem, hnew, haccount, hactive⟩
  rw [he] at hmem
  have hmem : hold ∈ (processAuthorization db e.1 r f).1.authorizations.rows := hmem
  have covered : ∀ (card : IssuedCard) (account : CreditAccount) (placed : PlacedHold) (db₁ : Db),
      db.creditAccounts.get? account.id = some account →
      r.amountCents ≤ account.availableCreditCents → Placed db r f card account placed.hold db₁ →
      hold ∈ db₁.authorizations.rows →
      r.amountCents ≤ headroom a.creditLimitCents (used db a) := by
    intro card account placed db₁ hget hfunds hp hin
    rcases (Table.mem_insert hp.stored).mp hin with hin | rfl
    · exact absurd hin hnew
    · have hid : account.id = id := hp.hold.1.symm.trans haccount
      rw [hid, ha] at hget
      cases hget
      rw [← hc a ha]
      exact hfunds
  rcases processAuthorization_cases db e.1 r f with hu | ⟨card, account, placed, db₁, hget, hfunds,
    hp, ⟨response, hf⟩ | ⟨hdb, -⟩⟩
  · rcases hu.inactive hold hmem with h | h
    · exact absurd h hnew
    · exact absurd hactive h
  · obtain ⟨-, -, -, hholds⟩ := finishHold_effect hf
    exact covered card account placed db₁ hget hfunds hp (hholds ▸ hmem)
  · exact covered card account placed db₁ hget hfunds hp (hdb ▸ hmem)

/-- A saved row is current if its own columns agree. -/
theorem creditCurrent_saved_iff (hget : db.creditAccounts.get? account.id = some account)
    (hcredit : db'.creditAccounts = (saveAccount db account updated).creditAccounts)
    (hrevised : Revises account updated) (hholds : db'.authorizations = db.authorizations) :
    CreditCurrent account.id db' ↔ updated.availableCreditCents =
      headroom updated.creditLimitCents
        (updated.clearedBalanceCents + heldTotal db account.id) := by
  have hrow : db'.creditAccounts.get? account.id = some updated := by
    rw [hcredit]
    exact get?_saveAccount_self hget hrevised
  have hused : used db' updated = updated.clearedBalanceCents + heldTotal db account.id := by
    have hid : updated.id = account.id := by rw [hrevised]
    unfold used
    rw [hid, heldTotal_congr hholds]
  rw [← hused]
  constructor
  · exact fun h => h updated hrow
  · intro h a ha
    rw [hrow] at ha
    cases ha
    exact h

theorem creditCurrent_saved_other (hne : id ≠ account.id)
    (hcredit : db'.creditAccounts = (saveAccount db account updated).creditAccounts)
    (hholds : db'.authorizations = db.authorizations) :
    CreditCurrent id db' ↔ CreditCurrent id db :=
  creditCurrent_congr (by rw [hcredit]; exact get?_saveAccount_of_ne hne)
    (heldTotal_congr hholds id)

theorem reversal_exact {accountId : Uuid} {transactionId : String} (hc : CreditCurrent id db) :
    CreditCurrent id (commitOrRollback db (reversePostedFee db env accountId transactionId)).1 ↔
      DifferenceExact id db (env, .reversePostedFee accountId transactionId) := by
  rcases ok_or_error (reversePostedFee db env accountId transactionId) with
    ⟨⟨db₁, result⟩, hok⟩ | ⟨e, herror⟩
  · rw [commitOrRollback_of_ok hok]
    have h := hok
    simp only [reversePostedFee, lockedAccount, bind_eq_ok, orRaise_eq_ok] at h
    obtain ⟨account, hget, h⟩ := h
    have hid : account.id = accountId := (Table.get?_eq_some.mp hget).2
    subst hid
    obtain ⟨original, updated, statement, hr⟩ := feeReversed_of_ok h
    obtain ⟨money, -, hposting⟩ := hr.posting
    have hrevised : Revises account updated := by
      unfold Revises
      rw [hr.balance]
    by_cases hne : id = account.id
    · subst hne
      rw [creditCurrent_saved_iff hget hposting.credit hrevised hr.holds, hr.balance]
      dsimp only
      rw [hc account hget, sub_add_eq_add_sub]
      unfold used
      rw [headroom_release_iff (abs_pos.mpr hr.debit.ne)]
      obtain ⟨uuid, hparse, hfound⟩ := hr.found
      rw [getLedgerEntryByIdForAccount, Option.filter_eq_some_iff] at hfound
      constructor
      · intro hexact _ _ a uuid' original' ha hparse' horiginal'
        rw [hget] at ha
        cases ha
        rw [hparse] at hparse'
        cases hparse'
        rw [hfound.1] at horiginal'
        cases horiginal'
        exact hexact
      · exact fun hexact => hexact rfl ⟨_, hok⟩ account uuid original hget hparse hfound.1
    · rw [creditCurrent_saved_other hne hposting.credit hr.holds]
      exact ⟨fun _ h => absurd h.symm hne, fun _ => hc⟩
  · have hne : ∀ x, reversePostedFee db env accountId transactionId ≠ .ok x := by
      intro x hx
      rw [herror] at hx
      cases hx
    rw [commitOrRollback_of_error hne]
    refine ⟨?_, fun _ => hc⟩
    rintro _ _ ⟨x, hx⟩
    exact absurd hx (hne x)

theorem increase_exact {accountId : Uuid} {limit : ℤ} (hc : CreditCurrent id db) :
    CreditCurrent id (commitOrRollback db (applyLimitIncrease db env accountId limit)).1 ↔
      DifferenceExact id db (env, .applyLimitIncrease accountId limit) := by
  rcases ok_or_error (applyLimitIncrease db env accountId limit) with
    ⟨⟨db₁, result⟩, hok⟩ | ⟨e, herror⟩
  · rw [commitOrRollback_of_ok hok]
    obtain ⟨account, updated, hr⟩ := limitRaised_of_ok hok
    have hget := hr.found
    have hid : account.id = accountId := (Table.get?_eq_some.mp hget).2
    subst hid
    obtain ⟨now, hbalance⟩ := hr.balance
    have hrevised : Revises account updated := by
      unfold Revises
      rw [hbalance]
    by_cases hne : id = account.id
    · subst hne
      rw [creditCurrent_saved_iff hget hr.credit hrevised hr.holds, hbalance]
      dsimp only
      rw [hc account hget]
      unfold used
      rw [headroom_raise_iff hr.positive.le hr.raised]
      constructor
      · intro hexact _ _ a ha
        rw [hget] at ha
        cases ha
        exact hexact
      · exact fun hexact => hexact rfl ⟨_, hok⟩ account hget
    · rw [creditCurrent_saved_other hne hr.credit hr.holds]
      exact ⟨fun _ h => absurd h.symm hne, fun _ => hc⟩
  · have hne : ∀ x, applyLimitIncrease db env accountId limit ≠ .ok x := by
      intro x hx
      rw [herror] at hx
      cases hx
    rw [commitOrRollback_of_error hne]
    exact ⟨fun _ _ ⟨x, hx⟩ => absurd hx (hne x), fun _ => hc⟩

theorem current_of_commit {α : Type} {call : Except PyException (Db × α)}
    (h : ∀ db' a, call = .ok (db', a) → db' = db ∨ ∃ account, Recomputed db account db')
    (hc : CreditCurrent id db) : CreditCurrent id (commitOrRollback db call).1 := by
  rcases commitOrRollback_cases db call with hsame | ⟨a, hok⟩
  · rw [hsame]
    exact hc
  · rcases h _ a hok with hsame | ⟨account, hr⟩
    · rw [hsame]
      exact hc
    · exact hr.current hc

theorem settlement_current {r : CardSettlementRequest} (hc : CreditCurrent id db) :
    CreditCurrent id (commitOrRollback db (processSettlement db env r)).1 := by
  apply current_of_commit _ hc
  intro db' result h
  obtain ⟨auth, account, ⟨hauth, -⟩, hget, hid, -, h⟩ := processSettlement_cases h
  obtain ⟨updated, statement, hs⟩ := settled_of_ok h
  exact Or.inr ⟨account, recomputed_of_settled hs hauth hget hid⟩

theorem networkReversal_current {r : CardReversalRequest} (hc : CreditCurrent id db) :
    CreditCurrent id (commitOrRollback db (processReversal db env r)).1 := by
  apply current_of_commit _ hc
  intro db' available h
  obtain ⟨auth, account, hauth, hget, hid, h⟩ := processReversal_cases h
  obtain ⟨updated, hr⟩ := holdReleased_of_reverse h
  exact Or.inr ⟨account, recomputed_of_released hr hauth hget hid⟩

theorem payment_current {sha256 : String → String} {r : BillPaymentRequest}
    (hc : CreditCurrent id db) :
    CreditCurrent id (commitOrRollback db (executeBillPaymentForUser sha256 db env r)).1 := by
  apply current_of_commit _ hc
  intro db' result h
  rcases executeBillPaymentForUser_cases sha256 h with
    hsame | ⟨p, deposit, card, updated, statement, t, -, hget, hpaid⟩
  · exact Or.inl hsame
  · exact Or.inr ⟨card, recomputed_of_paid hpaid hget⟩

theorem void_current {accountId fraudAlertId : Uuid} {authorizationId : String}
    (hc : CreditCurrent id db) :
    CreditCurrent id
      (commitOrRollback db (voidOnAccount db env accountId authorizationId fraudAlertId)).1 := by
  apply current_of_commit _ hc
  intro db' result h
  simp only [voidOnAccount, bind_eq_ok, pure_eq_ok] at h
  obtain ⟨account, haccount, ⟨db₁, updated, result'⟩, h, heq⟩ := h
  cases heq
  have hget := remediatedAccount_eq_ok haccount
  have hid : account.id = accountId := (Table.get?_eq_some.mp hget).2
  rcases voidFraudAuthorizationHold_cases h with ⟨hsame, -⟩ | h
  · exact Or.inl hsame
  · obtain ⟨authId, auth, -, hauth, -, hr⟩ := holdReleased_of_void h
    obtain ⟨hfound, howner⟩ := getAuthorizationByIdForAccount_eq_some hauth
    exact Or.inr ⟨account, recomputed_of_released hr hfound (hid ▸ hget) howner⟩

theorem credit_current {accountId fraudAlertId : Uuid} {transactionId : String}
    (hc : CreditCurrent id db) :
    CreditCurrent id
      (commitOrRollback db (creditOnAccount db env accountId transactionId fraudAlertId)).1 := by
  apply current_of_commit _ hc
  intro db' result h
  simp only [creditOnAccount, bind_eq_ok, pure_eq_ok] at h
  obtain ⟨account, haccount, ⟨db₁, updated, result'⟩, h, heq⟩ := h
  cases heq
  have hget := remediatedAccount_eq_ok haccount
  have hid : account.id = accountId := (Table.get?_eq_some.mp hget).2
  rcases applyFraudProvisionalCredit_cases h with ⟨hsame, -⟩ | ⟨-, h⟩
  · exact Or.inl hsame
  · obtain ⟨original, statement, hr⟩ := provisionallyCredited_of_ok h
    exact Or.inr ⟨account, recomputed_of_credited hr (hid ▸ hget)⟩

/-- One call keeps the cache current exactly if its difference is exact. -/
theorem step_exact (sha256 : String → String) {e : Ambient × Operation} (he : CardOperation e.2)
    (hc : CreditCurrent id db) :
    CreditCurrent id (perform sha256 db e.1 e.2).1 ↔ DifferenceExact id db e := by
  obtain ⟨env, op⟩ := e
  cases op with
  | processAuthorization r f => exact authorization_exact hc
  | processSettlement r => exact iff_of_true (settlement_current hc) trivial
  | processReversal r => exact iff_of_true (networkReversal_current hc) trivial
  | executeBillPayment r => exact iff_of_true (payment_current hc) trivial
  | reversePostedFee accountId transactionId => exact reversal_exact hc
  | voidFraudAuthorizationHold accountId authorizationId fraudAlertId =>
    exact iff_of_true (void_current hc) trivial
  | applyFraudProvisionalCredit accountId transactionId fraudAlertId =>
    exact iff_of_true (credit_current hc) trivial
  | applyLimitIncrease accountId limit => exact increase_exact hc
  | triageFraudCase r => exact he.elim
  | createDepositAccount r uid key number => exact he.elim
  | executeTransfer r => exact he.elim

end

/-- The cache is current after every call of a run exactly if every difference in it is exact,
and then no swipe is approved beyond the recomputed credit. -/
theorem credit_current_iff_differences_exact (sha256 : String → String) {id : Uuid} {db : Db}
    {calls : List (Ambient × Operation)} (start : CreditCurrent id db)
    (run : (operations sha256 CardOperation).Run db calls) :
    ((operations sha256 CardOperation).Throughout (CreditCurrent id) db calls ↔
      (operations sha256 CardOperation).Each (DifferenceExact id) db calls) ∧
    ((operations sha256 CardOperation).Throughout (CreditCurrent id) db calls →
      (operations sha256 CardOperation).Each (ApprovalCovered sha256 id) db calls) := by
  have keep : ∀ db e, CreditCurrent id db → CardOperation e.2 →
      (CreditCurrent id ((operations sha256 CardOperation).next db e) ↔
        DifferenceExact id db e) :=
    fun db e hc he => step_exact sha256 he hc
  have hexact : (operations sha256 CardOperation).Throughout (CreditCurrent id) db calls ↔
      (operations sha256 CardOperation).Each (DifferenceExact id) db calls :=
    throughout_iff_each (J := fun _ => True) (fun _ _ _ _ _ _ => trivial)
      (fun db e _ hc he => keep db e hc he) run trivial start
  refine ⟨hexact, fun h => ?_⟩
  have good : ∀ db e, CreditCurrent id db → DifferenceExact id db e ∧
      (operations sha256 CardOperation).Enabled db e → ApprovalCovered sha256 id db e :=
    fun db e hc _ => authorization_covered hc
  exact each_of_each (fun db e hc hd => (keep db e hc hd.2).mpr hd.1) good start
    ((hexact.mp h).and run)

def halfUsedCard : CreditAccount :=
  { id := .ofNat 10, customerId := .ofNat 1, productCode := "CASHBACK", status := .active,
    creditLimitCents := 1000, clearedBalanceCents := 0, availableCreditCents := 100,
    currency := .usd, lastLimitIncreaseAt := none }

def largeHold : TransactionAuthorization :=
  { id := .ofNat 30, cardId := .ofNat 20, accountId := .ofNat 10, transactionAmountCents := 900,
    transactionCurrency := "USD", billingAmountCents := 900, billingCurrency := "USD",
    status := .pending, declineReason := "NONE", authCode := "123456",
    retrievalReferenceNumber := "RRN-1", cardNetwork := "VISA", merchantCategoryCode := "5812",
    merchantName := none, fraudRiskScore := none, createdAt := 0, expiresAt := 1 }

def heldBank : Db :=
  { Db.empty with
    creditAccounts := ⟨[halfUsedCard], List.pairwise_singleton _ _⟩,
    authorizations := ⟨[largeHold], List.pairwise_singleton _ _⟩ }

def overcaptured : List (Ambient × Operation) :=
  [(.seeded 1, .processSettlement ⟨"RRN-1", 1200, none, "Restaurant"⟩),
    (.seeded 2, .reversePostedFee (.ofNat 10) (((Ambient.seeded 1).part 3).uuid4 0).str)]

theorem heldBank_current : CreditCurrent (.ofNat 10) heldBank := by
  intro a ha
  have hrow : heldBank.creditAccounts.get? (.ofNat 10) = some halfUsedCard := by decide
  rw [hrow] at ha
  cases ha
  decide

theorem heldBank_exact_run :
    ((operations id CardOperation).Throughout (CreditCurrent (.ofNat 10)) heldBank overcaptured ↔
      (operations id CardOperation).Each (DifferenceExact (.ofNat 10)) heldBank overcaptured) ∧
    ((operations id CardOperation).Throughout (CreditCurrent (.ofNat 10)) heldBank overcaptured →
      (operations id CardOperation).Each (ApprovalCovered id (.ofNat 10)) heldBank overcaptured) :=
  credit_current_iff_differences_exact id heldBank_current ⟨trivial, trivial, trivial⟩

/-- The reversed charge gives back more than the hold took, and the cache exceeds the limit. -/
theorem overcapture_reversed_overstates_credit :
    ¬ ∀ (sha256 : String → String) (id : Uuid) (db : Db) (calls : List (Ambient × Operation)),
      CreditCurrent id db → (operations sha256 CardOperation).Run db calls →
        (operations sha256 CardOperation).Throughout (CreditCurrent id) db calls := by
  intro h
  have hlast := (h id (.ofNat 10) heldBank overcaptured heldBank_current
    ⟨trivial, trivial, trivial⟩).last
  have hrow : ((operations id CardOperation).final heldBank overcaptured).creditAccounts.get?
      (.ofNat 10) = some { halfUsedCard with availableCreditCents := 1200 } := by decide
  have hheld : heldTotal ((operations id CardOperation).final heldBank overcaptured)
      (.ofNat 10) = 0 := by decide
  have havail := hlast _ hrow
  unfold used at havail
  change (1200 : ℤ) = headroom 1000 (0 + heldTotal
    ((operations id CardOperation).final heldBank overcaptured) (.ofNat 10)) at havail
  rw [hheld] at havail
  exact absurd havail (by decide)

end AvailableCredit
