import BankingService.AcceptedPayments
import BankingService.Library.Allocation
import Mathlib.Algebra.Order.Group.Int
import Mathlib.Data.List.TakeWhile

/-! The internal job that pays a card down to a target from its customer's deposit accounts, the
checking accounts first. Each payment commits on its own. -/
namespace BankingService

open Python Relational Checked Allocation

structure InternalServiceContext where
  principal : String
  scope : String

/-- What Python's floats and decimals make of amounts and utilizations. A float is taken as the
number that it is. -/
structure Arithmetic where
  quotient : ℤ → ℤ → ℚ
  scaled : ℤ → ℚ → ℤ
  round4 : ℚ → ℚ
  scaled_nonneg : ∀ n x, 0 ≤ n → 0 ≤ x → 0 ≤ scaled n x

structure AutoPaydownRequest where
  context : InternalServiceContext
  customerId : String
  creditAccountId : String
  targetUtilization : ℚ
  triggerUtilization : ℚ

structure PaydownPayment where
  sourceAccountId : String
  sourceAccountType : AccountType
  money : Money
  result : BillPaymentResult
  deriving DecidableEq

structure PaydownReport where
  status : String
  message : String
  payments : List PaydownPayment
  targetAmount : Money
  paidAmount : Money
  remainingAmount : Money
  finalCreditClearedBalance : Money
  finalCreditAvailableCredit : Money
  finalUtilization : ℚ
  deriving DecidableEq

inductive PaydownResult where
  | skipped (message : String) (utilization : Option ℚ)
  | processed (report : PaydownReport)
  deriving DecidableEq

/-- `uuid.UUID(text)`. -/
def uuidOf (text : String) : Except PyException Uuid :=
  orRaise (Uuid.parse? text) (.valueError "badly formed hexadecimal UUID string")

def InternalServiceContext.requireScope (context : InternalServiceContext) (scope : String) :
    Except PyException Unit :=
  require (context.scope = scope) (.httpException 403 ("Internal caller '" ++ context.principal ++
    "' is not authorized for scope '" ++ scope ++ "'."))

def findPaydownCard (db : Db) (r : AutoPaydownRequest) :
    Except PyException (User × CreditAccount) := do
  require (¬ (r.triggerUtilization ≤ 0 ∨ r.targetUtilization < 0 ∨
      r.triggerUtilization ≤ r.targetUtilization))
    (.httpException 400 "Invalid utilization thresholds.")
  r.context.requireScope "simulation:autopaydown"
  let customerId ← uuidOf r.customerId
  let user ← orRaise (db.users.get? customerId) (.httpException 404 "Customer not found.")
  let accountId ← uuidOf r.creditAccountId
  let card ← orRaise (getCreditAccountForUser db user.id accountId)
    (.httpException 404 "Target credit account not found.")
  return (user, card)

def listFundingAccountsForUser (db : Db) (userId : Uuid) : List Account :=
  db.accounts.select fun a => a.userId = some userId ∧ a.status = .active ∧ a.isDeposit

def orderedFundingAccounts (db : Db) (userId : Uuid) : List Account :=
  let fundingAccounts := listFundingAccountsForUser db userId
  fundingAccounts.filter (fun a => a.accountType = .checking) ++
    fundingAccounts.filter fun a => a.accountType = .savings

def paydownKey (u : Uuid) : String := "auto-paydown:" ++ u.str

section
variable (sha256 : String → String) (userId : Uuid) (creditAccountId : String)
  (currency : CurrencyCode)

def payFrom (db : Db) (env : Ambient) (deposit : Account) (paymentAmount : ℤ) :
    Except PyException (Db × PaydownPayment) := do
  let money ← Money.new paymentAmount currency
  let (db, result) ← executeBillPaymentForUser sha256 db (env.part 1)
    { userId, sourceAccountId := deposit.id.str, creditAccountId, money,
      idempotencyKey := paydownKey ((env.part 0).uuid4 0) }
  return (db, ⟨deposit.id.str, deposit.accountType, money, result⟩)

/-- The loop over the accounts. A commit expires their rows, so each is read when it is its turn. -/
def payEach (db : Db) (env : Ambient) (remaining : ℤ) :
    List Uuid → Db × Except PyException (List PaydownPayment × ℤ)
  | [] => (db, .ok ([], remaining))
  | id :: ids =>
    if remaining ≤ 0 then (db, .ok ([], remaining))
    else
      match db.accounts.get? id with
      | none => (db, .error .objectDeletedError)
      | some deposit =>
        let availableFunds := max 0 deposit.clearedBalanceCents
        if deposit.currency ≠ currency ∨ availableFunds ≤ 0 then
          payEach db (env.part 2) remaining ids
        else
          match payFrom sha256 userId creditAccountId currency db env deposit
              (min remaining availableFunds) with
          | .error e => (db, .error e)
          | .ok (db', payment) =>
            let rest := payEach db' (env.part 2) (remaining - payment.money.amountMinor) ids
            (rest.1, rest.2.map fun x => (payment :: x.1, x.2))

end

variable (sha256 : String → String) (arithmetic : Arithmetic)

def paydownReport (db : Db) (card : CreditAccount) (amountNeeded : ℤ)
    (payments : List PaydownPayment) (remaining : ℤ) : Except PyException PaydownReport := do
  let card ← orRaise (db.creditAccounts.get? card.id) .objectDeletedError
  let totalPaid := (payments.map fun p => p.money.amountMinor).sum
  let targetAmount ← Money.new amountNeeded card.currency
  let paidAmount ← Money.new totalPaid card.currency
  let remainingAmount ← Money.new (max 0 remaining) card.currency
  let finalCreditClearedBalance ← Money.new card.clearedBalanceCents card.currency
  let finalCreditAvailableCredit ← Money.new card.availableCreditCents card.currency
  return {
    status := if 0 < totalPaid then "SUCCESS" else "SKIPPED"
    message := if 0 < totalPaid then "Auto-paydown processed."
      else "No deposit funds available for auto-paydown."
    payments, targetAmount, paidAmount, remainingAmount, finalCreditClearedBalance,
    finalCreditAvailableCredit
    finalUtilization := arithmetic.round4
      (arithmetic.quotient card.clearedBalanceCents card.creditLimitCents) }

def payDown (db : Db) (env : Ambient) (r : AutoPaydownRequest) (user : User) (card : CreditAccount)
    (amountNeeded : ℤ) : Db × Except PyException PaydownResult :=
  let paid := payEach sha256 user.id r.creditAccountId card.currency db env amountNeeded
    ((orderedFundingAccounts db user.id).map Account.id)
  (paid.1, do
    let (payments, remaining) ← paid.2
    let report ← paydownReport arithmetic paid.1 card amountNeeded payments remaining
    return .processed report)

def targetBalance (r : AutoPaydownRequest) (card : CreditAccount) : ℤ :=
  arithmetic.scaled card.creditLimitCents r.targetUtilization

def amountNeeded (r : AutoPaydownRequest) (card : CreditAccount) : ℤ :=
  max 0 (card.clearedBalanceCents - targetBalance arithmetic r card)

def executeInternalAutoPaydown (db : Db) (env : Ambient) (r : AutoPaydownRequest) :
    Db × Except PyException PaydownResult :=
  match findPaydownCard db r with
  | .error e => (db, .error e)
  | .ok (user, card) =>
    if card.creditLimitCents ≤ 0 then
      (db, .ok (.skipped "Credit account has no usable limit." none))
    else
      let utilization := arithmetic.quotient card.clearedBalanceCents card.creditLimitCents
      if utilization < r.triggerUtilization ∨ card.clearedBalanceCents ≤ 0 then
        (db, .ok (.skipped "Credit account utilization below auto-paydown threshold."
          (some (arithmetic.round4 utilization))))
      else if amountNeeded arithmetic r card ≤ 0 then
        (db, .ok (.skipped "No paydown required." none))
      else payDown sha256 arithmetic db env r user card (amountNeeded arithmetic r card)

/-- The UUIDs that a run over `n` accounts may write to rows. -/
def rowDraws : Ambient → ℕ → List Uuid
  | _, 0 => []
  | env, n + 1 => paymentDraws (env.part 1) ++ rowDraws (env.part 2) n

def runKeys (sha256 : String → String) (userId : Uuid) : Ambient → ℕ → List String
  | _, 0 => []
  | env, n + 1 =>
    durableKey sha256 userId (paydownKey ((env.part 0).uuid4 0)) ::
      runKeys sha256 userId (env.part 2) n

structure Fresh (sha256 : String → String) (userId : Uuid) (db : Db) (env : Ambient) (n : ℕ) :
    Prop where
  rows : (rowDraws env n).Nodup
  unused : ∀ u ∈ rowDraws env n, Unused db u
  keys : (runKeys sha256 userId env n).Nodup
  free : ∀ k ∈ runKeys sha256 userId env n, ∀ t ∈ db.transactions.rows, t.idempotencyKey ≠ k

section
variable {sha256 : String → String} {userId : Uuid} {db db' : Db} {env : Ambient} {n : ℕ}
  {card updated : CreditAccount}

theorem Fresh.draws (h : Fresh sha256 userId db env (n + 1)) : FreshDraws db (env.part 1) :=
  ⟨(List.nodup_append.mp h.rows).1, fun u hu => h.unused u (List.mem_append_left _ hu)⟩

theorem Fresh.key (h : Fresh sha256 userId db env (n + 1)) : ∀ t ∈ db.transactions.rows,
    t.idempotencyKey ≠ durableKey sha256 userId (paydownKey ((env.part 0).uuid4 0)) :=
  h.free _ List.mem_cons_self

theorem Fresh.skip (h : Fresh sha256 userId db env (n + 1)) :
    Fresh sha256 userId db (env.part 2) n where
  rows := (List.nodup_append.mp h.rows).2.1
  unused u hu := h.unused u (List.mem_append_right _ hu)
  keys := (List.nodup_cons.mp h.keys).2
  free k hk := h.free k (.tail _ hk)

theorem Fresh.pay (h : Fresh sha256 userId db env (n + 1))
    (grown : Grown (paymentDraws (env.part 1))
      (durableKey sha256 userId (paydownKey ((env.part 0).uuid4 0))) card db db') :
    Fresh sha256 userId db' (env.part 2) n where
  rows := h.skip.rows
  unused u hu := by
    refine (h.skip.unused u hu).grown grown fun hhead => ?_
    exact (List.nodup_append.mp h.rows).2.2 u hhead u hu rfl
  keys := h.skip.keys
  free k hk t ht := by
    rcases grown.transactions t ht with ⟨s, hs, -, hkey⟩ | ⟨-, hkey⟩
    · rw [← hkey]
      exact h.skip.free k hk s hs
    · rw [hkey]
      exact fun heq => (List.nodup_cons.mp h.keys).1 (heq ▸ hk)

theorem Servable.grown {drawn : List Uuid} {key : String} (h : Servable db card)
    (grown : Grown drawn key card db db') (authorizations : db'.authorizations = db.authorizations)
    (same : updated = { card with
      clearedBalanceCents := updated.clearedBalanceCents
      availableCreditCents := updated.availableCreditCents }) : Servable db' updated := by
  have hid : updated.id = card.id := by rw [same]
  have hcurrency : updated.currency = card.currency := by rw [same]
  have hlimit : updated.creditLimitCents = card.creditLimitCents := by rw [same]
  refine ⟨?_, ?_, fun a ha hcredit => ?_, fun a ha hnumber => ?_, ?_⟩
  · rw [hid, hcurrency, activeHolds, authorizations]
    exact h.holds
  · rw [hid, heldTotal_congr authorizations]
    exact h.held
  · rw [hid] at hcredit
    rw [hcurrency]
    rcases grown.accounts a ha with ⟨b, hb, hsame⟩ | ⟨-, -, hnew⟩
    · simp only [Account.identity, Prod.mk.injEq] at hsame
      rw [← hsame.2.2.2]
      exact h.mirror b hb (hsame.2.2.1.trans hcredit)
    · exact hnew
  · rw [hid] at hnumber ⊢
    rcases grown.accounts a ha with ⟨b, hb, hsame⟩ | ⟨-, hnew, -⟩
    · simp only [Account.identity, Prod.mk.injEq] at hsame
      rw [← hsame.2.2.1]
      exact h.number b hb (hsame.2.1.trans hnumber)
    · exact hnew
  · rw [hlimit]
    exact h.limit

theorem strip_ne_empty {s : String} {c : Char} {l : List Char} (h : s.toList = c :: l)
    (hc : isSpace c = false) : strip s ≠ "" := by
  intro hstrip
  have hnil : stripChars isSpace s.toList = [] := by
    rw [← String.toList_ofList (l := stripChars isSpace s.toList)]
    exact congrArg String.toList hstrip
  rw [h] at hnil
  have hspace := stripChars_eq_nil.mp hnil c List.mem_cons_self
  rw [hc] at hspace
  cases hspace

theorem paydownKey_given (u : Uuid) :
    strip (paydownKey u) ≠ "" ∧ (paydownKey u).length ≤ 128 := by
  have hconst : "auto-paydown:".toList = _ := String.toList_ofList
  have htext : (paydownKey u).toList = "auto-paydown:".toList ++ u.str.toList :=
    String.toList_append
  refine ⟨?_, ?_⟩
  · rw [hconst] at htext
    exact strip_ne_empty htext (by decide)
  · rw [← String.length_toList, htext, List.length_append, u.length_str, hconst]
    decide

end

def Account.debited (a : Account) (n : ℤ) : Account :=
  { a with
    clearedBalanceCents := a.clearedBalanceCents - n }

theorem Account.debited_zero (a : Account) : a.debited 0 = a := by
  rw [Account.debited, sub_zero]

def Repaid (card : CreditAccount) (n : ℤ) (card' : CreditAccount) : Prop :=
  card' = { card with
    clearedBalanceCents := card.clearedBalanceCents - n
    availableCreditCents := card'.availableCreditCents }

structure Targeted (db : Db) (userId : Uuid) (creditAccountId : String) (card : CreditAccount) :
    Prop where
  found : db.creditAccounts.get? card.id = some card
  owned : card.customerId = userId ∧ card.status = .active
  named : Uuid.parse? creditAccountId = some card.id

structure Funding (db : Db) (userId : Uuid) (a : Account) : Prop where
  found : db.accounts.get? a.id = some a
  owned : a.userId = some userId ∧ a.status = .active
  deposit : a.isDeposit

/-- What a payment from `a` leaves of the accounts and the card. -/
structure PaymentMade (db db' : Db) (card card' : CreditAccount) (a : Account) (amount : ℤ) :
    Prop where
  repaid : Repaid card amount card'
  available : ∃ used, card'.availableCreditCents = ClampedCache.headroom card.creditLimitCents used
  stored : db'.creditAccounts.get? card.id = some card'
  paid : db'.accounts.get? a.id = some (a.debited amount)
  kept : ∀ id b, db.accounts.get? id = some b → b.isDeposit → id ≠ a.id →
    db'.accounts.get? id = some b
  holds : db'.authorizations = db.authorizations

section
variable {sha256 : String → String} {userId : Uuid} {creditAccountId : String}
  {currency : CurrencyCode} {db db' : Db} {env : Ambient} {n : ℕ} {card card' : CreditAccount}
  {a : Account} {amount : ℤ} {payment : PaydownPayment}

theorem Targeted.made (h : Targeted db userId creditAccountId card)
    (made : PaymentMade db db' card card' a amount) :
    Targeted db' userId creditAccountId card' := by
  have hid : card'.id = card.id := by rw [made.repaid]
  refine ⟨?_, ?_, ?_⟩
  · rw [hid]
    exact made.stored
  · rw [made.repaid]
    exact h.owned
  · rw [hid]
    exact h.named

theorem Funding.made {b : Account} (h : Funding db userId b) (hne : b.id ≠ a.id)
    (made : PaymentMade db db' card card' a amount) : Funding db' userId b :=
  ⟨made.kept _ _ h.found h.deposit hne, h.owned, h.deposit⟩

theorem paymentMade_of_paid {p : BillPayment} {key : Option Transaction}
    {statement : PostedTransaction} {t : Transaction} {result : BillPaymentResult}
    (hcard : db.creditAccounts.get? card.id = some card)
    (h : Paid sha256 db p a card key card' statement t result db') :
    PaymentMade db db' card card' a p.money.amountMinor := by
  obtain ⟨mirrorId, books, -⟩ := h.books
  have hrepaid : Repaid card p.money.amountMinor card' := by
    rw [Repaid, h.balance]
  refine ⟨hrepaid, ⟨_, congrArg CreditAccount.availableCreditCents h.balance⟩, ?_, books.paid,
    fun id b hb hdeposit hne => ?_, h.holds⟩
  · rw [h.credit]
    refine get?_saveAccount_self hcard ?_
    rw [Revises, hrepaid]
  · by_cases hmirror : id = mirrorId
    · have hcredit := books.before b (hmirror ▸ hb)
      rw [hdeposit.unmirrored] at hcredit
      cases hcredit
    · rw [books.kept id hmirror hne]
      exact hb

theorem validate_paydown {money : Money} {u : Uuid}
    (named : Uuid.parse? creditAccountId = some card.id)
    (hpositive : 0 < money.amountMinor) :
    validatePayment ⟨userId, a.id.str, creditAccountId, money, paydownKey u⟩ =
      .ok ⟨userId, a.id, card.id, money, paydownKey u, hpositive, paydownKey_given u⟩ := by
  rw [validatePayment, dif_pos hpositive, dif_pos (paydownKey_given u), accountUuid, accountUuid,
    Uuid.parse?_str, named]
  rfl

theorem payFrom_effect (target : Targeted db userId creditAccountId card)
    (funding : Funding db userId a) (fresh : Fresh sha256 userId db env (n + 1))
    (hpositive : 0 < amount)
    (h : payFrom sha256 userId creditAccountId currency db env a amount = .ok (db', payment)) :
    ∃ card', payment.money.amountMinor = amount ∧ PaymentMade db db' card card' a amount ∧
      Fresh sha256 userId db' (env.part 2) n ∧ (Servable db card → Servable db' card') := by
  simp only [payFrom, bind_eq_ok, Money.new_eq_ok, pure_eq_ok] at h
  obtain ⟨money, ⟨hamount, -⟩, ⟨db₁, result⟩, hpay, h⟩ := h
  cases h
  subst hamount
  obtain ⟨deposit, card₀, card', statement, t, hsource, htarget, -, hpaid, hgrown⟩ :=
    executeBillPaymentForUser_effect (validate_paydown target.named hpositive) fresh.key hpay
  obtain ⟨hdeposit, hid, -⟩ := findSource_eq_ok hsource
  obtain ⟨hcard, hcardId⟩ := findTarget_eq_ok htarget
  rw [hid, funding.found] at hdeposit
  cases hdeposit
  rw [hcardId, target.found] at hcard
  cases hcard
  have hmade := paymentMade_of_paid target.found hpaid
  refine ⟨card', rfl, hmade, fresh.pay hgrown, fun servable => servable.grown hgrown hpaid.holds ?_⟩
  rw [hmade.repaid]

theorem payFrom_ok (target : Targeted db userId creditAccountId card)
    (funding : Funding db userId a) (fresh : Fresh sha256 userId db env (n + 1))
    (servable : Servable db card) (hcurrency : a.currency = card.currency) (hpositive : 0 < amount)
    (funds : amount ≤ a.clearedBalanceCents ∧ a.clearedBalanceCents ≤ MAX_MINOR)
    (debt : amount ≤ card.clearedBalanceCents ∧ card.clearedBalanceCents ≤ MAX_MINOR) :
    ∃ x, payFrom sha256 userId creditAccountId card.currency db env a amount = .ok x := by
  unfold payFrom
  refine exists_bind (money_ok (inRange_of_le (by omega) (by omega))) ?_
  intro money hmoney
  obtain ⟨rfl, hmoneyCurrency⟩ := Money.new_eq_ok.mp hmoney
  have hpayable : Payable db ⟨userId, a.id, card.id, money, paydownKey ((env.part 0).uuid4 0),
      hpositive, paydownKey_given _⟩ a card :=
    ⟨⟨funding.found, funding.deposit⟩, ⟨rfl, funding.owned⟩, target.found, ⟨rfl, target.owned⟩,
      ⟨hcurrency.trans hmoneyCurrency.symm, hmoneyCurrency.symm⟩, funds, debt, servable⟩
  refine exists_bind
    (executeBillPaymentForUser_ok (validate_paydown target.named hpositive) hpayable
    fresh.draws fresh.key) ?_
  rintro ⟨db', result⟩ -
  exact ⟨_, rfl⟩

def fundsFor (currency : CurrencyCode) (a : Account) : ℤ :=
  if a.currency = currency then a.clearedBalanceCents else 0

/-- The loop has taken `amounts` from the accounts `l`, and paid them to the card. -/
structure Collected (db db' : Db) (card card' : CreditAccount) (l : List Account)
    (amounts : List ℤ) : Prop where
  paid : List.Forall₂ (fun a n => db'.accounts.get? a.id = some (a.debited n)) l amounts
  kept : ∀ id b, db.accounts.get? id = some b → b.isDeposit → id ∉ l.map Account.id →
    db'.accounts.get? id = some b
  repaid : Repaid card amounts.sum card'
  available : card'.availableCreditCents = card.availableCreditCents ∨
    ∃ used, card'.availableCreditCents = ClampedCache.headroom card.creditLimitCents used
  stored : db'.creditAccounts.get? card.id = some card'

theorem Collected.none {l : List Account} (target : Targeted db userId creditAccountId card)
    (funding : ∀ a ∈ l, Funding db userId a) :
    Collected db db card card l (l.map fun _ => 0) := by
  refine ⟨?_, fun _ _ hb _ _ => hb, ?_, Or.inl rfl, target.found⟩
  · induction l with
    | nil => exact .nil
    | cons a l ih =>
      refine .cons ?_ (ih fun b hb => funding b (.tail _ hb))
      rw [a.debited_zero]
      exact (funding a List.mem_cons_self).found
  · have hzero : (l.map fun _ => (0 : ℤ)).sum = 0 := by simp
    rw [Repaid, hzero, sub_zero]

theorem Collected.skip {l : List Account} {amounts : List ℤ}
    (hne : a.id ∉ l.map Account.id) (funding : Funding db userId a)
    (h : Collected db db' card card' l amounts) :
    Collected db db' card card' (a :: l) (0 :: amounts) := by
  refine ⟨.cons ?_ h.paid, fun id b hb hdeposit hid => ?_, ?_, h.available, h.stored⟩
  · rw [a.debited_zero]
    exact h.kept _ _ funding.found funding.deposit hne
  · exact h.kept id b hb hdeposit fun hmem => hid (.tail _ hmem)
  · rw [List.sum_cons, zero_add]
    exact h.repaid

theorem Collected.pay {l : List Account} {amounts : List ℤ} {db'' : Db} {card'' : CreditAccount}
    (hne : a.id ∉ l.map Account.id) (funding : Funding db userId a)
    (made : PaymentMade db db' card card' a amount)
    (h : Collected db' db'' card' card'' l amounts) :
    Collected db db'' card card'' (a :: l) (amount :: amounts) := by
  have hid : card'.id = card.id ∧ card'.creditLimitCents = card.creditLimitCents := by
    rw [made.repaid]
    exact ⟨rfl, rfl⟩
  refine ⟨.cons ?_ h.paid, fun id b hb hdeposit hmem => ?_, ?_, ?_, ?_⟩
  · exact h.kept _ _ made.paid funding.deposit hne
  · rw [List.map_cons, List.mem_cons, not_or] at hmem
    exact h.kept id b (made.kept id b hb hdeposit hmem.1) hdeposit hmem.2
  · rw [Repaid, List.sum_cons, h.repaid, made.repaid]
    simp only [sub_sub]
  · right
    rcases h.available with hsame | hused
    · rw [hsame]
      exact made.available
    · rw [← hid.2]
      exact hused
  · rw [← hid.1]
    exact h.stored

theorem draws_zero (l : List Account) (currency : CurrencyCode) :
    draws 0 (l.map (fundsFor currency)) = l.map fun _ => 0 := by
  induction l with
  | nil => rfl
  | cons a l ih =>
    have hdraw : draw 0 (fundsFor currency a) = 0 := min_eq_left (le_max_left 0 _)
    rw [List.map_cons, draws, hdraw, sub_zero, ih, List.map_cons]

theorem stopped_none (n : ℤ) (l : List Account) (currency : CurrencyCode) :
    Stopped (l.map fun _ => 0) (draws n (l.map (fundsFor currency))) := by
  have hzeros :
    ((draws n (l.map (fundsFor currency))).map fun _ => (0 : ℤ)) = l.map fun _ => 0 := by
    simp only [List.map_const', length_draws, List.length_map]
  rw [← hzeros]
  exact .halted _

theorem draw_fundsFor_skip {remaining : ℤ} (hremaining : 0 ≤ remaining)
    (h : a.currency ≠ currency ∨ max 0 a.clearedBalanceCents ≤ 0) :
    draw remaining (fundsFor currency a) = 0 := by
  have hnone : max 0 (fundsFor currency a) = 0 := by
    unfold fundsFor
    split
    · next hcurrency =>
      exact le_antisymm (h.resolve_left (not_not.mpr hcurrency)) (le_max_left 0 _)
    · exact max_self 0
  rw [draw, hnone]
  exact min_eq_right hremaining

/-- What the loop takes: as far as it gets, from each account in turn what the account has and is
still needed. -/
theorem payEach_collected {l : List Account} {remaining : ℤ}
    (target : Targeted db userId creditAccountId card) (funding : ∀ a ∈ l, Funding db userId a)
    (distinct : (l.map Account.id).Nodup) (fresh : Fresh sha256 userId db env l.length)
    (hremaining : 0 ≤ remaining) :
    ∃ amounts card', Stopped amounts (draws remaining (l.map (fundsFor currency))) ∧
      Collected db (payEach sha256 userId creditAccountId currency db env remaining
        (l.map Account.id)).1 card card' l amounts ∧
      ∀ out, (payEach sha256 userId creditAccountId currency db env remaining
        (l.map Account.id)).2 = .ok out →
          amounts = draws remaining (l.map (fundsFor currency)) ∧
          (out.1.map fun p => p.money.amountMinor).sum = amounts.sum ∧
          out.2 = remaining - amounts.sum := by
  induction l generalizing db env remaining card with
  | nil =>
    refine ⟨[], card, .refl [], .none target funding, fun out hout => ?_⟩
    cases hout
    exact ⟨rfl, rfl, (sub_zero _).symm⟩
  | cons a l ih =>
    obtain ⟨ha, hl⟩ := List.forall_mem_cons.mp funding
    rw [List.map_cons, List.nodup_cons] at distinct
    obtain ⟨hne, hdistinct⟩ := distinct
    simp only [List.map_cons, payEach]
    split
    · next hdone =>
      -- nothing is needed any more
      obtain rfl : remaining = 0 := le_antisymm hdone hremaining
      have hdraws : draws 0 (fundsFor currency a :: l.map (fundsFor currency)) =
          (a :: l).map fun _ => 0 := draws_zero (a :: l) currency
      refine ⟨_, card, .refl _, ?_, fun out hout => ?_⟩
      · rw [hdraws]
        exact .none target funding
      · cases hout
        rw [hdraws]
        simp
    · next hneeded =>
      rw [ha.found]
      dsimp only
      split
      · next hskip =>
        -- an account without funds for the card
        have hdraw := draw_fundsFor_skip hremaining hskip
        obtain ⟨amounts, card', hstopped, hcollected, hout⟩ :=
          ih target hl hdistinct fresh.skip hremaining
        refine ⟨0 :: amounts, card', ?_, hcollected.skip hne ha, fun out h => ?_⟩
        · rw [draws, hdraw, sub_zero]
          exact .drew 0 hstopped
        · obtain ⟨hall, hsum, hrest⟩ := hout out h
          rw [draws, hdraw, sub_zero, List.sum_cons, zero_add, ← hall]
          exact ⟨rfl, hsum, hrest⟩
      · next hfunds =>
        rw [not_or, not_not, not_le] at hfunds
        obtain ⟨hcurrency, havailable⟩ := hfunds
        have hdraw : draw remaining (fundsFor currency a) =
            min remaining (max 0 a.clearedBalanceCents) := by
          rw [draw, fundsFor, if_pos hcurrency]
        have hpositive : 0 < min remaining (max 0 a.clearedBalanceCents) :=
          lt_min (not_le.mp hneeded) havailable
        split
        · next e herror =>
          -- the payment is refused, and nothing more is paid
          exact ⟨_, card, stopped_none remaining (a :: l) currency,
            .none target funding, by rintro out ⟨⟩⟩
        · next db' payment hpay =>
          obtain ⟨card', hamount, hmade, hfresh, -⟩ := payFrom_effect target ha fresh hpositive hpay
          rw [← hdraw] at hamount hmade
          obtain ⟨amounts, card'', hstopped, hcollected, hout⟩ := ih (target.made hmade)
            (fun b hb => (hl b hb).made (fun heq => hne (heq ▸ List.mem_map_of_mem hb)) hmade)
            hdistinct hfresh (sub_nonneg.mpr draw_le)
          rw [hamount]
          refine ⟨_, card'', ?_, hcollected.pay hne ha hmade, fun out h => ?_⟩
          · rw [draws]
            exact .drew _ hstopped
          · cases hrest : (payEach sha256 userId creditAccountId currency db' (env.part 2)
                (remaining - draw remaining (fundsFor currency a)) (l.map Account.id)).2 with
            | error e =>
              rw [hrest] at h
              cases h
            | ok x =>
              rw [hrest] at h
              cases h
              obtain ⟨hall, hsum, hleft⟩ := hout x hrest
              simp only [draws, List.map_cons, List.sum_cons, hamount, hsum, hleft, ← hall]
              exact ⟨trivial, trivial, sub_sub _ _ _⟩

theorem payEach_ok {l : List Account} {remaining : ℤ}
    (target : Targeted db userId creditAccountId card) (funding : ∀ a ∈ l, Funding db userId a)
    (distinct : (l.map Account.id).Nodup) (fresh : Fresh sha256 userId db env l.length)
    (servable : Servable db card)
    (balances : ∀ a ∈ l, a.currency = card.currency → a.clearedBalanceCents ≤ MAX_MINOR)
    (debt : remaining ≤ card.clearedBalanceCents ∧ card.clearedBalanceCents ≤ MAX_MINOR) :
    ∃ out, (payEach sha256 userId creditAccountId card.currency db env remaining
      (l.map Account.id)).2 = .ok out := by
  induction l generalizing db env remaining card with
  | nil => exact ⟨_, rfl⟩
  | cons a l ih =>
    obtain ⟨ha, hl⟩ := List.forall_mem_cons.mp funding
    obtain ⟨hbalance, hbalances⟩ := List.forall_mem_cons.mp balances
    rw [List.map_cons, List.nodup_cons] at distinct
    obtain ⟨hne, hdistinct⟩ := distinct
    simp only [List.map_cons, payEach]
    split
    · exact ⟨_, rfl⟩
    · next hneeded =>
      rw [ha.found]
      dsimp only
      split
      · exact ih target hl hdistinct fresh.skip servable hbalances debt
      · next hfunds =>
        rw [not_or, not_not, not_le] at hfunds
        obtain ⟨hcurrency, havailable⟩ := hfunds
        have hpositive : 0 < min remaining (max 0 a.clearedBalanceCents) :=
          lt_min (not_le.mp hneeded) havailable
        have hcovered : max 0 a.clearedBalanceCents = a.clearedBalanceCents := by omega
        rw [hcovered] at hpositive ⊢
        obtain ⟨⟨db', payment⟩, hpay⟩ := payFrom_ok target ha fresh servable hcurrency hpositive
          ⟨min_le_right _ _, hbalance hcurrency⟩ ⟨(min_le_left _ _).trans debt.1, debt.2⟩
        obtain ⟨card', hamount, hmade, hfresh, hservable⟩ :=
          payFrom_effect target ha fresh hpositive hpay
        have hsame : card'.currency = card.currency ∧ card'.clearedBalanceCents =
            card.clearedBalanceCents - min remaining a.clearedBalanceCents := by
          rw [hmade.repaid]
          exact ⟨rfl, rfl⟩
        obtain ⟨out, hout⟩ := @ih db' (env.part 2) card'
          (remaining - min remaining a.clearedBalanceCents) (target.made hmade)
          (fun b hb => (hl b hb).made (fun heq => hne (heq ▸ List.mem_map_of_mem hb)) hmade)
          hdistinct hfresh (hservable servable)
          (fun b hb hb' => hbalances b hb (hb'.trans hsame.1)) (by omega)
        rw [hsame.1] at hout
        rw [hpay]
        dsimp only
        rw [hamount, hout]
        exact ⟨_, rfl⟩

end

def takenFrom (db' : Db) (a : Account) : ℤ :=
  a.clearedBalanceCents - ((db'.accounts.get? a.id).map Account.clearedBalanceCents).getD 0

def takenTotal (db db' : Db) (userId : Uuid) : ℤ :=
  ((listFundingAccountsForUser db userId).map (takenFrom db')).sum

def fundsTotal (db : Db) (userId : Uuid) (currency : CurrencyCode) : ℤ :=
  (((listFundingAccountsForUser db userId).filter fun a => a.currency = currency).map
    fun a => max 0 a.clearedBalanceCents).sum

/-- A run, also one that stopped at a refused payment: no account gives more than it has, savings
are used after the checking accounts, the card is not paid below its target, and no other deposit
account is touched. -/
structure PaidDown (db db' : Db) (userId : Uuid) (card : CreditAccount) (target : ℤ) : Prop where
  accounts : ∀ a ∈ listFundingAccountsForUser db userId,
    db'.accounts.get? a.id = some (a.debited (takenFrom db' a))
  bounds : ∀ a ∈ listFundingAccountsForUser db userId, 0 ≤ takenFrom db' a ∧
    (takenFrom db' a ≠ 0 → a.currency = card.currency ∧ takenFrom db' a ≤ a.clearedBalanceCents)
  checkingFirst : ∀ s ∈ listFundingAccountsForUser db userId, s.accountType = .savings →
    takenFrom db' s ≠ 0 → ∀ c ∈ listFundingAccountsForUser db userId, c.accountType = .checking →
      c.currency = card.currency → c.clearedBalanceCents - takenFrom db' c ≤ 0
  others : ∀ id b, db.accounts.get? id = some b → b.isDeposit →
    b ∉ listFundingAccountsForUser db userId → db'.accounts.get? id = some b
  debt : ∃ card', db'.creditAccounts.get? card.id = some card' ∧
    card'.clearedBalanceCents = card.clearedBalanceCents - takenTotal db db' userId ∧
    min target card.clearedBalanceCents ≤ card'.clearedBalanceCents

structure PaidInFull (db db' : Db) (userId : Uuid) (card : CreditAccount) (needed : ℤ)
    (result : PaydownResult) : Prop where
  total : takenTotal db db' userId = min needed (fundsTotal db userId card.currency)
  skipped : ∀ message utilization, result = .skipped message utilization → needed = 0
  reported : ∀ report, result = .processed report →
    report.targetAmount.amountMinor = needed ∧
    report.paidAmount.amountMinor = takenTotal db db' userId ∧
    report.paidAmount.amountMinor + report.remainingAmount.amountMinor = needed

/-- All amounts of the customer's card and accounts are ones that money can have, and the card takes
payments. -/
structure Serviceable (db : Db) (userId : Uuid) (card : CreditAccount) : Prop where
  servable : Servable db card
  debt : card.clearedBalanceCents ≤ MAX_MINOR
  available : InRange card.availableCreditCents
  balances : ∀ a ∈ listFundingAccountsForUser db userId, a.currency = card.currency →
    a.clearedBalanceCents ≤ MAX_MINOR

section
variable {sha256 : String → String} {arithmetic : Arithmetic} {userId : Uuid} {db db' : Db}
  {env : Ambient} {card card' : CreditAccount} {a : Account} {l : List Account} {amounts : List ℤ}

theorem mem_listFunding : a ∈ listFundingAccountsForUser db userId ↔ Funding db userId a := by
  rw [listFundingAccountsForUser, Table.mem_select]
  constructor
  · rintro ⟨ha, huser, hactive, hdeposit⟩
    exact ⟨Table.get?_of_mem ha, ⟨huser, hactive⟩, hdeposit⟩
  · rintro ⟨hfound, ⟨huser, hactive⟩, hdeposit⟩
    exact ⟨(Table.get?_eq_some.mp hfound).1, huser, hactive, hdeposit⟩

theorem ordered_perm (db : Db) (userId : Uuid) :
    (orderedFundingAccounts db userId).Perm (listFundingAccountsForUser db userId) := by
  have hsavings :
    (listFundingAccountsForUser db userId).filter (fun a => a.accountType = .savings) =
      (listFundingAccountsForUser db userId).filter fun a =>
        !decide (a.accountType = .checking) := by
    refine List.filter_congr fun a ha => ?_
    rcases (mem_listFunding.mp ha).deposit with htype | htype
    · simp [htype]
    · simp [htype]
  rw [orderedFundingAccounts, hsavings]
  exact List.filter_append_perm _ _

theorem ordered_distinct (db : Db) (userId : Uuid) :
    ((orderedFundingAccounts db userId).map Account.id).Nodup := by
  refine ((ordered_perm db userId).map Account.id).nodup_iff.mpr (List.pairwise_map.mpr ?_)
  exact (db.accounts.distinct.sublist List.filter_sublist).imp fun h heq => h (Or.inl heq)

theorem Collected.amounts_eq (h : Collected db db' card card' l amounts) :
    amounts = l.map (takenFrom db') := by
  have hpaid := h.paid
  clear h
  induction hpaid with
  | nil => rfl
  | cons hfirst _ ih =>
    rw [List.map_cons, ← ih, takenFrom, hfirst]
    simp [Account.debited]

theorem sum_fundsFor (l : List Account) (currency : CurrencyCode) :
    capacity (l.map (fundsFor currency)) =
      ((l.filter fun a => a.currency = currency).map fun a => max 0 a.clearedBalanceCents).sum := by
  induction l with
  | nil => rfl
  | cons a l ih =>
    rw [List.map_cons, capacity_cons, ih, List.filter_cons, fundsFor]
    by_cases hcurrency : a.currency = currency
    · simp only [hcurrency, if_true, decide_true, List.map_cons, List.sum_cons]
    · simp only [hcurrency, if_false, decide_false, Bool.false_eq_true, max_self, zero_add]

theorem capacity_ordered (db : Db) (userId : Uuid) (currency : CurrencyCode) :
    capacity ((orderedFundingAccounts db userId).map (fundsFor currency)) =
      fundsTotal db userId currency := by
  rw [sum_fundsFor, fundsTotal]
  exact (((ordered_perm db userId).filter _).map _).sum_eq

section
variable {target : ℤ}
  (collected : Collected db db' card card' (orderedFundingAccounts db userId) amounts)
  (stopped : Stopped amounts (draws (max 0 (card.clearedBalanceCents - target))
    ((orderedFundingAccounts db userId).map (fundsFor card.currency))))

include collected

theorem sum_amounts : amounts.sum = takenTotal db db' userId := by
  rw [collected.amounts_eq]
  exact ((ordered_perm db userId).map _).sum_eq

include stopped

theorem taken_bounds (ha : a ∈ listFundingAccountsForUser db userId) :
    0 ≤ takenFrom db' a ∧ takenFrom db' a ≤ max 0 (fundsFor card.currency a) := by
  have hall :=
    stopped.forall₂ (forall₂_draws (le_max_left _ _)) fun b _ => ⟨le_rfl, le_max_left _ _⟩
  rw [collected.amounts_eq, List.forall₂_map_left_iff, List.forall₂_map_right_iff,
    List.forall₂_same] at hall
  exact hall a ((ordered_perm db userId).mem_iff.mpr ha)

theorem checking_exhausted {s c : Account} (hs : s ∈ listFundingAccountsForUser db userId)
    (hsavings : s.accountType = .savings) (htaken : takenFrom db' s ≠ 0)
    (hc : c ∈ listFundingAccountsForUser db userId) (hchecking : c.accountType = .checking) :
    takenFrom db' c = max 0 (fundsFor card.currency c) := by
  have hstopped := stopped
  rw [collected.amounts_eq] at hstopped
  simp only [orderedFundingAccounts, List.map_append, draws_append] at hstopped
  have hs' : takenFrom db' s ∈ ((listFundingAccountsForUser db userId).filter
      fun a => a.accountType = .savings).map (takenFrom db') :=
    List.mem_map_of_mem (List.mem_filter.mpr ⟨hs, decide_eq_true hsavings⟩)
  rcases hstopped.append (by rw [length_draws, List.length_map, List.length_map]) with
    ⟨hall, hrest⟩ | hnone
  · have hexhausted := draws_exhausted (le_max_left _ _) ⟨_, hrest.mem hs' htaken, htaken⟩
    rw [hexhausted, List.map_map] at hall
    exact List.map_eq_map_iff.mp hall c (List.mem_filter.mpr ⟨hc, decide_eq_true hchecking⟩)
  · exact absurd (hnone _ hs') htaken

theorem paidDown_of_collected : PaidDown db db' userId card target := by
  have hpaid := collected.paid
  rw [collected.amounts_eq, List.forall₂_map_right_iff, List.forall₂_same] at hpaid
  refine ⟨fun a ha => ?_, fun a ha => ?_, fun s hs hsavings htaken c hc hchecking hcurrency => ?_,
    fun id b hb hdeposit hmem => ?_, card', collected.stored, ?_, ?_⟩
  · exact hpaid a ((ordered_perm db userId).mem_iff.mpr ha)
  · obtain ⟨hnonneg, hle⟩ := taken_bounds collected stopped ha
    refine ⟨hnonneg, fun hne => ?_⟩
    unfold fundsFor at hle
    split at hle
    · next hcurrency => exact ⟨hcurrency, by omega⟩
    · exact absurd (le_antisymm (by simpa using hle) hnonneg) hne
  · rw [checking_exhausted collected stopped hs hsavings htaken hc hchecking, fundsFor,
      if_pos hcurrency]
    exact sub_nonpos.mpr (le_max_right _ _)
  · refine collected.kept id b hb hdeposit fun hid => hmem ?_
    obtain ⟨a, ha, rfl⟩ := List.mem_map.mp hid
    have hlisted := (ordered_perm db userId).mem_iff.mp ha
    rw [(mem_listFunding.mp hlisted).found] at hb
    cases hb
    exact hlisted
  · rw [← sum_amounts collected, collected.repaid]
  · have hsum := stopped.sum_le (draws_nonneg (le_max_left _ _))
    rw [sum_draws (le_max_left _ _)] at hsum
    rw [collected.repaid]
    dsimp only
    omega

end

variable {r : AutoPaydownRequest} {user : User} {needed : ℤ}

theorem targeted_of_found (h : findPaydownCard db r = .ok (user, card)) :
    Targeted db user.id r.creditAccountId card ∧ 0 ≤ r.targetUtilization := by
  simp only [findPaydownCard, uuidOf, bind_eq_ok, require_eq_ok, orRaise_eq_ok, pure_eq_ok] at h
  obtain ⟨-, hvalid, -, -, customerId, -, user, -, accountId, hparse, card, hcard, h⟩ := h
  cases h
  rw [getCreditAccountForUser, Option.filter_eq_some_iff] at hcard
  obtain ⟨hget, howned⟩ := hcard
  have hid : card.id = accountId := (Table.get?_eq_some.mp hget).2
  simp only [not_or, Rat.not_lt] at hvalid
  refine ⟨⟨?_, by simpa using howned, ?_⟩, hvalid.2.1⟩
  · rw [hid]
    exact hget
  · rw [hid]
    exact hparse

theorem funding_of_ordered (ha : a ∈ orderedFundingAccounts db userId) : Funding db userId a :=
  mem_listFunding.mp ((ordered_perm db userId).mem_iff.mp ha)

theorem paydownReport_eq_ok {payments : List PaydownPayment} {remaining : ℤ}
    {report : PaydownReport}
    (h : paydownReport arithmetic db card needed payments remaining = .ok report) :
    report.targetAmount.amountMinor = needed ∧
      report.paidAmount.amountMinor = (payments.map fun p => p.money.amountMinor).sum ∧
      report.remainingAmount.amountMinor = max 0 remaining := by
  simp only [paydownReport, bind_eq_ok, Money.new_eq_ok, pure_eq_ok] at h
  obtain ⟨-, -, target, ⟨htarget, -⟩, paid, ⟨hpaid, -⟩, rest, ⟨hrest, -⟩, -, -, -, -, rfl⟩ := h
  exact ⟨htarget, hpaid, hrest⟩

theorem payDown_correct (target : Targeted db user.id r.creditAccountId card) {goal : ℤ}
    (fresh : Fresh sha256 user.id db env (listFundingAccountsForUser db user.id).length)
    (hneeded : needed = max 0 (card.clearedBalanceCents - goal)) :
    PaidDown db (payDown sha256 arithmetic db env r user card needed).1 user.id card goal ∧
      ∀ result, (payDown sha256 arithmetic db env r user card needed).2 = .ok result →
        PaidInFull db (payDown sha256 arithmetic db env r user card needed).1 user.id card needed
          result := by
  subst hneeded
  rw [← (ordered_perm db user.id).length_eq] at fresh
  obtain ⟨amounts, card', hstopped, hcollected, hout⟩ := @payEach_collected sha256 user.id
    r.creditAccountId card.currency db env card _ _ target (fun a ha => funding_of_ordered ha)
    (ordered_distinct db user.id) fresh (le_max_left 0 (card.clearedBalanceCents - goal))
  refine ⟨paidDown_of_collected hcollected hstopped, fun result hresult => ?_⟩
  simp only [payDown, bind_eq_ok, pure_eq_ok] at hresult
  obtain ⟨out, hpaid, report, hreport, rfl⟩ := hresult
  obtain ⟨hall, hsum, hrest⟩ := hout out hpaid
  obtain ⟨htarget, hamount, hremaining⟩ := paydownReport_eq_ok hreport
  have htotal := sum_amounts hcollected
  have hmin : amounts.sum = min (max 0 (card.clearedBalanceCents - goal))
      (fundsTotal db user.id card.currency) := by
    rw [hall, sum_draws (le_max_left _ _), capacity_ordered]
  refine ⟨htotal.symm.trans hmin, by rintro reason utilization ⟨⟩, fun report' heq => ?_⟩
  cases heq
  refine ⟨htarget, ?_, ?_⟩
  · rw [hamount, hsum, htotal]
    rfl
  · rw [hamount, hsum, hremaining, hrest]
    omega

theorem paydownReport_ok {payments : List PaydownPayment} {remaining : ℤ}
    (stored : db.creditAccounts.get? card.id = some card') (hneeded : InRange needed)
    (hpaid : InRange (payments.map fun p => p.money.amountMinor).sum)
    (hremaining : InRange (max 0 remaining)) (hcleared : InRange card'.clearedBalanceCents)
    (havailable : InRange card'.availableCreditCents) :
    ∃ report, paydownReport arithmetic db card needed payments remaining = .ok report := by
  unfold paydownReport
  rw [stored]
  refine exists_bind ⟨card', rfl⟩ fun c hc => ?_
  cases hc
  exact exists_bind (money_ok hneeded) fun _ _ => exists_bind (money_ok hpaid) fun _ _ =>
    exists_bind (money_ok hremaining) fun _ _ => exists_bind (money_ok hcleared) fun _ _ =>
    exists_bind (money_ok havailable) fun _ _ => ⟨_, rfl⟩

theorem payDown_ok (target : Targeted db user.id r.creditAccountId card)
    (fresh : Fresh sha256 user.id db env (listFundingAccountsForUser db user.id).length)
    (serviceable : Serviceable db user.id card) (hneeded : 0 ≤ needed)
    (hdebt : needed ≤ card.clearedBalanceCents) :
    ∃ result, (payDown sha256 arithmetic db env r user card needed).2 = .ok result := by
  rw [← (ordered_perm db user.id).length_eq] at fresh
  have hfunding : ∀ a ∈ orderedFundingAccounts db user.id, Funding db user.id a :=
    fun a ha => funding_of_ordered ha
  obtain ⟨amounts, card', hstopped, hcollected, hout⟩ := @payEach_collected sha256 user.id
    r.creditAccountId card.currency db env card _ _ target hfunding (ordered_distinct db user.id)
    fresh hneeded
  obtain ⟨out, hpaid⟩ := payEach_ok target hfunding (ordered_distinct db user.id) fresh
    serviceable.servable
    (fun a ha => serviceable.balances a ((ordered_perm db user.id).mem_iff.mp ha))
    ⟨hdebt, serviceable.debt⟩
  obtain ⟨hall, hsum, hrest⟩ := hout out hpaid
  -- what is paid is between nothing and what is needed
  have hmax := serviceable.debt
  have hnonneg : 0 ≤ amounts.sum := by
    rw [hall]
    exact List.sum_nonneg (draws_nonneg hneeded)
  have hle : amounts.sum ≤ needed := by
    rw [hall, sum_draws hneeded]
    exact min_le_left _ _
  have hcleared : card'.clearedBalanceCents = card.clearedBalanceCents - amounts.sum := by
    rw [hcollected.repaid]
  have havailable : InRange card'.availableCreditCents := by
    rcases hcollected.available with hsame | ⟨used, hused⟩
    · rw [hsame]
      exact serviceable.available
    · rw [hused]
      exact headroom_inRange serviceable.servable.limit
  obtain ⟨report, hreport⟩ := @paydownReport_ok arithmetic _ card card' needed out.1 out.2
    hcollected.stored (inRange_of_le hneeded (by omega)) (by
      rw [hsum]
      exact inRange_of_le hnonneg (by omega)) (inRange_of_le (le_max_left _ _) (by omega))
    (inRange_of_le (by omega) (by omega)) havailable
  refine ⟨.processed report, ?_⟩
  simp only [payDown, bind_eq_ok, pure_eq_ok]
  exact ⟨out, hpaid, report, hreport, rfl⟩

/-- A customer's card at or above the trigger is paid down by what is needed and can be had: by all
of it if the run goes through, and it does if all amounts are in the range of money. -/
theorem autoPaydown_correct (found : findPaydownCard db r = .ok (user, card))
    (usable : 0 < card.creditLimitCents)
    (triggered : ¬ (arithmetic.quotient card.clearedBalanceCents card.creditLimitCents <
      r.triggerUtilization ∨ card.clearedBalanceCents ≤ 0))
    (fresh : Fresh sha256 user.id db env (listFundingAccountsForUser db user.id).length) :
    let run := executeInternalAutoPaydown sha256 arithmetic db env r
    PaidDown db run.1 user.id card (targetBalance arithmetic r card) ∧
    (∀ result, run.2 = .ok result →
      PaidInFull db run.1 user.id card (amountNeeded arithmetic r card) result) ∧
    (Serviceable db user.id card → ∃ result, run.2 = .ok result) := by
  obtain ⟨target, hutilization⟩ := targeted_of_found found
  have hrun : executeInternalAutoPaydown sha256 arithmetic db env r =
      if amountNeeded arithmetic r card ≤ 0 then (db, .ok (.skipped "No paydown required." none))
      else payDown sha256 arithmetic db env r user card (amountNeeded arithmetic r card) := by
    rw [executeInternalAutoPaydown, found]
    dsimp only
    rw [if_neg (not_le.mpr usable), if_neg triggered]
  rw [hrun]
  by_cases hneeded : amountNeeded arithmetic r card ≤ 0
  · rw [if_pos hneeded]
    have hzero : amountNeeded arithmetic r card = 0 := le_antisymm hneeded (le_max_left 0 _)
    have hfunding : ∀ a ∈ orderedFundingAccounts db user.id, Funding db user.id a :=
      fun a ha => funding_of_ordered ha
    have hnone := Collected.none target hfunding
    have hpaid : PaidDown db db user.id card (targetBalance arithmetic r card) :=
      paidDown_of_collected hnone
        (stopped_none _ (orderedFundingAccounts db user.id) card.currency)
    refine ⟨hpaid, fun result hresult => ?_, fun _ => ⟨_, rfl⟩⟩
    rw [← Except.ok.inj hresult]
    refine ⟨?_, fun _ _ _ => hzero, fun report hreport => PaydownResult.noConfusion hreport⟩
    rw [← sum_amounts hnone, hzero, ← capacity_ordered, min_eq_left (capacity_nonneg _)]
    simp
  · rw [if_neg hneeded]
    have htarget : 0 ≤ targetBalance arithmetic r card :=
      arithmetic.scaled_nonneg _ _ usable.le hutilization
    have hdebt : amountNeeded arithmetic r card ≤ card.clearedBalanceCents := by
      rw [not_or, not_le] at triggered
      exact max_le triggered.2.le (by omega)
    refine and_assoc.mp ⟨payDown_correct target fresh rfl, fun serviceable => ?_⟩
    exact payDown_ok target fresh serviceable (le_max_left 0 _) hdebt

end

def paydownCustomer : User := ⟨.ofNat 1, "customer-1", none⟩

def paydownCard : CreditAccount :=
  { id := .ofNat 10, customerId := .ofNat 1, productCode := "CASHBACK", status := .active,
    creditLimitCents := 1000, clearedBalanceCents := 750, availableCreditCents := 250,
    currency := .usd, lastLimitIncreaseAt := none }

theorem no_mirror (accountType : AccountType) :
    (none : Option Uuid) ≠ none → accountType = .creditCard :=
  fun h => absurd rfl h

def fundingAccount (id : Uuid) (accountNumber : String) (accountType : AccountType) (balance : ℤ)
    (number : ¬ isSystemNumber accountNumber := by decide) : Account :=
  { id, userId := some (.ofNat 1), accountNumber, accountType, productName := "Deposit",
    productCode := none, creditAccountId := none, status := .active, creditLimitCents := 0,
    clearedBalanceCents := balance, availableCreditCents := 0, currency := .usd,
    mirror_is_card := no_mirror accountType, system_number := fun h => absurd h number }

def paydownBank (accounts : Table Account) : Db :=
  { Db.empty with
    users := ⟨[paydownCustomer], List.pairwise_singleton _ _⟩
    creditAccounts := ⟨[paydownCard], List.pairwise_singleton _ _⟩
    accounts }

def savingsAndChecking : Table Account :=
  ⟨[fundingAccount (.ofNat 31) "0002" .savings 5000,
    fundingAccount (.ofNat 30) "0001" .checking 100],
    by decide⟩

/-- Exact arithmetic, as it is on the numbers below. -/
def exactArithmetic : Arithmetic where
  quotient n m := n / m
  scaled n x := (n * x.num).tdiv x.den
  round4 x := (10000 * x).floor / 10000
  scaled_nonneg _ _ hn hx :=
    Int.tdiv_nonneg (Int.mul_nonneg hn (Rat.num_nonneg.mpr hx)) (Int.natCast_nonneg _)

def quarterPaydown : AutoPaydownRequest :=
  { context := ⟨"simulation-engine", "simulation:autopaydown"⟩
    customerId := (Uuid.ofNat 1).str, creditAccountId := (Uuid.ofNat 10).str
    targetUtilization := 1 / 4, triggerUtilization := 1 / 2 }

def paydownDigests (text : String) : String :=
  (([("00000000-0000-0000-0000-000000000001:auto-paydown:00000000-0000-0000-0000-000000010000",
      "ccda64cc5496e6b602e6c21ec1746093b98e1c9631744ee8b21428a5e754c3dc"),
    ("00000000-0000-0000-0000-000000000001:auto-paydown:00000000-0000-0000-0000-000000010002",
      "120c9848dbd9c007ba76d389f03badb5e10590b38492421a6b8c6687bba814f5"),
    ("\x7b\"credit_account_id\": \"00000000-0000-0000-0000-00000000000a\", \"money\": " ++
      "\x7b\"amount_minor\": 100, \"currency_code\": \"USD\"\x7d, \"source_account_id\": " ++
      "\"00000000-0000-0000-0000-00000000001e\"\x7d",
      "59eaca619a1464abe259a9ea5b9f200428d4eba3a59505574ff07c91a412bf4c"),
    ("\x7b\"credit_account_id\": \"00000000-0000-0000-0000-00000000000a\", \"money\": " ++
      "\x7b\"amount_minor\": 400, \"currency_code\": \"USD\"\x7d, \"source_account_id\": " ++
      "\"00000000-0000-0000-0000-00000000001f\"\x7d",
      "d036464c643c86321cbda7e568b963601df4e1da397e103a0cf18555abcafa31")] :
    List (String × String)).lookup text).getD ""

theorem paydown_fresh {accounts : Table Account}
    (h : ∀ u ∈ rowDraws (.seeded 1) 2, ∀ a ∈ accounts.rows, a.id ≠ u) :
    Fresh paydownDigests paydownCustomer.id (paydownBank accounts) (.seeded 1) 2 where
  rows := by decide +kernel
  unused u hu :=
    ⟨h u hu, fun _ h => (List.not_mem_nil h).elim, fun _ h => (List.not_mem_nil h).elim,
    fun _ h => (List.not_mem_nil h).elim, fun _ h => (List.not_mem_nil h).elim⟩
  keys := by decide +kernel
  free := by
    rintro k - t ht
    cases ht

theorem paydownCard_serviceable :
    Serviceable (paydownBank savingsAndChecking) paydownCustomer.id paydownCard where
  servable := {
    holds := by decide
    held := by decide
    mirror := by decide
    number := by decide
    limit := by decide }
  debt := by decide
  available := by decide
  balances := by decide

theorem savingsAndChecking_paydown :
    let db := paydownBank savingsAndChecking
    let run := executeInternalAutoPaydown paydownDigests exactArithmetic db (.seeded 1)
      quarterPaydown
    PaidDown db run.1 paydownCustomer.id paydownCard 250 ∧
    ∃ result, run.2 = .ok result ∧
      PaidInFull db run.1 paydownCustomer.id paydownCard 500 result := by
  obtain ⟨hpaid, hfull, hok⟩ := @autoPaydown_correct paydownDigests exactArithmetic
    (paydownBank savingsAndChecking) (.seeded 1) paydownCard quarterPaydown paydownCustomer
    (by decide +kernel) (by decide) (by decide +kernel) (paydown_fresh (by decide +kernel))
  obtain ⟨result, hresult⟩ := hok paydownCard_serviceable
  have htarget : targetBalance exactArithmetic quarterPaydown paydownCard = 250 := by
    decide +kernel
  have hneeded : amountNeeded exactArithmetic quarterPaydown paydownCard = 500 := by
    decide +kernel
  have hinfull := hfull result hresult
  rw [htarget] at hpaid
  rw [hneeded] at hinfull
  exact ⟨hpaid, result, hresult, hinfull⟩

/-- A second checking account has more than an amount of money can say after the payment. -/
def smallAndHugeChecking : Table Account :=
  ⟨[fundingAccount (.ofNat 30) "0001" .checking 100,
    fundingAccount (.ofNat 31) "0002" .checking (MAX_MINOR + 1000)], by decide⟩

/-- The first payment is committed when the second is refused, and the card keeps more than its
target. -/
theorem hugeBalance_stops_paydown :
    ¬ ∀ (sha256 : String → String) (arithmetic : Arithmetic) (db : Db) (env : Ambient)
      (r : AutoPaydownRequest) (user : User) (card : CreditAccount),
      findPaydownCard db r = .ok (user, card) → 0 < card.creditLimitCents →
      ¬ (arithmetic.quotient card.clearedBalanceCents card.creditLimitCents <
        r.triggerUtilization ∨ card.clearedBalanceCents ≤ 0) →
      Fresh sha256 user.id db env (listFundingAccountsForUser db user.id).length →
      (∃ result, (executeInternalAutoPaydown sha256 arithmetic db env r).2 = .ok result) ∧
      takenTotal db (executeInternalAutoPaydown sha256 arithmetic db env r).1 user.id =
        min (amountNeeded arithmetic r card) (fundsTotal db user.id card.currency) := by
  intro h
  obtain ⟨-, htotal⟩ := h paydownDigests exactArithmetic
    (paydownBank smallAndHugeChecking) (.seeded 1) quarterPaydown paydownCustomer paydownCard
    (by decide +kernel) (by decide) (by decide +kernel) (paydown_fresh (by decide +kernel))
  have hcommitted : takenTotal (paydownBank smallAndHugeChecking) (executeInternalAutoPaydown
      paydownDigests exactArithmetic (paydownBank smallAndHugeChecking) (.seeded 1)
      quarterPaydown).1 paydownCustomer.id = 100 := by
    decide +kernel
  have hneeded : min (amountNeeded exactArithmetic quarterPaydown paydownCard)
      (fundsTotal (paydownBank smallAndHugeChecking) paydownCustomer.id paydownCard.currency) =
      500 := by
    decide +kernel
  rw [hcommitted, hneeded] at htotal
  exact absurd htotal (by decide)

end BankingService
