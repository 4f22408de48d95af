import BankingService.CardNetwork

/-! The balance that a customer is shown, beside the one that purchases are decided on. The amounts
shown are in cents, before they are divided for display. -/
namespace RealtimeBalance

open BankingService Python Relational Checked

variable {db : Db} {account : CreditAccount}

/-- A user id, or the provider's id of a user; an unknown one gives the nil id. -/
def resolveUserId (db : Db) (customerId : String) : Uuid :=
  let known := (Uuid.parse? customerId).bind fun id => db.users.get? id
  match known <|> db.users.first? fun u => u.authProviderUid = customerId with
  | some user => user.id
  | none => .ofNat 0

def listPendingAuthorizations (db : Db) (accountId : Uuid) : List TransactionAuthorization :=
  (db.authorizations.select fun h => h.accountId = accountId ∧ h.status = .pending).mergeSort
    fun a b => b.createdAt ≤ a.createdAt

structure RealTimeBalance where
  accountId : Uuid
  creditLimit : ℤ
  clearedBalance : ℤ
  pendingAuthorizationsAmount : ℤ
  realtimeAvailableCredit : ℤ
  deriving DecidableEq

def getRealtimeBalance (db : Db) (accountId customerId : String) :
    Except PyException RealTimeBalance := do
  let id ← uuidParam accountId
  let account ← orRaise ((db.creditAccounts.get? id).filter fun a =>
      a.customerId = resolveUserId db customerId)
    (.valueError "Account not found or access denied.")
  let pendingAuths := listPendingAuthorizations db id
  let pendingAmount := (pendingAuths.map fun h => h.transactionAmountCents).sum
  return {
    accountId := account.id
    creditLimit := account.creditLimitCents
    clearedBalance := account.clearedBalanceCents
    pendingAuthorizationsAmount := pendingAmount
    realtimeAvailableCredit :=
      account.creditLimitCents - account.clearedBalanceCents - pendingAmount }

/-- What decisions count for a hold and the customer is not shown: a flagged hold as a whole, and
of a pending one what is billed beyond its own amount. -/
def unshown (h : TransactionAuthorization) : ℤ :=
  match h.status with
  | .pending => h.billingAmountCents - h.transactionAmountCents
  | .flagged => h.billingAmountCents
  | _ => 0

def unshownTotal (db : Db) (accountId : Uuid) : ℤ :=
  db.authorizations.total fun h => if h.accountId = accountId then unshown h else 0

/-- The sum over the pending holds, in whatever order they are listed. -/
theorem sum_listPending (id : Uuid) :
    ((listPendingAuthorizations db id).map fun h => h.transactionAmountCents).sum =
      db.authorizations.total fun h =>
        if h.accountId = id ∧ h.status = .pending then h.transactionAmountCents else 0 := by
  have hperm := List.mergeSort_perm
    (db.authorizations.select fun h => h.accountId = id ∧ h.status = .pending)
    fun a b => b.createdAt ≤ a.createdAt
  unfold listPendingAuthorizations
  rw [(hperm.map fun h : TransactionAuthorization => h.transactionAmountCents).sum_eq]
  exact Table.sum_select

theorem heldTotal_eq (id : Uuid) :
    heldTotal db id =
      ((listPendingAuthorizations db id).map fun h => h.transactionAmountCents).sum +
        unshownTotal db id := by
  rw [sum_listPending]
  unfold heldTotal unshownTotal Table.total
  rw [← List.sum_map_add]
  refine congrArg List.sum (List.map_congr_left fun h _ => ?_)
  by_cases hid : h.accountId = id
  · cases hs : h.status <;> simp [hid, hs, unshown, TransactionAuthorization.isActive]
  · simp [hid]

theorem getPendingAuthTotal_eq_ok {pending : ℤ} (h : getPendingAuthTotal db account = .ok pending) :
    pending = heldTotal db account.id := by
  simp only [getPendingAuthTotal, bind_eq_ok, require_eq_ok, Money.new_eq_ok, pure_eq_ok] at h
  obtain ⟨-, -, total, htotal, money, ⟨hmoney, -⟩, rfl⟩ := h
  rw [hmoney, addHolds_eq_ok htotal, zero_add, sum_activeHolds]

theorem getRealtimeBalance_of_owner {customerId : String}
    (stored : db.creditAccounts.get? account.id = some account)
    (owner : resolveUserId db customerId = account.customerId) :
    getRealtimeBalance db account.id.str customerId = .ok
      ⟨account.id, account.creditLimitCents, account.clearedBalanceCents,
        heldTotal db account.id - unshownTotal db account.id,
        account.creditLimitCents - account.clearedBalanceCents -
          (heldTotal db account.id - unshownTotal db account.id)⟩ := by
  have hid : uuidParam account.id.str = .ok account.id := by
    rw [uuidParam, Uuid.parse?_str]
    rfl
  have hown : (db.creditAccounts.get? account.id).filter
      (fun a => a.customerId = resolveUserId db customerId) = some account := by
    rw [stored, owner, Option.filter_some, if_pos (by simp)]
  have hsum := @heldTotal_eq db account.id
  unfold getRealtimeBalance
  rw [hid, ok_bind, hown, show heldTotal db account.id - unshownTotal db account.id = _ by
    rw [hsum, add_sub_cancel_right]]
  rfl

/-- The customer is shown the pending total and the available credit that purchases are decided on
exactly if the amounts that are not shown add up to nothing. -/
theorem shown_agrees_iff {customerId : String} {pending available : ℤ}
    (stored : db.creditAccounts.get? account.id = some account)
    (owner : resolveUserId db customerId = account.customerId)
    (total : getPendingAuthTotal db account = .ok pending)
    (used : calculateAvailableCreditCents db account = .ok available)
    (nonneg : 0 ≤ account.creditLimitCents - account.clearedBalanceCents - pending)
    (within : account.creditLimitCents - account.clearedBalanceCents - pending ≤
      account.creditLimitCents) :
    ∃ balance, getRealtimeBalance db account.id.str customerId = .ok balance ∧
      ((balance.pendingAuthorizationsAmount = pending ∧
        balance.realtimeAvailableCredit = available) ↔ unshownTotal db account.id = 0) := by
  refine ⟨_, getRealtimeBalance_of_owner stored owner, ?_⟩
  have hpending := getPendingAuthTotal_eq_ok total
  have havailable := calculate_eq_ok used
  rw [ClampedCache.headroom, ← sub_sub, ← hpending, min_eq_right within, max_eq_right nonneg]
    at havailable
  rw [← hpending, havailable]
  constructor
  · rintro ⟨hshown, -⟩
    dsimp only at hshown
    omega
  · intro hnone
    constructor <;> dsimp only <;> omega

def cardholder : User := ⟨.ofNat 1, "ada", none⟩

def openCard : CreditAccount :=
  { id := .ofNat 10, customerId := .ofNat 1, productCode := "CASHBACK", status := .active,
    creditLimitCents := 1000, clearedBalanceCents := 0, availableCreditCents := 1000,
    currency := .usd, lastLimitIncreaseAt := none }

def plastic : IssuedCard :=
  { id := .ofNat 20, accountId := .ofNat 10, cardholderName := "Ada", cardToken := "tok_1",
    lastFour := "4242", isActive := true, expMonth := 1, expYear := 2030, status := .active,
    isVirtual := false }

def unusedBank : Db :=
  { Db.empty with
    users := ⟨[cardholder], List.pairwise_singleton _ _⟩
    creditAccounts := ⟨[openCard], List.pairwise_singleton _ _⟩
    issuedCards := ⟨[plastic], List.pairwise_singleton _ _⟩ }

def purchase : CardAuthHoldRequest :=
  { cardToken := "tok_1", amountCents := 100, retrievalReferenceNumber := "RRN-1",
    merchantCategoryCode := "5812", merchantName := "Restaurant", cardNetwork := "VISA",
    createdAt := none, positive := by decide }

def scored (isFlagged : Bool) : FraudEvaluation :=
  { score := 60, isFlagged := isFlagged, alertsEnabled := true, alertThreshold := 90,
    interrupted := false }

def purchased (isFlagged : Bool) : Db :=
  (processAuthorization unusedBank (.seeded 1) purchase (scored isFlagged)).1

def chargedCard : CreditAccount := { openCard with availableCreditCents := 900 }

theorem unflagged_purchase_shown :
    ∃ balance, getRealtimeBalance (purchased false) chargedCard.id.str "ada" = .ok balance ∧
      ((balance.pendingAuthorizationsAmount = 100 ∧ balance.realtimeAvailableCredit = 900) ↔
        unshownTotal (purchased false) chargedCard.id = 0) :=
  shown_agrees_iff (by decide) (by decide) (by decide) (by decide) (by decide) (by decide)

/-- The flagged hold is counted against the customer's purchases and not shown. -/
theorem flagged_purchase_not_shown :
    ¬ ∀ (db : Db) (account : CreditAccount) (customerId : String) (pending available : ℤ),
      db.creditAccounts.get? account.id = some account →
      resolveUserId db customerId = account.customerId →
      getPendingAuthTotal db account = .ok pending →
      calculateAvailableCreditCents db account = .ok available →
      0 ≤ account.creditLimitCents - account.clearedBalanceCents - pending →
      account.creditLimitCents - account.clearedBalanceCents - pending ≤ account.creditLimitCents →
      ∃ balance, getRealtimeBalance db account.id.str customerId = .ok balance ∧
        balance.pendingAuthorizationsAmount = pending ∧
          balance.realtimeAvailableCredit = available := by
  intro hall
  obtain ⟨balance, hbalance, hpending, -⟩ := hall (purchased true) chargedCard "ada" 100 900
    (by decide) (by decide) (by decide) (by decide) (by decide) (by decide)
  have hshown := @getRealtimeBalance_of_owner (purchased true) chargedCard "ada" (by decide)
    (by decide)
  rw [hshown] at hbalance
  cases hbalance
  exact absurd hpending (by decide)

end RealtimeBalance
