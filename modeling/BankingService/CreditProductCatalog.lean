import BankingService.Library.Validated
import BankingService.MoneyPresentation

/-! The credit product catalog: the terms of a product, and how they are presented. -/
namespace BankingService.CreditProductCatalog

open Checked Numerals Python

abbrev Text (least most : ℕ) : Type := {s : String // least ≤ s.length ∧ s.length ≤ most}

/-- `^[A-Z0-9_]{1,50}$`. -/
def isProductCode (s : String) : Bool :=
  1 ≤ s.length ∧ s.length ≤ 50 ∧ s.toList.all fun c => c.isUpper || c.isDigit || c == '_'

structure Rate where
  units : ℕ
  negative : Bool
  fraction : units ≤ 10000
  signed : negative = true → units = 0
  deriving DecidableEq

abbrev MinorAmount : Type := Bounded 0 MAX_MINOR

abbrev Months : Type := {n : ℕ // 0 < n}

structure CreditProductSeed where
  productCode : Matching isProductCode
  productName : Text 1 100
  displayOrder : ℕ
  tagline : Text 1 160
  bestFor : Text 1 200
  currencyCode : CurrencyCode
  minCreditLimitCents : Bounded 1 MAX_MINOR
  maxCreditLimitCents : MinorAmount
  purchaseApr : Rate
  introPurchaseApr : Option Rate
  introPurchaseAprMonths : Option Months
  introBalanceTransferApr : Option Rate
  introBalanceTransferAprMonths : Option Months
  balanceTransferFeeRate : Rate
  balanceTransferFeeMinimumMinor : MinorAmount
  cashAdvanceApr : Rate
  cashAdvanceFeeRate : Rate
  cashAdvanceFeeMinimumMinor : MinorAmount
  foreignTransactionFeeRate : Rate
  lateFeeMaximumMinor : MinorAmount
  returnedPaymentFeeMaximumMinor : MinorAmount
  penaltyApr : Option Rate
  annualFeeCents : MinorAmount
  cashbackRate : Rate
  travelMultiplier : {n : ℕ // 1 ≤ n}
  diningMultiplier : {n : ℕ // 1 ≤ n}
  isSecured : Bool
  features : {l : List (Text 1 200) // 1 ≤ l.length}
  isActive : Bool
  /-- `_coherent_terms`. -/
  coherentTerms : minCreditLimitCents.val ≤ maxCreditLimitCents.val ∧
    introPurchaseApr.isSome = introPurchaseAprMonths.isSome ∧
    introBalanceTransferApr.isSome = introBalanceTransferAprMonths.isSome ∧
    ((1 < travelMultiplier.val ∨ 1 < diningMultiplier.val) → cashbackRate.units = 0)

structure RatePresentation where
  rate : String
  displayText : String

structure IntroAprPresentation where
  apr : RatePresentation
  months : ℕ
  displayText : String

inductive RewardsType where
  | cashback
  | points
  | none
  deriving DecidableEq

structure RewardsPresentation where
  type : RewardsType
  cashbackRate : RatePresentation
  travelMultiplier : ℕ
  diningMultiplier : ℕ
  displayText : String

structure CreditProductResponse where
  productCode : String
  productName : String
  displayOrder : ℕ
  tagline : String
  bestFor : String
  isSecured : Bool
  currencyCode : CurrencyCode
  features : List String
  minCreditLimit : MoneyPresentation
  maxCreditLimit : MoneyPresentation
  annualFee : MoneyPresentation
  purchaseApr : RatePresentation
  introPurchaseApr : Option IntroAprPresentation
  introBalanceTransferApr : Option IntroAprPresentation
  penaltyApr : Option RatePresentation
  balanceTransferFeeRate : RatePresentation
  balanceTransferFeeMinimum : MoneyPresentation
  cashAdvanceApr : RatePresentation
  cashAdvanceFeeRate : RatePresentation
  cashAdvanceFeeMinimum : MoneyPresentation
  foreignTransactionFeeRate : RatePresentation
  lateFeeMaximum : MoneyPresentation
  returnedPaymentFeeMaximum : MoneyPresentation
  rewards : RewardsPresentation

def money (amountMinor : ℤ) (currencyCode : CurrencyCode) :
    Except PyException MoneyPresentation := do
  let m ← Money.new amountMinor currencyCode
  projectMoney m "en-US"

def withSign (negative : Bool) (digits : List Char) : String :=
  String.ofList (if negative then '-' :: digits else digits)

/-- The fraction with four decimals, and the percentage without trailing zeros. -/
def rate (value : Rate) : RatePresentation where
  rate := withSign value.negative (fixedPoint 4 value.units)
  displayText :=
    let decimals := ((padded 2 (value.units % 100)).reverse.dropWhile fun c => c = '0').reverse
    withSign value.negative (pointed (Nat.toDigits 10 (value.units / 100)) decimals) ++ "%"

def intro (apr : Option Rate) (months : Option Months) : Option IntroAprPresentation :=
  match apr, months with
  | some apr, some months =>
    let apr := rate apr
    some ⟨apr, months, apr.displayText ++ " intro APR for " ++ toString months.val ++ " months"⟩
  | _, _ => none

def rewards (product : CreditProductSeed) : RewardsPresentation :=
  let cashback := rate product.cashbackRate
  let travel := product.travelMultiplier.val
  let dining := product.diningMultiplier.val
  let (kind, text) :=
    if 0 < product.cashbackRate.units then
      (RewardsType.cashback, cashback.displayText ++ " cash back on all purchases")
    else if 1 < travel ∨ 1 < dining then
      (.points, toString travel ++ "x points on travel, " ++ toString dining ++
        "x points on dining, 1x points on everything else")
    else (.none, "No rewards program")
  ⟨kind, cashback, travel, dining, text⟩

/-- A product is presented from a row with the terms of its seed. -/
def presentCreditProduct (product : CreditProductSeed) :
    Except PyException CreditProductResponse := do
  let currency := product.currencyCode
  let minCreditLimit ← money product.minCreditLimitCents currency
  let maxCreditLimit ← money product.maxCreditLimitCents currency
  let annualFee ← money product.annualFeeCents currency
  let balanceTransferFeeMinimum ← money product.balanceTransferFeeMinimumMinor currency
  let cashAdvanceFeeMinimum ← money product.cashAdvanceFeeMinimumMinor currency
  let lateFeeMaximum ← money product.lateFeeMaximumMinor currency
  let returnedPaymentFeeMaximum ← money product.returnedPaymentFeeMaximumMinor currency
  return {
    productCode := product.productCode
    productName := product.productName
    displayOrder := product.displayOrder
    tagline := product.tagline
    bestFor := product.bestFor
    isSecured := product.isSecured
    currencyCode := currency
    features := product.features.val.map fun f => f.val
    minCreditLimit := minCreditLimit
    maxCreditLimit := maxCreditLimit
    annualFee := annualFee
    purchaseApr := rate product.purchaseApr
    introPurchaseApr := intro product.introPurchaseApr product.introPurchaseAprMonths
    introBalanceTransferApr :=
      intro product.introBalanceTransferApr product.introBalanceTransferAprMonths
    penaltyApr := product.penaltyApr.map rate
    balanceTransferFeeRate := rate product.balanceTransferFeeRate
    balanceTransferFeeMinimum := balanceTransferFeeMinimum
    cashAdvanceApr := rate product.cashAdvanceApr
    cashAdvanceFeeRate := rate product.cashAdvanceFeeRate
    cashAdvanceFeeMinimum := cashAdvanceFeeMinimum
    foreignTransactionFeeRate := rate product.foreignTransactionFeeRate
    lateFeeMaximum := lateFeeMaximum
    returnedPaymentFeeMaximum := returnedPaymentFeeMaximum
    rewards := rewards product }

theorem money_ok {amountMinor : ℤ} {currencyCode : CurrencyCode} (h : InRange amountMinor) :
    ∃ p, money amountMinor currencyCode = .ok p :=
  ⟨_, bind_eq_ok.mpr ⟨⟨amountMinor, currencyCode, h⟩, Money.new_eq_ok.mpr ⟨rfl, rfl⟩, rfl⟩⟩

theorem inRange_minorAmount (n : MinorAmount) : InRange n.val :=
  ⟨(by decide : -MAX_MINOR ≤ 0).trans n.property.1, n.property.2⟩

theorem presentCreditProduct_ok (product : CreditProductSeed) :
    ∃ r, presentCreditProduct product = .ok r := by
  have hmin : InRange product.minCreditLimitCents.val :=
    ⟨(by decide : -MAX_MINOR ≤ 1).trans product.minCreditLimitCents.property.1,
      product.minCreditLimitCents.property.2⟩
  refine exists_bind (money_ok hmin) fun _ _ => ?_
  refine exists_bind (money_ok (inRange_minorAmount _)) fun _ _ => ?_
  refine exists_bind (money_ok (inRange_minorAmount _)) fun _ _ => ?_
  refine exists_bind (money_ok (inRange_minorAmount _)) fun _ _ => ?_
  refine exists_bind (money_ok (inRange_minorAmount _)) fun _ _ => ?_
  refine exists_bind (money_ok (inRange_minorAmount _)) fun _ _ => ?_
  refine exists_bind (money_ok (inRange_minorAmount _)) fun _ _ => ?_
  exact ⟨_, rfl⟩

theorem presentCreditProduct_fields {product : CreditProductSeed} {r : CreditProductResponse}
    (h : presentCreditProduct product = .ok r) : r.productCode = product.productCode.val ∧
      r.productName = product.productName.val ∧
        r.features = product.features.val.map fun f => f.val := by
  obtain ⟨_, -, h⟩ := bind_eq_ok.mp h
  obtain ⟨_, -, h⟩ := bind_eq_ok.mp h
  obtain ⟨_, -, h⟩ := bind_eq_ok.mp h
  obtain ⟨_, -, h⟩ := bind_eq_ok.mp h
  obtain ⟨_, -, h⟩ := bind_eq_ok.mp h
  obtain ⟨_, -, h⟩ := bind_eq_ok.mp h
  obtain ⟨_, -, h⟩ := bind_eq_ok.mp h
  obtain rfl := pure_eq_ok.mp h
  exact ⟨rfl, rfl, rfl⟩

end BankingService.CreditProductCatalog
