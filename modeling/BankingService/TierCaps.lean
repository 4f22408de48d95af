import BankingService.Decisioning
import Mathlib.Tactic.Positivity

/-! What a customer may be granted without an inquiry, after a soft one and after a hard one.
Amounts are minor units, fractions are basis points, and every division rounds down. -/
namespace BankingService.Decisioning

open Python Checked

def day : ℕ := 86400 * second

/-- `datetime.max`; a reading counts from `datetime.min`. -/
def maxDatetime : ℕ := 3652059 * day - 1

/-- `t + timedelta(microseconds=delta)`. -/
def plus (t : Timestamp) (delta : ℤ) : Except DecisioningException Timestamp :=
  if 0 ≤ t + delta ∧ t + delta ≤ maxDatetime then .ok (t + delta).toNat
  else .error .overflowError

theorem plus_eq_ok {t t' : Timestamp} {delta : ℤ} :
    plus t delta = .ok t' ↔ (t' : ℤ) = t + delta ∧ (t' : ℤ) ≤ maxDatetime := by
  unfold plus
  constructor
  · intro h
    split at h
    · cases h
      omega
    · cases h
  · intro ⟨hsum, hmax⟩
    rw [if_pos (by omega), ← hsum, Int.toNat_natCast]

theorem plus_eq_error {t : Timestamp} {delta : ℤ} {e : DecisioningException} (hdelta : 0 ≤ delta)
    (h : plus t delta = .error e) : e = .overflowError ∧ maxDatetime < t + delta := by
  unfold plus at h
  split at h
  · cases h
  · cases h
    exact ⟨rfl, by omega⟩

structure CreditSignals where
  creditScore : Option (Bounded 300 850)
  creditTier : Option (Matching fun s => 1 ≤ s.length && s.length ≤ 50)
  annualIncomeMinor : Option (Bounded 0 MAX_MINOR)
  incomeConfirmedAt : Option Timestamp
  openedAt : Option Timestamp
  lastLimitIncreaseAt : Option Timestamp
  balanceMinor : Bounded (-MAX_MINOR) MAX_MINOR
  latePayment : Bool
  productName : Matching isProductName
  deriving DecidableEq

structure TierCaps where
  gate : Option Reason
  retryAfter : Option ℕ
  tenureMonths : ℤ
  current : ℤ
  productMaximum : ℤ
  headroom : ℤ
  maxInstantlyApprovable : ℤ
  softCap : ℤ
  hardCap : ℤ
  deriving DecidableEq, Repr

def floorStep (step value : ℤ) : ℤ := value / step * step

namespace CreditSignals

variable (signals : CreditSignals) (now : Timestamp)

def tenureMonths : ℤ :=
  match signals.openedAt with
  | some opened => max 0 (((now : ℤ) - opened) / day / 30)
  | none => 0

def coolingOff (gates : TierGates) : Option Timestamp :=
  signals.lastLimitIncreaseAt.filter fun last =>
    (now : ℤ) - last < gates.coolingOffDays.val * day

def incomeUnconfirmed (gates : TierGates) : Prop :=
  signals.creditScore = none ∨ (∀ income ∈ signals.annualIncomeMinor, income.val = 0) ∨
    ∀ confirmed ∈ signals.incomeConfirmedAt,
      gates.incomeConfirmationMaxAgeDays.val * day < (now : ℤ) - confirmed

instance (gates : TierGates) : Decidable (signals.incomeUnconfirmed now gates) :=
  inferInstanceAs (Decidable (_ ∨ _ ∨ _))

def profileIneligible (gates : TierGates) : Prop :=
  (∃ score ∈ signals.creditScore, score.val < gates.minimumCreditScore.val) ∨
    signals.tenureMonths now < gates.minimumTenureMonths.val

instance (gates : TierGates) : Decidable (signals.profileIneligible now gates) :=
  inferInstanceAs (Decidable (_ ∨ _))

/-- The gate that holds, and the date on which a cooling-off ends. -/
def gate (gates : TierGates) : Except DecisioningException (Option Reason × Option ℕ) :=
  match signals.coolingOff now gates with
  | some last => do
    let ends ← plus last (gates.coolingOffDays.val * day)
    return (some .coolingOffActive, some (ends / day))
  | none =>
    if signals.incomeUnconfirmed now gates then .ok (some .incomeConfirmationRequired, none)
    else if signals.profileIneligible now gates then .ok (some .creditProfileIneligible, none)
    else .ok (none, none)

def tierBps (bps : CreditTierBps) : ℤ :=
  match signals.creditTier.map Subtype.val with
  | some "PRIME_EXCELLENT" => bps.primeExcellent.val
  | some "PRIME" => bps.prime.val
  | some "NEAR_PRIME" => bps.nearPrime.val
  | some "SUBPRIME" => bps.subprime.val
  | _ => 0

end CreditSignals

/-- What a computed gate says of the customer. -/
inductive Gated (signals : CreditSignals) : Option Reason → Option ℕ → Prop where
  | coolingOff (date : ℕ) : Gated signals (some .coolingOffActive) (some date)
  | incomeUnconfirmed : Gated signals (some .incomeConfirmationRequired) none
  | profileIneligible : Gated signals (some .creditProfileIneligible) none
  | free (score : Bounded 300 850) (scored : signals.creditScore = some score) :
      Gated signals none none

theorem gated_of_ok {signals : CreditSignals} {now : Timestamp} {gates : TierGates}
    {reason : Option Reason} {retryAfter : Option ℕ}
    (h : signals.gate now gates = .ok (reason, retryAfter)) : Gated signals reason retryAfter := by
  unfold CreditSignals.gate at h
  split at h
  · simp only [bind_eq_ok, pure_eq_ok, Prod.mk.injEq] at h
    obtain ⟨ends, -, rfl, rfl⟩ := h
    exact .coolingOff _
  · split at h
    · cases h
      exact .incomeUnconfirmed
    next hincome =>
    split at h
    · cases h
      exact .profileIneligible
    · cases h
      cases hscore : signals.creditScore with
      | none => exact absurd (Or.inl hscore) hincome
      | some score => exact .free score hscore

def utilizationFactor (bands : List UtilizationBand) (utilization : ℤ) : ℤ :=
  match bands.find? fun b => utilization ≤ b.maxBps.val with
  | some b => b.factorBps.val
  | none => 0

def tenureFactor (bands : List TenureBand) (tenure : ℤ) : ℤ :=
  bands.foldl (fun factor b => if b.minMonths.val ≤ tenure then b.factorBps.val else factor) 0

section Caps

variable (facts : CheckedDecisionFacts) (signals : CreditSignals) (policy : TierPolicy)

def incomeCap : ℤ :=
  let income := (signals.annualIncomeMinor.map Subtype.val).getD 0
  max facts.currentLimitMinor.val (min facts.maximumLimitMinor.val
    (floorStep policy.roundingStepMinor.val
      (income * policy.headroom.maxLimitToIncomeBps.val / 10000)))

def instantHeadroom (tenure : ℤ) : ℤ :=
  let limit := facts.currentLimitMinor.val
  let utilization := signals.balanceMinor.val * 10000 / limit
  let raw := floorStep policy.roundingStepMinor.val
    (limit * signals.tierBps policy.headroom.tierBps *
      utilizationFactor policy.headroom.utilizationBands utilization *
      tenureFactor policy.headroom.tenureBands tenure / 10 ^ 12)
  max 0 (min raw (incomeCap facts signals policy - limit))

def tierCaps (now : Timestamp) : Except DecisioningException TierCaps := do
  let limit := facts.currentLimitMinor.val
  let maximum := facts.maximumLimitMinor.val
  let tenure := signals.tenureMonths now
  let (gate, retryAfter) ← signals.gate now policy.gates
  let incomeCap := incomeCap facts signals policy
  let headroom := if gate.isSome = true ∨ signals.latePayment = true then 0
    else instantHeadroom facts signals policy tenure
  let instant := limit + headroom
  let softCap := max instant (min (min maximum incomeCap)
    (floorStep policy.roundingStepMinor.val
      (limit * policy.maxMultipleOfCurrentBps.val / 10000)))
  let hardCap := max softCap (min maximum incomeCap)
  return ⟨gate, retryAfter, tenure, limit, maximum, headroom, instant, softCap, hardCap⟩

/-- `current ≤ max_instantly_approvable ≤ soft_cap ≤ hard_cap ≤ product_maximum`. -/
structure TierCaps.Ordered (caps : TierCaps) : Prop where
  instant : caps.current ≤ caps.maxInstantlyApprovable
  soft : caps.maxInstantlyApprovable ≤ caps.softCap
  hard : caps.softCap ≤ caps.hardCap
  maximum : caps.hardCap ≤ caps.productMaximum

/-- What the caps say about the account and the customer they were computed for. -/
structure CapsOf (now : Timestamp) (caps : TierCaps) : Prop where
  current : caps.current = facts.currentLimitMinor.val
  maximum : caps.productMaximum = facts.maximumLimitMinor.val
  gate : signals.gate now policy.gates = .ok (caps.gate, caps.retryAfter)
  ordered : facts.currentLimitMinor.val ≤ facts.maximumLimitMinor.val → caps.Ordered

variable {facts signals policy} {now : Timestamp} {caps : TierCaps}

theorem incomeCap_bounds (h : facts.currentLimitMinor.val ≤ facts.maximumLimitMinor.val) :
    facts.currentLimitMinor.val ≤ incomeCap facts signals policy ∧
      incomeCap facts signals policy ≤ facts.maximumLimitMinor.val :=
  ⟨le_max_left _ _, max_le h (min_le_left _ _)⟩

theorem instantHeadroom_bounds (h : facts.currentLimitMinor.val ≤ facts.maximumLimitMinor.val)
    (tenure : ℤ) : 0 ≤ instantHeadroom facts signals policy tenure ∧
      facts.currentLimitMinor.val + instantHeadroom facts signals policy tenure ≤
        incomeCap facts signals policy := by
  have hincome := (@incomeCap_bounds facts signals policy h).1
  constructor
  · exact le_max_left _ _
  · have hle : instantHeadroom facts signals policy tenure ≤
        incomeCap facts signals policy - facts.currentLimitMinor.val :=
      max_le (by omega) (min_le_right _ _)
    omega

theorem capsOf_of_ok (h : tierCaps facts signals policy now = .ok caps) :
    CapsOf facts signals policy now caps := by
  simp only [tierCaps, bind_eq_ok, pure_eq_ok, Prod.exists] at h
  obtain ⟨gate, retryAfter, hgate, rfl⟩ := h
  refine ⟨rfl, rfl, hgate, fun hle => ?_⟩
  obtain ⟨hlow, hhigh⟩ := @incomeCap_bounds facts signals policy hle
  obtain ⟨hzero, hroom⟩ :=
    @instantHeadroom_bounds facts signals policy hle (signals.tenureMonths now)
  constructor
  · dsimp only
    split <;> omega
  · exact le_max_left _ _
  · exact le_max_left _ _
  · dsimp only
    split <;> omega

theorem dvd_floorStep (step value : ℤ) : step ∣ floorStep step value := Dvd.intro_left _ rfl

theorem tierBps_nonneg (bps : CreditTierBps) : 0 ≤ signals.tierBps bps := by
  unfold CreditSignals.tierBps
  split
  · exact bps.primeExcellent.property.1
  · exact bps.prime.property.1
  · exact bps.nearPrime.property.1
  · exact bps.subprime.property.1
  · rfl

theorem utilizationFactor_nonneg (bands : List UtilizationBand) (utilization : ℤ) :
    0 ≤ utilizationFactor bands utilization := by
  unfold utilizationFactor
  split
  next b _ => exact b.factorBps.property.1
  · rfl

theorem tenureFactor_nonneg (bands : List TenureBand) (tenure : ℤ) :
    0 ≤ tenureFactor bands tenure := by
  have hfold : ∀ factor : ℤ, 0 ≤ factor → 0 ≤ bands.foldl
      (fun factor b => if b.minMonths.val ≤ tenure then b.factorBps.val else factor) factor := by
    induction bands with
    | nil =>
      intro factor h
      exact h
    | cons b bands ih =>
      intro factor h
      apply ih
      dsimp only
      split
      · exact b.factorBps.property.1
      · exact h
  exact hfold 0 le_rfl

structure EarnedFactors (facts : CheckedDecisionFacts) (signals : CreditSignals)
    (headroom : HeadroomInputs) (tenure : ℤ) : Prop where
  tier : 0 < signals.tierBps headroom.tierBps
  utilization : 0 < utilizationFactor headroom.utilizationBands
    (signals.balanceMinor.val * 10000 / facts.currentLimitMinor.val)
  tenured : 0 < tenureFactor headroom.tenureBands tenure

theorem earnedFactors_of_pos {tenure : ℤ} (h : 0 < instantHeadroom facts signals policy tenure) :
    EarnedFactors facts signals policy.headroom tenure := by
  have htier := @tierBps_nonneg signals policy.headroom.tierBps
  have hused := utilizationFactor_nonneg policy.headroom.utilizationBands
    (signals.balanceMinor.val * 10000 / facts.currentLimitMinor.val)
  have hkept := tenureFactor_nonneg policy.headroom.tenureBands tenure
  have hnone : ¬ (signals.tierBps policy.headroom.tierBps *
      utilizationFactor policy.headroom.utilizationBands
        (signals.balanceMinor.val * 10000 / facts.currentLimitMinor.val) *
      tenureFactor policy.headroom.tenureBands tenure = 0) := by
    intro hzero
    have hraw : facts.currentLimitMinor.val * signals.tierBps policy.headroom.tierBps *
        utilizationFactor policy.headroom.utilizationBands
          (signals.balanceMinor.val * 10000 / facts.currentLimitMinor.val) *
        tenureFactor policy.headroom.tenureBands tenure = 0 := by
      rw [mul_assoc, mul_assoc, ← mul_assoc (signals.tierBps _), hzero, mul_zero]
    simp only [instantHeadroom, hraw, floorStep, Int.zero_ediv, zero_mul] at h
    omega
  simp only [mul_eq_zero, not_or] at hnone
  obtain ⟨⟨hb, hu⟩, ht⟩ := hnone
  exact ⟨by omega, by omega, by omega⟩

/-- Short of the income cap, the headroom is a whole number of steps. -/
theorem dvd_instantHeadroom {tenure : ℤ} (h : facts.currentLimitMinor.val +
      instantHeadroom facts signals policy tenure < incomeCap facts signals policy) :
    policy.roundingStepMinor.val ∣ instantHeadroom facts signals policy tenure := by
  have hstep := dvd_floorStep policy.roundingStepMinor.val (facts.currentLimitMinor.val *
    signals.tierBps policy.headroom.tierBps *
    utilizationFactor policy.headroom.utilizationBands
      (signals.balanceMinor.val * 10000 / facts.currentLimitMinor.val) *
    tenureFactor policy.headroom.tenureBands tenure / 10 ^ 12)
  unfold instantHeadroom at h ⊢
  dsimp only at h ⊢
  generalize floorStep policy.roundingStepMinor.val _ = raw at h hstep ⊢
  rcases le_or_gt raw 0 with hneg | hpos
  · rw [max_eq_left (by omega)]
    exact dvd_zero _
  · rw [max_eq_right (by omega)] at h ⊢
    rw [min_eq_left (by omega)]
    exact hstep

/-- An income cap between the current limit and the product's maximum is a whole number of
steps. -/
theorem dvd_incomeCap (hlow : facts.currentLimitMinor.val < incomeCap facts signals policy)
    (hhigh : incomeCap facts signals policy < facts.maximumLimitMinor.val) :
    policy.roundingStepMinor.val ∣ incomeCap facts signals policy := by
  have hstep := dvd_floorStep policy.roundingStepMinor.val
    ((signals.annualIncomeMinor.map Subtype.val).getD 0 *
      policy.headroom.maxLimitToIncomeBps.val / 10000)
  unfold incomeCap at hlow hhigh ⊢
  dsimp only at hlow hhigh ⊢
  generalize floorStep policy.roundingStepMinor.val _ = cap at hlow hhigh hstep ⊢
  rw [max_eq_right (by omega), min_eq_right (by omega)]
  exact hstep

/-- A cooling-off runs whose end is past the last date there is. -/
def EndlessCoolingOff (signals : CreditSignals) (gates : TierGates) (now : Timestamp) : Prop :=
  ∃ last ∈ signals.coolingOff now gates, (maxDatetime : ℤ) < last + gates.coolingOffDays.val * day

theorem gate_eq_error_iff {gates : TierGates} {e : DecisioningException} :
    signals.gate now gates = .error e ↔
      e = .overflowError ∧ EndlessCoolingOff signals gates now := by
  have hdays := gates.coolingOffDays.property.1
  have hlength : 0 ≤ gates.coolingOffDays.val * (day : ℤ) := by positivity
  unfold CreditSignals.gate EndlessCoolingOff
  cases signals.coolingOff now gates with
  | none =>
    dsimp only
    constructor
    · intro h
      split_ifs at h
    · rintro ⟨-, last, hlast, -⟩
      cases hlast
  | some last =>
    dsimp only
    cases hplus : plus last (gates.coolingOffDays.val * day) with
    | ok ends =>
      obtain ⟨hends, hmax⟩ := plus_eq_ok.mp hplus
      constructor
      · intro h
        cases h
      · rintro ⟨-, last', hlast, hpast⟩
        cases hlast
        omega
    | error e' =>
      obtain ⟨rfl, hpast⟩ := plus_eq_error hlength hplus
      constructor
      · intro h
        cases h
        exact ⟨rfl, last, rfl, hpast⟩
      · rintro ⟨rfl, -⟩
        rfl

theorem tierCaps_eq_error_iff {e : DecisioningException} :
    tierCaps facts signals policy now = .error e ↔
      e = .overflowError ∧ EndlessCoolingOff signals policy.gates now := by
  rw [← gate_eq_error_iff]
  unfold tierCaps
  cases hgate : signals.gate now policy.gates with
  | ok gated =>
    constructor
    · intro h
      cases h
    · intro h
      cases h
  | error e' =>
    constructor
    · intro h
      cases h
      rfl
    · intro h
      cases h
      rfl

/-- What the caps of an account grant: in order from its limit to its product's maximum, with an
instant amount that is earned, and in whole steps short of the income cap and the maximum. -/
structure Granted (facts : CheckedDecisionFacts) (signals : CreditSignals) (policy : TierPolicy)
    (caps : TierCaps) : Prop where
  current : caps.current = facts.currentLimitMinor.val
  maximum : caps.productMaximum = facts.maximumLimitMinor.val
  ordered : caps.Ordered
  gated : Gated signals caps.gate caps.retryAfter
  ungated : caps.current < caps.maxInstantlyApprovable →
    caps.gate = none ∧ signals.latePayment = false
  earned : caps.current < caps.maxInstantlyApprovable →
    EarnedFactors facts signals policy.headroom caps.tenureMonths
  instant_steps : caps.maxInstantlyApprovable < incomeCap facts signals policy →
    policy.roundingStepMinor.val ∣ caps.maxInstantlyApprovable - caps.current
  soft_steps : caps.maxInstantlyApprovable < caps.softCap →
    caps.softCap < caps.productMaximum → policy.roundingStepMinor.val ∣ caps.softCap
  hard_income : caps.hardCap = incomeCap facts signals policy
  hard_steps : caps.current < caps.hardCap → caps.hardCap < caps.productMaximum →
    policy.roundingStepMinor.val ∣ caps.hardCap

theorem caps_eq_of_ok (h : tierCaps facts signals policy now = .ok caps) :
    ∃ gate retryAfter, signals.gate now policy.gates = .ok (gate, retryAfter) ∧
      ∃ headroom, headroom = (if gate.isSome = true ∨ signals.latePayment = true then 0
        else instantHeadroom facts signals policy (signals.tenureMonths now)) ∧
      ∃ softCap, softCap = max (facts.currentLimitMinor.val + headroom)
        (min (min facts.maximumLimitMinor.val (incomeCap facts signals policy))
          (floorStep policy.roundingStepMinor.val
            (facts.currentLimitMinor.val * policy.maxMultipleOfCurrentBps.val / 10000))) ∧
      caps = ⟨gate, retryAfter, signals.tenureMonths now, facts.currentLimitMinor.val,
        facts.maximumLimitMinor.val, headroom, facts.currentLimitMinor.val + headroom, softCap,
        max softCap (min facts.maximumLimitMinor.val (incomeCap facts signals policy))⟩ := by
  simp only [tierCaps, bind_eq_ok, pure_eq_ok, Prod.exists] at h
  obtain ⟨gate, retryAfter, hgate, rfl⟩ := h
  exact ⟨gate, retryAfter, hgate, _, rfl, _, rfl, rfl⟩

/-- The soft cap is the instant amount, or one rounded down to a step or cut by the income cap or
by the maximum. -/
theorem dvd_softCap {instant soft step income maximum multiple : ℤ}
    (hsoft : soft = max instant (min (min maximum income) (floorStep step multiple)))
    (hlow : instant < soft) (hhigh : soft < maximum) (hincome : income < maximum → step ∣ income) :
    step ∣ soft := by
  rcases le_total (min maximum income) (floorStep step multiple) with hcut | hround
  · rw [min_eq_left hcut] at hsoft
    have heq : soft = income := by omega
    rw [heq] at hhigh ⊢
    exact hincome hhigh
  · rw [min_eq_right hround] at hsoft
    have heq : soft = floorStep step multiple := by omega
    rw [heq]
    exact dvd_floorStep step multiple

theorem granted_of_ok (hle : facts.currentLimitMinor.val ≤ facts.maximumLimitMinor.val)
    (h : tierCaps facts signals policy now = .ok caps) : Granted facts signals policy caps := by
  have hordered := (capsOf_of_ok h).ordered hle
  obtain ⟨hlow, hhigh⟩ := @incomeCap_bounds facts signals policy hle
  obtain ⟨hzero, hroom⟩ :=
    @instantHeadroom_bounds facts signals policy hle (signals.tenureMonths now)
  obtain ⟨gate, retryAfter, hgate, headroom, hheadroom, soft, hsoft, rfl⟩ := caps_eq_of_ok h
  have hfits : 0 ≤ headroom ∧
      facts.currentLimitMinor.val + headroom ≤ incomeCap facts signals policy := by
    rw [hheadroom]
    split
    · exact ⟨le_rfl, by omega⟩
    · exact ⟨hzero, hroom⟩
  have hhard : max soft (min facts.maximumLimitMinor.val (incomeCap facts signals policy)) =
      incomeCap facts signals policy := by omega
  -- a headroom that is not zero was not set to zero by a gate or a late payment
  have hungated : 0 < headroom → ¬ (gate.isSome = true ∨ signals.latePayment = true) ∧
      headroom = instantHeadroom facts signals policy (signals.tenureMonths now) := by
    intro hpos
    split at hheadroom
    · omega
    next hfree => exact ⟨hfree, hheadroom⟩
  constructor
  · rfl
  · rfl
  · exact hordered
  · exact gated_of_ok hgate
  · dsimp only
    intro hpos
    obtain ⟨hfree, -⟩ := hungated (by omega)
    simpa using hfree
  · dsimp only
    intro hpos
    obtain ⟨-, heq⟩ := hungated (by omega)
    exact earnedFactors_of_pos (by omega)
  · dsimp only
    intro hshort
    rw [add_sub_cancel_left]
    rcases eq_or_lt_of_le hfits.1 with hnone | hpos
    · rw [← hnone]
      exact dvd_zero _
    · obtain ⟨-, heq⟩ := hungated hpos
      rw [heq]
      rw [heq] at hshort
      exact dvd_instantHeadroom hshort
  · dsimp only
    intro habove hbelow
    exact dvd_softCap hsoft habove hbelow fun hcut => dvd_incomeCap (by omega) hcut
  · exact hhard
  · dsimp only
    rw [hhard]
    exact dvd_incomeCap

/-- A refusal that quotes the caps of an account passes its own check of the limits. -/
theorem Granted.quotable (h : Granted facts signals policy caps) :
    0 < caps.current ∧ [caps.current, caps.maxInstantlyApprovable, caps.softCap,
      caps.productMaximum].IsChain (· ≤ ·) := by
  obtain ⟨hinstant, hsoft, hhard, hmaximum⟩ := h.ordered
  constructor
  · rw [h.current]
    exact facts.currentLimitMinor.property.1
  · simp only [List.isChain_cons_cons, List.isChain_singleton, and_true]
    exact ⟨hinstant, hsoft, by omega⟩

end Caps

/-- The caps of an account within its product's maximum, computed unless a cooling-off ends past
the last date. -/
theorem tierCaps_granted (facts : CheckedDecisionFacts) (signals : CreditSignals)
    (policy : TierPolicy) (now : Timestamp)
    (hle : facts.currentLimitMinor.val ≤ facts.maximumLimitMinor.val) :
    (∀ e, tierCaps facts signals policy now = .error e ↔
      e = .overflowError ∧ EndlessCoolingOff signals policy.gates now) ∧
    ∀ caps, tierCaps facts signals policy now = .ok caps → Granted facts signals policy caps :=
  ⟨fun _ => tierCaps_eq_error_iff, fun _ h => granted_of_ok hle h⟩

/-- `default` of `credit_limit_tiers.v1.json` -/
def shippedTierPolicy : TierPolicy :=
  { roundingStepMinor := ⟨10000, by decide⟩
    gates :=
      { coolingOffDays := ⟨180, by decide⟩
        incomeConfirmationMaxAgeDays := ⟨365, by decide⟩
        minimumCreditScore := ⟨620, by decide⟩
        minimumTenureMonths := ⟨6, by decide⟩
        maxLatePayments12m := ⟨0, by decide⟩ }
    headroom :=
      { tierBps := ⟨⟨5000, by decide⟩, ⟨3000, by decide⟩, ⟨1500, by decide⟩, ⟨0, by decide⟩⟩
        utilizationBands := [⟨⟨3000, by decide⟩, ⟨10000, by decide⟩⟩,
          ⟨⟨7000, by decide⟩, ⟨5000, by decide⟩⟩]
        tenureBands := [⟨⟨6, by decide⟩, ⟨5000, by decide⟩⟩,
          ⟨⟨24, by decide⟩, ⟨10000, by decide⟩⟩]
        maxLimitToIncomeBps := ⟨3000, by decide⟩
        utilization_size := by decide
        tenure_size := by decide
        utilization_ascending := by decide
        tenure_ascending := by decide }
    maxMultipleOfCurrentBps := ⟨15000, by decide⟩
    disclosures :=
      { soft := ⟨"soft-inquiry-disclosure.v1", by decide +kernel⟩
        hard := ⟨"hard-inquiry-disclosure.v1", by decide +kernel⟩ }
    tenure_respects_gate := by decide }

def oddFacts : CheckedDecisionFacts :=
  { accountId := ⟨"0f8fad5b-d9cb-469f-a165-70867728950e", by decide +kernel⟩
    productCode := ⟨"GOLD", by decide +kernel⟩
    currentLimitMinor := ⟨500050, by decide⟩
    minimumLimitMinor := ⟨100000, by decide⟩
    maximumLimitMinor := ⟨2000000, by decide⟩ }

def primeSignals (lastIncrease : Option Timestamp) : CreditSignals :=
  { creditScore := some ⟨800, by decide⟩
    creditTier := some ⟨"PRIME_EXCELLENT", by decide +kernel⟩
    annualIncomeMinor := some ⟨10000000, by decide⟩
    incomeConfirmedAt := some (735000 * day)
    openedAt := some (730000 * day)
    lastLimitIncreaseAt := lastIncrease
    balanceMinor := ⟨0, by decide⟩
    latePayment := false
    productName := ⟨"Gold", by decide +kernel⟩ }

/-- The instant amount of 7500.50 is short of every cut and no multiple of the step, and no caps
are computed for an increase recorded on the last date. -/
theorem instant_amount_off_the_step :
    (∃ caps, tierCaps oddFacts (primeSignals none) shippedTierPolicy (735100 * day) = .ok caps ∧
      caps.current < caps.maxInstantlyApprovable ∧
      caps.maxInstantlyApprovable <
        incomeCap oddFacts (primeSignals none) shippedTierPolicy ∧
      caps.maxInstantlyApprovable < caps.productMaximum ∧
      ¬ shippedTierPolicy.roundingStepMinor.val ∣ caps.maxInstantlyApprovable) ∧
    tierCaps oddFacts (primeSignals (some maxDatetime)) shippedTierPolicy (735100 * day) =
      .error .overflowError := by
  refine ⟨⟨⟨none, none, 170, 500050, 2000000, 250000, 750050, 750050, 2000000⟩, ?_⟩, ?_⟩
  · decide +kernel
  · decide +kernel

theorem tierCaps_granted_odd :
    ∃ caps, tierCaps oddFacts (primeSignals none) shippedTierPolicy (735100 * day) = .ok caps ∧
      Granted oddFacts (primeSignals none) shippedTierPolicy caps := by
  have hcaps : tierCaps oddFacts (primeSignals none) shippedTierPolicy (735100 * day) =
      .ok ⟨none, none, 170, 500050, 2000000, 250000, 750050, 750050, 2000000⟩ := by
    decide +kernel
  exact ⟨_, hcaps, (tierCaps_granted oddFacts (primeSignals none) shippedTierPolicy
    (735100 * day) (by decide)).2 _ hcaps⟩

end BankingService.Decisioning
