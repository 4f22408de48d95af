import BankingService.TierCaps

/-! The bank's own decision on a limit request: the tier the amount falls in, the inquiry that tier
asks for, and the counteroffer that a bureau score below the threshold leaves. -/
namespace BankingService.Decisioning

open Python Checked

def SOFT_BUREAU_APPROVE_SCORE : ℤ := 660
def HARD_BUREAU_APPROVE_SCORE : ℤ := 700
def HARD_BUREAU_COUNTER_SCORE : ℤ := 660

inductive Scenario where
  | standard
  | decline
  | needsInformation
  | referForReview
  deriving DecidableEq, Repr

def Scenario.outcome : Scenario → Outcome
  | standard => .approved
  | decline => .declined
  | needsInformation => .needsInformation
  | referForReview => .referForReview

def Scenario.reason : Scenario → Reason
  | standard => .approvedByPolicy
  | decline => .policyDeclined
  | needsInformation => .informationRequired
  | referForReview => .reviewRequired

/-- `uuid5` names a decision, `signalsRef` is the digest of the signals' JSON. -/
structure DemoDecisioningProvider where
  currentPolicy : DecisionPolicy
  scenario : Scenario
  tierConfig : CreditLimitTierConfig
  uuid5 : String → Uuid
  signalsRef : CreditSignals → Fingerprint

/-- The clock as the caps read it, and again for the receipt. -/
structure DecisionClock where
  capsAt : Timestamp
  evaluatedAt : Timestamp

def decisionMoney (amount : ℤ) (currency : CurrencyCode) : Except DecisioningException Money :=
  if h : InRange amount then .ok ⟨amount, currency, h⟩ else .error (.fieldError "amount_minor")

/-- One call of `refuse`, `counter` or `approve`. -/
inductive TieredExit where
  | refuse (outcome : Outcome) (reasonCode : Reason) (nextSteps : List NextStep)
      (inquiryType : InquiryType) (retryable : Bool) (retryAfter : Option ℕ)
  | counter (offer : ℤ) (reasonCodes : List Reason) (lastReason : Reason)
      (nextSteps : List NextStep) (inquiryType : InquiryType)
  | approve (inquiryType : InquiryType)
  deriving DecidableEq, Repr

def tierOf (caps : TierCaps) (amount : ℤ) : ConsentedInquiryType :=
  if amount ≤ caps.softCap then .soft else .hard

def consentSteps (caps : TierCaps) : ConsentedInquiryType → List NextStep
  | .soft => if caps.current < caps.maxInstantlyApprovable then [.acceptPreapprovedHeadroom]
      else [.specialistReview]
  | .hard => if caps.current < caps.softCap then [.acceptSoftTierCap] else [.specialistReview]

def bureauExit (caps : TierCaps) (score : ℤ) : ConsentedInquiryType → TieredExit
  | .soft =>
    if SOFT_BUREAU_APPROVE_SCORE ≤ score then .approve .soft
    else if caps.current < caps.maxInstantlyApprovable then
      .counter caps.maxInstantlyApprovable [.counterofferAvailable] .counterofferAvailable
        [.acceptCounteroffer, .specialistReview] .soft
    else .refuse .declined .bureauDeclined [.specialistReview] .soft false none
  | .hard =>
    if HARD_BUREAU_APPROVE_SCORE ≤ score then .approve .hard
    else if HARD_BUREAU_COUNTER_SCORE ≤ score ∧ caps.current < caps.softCap then
      .counter caps.softCap [.counterofferAvailable] .counterofferAvailable
        [.acceptCounteroffer, .specialistReview] .hard
    else .refuse .declined .bureauDeclined [.specialistReview] .hard false none

/-- The consent that a request carries is the one its tier asks for. -/
def HasConsentFor (request : DecisionRequest) (tier : ConsentedInquiryType) : Prop :=
  request.inquiryConsent.map InquiryConsent.inquiryType = some tier

instance (request : DecisionRequest) (tier : ConsentedInquiryType) :
    Decidable (HasConsentFor request tier) := inferInstanceAs (Decidable (_ = _))

def inquiryExit (request : DecisionRequest) (caps : TierCaps) (score : Option (Bounded 300 850))
    (tier : ConsentedInquiryType) : Except DecisioningException TieredExit :=
  if HasConsentFor request tier then
    match score with
    | some score => .ok (bureauExit caps score.val tier)
    -- `None >= 660`
    | none => .error .typeError
  else .ok (.refuse .needsInformation .inquiryConsentRequired (consentSteps caps tier)
    tier.inquiryType false none)

def ungatedExit (request : DecisionRequest) (caps : TierCaps) (score : Option (Bounded 300 850)) :
    Except DecisioningException TieredExit :=
  let amount := request.requestedLimit.amountMinor
  if request.origin.isSome = true then .ok (.approve .none)
  else if amount ≤ caps.maxInstantlyApprovable then .ok (.approve .none)
  else if caps.hardCap < amount then
    if caps.current < caps.hardCap then
      .ok (.counter caps.hardCap [.counterofferAvailable, .incomeCapExceeded] .incomeCapExceeded
        [.acceptCounteroffer, .provideIncome, .specialistReview] .none)
    else .ok (.refuse .declined .limitCeilingExceeded [.provideIncome, .specialistReview] .none
      false none)
  else inquiryExit request caps score (tierOf caps amount)

def tieredExit (request : DecisionRequest) (caps : TierCaps) (score : Option (Bounded 300 850)) :
    Except DecisioningException TieredExit :=
  if caps.productMaximum < request.requestedLimit.amountMinor then
    .ok (.refuse .referForReview .aboveProductMaximum [.productUpgrade, .specialistReview] .none
      false none)
  else
    match caps.gate with
    | some .coolingOffActive =>
      .ok (.refuse .declined .coolingOffActive [.retryAfterCoolingOff] .none true caps.retryAfter)
    | some .incomeConfirmationRequired =>
      .ok (.refuse .needsInformation .incomeConfirmationRequired
        [.provideIncome, .specialistReview] .none false none)
    | some .creditProfileIneligible =>
      .ok (.refuse .declined .creditProfileIneligible [.specialistReview] .none false none)
    | _ => ungatedExit request caps score

def refusalFacts (facts : CheckedDecisionFacts) (signals : CreditSignals) (caps : TierCaps)
    (reasonCode : Reason) (nextSteps : List NextStep) (retryable : Bool) (retryAfter : Option ℕ) :
    Except DecisioningException RefusalFacts := do
  let current ← decisionMoney caps.current facts.currencyCode
  let maximum ← decisionMoney caps.productMaximum facts.currencyCode
  let instant ← decisionMoney caps.maxInstantlyApprovable facts.currencyCode
  let soft ← decisionMoney caps.softCap facts.currencyCode
  validate RefusalFields.check
    { reasonCode, retryable, currentLimit := current, productMaximum := maximum,
      maxInstantlyApprovable := instant, softTierCap := soft,
      productName := signals.productName.val, nextSteps, retryAfter }

namespace DemoDecisioningProvider

variable (p : DemoDecisioningProvider)

def decisionName (request : DecisionRequest) : String :=
  p.currentPolicy.digest.val ++ ":" ++ request.requestRef.val ++
    match request.inquiryConsent with
    | some consent => ":" ++ consent.consentRef.val
    | none => ""

def fields (request : DecisionRequest) (evaluated expires : Timestamp) (outcome : Outcome)
    (approved : Option Money) (reasons : List Reason) (inquiryType : Option InquiryType)
    (counteroffer : Option Counteroffer) (refusal : Option RefusalFacts) : DecisionFields :=
  { decisionId := (p.uuid5 (p.decisionName request)).str
    providerId := p.currentPolicy.providerId.val
    outcome, approvedLimit := approved, reasonCodes := reasons
    policy := p.currentPolicy
    evaluatedAt := evaluated, expiresAt := expires
    requestRef := request.requestRef, scopeRef := request.scopeRef
    inputRef := request.inputRef
    evidenceReferences := DecisionFields.evidenceOf request
    inquiryType, counteroffer, refusal }

def decision (request : DecisionRequest) (evaluated : Timestamp) (outcome : Outcome)
    (approved : Option Money) (reasons : List Reason) (inquiryType : Option InquiryType)
    (counteroffer : Option Counteroffer) (refusal : Option RefusalFacts) :
    Except DecisioningException BankDecision := do
  let expires ← plus evaluated (p.currentPolicy.approvalTtlSeconds.val * second)
  validate DecisionFields.check
    (p.fields request evaluated expires outcome approved reasons inquiryType counteroffer refusal)

def receipt (request : DecisionRequest) (signals : CreditSignals) (caps : TierCaps)
    (evaluated : Timestamp) : TieredExit → Except DecisioningException BankDecision
  | .refuse outcome reasonCode nextSteps inquiryType retryable retryAfter => do
    let refusal ← refusalFacts request.facts signals caps reasonCode nextSteps retryable retryAfter
    p.decision request evaluated outcome none [reasonCode] (some inquiryType) none (some refusal)
  | .counter offer reasonCodes lastReason nextSteps inquiryType => do
    let approved ← decisionMoney offer request.facts.currencyCode
    let refusal ← refusalFacts request.facts signals caps lastReason nextSteps false none
    p.decision request evaluated .counteroffer (some approved) reasonCodes (some inquiryType)
      (some ⟨request.requestRef, request.requestedLimit⟩) (some refusal)
  | .approve inquiryType =>
    p.decision request evaluated .approved (some request.requestedLimit) [.approvedByPolicy]
      (some inquiryType) none none

def evaluateTiered (request : DecisionRequest) (signals : CreditSignals) (clock : DecisionClock) :
    Except DecisioningException BankDecision := do
  require (request.signalsRef = some (p.signalsRef signals))
    (.valueError "Customer signals are not bound to this request.")
  let caps ← tierCaps request.facts signals
    (p.tierConfig.policyFor request.facts.productCode.val) clock.capsAt
  let exit ← tieredExit request caps signals.creditScore
  p.receipt request signals caps clock.evaluatedAt exit

def evaluate (request : DecisionRequest) (signals : Option CreditSignals) (clock : DecisionClock) :
    Except DecisioningException BankDecision := do
  require (evaluateCreditLimit request.facts.dump request.requestedLimit.amountMinor
      request.requestedLimit.currencyCode = none)
    (.valueError "Execution eligibility must be checked before decisioning.")
  match p.scenario, signals with
  | .standard, some signals => p.evaluateTiered request signals clock
  | scenario, _ =>
    p.decision request clock.evaluatedAt scenario.outcome
      (if scenario.outcome = .approved then some request.requestedLimit else none)
      [scenario.reason] none none none

end DemoDecisioningProvider

structure Eligible (request : DecisionRequest) : Prop where
  currency : request.requestedLimit.currencyCode = .usd
  increase : request.facts.currentLimitMinor.val < request.requestedLimit.amountMinor
  atLeast : request.facts.minimumLimitMinor.val ≤ request.requestedLimit.amountMinor
  within : request.requestedLimit.amountMinor ≤ request.facts.maximumLimitMinor.val

theorem evaluateCreditLimit_bounds {facts : CreditLimitFacts} {amount : ℤ}
    {currency : CurrencyCode} (h : evaluateCreditLimit facts amount currency = none) :
    currency = .usd ∧ facts.currentLimitMinor < amount ∧
      (∀ minimum ∈ facts.minimumLimitMinor, minimum ≤ amount) ∧
      ∀ maximum ∈ facts.maximumLimitMinor, amount ≤ maximum := by
  unfold evaluateCreditLimit at h
  split at h
  · cases h
  split at h
  · cases h
  next hcurrency =>
  split at h
  · cases h
  split at h
  next lo hi hactive hminimum hmaximum =>
    split_ifs at h with hpolicy hrange hraise hbounds
    refine ⟨by tauto, not_le.mp hraise, fun minimum hmem => ?_, fun maximum hmem => ?_⟩
    · rw [hminimum] at hmem
      cases hmem
      exact hbounds.1
    · rw [hmaximum] at hmem
      cases hmem
      exact hbounds.2
  · cases h

theorem evaluateCreditLimit_of_bounds {facts : CreditLimitFacts} {amount lo hi : ℤ}
    (hactive : facts.accountStatus = .active) (hcurrency : facts.currencyCode = .usd)
    (hproduct : facts.productActive = some true) (hminimum : facts.minimumLimitMinor = some lo)
    (hmaximum : facts.maximumLimitMinor = some hi) (hcurrent : 0 < facts.currentLimitMinor)
    (hlo : 0 < lo) (hhi : hi ≤ MAX_MINOR) (hincrease : facts.currentLimitMinor < amount)
    (hwithin : lo ≤ amount ∧ amount ≤ hi) : evaluateCreditLimit facts amount .usd = none := by
  unfold evaluateCreditLimit
  rw [if_neg (by simp [hactive]), if_neg (by simp [hcurrency]), if_neg (by omega), hproduct,
    hminimum, hmaximum]
  dsimp only
  rw [if_neg (by omega), if_neg (by omega), if_neg (by omega), if_neg (by omega)]

theorem eligible_iff {request : DecisionRequest} :
    evaluateCreditLimit request.facts.dump request.requestedLimit.amountMinor
      request.requestedLimit.currencyCode = none ↔ Eligible request := by
  constructor
  · intro h
    obtain ⟨hcurrency, hincrease, hatLeast, hwithin⟩ := evaluateCreditLimit_bounds h
    exact ⟨hcurrency, hincrease, hatLeast _ rfl, hwithin _ rfl⟩
  · rintro ⟨hcurrency, hincrease, hatLeast, hwithin⟩
    have hcurrent := request.facts.currentLimitMinor.property
    have hminimum := request.facts.minimumLimitMinor.property
    have hmaximum := request.facts.maximumLimitMinor.property
    rw [hcurrency]
    exact evaluateCreditLimit_of_bounds rfl rfl rfl rfl rfl hcurrent.1 hminimum.1 hmaximum.2
      hincrease ⟨hatLeast, hwithin⟩

section Exits

variable {request : DecisionRequest} {caps : TierCaps} {score : Option (Bounded 300 850)}
  {exit : TieredExit}

inductive UngatedExit (request : DecisionRequest) (caps : TierCaps) : TieredExit → Prop where
  | accepted (given : request.origin.isSome = true) : UngatedExit request caps (.approve .none)
  | instant (none_given : request.origin = none)
      (within : request.requestedLimit.amountMinor ≤ caps.maxInstantlyApprovable) :
      UngatedExit request caps (.approve .none)
  | aboveHardCap (none_given : request.origin = none)
      (above : caps.hardCap < request.requestedLimit.amountMinor)
      (offered : caps.current < caps.hardCap) :
      UngatedExit request caps (.counter caps.hardCap [.counterofferAvailable, .incomeCapExceeded]
        .incomeCapExceeded [.acceptCounteroffer, .provideIncome, .specialistReview] .none)
  | atCeiling (none_given : request.origin = none)
      (above : caps.hardCap < request.requestedLimit.amountMinor) :
      UngatedExit request caps
        (.refuse .declined .limitCeilingExceeded
          [.provideIncome, .specialistReview] .none false none)
  | asks (none_given : request.origin = none)
      (above : caps.maxInstantlyApprovable < request.requestedLimit.amountMinor)
      (within : request.requestedLimit.amountMinor ≤ caps.hardCap)
      (unconsented : ¬ HasConsentFor request
        (tierOf caps request.requestedLimit.amountMinor)) :
      UngatedExit request caps (.refuse .needsInformation .inquiryConsentRequired
        (consentSteps caps (tierOf caps request.requestedLimit.amountMinor))
        (tierOf caps request.requestedLimit.amountMinor).inquiryType false none)
  | inquired (none_given : request.origin = none)
      (above : caps.maxInstantlyApprovable < request.requestedLimit.amountMinor)
      (within : request.requestedLimit.amountMinor ≤ caps.hardCap)
      (consented : HasConsentFor request (tierOf caps request.requestedLimit.amountMinor))
      (score : ℤ) :
      UngatedExit request caps
        (bureauExit caps score (tierOf caps request.requestedLimit.amountMinor))

/-- A gate holds, and says what the customer can do about it. -/
inductive GatedExit (caps : TierCaps) : TieredExit → Prop where
  | coolingOff (gated : caps.gate = some .coolingOffActive) : GatedExit caps
      (.refuse .declined .coolingOffActive [.retryAfterCoolingOff] .none true caps.retryAfter)
  | incomeUnconfirmed (gated : caps.gate = some .incomeConfirmationRequired) : GatedExit caps
      (.refuse .needsInformation .incomeConfirmationRequired [.provideIncome, .specialistReview]
        .none false none)
  | profileIneligible (gated : caps.gate = some .creditProfileIneligible) : GatedExit caps
      (.refuse .declined .creditProfileIneligible [.specialistReview] .none false none)

theorem ungatedExit_cases (h : ungatedExit request caps score = .ok exit) :
    UngatedExit request caps exit := by
  unfold ungatedExit at h
  by_cases horigin : request.origin.isSome = true
  · rw [if_pos horigin] at h
    cases h
    exact .accepted horigin
  have hnone : request.origin = none := by simpa using horigin
  rw [if_neg horigin] at h
  by_cases hinstant : request.requestedLimit.amountMinor ≤ caps.maxInstantlyApprovable
  · rw [if_pos hinstant] at h
    cases h
    exact .instant hnone hinstant
  rw [if_neg hinstant] at h
  by_cases hhard : caps.hardCap < request.requestedLimit.amountMinor
  · rw [if_pos hhard] at h
    by_cases hoffer : caps.current < caps.hardCap
    · rw [if_pos hoffer] at h
      cases h
      exact .aboveHardCap hnone hhard hoffer
    · rw [if_neg hoffer] at h
      cases h
      exact .atCeiling hnone hhard
  rw [if_neg hhard] at h
  unfold inquiryExit at h
  by_cases hconsent : HasConsentFor request (tierOf caps request.requestedLimit.amountMinor)
  · rw [if_pos hconsent] at h
    cases score with
    | none => cases h
    | some score =>
      cases h
      exact .inquired hnone (by omega) (by omega) hconsent score.val
  · rw [if_neg hconsent] at h
    cases h
    exact .asks hnone (by omega) (by omega) hconsent

theorem tieredExit_cases {signals : CreditSignals}
    (hgated : Gated signals caps.gate caps.retryAfter)
    (hwithin : request.requestedLimit.amountMinor ≤ caps.productMaximum)
    (h : tieredExit request caps score = .ok exit) :
    GatedExit caps exit ∨ caps.gate = none ∧ UngatedExit request caps exit := by
  unfold tieredExit at h
  rw [if_neg (by omega)] at h
  split at h
  next hgate =>
    cases h
    exact Or.inl (.coolingOff hgate)
  next hgate =>
    cases h
    exact Or.inl (.incomeUnconfirmed hgate)
  next hgate =>
    cases h
    exact Or.inl (.profileIneligible hgate)
  next hcooling hincome hprofile =>
    refine Or.inr ⟨?_, ungatedExit_cases h⟩
    generalize caps.retryAfter = date at hgated
    generalize caps.gate = gate at hgated hcooling hincome hprofile
    cases hgated with
    | coolingOff date => exact absurd rfl hcooling
    | incomeUnconfirmed => exact absurd rfl hincome
    | profileIneligible => exact absurd rfl hprofile
    | free score scored => rfl

theorem exists_tieredExit {signals : CreditSignals} (request : DecisionRequest)
    (hgated : Gated signals caps.gate caps.retryAfter) :
    ∃ exit, tieredExit request caps signals.creditScore = .ok exit := by
  unfold tieredExit
  by_cases hmaximum : caps.productMaximum < request.requestedLimit.amountMinor
  · rw [if_pos hmaximum]
    exact ⟨_, rfl⟩
  rw [if_neg hmaximum]
  generalize caps.retryAfter = date at hgated
  generalize caps.gate = gate at hgated
  cases hgated with
  | coolingOff date => exact ⟨_, rfl⟩
  | incomeUnconfirmed => exact ⟨_, rfl⟩
  | profileIneligible => exact ⟨_, rfl⟩
  | free score hscore =>
    rw [hscore]
    unfold ungatedExit inquiryExit
    dsimp only
    split_ifs <;> exact ⟨_, rfl⟩

end Exits

structure OffersSteps (nextSteps : List NextStep) (retryable : Bool) (retryAfter : Option ℕ) :
    Prop where
  nodup : nextSteps.Nodup
  size : 1 ≤ nextSteps.length ∧ nextSteps.length ≤ 4
  retry : (.retryAfterCoolingOff ∈ nextSteps ↔ retryAfter.isSome = true) ∧
    (.retryAfterCoolingOff ∈ nextSteps → retryable = true)

/-- What the validators of a receipt and of its refusal facts ask of an exit. -/
def TieredExit.Coherent (caps : TierCaps) : TieredExit → Prop
  | .refuse outcome reasonCode nextSteps inquiryType retryable retryAfter =>
    (outcome ≠ .approved ∧ outcome ≠ .counteroffer) ∧ reasonCode ∈ expectedReasons outcome ∧
      (reasonCode = .inquiryConsentRequired → inquiryType = .soft ∨ inquiryType = .hard) ∧
      OffersSteps nextSteps retryable retryAfter ∧ .acceptCounteroffer ∉ nextSteps
  | .counter offer reasonCodes lastReason nextSteps _ =>
    (caps.current < offer ∧ offer ≤ caps.productMaximum) ∧
      (.counterofferAvailable ∈ reasonCodes ∧ lastReason ∈ reasonCodes) ∧
      (∀ r ∈ reasonCodes, r ∈ expectedReasons .counteroffer) ∧
      (1 ≤ reasonCodes.length ∧ reasonCodes.length ≤ 4) ∧
      OffersSteps nextSteps false none ∧ .acceptCounteroffer ∈ nextSteps
  | .approve _ => True

section Coherence

variable {request : DecisionRequest} {signals : CreditSignals} {policy : TierPolicy}
  {caps : TierCaps} {exit : TieredExit}

theorem coherent_gated (hgated : Gated signals caps.gate caps.retryAfter)
    (h : GatedExit caps exit) : exit.Coherent caps := by
  cases h with
  | coolingOff gate =>
    rw [gate] at hgated
    generalize caps.retryAfter = date at hgated ⊢
    cases hgated
    exact ⟨by decide, by decide, by rintro ⟨⟩, ⟨by decide, by decide, by simp⟩, by decide⟩
  | incomeUnconfirmed gate =>
    exact ⟨by decide, by decide, by rintro ⟨⟩, ⟨by decide, by decide, by decide⟩, by decide⟩
  | profileIneligible gate =>
    exact ⟨by decide, by decide, by rintro ⟨⟩, ⟨by decide, by decide, by decide⟩, by decide⟩

theorem coherent_consentSteps (tier : ConsentedInquiryType) :
    OffersSteps (consentSteps caps tier) false none ∧
      .acceptCounteroffer ∉ consentSteps caps tier := by
  cases tier
  · unfold consentSteps
    dsimp only
    split
    · exact ⟨⟨by decide, by decide, by decide⟩, by decide⟩
    · exact ⟨⟨by decide, by decide, by decide⟩, by decide⟩
  · unfold consentSteps
    dsimp only
    split
    · exact ⟨⟨by decide, by decide, by decide⟩, by decide⟩
    · exact ⟨⟨by decide, by decide, by decide⟩, by decide⟩

theorem coherent_bureau (hordered : caps.Ordered) (score : ℤ) (tier : ConsentedInquiryType) :
    (bureauExit caps score tier).Coherent caps := by
  obtain ⟨hinstant, hsoft, hhard, hmaximum⟩ := hordered
  have hsteps : OffersSteps [.acceptCounteroffer, .specialistReview] false none :=
    ⟨by decide, by decide, by decide⟩
  have hreview : OffersSteps [.specialistReview] false none := ⟨by decide, by decide, by decide⟩
  cases tier
  · unfold bureauExit
    dsimp only
    split
    · exact trivial
    split
    next hoffer =>
      exact ⟨⟨hoffer, by omega⟩, by decide, by decide, by decide, hsteps, by decide⟩
    · exact ⟨by decide, by decide, fun _ => Or.inl rfl, hreview, by decide⟩
  · unfold bureauExit
    dsimp only
    split
    · exact trivial
    split
    next hoffer =>
      exact ⟨⟨hoffer.2, by omega⟩, by decide, by decide, by decide, hsteps, by decide⟩
    · exact ⟨by decide, by decide, fun _ => Or.inr rfl, hreview, by decide⟩

theorem coherent_ungated (hordered : caps.Ordered) (h : UngatedExit request caps exit) :
    exit.Coherent caps := by
  cases h with
  | accepted given => exact trivial
  | instant given within => exact trivial
  | aboveHardCap given above offered =>
    exact ⟨⟨offered, hordered.maximum⟩, by decide, by decide, by decide,
      ⟨by decide, by decide, by decide⟩, by decide⟩
  | atCeiling given above =>
    exact ⟨by decide, by decide, by rintro ⟨⟩, ⟨by decide, by decide, by decide⟩, by decide⟩
  | asks given above within unconsented =>
    refine ⟨by decide, by decide, fun _ => ?_, coherent_consentSteps _⟩
    cases tierOf caps request.requestedLimit.amountMinor
    · exact Or.inl rfl
    · exact Or.inr rfl
  | inquired given above within consented score => exact coherent_bureau hordered score _

theorem decisionMoney_of_range {amount : ℤ} (h : InRange amount) (currency : CurrencyCode) :
    decisionMoney amount currency = .ok ⟨amount, currency, h⟩ := dif_pos h

theorem exists_refusalFacts (hgrant : Granted request.facts signals policy caps)
    (htrimmed : signals.productName.val = strip signals.productName.val) (reasonCode : Reason)
    {nextSteps : List NextStep} {retryable : Bool} {retryAfter : Option ℕ}
    (hsteps : OffersSteps nextSteps retryable retryAfter) :
    ∃ refusal, refusalFacts request.facts signals caps reasonCode nextSteps retryable retryAfter =
      .ok refusal ∧ refusal.val.reasonCode = reasonCode ∧ refusal.val.nextSteps = nextSteps ∧
      refusal.val.currentLimit.amountMinor = caps.current ∧
      refusal.val.productMaximum.amountMinor = caps.productMaximum ∧
      ∀ m ∈ refusal.val.limits, m.currencyCode = .usd := by
  obtain ⟨hpositive, hchain⟩ := hgrant.quotable
  obtain ⟨hinstant, hsoft, hhard, hmaximum⟩ := hgrant.ordered
  have hlimit : caps.productMaximum ≤ MAX_MINOR := by
    rw [hgrant.maximum]
    exact request.facts.maximumLimitMinor.property.2
  have hrange : ∀ amount, caps.current ≤ amount → amount ≤ caps.productMaximum →
      InRange amount := by
    intro amount hlow hhigh
    unfold InRange MAX_MINOR at *
    omega
  have hcurrent := hrange caps.current le_rfl (by omega)
  have htop := hrange caps.productMaximum (by omega) le_rfl
  have hinst := hrange caps.maxInstantlyApprovable hinstant (by omega)
  have hcap := hrange caps.softCap (by omega) (by omega)
  let fields : RefusalFields :=
    { reasonCode, retryable, currentLimit := ⟨caps.current, .usd, hcurrent⟩
      productMaximum := ⟨caps.productMaximum, .usd, htop⟩
      maxInstantlyApprovable := ⟨caps.maxInstantlyApprovable, .usd, hinst⟩
      softTierCap := ⟨caps.softCap, .usd, hcap⟩
      productName := signals.productName.val, nextSteps, retryAfter }
  have hcheck : fields.check = .ok () := by
    simp only [RefusalFields.check, RefusalFields.coherentFacts, bind_eq_ok, require_eq_ok,
      exists_const]
    refine ⟨signals.productName.property, hsteps.size, htrimmed, hsteps.nodup, hsteps.retry, ?_,
      hpositive, hchain⟩
    simp [fields, RefusalFields.limits]
  refine ⟨⟨fields, hcheck⟩, ?_, rfl, rfl, rfl, rfl, ?_⟩
  · simp only [refusalFacts, CheckedDecisionFacts.currencyCode, decisionMoney_of_range, hcurrent,
      htop, hinst, hcap, ok_bind, validate_eq_ok]
    rfl
  · simp [fields, RefusalFields.limits]

theorem isIdentifier_str (u : Uuid) : isIdentifier 128 u.str.toList = true := by
  have hdigit : ∀ d : Fin 16, isIdentifierChar (Uuid.hexDigit d) = true := by decide
  have hall : u.str.toList.all isIdentifierChar = true := by
    rw [List.all_eq_true]
    intro c hc
    by_cases hyphen : c = '-'
    · rw [hyphen]
      decide
    · have hmem : c ∈ (u.digits.map Uuid.hexDigit).filter (fun a => a ≠ '-') := by
        rw [← Uuid.filter_grouped]
        exact List.mem_filter.mpr ⟨by simpa [Uuid.str] using hc, by simpa using hyphen⟩
      obtain ⟨d, -, rfl⟩ := List.mem_map.mp (List.mem_filter.mp hmem).1
      exact hdigit d
  unfold isIdentifier
  rw [Uuid.length_str, hall]
  decide

/-- The receipt that `_decision` builds, when its expiry can be told. -/
theorem decision_eq_ok {p : DemoDecisioningProvider} {evaluated : Timestamp} {outcome : Outcome}
    {approved : Option Money} {reasons : List Reason} {inquiryType : Option InquiryType}
    {counteroffer : Option Counteroffer} {refusal : Option RefusalFacts} {d : BankDecision} :
    p.decision request evaluated outcome approved reasons inquiryType counteroffer refusal = .ok d ↔
      ∃ expires, plus evaluated (p.currentPolicy.approvalTtlSeconds.val * second) = .ok expires ∧
        d.val = p.fields request evaluated expires outcome approved reasons inquiryType
          counteroffer refusal := by
  simp only [DemoDecisioningProvider.decision, bind_eq_ok, validate_eq_ok]

theorem expires_after {p : DemoDecisioningProvider} {evaluated expires : Timestamp}
    (h : plus evaluated (p.currentPolicy.approvalTtlSeconds.val * second) = .ok expires) :
    evaluated < expires := by
  have httl := p.currentPolicy.approvalTtlSeconds.property.1
  obtain ⟨hsum, -⟩ := plus_eq_ok.mp h
  have hsecond : (second : ℤ) = 1000000 := rfl
  rw [hsecond] at hsum
  apply Int.ofNat_lt.mp
  omega

theorem coherentRefusal_eq_ok {outcome : Outcome} {reasons : List Reason} {r : RefusalFields} :
    DecisionFields.coherentRefusal outcome reasons r = .ok () ↔
      outcome ≠ .approved ∧ r.reasonCode ∈ reasons ∧
        (.acceptCounteroffer ∈ r.nextSteps ↔ outcome = .counteroffer) := by
  simp only [DecisionFields.coherentRefusal, bind_eq_ok, require_eq_ok, exists_const]

theorem coherentOutcome_eq_ok {p : DemoDecisioningProvider} {evaluated expires : Timestamp}
    {outcome : Outcome} {approved : Option Money} {reasons : List Reason}
    {inquiryType : Option InquiryType} {counteroffer : Option Counteroffer}
    {refusal : Option RefusalFacts} :
    (p.fields request evaluated expires outcome approved reasons inquiryType counteroffer
      refusal).coherentOutcome = .ok () ↔
    ((outcome = .approved ∨ outcome = .counteroffer) ↔ approved.isSome = true) ∧
    (∀ r ∈ reasons, r ∈ expectedReasons outcome) ∧ evaluated < expires ∧
    (outcome = .counteroffer → .counterofferAvailable ∈ reasons ∧
      counteroffer.isSome = true ∧ refusal.isSome = true ∧ inquiryType.isSome = true) ∧
    (outcome ≠ .counteroffer → counteroffer = none) ∧
    (.inquiryConsentRequired ∈ reasons → inquiryType = some .soft ∨ inquiryType = some .hard) ∧
    ∀ r ∈ refusal, outcome ≠ .approved ∧ r.val.reasonCode ∈ reasons ∧
      (.acceptCounteroffer ∈ r.val.nextSteps ↔ outcome = .counteroffer) := by
  unfold DecisionFields.coherentOutcome
  cases refusal with
  | none =>
    simp only [bind_eq_ok, require_eq_ok, exists_const]
    simp [DemoDecisioningProvider.fields]
  | some refusal =>
    simp only [bind_eq_ok, require_eq_ok, exists_const]
    simp [DemoDecisioningProvider.fields, coherentRefusal_eq_ok]

theorem exists_decision {p : DemoDecisioningProvider} {evaluated expires : Timestamp}
    (hexpires : plus evaluated (p.currentPolicy.approvalTtlSeconds.val * second) = .ok expires)
    {outcome : Outcome} {approved : Option Money} {reasons : List Reason}
    {inquiryType : Option InquiryType} {counteroffer : Option Counteroffer}
    {refusal : Option RefusalFacts} (hsize : 1 ≤ reasons.length ∧ reasons.length ≤ 4)
    (hcoherent : (p.fields request evaluated expires outcome approved reasons inquiryType
      counteroffer refusal).coherentOutcome = .ok ()) :
    ∃ d, p.decision request evaluated outcome approved reasons inquiryType counteroffer refusal =
      .ok d := by
  have hcheck : (p.fields request evaluated expires outcome approved reasons inquiryType
      counteroffer refusal).check = .ok () := by
    simp only [DecisionFields.check, bind_eq_ok, require_eq_ok, exists_const]
    refine ⟨isIdentifier_str _, p.currentPolicy.providerId.property, hsize, ?_, ?_, hcoherent⟩
    · cases hconsent : request.inquiryConsent with
      | none => simp [DemoDecisioningProvider.fields, DecisionFields.evidenceOf, hconsent]
      | some consent => simp [DemoDecisioningProvider.fields, DecisionFields.evidenceOf, hconsent]
    · intro v hv
      simp only [DemoDecisioningProvider.fields, DecisionFields.evidenceOf, List.mem_cons,
        Option.mem_toList, Option.map_eq_some_iff] at hv
      rcases hv with rfl | ⟨consent, -, rfl⟩
      · exact request.inputRef.property
      · exact consent.consentRef.property
  exact ⟨⟨_, hcheck⟩, decision_eq_ok.mpr ⟨expires, hexpires, rfl⟩⟩

theorem exists_receipt {p : DemoDecisioningProvider} {evaluated expires : Timestamp}
    (hgrant : Granted request.facts signals policy caps)
    (htrimmed : signals.productName.val = strip signals.productName.val)
    (hexpires : plus evaluated (p.currentPolicy.approvalTtlSeconds.val * second) = .ok expires)
    (hcoherent : exit.Coherent caps) :
    ∃ d, p.receipt request signals caps evaluated exit = .ok d := by
  have hfresh := expires_after hexpires
  cases exit with
  | refuse outcome reasonCode nextSteps inquiryType retryable retryAfter =>
    obtain ⟨⟨hnot, hno⟩, hreason, hasks, hsteps, haccept⟩ := hcoherent
    obtain ⟨refusal, hrefusal, hcode, hnext, -⟩ :=
      exists_refusalFacts hgrant htrimmed reasonCode hsteps
    simp only [DemoDecisioningProvider.receipt, hrefusal, ok_bind]
    apply exists_decision hexpires (by simp)
    rw [coherentOutcome_eq_ok]
    refine ⟨by simp [hnot, hno], by simpa using hreason, hfresh, fun h => absurd h hno,
      fun _ => rfl, ?_, ?_⟩
    · intro h
      rw [List.mem_singleton] at h
      simpa using hasks h.symm
    · intro r hr
      cases hr
      rw [hcode, hnext]
      simp [haccept, hno, hnot]
  | counter offer reasonCodes lastReason nextSteps inquiryType =>
    obtain ⟨⟨hlow, hhigh⟩, ⟨hoffered, hlast⟩, hreasons, hsize, hsteps, haccept⟩ := hcoherent
    obtain ⟨refusal, hrefusal, hcode, hnext, -⟩ :=
      exists_refusalFacts hgrant htrimmed lastReason hsteps
    have hrange : InRange offer := by
      have hcurrent := request.facts.currentLimitMinor.property.1
      have hlimit := request.facts.maximumLimitMinor.property.2
      rw [hgrant.current] at hlow
      rw [hgrant.maximum] at hhigh
      unfold InRange MAX_MINOR at *
      omega
    simp only [DemoDecisioningProvider.receipt, hrefusal, ok_bind, decisionMoney_of_range hrange]
    apply exists_decision hexpires hsize
    rw [coherentOutcome_eq_ok]
    refine ⟨by simp, hreasons, hfresh, fun _ => ⟨hoffered, rfl, rfl, rfl⟩, fun h => absurd rfl h,
      ?_, ?_⟩
    · intro hasks
      have hcounter := hreasons _ hasks
      simp [expectedReasons] at hcounter
    · intro r hr
      cases hr
      rw [hcode, hnext]
      exact ⟨by simp, hlast, by simp [haccept]⟩
  | approve inquiryType =>
    simp only [DemoDecisioningProvider.receipt]
    apply exists_decision hexpires (by simp)
    rw [coherentOutcome_eq_ok]
    exact ⟨by simp, by simp [expectedReasons], hfresh, by simp, by simp, by simp, by simp⟩

end Coherence

end BankingService.Decisioning
