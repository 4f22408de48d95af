import BankingService.TieredDecisions

/-! A customer and the bank settle on a limit: each consent that is asked for is given, each offer
is taken, and every decision is made on the same caps. -/
namespace BankingService.Decisioning

open Python Checked

variable {p : DemoDecisioningProvider} {signals : CreditSignals} {policy : TierPolicy}
  {caps : TierCaps} {request : DecisionRequest} {d : BankDecision}

def DecisionFields.bindingRef (d : DecisionFields) : String := d.providerId ++ ":" ++ d.decisionId

/-- Refusal facts quote the account. -/
def Quotes (request : DecisionRequest) (refusal : RefusalFacts) : Prop :=
  (refusal.val.currentLimit.amountMinor = request.facts.currentLimitMinor.val ∧
    refusal.val.currentLimit.currencyCode = .usd) ∧
  refusal.val.productMaximum.amountMinor = request.facts.maximumLimitMinor.val ∧
    refusal.val.productMaximum.currencyCode = .usd

inductive ReceiptOf (p : DemoDecisioningProvider) (request : DecisionRequest)
    (evaluated expires : Timestamp) : TieredExit → DecisionFields → Prop where
  | refused {outcome : Outcome} {reasonCode : Reason} {nextSteps : List NextStep}
      {inquiryType : InquiryType} {retryable : Bool} {retryAfter : Option ℕ}
      (refusal : RefusalFacts) (quotes : Quotes request refusal) :
      ReceiptOf p request evaluated expires
        (.refuse outcome reasonCode nextSteps inquiryType retryable retryAfter)
        (p.fields request evaluated expires outcome none [reasonCode] (some inquiryType) none
          (some refusal))
  | countered {offer : ℤ} {reasonCodes : List Reason} {lastReason : Reason}
      {nextSteps : List NextStep} {inquiryType : InquiryType} (approved : Money)
      (amount : approved.amountMinor = offer) (currency : approved.currencyCode = .usd)
      (refusal : RefusalFacts) (quotes : Quotes request refusal) :
      ReceiptOf p request evaluated expires
        (.counter offer reasonCodes lastReason nextSteps inquiryType)
        (p.fields request evaluated expires .counteroffer (some approved) reasonCodes
          (some inquiryType) (some ⟨request.requestRef, request.requestedLimit⟩) (some refusal))
  | approved {inquiryType : InquiryType} :
      ReceiptOf p request evaluated expires (.approve inquiryType)
        (p.fields request evaluated expires .approved (some request.requestedLimit)
          [.approvedByPolicy] (some inquiryType) none none)

theorem decisionMoney_eq_ok {amount : ℤ} {currency : CurrencyCode} {m : Money} :
    decisionMoney amount currency = .ok m ↔ m.amountMinor = amount ∧ m.currencyCode = currency := by
  unfold decisionMoney
  split
  next h =>
    cases m
    simp [eq_comm]
  next h =>
    constructor
    · intro hm
      cases hm
    · rintro ⟨rfl, -⟩
      exact absurd m.in_range h

theorem quotes_of_refusalFacts (hcurrent : caps.current = request.facts.currentLimitMinor.val)
    (hmaximum : caps.productMaximum = request.facts.maximumLimitMinor.val) {reasonCode : Reason}
    {nextSteps : List NextStep} {retryable : Bool} {retryAfter : Option ℕ} {refusal : RefusalFacts}
    (h : refusalFacts request.facts signals caps reasonCode nextSteps retryable retryAfter =
      .ok refusal) : Quotes request refusal := by
  simp only [refusalFacts, CheckedDecisionFacts.currencyCode, bind_eq_ok, decisionMoney_eq_ok,
    validate_eq_ok] at h
  obtain ⟨current, ⟨hc, hcur⟩, maximum, ⟨hm, hmcur⟩, instant, -, soft, -, hfields⟩ := h
  unfold Quotes
  rw [hfields]
  exact ⟨⟨hc.trans hcurrent, hcur⟩, hm.trans hmaximum, hmcur⟩

theorem receiptOf_of_ok (hcurrent : caps.current = request.facts.currentLimitMinor.val)
    (hmaximum : caps.productMaximum = request.facts.maximumLimitMinor.val)
    {evaluated : Timestamp} {exit : TieredExit}
    (h : p.receipt request signals caps evaluated exit = .ok d) :
    ∃ expires, plus evaluated (p.currentPolicy.approvalTtlSeconds.val * second) = .ok expires ∧
      ReceiptOf p request evaluated expires exit d.val := by
  cases exit with
  | refuse outcome reasonCode nextSteps inquiryType retryable retryAfter =>
    simp only [DemoDecisioningProvider.receipt, bind_eq_ok, decision_eq_ok] at h
    obtain ⟨refusal, hrefusal, expires, hexpires, hd⟩ := h
    rw [hd]
    exact ⟨expires, hexpires, .refused refusal (quotes_of_refusalFacts hcurrent hmaximum hrefusal)⟩
  | counter offer reasonCodes lastReason nextSteps inquiryType =>
    simp only [DemoDecisioningProvider.receipt, bind_eq_ok, decision_eq_ok,
      decisionMoney_eq_ok] at h
    obtain ⟨approved, ⟨hoffer, hcurrency⟩, refusal, hrefusal, expires, hexpires, hd⟩ := h
    rw [hd]
    exact ⟨expires, hexpires, .countered approved hoffer hcurrency refusal
      (quotes_of_refusalFacts hcurrent hmaximum hrefusal)⟩
  | approve inquiryType =>
    simp only [DemoDecisioningProvider.receipt, decision_eq_ok] at h
    obtain ⟨expires, hexpires, hd⟩ := h
    rw [hd]
    exact ⟨expires, hexpires, .approved⟩

/-- A request evaluated on these caps by the standard provider. -/
structure Decided (p : DemoDecisioningProvider) (signals : CreditSignals) (caps : TierCaps)
    (request : DecisionRequest) (clock : DecisionClock) : Prop where
  standard : p.scenario = .standard
  capped : tierCaps request.facts signals (p.tierConfig.policyFor request.facts.productCode.val)
    clock.capsAt = .ok caps

structure DecidedAs (p : DemoDecisioningProvider) (signals : CreditSignals) (caps : TierCaps)
    (request : DecisionRequest) (evaluated : Timestamp) (d : DecisionFields) : Prop where
  eligible : Eligible request
  bound : request.signalsRef = some (p.signalsRef signals)
  granted : Granted request.facts signals
    (p.tierConfig.policyFor request.facts.productCode.val) caps
  exit : ∃ exit expires, (GatedExit caps exit ∨ caps.gate = none ∧ UngatedExit request caps exit) ∧
    plus evaluated (p.currentPolicy.approvalTtlSeconds.val * second) = .ok expires ∧
    ReceiptOf p request evaluated expires exit d

theorem granted_of_eligible {clock : DecisionClock}
    (hdecided : Decided p signals caps request clock)
    (he : Eligible request) : Granted request.facts signals
      (p.tierConfig.policyFor request.facts.productCode.val) caps := by
  have hincrease := he.increase
  have hwithin := he.within
  exact granted_of_ok (by omega) hdecided.capped

theorem decidedAs_of_ok {clock : DecisionClock} (hdecided : Decided p signals caps request clock)
    (h : p.evaluate request (some signals) clock = .ok d) :
    DecidedAs p signals caps request clock.evaluatedAt d.val := by
  unfold DemoDecisioningProvider.evaluate at h
  simp only [bind_eq_ok, require_eq_ok, exists_const] at h
  obtain ⟨hguards, h⟩ := h
  rw [hdecided.standard] at h
  simp only [DemoDecisioningProvider.evaluateTiered, bind_eq_ok, require_eq_ok, exists_const,
    hdecided.capped, Except.ok.injEq, exists_eq_left'] at h
  obtain ⟨hbound, exit, hexit, hreceipt⟩ := h
  have he := eligible_iff.mp hguards
  have hgrant := granted_of_eligible hdecided he
  have hwithin : request.requestedLimit.amountMinor ≤ caps.productMaximum := by
    rw [hgrant.maximum]
    exact he.within
  obtain ⟨expires, hexpires, hof⟩ := receiptOf_of_ok hgrant.current hgrant.maximum hreceipt
  exact ⟨he, hbound, hgrant, exit, expires, tieredExit_cases hgrant.gated hwithin hexit,
    hexpires, hof⟩

theorem exists_evaluate {clock : DecisionClock} {expires : Timestamp}
    (hdecided : Decided p signals caps request clock)
    (he : Eligible request) (hbound : request.signalsRef = some (p.signalsRef signals))
    (htrimmed : signals.productName.val = strip signals.productName.val)
    (hexpires : plus clock.evaluatedAt (p.currentPolicy.approvalTtlSeconds.val * second) =
      .ok expires) : ∃ d, p.evaluate request (some signals) clock = .ok d := by
  have hgrant := granted_of_eligible hdecided he
  obtain ⟨exit, hexit⟩ := exists_tieredExit request hgrant.gated
  have hcoherent : exit.Coherent caps := by
    have hwithin : request.requestedLimit.amountMinor ≤ caps.productMaximum := by
      rw [hgrant.maximum]
      exact he.within
    rcases tieredExit_cases hgrant.gated hwithin hexit with h | ⟨-, h⟩
    · exact coherent_gated hgrant.gated h
    · exact coherent_ungated hgrant.ordered h
  obtain ⟨d, hd⟩ := exists_receipt hgrant htrimmed hexpires hcoherent
  refine ⟨d, ?_⟩
  unfold DemoDecisioningProvider.evaluate
  rw [require_of (eligible_iff.mpr he), ok_bind, hdecided.standard]
  dsimp only
  unfold DemoDecisioningProvider.evaluateTiered
  rw [require_of hbound, ok_bind, hdecided.capped, ok_bind, hexit, ok_bind, hd]

/-- What the customer's confirmation of a decision turns the request into. A counteroffer made
after an inquiry is taken up with its origin; one made without is asked for anew. -/
inductive Continues (config : CreditLimitTierConfig) (request : DecisionRequest)
    (d : DecisionFields) : DecisionRequest → Prop where
  | consented (consent : InquiryConsent) (asked : .inquiryConsentRequired ∈ d.reasonCodes)
      (tier : d.inquiryType = some consent.inquiryType.inquiryType)
      (disclosed : consent.disclosureVersion.val =
        (config.policyFor request.facts.productCode.val).disclosures.get consent.inquiryType) :
      Continues config request d { request with inquiryConsent := some consent }
  | accepted (next : DecisionRequest) (offered : d.outcome = .counteroffer)
      (inquired : request.inquiryConsent.isSome = true) (facts : next.facts = request.facts)
      (signals : next.signalsRef = request.signalsRef) (scope : next.scopeRef = request.scopeRef)
      (amount : d.approvedLimit = some next.requestedLimit)
      (unconsented : next.inquiryConsent = none)
      (origin : ∃ o ∈ next.origin, o.originRequestRef = request.requestRef ∧
        o.originDecisionRef.val = d.bindingRef ∧ o.originRequestedLimit = request.requestedLimit) :
      Continues config request d next
  | askedAnew (next : DecisionRequest) (offered : d.outcome = .counteroffer)
      (uninquired : request.inquiryConsent = none) (facts : next.facts = request.facts)
      (signals : next.signalsRef = request.signalsRef)
      (amount : d.approvedLimit = some next.requestedLimit)
      (unconsented : next.inquiryConsent = none)
      (original : next.origin = none) : Continues config request d next

structure Round where
  request : DecisionRequest
  clock : DecisionClock
  decision : BankDecision

/-- Rounds of evaluation on the same caps, each request the customer's answer to the decision
before it. -/
def Negotiation (p : DemoDecisioningProvider) (signals : CreditSignals) (caps : TierCaps) :
    DecisionRequest → List Round → Prop
  | _, [] => True
  | request, x :: rounds => x.request = request ∧ Decided p signals caps request x.clock ∧
      p.evaluate request (some signals) x.clock = .ok x.decision ∧
      ∀ y ∈ rounds.head?, Continues p.tierConfig request x.decision.val y.request ∧
        Negotiation p signals caps y.request rounds

/-- The consent a request of a negotiation carries is for the tier of its amount, above what is
granted without one and within what may be granted at all. -/
structure Consented (config : CreditLimitTierConfig) (caps : TierCaps) (request : DecisionRequest)
    (consent : InquiryConsent) : Prop where
  original : request.origin = none
  tier : HasConsentFor request (tierOf caps request.requestedLimit.amountMinor)
  above : caps.maxInstantlyApprovable < request.requestedLimit.amountMinor
  within : request.requestedLimit.amountMinor ≤ caps.hardCap
  ungated : caps.gate = none
  disclosed : consent.disclosureVersion.val =
    (config.policyFor request.facts.productCode.val).disclosures.get consent.inquiryType

structure Sound (config : CreditLimitTierConfig) (caps : TierCaps) (request : DecisionRequest) :
    Prop where
  consented : ∀ consent ∈ request.inquiryConsent, Consented config caps request consent
  offered : request.origin.isSome = true → request.requestedLimit.amountMinor ≤ caps.hardCap

/-- How many more decisions a request can lead to. -/
def rank (caps : TierCaps) (request : DecisionRequest) : ℕ :=
  if request.origin.isSome = true then 0
  else if request.inquiryConsent.isSome = true then 1
  else if request.requestedLimit.amountMinor ≤ caps.hardCap then 2
  else 3

theorem rank_le_three (caps : TierCaps) (request : DecisionRequest) : rank caps request ≤ 3 := by
  unfold rank
  split_ifs <;> omega

section Steps

variable {evaluated : Timestamp} {next : DecisionRequest}

theorem inquiryType_injective : Function.Injective ConsentedInquiryType.inquiryType := by
  intro a b h
  cases a <;> cases b <;> first | rfl | cases h

inductive Offer (request : DecisionRequest) (caps : TierCaps) (offer : ℤ) : Prop where
  | aboveHardCap (original : request.origin = none)
      (above : caps.hardCap < request.requestedLimit.amountMinor) (amount : offer = caps.hardCap)
  | inquired (original : request.origin = none)
      (tier : HasConsentFor request (tierOf caps request.requestedLimit.amountMinor))
      (below : offer < request.requestedLimit.amountMinor) (within : offer ≤ caps.hardCap)

theorem offer_of_counter (hordered : caps.Ordered) {offer : ℤ} {reasonCodes : List Reason}
    {lastReason : Reason} {nextSteps : List NextStep} {inquiryType : InquiryType}
    (h : UngatedExit request caps (.counter offer reasonCodes lastReason nextSteps inquiryType)) :
    Offer request caps offer := by
  obtain ⟨hinstant, hsoft, hhard, hmaximum⟩ := hordered
  generalize hexit : TieredExit.counter offer reasonCodes lastReason nextSteps inquiryType = exit
    at h
  cases h with
  | accepted => cases hexit
  | instant => cases hexit
  | aboveHardCap original above offered =>
    cases hexit
    exact .aboveHardCap original above rfl
  | atCeiling => cases hexit
  | asks => cases hexit
  | inquired original above within consented score =>
    have htier := consented
    revert hexit
    unfold tierOf
    by_cases hcap : request.requestedLimit.amountMinor ≤ caps.softCap
    · rw [if_pos hcap]
      unfold bureauExit
      dsimp only
      split_ifs
      · intro hexit
        cases hexit
      · intro hexit
        cases hexit
        exact .inquired original htier above (by omega)
      · intro hexit
        cases hexit
    · rw [if_neg hcap]
      unfold bureauExit
      dsimp only
      split_ifs
      · intro hexit
        cases hexit
      · intro hexit
        cases hexit
        exact .inquired original htier (by omega) (by omega)
      · intro hexit
        cases hexit

theorem asks_of_reason {outcome : Outcome} {nextSteps : List NextStep} {inquiryType : InquiryType}
    {retryable : Bool} {retryAfter : Option ℕ}
    (h : UngatedExit request caps
      (.refuse outcome .inquiryConsentRequired nextSteps inquiryType retryable retryAfter)) :
    (request.origin = none ∧ caps.maxInstantlyApprovable < request.requestedLimit.amountMinor ∧
      request.requestedLimit.amountMinor ≤ caps.hardCap) ∧
    ¬ HasConsentFor request (tierOf caps request.requestedLimit.amountMinor) ∧
    inquiryType = (tierOf caps request.requestedLimit.amountMinor).inquiryType := by
  generalize hexit : TieredExit.refuse outcome .inquiryConsentRequired nextSteps inquiryType
    retryable retryAfter = exit at h
  cases h with
  | accepted => cases hexit
  | instant => cases hexit
  | aboveHardCap => cases hexit
  | atCeiling => cases hexit
  | asks original above within unconsented =>
    cases hexit
    exact ⟨⟨original, above, within⟩, unconsented, rfl⟩
  | inquired original above within consented score =>
    revert hexit
    cases tierOf caps request.requestedLimit.amountMinor
    · unfold bureauExit
      dsimp only
      split_ifs
      all_goals
        intro hexit
        cases hexit
    · unfold bureauExit
      dsimp only
      split_ifs
      all_goals
        intro hexit
        cases hexit

theorem asked_cases {d : DecisionFields} (hd : DecidedAs p signals caps request evaluated d)
    (hasks : .inquiryConsentRequired ∈ d.reasonCodes) : caps.gate = none ∧
    (request.origin = none ∧ caps.maxInstantlyApprovable < request.requestedLimit.amountMinor ∧
      request.requestedLimit.amountMinor ≤ caps.hardCap) ∧
    ¬ HasConsentFor request (tierOf caps request.requestedLimit.amountMinor) ∧
    d.inquiryType = some (tierOf caps request.requestedLimit.amountMinor).inquiryType := by
  obtain ⟨exit, expires, hexit, -, hof⟩ := hd.exit
  cases hof with
  | refused refusal quotes =>
    have hreason := List.mem_singleton.mp hasks
    subst hreason
    rcases hexit with hgated | ⟨hgate, hungated⟩
    · cases hgated
    · obtain ⟨hamount, hunconsented, htype⟩ := asks_of_reason hungated
      exact ⟨hgate, hamount, hunconsented, by rw [htype]; rfl⟩
  | countered approved amount currency refusal quotes =>
    rcases hexit with hgated | ⟨hgate, hungated⟩
    · cases hgated
    · obtain ⟨-, -, hreasons, -⟩ := coherent_ungated hd.granted.ordered hungated
      have hexpected := hreasons _ hasks
      simp [expectedReasons] at hexpected
  | approved => exact absurd (List.mem_singleton.mp hasks) (by decide)

theorem offer_of_counteroffer {d : DecisionFields}
    (hd : DecidedAs p signals caps request evaluated d) (hcounter : d.outcome = .counteroffer) :
    caps.gate = none ∧ ∃ approved, d.approvedLimit = some approved ∧
      approved.currencyCode = .usd ∧ Offer request caps approved.amountMinor ∧
      caps.current < approved.amountMinor := by
  obtain ⟨exit, expires, hexit, -, hof⟩ := hd.exit
  cases hof with
  | @refused outcome _ _ _ _ _ refusal quotes =>
    change outcome = .counteroffer at hcounter
    rcases hexit with hgated | ⟨-, hungated⟩
    · obtain ⟨⟨-, hne⟩, -⟩ := coherent_gated hd.granted.gated hgated
      exact absurd hcounter hne
    · obtain ⟨⟨-, hne⟩, -⟩ := coherent_ungated hd.granted.ordered hungated
      exact absurd hcounter hne
  | countered approved amount currency refusal quotes =>
    rcases hexit with hgated | ⟨hgate, hungated⟩
    · cases hgated
    · obtain ⟨⟨hlow, -⟩, -⟩ := coherent_ungated hd.granted.ordered hungated
      have hoffer := offer_of_counter hd.granted.ordered hungated
      rw [← amount] at hlow hoffer
      exact ⟨hgate, approved, rfl, currency, hoffer, hlow⟩
  | approved => cases hcounter

theorem Offer.lowers {offer : ℤ} (h : Offer request caps offer) :
    request.origin = none ∧ offer < request.requestedLimit.amountMinor ∧ offer ≤ caps.hardCap := by
  cases h with
  | aboveHardCap original above amount => exact ⟨original, by omega, by omega⟩
  | inquired original tier below within => exact ⟨original, below, within⟩

theorem rank_of_consent (horiginal : request.origin = none)
    (hconsent : request.inquiryConsent.isSome = true) : rank caps request = 1 := by
  unfold rank
  rw [if_neg (by simp [horiginal]), if_pos hconsent]

/-- What a step of a negotiation keeps, and that it comes closer to the end. -/
structure Advances (config : CreditLimitTierConfig) (caps : TierCaps)
    (request next : DecisionRequest) : Prop where
  sound : Sound config caps next
  closer : rank caps next < rank caps request
  lower : next.requestedLimit.amountMinor ≤ request.requestedLimit.amountMinor
  raises : caps.current < next.requestedLimit.amountMinor
  currency : next.requestedLimit.currencyCode = .usd
  facts : next.facts = request.facts
  signals : next.signalsRef = request.signalsRef

theorem advances {d : DecisionFields} (hd : DecidedAs p signals caps request evaluated d)
    (hsound : Sound p.tierConfig caps request) (h : Continues p.tierConfig request d next) :
    Advances p.tierConfig caps request next := by
  cases h with
  | consented consent asked tier disclosed =>
    obtain ⟨hgate, ⟨horiginal, habove, hwithin⟩, hnone, htype⟩ := asked_cases hd asked
    have hsame : consent.inquiryType = tierOf caps request.requestedLimit.amountMinor := by
      apply inquiryType_injective
      rw [tier] at htype
      exact Option.some.inj htype
    have huninquired : request.inquiryConsent = none := by
      by_contra hsome
      obtain ⟨given, hgiven⟩ := Option.ne_none_iff_exists'.mp hsome
      exact hnone (hsound.consented given hgiven).tier
    constructor
    · constructor
      · intro given hgiven
        cases hgiven
        exact ⟨horiginal, congrArg some hsame, habove, hwithin, hgate, disclosed⟩
      · intro horigin
        exact hwithin
    · have hone : rank caps { request with inquiryConsent := some consent } = 1 :=
        rank_of_consent horiginal rfl
      rw [hone]
      unfold rank
      rw [if_neg (by simp [horiginal]), if_neg (by simp [huninquired]), if_pos hwithin]
      omega
    · exact le_rfl
    · rw [hd.granted.current]
      exact hd.eligible.increase
    · exact hd.eligible.currency
    · rfl
    · rfl
  | accepted _ offered inquired facts signals scope amount unconsented origin =>
    obtain ⟨-, approved, happroved, hcurrency, hoffer, hlow⟩ := offer_of_counteroffer hd offered
    rw [happroved] at amount
    cases Option.some.inj amount
    obtain ⟨horiginal, hbelow, hwithin⟩ := hoffer.lowers
    obtain ⟨o, ho, -⟩ := origin
    have hsome : next.origin.isSome = true := by simp [Option.mem_def.mp ho]
    constructor
    · constructor
      · intro given hgiven
        rw [unconsented] at hgiven
        cases hgiven
      · intro _
        exact hwithin
    · rw [rank_of_consent horiginal inquired]
      unfold rank
      rw [if_pos hsome]
      omega
    · exact hbelow.le
    · exact hlow
    · exact hcurrency
    · exact facts
    · exact signals
  | askedAnew _ offered uninquired facts signals amount unconsented original =>
    obtain ⟨-, approved, happroved, hcurrency, hoffer, hlow⟩ := offer_of_counteroffer hd offered
    rw [happroved] at amount
    cases Option.some.inj amount
    have hlowers := hoffer.lowers
    constructor
    · constructor
      · intro given hgiven
        rw [unconsented] at hgiven
        cases hgiven
      · intro horigin
        rw [original] at horigin
        cases horigin
    · cases hoffer with
      | aboveHardCap original' above within =>
        unfold rank
        rw [if_neg (by simp [original]), if_neg (by simp [unconsented]), if_pos (by omega),
          if_neg (by simp [original']), if_neg (by simp [uninquired]), if_neg (by omega)]
        omega
      | inquired original' tier below within =>
        unfold HasConsentFor at tier
        rw [uninquired] at tier
        cases tier
    · exact hlowers.2.1.le
    · exact hlow
    · exact hcurrency
    · exact facts
    · exact signals

theorem inquired_as_consented {d : DecisionFields}
    (hd : DecidedAs p signals caps request evaluated d) {consent : InquiryConsent}
    (hconsent : Consented p.tierConfig caps request consent)
    (hgiven : request.inquiryConsent = some consent) :
    .inquiryConsentRequired ∉ d.reasonCodes ∧
      d.inquiryType = some consent.inquiryType.inquiryType := by
  have hsame : consent.inquiryType = tierOf caps request.requestedLimit.amountMinor := by
    have htier := hconsent.tier
    unfold HasConsentFor at htier
    rw [hgiven] at htier
    exact Option.some.inj htier
  have hasks : .inquiryConsentRequired ∉ d.reasonCodes := by
    intro hmem
    obtain ⟨-, -, hnone, -⟩ := asked_cases hd hmem
    exact hnone hconsent.tier
  refine ⟨hasks, ?_⟩
  obtain ⟨exit, expires, hexit, -, hof⟩ := hd.exit
  rcases hexit with hgated | ⟨-, hungated⟩
  · have hungate := hconsent.ungated
    cases hgated with
    | coolingOff gated =>
      rw [hungate] at gated
      cases gated
    | incomeUnconfirmed gated =>
      rw [hungate] at gated
      cases gated
    | profileIneligible gated =>
      rw [hungate] at gated
      cases gated
  · have hbelow := hconsent.above
    have hupper := hconsent.within
    cases hungated with
    | accepted given =>
      rw [hconsent.original] at given
      cases given
    | instant original within => omega
    | aboveHardCap original above offered => omega
    | atCeiling original above => omega
    | asks original above within unconsented => exact absurd hconsent.tier unconsented
    | inquired original above within consented score =>
      rw [hsame]
      revert hof
      cases tierOf caps request.requestedLimit.amountMinor
      · unfold bureauExit
        dsimp only
        split_ifs
        all_goals
          intro hof
          cases hof
          rfl
      · unfold bureauExit
        dsimp only
        split_ifs
        all_goals
          intro hof
          cases hof
          rfl

theorem no_inquiry_unconsented {d : DecisionFields}
    (hd : DecidedAs p signals caps request evaluated d) (hnone : request.inquiryConsent = none)
    (hasks : .inquiryConsentRequired ∉ d.reasonCodes) : d.inquiryType = some .none := by
  obtain ⟨exit, expires, hexit, -, hof⟩ := hd.exit
  rcases hexit with hgated | ⟨-, hungated⟩
  · cases hgated with
    | coolingOff gated =>
      cases hof
      rfl
    | incomeUnconfirmed gated =>
      cases hof
      rfl
    | profileIneligible gated =>
      cases hof
      rfl
  · cases hungated with
    | accepted given =>
      cases hof
      rfl
    | instant original within =>
      cases hof
      rfl
    | aboveHardCap original above offered =>
      cases hof
      rfl
    | atCeiling original above =>
      cases hof
      rfl
    | asks original above within unconsented =>
      cases hof
      exact absurd (List.mem_singleton.mpr rfl) hasks
    | inquired original above within consented score =>
      unfold HasConsentFor at consented
      rw [hnone] at consented
      cases consented

/-- Every decision of a negotiation is one that the bank itself accepts when it is made. -/
theorem accepted_when_made {d : DecisionFields}
    (hd : DecidedAs p signals caps request evaluated d) (hsound : Sound p.tierConfig caps request) :
    Accepts d request p.currentPolicy evaluated (some p.tierConfig) := by
  have hcounter := fun h => offer_of_counteroffer hd h
  have hinquiry := fun (consent : InquiryConsent) h =>
    inquired_as_consented hd (hsound.consented consent h) h
  have hfree := no_inquiry_unconsented hd
  have hasked := fun h => asked_cases hd h
  obtain ⟨exit, expires, hexit, hexpires, hof⟩ := hd.exit
  have hfresh := expires_after hexpires
  obtain ⟨hsum, -⟩ := plus_eq_ok.mp hexpires
  have hfields : (d.providerId = p.currentPolicy.providerId.val ∧ d.policy = p.currentPolicy) ∧
      (d.requestRef = request.requestRef ∧ d.scopeRef = request.scopeRef ∧
        d.inputRef = request.inputRef) ∧
      d.evidenceReferences = DecisionFields.evidenceOf request ∧ d.evaluatedAt = evaluated ∧
      d.expiresAt = expires := by
    cases hof
    · exact ⟨⟨rfl, rfl⟩, ⟨rfl, rfl, rfl⟩, rfl, rfl, rfl⟩
    · exact ⟨⟨rfl, rfl⟩, ⟨rfl, rfl, rfl⟩, rfl, rfl, rfl⟩
    · exact ⟨⟨rfl, rfl⟩, ⟨rfl, rfl, rfl⟩, rfl, rfl, rfl⟩
  obtain ⟨hidentity, hscope, hevidence, hevaluated, hexpiry⟩ := hfields
  constructor
  · exact hidentity
  · exact hscope
  · exact hevidence
  · intro hasks consent hconsent hsame
    exact (hinquiry consent hconsent).1 hasks
  · intro hasks consent hconsent
    exact (hinquiry consent hconsent).2
  · intro hasks hnone
    rw [hfree hnone hasks]
    exact ⟨by decide, by decide⟩
  · intro consent hconsent
    exact ⟨p.tierConfig, rfl, (hsound.consented consent hconsent).disclosed⟩
  · intro happroved
    cases hof with
    | @refused outcome _ _ _ _ _ refusal quotes =>
      change outcome = .approved at happroved
      rcases hexit with hgated | ⟨-, hungated⟩
      · obtain ⟨⟨hne, -⟩, -⟩ := coherent_gated hd.granted.gated hgated
        exact absurd happroved hne
      · obtain ⟨⟨hne, -⟩, -⟩ := coherent_ungated hd.granted.ordered hungated
        exact absurd happroved hne
    | countered approved amount currency refusal quotes => cases happroved
    | approved => rfl
  · intro hout
    obtain ⟨-, approved, happroved, hcurrency, hoffer, hlow⟩ := hcounter hout
    obtain ⟨horiginal, hbelow, -⟩ := hoffer.lowers
    refine ⟨horiginal, ?_, approved, happroved, ?_, ?_, hbelow, hd.eligible.within⟩
    · cases hof with
      | refused refusal quotes => cases happroved
      | countered approved amount currency refusal quotes => exact ⟨_, rfl, rfl, rfl⟩
      | approved => cases hout
    · rw [hcurrency, hd.eligible.currency]
    · rw [← hd.granted.current]
      exact hlow
  · intro refusal hrefusal
    cases hof with
    | refused given quotes =>
      cases hrefusal
      exact quotes
    | countered approved amount currency given quotes =>
      cases hrefusal
      exact quotes
    | approved => cases hrefusal
  · rw [hevaluated, hexpiry]
    exact ⟨le_rfl, hfresh⟩
  · rw [hevaluated, hexpiry]
    omega

theorem approved_within {d : DecisionFields} (hd : DecidedAs p signals caps request evaluated d)
    (hsound : Sound p.tierConfig caps request) (happroved : d.outcome = .approved) :
    request.requestedLimit.amountMinor ≤ caps.hardCap := by
  obtain ⟨hinstant, hsoft, hhard, hmaximum⟩ := hd.granted.ordered
  obtain ⟨exit, expires, hexit, -, hof⟩ := hd.exit
  rcases hexit with hgated | ⟨-, hungated⟩
  · cases hgated with
    | coolingOff gated =>
      cases hof
      cases happroved
    | incomeUnconfirmed gated =>
      cases hof
      cases happroved
    | profileIneligible gated =>
      cases hof
      cases happroved
  · cases hungated with
    | accepted given => exact hsound.offered given
    | instant original within => omega
    | aboveHardCap original above offered =>
      cases hof
      cases happroved
    | atCeiling original above =>
      cases hof
      cases happroved
    | asks original above within unconsented => exact within
    | inquired original above within consented score => exact within

end Steps

section Runs

variable {rounds : List Round}

theorem sound_of_plain (hplain : request.inquiryConsent = none)
    (horiginal : request.origin = none) :
    Sound p.tierConfig caps request := by
  constructor
  · intro consent hconsent
    rw [hplain] at hconsent
    cases hconsent
  · intro horigin
    rw [horiginal] at horigin
    cases horigin

/-- What holds of each round: the request is sound, its decision is one on these caps, and it asks
for no more than the first request did. -/
structure RoundOf (p : DemoDecisioningProvider) (signals : CreditSignals) (caps : TierCaps)
    (first : DecisionRequest) (x : Round) : Prop where
  sound : Sound p.tierConfig caps x.request
  decided : DecidedAs p signals caps x.request x.clock.evaluatedAt x.decision.val
  lower : x.request.requestedLimit.amountMinor ≤ first.requestedLimit.amountMinor
  facts : x.request.facts = first.facts

/-- Each round is closer to the end than the one before it. -/
theorem rounds_of_negotiation (hsound : Sound p.tierConfig caps request)
    (h : Negotiation p signals caps request rounds) :
    (rounds.length : ℤ) ≤ rank caps request + 1 ∧
      ∀ x ∈ rounds, RoundOf p signals caps request x := by
  induction rounds generalizing request with
  | nil =>
    constructor
    · have hrank : 0 ≤ rank caps request := by
        unfold rank
        split_ifs <;> omega
      simp only [List.length_nil, Nat.cast_zero]
      omega
    · intro x hx
      cases hx
  | cons x rounds ih =>
    obtain ⟨rfl, hdecided, hok, hrest⟩ := h
    have hd := decidedAs_of_ok hdecided hok
    have hhere : RoundOf p signals caps x.request x := ⟨hsound, hd, le_rfl, rfl⟩
    cases rounds with
    | nil =>
      constructor
      · have hrank : 0 ≤ rank caps x.request := by
          unfold rank
          split_ifs <;> omega
        simp only [List.length_singleton, Nat.cast_one]
        omega
      · intro y hy
        rw [List.mem_singleton.mp hy]
        exact hhere
    | cons y rest =>
      obtain ⟨hcontinues, hlater⟩ := hrest y rfl
      have hstep := advances hd hsound hcontinues
      obtain ⟨hlength, hrounds⟩ := ih hstep.sound hlater
      have hcloser := hstep.closer
      constructor
      · rw [List.length_cons, Nat.cast_succ]
        omega
      · intro z hz
        rcases List.mem_cons.mp hz with rfl | hz
        · exact hhere
        · have hz' := hrounds z hz
          exact ⟨hz'.sound, hz'.decided, hz'.lower.trans hstep.lower, hz'.facts.trans hstep.facts⟩

theorem negotiation_last {x : Round} (h : Negotiation p signals caps request (rounds ++ [x])) :
    Negotiation p signals caps x.request [x] ∧
      (Sound p.tierConfig caps request → Sound p.tierConfig caps x.request) := by
  induction rounds generalizing request with
  | nil =>
    obtain ⟨rfl, hrest⟩ := h
    exact ⟨⟨rfl, hrest⟩, id⟩
  | cons y rounds ih =>
    obtain ⟨rfl, hdecided, hok, hrest⟩ := h
    have hd := decidedAs_of_ok hdecided hok
    cases rounds with
    | nil =>
      obtain ⟨hcontinues, hlater⟩ := hrest x rfl
      exact ⟨hlater, fun hsound => (advances hd hsound hcontinues).sound⟩
    | cons z rest =>
      obtain ⟨hcontinues, hlater⟩ := hrest z rfl
      obtain ⟨hlast, hkeeps⟩ := ih hlater
      exact ⟨hlast, fun hsound => hkeeps (advances hd hsound hcontinues).sound⟩

/-- The customer's answer is decided in its turn, unless the bank offered less than the product
allows. -/
theorem negotiation_goes_on (p : DemoDecisioningProvider) (signals : CreditSignals)
    (htrimmed : signals.productName.val = strip signals.productName.val) (caps : TierCaps)
    (first : DecisionRequest) (hplain : first.inquiryConsent = none)
    (horiginal : first.origin = none) (rounds : List Round) (x : Round)
    (h : Negotiation p signals caps first (rounds ++ [x])) (next : DecisionRequest)
    (hnext : Continues p.tierConfig x.request x.decision.val next) (clock : DecisionClock)
    (hdecided : Decided p signals caps next clock) (expires : Timestamp)
    (hexpires : plus clock.evaluatedAt (p.currentPolicy.approvalTtlSeconds.val * second) =
      .ok expires) :
    (∃ d, p.evaluate next (some signals) clock = .ok d) ↔
      next.facts.minimumLimitMinor.val ≤ next.requestedLimit.amountMinor := by
  obtain ⟨⟨-, hlast, hok, -⟩, hkeeps⟩ := negotiation_last h
  have hd := decidedAs_of_ok hlast hok
  have hstep := advances hd (hkeeps (sound_of_plain hplain horiginal)) hnext
  constructor
  · rintro ⟨d, hd'⟩
    exact (decidedAs_of_ok hdecided hd').eligible.atLeast
  · intro hminimum
    have hraises := hstep.raises
    have hlower := hstep.lower
    have hwithin := hd.eligible.within
    rw [hd.granted.current, ← hstep.facts] at hraises
    rw [← hstep.facts] at hwithin
    have he : Eligible next := ⟨hstep.currency, hraises, hminimum, by omega⟩
    exact exists_evaluate hdecided he (hstep.signals.trans hd.bound) htrimmed hexpires

end Runs

def zeros : Fingerprint := ⟨String.ofList (List.replicate 64 '0'), by decide +kernel⟩

/-- `CreditSignals.ref` of `primeSignals none`. -/
def primeRef : Fingerprint :=
  ⟨"8c493e0533fbc4ca2818e176117bc8fd7003990177f12e2f1a61041b67122552", by decide +kernel⟩

/-- The provider that `demo.v1.json` loads. Its decisions on requests whose references are `zeros`
are named in the URL namespace. -/
def demoProvider : DemoDecisioningProvider :=
  { currentPolicy :=
      { providerId := ⟨"demo-bank", by decide +kernel⟩
        policyId := ⟨"demo-credit-limit-decision", by decide +kernel⟩
        version := 1
        digest :=
          ⟨"d569b83e10fe4a4d12ebaab2f29d96ff80f1954b44e8c6bcb12069fa9346661b", by decide +kernel⟩
        approvalTtlSeconds := ⟨180, by decide⟩
        versioned := by decide }
    scenario := .standard
    tierConfig := ⟨shippedTierPolicy, []⟩
    uuid5 := fun name =>
      if name = "d569b83e10fe4a4d12ebaab2f29d96ff80f1954b44e8c6bcb12069fa9346661b:" ++
        zeros.val then
        .ofNat 0xfb324e09e2db5b70928b72c65f3af802
      else .ofNat 0x45468e38b5025019a6f4129091c97940
    signalsRef := fun _ => primeRef }

def hardRequest : DecisionRequest :=
  { requestRef := zeros, scopeRef := zeros, inputRef := zeros
    requestedLimit := ⟨1000000, .usd, by decide⟩
    facts := oddFacts
    inquiryConsent := none
    origin := none
    signalsRef := some primeRef
    counteroffer_below_origin := by
      intro o ho
      cases ho }

def hardConsent : InquiryConsent :=
  { inquiryType := .hard
    disclosureVersion := ⟨"hard-inquiry-disclosure.v1", by decide +kernel⟩
    consentRef := zeros
    disclosure_matches_tier := by decide +kernel }

def primeCaps : TierCaps := ⟨none, none, 170, 500050, 2000000, 250000, 750050, 750050, 2000000⟩

def morning : DecisionClock := ⟨735100 * day, 735100 * day⟩

theorem prime_decided (request : DecisionRequest) (h : request.facts = oddFacts) :
    Decided demoProvider (primeSignals none) primeCaps request morning := by
  refine ⟨rfl, ?_⟩
  rw [h]
  decide +kernel

theorem hard_expires : plus morning.evaluatedAt
    (demoProvider.currentPolicy.approvalTtlSeconds.val * second) =
      .ok (735100 * day + 180 * second) := by
  decide +kernel

theorem hard_request_asks : ∃ d,
    demoProvider.evaluate hardRequest (some (primeSignals none)) morning = .ok d ∧
      .inquiryConsentRequired ∈ d.val.reasonCodes ∧ d.val.inquiryType = some .hard := by
  have hread : ((demoProvider.evaluate hardRequest (some (primeSignals none)) morning).toOption.map
      fun d => (d.val.reasonCodes, d.val.inquiryType)) =
      some ([.inquiryConsentRequired], some .hard) := by
    decide +kernel
  cases hd : demoProvider.evaluate hardRequest (some (primeSignals none)) morning with
  | error e =>
    rw [hd] at hread
    cases hread
  | ok d =>
    rw [hd] at hread
    have hpair := Option.some.inj hread
    rw [Prod.mk.injEq] at hpair
    exact ⟨d, rfl, by rw [hpair.1]; decide, hpair.2⟩

def consentedRequest : DecisionRequest := { hardRequest with inquiryConsent := some hardConsent }

theorem hard_request_continues {d : DecisionFields}
    (hasks : .inquiryConsentRequired ∈ d.reasonCodes) (htype : d.inquiryType = some .hard) :
    Continues demoProvider.tierConfig hardRequest d consentedRequest :=
  .consented hardConsent hasks htype rfl

theorem hard_request_goes_on :
    (∃ d, demoProvider.evaluate consentedRequest (some (primeSignals none)) morning = .ok d) ↔
      consentedRequest.facts.minimumLimitMinor.val ≤
        consentedRequest.requestedLimit.amountMinor := by
  obtain ⟨d, hd, hasks, htype⟩ := hard_request_asks
  have h : Negotiation demoProvider (primeSignals none) primeCaps hardRequest
      ([] ++ [⟨hardRequest, morning, d⟩]) := by
    refine ⟨rfl, prime_decided hardRequest rfl, hd, ?_⟩
    intro y hy
    cases hy
  exact negotiation_goes_on demoProvider (primeSignals none) (by decide +kernel) primeCaps
    hardRequest rfl rfl [] ⟨hardRequest, morning, d⟩ h consentedRequest
    (hard_request_continues hasks htype) morning (prime_decided consentedRequest rfl)
    (735100 * day + 180 * second) (by decide +kernel)

end BankingService.Decisioning
