import BankingService.CreditCardServicing
import BankingService.Library.Validated

/-! The bank's decision contract: what a receipt may say, and when it binds a request. A record's
validators are a check that raises; a value of the record has passed it. -/
namespace BankingService.Decisioning

open Python Checked

/-- A validator's own error reaches the caller as a `ValidationError`, as does a field outside its
declared bounds; that one names the field. -/
inductive DecisioningException where
  | valueError (message : String)
  | validationError (message : String)
  | fieldError (field : String)
  | typeError
  | overflowError
  deriving DecidableEq, Repr

inductive Outcome where
  | approved
  | declined
  | needsInformation
  | referForReview
  | counteroffer
  deriving DecidableEq, Repr

inductive Reason where
  | approvedByPolicy
  | limitCeilingExceeded
  | policyDeclined
  | informationRequired
  | reviewRequired
  | counterofferAvailable
  | coolingOffActive
  | aboveProductMaximum
  | incomeConfirmationRequired
  | inquiryConsentRequired
  | creditProfileIneligible
  | bureauDeclined
  | incomeCapExceeded
  deriving DecidableEq, Repr

inductive ConsentedInquiryType where
  | soft
  | hard
  deriving DecidableEq, Repr

inductive InquiryType where
  | none
  | soft
  | hard
  deriving DecidableEq, Repr

namespace ConsentedInquiryType

def text : ConsentedInquiryType → String
  | soft => "SOFT"
  | hard => "HARD"

def lower : ConsentedInquiryType → String
  | soft => "soft"
  | hard => "hard"

def inquiryType : ConsentedInquiryType → InquiryType
  | soft => .soft
  | hard => .hard

theorem text_injective : Function.Injective text := by
  intro a b h
  cases a <;> cases b <;> first | rfl | exact absurd h (by decide)

end ConsentedInquiryType

inductive NextStep where
  | specialistReview
  | productUpgrade
  | provideIncome
  | retryAfterCoolingOff
  | acceptCounteroffer
  | acceptPreapprovedHeadroom
  | acceptSoftTierCap
  deriving DecidableEq, Repr

def isFingerprint (s : String) : Bool :=
  s.length == 64 && s.toList.all fun c => "0123456789abcdef".toList.contains c

def isIdentifierChar (c : Char) : Bool :=
  c.isAlphanum || c == '_' || c == '.' || c == '-'

/-- `^[A-Za-z0-9_.-]{1,n}$` -/
def isIdentifier (n : ℕ) (l : List Char) : Bool :=
  1 ≤ l.length && l.length ≤ n && l.all isIdentifierChar

def isDecisionRef (s : String) : Bool :=
  match s.toList.span fun c => c != ':' with
  | (providerId, ':' :: decisionId) => isIdentifier 64 providerId && isIdentifier 128 decisionId
  | _ => false

def disclosureStem (t : ConsentedInquiryType) : String := t.lower ++ "-inquiry-disclosure.v"

/-- `^soft-inquiry-disclosure\.v[1-9][0-9]{0,3}$`, and the same for `hard`. -/
def isDisclosureOf (t : ConsentedInquiryType) (s : String) : Bool :=
  match s.toList.drop (disclosureStem t).length with
  | d :: ds => (disclosureStem t).toList.isPrefixOf s.toList && d.isDigit && d != '0' &&
      ds.length ≤ 3 && ds.all Char.isDigit
  | [] => false

def isDisclosureVersion (s : String) : Bool := isDisclosureOf .soft s || isDisclosureOf .hard s

def isControl (c : Char) : Bool := c.toNat ≤ 0x1f || (0x7f ≤ c.toNat && c.toNat ≤ 0x9f)

def isProductName (s : String) : Bool :=
  1 ≤ s.length && s.length ≤ 100 && s.toList.all fun c => !isControl c

def isAccountId (s : String) : Bool :=
  s.length == 36 && s.toList.all fun c => "0123456789abcdefABCDEF-".toList.contains c

abbrev Fingerprint := Matching isFingerprint

abbrev DecisionRef := Matching isDecisionRef

abbrev DisclosureVersion := Matching isDisclosureVersion

abbrev Bps := Bounded 0 10000

abbrev Days := Bounded 0 3650

structure TierGates where
  coolingOffDays : Days
  incomeConfirmationMaxAgeDays : Bounded 1 3650
  minimumCreditScore : Bounded 300 850
  minimumTenureMonths : Bounded 0 600
  maxLatePayments12m : Bounded 0 12
  deriving DecidableEq

structure CreditTierBps where
  primeExcellent : Bps
  prime : Bps
  nearPrime : Bps
  subprime : Bps
  deriving DecidableEq

structure UtilizationBand where
  maxBps : Bounded 0 20000
  factorBps : Bps
  deriving DecidableEq

structure TenureBand where
  minMonths : Bounded 0 600
  factorBps : Bps
  deriving DecidableEq

structure HeadroomInputs where
  tierBps : CreditTierBps
  utilizationBands : List UtilizationBand
  tenureBands : List TenureBand
  maxLimitToIncomeBps : Bounded 1 10000
  utilization_size : 1 ≤ utilizationBands.length ∧ utilizationBands.length ≤ 8
  tenure_size : 1 ≤ tenureBands.length ∧ tenureBands.length ≤ 8
  utilization_ascending : (utilizationBands.map fun b => b.maxBps.val).IsChain (· < ·)
  tenure_ascending : (tenureBands.map fun b => b.minMonths.val).IsChain (· < ·)
  deriving DecidableEq

structure InquiryDisclosures where
  soft : Matching (isDisclosureOf .soft)
  hard : Matching (isDisclosureOf .hard)
  deriving DecidableEq

structure TierPolicy where
  roundingStepMinor : Bounded 1 MAX_MINOR
  gates : TierGates
  headroom : HeadroomInputs
  maxMultipleOfCurrentBps : Bounded 10000 100000
  disclosures : InquiryDisclosures
  tenure_respects_gate : ∀ b ∈ headroom.tenureBands.head?,
    gates.minimumTenureMonths.val ≤ b.minMonths.val
  deriving DecidableEq

/-- `getattr(disclosures, inquiry_type)` -/
def InquiryDisclosures.get (d : InquiryDisclosures) : ConsentedInquiryType → String
  | .soft => d.soft.val
  | .hard => d.hard.val

/-- An override replaces the default for its product as a whole. -/
structure CreditLimitTierConfig where
  default : TierPolicy
  productOverrides : List (String × TierPolicy)

def CreditLimitTierConfig.policyFor (c : CreditLimitTierConfig) (productCode : String) :
    TierPolicy :=
  (c.productOverrides.lookup productCode).getD c.default

structure DecisionPolicy where
  providerId : Matching fun s => isIdentifier 64 s.toList
  policyId : Matching fun s => isIdentifier 128 s.toList
  version : ℕ
  digest : Fingerprint
  approvalTtlSeconds : Bounded 1 300
  versioned : 1 ≤ version
  deriving DecidableEq

/-- The status, the currency and the product's activity are literals of the contract. -/
structure CheckedDecisionFacts where
  accountId : Matching isAccountId
  productCode : Matching fun s => 1 ≤ s.length && s.length ≤ 50
  currentLimitMinor : Bounded 1 MAX_MINOR
  minimumLimitMinor : Bounded 1 MAX_MINOR
  maximumLimitMinor : Bounded 1 MAX_MINOR
  deriving DecidableEq

def CheckedDecisionFacts.currencyCode (_ : CheckedDecisionFacts) : CurrencyCode := .usd

/-- `facts.model_dump()`, for the execution guards. -/
def CheckedDecisionFacts.dump (f : CheckedDecisionFacts) : CreditLimitFacts :=
  { accountStatus := .active, currencyCode := f.currencyCode,
    currentLimitMinor := f.currentLimitMinor.val, productActive := some true,
    minimumLimitMinor := some f.minimumLimitMinor.val,
    maximumLimitMinor := some f.maximumLimitMinor.val }

/-- Consent for exactly one tier; its disclosure is one of that tier. -/
structure InquiryConsent where
  inquiryType : ConsentedInquiryType
  disclosureVersion : DisclosureVersion
  consentRef : Fingerprint
  disclosure_matches_tier :
    (inquiryType.lower ++ "-").toList.isPrefixOf disclosureVersion.val.toList = true
  deriving DecidableEq

structure CounterofferOrigin where
  originRequestRef : Fingerprint
  originDecisionRef : DecisionRef
  originRequestedLimit : Money
  deriving DecidableEq

structure DecisionRequest where
  requestRef : Fingerprint
  scopeRef : Fingerprint
  inputRef : Fingerprint
  requestedLimit : Money
  facts : CheckedDecisionFacts
  inquiryConsent : Option InquiryConsent
  origin : Option CounterofferOrigin
  signalsRef : Option Fingerprint
  counteroffer_below_origin : ∀ o ∈ origin,
    o.originRequestedLimit.currencyCode = requestedLimit.currencyCode ∧
      requestedLimit.amountMinor < o.originRequestedLimit.amountMinor
  deriving DecidableEq

structure Counteroffer where
  originRequestRef : Fingerprint
  requestedLimit : Money
  deriving DecidableEq

/-- The arguments of `RefusalFacts`. A date is counted in days. -/
structure RefusalFields where
  reasonCode : Reason
  retryable : Bool
  currentLimit : Money
  productMaximum : Money
  maxInstantlyApprovable : Money
  softTierCap : Money
  productName : String
  nextSteps : List NextStep
  retryAfter : Option ℕ
  deriving DecidableEq

namespace RefusalFields

def limits (r : RefusalFields) : List Money :=
  [r.currentLimit, r.maxInstantlyApprovable, r.softTierCap, r.productMaximum]

def coherentFacts (r : RefusalFields) : Except DecisioningException Unit := do
  require (r.productName = strip r.productName)
    (.validationError "Product name must be trimmed printable text.")
  require r.nextSteps.Nodup (.validationError "Next steps must be unique.")
  require ((.retryAfterCoolingOff ∈ r.nextSteps ↔ r.retryAfter.isSome = true) ∧
      (.retryAfterCoolingOff ∈ r.nextSteps → r.retryable = true))
    (.validationError "Cooling-off retry facts must agree.")
  require (∀ m ∈ r.limits, m.currencyCode = r.currentLimit.currencyCode)
    (.validationError "Refusal limits must share one currency.")
  require (0 < r.currentLimit.amountMinor ∧
      (r.limits.map Money.amountMinor).IsChain (· ≤ ·))
    (.validationError "Refusal limits must be positive and ordered.")

def check (r : RefusalFields) : Except DecisioningException Unit := do
  require (isProductName r.productName = true) (.fieldError "product_name")
  require (1 ≤ r.nextSteps.length ∧ r.nextSteps.length ≤ 4) (.fieldError "next_steps")
  r.coherentFacts

end RefusalFields

abbrev RefusalFacts := Validated RefusalFields.check

/-- The arguments of `BankDecision`. -/
structure DecisionFields where
  decisionId : String
  providerId : String
  outcome : Outcome
  approvedLimit : Option Money
  reasonCodes : List Reason
  policy : DecisionPolicy
  evaluatedAt : Timestamp
  expiresAt : Timestamp
  requestRef : Fingerprint
  scopeRef : Fingerprint
  inputRef : Fingerprint
  evidenceReferences : List String
  inquiryType : Option InquiryType
  counteroffer : Option Counteroffer
  refusal : Option RefusalFacts
  deriving DecidableEq

/-- The reasons that agree with an outcome. -/
def expectedReasons : Outcome → List Reason
  | .approved => [.approvedByPolicy]
  | .declined => [.policyDeclined, .limitCeilingExceeded, .coolingOffActive,
      .creditProfileIneligible, .bureauDeclined, .incomeCapExceeded]
  | .needsInformation => [.informationRequired, .incomeConfirmationRequired,
      .inquiryConsentRequired]
  | .referForReview => [.reviewRequired, .aboveProductMaximum]
  | .counteroffer => [.counterofferAvailable, .limitCeilingExceeded, .incomeCapExceeded]

namespace DecisionFields

def coherentRefusal (outcome : Outcome) (reasonCodes : List Reason) (refusal : RefusalFields) :
    Except DecisioningException Unit := do
  require (outcome ≠ .approved) (.validationError "Approved decisions carry no refusal facts.")
  require (refusal.reasonCode ∈ reasonCodes)
    (.validationError "Refusal reason must be a decision reason.")
  require (.acceptCounteroffer ∈ refusal.nextSteps ↔ outcome = .counteroffer)
    (.validationError "Only a counteroffer may be accepted.")

def coherentOutcome (d : DecisionFields) : Except DecisioningException Unit := do
  require ((d.outcome = .approved ∨ d.outcome = .counteroffer) ↔ d.approvedLimit.isSome = true)
    (.validationError "Approved Money and decision outcome must agree.")
  require (∀ r ∈ d.reasonCodes, r ∈ expectedReasons d.outcome)
    (.validationError "Decision outcome and reasons must agree.")
  require (d.evaluatedAt < d.expiresAt)
    (.validationError "Decision expiry must follow evaluation.")
  require (d.outcome = .counteroffer → .counterofferAvailable ∈ d.reasonCodes ∧
      d.counteroffer.isSome = true ∧ d.refusal.isSome = true ∧ d.inquiryType.isSome = true)
    (.validationError "A counteroffer requires its origin link, refusal facts and inquiry tier.")
  require (d.outcome ≠ .counteroffer → d.counteroffer = none)
    (.validationError "Only a counteroffer outcome may carry counteroffer terms.")
  require (.inquiryConsentRequired ∈ d.reasonCodes →
      d.inquiryType = some .soft ∨ d.inquiryType = some .hard)
    (.validationError "A consent request must name the SOFT or HARD tier.")
  match d.refusal with
  | none => .ok ()
  | some refusal => coherentRefusal d.outcome d.reasonCodes refusal.val

def check (d : DecisionFields) : Except DecisioningException Unit := do
  require (isIdentifier 128 d.decisionId.toList = true) (.fieldError "decision_id")
  require (isIdentifier 64 d.providerId.toList = true) (.fieldError "provider_id")
  require (1 ≤ d.reasonCodes.length ∧ d.reasonCodes.length ≤ 4) (.fieldError "reason_codes")
  require (1 ≤ d.evidenceReferences.length ∧ d.evidenceReferences.length ≤ 4)
    (.fieldError "evidence_references")
  require (∀ v ∈ d.evidenceReferences, isFingerprint v = true)
    (.validationError "Decision evidence references must be checked fingerprints.")
  d.coherentOutcome

end DecisionFields

abbrev BankDecision := Validated DecisionFields.check

def second : ℕ := 1000000

namespace DecisionFields

variable (decision : DecisionFields) (request : DecisionRequest) (policy : DecisionPolicy)

def evidenceOf : List String :=
  request.inputRef.val :: (request.inquiryConsent.map fun c => c.consentRef.val).toList

def checkIdentity : Except DecisioningException Unit :=
  require (decision.providerId = policy.providerId.val ∧ decision.policy = policy)
    (.valueError "Decision provider/policy identity does not match.")

def checkScope : Except DecisioningException Unit := do
  require (decision.requestRef = request.requestRef ∧ decision.scopeRef = request.scopeRef ∧
      decision.inputRef = request.inputRef)
    (.valueError "Decision does not match the bank-owned request scope.")
  require (decision.evidenceReferences = evidenceOf request)
    (.valueError "Decision evidence is not bound to the checked inputs.")

/-- Asking for further consent must not claim the consent already held. -/
def checkInquiry : Except DecisioningException Unit :=
  if .inquiryConsentRequired ∈ decision.reasonCodes then
    require (∀ c ∈ request.inquiryConsent, some c.inquiryType.inquiryType ≠ decision.inquiryType)
      (.valueError "Decision requests consent the customer already gave.")
  else
    match request.inquiryConsent with
    | some consent =>
      require (decision.inquiryType = some consent.inquiryType.inquiryType)
        (.valueError "Inquiry consent does not authorize this inquiry type.")
    | none =>
      require (decision.inquiryType ≠ some .soft ∧ decision.inquiryType ≠ some .hard)
        (.valueError "A SOFT or HARD inquiry requires matching consent.")

def checkDisclosure (tierConfig : Option CreditLimitTierConfig) :
    Except DecisioningException Unit :=
  match request.inquiryConsent with
  | none => .ok ()
  | some consent => do
    let tierConfig ← orRaise tierConfig
      (.valueError "Consent cannot be checked without the tier configuration.")
    require (consent.disclosureVersion.val =
        (tierConfig.policyFor request.facts.productCode.val).disclosures.get consent.inquiryType)
      (.valueError "Consent does not cite the current disclosure for its tier.")

def checkOffer : Except DecisioningException Unit := do
  let asked := request.requestedLimit
  require (decision.outcome = .approved → decision.approvedLimit = some asked)
    (.valueError "Counteroffers require a separate contract.")
  if decision.outcome = .counteroffer then
    require (request.origin = none)
      (.valueError "A counteroffer request cannot itself be countered.")
    require (∃ c ∈ decision.counteroffer, c.originRequestRef = request.requestRef ∧
        c.requestedLimit = asked)
      (.valueError "Counteroffer is not linked to its originating request.")
    require (∃ offer ∈ decision.approvedLimit, offer.currencyCode = asked.currencyCode ∧
        request.facts.currentLimitMinor.val < offer.amountMinor ∧
        offer.amountMinor < asked.amountMinor ∧
        asked.amountMinor ≤ request.facts.maximumLimitMinor.val)
      (.valueError "Counteroffer amount is outside the checked bounds.")

def checkRefusal : Except DecisioningException Unit :=
  require (∀ r ∈ decision.refusal,
      (r.val.currentLimit.amountMinor = request.facts.currentLimitMinor.val ∧
        r.val.currentLimit.currencyCode = request.facts.currencyCode) ∧
      r.val.productMaximum.amountMinor = request.facts.maximumLimitMinor.val ∧
        r.val.productMaximum.currencyCode = request.facts.currencyCode)
    (.valueError "Refusal facts do not match the checked inputs.")

def checkFreshness (now : Timestamp) : Except DecisioningException Unit := do
  require (decision.evaluatedAt ≤ now ∧ now < decision.expiresAt)
    (.valueError "Decision is future-dated or expired.")
  require ((decision.expiresAt : ℤ) - decision.evaluatedAt ≤
      policy.approvalTtlSeconds.val * second)
    (.valueError "Decision exceeds its approved freshness contract.")

end DecisionFields

/-- Revalidates an untrusted receipt and binds it to the bank-owned request. -/
def validateDecision (value : DecisionFields) (request : DecisionRequest) (policy : DecisionPolicy)
    (now : Timestamp) (tierConfig : Option CreditLimitTierConfig) :
    Except DecisioningException BankDecision := do
  let decision ← validate DecisionFields.check value
  decision.val.checkIdentity policy
  decision.val.checkScope request
  decision.val.checkInquiry request
  DecisionFields.checkDisclosure request tierConfig
  decision.val.checkOffer request
  decision.val.checkRefusal request
  decision.val.checkFreshness policy now
  return decision

/-- Every rule that binds a coherent receipt to the request. -/
structure Accepts (d : DecisionFields) (request : DecisionRequest) (policy : DecisionPolicy)
    (now : Timestamp) (tierConfig : Option CreditLimitTierConfig) : Prop where
  identity : d.providerId = policy.providerId.val ∧ d.policy = policy
  scope : d.requestRef = request.requestRef ∧ d.scopeRef = request.scopeRef ∧
    d.inputRef = request.inputRef
  evidence : d.evidenceReferences = DecisionFields.evidenceOf request
  asks_other : .inquiryConsentRequired ∈ d.reasonCodes →
    ∀ c ∈ request.inquiryConsent, some c.inquiryType.inquiryType ≠ d.inquiryType
  authorized : .inquiryConsentRequired ∉ d.reasonCodes →
    ∀ c ∈ request.inquiryConsent, d.inquiryType = some c.inquiryType.inquiryType
  no_inquiry : .inquiryConsentRequired ∉ d.reasonCodes → request.inquiryConsent = none →
    d.inquiryType ≠ some .soft ∧ d.inquiryType ≠ some .hard
  disclosure : ∀ c ∈ request.inquiryConsent, ∃ config ∈ tierConfig, c.disclosureVersion.val =
    (config.policyFor request.facts.productCode.val).disclosures.get c.inquiryType
  approved : d.outcome = .approved → d.approvedLimit = some request.requestedLimit
  countered : d.outcome = .counteroffer → request.origin = none ∧
    (∃ c ∈ d.counteroffer, c.originRequestRef = request.requestRef ∧
      c.requestedLimit = request.requestedLimit) ∧
    ∃ offer ∈ d.approvedLimit, offer.currencyCode = request.requestedLimit.currencyCode ∧
      request.facts.currentLimitMinor.val < offer.amountMinor ∧
      offer.amountMinor < request.requestedLimit.amountMinor ∧
      request.requestedLimit.amountMinor ≤ request.facts.maximumLimitMinor.val
  refusal : ∀ r ∈ d.refusal,
    (r.val.currentLimit.amountMinor = request.facts.currentLimitMinor.val ∧
      r.val.currentLimit.currencyCode = request.facts.currencyCode) ∧
    r.val.productMaximum.amountMinor = request.facts.maximumLimitMinor.val ∧
      r.val.productMaximum.currencyCode = request.facts.currencyCode
  fresh : d.evaluatedAt ≤ now ∧ now < d.expiresAt
  ttl : (d.expiresAt : ℤ) - d.evaluatedAt ≤ policy.approvalTtlSeconds.val * second

namespace DecisionFields

variable {d : DecisionFields} {request : DecisionRequest} {u : Unit}

theorem checkInquiry_eq_ok : d.checkInquiry request = .ok u ↔
    (.inquiryConsentRequired ∈ d.reasonCodes →
      ∀ c ∈ request.inquiryConsent, some c.inquiryType.inquiryType ≠ d.inquiryType) ∧
    (.inquiryConsentRequired ∉ d.reasonCodes →
      ∀ c ∈ request.inquiryConsent, d.inquiryType = some c.inquiryType.inquiryType) ∧
    (.inquiryConsentRequired ∉ d.reasonCodes → request.inquiryConsent = none →
      d.inquiryType ≠ some .soft ∧ d.inquiryType ≠ some .hard) := by
  unfold checkInquiry
  by_cases hasks : Reason.inquiryConsentRequired ∈ d.reasonCodes
  · simp [hasks]
  · cases hconsent : request.inquiryConsent with
    | none => simp [hasks]
    | some consent => simp [hasks]

theorem checkDisclosure_eq_ok {tierConfig : Option CreditLimitTierConfig} :
    checkDisclosure request tierConfig = .ok u ↔
      ∀ c ∈ request.inquiryConsent, ∃ config ∈ tierConfig, c.disclosureVersion.val =
        (config.policyFor request.facts.productCode.val).disclosures.get c.inquiryType := by
  unfold checkDisclosure
  cases hconsent : request.inquiryConsent with
  | none => simp
  | some consent => simp [bind_eq_ok, orRaise_eq_ok, require_eq_ok]

theorem checkOffer_eq_ok : d.checkOffer request = .ok u ↔
    (d.outcome = .approved → d.approvedLimit = some request.requestedLimit) ∧
    (d.outcome = .counteroffer → request.origin = none ∧
      (∃ c ∈ d.counteroffer, c.originRequestRef = request.requestRef ∧
        c.requestedLimit = request.requestedLimit) ∧
      ∃ offer ∈ d.approvedLimit, offer.currencyCode = request.requestedLimit.currencyCode ∧
        request.facts.currentLimitMinor.val < offer.amountMinor ∧
        offer.amountMinor < request.requestedLimit.amountMinor ∧
        request.requestedLimit.amountMinor ≤ request.facts.maximumLimitMinor.val) := by
  unfold checkOffer
  by_cases hcounter : d.outcome = .counteroffer
  · simp only [hcounter, reduceIte, bind_eq_ok, require_eq_ok, exists_const, true_implies]
  · simp only [hcounter, reduceIte, bind_eq_ok, require_eq_ok, exists_const, pure_eq_ok,
      false_implies, and_true]

end DecisionFields

theorem validateDecision_eq_ok {value : DecisionFields} {request : DecisionRequest}
    {policy : DecisionPolicy} {now : Timestamp} {tierConfig : Option CreditLimitTierConfig}
    {d : BankDecision} :
    validateDecision value request policy now tierConfig = .ok d ↔
      d.val = value ∧ Accepts d.val request policy now tierConfig := by
  unfold validateDecision
  simp only [bind_eq_ok, pure_eq_ok, validate_eq_ok, DecisionFields.checkIdentity,
    DecisionFields.checkScope, DecisionFields.checkInquiry_eq_ok,
    DecisionFields.checkDisclosure_eq_ok, DecisionFields.checkOffer_eq_ok,
    DecisionFields.checkRefusal, DecisionFields.checkFreshness, require_eq_ok, exists_const]
  constructor
  · rintro ⟨decision, hvalue, hidentity, ⟨hscope, hevidence⟩, ⟨hasks, hauthorized, hfree⟩,
      hdisclosure, ⟨happroved, hcountered⟩, hrefusal, ⟨hfresh, httl⟩, rfl⟩
    exact ⟨hvalue, hidentity, hscope, hevidence, hasks, hauthorized, hfree, hdisclosure,
      happroved, hcountered, hrefusal, hfresh, httl⟩
  · rintro ⟨hvalue, h⟩
    exact ⟨d, hvalue, h.identity, ⟨h.scope, h.evidence⟩,
      ⟨h.asks_other, h.authorized, h.no_inquiry⟩, h.disclosure, ⟨h.approved, h.countered⟩,
      h.refusal, ⟨h.fresh, h.ttl⟩, rfl⟩

end BankingService.Decisioning
