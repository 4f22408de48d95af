import BankingService.AuditRelay
import BankingService.ProposalLifecycle
import BankingService.PythonValues
import BankingService.Library.JsonFields
import Mathlib.Data.Finset.Sort

/-! The archived snapshot of a proposal. Of the payload, the evidence and the result only what a
schema lists is copied. -/
namespace BankingService.EvidenceSnapshots

open Python Relational Checked IsoTime

/-- `None`, `[child]` or a dictionary of children. -/
inductive Schema where
  | scalar
  | list (child : Schema)
  | object (fields : List (String × Schema))

/-- `type(value) in (str, int, float, bool)`. -/
def isScalar : Json → Bool
  | .str _ | .int _ | .real _ | .nonFinite _ | .bool _ => true
  | _ => false

mutual

def project (value : Json) : Schema → Except PyException Json
  | .scalar =>
    match value with
    | .null => .ok .null
    | value =>
      if isScalar value then .ok value
      else .error (.valueError "Evidence facts must be scalar values.")
  | .list child =>
    match value with
    | .null => .ok .null
    | .arr items => do
      let items ← items.mapM fun item => project item child
      return .arr items
    | _ => .error (.valueError "Evidence facts must be a list.")
  | .object schema =>
    match value with
    | .null => .ok .null
    | .obj value => do
      let fields ← projectFields value schema
      return .obj fields
    | _ => .error (.valueError "Evidence facts must be an object.")

def projectFields (value : List (String × Json)) :
    List (String × Schema) → Except PyException (List (String × Json))
  | [] => .ok []
  | (key, child) :: schema =>
    match lookup value key with
    | some x => do
      let x ← project x child
      let fields ← projectFields value schema
      return (key, x) :: fields
    | none => projectFields value schema

end

def scalars (keys : List String) : List (String × Schema) := keys.map fun key => (key, .scalar)

def MONEY : Schema := .object (scalars ["amount_minor", "currency_code"])

def FACT : Schema := .object (scalars ["authorization_id", "transaction_id", "merchant_name",
  "merchant_category_code", "card_network", "created_at", "pending", "source"] ++
  [("money", MONEY), ("billing_money", MONEY)])

def CARD : Schema := .object (scalars ["account_id", "old_card_id", "new_card_id", "new_last_four",
  "status", "replacement_status", "is_virtual", "fraud_alert_id", "compromised_card_id"])

def REMEDIATION : Schema := .object (scalars ["success", "account_id", "authorization_id",
  "transaction_id", "fraud_alert_id", "status", "authorization_status", "ledger_entry_id",
  "provisional_credit_id", "provisional_credit_transaction_id", "journal_transaction_id"] ++
  [("voided_amount", MONEY), ("credited_amount", MONEY), ("available_credit", MONEY),
    ("cleared_balance", MONEY)])

def LIMIT_POLICY : Schema := .object (scalars ["id", "revision", "digest", "currency_code",
  "maximum_current_limit_multiple", "maximum_minor", "requires_active_account",
  "requires_active_product", "requires_strict_increase", "requires_product_bounds",
  "approval_semantics"])

def LIMIT_FACTS : Schema := .object (scalars ["account_id", "account_status", "currency_code",
  "product_code", "current_limit_minor", "product_active", "minimum_limit_minor",
  "maximum_limit_minor", "available_credit_minor", "projected_available_credit_minor"])

def DECISION_POLICY : Schema :=
  .object (scalars ["provider_id", "policy_id", "version", "digest", "approval_ttl_seconds"])

def REFUSAL_FACTS : Schema :=
  .object (scalars ["reason_code", "retryable", "product_name", "retry_after"] ++
    [("current_limit", MONEY), ("product_maximum", MONEY), ("max_instantly_approvable", MONEY),
      ("soft_tier_cap", MONEY), ("next_steps", .list .scalar)])

def COUNTEROFFER_ORIGIN : Schema :=
  .object (scalars ["origin_request_ref", "origin_decision_ref"] ++
    [("origin_requested_limit", MONEY)])

def BANK_DECISION : Schema := .object (scalars ["decision_id", "provider_id", "outcome",
  "evaluated_at", "expires_at", "request_ref", "scope_ref", "input_ref"] ++
  [("approved_limit", MONEY), ("reason_codes", .list .scalar), ("policy", DECISION_POLICY),
    ("evidence_references", .list .scalar), ("inquiry_type", .scalar),
    ("counteroffer", .object [("origin_request_ref", .scalar), ("requested_limit", MONEY)]),
    ("refusal", REFUSAL_FACTS)])

def DECISION_REQUEST : Schema := .object (scalars ["request_ref", "scope_ref", "input_ref"] ++
  [("requested_limit", MONEY), ("facts", LIMIT_FACTS),
    ("inquiry_consent", .object (scalars ["inquiry_type", "disclosure_version", "consent_ref"])),
    ("origin", COUNTEROFFER_ORIGIN)])

def RESULT : Schema := .object (scalars ["success", "outcome", "status", "card_status",
  "wallet_provider", "wallet_provisioning_status", "account_id", "fraud_alert_id", "escalated"] ++
  [("replacement_card", CARD),
    ("fraud_alert", .object (scalars ["id", "fraud_alert_id", "status", "remediation_status"])),
    ("voided_authorizations", .list REMEDIATION), ("provisional_credits", .list REMEDIATION),
    ("secure_message", .object (scalars ["thread_id", "message_id"])),
    ("previous_credit_limit", MONEY), ("credit_limit", MONEY), ("increase_amount", MONEY),
    ("available_credit", MONEY), ("approval_semantics", .scalar)])

def PAYLOAD : Schema := .object (scalars ["account_id", "card_id", "compromised_card_id",
  "card_last_four", "reason", "wallet_provider", "fraud_alert_id", "issue_replacement",
  "issue_virtual_card", "escalate"] ++
  [("disputed_authorization_ids", .list .scalar), ("disputed_transaction_ids", .list .scalar),
    ("money_facts", .list FACT), ("bank_decision", BANK_DECISION),
    ("decision_request", DECISION_REQUEST), ("current_limit", MONEY), ("proposed_limit", MONEY),
    ("increase_amount", MONEY), ("credit_limit_policy", LIMIT_POLICY),
    ("eligibility_facts", LIMIT_FACTS), ("approval_semantics", .scalar),
    ("prepared_arithmetic",
      .object (scalars ["available_credit_minor", "projected_available_credit_minor"])),
    ("inquiry_type", .scalar), ("disclosure_version", .scalar), ("score_impact", .scalar),
    ("origin_request_ref", .scalar), ("origin", COUNTEROFFER_ORIGIN)])

def EVIDENCE : Schema := .object (scalars ["method", "source", "runtime_name",
  "runtime_session_id", "presentation_turn_id", "confirmation_turn_id",
  "presentation_acknowledgment", "presentation_acknowledgment_source",
  "presentation_artifact_id"] ++
  [("acknowledged_fact_keys", .list .scalar),
    ("inquiry_consent",
      .object (scalars ["inquiry_type", "disclosure_version", "consent_turn_id"]))])

inductive CapabilityRiskTier where
  | informational
  | boundedServicing
  | elevatedRisk
  | humanOwned

def CapabilityRiskTier.name : CapabilityRiskTier → String
  | informational => "INFORMATIONAL"
  | boundedServicing => "BOUNDED_SERVICING"
  | elevatedRisk => "ELEVATED_RISK"
  | humanOwned => "HUMAN_OWNED"

inductive PresentationPolicy where
  | flexibleSummary
  | requiredFactRestatement
  | verbatimDisclosure
  | deterministicUi
  | trustedRenderAcknowledgment

def PresentationPolicy.value : PresentationPolicy → String
  | flexibleSummary => "FLEXIBLE_SUMMARY"
  | requiredFactRestatement => "REQUIRED_FACT_RESTATEMENT"
  | verbatimDisclosure => "VERBATIM_DISCLOSURE"
  | deterministicUi => "DETERMINISTIC_UI"
  | trustedRenderAcknowledgment => "TRUSTED_RENDER_ACKNOWLEDGMENT"

inductive RecoveryPolicy where
  | retrySameProposal
  | representAndReconfirm
  | replaceAfterDisposition
  | escalate

def RecoveryPolicy.value : RecoveryPolicy → String
  | retrySameProposal => "RETRY_SAME_PROPOSAL"
  | representAndReconfirm => "REPRESENT_AND_RECONFIRM"
  | replaceAfterDisposition => "REPLACE_AFTER_DISPOSITION"
  | escalate => "ESCALATE"

inductive PresentationQualityGate where
  | releaseEvaluation
  | deterministicAcknowledgment

def PresentationQualityGate.value : PresentationQualityGate → String
  | releaseEvaluation => "RELEASE_EVALUATION"
  | deterministicAcknowledgment => "DETERMINISTIC_ACKNOWLEDGMENT"

/-- What an `ActionSpecification` contributes; `document` is the handler's `_definition`. -/
structure Specification where
  actionType : String
  contractVersion : String
  definitionId : String
  definitionRevision : ℤ
  definitionDigest : String
  document : Option Json
  policyName : String
  riskTier : CapabilityRiskTier
  presentationPolicy : PresentationPolicy
  decisionPolicy : DecisionPolicy
  acceptedSources : Finset String
  requireLaterCustomerTurn : Bool
  requiredPresentationAcknowledgment : Option String
  acceptedPresentationAcknowledgmentSources : Finset String
  recoveryPolicy : RecoveryPolicy
  requiredFactKeys : Finset String
  qualityGate : PresentationQualityGate
  naturalLanguageAllowed : Bool
  disclosureReference : Option String

structure ProposalFacts where
  id : Uuid
  status : ProposalStatus
  invalidationReason : Option String
  customerId : Uuid
  accountId : Option Uuid
  supportSessionId : String
  runtimeName : String
  runtimeSessionId : String
  resetGeneration : String
  originatingCustomerTurnId : String
  catalogSnapshotId : Option String
  customerSafeSummary : String
  payloadFingerprint : String
  createdAt : Option AwareDateTime
  expiresAt : Option AwareDateTime
  presentedAt : Option AwareDateTime
  confirmedAt : Option AwareDateTime
  commitStartedAt : Option AwareDateTime
  completedAt : Option AwareDateTime

/-- A proposal with its three documents; a missing one is `None`. -/
structure Proposal extends ProposalFacts where
  actionPayload : Json
  confirmationEvidence : Json
  resultPayload : Json

/-- The fingerprint that `canonical_payload` gives a payload. -/
def payloadFingerprint (sha256 : String → String) (payloadJson : Json → String)
    (payload : Json) : String := sha256 (payloadJson payload)

def text : Option String → Json
  | some s => .str s
  | none => .null

def time (t : Option AwareDateTime) : Json := text (t.map AwareDateTime.isoformat)

def sortedTexts (texts : Finset String) : Json := .arr ((texts.sort (· ≤ ·)).map .str)

def policySnapshot (spec : Specification) : Json :=
  .obj [
    ("authorization", .obj [
      ("name", .str spec.policyName),
      ("risk_tier", .str spec.riskTier.name),
      ("presentation_policy", .str spec.presentationPolicy.value),
      ("decision_policy", .str spec.decisionPolicy.value),
      ("evidence_policy", .obj [
        ("accepted_sources", sortedTexts spec.acceptedSources),
        ("require_later_customer_turn", .bool spec.requireLaterCustomerTurn),
        ("required_presentation_acknowledgment", text spec.requiredPresentationAcknowledgment),
        ("accepted_presentation_acknowledgment_sources",
          sortedTexts spec.acceptedPresentationAcknowledgmentSources)]),
      ("recovery_policy", .str spec.recoveryPolicy.value)]),
    ("presentation", .obj [
      ("required_fact_keys", sortedTexts spec.requiredFactKeys),
      ("quality_gate", .str spec.qualityGate.value),
      ("natural_language_allowed", .bool spec.naturalLanguageAllowed),
      ("disclosure_reference", text spec.disclosureReference)])]

def definitionSnapshot (spec : Specification) : Json :=
  match spec.document with
  | some document => document
  | none =>
    .obj [("id", .str spec.definitionId), ("revision", .int spec.definitionRevision),
      ("digest", .str spec.definitionDigest), ("action_type", .str spec.actionType),
      ("contract_version", .str spec.contractVersion)]

def ProposalFacts.scopeSnapshot (p : ProposalFacts) : Json :=
  .obj [("customer_id", .str p.customerId.str), ("account_id", text (p.accountId.map Uuid.str)),
    ("support_session_id", .str p.supportSessionId), ("runtime_name", .str p.runtimeName),
    ("runtime_session_id", .str p.runtimeSessionId), ("reset_generation", .str p.resetGeneration),
    ("originating_customer_turn_id", .str p.originatingCustomerTurnId),
    ("catalog_snapshot_id", text p.catalogSnapshotId)]

def ProposalFacts.timestamps (p : ProposalFacts) : Json :=
  .obj [("created_at", time p.createdAt), ("expires_at", time p.expiresAt),
    ("presented_at", time p.presentedAt), ("confirmed_at", time p.confirmedAt),
    ("commit_started_at", time p.commitStartedAt), ("completed_at", time p.completedAt)]

def transitionSnapshot (proposal : Proposal) (spec : Specification) (stage : String)
    (reason : Option String) : Except PyException (List (String × Json)) := do
  let facts ← project proposal.actionPayload PAYLOAD
  let evidence ← project proposal.confirmationEvidence EVIDENCE
  let outcome ← project proposal.resultPayload RESULT
  return [("kind", .str "PROPOSAL_TRANSITION"), ("stage", .str stage),
    ("proposal_id", .str proposal.id.str), ("state", .str proposal.status.value),
    ("reason_code", text ((truthy reason).or proposal.invalidationReason)),
    ("definition", definitionSnapshot spec), ("policy", policySnapshot spec),
    ("scope", proposal.scopeSnapshot),
    ("offer", .obj [("summary", .str proposal.customerSafeSummary), ("facts", facts),
      ("payload_fingerprint", .str proposal.payloadFingerprint)]),
    ("accepted_evidence", evidence), ("outcome", outcome), ("timestamps", proposal.timestamps)]

def archiveTransition (uuid5 : String → Uuid) (sha256 : String → String) (auditEventId : Uuid)
    (createdAt : LocalDateTime) (proposal : Proposal) (spec : Specification) (stage : String)
    (reason : Option String) : Except PyException StoredEvent := do
  let snapshot ← transitionSnapshot proposal spec stage reason
  ProposalEvidence.archive uuid5 sha256 auditEventId snapshot createdAt

/-- The value is refused as a whole. -/
def WrongShape : Schema → Json → Prop
  | .scalar, value => value ≠ .null ∧ isScalar value = false
  | .list _, value => value ≠ .null ∧ ∀ items, value ≠ .arr items
  | .object _, value => value ≠ .null ∧ ∀ fields, value ≠ .obj fields

def refusal : Schema → PyException
  | .scalar => .valueError "Evidence facts must be scalar values."
  | .list _ => .valueError "Evidence facts must be a list."
  | .object _ => .valueError "Evidence facts must be an object."

mutual

/-- Two values that differ in unlisted fields only, or are both refused. -/
def Agrees : Schema → Json → Json → Prop
  | .scalar, v, w => v = w ∨ (WrongShape .scalar v ∧ WrongShape .scalar w)
  | .list child, v, w => (v = .null ∧ w = .null) ∨
    (∃ xs ys, v = .arr xs ∧ w = .arr ys ∧ List.Forall₂ (Agrees child) xs ys) ∨
    (WrongShape (.list child) v ∧ WrongShape (.list child) w)
  | .object schema, v, w => (v = .null ∧ w = .null) ∨
    (∃ xs ys, v = .obj xs ∧ w = .obj ys ∧ AgreesFields schema xs ys) ∨
    (WrongShape (.object schema) v ∧ WrongShape (.object schema) w)

def AgreesFields : List (String × Schema) → List (String × Json) → List (String × Json) → Prop
  | [], _, _ => True
  | (key, child) :: schema, xs, ys =>
    Option.Rel (Agrees child) (lookup xs key) (lookup ys key) ∧ AgreesFields schema xs ys

end

mutual

/-- A value without an unlisted field. -/
def Conforms : Schema → Json → Prop
  | .scalar, v => v = .null ∨ isScalar v = true
  | .list child, v => v = .null ∨ ∃ xs, v = .arr xs ∧ ∀ x ∈ xs, Conforms child x
  | .object schema, v => v = .null ∨ ∃ fields, v = .obj fields ∧ ConformsFields schema fields

def ConformsFields : List (String × Schema) → List (String × Json) → Prop
  | [], fields => fields = []
  | (key, child) :: schema, fields => ConformsFields schema fields ∨
    ∃ x rest, fields = (key, x) :: rest ∧ Conforms child x ∧ ConformsFields schema rest

end

mutual

def Fits : Schema → Json → Prop
  | .scalar, v => v = .null ∨ isScalar v = true
  | .list child, v => v = .null ∨ ∃ xs, v = .arr xs ∧ ∀ x ∈ xs, Fits child x
  | .object schema, v => v = .null ∨ ∃ fields, v = .obj fields ∧ FitsFields schema fields

def FitsFields : List (String × Schema) → List (String × Json) → Prop
  | [], _ => True
  | (key, child) :: schema, fields =>
    (∀ x, lookup fields key = some x → Fits child x) ∧ FitsFields schema fields

end

mutual

def Schema.unique : Schema → Bool
  | .scalar => true
  | .list child => child.unique
  | .object schema => decide (schema.map Prod.fst).Nodup && uniqueChildren schema

def uniqueChildren : List (String × Schema) → Bool
  | [] => true
  | (_, child) :: schema => child.unique && uniqueChildren schema

end

theorem schemas_unique :
    PAYLOAD.unique = true ∧ EVIDENCE.unique = true ∧ RESULT.unique = true := by
  refine ⟨?_, ?_, ?_⟩
  · decide +kernel
  · decide +kernel
  · decide +kernel

section
variable {child : Schema} {schema : List (String × Schema)} {v w : Json}

theorem project_wrongShape {s : Schema} (h : WrongShape s v) :
    project v s = .error (refusal s) := by
  cases s with
  | scalar =>
    unfold project
    split
    · exact absurd rfl h.1
    · rw [h.2]
      rfl
  | list child =>
    unfold project
    split
    · exact absurd rfl h.1
    · next items => exact absurd rfl (h.2 items)
    · rfl
  | object schema =>
    unfold project
    split
    · exact absurd rfl h.1
    · next fields => exact absurd rfl (h.2 fields)
    · rfl

theorem project_null (s : Schema) : project .null s = .ok .null := by
  cases s with
  | scalar => rw [project]
  | list child => rw [project]
  | object schema => rw [project]

theorem project_scalar_ok :
    project v .scalar = .ok w ↔ w = v ∧ (v = .null ∨ isScalar v = true) := by
  by_cases hfits : v = .null ∨ isScalar v = true
  · have hcopied : project v .scalar = .ok v := by
      unfold project
      split
      · rfl
      · next hnull => rw [if_pos (hfits.resolve_left hnull)]
    rw [hcopied, and_iff_left hfits]
    exact ⟨fun h => (Except.ok.inj h).symm, fun h => congrArg _ h.symm⟩
  · have hwrong : WrongShape .scalar v := by
      rw [not_or, Bool.not_eq_true] at hfits
      exact hfits
    rw [project_wrongShape hwrong]
    exact ⟨nofun, fun h => absurd h.2 hfits⟩

theorem project_list_ok : project v (.list child) = .ok w ↔ (v = .null ∧ w = .null) ∨
    ∃ xs ys, v = .arr xs ∧ w = .arr ys ∧
      List.Forall₂ (fun x y => project x child = .ok y) xs ys := by
  constructor
  · intro h
    unfold project at h
    split at h
    · cases h
      exact Or.inl ⟨rfl, rfl⟩
    · next xs =>
      simp only [bind_eq_ok, pure_eq_ok, mapM_eq_ok] at h
      obtain ⟨ys, hys, rfl⟩ := h
      exact Or.inr ⟨xs, ys, rfl, rfl, hys⟩
    · cases h
  · rintro (⟨rfl, rfl⟩ | ⟨xs, ys, rfl, rfl, h⟩)
    · exact project_null _
    · rw [project]
      simp only [bind_eq_ok, pure_eq_ok, mapM_eq_ok]
      exact ⟨ys, h, rfl⟩

theorem project_object_ok : project v (.object schema) = .ok w ↔ (v = .null ∧ w = .null) ∨
    ∃ value fields, v = .obj value ∧ w = .obj fields ∧
      projectFields value schema = .ok fields := by
  constructor
  · intro h
    unfold project at h
    split at h
    · cases h
      exact Or.inl ⟨rfl, rfl⟩
    · next value =>
      simp only [bind_eq_ok, pure_eq_ok] at h
      obtain ⟨fields, hfields, rfl⟩ := h
      exact Or.inr ⟨value, fields, rfl, rfl, hfields⟩
    · cases h
  · rintro (⟨rfl, rfl⟩ | ⟨value, fields, rfl, rfl, h⟩)
    · exact project_null _
    · rw [project]
      simp only [bind_eq_ok, pure_eq_ok]
      exact ⟨fields, h, rfl⟩

theorem mapM_congr {f : Json → Except PyException Json} {xs ys : List Json}
    (h : List.Forall₂ (fun x y => f x = f y) xs ys) : xs.mapM f = ys.mapM f := by
  induction h with
  | nil => rfl
  | cons hxy _ ih => rw [List.mapM_cons, List.mapM_cons, hxy, ih]

mutual

/-- Two values that agree have one projection, or are refused with one error. -/
theorem project_agrees : ∀ (s : Schema) {v w : Json}, Agrees s v w → project v s = project w s
  | .scalar, v, w, h => by
    rw [Agrees] at h
    rcases h with rfl | ⟨hv, hw⟩
    · rfl
    · rw [project_wrongShape hv, project_wrongShape hw]
  | .list child, v, w, h => by
    rw [Agrees] at h
    rcases h with ⟨rfl, rfl⟩ | ⟨xs, ys, rfl, rfl, hitems⟩ | ⟨hv, hw⟩
    · rfl
    · have hall : List.Forall₂ (fun x y => project x child = project y child) xs ys :=
        hitems.imp fun x y hxy => project_agrees child hxy
      rw [project, project, mapM_congr hall]
    · rw [project_wrongShape hv, project_wrongShape hw]
  | .object schema, v, w, h => by
    rw [Agrees] at h
    rcases h with ⟨rfl, rfl⟩ | ⟨xs, ys, rfl, rfl, hfields⟩ | ⟨hv, hw⟩
    · rfl
    · rw [project, project, projectFields_agrees schema hfields]
    · rw [project_wrongShape hv, project_wrongShape hw]

theorem projectFields_agrees : ∀ (schema : List (String × Schema)) {xs ys : List (String × Json)},
    AgreesFields schema xs ys → projectFields xs schema = projectFields ys schema
  | [], _, _, _ => rfl
  | (key, child) :: schema, xs, ys, h => by
    rw [AgreesFields] at h
    obtain ⟨hkey, hschema⟩ := h
    rw [projectFields, projectFields, projectFields_agrees schema hschema]
    generalize lookup xs key = x, lookup ys key = y at hkey
    cases hkey with
    | none => rfl
    | some hxy =>
      simp only
      rw [project_agrees child hxy]

end

mutual

theorem project_conforms : ∀ (s : Schema) {v w : Json}, project v s = .ok w → Conforms s w
  | .scalar, v, w, h => by
    obtain ⟨rfl, hscalar⟩ := project_scalar_ok.mp h
    rw [Conforms]
    exact hscalar
  | .list child, v, w, h => by
    rw [Conforms]
    rcases project_list_ok.mp h with ⟨-, rfl⟩ | ⟨items, xs, -, rfl, hxs⟩
    · exact Or.inl rfl
    · refine Or.inr ⟨xs, rfl, fun x hx => ?_⟩
      obtain ⟨item, -, hitem⟩ := mem_right_of_forall₂ hxs hx
      exact project_conforms child hitem
  | .object schema, v, w, h => by
    rw [Conforms]
    rcases project_object_ok.mp h with ⟨-, rfl⟩ | ⟨value, fields, -, rfl, hfields⟩
    · exact Or.inl rfl
    · exact Or.inr ⟨fields, rfl, projectFields_conforms schema hfields⟩

theorem projectFields_conforms : ∀ (schema : List (String × Schema))
    {value fields : List (String × Json)}, projectFields value schema = .ok fields →
      ConformsFields schema fields
  | [], value, fields, h => by
    rw [projectFields] at h
    cases h
    rfl
  | (key, child) :: schema, value, fields, h => by
    rw [projectFields] at h
    rw [ConformsFields]
    cases hx : lookup value key with
    | none =>
      rw [hx] at h
      exact Or.inl (projectFields_conforms schema h)
    | some x =>
      rw [hx] at h
      simp only [bind_eq_ok, pure_eq_ok] at h
      obtain ⟨y, hy, rest, hrest, rfl⟩ := h
      exact Or.inr ⟨y, rest, rfl, project_conforms child hy, projectFields_conforms schema hrest⟩

end

theorem lookup_cons {key key' : String} {x : Json} {fields : List (String × Json)} :
    lookup ((key, x) :: fields) key' =
      (lookup fields key').or (if key = key' then some x else none) := by
  simp only [lookup, Json.get, List.reverse_cons, List.find?_append, List.find?_cons,
    List.find?_nil]
  cases fields.reverse.find? fun f => decide (f.1 = key') with
  | some f => rfl
  | none =>
    by_cases hkey : key = key'
    · simp [hkey]
    · simp [hkey]

theorem conformsFields_keys {fields : List (String × Json)} (h : ConformsFields schema fields) :
    (fields.map Prod.fst).Sublist (schema.map Prod.fst) := by
  induction schema generalizing fields with
  | nil =>
    rw [ConformsFields] at h
    rw [h]
    exact List.Sublist.refl _
  | cons x schema ih =>
    rw [ConformsFields] at h
    rcases h with h | ⟨y, rest, rfl, -, h⟩
    · exact (ih h).cons _
    · exact (ih h).cons_cons _

theorem lookup_eq_none {key : String} {fields : List (String × Json)}
    (h : key ∉ fields.map Prod.fst) : lookup fields key = none := by
  cases hx : lookup fields key with
  | none => rfl
  | some x =>
    obtain ⟨fields', hobj, hmem⟩ := Json.get_mem hx
    cases hobj
    exact absurd (List.mem_map_of_mem hmem) h

mutual

theorem project_of_conforms : ∀ (s : Schema) {v : Json}, s.unique = true → Conforms s v →
    project v s = .ok v
  | .scalar, v, _, h => by
    rw [Conforms] at h
    exact project_scalar_ok.mpr ⟨rfl, h⟩
  | .list child, v, hunique, h => by
    rw [Conforms] at h
    rw [Schema.unique] at hunique
    rcases h with rfl | ⟨xs, rfl, hxs⟩
    · exact project_null _
    · refine project_list_ok.mpr (Or.inr ⟨xs, xs, rfl, rfl, ?_⟩)
      rw [List.forall₂_same]
      exact fun x hx => project_of_conforms child hunique (hxs x hx)
  | .object schema, v, hunique, h => by
    rw [Conforms] at h
    rw [Schema.unique, Bool.and_eq_true, decide_eq_true_iff] at hunique
    rcases h with rfl | ⟨fields, rfl, hfields⟩
    · exact project_null _
    · exact project_object_ok.mpr (Or.inr ⟨fields, fields, rfl, rfl,
        projectFields_of_conforms schema hunique.1 hunique.2 hfields fun _ _ => rfl⟩)

theorem projectFields_of_conforms : ∀ (schema : List (String × Schema))
    {value fields : List (String × Json)}, (schema.map Prod.fst).Nodup →
      uniqueChildren schema = true → ConformsFields schema fields →
      (∀ key ∈ schema.map Prod.fst, lookup value key = lookup fields key) →
      projectFields value schema = .ok fields
  | [], value, fields, _, _, h, _ => by
    rw [ConformsFields] at h
    rw [h]
    rfl
  | (key, child) :: schema, value, fields, hkeys, hunique, h, hvalue => by
    rw [ConformsFields] at h
    rw [uniqueChildren, Bool.and_eq_true] at hunique
    obtain ⟨hnew, hkeys⟩ := List.nodup_cons.mp hkeys
    have hkey := hvalue key List.mem_cons_self
    rw [projectFields, hkey]
    rcases h with h | ⟨x, rest, rfl, hx, h⟩
    · have hnone : lookup fields key = none :=
        lookup_eq_none fun hmem => hnew ((conformsFields_keys h).mem hmem)
      rw [hnone]
      exact projectFields_of_conforms schema hkeys hunique.2 h fun k hk =>
        hvalue k (List.mem_cons_of_mem _ hk)
    · have hnone : lookup rest key = none :=
        lookup_eq_none fun hmem => hnew ((conformsFields_keys h).mem hmem)
      have hrest : projectFields value schema = .ok rest :=
        projectFields_of_conforms schema hkeys hunique.2 h fun k hk => by
          have hne : key ≠ k := fun heq => hnew (heq ▸ hk)
          rw [hvalue k (List.mem_cons_of_mem _ hk), lookup_cons, if_neg hne, Option.or_none]
      rw [lookup_cons, hnone, if_pos rfl]
      simp only [Option.none_or, bind_eq_ok, pure_eq_ok]
      exact ⟨x, project_of_conforms child hunique.1 hx, rest, hrest, rfl⟩

end

mutual

/-- The projection raises if and only if a listed value has a wrong shape. -/
theorem project_fits : ∀ (s : Schema) {v : Json}, (∃ w, project v s = .ok w) ↔ Fits s v
  | .scalar, v => by
    rw [Fits]
    constructor
    · rintro ⟨w, h⟩
      exact (project_scalar_ok.mp h).2
    · intro h
      exact ⟨v, project_scalar_ok.mpr ⟨rfl, h⟩⟩
  | .list child, v => by
    rw [Fits]
    constructor
    · rintro ⟨w, h⟩
      rcases project_list_ok.mp h with ⟨rfl, -⟩ | ⟨xs, ys, rfl, -, hys⟩
      · exact Or.inl rfl
      · refine Or.inr ⟨xs, rfl, fun x hx => ?_⟩
        obtain ⟨y, -, hy⟩ := mem_right_of_forall₂ hys.flip hx
        exact (project_fits child).mp ⟨y, hy⟩
    · rintro (rfl | ⟨xs, rfl, hxs⟩)
      · exact ⟨_, project_null _⟩
      · have hall : ∃ ys, List.Forall₂ (fun x y => project x child = .ok y) xs ys := by
          induction xs with
          | nil => exact ⟨[], .nil⟩
          | cons x xs ih =>
            obtain ⟨y, hy⟩ := (project_fits child).mpr (hxs x List.mem_cons_self)
            obtain ⟨ys, hys⟩ := ih fun x hx => hxs x (List.mem_cons_of_mem _ hx)
            exact ⟨y :: ys, .cons hy hys⟩
        obtain ⟨ys, hys⟩ := hall
        exact ⟨_, project_list_ok.mpr (Or.inr ⟨xs, ys, rfl, rfl, hys⟩)⟩
  | .object schema, v => by
    rw [Fits]
    constructor
    · rintro ⟨w, h⟩
      rcases project_object_ok.mp h with ⟨rfl, -⟩ | ⟨value, fields, rfl, -, hfields⟩
      · exact Or.inl rfl
      · exact Or.inr ⟨value, rfl, (projectFields_fits schema).mp ⟨fields, hfields⟩⟩
    · rintro (rfl | ⟨value, rfl, hvalue⟩)
      · exact ⟨_, project_null _⟩
      · obtain ⟨fields, hfields⟩ := (projectFields_fits schema).mpr hvalue
        exact ⟨_, project_object_ok.mpr (Or.inr ⟨value, fields, rfl, rfl, hfields⟩)⟩

theorem projectFields_fits : ∀ (schema : List (String × Schema)) {value : List (String × Json)},
    (∃ fields, projectFields value schema = .ok fields) ↔ FitsFields schema value
  | [], value => by
    rw [FitsFields]
    exact ⟨fun _ => trivial, fun _ => ⟨[], rfl⟩⟩
  | (key, child) :: schema, value => by
    rw [FitsFields, ← projectFields_fits schema, projectFields]
    cases hx : lookup value key with
    | none => simp
    | some x =>
      simp only [Option.some.injEq, forall_eq', bind_eq_ok, pure_eq_ok]
      rw [← project_fits child]
      constructor
      · rintro ⟨_, y, hy, fields, hfields, -⟩
        exact ⟨⟨y, hy⟩, fields, hfields⟩
      · rintro ⟨⟨y, hy⟩, fields, hfields⟩
        exact ⟨_, y, hy, fields, hfields, rfl⟩

end

end

/-- `ValueError` and nothing else is raised. -/
def RaisesValueError {α : Type} (x : Except PyException α) : Prop :=
  ∀ e, x = .error e → ∃ message, e = .valueError message

theorem RaisesValueError.ok {α : Type} (a : α) : RaisesValueError (.ok a) := nofun

theorem RaisesValueError.error {α : Type} (message : String) :
    RaisesValueError (.error (.valueError message) : Except PyException α) := by
  intro e h
  exact ⟨message, (Except.error.inj h).symm⟩

theorem RaisesValueError.bind {α β : Type} {x : Except PyException α}
    {f : α → Except PyException β} (hx : RaisesValueError x) (hf : ∀ a, RaisesValueError (f a)) :
    RaisesValueError (x >>= f) := by
  intro e h
  cases x with
  | error e' => exact hx e (congrArg Except.error (Except.error.inj h))
  | ok a => exact hf a e h

theorem RaisesValueError.mapM {f : Json → Except PyException Json}
    (h : ∀ x, RaisesValueError (f x)) (xs : List Json) : RaisesValueError (xs.mapM f) := by
  induction xs with
  | nil => exact .ok []
  | cons x xs ih =>
    rw [List.mapM_cons]
    exact (h x).bind fun y => ih.bind fun ys => .ok (y :: ys)

mutual

theorem project_raises : ∀ (s : Schema) (v : Json), RaisesValueError (project v s)
  | .scalar, v => by
    unfold project
    split
    · exact .ok _
    · split
      · exact .ok _
      · exact .error _
  | .list child, v => by
    unfold project
    split
    · exact .ok _
    · next xs =>
      exact (RaisesValueError.mapM (fun x => project_raises child x) xs).bind fun ys => .ok _
    · exact .error _
  | .object schema, v => by
    unfold project
    split
    · exact .ok _
    · next value => exact (projectFields_raises schema value).bind fun fields => .ok _
    · exact .error _

theorem projectFields_raises : ∀ (schema : List (String × Schema)) (value : List (String × Json)),
    RaisesValueError (projectFields value schema)
  | [], _ => .ok []
  | (key, child) :: schema, value => by
    rw [projectFields]
    split
    · next x _ =>
      exact (project_raises child x).bind fun y =>
        (projectFields_raises schema value).bind fun fields => .ok _
    · exact projectFields_raises schema value

end

/-- A schema is an allowlist: what it does not list has no effect and does not come out, and a
listed value of a wrong shape is refused. -/
structure Allowlist (s : Schema) : Prop where
  hides : ∀ v w, Agrees s v w → project v s = project w s
  conforms : ∀ v w, project v s = .ok w → Conforms s w
  idempotent : ∀ v w, project v s = .ok w → project w s = .ok w
  refuses : ∀ v, ¬ Fits s v → ∃ message, project v s = .error (.valueError message)

theorem allowlist_of_unique {s : Schema} (h : s.unique = true) : Allowlist s where
  hides _ _ := project_agrees s
  conforms _ _ := project_conforms s
  idempotent _ _ hw := project_of_conforms s h (project_conforms s hw)
  refuses v hfits := by
    rcases ok_or_error (project v s) with ⟨w, hw⟩ | ⟨e, he⟩
    · exact absurd ((project_fits s).mp ⟨w, hw⟩) hfits
    · obtain ⟨message, rfl⟩ := project_raises s v e he
      exact ⟨message, he⟩

/-- Two proposals that differ in unlisted fields of their documents, and in the fingerprint of the
payload, only. -/
structure SameListed (p q : Proposal) : Prop where
  facts : { q.toProposalFacts with payloadFingerprint := p.payloadFingerprint } = p.toProposalFacts
  payload : Agrees PAYLOAD p.actionPayload q.actionPayload
  evidence : Agrees EVIDENCE p.confirmationEvidence q.confirmationEvidence
  result : Agrees RESULT p.resultPayload q.resultPayload

def withFingerprint (fingerprint : String) (snapshot : List (String × Json)) :
    List (String × Json) :=
  snapshot.map fun f =>
    match f with
    | ("offer", .obj offer) => ("offer", .obj (offer.map fun g =>
        if g.1 = "payload_fingerprint" then (g.1, .str fingerprint) else g))
    | f => f

theorem transitionSnapshot_same {p q : Proposal} (same : SameListed p q) (spec : Specification)
    (stage : String) (reason : Option String) :
    transitionSnapshot q spec stage reason =
      (transitionSnapshot p spec stage reason).map (withFingerprint q.payloadFingerprint) := by
  obtain ⟨fingerprint, hfacts⟩ : ∃ fingerprint, p.toProposalFacts =
      { q.toProposalFacts with payloadFingerprint := fingerprint } := ⟨_, same.facts.symm⟩
  rw [transitionSnapshot, transitionSnapshot, project_agrees _ same.payload,
    project_agrees _ same.evidence, project_agrees _ same.result, hfacts]
  cases project q.actionPayload PAYLOAD with
  | error e => rfl
  | ok facts =>
    cases project q.confirmationEvidence EVIDENCE with
    | error e => rfl
    | ok evidence =>
      cases project q.resultPayload RESULT with
      | error e => rfl
      | ok outcome => rfl

/-- Every schema with distinct keys is an allowlist, and so are the three of a snapshot. Proposals
that agree on what is listed have one snapshot and one archived row, but for the fingerprint of the
payload in the offer. -/
theorem snapshots_allowlisted :
    (∀ s : Schema, s.unique = true → Allowlist s) ∧
      (Allowlist PAYLOAD ∧ Allowlist EVIDENCE ∧ Allowlist RESULT) ∧
      ∀ p q : Proposal, SameListed p q → ∀ (spec : Specification) (stage : String)
        (reason : Option String),
        transitionSnapshot q spec stage reason =
            (transitionSnapshot p spec stage reason).map (withFingerprint q.payloadFingerprint) ∧
          ∀ (uuid5 : String → Uuid) (sha256 : String → String) (auditEventId : Uuid)
            (createdAt : LocalDateTime),
            archiveTransition uuid5 sha256 auditEventId createdAt q spec stage reason =
              ((transitionSnapshot p spec stage reason).map
                (withFingerprint q.payloadFingerprint)) >>= fun snapshot =>
                  ProposalEvidence.archive uuid5 sha256 auditEventId snapshot createdAt := by
  obtain ⟨hpayload, hevidence, hresult⟩ := schemas_unique
  refine ⟨fun s => allowlist_of_unique, ⟨allowlist_of_unique hpayload,
    allowlist_of_unique hevidence, allowlist_of_unique hresult⟩, ?_⟩
  intro p q same spec stage reason
  have hsnapshot := transitionSnapshot_same same spec stage reason
  refine ⟨hsnapshot, fun uuid5 sha256 auditEventId createdAt => ?_⟩
  rw [archiveTransition, hsnapshot]

mutual

theorem agrees_refl : ∀ (s : Schema) (v : Json), Agrees s v v
  | .scalar, v => by
    rw [Agrees]
    exact Or.inl rfl
  | .list child, v => by
    rw [Agrees]
    by_cases hwrong : WrongShape (.list child) v
    · exact Or.inr (Or.inr ⟨hwrong, hwrong⟩)
    · cases v with
      | null => exact Or.inl ⟨rfl, rfl⟩
      | arr xs =>
        exact Or.inr
          (Or.inl ⟨xs, xs, rfl, rfl, List.forall₂_same.mpr fun x _ => agrees_refl child x⟩)
      | _ => exact absurd (by simp [WrongShape]) hwrong
  | .object schema, v => by
    rw [Agrees]
    by_cases hwrong : WrongShape (.object schema) v
    · exact Or.inr (Or.inr ⟨hwrong, hwrong⟩)
    · cases v with
      | null => exact Or.inl ⟨rfl, rfl⟩
      | obj fields =>
        exact Or.inr (Or.inl ⟨fields, fields, rfl, rfl, agreesFields_refl schema fields⟩)
      | _ => exact absurd (by simp [WrongShape]) hwrong

theorem agreesFields_refl : ∀ (schema : List (String × Schema)) (fields : List (String × Json)),
    AgreesFields schema fields fields
  | [], _ => trivial
  | (key, child) :: schema, fields => by
    rw [AgreesFields]
    refine ⟨?_, agreesFields_refl schema fields⟩
    cases lookup fields key with
    | none => exact .none
    | some x => exact .some (agrees_refl child x)

end

theorem AgreesFields.unlisted {schema : List (String × Schema)} {xs ys : List (String × Json)}
    {key : String} {x y : Json} (h : AgreesFields schema xs ys) (hkey : key ∉ schema.map Prod.fst) :
    AgreesFields schema ((key, x) :: xs) ((key, y) :: ys) := by
  induction schema with
  | nil => trivial
  | cons c schema ih =>
    rw [AgreesFields] at h ⊢
    rw [List.map_cons, List.mem_cons, not_or] at hkey
    refine ⟨?_, ih h.2 hkey.2⟩
    rw [lookup_cons, lookup_cons, if_neg hkey.1, if_neg hkey.1, Option.or_none, Option.or_none]
    exact h.1

def freezeCard : Specification where
  actionType := "FREEZE_CARD"
  contractVersion := "1"
  definitionId := "freeze-card"
  definitionRevision := 1
  definitionDigest := "digest"
  document := none
  policyName := "GENERAL_ACKNOWLEDGMENT"
  riskTier := .boundedServicing
  presentationPolicy := .flexibleSummary
  decisionPolicy := .explicitVerbal
  acceptedSources := {"MODEL_TOOL_INTENT"}
  requireLaterCustomerTurn := true
  requiredPresentationAcknowledgment := none
  acceptedPresentationAcknowledgmentSources := ∅
  recoveryPolicy := .retrySameProposal
  requiredFactKeys := {"card_last_four"}
  qualityGate := .releaseEvaluation
  naturalLanguageAllowed := true
  disclosureReference := none

def sha256 (text : String) : String :=
  if text = "\x7b\"card_last_four\":\"4242\",\"card_token\":\"token-1\"\x7d" then
    "46f95f9f253e6b70c7cb169fe9974e6e91d9a2b221dd5f3fa80c74c9914d7e8c"
  else if text = "\x7b\"card_last_four\":\"4242\",\"card_token\":\"token-2\"\x7d" then
    "37ba988bced6177b74c4762cd3eaaa5f32bf854c330f39fd3acca7646b07e4c8"
  else ""

def freezePayload (token : String) : Json :=
  .obj [("card_token", .str token), ("card_last_four", .str "4242")]

def proposed (token : String) : Proposal where
  id := .ofNat 1
  status := .proposed
  invalidationReason := none
  customerId := .ofNat 7
  accountId := none
  supportSessionId := "session-1"
  runtimeName := "adk"
  runtimeSessionId := "runtime-1"
  resetGeneration := "0"
  originatingCustomerTurnId := "turn-1"
  catalogSnapshotId := none
  customerSafeSummary := "Freeze the card ending in 4242."
  payloadFingerprint := payloadFingerprint sha256 Json.dumps (freezePayload token)
  createdAt := none
  expiresAt := none
  presentedAt := none
  confirmedAt := none
  commitStartedAt := none
  completedAt := none
  actionPayload := freezePayload token
  confirmationEvidence := .null
  resultPayload := .null

theorem sameListed_proposed : SameListed (proposed "token-1") (proposed "token-2") := by
  have hfields : ∃ schema, PAYLOAD = .object schema ∧ "card_token" ∉ schema.map Prod.fst :=
    ⟨_, rfl, by decide +kernel⟩
  obtain ⟨schema, hschema, hunlisted⟩ := hfields
  refine ⟨rfl, ?_, agrees_refl _ _, agrees_refl _ _⟩
  rw [hschema, Agrees]
  exact Or.inr (Or.inl ⟨_, _, rfl, rfl, (agreesFields_refl schema _).unlisted hunlisted⟩)

theorem card_token_hidden :
    (∃ snapshot, transitionSnapshot (proposed "token-1") freezeCard "PROPOSED" none =
        .ok snapshot) ∧
      transitionSnapshot (proposed "token-2") freezeCard "PROPOSED" none =
        (transitionSnapshot (proposed "token-1") freezeCard "PROPOSED" none).map
          (withFingerprint (proposed "token-2").payloadFingerprint) := by
  refine ⟨by decide +kernel, ?_⟩
  exact (snapshots_allowlisted.2.2 _ _ sameListed_proposed freezeCard "PROPOSED" none).1

/-- The fingerprint of the payload is a digest of the card token too. -/
theorem card_token_fingerprinted :
    ¬ ∀ (sha256 : String → String) (payloadJson : Json → String) (p q : Proposal),
      p.payloadFingerprint = payloadFingerprint sha256 payloadJson p.actionPayload →
      q.payloadFingerprint = payloadFingerprint sha256 payloadJson q.actionPayload →
      SameListed p q → ∀ (spec : Specification) (stage : String) (reason : Option String),
        transitionSnapshot p spec stage reason = transitionSnapshot q spec stage reason := by
  intro hall
  have hsame := hall sha256 Json.dumps (proposed "token-1") (proposed "token-2") rfl rfl
    sameListed_proposed freezeCard "PROPOSED" none
  have hoffer := congrArg (fun s => s.map fun snapshot =>
    ((lookup snapshot "offer").bind (Json.get "payload_fingerprint")).map Json.text) hsame
  exact absurd hoffer (by decide +kernel)

end BankingService.EvidenceSnapshots
