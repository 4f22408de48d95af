import Mathlib.Data.List.Nodup
import BankingService.ProposalProtocol

/-! The headers that carry a runtime's trusted values to the bank, and the decisions whose evidence
the bank accepts. -/
namespace BankingService

open Python Checked

abbrev Headers := List (String × String)

/-- A header under its lower-case name; of two with one name the later counts. -/
def header (hs : Headers) (name : String) : Option String :=
  (hs.reverse.find? fun h => lower h.1 = name).map Prod.snd

def OneLine (s : String) : Prop :=
  ∀ c ∈ s.toList, c ≠ Char.ofNat 13 ∧ c ≠ Char.ofNat 10

instance : DecidablePred OneLine := fun s => List.decidableBAll _ s.toList

/-- `_required`. -/
def requiredHeader (hs : Headers) (name : String) (maxLength : ℕ) : Except String String := do
  let value := strip ((header hs name).getD "")
  require (value ≠ "") ("Missing trusted runtime header: " ++ name ++ ".")
  require (value.length ≤ maxLength ∧ OneLine value)
    ("Invalid trusted runtime header: " ++ name ++ ".")
  return value

/-- `normalized.get(name, "").strip() or None`. -/
def optionalHeader (hs : Headers) (name : String) : Option String :=
  truthy ((header hs name).map strip)

/-- `from_headers`; it raises `RuntimeContextError` with the text. -/
def ProposalRuntimeContext.fromHeaders (hs : Headers) : Except String ProposalRuntimeContext := do
  let supportSessionId ← requiredHeader hs "x-support-session-id" 255
  let runtimeName ← requiredHeader hs "x-runtime-name" 64
  let runtimeSessionId ← requiredHeader hs "x-runtime-session-id" 255
  let customerTurnId ← requiredHeader hs "x-customer-turn-id" 255
  let resetGeneration ← requiredHeader hs "x-reset-generation" 64
  return {
    supportSessionId := supportSessionId
    runtimeName := runtimeName
    runtimeSessionId := runtimeSessionId
    customerTurnId := customerTurnId
    resetGeneration := resetGeneration
    catalogSnapshotId := optionalHeader hs "x-catalog-snapshot-id"
    presentationTurnId := optionalHeader hs "x-proposal-presentation-turn-id"
    confirmationTurnId := optionalHeader hs "x-proposal-confirmation-turn-id"
    confirmationMethod := optionalHeader hs "x-proposal-confirmation-method"
    confirmationSource := optionalHeader hs "x-proposal-confirmation-source" }

theorem header_of_mem {hs : Headers} {name value : String}
    (hnodup : (hs.map fun h => lower h.1).Nodup) (hmem : (name, value) ∈ hs)
    (hname : lower name = name) : header hs name = some value := by
  cases hf : hs.reverse.find? fun h => lower h.1 = name with
  | none =>
    have hnone := List.find?_eq_none.mp hf (name, value) (List.mem_reverse.mpr hmem)
    exact absurd (decide_eq_true hname) hnone
  | some x =>
    have hx : lower x.1 = name := of_decide_eq_true (List.find?_some hf :)
    have hxmem : x ∈ hs := List.mem_reverse.mp (List.mem_of_find?_eq_some hf)
    rw [header, hf, List.inj_on_of_nodup_map hnodup hxmem hmem (hx.trans hname.symm)]
    rfl

/-- A turn as the runtimes name it: neither blank around nor the placeholder. -/
structure RealTurn (id : String) : Prop where
  nonempty : id ≠ ""
  trimmed : strip id = id
  known : id ≠ "unknown-turn"

section
variable {hs : Headers} {name value : String} {maxLength : ℕ}

theorem requiredHeader_eq_ok {v : String} :
    requiredHeader hs name maxLength = .ok v ↔
      v = strip ((header hs name).getD "") ∧ v ≠ "" ∧ v.length ≤ maxLength ∧ OneLine v := by
  simp only [requiredHeader, bind_eq_ok, require_eq_ok, pure_eq_ok]
  constructor
  · rintro ⟨-, hne, -, hfits, rfl⟩
    exact ⟨rfl, hne, hfits⟩
  · rintro ⟨rfl, hne, hfits⟩
    exact ⟨(), hne, (), hfits, rfl⟩

theorem optionalHeader_of (h : header hs name = some value) (htrim : strip value = value)
    (hne : value ≠ "") : optionalHeader hs name = some value := by
  rw [optionalHeader, h, Option.map_some, htrim, truthy, Option.filter_some, if_pos]
  exact decide_eq_true hne

end

structure AuthorizationPolicy.Verbal (policy : AuthorizationPolicy) : Prop where
  method : policy.decisionPolicy = .explicitVerbal
  source : "MODEL_TOOL_INTENT" ∈ policy.acceptedSources
  unacknowledged : truthy policy.requiredPresentationAcknowledgment = none

/-- The headers that carry a spoken decision of the turn `confirmation`. -/
structure CarriesDecision (hs : Headers) (presentation confirmation : String) : Prop where
  customerTurn : header hs "x-customer-turn-id" = some confirmation
  presentation : header hs "x-proposal-presentation-turn-id" = some presentation
  confirmation : header hs "x-proposal-confirmation-turn-id" = some confirmation
  method : header hs "x-proposal-confirmation-method" = some "EXPLICIT_VERBAL"
  source : header hs "x-proposal-confirmation-source" = some "MODEL_TOOL_INTENT"

variable {context : ProposalRuntimeContext} {policy : AuthorizationPolicy}
  {requirement : PresentationRequirement}
  {acknowledgment : Option ProtectedPresentationAcknowledgment}
  {hs : Headers} {presentation confirmation : String}

theorem validateDecision_accepts (hpolicy : policy.Verbal) (hp : presentation ≠ "")
    (hc : RealTurn confirmation) (hne : confirmation ≠ presentation)
    (hturn : context.customerTurnId = confirmation)
    (hpresentation : context.presentationTurnId = some presentation)
    (hconfirmation : context.confirmationTurnId = some confirmation)
    (hmethod : context.confirmationMethod = some "EXPLICIT_VERBAL")
    (hsource : context.confirmationSource = some "MODEL_TOOL_INTENT") :
    ∃ v, validateDecision context policy requirement acknowledgment = .ok v ∧
      v.presentationTurnId = presentation ∧ v.decisionTurnId = confirmation := by
  have hpt : truthy context.presentationTurnId = some presentation := by
    rw [hpresentation, truthy, Option.filter_some, if_pos (decide_eq_true hp)]
  have hct : truthy context.confirmationTurnId = some confirmation := by
    rw [hconfirmation, truthy, Option.filter_some, if_pos (decide_eq_true hc.nonempty)]
  have hst : context.confirmationSource.filter (fun s => s ∈ policy.acceptedSources) =
      some "MODEL_TOOL_INTENT" := by
    rw [hsource, Option.filter_some, if_pos (decide_eq_true hpolicy.source)]
  have hack : checkAcknowledgment policy requirement acknowledgment = .ok () := by
    rw [checkAcknowledgment, hpolicy.unacknowledged]
  have hknown : context.customerTurnId ≠ "unknown-turn" := by
    rw [hturn]
    exact hc.known
  have hspoken : context.confirmationMethod = some policy.decisionPolicy.value := by
    rw [hmethod, hpolicy.method]
    rfl
  rw [validateDecision, require_of hknown, hpt, hct, hst, require_of hspoken, hack]
  simp only [orRaise, ok_bind, require_of hne, require_of hturn]
  exact ⟨_, rfl, rfl, rfl⟩

theorem CarriesDecision.accepted (h : CarriesDecision hs presentation confirmation)
    (hpolicy : policy.Verbal) (hp : presentation ≠ "") (htrim : strip presentation = presentation)
    (hc : RealTurn confirmation) (hne : confirmation ≠ presentation)
    (hcontext : ProposalRuntimeContext.fromHeaders hs = .ok context) :
    ∃ v, validateDecision context policy requirement acknowledgment = .ok v ∧
      v.presentationTurnId = presentation ∧ v.decisionTurnId = confirmation := by
  simp only [ProposalRuntimeContext.fromHeaders, bind_eq_ok, pure_eq_ok, requiredHeader_eq_ok]
    at hcontext
  obtain ⟨_, -, _, -, _, -, turn, ⟨hturn, -⟩, _, -, rfl⟩ := hcontext
  rw [h.customerTurn, Option.getD_some, hc.trimmed] at hturn
  refine validateDecision_accepts hpolicy hp hc hne hturn ?_ ?_ ?_ ?_
  · exact optionalHeader_of h.presentation htrim hp
  · exact optionalHeader_of h.confirmation hc.trimmed hc.nonempty
  · exact optionalHeader_of h.method (by decide) (by decide)
  · exact optionalHeader_of h.source (by decide) (by decide)

end BankingService
