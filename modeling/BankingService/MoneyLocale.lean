import BankingService.Library.Dict
import BankingService.ProposalEvidence
import BankingService.WorkflowAuthorization

/-! The language of a voice session. Another language takes the evidence away that was gathered in
the old one: a pending proposal is to be presented again and an authorization is invalidated. -/
namespace BankingService.MoneyLocale

open Python Checked ProposalEvidence WorkflowAuthorization

def SUPPORTED_SUPPORT_LOCALES : List String :=
  ["en-US", "es-MX", "es-ES", "es-US", "fr-CA", "fr-FR", "de-DE", "pt-BR", "it-IT"]

def effectiveVoiceLocale (requested : String) : String :=
  if requested ∈ SUPPORTED_SUPPORT_LOCALES then requested else "en-US"

def MONEY_LANGUAGE_INSTRUCTION : String :=
  "Explain banking facts naturally in the selected language. Use concise amounts " ++
  "such as 'twelve ninety-nine' or 'doce con noventa y nueve' when USD is established. " ++
  "For whole-dollar amounts, speak natural whole dollars (such as 'ten thousand dollars' " ++
  "or 'eleven thousand dollars') and never pronounce 'point zero zero' or 'zero cents'. " ++
  "Use decimal notation in plain text without extra backslashes before " ++
  "currency symbols or merchant punctuation. Make the currency explicit when ambiguous, when it " ++
  "changes, or when original and billing currencies differ. Preserve every amount, " ++
  "currency, merchant, and action consequence. Never perform FX or recalculate amounts. " ++
  "Reference summaries are facts to explain conversationally, not scripts to recite, and " ++
  "never use internal protocol words like 'proposal' with the customer."

section
variable (locale : String)

mutual

/-- `select_banking_presentation`: every dictionary shows its presentation in the locale, or in
English. -/
def selectBankingPresentation : Json → Except PyException Json
  | .arr items => do return .arr (← selectItems items)
  | .obj fields => do
    let result ← selectFields fields
    match ← presentationIn fields with
    | some selected => return .obj (Relational.Dict.set result "presentation" selected)
    | none => return .obj result
  | value => return value

def selectItems : List Json → Except PyException (List Json)
  | [] => return []
  | item :: items => do return (← selectBankingPresentation item) :: (← selectItems items)

def selectFields : List (String × Json) → Except PyException (List (String × Json))
  | [] => return []
  | (key, item) :: fields => do
    if key = "presentations" ∨ key = "speech_text" then selectFields fields
    else return (key, ← selectBankingPresentation item) :: (← selectFields fields)

def presentationIn : List (String × Json) → Except PyException (Option Json)
  | [] => return none
  | (key, item) :: fields =>
    if key = "presentations" then
      match item with
      | .obj presentations => do
        match ← presentationFor locale presentations with
        | some selected => return some selected
        | none => presentationFor "en-US" presentations
      | item => if Python.truthy item then .error .attributeError else return none
    else presentationIn fields

def presentationFor (wanted : String) : List (String × Json) → Except PyException (Option Json)
  | [] => return none
  | (key, item) :: fields =>
    if key = wanted then
      if Python.truthy item then some <$> selectBankingPresentation item else return none
    else presentationFor wanted fields

end

end

structure VoiceSession where
  voiceLocale : Option String
  pending : Option PendingProposal
  authorization : Option Authorization
  bankingProposalPresentation : List (String × Json)

/-- `state.get("voice_locale", "en-US")`. -/
def VoiceSession.locale (s : VoiceSession) : String := s.voiceLocale.getD "en-US"

/-- A commit of the pending proposal is in flight or awaits a retry. -/
def CommitUncertain (s : VoiceSession) : Prop :=
  ∃ p ∈ s.pending, p.evidenceState = .commitInFlight ∨ p.evidenceState = .commitRetry

instance (s : VoiceSession) : Decidable (CommitUncertain s) :=
  match h : s.pending with
  | none => isFalse (by simp [CommitUncertain, h])
  | some p => decidable_of_iff (p.evidenceState = .commitInFlight ∨ p.evidenceState = .commitRetry)
      (by simp [CommitUncertain, h])

def selectedProposal (s : VoiceSession) (locale : String) : Except PyException (Option Json) :=
  match s.pending, lookup s.bankingProposalPresentation "proposal_id" with
  | some p, some (.str proposalId) =>
    if proposalId = p.proposalId then
      some <$> selectBankingPresentation locale (.obj s.bankingProposalPresentation)
    else return none
  | _, _ => return none

structure LanguageAnswer where
  effectiveLocale : String
  fallback : Bool
  requiresFreshConfirmation : Bool
  message : String
  modelInstruction : String
  proposal : Option Json

/-- Only a `selected` language is a success. -/
inductive LanguageResult where
  | unsupported (error effectiveLocale : String)
  | unresolved (effectiveLocale message : String)
  | selected (answer : LanguageAnswer)

def LanguageResult.success : LanguageResult → Bool
  | selected _ => true
  | _ => false

def selectedLocale (requestedLocale : String) (runtimeUnavailable : Bool) : String :=
  if runtimeUnavailable then "en-US" else effectiveVoiceLocale requestedLocale

/-- Takes the evidence away, and sets the locale. -/
def VoiceSession.renew (s : VoiceSession) (selected : String) : VoiceSession :=
  { s with
    voiceLocale := some selected
    pending := s.pending.map requireRePresentation
    authorization := s.authorization.map fun a =>
      invalidateWorkflowAuthorization a "LANGUAGE_CHANGED" none .invalidated }

def changeVoiceLanguage (s : VoiceSession) (requestedLocale : String) (runtimeUnavailable : Bool) :
    Except PyException (VoiceSession × LanguageResult) := do
  if requestedLocale ∉ SUPPORTED_SUPPORT_LOCALES then
    return (s, .unsupported "UNSUPPORTED_LANGUAGE" s.locale)
  let selected := selectedLocale requestedLocale runtimeUnavailable
  if CommitUncertain s then
    return (s, .unresolved s.locale "Resolve the pending action result before changing language.")
  let proposal ← selectedProposal s selected
  let changed := selected ≠ s.locale
  let fallback := selected ≠ requestedLocale
  return (if changed ∨ fallback then s.renew selected else s, .selected {
    effectiveLocale := selected
    fallback
    requiresFreshConfirmation := s.pending.isSome ∧ (changed ∨ fallback)
    message :=
      if fallback then "The selected language is unavailable. Explain the switch to English."
      else if changed then "Language changed." else "Language unchanged."
    modelInstruction := "Continue in " ++ selected ++ ". " ++ MONEY_LANGUAGE_INSTRUCTION ++
      " Explain the complete proposal and wait for a later customer turn before committing."
    proposal })

end BankingService.MoneyLocale
