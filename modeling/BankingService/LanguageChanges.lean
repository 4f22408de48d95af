import BankingService.AttestedDecisions
import BankingService.ConfirmedActions
import BankingService.MoneyLocale

/-! After a change of language nothing runs on evidence from before it. An authorization that is
under way is not looked at before the change, and is lost by it. -/
namespace LanguageChanges

open BankingService BankingService.ProposalEvidence BankingService.WorkflowAuthorization
  BankingService.MoneyLocale Runs History

variable (h : Digests)

/-- An authorization was started, and what came of it is not known. -/
def ExecutionUncertain (s : VoiceSession) : Prop :=
  ∃ a ∈ s.authorization, a.status = .executing ∨ a.status = .recoveryRequired

inductive Event where
  | proposal (call : AttestedDecisions.Call)
  | authorization (event : ConfirmedActions.Event)
  | present (presentation : List (String × Json))
  | language (requestedLocale : String) (runtimeUnavailable : Bool)

def Enabled (s : VoiceSession) : Event → Prop
  | .proposal (.commit proposalId actionType) =>
    proposalEvidenceError s.pending proposalId actionType = none
  | .authorization e => ConfirmedActions.Allowed h s.authorization e
  | _ => True

def next (s : VoiceSession) : Event → VoiceSession
  | .proposal call => { s with
    pending := AttestedDecisions.act s.pending call }
  | .authorization e => { s with
    authorization := ConfirmedActions.act h s.authorization e }
  | .present presentation => { s with
    bankingProposalPresentation := presentation }
  | .language requestedLocale runtimeUnavailable =>
    match changeVoiceLanguage s requestedLocale runtimeUnavailable with
    | .ok (s', _) => s'
    | .error _ => s

def session : Machine VoiceSession Event := ⟨Enabled h, next h⟩

def Event.proposalCall? : Event → Option AttestedDecisions.Call
  | proposal call => some call
  | _ => none

def Event.authorizationEvent? : Event → Option ConfirmedActions.Event
  | authorization e => some e
  | _ => none

def proposalCalls (es : List Event) : List AttestedDecisions.Call :=
  es.filterMap Event.proposalCall?

def authorizationEvents (es : List Event) : List ConfirmedActions.Event :=
  es.filterMap Event.authorizationEvent?

def Presented (p : PendingProposal) : List AttestedDecisions.Call → Prop :=
  Since AttestedDecisions.Resets fun _ e => ∃ id observedAt, e = .present id observedAt ∧
    p.presentationTurnId = some id ∧ p.presentationObservedAt = some observedAt

def Decided (p : PendingProposal) : List AttestedDecisions.Call → Prop :=
  Since AttestedDecisions.Resets fun before e => Presented p before ∧
    ∃ id observedAt presentedAt, e = .attest p.proposalId p.actionType id observedAt ∧
      p.confirmationTurnId = some id ∧ id ≠ p.originatingCustomerTurnId ∧
      p.presentationTurnId ≠ some id ∧ p.presentationObservedAt = some presentedAt ∧
      presentedAt < observedAt

/-- What a state says has happened since the evidence was taken away. -/
def Regained (cs : List AttestedDecisions.Call) (p : PendingProposal) : Prop :=
  match p.evidenceState with
  | .awaitingPresentation => True
  | .awaitingDecision => Presented p cs
  | .decisionAttested | .commitInFlight | .commitRetry => Decided p cs

section
variable {p : PendingProposal} {cs : List AttestedDecisions.Call} {c : AttestedDecisions.Call}

theorem Regained.later (hp : Regained cs p) (hc : ¬ AttestedDecisions.Resets c) :
    Regained (cs ++ [c]) p := by
  unfold Regained at hp ⊢
  cases hs : p.evidenceState <;> rw [hs] at hp
  case awaitingPresentation => trivial
  all_goals exact Since.later hp hc

theorem decided_of_attested (hp : Regained cs p) (hs : p.evidenceState.Attested) :
    Decided p cs := by
  unfold Regained at hp
  rcases hs with hs | hs
  · rw [hs] at hp
    exact hp
  · rw [hs] at hp
    exact hp

theorem regained_next {s : Option PendingProposal} (hs : ∀ p ∈ s, Regained cs p) :
    ∀ p ∈ AttestedDecisions.act s c, Regained (cs ++ [c]) p := by
  intro q hq
  have plain : (∀ id action version originating, c ≠ .create id action version originating) →
      (∀ answered, c ≠ .represent answered) → ¬ AttestedDecisions.Resets c := by
    rintro hcreate hrepresent (⟨_, _, _, _, heq⟩ | ⟨_, heq⟩)
    · exact hcreate _ _ _ _ heq
    · exact hrepresent _ heq
  cases c with
  | create id action version originating =>
    cases hq
    trivial
  | represent answered =>
    obtain ⟨p, -, rfl⟩ := Option.map_eq_some_iff.mp hq
    trivial
  | present id observedAt =>
    obtain ⟨p, hp, rfl⟩ := Option.map_eq_some_iff.mp hq
    rcases presented_cases p id observedAt with ⟨-, heq⟩ | heq
    · rw [heq]
      exact Since.here ⟨id, observedAt, rfl, rfl, rfl⟩
    · rw [heq]
      exact (hs p hp).later (plain nofun nofun)
  | attest id action customer observedAt =>
    obtain ⟨p, hp, rfl⟩ := Option.map_eq_some_iff.mp hq
    have hpast := hs p hp
    rcases attested_cases p id action customer observedAt with ⟨ha, heq⟩ | heq
    · rw [heq]
      unfold Regained at hpast
      rw [ha.awaited] at hpast
      obtain ⟨-, -, -, -, ⟨turn, presentedAt, -, hturn, hpresentedAt⟩, -⟩ :=
        show Presented p cs from hpast
      have hlater := ha.later
      have hne := ha.notPresenting
      rw [hpresentedAt] at hlater
      rw [hturn] at hne
      obtain ⟨rfl, rfl⟩ := And.intro ha.sameProposal ha.sameAction
      refine Since.here ⟨hpast, customer, observedAt, presentedAt, rfl, rfl, ha.notOriginating, ?_,
        hpresentedAt, hlater⟩
      intro hsame
      rw [hturn] at hsame
      exact hne (Option.some.inj hsame).symm
    · rw [heq]
      exact hpast.later (plain nofun nofun)
  | commit id action =>
    obtain ⟨p, hp, rfl⟩ := Option.map_eq_some_iff.mp hq
    have hpast := (hs p hp).later (c := .commit id action) (plain nofun nofun)
    unfold markCommitInFlight
    split
    · next hattested =>
      have hdecided : Decided p _ := decided_of_attested hpast hattested
      exact hdecided
    · exact hpast
  | retry reason =>
    obtain ⟨p, hp, rfl⟩ := Option.map_eq_some_iff.mp hq
    have hpast := (hs p hp).later (c := .retry reason) (plain nofun nofun)
    unfold markCommitRetry
    split
    · next hflight =>
      unfold Regained at hpast
      rw [hflight] at hpast
      exact hpast
    · exact hpast

end

/-- A record is past use, or its evidence was gathered since. -/
def Rearmed (es : List ConfirmedActions.Event) (a : Authorization) : Prop :=
  a.status.Terminal ∨ ConfirmedActions.Evidenced h es a

section
variable {h} {a : Authorization} {es : List ConfirmedActions.Event} {e : ConfirmedActions.Event}

theorem invalidated_terminal {reason : String} {eventId : Option String}
    {status : AuthorizationStatus}
    (hs : status.Terminal) :
    (invalidateWorkflowAuthorization a reason eventId status).status.Terminal := by
  unfold invalidateWorkflowAuthorization
  split
  · assumption
  · exact hs

theorem rearmed_next {s : Option Authorization} (hs : ∀ a ∈ s, Rearmed h es a)
    (he : ConfirmedActions.Allowed h s e) :
    ∀ a ∈ ConfirmedActions.act h s e, Rearmed h (es ++ [e]) a := by
  intro b hb
  by_cases hinvalidate : ∃ reason eventId status, e.call = .invalidate reason eventId status
  · obtain ⟨reason, eventId, status, hcall⟩ := hinvalidate
    rw [ConfirmedActions.act, hcall] at hb
    rw [ConfirmedActions.Allowed, hcall] at he
    obtain ⟨a, -, rfl⟩ := Option.map_eq_some_iff.mp hb
    exact Or.inl (invalidated_terminal he)
  · have hplain : ConfirmedActions.Plain e := fun reason eventId hcall =>
      hinvalidate ⟨reason, eventId, _, hcall⟩
    by_cases hreplaces : ConfirmedActions.Replaces h e
    · -- the old record does not matter
      obtain ⟨action, payload, sessionId, originating, ttl, a, hcall, hok⟩ := hreplaces
      have hnone : ConfirmedActions.act h none e = some b := by
        rw [ConfirmedActions.act, hcall] at hb ⊢
        dsimp only at hb ⊢
        rw [hok] at hb ⊢
        exact hb
      have hallowed : ConfirmedActions.Allowed h none e := by
        rw [ConfirmedActions.Allowed, hcall]
        trivial
      exact Or.inr (ConfirmedActions.evidenced_next (fun _ ha => by cases ha) hallowed hplain hnone)
    · cases s with
      | none =>
        exact Or.inr (ConfirmedActions.evidenced_next (fun _ ha => by cases ha) he hplain hb)
      | some a =>
        rcases hs a rfl with hterminal | hev
        · rw [ConfirmedActions.terminal_kept h hterminal hreplaces] at hb
          cases hb
          exact Or.inl hterminal
        · refine Or.inr (ConfirmedActions.evidenced_next ?_ he hplain hb)
          rintro a' ⟨⟩
          exact hev

end

/-- No evidence is left that an action can run on. -/
structure Dropped (s : VoiceSession) : Prop where
  proposal :
    ∀ p ∈ s.pending, p.evidenceState = .awaitingPresentation ∧ p.presentationTurnId = none ∧
    p.presentationObservedAt = none ∧ p.confirmationTurnId = none
  authorization : ∀ a ∈ s.authorization, a.status.Terminal

/-- The call is not carried out, and leaves the state alone. -/
def Refused (s : VoiceSession) (requestedLocale : String) (runtimeUnavailable : Bool) : Prop :=
  ∀ s' result, changeVoiceLanguage s requestedLocale runtimeUnavailable = .ok (s', result) →
    s' = s ∧ result.success = false

def Readable (s : VoiceSession) (locale : String) : Prop :=
  ∃ proposal, selectedProposal s locale = .ok proposal

section
variable {h} {s s' : VoiceSession} {requestedLocale : String} {runtimeUnavailable : Bool}
  {result : LanguageResult}

theorem renew_dropped (s : VoiceSession) (selected : String) : Dropped (s.renew selected) where
  proposal p hp := by
    obtain ⟨q, -, rfl⟩ := Option.map_eq_some_iff.mp hp
    exact ⟨rfl, rfl, rfl, rfl⟩
  authorization a ha := by
    obtain ⟨b, -, rfl⟩ := Option.map_eq_some_iff.mp ha
    exact invalidated_terminal (by decide)

theorem change_cases
    (hchange : changeVoiceLanguage s requestedLocale runtimeUnavailable = .ok (s', result)) :
    ((requestedLocale ∉ SUPPORTED_SUPPORT_LOCALES ∨ CommitUncertain s) ∧ s' = s ∧
      result.success = false) ∨
    (requestedLocale ∈ SUPPORTED_SUPPORT_LOCALES ∧ ¬ CommitUncertain s ∧
      Readable s (selectedLocale requestedLocale runtimeUnavailable) ∧ result.success = true ∧
      (s' = s ∨ s' = s.renew (selectedLocale requestedLocale runtimeUnavailable))) := by
  unfold changeVoiceLanguage at hchange
  by_cases hsupported : requestedLocale ∈ SUPPORTED_SUPPORT_LOCALES
  · rw [if_neg (not_not.mpr hsupported)] at hchange
    by_cases huncertain : CommitUncertain s
    · simp only [huncertain, if_true] at hchange
      cases hchange
      exact Or.inl ⟨Or.inr huncertain, rfl, rfl⟩
    · simp only [huncertain, if_false, Checked.bind_eq_ok, Checked.pure_eq_ok] at hchange
      obtain ⟨proposal, hproposal, heq⟩ := hchange
      cases heq
      refine Or.inr ⟨hsupported, huncertain, ⟨proposal, hproposal⟩, rfl, ?_⟩
      split
      · exact Or.inr rfl
      · exact Or.inl rfl
  · rw [if_pos hsupported] at hchange
    cases hchange
    exact Or.inl ⟨Or.inl hsupported, rfl, rfl⟩

theorem change_selects (supported : requestedLocale ∈ SUPPORTED_SUPPORT_LOCALES)
    (certain : ¬ CommitUncertain s)
    (readable : Readable s (selectedLocale requestedLocale runtimeUnavailable)) :
    ¬ Refused s requestedLocale runtimeUnavailable := by
  obtain ⟨proposal, hproposal⟩ := readable
  intro hrefused
  have hsucceeds : ∃ s' answer, changeVoiceLanguage s requestedLocale runtimeUnavailable =
      .ok (s', .selected answer) := by
    unfold changeVoiceLanguage
    rw [if_neg (not_not.mpr supported)]
    simp only [certain, if_false, hproposal]
    exact ⟨_, _, rfl⟩
  obtain ⟨s', answer, hchange⟩ := hsucceeds
  obtain ⟨-, hresult⟩ := hrefused s' _ hchange
  cases hresult

theorem change_unrefused :
    ¬ Refused s requestedLocale runtimeUnavailable ↔
      requestedLocale ∈ SUPPORTED_SUPPORT_LOCALES ∧ ¬ CommitUncertain s ∧
        Readable s (selectedLocale requestedLocale runtimeUnavailable) := by
  constructor
  · intro hne
    unfold Refused at hne
    push Not at hne
    obtain ⟨s', result, hchange, hresult⟩ := hne
    rcases change_cases hchange with ⟨-, rfl, hfalse⟩ | ⟨hsupported, hcertain, hreadable, -⟩
    · exact absurd hfalse (hresult rfl)
    · exact ⟨hsupported, hcertain, hreadable⟩
  · rintro ⟨hsupported, hcertain, hreadable⟩
    exact change_selects hsupported hcertain hreadable

theorem dropped_of_change
    (hchange : changeVoiceLanguage s requestedLocale runtimeUnavailable = .ok (s', result))
    (hlocale : s'.locale ≠ s.locale) : Dropped s' := by
  rcases change_cases hchange with ⟨-, rfl, -⟩ | ⟨-, -, -, -, rfl | rfl⟩
  · exact absurd rfl hlocale
  · exact absurd rfl hlocale
  · exact renew_dropped s _

/-- Every record's evidence was gathered in the events. -/
structure Fresh (h : Digests) (es : List Event) (s : VoiceSession) : Prop where
  proposal : ∀ p ∈ s.pending, Regained (proposalCalls es) p
  authorization : ∀ a ∈ s.authorization, Rearmed h (authorizationEvents es) a

/-- An action that starts was presented and confirmed in the events before it. -/
def Reconfirmed (h : Digests) (es : List Event) (s : VoiceSession) : Event → Prop
  | .proposal (.commit proposalId actionType) => ∃ p, s.pending = some p ∧
    p.proposalId = proposalId ∧ p.actionType = actionType ∧ Decided p (proposalCalls es)
  | .authorization ⟨_, .execute action _ sessionId _⟩ => ∃ a, s.authorization = some a ∧
    a.action = action ∧ a.sessionId = sessionId ∧
      ConfirmedActions.Confirmed h a (authorizationEvents es)
  | _ => True

theorem proposalCalls_proposal (es : List Event) (c : AttestedDecisions.Call) :
    proposalCalls (es ++ [.proposal c]) = proposalCalls es ++ [c] := List.filterMap_append

theorem proposalCalls_other {es : List Event} {e : Event} (he : e.proposalCall? = none) :
    proposalCalls (es ++ [e]) = proposalCalls es := by
  rw [proposalCalls, List.filterMap_append, List.filterMap_cons_none he, List.filterMap_nil,
    List.append_nil]
  rfl

theorem authorizationEvents_authorization (es : List Event) (e : ConfirmedActions.Event) :
    authorizationEvents (es ++ [.authorization e]) = authorizationEvents es ++ [e] :=
  List.filterMap_append

theorem authorizationEvents_other {es : List Event} {e : Event}
    (he : e.authorizationEvent? = none) :
    authorizationEvents (es ++ [e]) = authorizationEvents es := by
  rw [authorizationEvents, List.filterMap_append, List.filterMap_cons_none he, List.filterMap_nil,
    List.append_nil]
  rfl

theorem Fresh.later {es : List Event} {e : Event} (hs : Fresh h es s) (hp : e.proposalCall? = none)
    (ha : e.authorizationEvent? = none) : Fresh h (es ++ [e]) s := by
  refine ⟨?_, ?_⟩
  · rw [proposalCalls_other hp]
    exact hs.proposal
  · rw [authorizationEvents_other ha]
    exact hs.authorization

theorem fresh_of_dropped (es : List Event) (hs : Dropped s) : Fresh h es s where
  proposal p hp := by
    unfold Regained
    rw [(hs.proposal p hp).1]
    trivial
  authorization a ha := Or.inl (hs.authorization a ha)

theorem fresh_next {es : List Event} {e : Event} (hs : Fresh h es s) (he : Enabled h s e) :
    Fresh h (es ++ [e]) (next h s e) := by
  cases e with
  | proposal call =>
    refine ⟨?_, ?_⟩
    · rw [proposalCalls_proposal]
      exact regained_next hs.proposal
    · rw [authorizationEvents_other rfl]
      exact hs.authorization
  | authorization e =>
    refine ⟨?_, ?_⟩
    · rw [proposalCalls_other rfl]
      exact hs.proposal
    · rw [authorizationEvents_authorization]
      exact rearmed_next hs.authorization he
  | present presentation =>
    have hsame : Fresh h (es ++ [.present presentation]) s := hs.later rfl rfl
    exact ⟨hsame.proposal, hsame.authorization⟩
  | language requestedLocale runtimeUnavailable =>
    have hsame : Fresh h (es ++ [.language requestedLocale runtimeUnavailable]) s :=
      hs.later rfl rfl
    unfold next
    dsimp only
    split
    · next s' result hchange =>
      rcases change_cases hchange with ⟨-, rfl, -⟩ | ⟨-, -, -, -, rfl | rfl⟩
      · exact hsame
      · exact hsame
      · exact fresh_of_dropped _ (renew_dropped s _)
    · exact hsame

theorem reconfirmed_of_fresh {es : List Event} {e : Event} (hs : Fresh h es s)
    (he : Enabled h s e) : Reconfirmed h es s e := by
  cases e with
  | proposal call =>
    cases call with
    | commit id action =>
      obtain ⟨p, hp, hid, haction, hattested⟩ := guarded he
      exact ⟨p, hp, hid, haction, decided_of_attested (hs.proposal p hp) hattested⟩
    | _ => trivial
  | authorization e =>
    obtain ⟨now, call⟩ := e
    cases call with
    | execute action payload sessionId validatedAt =>
      obtain ⟨-, hvalid⟩ := he
      obtain ⟨a, ha, hv⟩ := ConfirmedActions.validated h hvalid
      refine ⟨a, ha, hv.sameAction, hv.sameSession, ?_⟩
      rcases hs.authorization a ha with hterminal | hev
      · rcases hv.executable with hexec | hexec
        all_goals
          rw [hexec] at hterminal
          exact absurd hterminal (by decide)
      · exact ConfirmedActions.confirmed_of_executable hev hv.executable
    | _ => trivial
  | present presentation => trivial
  | language requestedLocale runtimeUnavailable => trivial

/-- In every run from a state without evidence an action that starts was presented and confirmed. -/
theorem reconfirmed_run (hs : Dropped s) {es : List Event} {e : Event}
    (hrun : (session h).Run s (es ++ [e])) : Reconfirmed h es ((session h).final s es) e := by
  obtain ⟨hbefore, he, -⟩ := Machine.each_append.mp hrun
  have hfresh : Fresh h es ((session h).final s es) :=
    history_of_each (fresh_of_dropped [] hs) (fun _ _ _ => fresh_next) hbefore
  exact reconfirmed_of_fresh hfresh he

end

/-- Nothing is left of the old language's evidence, and no action starts without new evidence. -/
def Renewed (s : VoiceSession) : Prop :=
  Dropped s ∧ ∀ es e, (session h).Run s (es ++ [e]) → Reconfirmed h es ((session h).final s es) e

/-- An action whose outcome is uncertain is not disturbed; otherwise another language renews. -/
def ChangesSafely (s : VoiceSession) (requestedLocale : String)
    (runtimeUnavailable : Bool) : Prop :=
  (CommitUncertain s ∨ ExecutionUncertain s → Refused s requestedLocale runtimeUnavailable) ∧
  (¬ (CommitUncertain s ∨ ExecutionUncertain s) → ∀ s' result,
    changeVoiceLanguage s requestedLocale runtimeUnavailable = .ok (s', result) →
      s'.locale ≠ s.locale → Renewed h s')

/-- A change is safe unless an authorization's outcome is uncertain and nothing else refuses it. -/
theorem changesSafely_iff (s : VoiceSession) (requestedLocale : String)
    (runtimeUnavailable : Bool) :
    ChangesSafely h s requestedLocale runtimeUnavailable ↔
      ¬ (ExecutionUncertain s ∧ requestedLocale ∈ SUPPORTED_SUPPORT_LOCALES ∧ ¬ CommitUncertain s ∧
        Readable s (selectedLocale requestedLocale runtimeUnavailable)) := by
  rw [← change_unrefused]
  constructor
  · rintro hsafe ⟨huncertain, hunrefused⟩
    exact hunrefused (hsafe.1 (Or.inr huncertain))
  · intro hcond
    refine ⟨?_, fun _ s' result hchange hlocale => ?_⟩
    · rintro (hcommit | hexecution)
      · by_contra hunrefused
        exact (change_unrefused.mp hunrefused).2.1 hcommit
      · by_contra hunrefused
        exact hcond ⟨hexecution, hunrefused⟩
    · have hdropped := dropped_of_change hchange hlocale
      exact ⟨hdropped, fun es e => reconfirmed_run hdropped⟩

def uncertainTriage : Authorization where
  action := .triageCustomerReportedFraud
  payload := [("disputed_authorization_ids", .arr [.str "auth-1"]),
    ("disputed_transaction_ids", .arr []), ("issue_replacement", .bool true),
    ("escalate", .bool false)]
  payloadFingerprint := "6ff00a4ac51bc56d099c415801becd62dd7565a965442a27061a67e5ab1ca26b"
  sessionId := "session-1"
  status := .recoveryRequired
  originatingCustomerEventId := none
  assistantEventId := some "assistant-1"
  customerEventId := some "customer-2"
  presentedAt := some 20000000
  confirmationSource := some "MODEL_TOOL_INTENT"
  issuedAt := 10000000
  expiresAt := 190000000
  consumedAt := some 30000000
  completedAt := none
  recoveryReason := some "TOOL_ERROR:triage_customer_reported_fraud"
  recoveryAttemptCount := 0
  invalidationReason := none
  invalidationEventId := none

def uncertainSession : VoiceSession := ⟨some "en-US", none, some uncertainTriage, []⟩

theorem uncertain_triage_invalidated :
    (∃ s' result, changeVoiceLanguage uncertainSession "es-MX" false = .ok (s', result) ∧
      result.success = true ∧ s'.authorization.map (·.status) = some .invalidated) ∧
    ¬ ∀ (h : Digests) (s : VoiceSession) (requestedLocale : String) (runtimeUnavailable : Bool),
      ChangesSafely h s requestedLocale runtimeUnavailable := by
  refine ⟨⟨_, _, rfl, rfl, by decide⟩, fun hall => ?_⟩
  have huncertain : ExecutionUncertain uncertainSession := ⟨uncertainTriage, rfl, Or.inr rfl⟩
  have hrefused :=
    (hall ConfirmedActions.digests uncertainSession "es-MX" false).1 (Or.inr huncertain)
  exact change_selects (by decide) (by decide) ⟨none, rfl⟩ hrefused

end LanguageChanges
