import BankingService.CesEvidence
import BankingService.Library.JsonLayout

/-! Every decision that the callbacks let through carries evidence that the bank accepts, as long as
no other call takes the customer's turn between a commit and its retry. -/
namespace CarriedDecisions

open BankingService BankingService.Ces CesEvidence Python Runs

variable (t : Texts)

def Decides (tool : String) : Prop :=
  EndsWith tool "commit_action_proposal" ∨ EndsWith tool "decide_action_proposal"

/-- The request names the current proposal, and a bank that can read its headers accepts their
evidence and finds a later turn than the originating one. -/
def Accepted (v : Variables) (sent : Fields) : Prop :=
  textOf t (lookup sent "proposal_id") = v.proposalId ∧
    v.customerTurnId = v.proposalConfirmationTurnId ∧
    ∀ s context policy requirement acknowledgment, AuthorizationPolicy.Verbal policy →
      ProposalRuntimeContext.fromHeaders (customHeaders s v) = .ok context →
      ∃ w, validateDecision context policy requirement acknowledgment = .ok w ∧
        w.decisionTurnId ≠ v.proposalOriginatingTurnId

/-- A decision that is let through is accepted. -/
def Carries (v : Variables) (e : Event) : Prop :=
  ∀ tool input i sent, e = .before tool input i → Decides tool → LetThrough t v tool input i sent →
    Accepted t (act t v e) sent

/-- A decision is not made in the invocation with the placeholder's name, and a call that takes the
customer's turn after a commit was let through is made in the invocation of the commit. -/
def KeepsTurn (v : Variables) : Event → Prop
  | .before tool _ i =>
    (IsCommit tool ∨ EndsWith tool "decide_action_proposal" → i.id ≠ "unknown-turn") ∧
      (v.proposalCommitAttempted = true → TakesTurn tool → i.id = v.proposalConfirmationTurnId)
  | _ => True

/-- What a recorded decision says of the turns. -/
structure Recorded (e : TurnEvidence) : Prop where
  real : RealTurn e.confirmationTurnId
  current : e.customerTurnId = e.confirmationTurnId
  presented : e.presentationTurnId ≠ ""
  notPresenting : e.confirmationTurnId ≠ e.presentationTurnId
  notOriginating : e.confirmationTurnId ≠ e.originatingTurnId
  method : e.confirmationMethod = "EXPLICIT_VERBAL"
  source : e.confirmationSource = "MODEL_TOOL_INTENT"

def Kept (e : TurnEvidence) : Prop :=
  strip e.presentationTurnId = e.presentationTurnId ∧ (e.commitAttempted = true → Recorded e)

theorem strip_empty : strip "" = "" := by decide

theorem recorded_of_later {e : TurnEvidence} {i : Invocation} (hlater : Later e i)
    (hreal : RealTurn i.id) : Recorded (e.decided i) :=
  ⟨hreal, rfl, hlater.presented, hlater.notPresenting, hlater.notOriginating, rfl, rfl⟩

theorem Kept.before {e e' : TurnEvidence} {tool : String} {i : Invocation} {sent : Fields}
    {letThrough : Bool} (h : Kept e) (heffect : BeforeEffect t e tool i e' sent letThrough)
    (hnamed : i.id ≠ "" ∧ strip i.id = i.id)
    (hreal : IsCommit tool → i.id ≠ "unknown-turn")
    (hturn : e.commitAttempted = true → TakesTurn tool → i.id = e.confirmationTurnId) :
    Kept e' := by
  cases heffect with
  | refused => exact h
  | passed => exact h
  | retried => exact h
  | attestedOnly input commit fresh later =>
    refine ⟨h.1, fun hattempted => ?_⟩
    exact absurd (fresh.symm.trans hattempted) (by decide)
  | decided input decides fresh later =>
    refine ⟨h.1, fun hattempted => ?_⟩
    exact absurd (fresh.symm.trans hattempted) (by decide)
  | turnTaken input takes =>
    refine ⟨h.1, fun hattempted => ?_⟩
    obtain ⟨real, current, presented, notPresenting, notOriginating, method, source⟩ :=
      h.2 hattempted
    exact ⟨real, hturn hattempted takes, presented, notPresenting, notOriginating, method, source⟩
  | committed input commit fresh later =>
    refine ⟨h.1, fun _ => ?_⟩
    obtain ⟨real, current, presented, notPresenting, notOriginating, method, source⟩ :=
      recorded_of_later later ⟨hnamed.1, hnamed.2, hreal commit⟩
    exact ⟨real, current, presented, notPresenting, notOriginating, method, source⟩

theorem Kept.after {e e' : TurnEvidence} {tool : String} {i : Invocation} {payload : Fields}
    (h : Kept e) (heffect : AfterEffect t e tool i payload e') (hnamed : strip i.id = i.id) :
    Kept e' := by
  cases heffect with
  | kept => exact h
  | committed => exact ⟨strip_empty, nofun⟩
  | unpresented => exact ⟨strip_empty, nofun⟩
  | decided => exact ⟨strip_empty, nofun⟩
  | proposed => exact ⟨hnamed, nofun⟩

theorem kept_next {v : Variables} {e : Event} (h : Kept (evidence v)) (hnamed : Named e)
    (hturn : KeepsTurn v e) : Kept (evidence (act t v e)) := by
  cases e with
  | before tool input i =>
    have heffect := beforeTool_effect t v tool input i
    exact h.before t heffect hnamed (fun hc => hturn.1 (Or.inl hc)) hturn.2
  | after tool input i response =>
    exact h.after t (afterTool_effect t v tool response i) hnamed.2
  | language locale i =>
    rcases setConversationLanguage_effect t v locale i with heq | ⟨hfresh, heq⟩
    · dsimp only [act]
      rw [heq]
      exact h
    · dsimp only [act]
      rw [heq]
      refine ⟨hnamed.2, fun hattempted => ?_⟩
      exact absurd (hfresh.symm.trans hattempted) (by decide)

theorem carriesDecision {v : Variables} (s : SessionVariables) (h : Recorded (evidence v)) :
    CarriesDecision
      (customHeaders s v) v.proposalPresentationTurnId v.proposalConfirmationTurnId := by
  have hnames : ((customHeaders s v).map fun h => lower h.1).Nodup := by
    change (["x-banking-session-capability", "x-support-session-id", "x-runtime-name",
      "x-runtime-session-id", "x-customer-turn-id", "x-reset-generation", "x-catalog-snapshot-id",
      "x-ces-app-id", "x-ces-version-or-deployment-id", "x-proposal-presentation-turn-id",
      "x-proposal-confirmation-turn-id", "x-proposal-confirmation-method",
      "x-proposal-confirmation-source"].map lower).Nodup
    decide
  have hcurrent : v.customerTurnId = v.proposalConfirmationTurnId := h.current
  have hmethod : v.proposalConfirmationMethod = "EXPLICIT_VERBAL" := h.method
  have hsource : v.proposalConfirmationSource = "MODEL_TOOL_INTENT" := h.source
  constructor
  · exact header_of_mem hnames (by simp [customHeaders, hcurrent]) (by decide)
  · exact header_of_mem hnames (by simp [customHeaders]) (by decide)
  · exact header_of_mem hnames (by simp [customHeaders]) (by decide)
  · exact header_of_mem hnames (by simp [customHeaders, hmethod]) (by decide)
  · exact header_of_mem hnames (by simp [customHeaders, hsource]) (by decide)

theorem accepted_of_recorded {v : Variables} {sent : Fields}
    (hnamed : textOf t (lookup sent "proposal_id") = v.proposalId) (h : Recorded (evidence v))
    (htrim : strip v.proposalPresentationTurnId = v.proposalPresentationTurnId) :
    Accepted t v sent := by
  refine ⟨hnamed, h.current, ?_⟩
  intro s context policy requirement acknowledgment hpolicy hcontext
  obtain ⟨w, hw, -, hturn⟩ :=
    (carriesDecision s h).accepted hpolicy h.presented htrim h.real h.notPresenting hcontext
  refine ⟨w, hw, ?_⟩
  rw [hturn]
  exact h.notOriginating

theorem carries_of_kept {v : Variables} {e : Event} (h : Kept (evidence v)) (hnamed : Named e)
    (hturn : KeepsTurn v e) : Carries t v e := by
  rintro tool input i sent rfl hdecides hsent
  have hkept := kept_next t h hnamed hturn
  have heffect := effect_of_letThrough t hsent
  generalize act t v (.before tool input i) = v' at hkept heffect ⊢
  have hreal : RealTurn i.id := ⟨hnamed.1, hnamed.2, hturn.1 (hdecides.imp Or.inl id)⟩
  have haccept : Recorded (evidence v') →
      textOf t (lookup sent "proposal_id") = (evidence v').proposalId → Accepted t v' sent :=
    fun hrecorded hid => accepted_of_recorded t hid hrecorded hkept.1
  generalize evidence v' = e' at hkept heffect haccept
  cases heffect with
  | decided input decides fresh later current named =>
    exact haccept (recorded_of_later later hreal) named
  | committed input commit fresh later current named => exact haccept (hkept.2 rfl) named
  | retried input commit again current named => exact haccept (h.2 again) named
  | turnTaken input takes =>
    rcases hdecides with hd | hd
    · exact absurd hd (takesTurn_exclusive takes (by decide))
    · exact absurd hd (takesTurn_exclusive takes (by decide))
  | passed input plain undecided =>
    rcases hdecides with hd | hd
    · exact absurd (Or.inl hd) plain
    · exact absurd hd undecided

/-- Every run. -/
theorem decisions_accepted {language code source : String} {es : List Event}
    (hrun : (calls t).Run (.initial language code source) es)
    (hturns : (calls t).Each KeepsTurn (.initial language code source) es) :
    (calls t).Each (Carries t) (.initial language code source) es := by
  refine each_of_each (I := fun v => Kept (evidence v)) ?_ ?_ ⟨strip_empty, nofun⟩
    (hrun.and hturns)
  · intro v e h he
    exact kept_next t h he.1 he.2
  · intro v e h he
    exact carries_of_kept t h he.1 he.2

/-- No input below has a container as a text, and none is digested. -/
def texts : Texts where
  str _ := ""
  dumps := Json.dumpsSpaced
  loads := Json.loads
  fingerprint _ := ""

instance (v : Variables) (e : Event) : Decidable (KeepsTurn v e) := by
  unfold KeepsTurn
  split <;> infer_instance

def failedCommit : List Event :=
  [.before "prepare_action_proposal" [] ⟨"turn-1", ["My card is worn."]⟩,
    .after "prepare_action_proposal" [] ⟨"turn-1", ["My card is worn."]⟩ (.obj
      [("success", .bool true), ("proposal_id", .str "proposal-1"),
        ("action_type", .str "REISSUE_CARD"), ("customer_safe_summary", .str "A new card.")]),
    .before "commit_action_proposal" [] ⟨"turn-2", ["Yes."]⟩,
    .after "commit_action_proposal" [("proposal_id", .str "proposal-1")] ⟨"turn-2", ["Yes."]⟩
      (.obj [("success", .bool false)])]

def retry : Event := .before "commit_action_proposal" [] ⟨"turn-3", ["What else is there?"]⟩

def discovery : Event := .before "discover_playbooks" [] ⟨"turn-3", ["What else is there?"]⟩

theorem failedCommit_retried :
    (calls texts).Each (Carries texts) (.initial "en-US" "en" "profile")
      (failedCommit ++ [retry]) :=
  decisions_accepted texts (by decide) (by decide)

/-- A call that takes the turn comes between the commit and its retry. -/
theorem retry_carries_another_turn :
    ¬ ∀ (t : Texts) (language code source : String) (es : List Event),
      (calls t).Run (.initial language code source) es →
        (calls t).Each (Carries t) (.initial language code source) es := by
  intro hall
  have heach := hall texts "en-US" "en" "profile" (failedCommit ++ [discovery, retry]) (by decide)
  obtain ⟨-, -, hretry, -⟩ := Machine.each_append.mp heach
  have hsent : LetThrough texts (act texts ((calls texts).final (.initial "en-US" "en" "profile")
      failedCommit) discovery) "commit_action_proposal" [] ⟨"turn-3", ["What else is there?"]⟩
      [("proposal_id", .str "proposal-1")] := by
    unfold LetThrough
    rfl
  obtain ⟨-, hturn, -⟩ := hretry _ _ _ _ rfl (Or.inl List.suffix_rfl) hsent
  exact absurd hturn (by decide)

end CarriedDecisions
