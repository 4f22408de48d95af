import BankingService.Library.Runs
import BankingService.CesCallbacks

/-! What the callbacks do to the evidence of the current proposal, each of them said once. -/
namespace CesEvidence

open BankingService BankingService.Ces Python Runs

variable (t : Texts)

structure TurnEvidence where
  customerTurnId : String
  proposalId : String
  originatingTurnId : String
  presentationTurnId : String
  confirmationTurnId : String
  confirmationMethod : String
  confirmationSource : String
  commitAttempted : Bool
  deriving DecidableEq

def evidence (v : Variables) : TurnEvidence where
  customerTurnId := v.customerTurnId
  proposalId := v.proposalId
  originatingTurnId := v.proposalOriginatingTurnId
  presentationTurnId := v.proposalPresentationTurnId
  confirmationTurnId := v.proposalConfirmationTurnId
  confirmationMethod := v.proposalConfirmationMethod
  confirmationSource := v.proposalConfirmationSource
  commitAttempted := v.proposalCommitAttempted

structure Later (e : TurnEvidence) (i : Invocation) : Prop where
  presented : e.presentationTurnId ≠ ""
  notPresenting : i.id ≠ e.presentationTurnId
  notOriginating : i.id ≠ e.originatingTurnId

def TurnEvidence.decided (e : TurnEvidence) (i : Invocation) : TurnEvidence :=
  { e with
    customerTurnId := i.id, confirmationTurnId := i.id, confirmationMethod := "EXPLICIT_VERBAL",
    confirmationSource := "MODEL_TOOL_INTENT" }

def TurnEvidence.cleared (e : TurnEvidence) : TurnEvidence :=
  ⟨e.customerTurnId, "", "", "", "", "", "", false⟩

def TurnEvidence.unpresented (e : TurnEvidence) : TurnEvidence :=
  { e with
    presentationTurnId := "", confirmationTurnId := "", confirmationMethod := "",
    confirmationSource := "", commitAttempted := false }

def TurnEvidence.proposed (e : TurnEvidence) (id : String) (i : Invocation) : TurnEvidence :=
  { e with
    customerTurnId := i.id, proposalId := id, originatingTurnId := i.id,
    presentationTurnId := i.id, commitAttempted := false }

def TurnEvidence.translated (e : TurnEvidence) (i : Invocation) : TurnEvidence :=
  { e with
    presentationTurnId := i.id, confirmationTurnId := "", confirmationMethod := "",
    confirmationSource := "" }

def TOOL_NAMES : List String :=
  ["transfer_to_agent", "reverse_overdraft_fee", "get_open_fraud_alert", "review_fraud_selection",
    "commit_action_proposal", "commit_fraud_triage", "commit_card_reissue",
    "commit_wallet_provisioning", "decide_action_proposal", "prepare_action_proposal",
    "propose_fraud_triage", "propose_card_reissue", "propose_wallet_provisioning",
    "discover_playbooks", "record_playbook_decision"]

theorem toolNames_apart :
    ∀ a ∈ TOOL_NAMES, ∀ b ∈ TOOL_NAMES, a.toList <:+ b.toList → a = b := by decide

theorem endsWith_unique {tool a b : String} (ha : a ∈ TOOL_NAMES) (hb : b ∈ TOOL_NAMES)
    (h : EndsWith tool a) (k : EndsWith tool b) : a = b := by
  rcases le_total a.toList.length b.toList.length with hle | hle
  · exact toolNames_apart a ha b hb (List.suffix_of_suffix_length_le h k hle)
  · exact (toolNames_apart b hb a ha (List.suffix_of_suffix_length_le k h hle)).symm

theorem commit_name {tool : String} (h : IsCommit tool) :
    ∃ a ∈ ["commit_action_proposal", "commit_fraud_triage", "commit_card_reissue",
      "commit_wallet_provisioning"], EndsWith tool a := by
  rcases h with h | ⟨a, ha, h⟩
  · exact ⟨_, List.mem_cons_self, h⟩
  · exact ⟨_, List.mem_cons_of_mem _ (List.mem_map_of_mem (f := Prod.fst) ha), h⟩

theorem commit_exclusive {tool b : String} (h : IsCommit tool) (hb : b ∈ TOOL_NAMES)
    (hne : b ∉ ["commit_action_proposal", "commit_fraud_triage", "commit_card_reissue",
      "commit_wallet_provisioning"]) : ¬ EndsWith tool b := by
  intro k
  obtain ⟨a, ha, h⟩ := commit_name h
  have hmem : ∀ a ∈ ["commit_action_proposal", "commit_fraud_triage", "commit_card_reissue",
      "commit_wallet_provisioning"], a ∈ TOOL_NAMES := by decide
  exact hne (endsWith_unique (hmem a ha) hb h k ▸ ha)

theorem takesTurn_exclusive {tool name : String} (h : TakesTurn tool)
    (hname : name ∈ TOOL_NAMES.take 9) : ¬ EndsWith tool name := by
  intro k
  have hnames : ∃ a ∈ TOOL_NAMES.drop 9, EndsWith tool a := by
    rcases h with ⟨a, ha, h⟩ | h | h | h
    · have hmem : ∀ a ∈ PROPOSAL_ACTIONS, a.1 ∈ TOOL_NAMES.drop 9 := by decide
      exact ⟨a.1, hmem a ha, h⟩
    · exact ⟨_, by decide, h⟩
    · exact ⟨_, by decide, h⟩
    · exact ⟨_, by decide, h⟩
  obtain ⟨a, ha, h⟩ := hnames
  have hapart : ∀ a ∈ TOOL_NAMES.drop 9, a ∉ TOOL_NAMES.take 9 := by decide
  have heq := endsWith_unique (List.mem_of_mem_drop ha) (List.mem_of_mem_take hname) h k
  exact hapart a ha (heq ▸ hname)

theorem commit_takes_none {tool : String} (h : IsCommit tool) : ¬ TakesTurn tool := by
  intro htakes
  obtain ⟨a, ha, k⟩ := commit_name h
  have hmem : ∀ a ∈ ["commit_action_proposal", "commit_fraud_triage", "commit_card_reissue",
    "commit_wallet_provisioning"], a ∈ TOOL_NAMES.take 9 := by decide
  exact takesTurn_exclusive htakes (hmem a ha) k

/-- What the callbacks before a tool can do: the evidence left, the input as it goes on, and whether
the call is let through. -/
inductive BeforeEffect (e : TurnEvidence) (tool : String) (i : Invocation) :
    TurnEvidence → Fields → Bool → Prop where
  | refused (input) : BeforeEffect e tool i e input false
  | attestedOnly (input) (commit : IsCommit tool) (fresh : e.commitAttempted = false)
      (later : Later e i) : BeforeEffect e tool i (e.decided i) input false
  | decided (input) (decides : EndsWith tool "decide_action_proposal")
      (fresh : e.commitAttempted = false) (later : Later e i) (current : e.proposalId ≠ "")
      (named : textOf t (lookup input "proposal_id") = e.proposalId) :
      BeforeEffect e tool i (e.decided i) input true
  | turnTaken (input) (takes : TakesTurn tool) :
      BeforeEffect e tool i { e with customerTurnId := i.id } input true
  | passed (input) (plain : ¬ IsCommit tool)
    (undecided : ¬ EndsWith tool "decide_action_proposal") :
      BeforeEffect e tool i e input true
  | committed (input) (commit : IsCommit tool) (fresh : e.commitAttempted = false)
      (later : Later e i) (current : e.proposalId ≠ "")
      (named : textOf t (lookup input "proposal_id") = e.proposalId) :
      BeforeEffect e tool i { e.decided i with commitAttempted := true } input true
  | retried (input) (commit : IsCommit tool) (again : e.commitAttempted = true)
      (current : e.proposalId ≠ "") (named : textOf t (lookup input "proposal_id") = e.proposalId) :
      BeforeEffect e tool i e input true

theorem evidence_enforceCloseout (v : Variables) (tool : String) (input : Fields)
    (i : Invocation) : evidence (enforceCloseout t v tool input i).1 = evidence v := by
  unfold enforceCloseout
  split
  · split
    · rfl
    · split
      · rfl
      · split <;> rfl
  · split
    · rfl
    · dsimp only
      split <;> rfl

theorem later_of_has {v : Variables} {i : Invocation} (h : HasLaterCustomerTurn v i) :
    Later (evidence v) i :=
  ⟨h.1, h.2.2.2.1, h.2.2.2.2.1⟩

theorem enforceProposalContext_effect (v : Variables) (tool : String) (input : Fields)
    (i : Invocation) :
    let r := enforceProposalContext t v tool input i
    BeforeEffect t (evidence v) tool i (evidence r.1) r.2.1 r.2.2.isNone := by
  dsimp only
  unfold enforceProposalContext
  by_cases hdecide : EndsWith tool "decide_action_proposal"
  · rw [if_pos hdecide]
    by_cases hattempted : v.proposalCommitAttempted = true
    · rw [if_pos hattempted]
      exact .refused _
    · rw [if_neg hattempted]
      dsimp only
      split
      · exact .refused _
      · next hvalid =>
        obtain ⟨hcurrent, hnamed, -, hlater⟩ := not_not.mp hvalid
        exact .decided _ hdecide (eq_false_of_ne_true hattempted) (later_of_has hlater) hcurrent
          hnamed
  · rw [if_neg hdecide]
    by_cases htakes : TakesTurn tool
    · rw [if_pos htakes]
      exact .turnTaken _ htakes
    · rw [if_neg htakes]
      by_cases hcommit : IsCommit tool
      · rw [if_neg (not_not.mpr hcommit)]
        by_cases hretry : v.proposalCommitAttempted = true
        · -- a retry keeps the recorded turn
          have hkeeps : ¬ (HasLaterCustomerTurn v i ∧ ¬ v.proposalCommitAttempted = true) :=
            fun h => h.2 hretry
          dsimp only
          rw [if_neg hkeeps]
          split
          · next hvalid =>
            have heq : evidence { v with proposalCommitAttempted := true } = evidence v := by
              simp only [evidence, hretry]
            rw [heq]
            exact .retried _ hcommit hretry hvalid.1 hvalid.2.1
          · exact .refused _
        · dsimp only
          by_cases hlater : HasLaterCustomerTurn v i
          · have hfirst : HasLaterCustomerTurn v i ∧ ¬ v.proposalCommitAttempted = true :=
              ⟨hlater, hretry⟩
            rw [if_pos hfirst]
            split
            · next hvalid =>
              exact .committed _ hcommit (eq_false_of_ne_true hretry) (later_of_has hlater)
                hvalid.1 hvalid.2.1
            · exact .attestedOnly _ hcommit (eq_false_of_ne_true hretry) (later_of_has hlater)
          · have hlate : ¬ (HasLaterCustomerTurn v i ∧ ¬ v.proposalCommitAttempted = true) :=
              fun h => hlater h.1
            rw [if_neg hlate]
            split
            · next hvalid =>
              rcases hvalid.2.2.2.2 with h | h
              · exact absurd h hlater
              · exact absurd h.1 hretry
            · exact .refused _
      · rw [if_pos hcommit]
        exact .passed _ hcommit hdecide

theorem beforeTool_effect (v : Variables) (tool : String) (input : Fields) (i : Invocation) :
    let r := beforeTool t v tool input i
    BeforeEffect t (evidence v) tool i (evidence r.1) r.2.1 r.2.2.isNone := by
  have hkeeps := evidence_enforceCloseout t v tool input i
  dsimp only
  unfold beforeTool
  cases hr : enforceCloseout t v tool input i with
  | mk v₁ answer =>
    rw [hr] at hkeeps
    cases answer with
    | some answer =>
      dsimp only
      rw [hkeeps]
      exact .refused _
    | none =>
      have heffect := enforceProposalContext_effect t v₁ tool input i
      dsimp only at heffect
      rw [hkeeps] at heffect
      exact heffect

theorem commit_effect {e e' : TurnEvidence} {tool : String} {i : Invocation} {sent : Fields}
    (hcommit : IsCommit tool) (h : BeforeEffect t e tool i e' sent true) :
    e.proposalId ≠ "" ∧ e'.proposalId = e.proposalId ∧ e'.commitAttempted = true ∧
      textOf t (lookup sent "proposal_id") = e.proposalId := by
  cases h with
  | decided input decides =>
    exact absurd decides (commit_exclusive hcommit (by decide) (by decide))
  | turnTaken input takes => exact absurd takes (commit_takes_none hcommit)
  | passed input plain => exact absurd hcommit plain
  | committed input commit fresh later current named => exact ⟨current, rfl, rfl, named⟩
  | retried input commit again current named => exact ⟨current, rfl, again, named⟩

/-- The bank's answer ends the commit: it succeeded, or is refused for good. -/
def Definitive (payload : Fields) : Prop :=
  Succeeded payload ∨ (textOf t (lookup payload "recovery_class") ≠ "" ∧
    textOf t (lookup payload "recovery_class") ≠ "RETRY_SAME_PROPOSAL")

instance : DecidablePred (Definitive t) := fun _ => inferInstanceAs (Decidable (_ ∨ _ ∧ _))

def Proposes (tool : String) (payload : Fields) : Prop :=
  (proposalAction tool payload).isSome ∧ Succeeded payload ∧
    textOf t (lookup payload "proposal_id") ≠ "" ∧
    textOf t (lookup payload "customer_safe_summary") ≠ ""

instance (tool : String) (payload : Fields) : Decidable (Proposes t tool payload) :=
  inferInstanceAs (Decidable (_ ∧ _ ∧ _ ∧ _))

inductive AfterEffect (e : TurnEvidence) (tool : String) (i : Invocation) (payload : Fields) :
    TurnEvidence → Prop where
  | kept (unresolved : IsCommit tool → ¬ Definitive t payload)
      (undecided : ¬ (EndsWith tool "decide_action_proposal" ∧ Succeeded payload))
      (unproposed : ¬ Proposes t tool payload) : AfterEffect e tool i payload e
  | committed (commit : IsCommit tool) (definitive : Definitive t payload) :
      AfterEffect e tool i payload e.cleared
  | unpresented (commit : IsCommit tool) (definitive : Definitive t payload) :
      AfterEffect e tool i payload e.unpresented
  | decided (decides : EndsWith tool "decide_action_proposal") (succeeded : Succeeded payload) :
      AfterEffect e tool i payload e.cleared
  | proposed (id : String) (plain : ¬ IsCommit tool) (proposes : Proposes t tool payload) :
      AfterEffect e tool i payload (e.proposed id i)

theorem proposes_tool {tool : String} {payload : Fields} (h : Proposes t tool payload) :
    EndsWith tool "prepare_action_proposal" ∨ ∃ a ∈ PROPOSAL_ACTIONS, EndsWith tool a.1 := by
  have haction := h.1
  unfold proposalAction at haction
  split at haction
  · next hprepare => exact Or.inl hprepare
  · rw [Option.isSome_map] at haction
    unfold matchingAction at haction
    rw [Option.isSome_map, List.find?_isSome] at haction
    obtain ⟨a, ha, h⟩ := haction
    exact Or.inr ⟨a, ha, of_decide_eq_true h⟩

theorem proposes_name {tool : String} {payload : Fields} (h : Proposes t tool payload) :
    ∃ a ∈ ["prepare_action_proposal", "propose_fraud_triage", "propose_card_reissue",
      "propose_wallet_provisioning"], EndsWith tool a := by
  rcases proposes_tool t h with h | ⟨a, ha, h⟩
  · exact ⟨_, List.mem_cons_self, h⟩
  · exact ⟨_, List.mem_cons_of_mem _ (List.mem_map_of_mem (f := Prod.fst) ha), h⟩

theorem kept_of_name (e : TurnEvidence) {tool name : String} (i : Invocation) (payload : Fields)
    (h : EndsWith tool name) (hname : name ∈ TOOL_NAMES.take 4) :
    AfterEffect t e tool i payload e := by
  have hmem : ∀ a ∈ TOOL_NAMES.take 4, a ∈ TOOL_NAMES := fun a => List.mem_of_mem_take
  have hother : ∀ a ∈ TOOL_NAMES.drop 4, ¬ EndsWith tool a := by
    intro a ha k
    have hfour : ∀ a ∈ TOOL_NAMES.drop 4, a ∉ TOOL_NAMES.take 4 := by decide
    exact hfour a ha (endsWith_unique (hmem name hname) (List.mem_of_mem_drop ha) h k ▸ hname)
  refine .kept (fun hcommit => ?_) (fun hdecide => ?_) (fun hproposes => ?_)
  · obtain ⟨a, ha, k⟩ := commit_name hcommit
    have hmem : ∀ a ∈ ["commit_action_proposal", "commit_fraud_triage", "commit_card_reissue",
      "commit_wallet_provisioning"], a ∈ TOOL_NAMES.drop 4 := by decide
    exact absurd k (hother a (hmem a ha))
  · exact hother _ (by decide) hdecide.1
  · obtain ⟨a, ha, k⟩ := proposes_name t hproposes
    have hmem : ∀ a ∈ ["prepare_action_proposal", "propose_fraud_triage", "propose_card_reissue",
      "propose_wallet_provisioning"], a ∈ TOOL_NAMES.drop 4 := by decide
    exact hother a (hmem a ha) k

theorem commit_alone {tool : String} (hcommit : IsCommit tool) (payload : Fields) :
    ¬ EndsWith tool "decide_action_proposal" ∧ ¬ Proposes t tool payload := by
  refine ⟨commit_exclusive hcommit (by decide) (by decide), fun h => ?_⟩
  obtain ⟨a, ha, k⟩ := proposes_name t h
  have hmem : ∀ a ∈ ["prepare_action_proposal", "propose_fraud_triage", "propose_card_reissue",
    "propose_wallet_provisioning"], a ∈ TOOL_NAMES ∧ a ∉ ["commit_action_proposal",
      "commit_fraud_triage", "commit_card_reissue", "commit_wallet_provisioning"] := by decide
  exact commit_exclusive hcommit (hmem a ha).1 (hmem a ha).2 k

theorem captureCommit_effect (v : Variables) {tool : String} {payload : Fields} (i : Invocation)
    (hcommit : IsCommit tool) :
    AfterEffect t (evidence v) tool i payload (evidence (captureCommit t v tool payload i)) := by
  obtain ⟨hundecided, hunproposed⟩ := commit_alone t hcommit payload
  unfold captureCommit
  by_cases hsucceeded : Succeeded payload
  · rw [if_pos hsucceeded]
    dsimp only
    split <;> exact .committed hcommit (Or.inl hsucceeded)
  · rw [if_neg hsucceeded]
    dsimp only
    by_cases hrepresent : textOf t (lookup payload "recovery_class") = "REPRESENT_AND_RECONFIRM"
    · rw [if_pos hrepresent]
      refine .unpresented hcommit (Or.inr ?_)
      rw [hrepresent]
      decide
    · rw [if_neg hrepresent]
      split
      · next hfinal => exact .committed hcommit (Or.inr hfinal)
      · next hretry =>
        refine .kept (fun _ h => ?_) (fun h => hundecided h.1) hunproposed
        exact h.elim hsucceeded hretry

theorem afterTool_effect (v : Variables) (tool : String) (response : Json) (i : Invocation) :
    AfterEffect t (evidence v) tool i (payloadOf response)
      (evidence (afterTool t v tool response i)) := by
  unfold afterTool
  dsimp only
  split
  · next h => exact kept_of_name t _ i _ h (by decide)
  · split
    · next h =>
      have hkept := kept_of_name t (evidence v) i (payloadOf response) h (by decide)
      split <;> exact hkept
    · split
      · next h =>
        have hkept := kept_of_name t (evidence v) i (payloadOf response) h (by decide)
        unfold captureAlert
        split
        · dsimp only
          split <;> exact hkept
        · exact hkept
      · split
        · next h =>
          have hkept := kept_of_name t (evidence v) i (payloadOf response) h (by decide)
          unfold captureReview
          split <;> exact hkept
        · split
          · next hcommit => exact captureCommit_effect t v i hcommit
          · next hcommit =>
            split
            · next hdecide =>
              unfold captureDecision
              split
              · next hsucceeded =>
                dsimp only
                split <;> exact .decided hdecide hsucceeded
              · next hfailed =>
                refine .kept (fun h => absurd h hcommit) (fun h => hfailed h.2) ?_
                exact fun h => hfailed h.2.1
            · next hdecide =>
              split
              · next action haction =>
                unfold captureProposal
                dsimp only
                split
                · next hvalid =>
                  have hproposes : Proposes t tool (payloadOf response) :=
                    ⟨by rw [haction]; rfl, hvalid⟩
                  split <;> exact .proposed _ hcommit hproposes
                · next hvalid =>
                  exact .kept (fun h => absurd h hcommit) (fun h => hdecide h.1)
                    fun h => hvalid h.2
              · next haction =>
                refine .kept (fun h => absurd h hcommit) (fun h => hdecide h.1) fun h => ?_
                have hsome := h.1
                rw [haction] at hsome
                cases hsome

theorem setConversationLanguage_effect (v : Variables) (locale : String) (i : Invocation) :
    evidence (setConversationLanguage t v locale i) = evidence v ∨
      (v.proposalCommitAttempted = false ∧
        evidence (setConversationLanguage t v locale i) = (evidence v).translated i) := by
  unfold setConversationLanguage
  split
  · exact Or.inl rfl
  · next hallowed =>
    rw [not_or, not_or] at hallowed
    split
    · dsimp only
      split
      · exact Or.inr ⟨eq_false_of_ne_true hallowed.2.1, rfl⟩
      · exact Or.inl rfl
    · exact Or.inl rfl

/-- `response` is the bank's answer to the tool, with the input as it went on. -/
inductive Event where
  | before (tool : String) (input : Fields) (invocation : Invocation)
  | after (tool : String) (input : Fields) (invocation : Invocation) (response : Json)
  | language (locale : String) (invocation : Invocation)

def Event.invocation : Event → Invocation
  | before _ _ i | after _ _ i _ | language _ i => i

def act (v : Variables) : Event → Variables
  | .before tool input i => (beforeTool t v tool input i).1
  | .after tool _ i response => afterTool t v tool response i
  | .language locale i => setConversationLanguage t v locale i

def Named (e : Event) : Prop := e.invocation.id ≠ "" ∧ strip e.invocation.id = e.invocation.id

instance : DecidablePred Named := fun _ => inferInstanceAs (Decidable (_ ∧ _))

def calls : Machine Variables Event := ⟨fun _ e => Named e, act t⟩

/-- The call goes on to the bank, with this input. -/
def LetThrough (v : Variables) (tool : String) (input : Fields) (i : Invocation)
    (sent : Fields) : Prop :=
  (beforeTool t v tool input i).2 = (sent, none)

instance (v : Variables) (e : Event) : Decidable ((calls t).Enabled v e) :=
  inferInstanceAs (Decidable (Named e))

theorem effect_of_letThrough {v : Variables} {tool : String} {input sent : Fields} {i : Invocation}
    (h : LetThrough t v tool input i sent) :
    BeforeEffect t (evidence v) tool i (evidence (act t v (.before tool input i))) sent true := by
  have heffect := beforeTool_effect t v tool input i
  dsimp only at heffect
  rw [show (beforeTool t v tool input i).2 = (sent, none) from h] at heffect
  exact heffect

end CesEvidence
