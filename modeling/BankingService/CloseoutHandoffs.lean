import BankingService.CesEvidence
import BankingService.Library.JsonLayout
import BankingService.Library.Since

/-! The closeout agent is admitted on a handshake over four callbacks: an action succeeds, the model
responds to it, the customer says something more, and the transfer is authorized on that. -/
namespace CloseoutHandoffs

open BankingService BankingService.Ces CesEvidence Python Runs History

variable (t : Texts)

structure Checkpoint where
  state : String
  originatingTurnId : String
  originatingInputFingerprint : String
  authorized : Bool
  deriving DecidableEq

def checkpoint (v : Variables) : Checkpoint where
  state := v.closeoutCheckpointState
  originatingTurnId := v.closeoutOriginatingTurnId
  originatingInputFingerprint := v.closeoutOriginatingInputFingerprint
  authorized := v.closeoutDelegationAuthorized

def Checkpoint.none : Checkpoint := ⟨"", "", "", false⟩

def CloseoutTransfer (tool : String) (input : Fields) : Prop :=
  EndsWith tool "transfer_to_agent" ∧
    textOf t (lookup input "agent_name") = "Session Closeout Agent"

/-- `answered` says that the callback answers in the tool's place, `admitted` that the closeout
agent is let in. -/
inductive Event where
  | closeout (tool : String) (input : Fields) (invocation : Invocation) (answered : Bool)
  | context (tool : String) (input : Fields) (invocation : Invocation)
  | after (tool : String) (response : Json) (invocation : Invocation)
  | language (locale : String) (invocation : Invocation)
  | respond (parts : Option (List Part))
  | handoff (admitted : Bool)

def Enabled (v : Variables) : Event → Prop
  | .closeout tool input i answered => answered = (enforceCloseout t v tool input i).2.isSome
  | .handoff admitted => admitted = (authorizeCloseoutHandoff v).2.isNone
  | _ => True

def next (v : Variables) : Event → Variables
  | .closeout tool input i _ => (enforceCloseout t v tool input i).1
  | .context tool input i => (enforceProposalContext t v tool input i).1
  | .after tool response i => afterTool t v tool response i
  | .language locale i => setConversationLanguage t v locale i
  | .respond parts => (advanceCloseoutCheckpoint v parts).1
  | .handoff _ => (authorizeCloseoutHandoff v).1

def callbacks : Machine Variables Event := ⟨Enabled t, next t⟩

instance (v : Variables) (e : Event) : Decidable ((callbacks t).Enabled v e) := by
  cases e
  case closeout | handoff => exact inferInstanceAs (Decidable (_ = _))
  all_goals exact inferInstanceAs (Decidable True)

/-- Another tool came in between; a refused end of the session does not count. -/
def Interrupts (e : Event) : Prop :=
  ∃ tool input i answered, e = .closeout tool input i answered ∧ ¬ CloseoutTransfer t tool input ∧
    ¬ (EndsWith tool "end_session" ∧ answered = true)

def Succeeds (i : Invocation) (e : Event) : Prop :=
  ∃ tool response, e = .after tool response i ∧
    (EndsWith tool "reverse_overdraft_fee" ∨ IsCommit tool) ∧ Succeeded (payloadOf response)

/-- The customer said something in `i`, and it is not what the action of `i₀` came from. -/
def SaysMore (i₀ i : Invocation) : Prop :=
  hasCustomerInput i = true ∧ (i.id ≠ i₀.id ∨
    customerInputFingerprint t i ≠ customerInputFingerprint t i₀ ∨ hasCustomerInput i₀ = false)

def Opened (i₀ : Invocation) : List Event → Prop := Since (Interrupts t) fun _ e => Succeeds i₀ e

def Offered (i₀ : Invocation) : List Event → Prop :=
  Since (Interrupts t) fun before e => Opened t i₀ before ∧ ∃ parts, e = .respond (some parts)

def Authorized (i₀ : Invocation) : List Event → Prop :=
  Since (Interrupts t) fun before e => Offered t i₀ before ∧ ∃ tool input i answered,
    e = .closeout tool input i answered ∧ CloseoutTransfer t tool input ∧ SaysMore t i₀ i

/-- The effect of `enforce_closeout`. -/
inductive CloseoutEffect (c : Checkpoint) (tool : String) (input : Fields) (i : Invocation) :
    Bool → Checkpoint → Prop where
  | kept (answered) (transfer : CloseoutTransfer t tool input) :
    CloseoutEffect c tool input i answered c
  | refused (ends : EndsWith tool "end_session") : CloseoutEffect c tool input i true c
  | withdrawn (transfer : CloseoutTransfer t tool input) :
      CloseoutEffect c tool input i true { c with authorized := false }
  | authorized (transfer : CloseoutTransfer t tool input) (offered : c.state = "OFFERED")
      (said : customerInputFingerprint t i ≠ "")
      (later : (i.id ≠ "" ∧ c.originatingTurnId ≠ "" ∧ i.id ≠ c.originatingTurnId) ∨
        (c.originatingInputFingerprint ≠ "" ∧
          customerInputFingerprint t i ≠ c.originatingInputFingerprint) ∨
        c.originatingInputFingerprint = "") :
      CloseoutEffect c tool input i true { c with authorized := true }
  | ended : CloseoutEffect c tool input i false { c with state := "ENDING" }
  | cleared : CloseoutEffect c tool input i false .none

theorem enforceCloseout_effect (v : Variables) (tool : String) (input : Fields) (i : Invocation) :
    CloseoutEffect t (checkpoint v) tool input i (enforceCloseout t v tool input i).2.isSome
      (checkpoint (enforceCloseout t v tool input i).1) := by
  unfold enforceCloseout
  split
  · next htransfer =>
    split
    · exact .withdrawn htransfer
    · split
      · exact .kept _ htransfer
      · split
        · exact .withdrawn htransfer
        · next hready =>
          rw [not_or, not_not] at hready
          exact .authorized htransfer hready.2.1 hready.2.2.1 hready.2.2.2
  · split
    · exact .cleared
    · next hends =>
      dsimp only
      split
      · exact .refused (not_not.mp hends)
      · exact .ended

theorem enforceProposalContext_checkpoint (v : Variables) (tool : String) (input : Fields)
    (i : Invocation) : checkpoint (enforceProposalContext t v tool input i).1 = checkpoint v := by
  unfold enforceProposalContext
  split
  · split
    · rfl
    · dsimp only
      split <;> rfl
  · split
    · rfl
    · split
      · rfl
      · dsimp only
        split <;> split <;> rfl

theorem setConversationLanguage_checkpoint (v : Variables) (locale : String) (i : Invocation) :
    checkpoint (setConversationLanguage t v locale i) = checkpoint v := by
  unfold setConversationLanguage
  split
  · rfl
  · split
    · dsimp only
      split <;> rfl
    · rfl

theorem afterTool_checkpoint (v : Variables) (tool : String) (response : Json) (i : Invocation) :
    (Succeeds i (.after tool response i) ∧ checkpoint (afterTool t v tool response i) =
      ⟨"OFFER_PENDING", i.id, customerInputFingerprint t i, false⟩) ∨
    checkpoint (afterTool t v tool response i) = .none ∨
    checkpoint (afterTool t v tool response i) = checkpoint v := by
  unfold afterTool
  dsimp only
  split
  · exact Or.inr (Or.inr rfl)
  · split
    · next hreversal =>
      split
      · next hsucceeded => exact Or.inl ⟨⟨tool, response, rfl, Or.inl hreversal, hsucceeded⟩, rfl⟩
      · exact Or.inr (Or.inl rfl)
    · split
      · refine Or.inr (Or.inr ?_)
        unfold captureAlert
        split
        · dsimp only
          split <;> rfl
        · rfl
      · split
        · refine Or.inr (Or.inr ?_)
          unfold captureReview
          split <;> rfl
        · split
          · next hcommit =>
            unfold captureCommit
            split
            · next hsucceeded =>
              exact Or.inl ⟨⟨tool, response, rfl, Or.inr hcommit, hsucceeded⟩, rfl⟩
            · refine Or.inr (Or.inl ?_)
              dsimp only
              split
              · rfl
              · split <;> rfl
          · refine Or.inr (Or.inr ?_)
            split
            · unfold captureDecision
              split
              · dsimp only
                split <;> rfl
              · rfl
            · split
              · unfold captureProposal
                dsimp only
                split
                · split <;> rfl
                · rfl
              · rfl

/-- The checkpoint names the invocation of the action that opened it. -/
def Recorded (c : Checkpoint) (i₀ : Invocation) : Prop :=
  c.originatingTurnId = i₀.id ∧ c.originatingInputFingerprint = customerInputFingerprint t i₀

/-- What each state of the checkpoint says about the past. -/
structure Traced (es : List Event) (c : Checkpoint) : Prop where
  pending : c.state = "OFFER_PENDING" → ∃ i₀, Recorded t c i₀ ∧ Opened t i₀ es
  offered : c.state = "OFFERED" → ∃ i₀, Recorded t c i₀ ∧ Offered t i₀ es
  authorized : c.state = "OFFERED" → c.authorized = true → ∃ i₀, Authorized t i₀ es

section
variable {t} {v : Variables} {c c' : Checkpoint} {es : List Event} {e : Event}

theorem traced_of_state (hpending : c.state ≠ "OFFER_PENDING") (hoffered : c.state ≠ "OFFERED") :
    Traced t es c :=
  ⟨fun h => absurd h hpending, fun h => absurd h hoffered, fun h => absurd h hoffered⟩

theorem Traced.later (h : Traced t es c) (he : ¬ Interrupts t e) : Traced t (es ++ [e]) c where
  pending hs := (h.pending hs).imp fun _ hi => ⟨hi.1, hi.2.later he⟩
  offered hs := (h.offered hs).imp fun _ hi => ⟨hi.1, hi.2.later he⟩
  authorized hs hflag := (h.authorized hs hflag).imp fun _ hi => hi.later he

theorem Traced.withdraw (h : Traced t es c) {b : Bool} (hb : b = true → c.authorized = true) :
    Traced t es { c with authorized := b } where
  pending := h.pending
  offered := h.offered
  authorized hs hflag := h.authorized hs (hb hflag)

theorem said_of_fingerprint {i : Invocation} (h : customerInputFingerprint t i ≠ "") :
    hasCustomerInput i = true := by
  unfold customerInputFingerprint at h
  split at h
  · exact absurd rfl h
  · next hparts =>
    obtain ⟨s, hs⟩ := List.exists_mem_of_ne_nil _ hparts
    obtain ⟨hmem, hne⟩ := List.mem_filter.mp hs
    exact List.any_eq_true.mpr ⟨s, hmem, hne⟩

theorem unsaid_of_fingerprint (hex : ∀ parts, t.fingerprint parts ≠ "") {i : Invocation}
    (h : customerInputFingerprint t i = "") : hasCustomerInput i = false := by
  unfold customerInputFingerprint at h
  split at h
  · next hparts =>
    rw [hasCustomerInput, List.any_eq_false]
    intro s hs
    exact List.filter_eq_nil_iff.mp hparts s hs
  · exact absurd h (hex _)

theorem saysMore_of_later (hex : ∀ parts, t.fingerprint parts ≠ "") {i₀ i : Invocation}
    (hrecorded : Recorded t c i₀) (said : customerInputFingerprint t i ≠ "")
    (later : (i.id ≠ "" ∧ c.originatingTurnId ≠ "" ∧ i.id ≠ c.originatingTurnId) ∨
      (c.originatingInputFingerprint ≠ "" ∧
        customerInputFingerprint t i ≠ c.originatingInputFingerprint) ∨
      c.originatingInputFingerprint = "") : SaysMore t i₀ i := by
  refine ⟨said_of_fingerprint said, ?_⟩
  rw [hrecorded.1, hrecorded.2] at later
  rcases later with ⟨-, -, hturn⟩ | ⟨-, hinput⟩ | hnone
  · exact Or.inl hturn
  · exact Or.inr (Or.inl hinput)
  · exact Or.inr (Or.inr (unsaid_of_fingerprint hex hnone))

theorem traced_closeout (hex : ∀ parts, t.fingerprint parts ≠ "") (h : Traced t es c)
    {tool : String} {input : Fields} {i : Invocation} {answered : Bool}
    (heffect : CloseoutEffect t c tool input i answered c') :
    Traced t (es ++ [.closeout tool input i answered]) c' := by
  have transfer_keeps : CloseoutTransfer t tool input →
      ¬ Interrupts t (.closeout tool input i answered) := by
    rintro htransfer ⟨_, _, _, _, heq, hother, -⟩
    cases heq
    exact hother htransfer
  cases heffect with
  | kept _ transfer => exact h.later (transfer_keeps transfer)
  | refused ends =>
    refine h.later ?_
    rintro ⟨_, _, _, _, heq, -, hother⟩
    cases heq
    exact hother ⟨ends, rfl⟩
  | withdrawn transfer => exact (h.later (transfer_keeps transfer)).withdraw nofun
  | authorized transfer offered said later =>
    have hlater := h.later (transfer_keeps transfer)
    refine ⟨hlater.pending, hlater.offered, fun _ _ => ?_⟩
    obtain ⟨i₀, hrecorded, hoffered⟩ := h.offered offered
    exact ⟨i₀, Since.here ⟨hoffered, tool, input, i, _, rfl, transfer,
      saysMore_of_later hex hrecorded said later⟩⟩
  | ended =>
    have hpending : "ENDING" ≠ "OFFER_PENDING" := by decide
    have hoffered : "ENDING" ≠ "OFFERED" := by decide
    exact traced_of_state hpending hoffered
  | cleared => exact traced_of_state (by decide) (by decide)

theorem traced_after (h : Traced t es (checkpoint v)) (tool : String) (response : Json)
    (i : Invocation) :
    Traced t (es ++ [.after tool response i]) (checkpoint (afterTool t v tool response i)) := by
  rcases afterTool_checkpoint t v tool response i with ⟨hsucceeds, heq⟩ | heq | heq
  · rw [heq]
    have hne : "OFFER_PENDING" ≠ "OFFERED" := by decide
    exact ⟨fun _ => ⟨i, ⟨rfl, rfl⟩, Since.here hsucceeds⟩, fun hs => absurd hs hne,
      fun hs => absurd hs hne⟩
  · rw [heq]
    exact traced_of_state (by decide) (by decide)
  · rw [heq]
    exact h.later (by rintro ⟨_, _, _, _, heq, -⟩; cases heq)

theorem traced_respond (h : Traced t es (checkpoint v)) (parts : Option (List Part)) :
    Traced t (es ++ [.respond parts]) (checkpoint (advanceCloseoutCheckpoint v parts).1) := by
  have hlater : Traced t (es ++ [.respond parts]) (checkpoint v) :=
    h.later (by rintro ⟨_, _, _, _, heq, -⟩; cases heq)
  cases parts with
  | none => exact hlater
  | some parts =>
    have hne : "OFFERED" ≠ "OFFER_PENDING" := by decide
    rw [advanceCloseoutCheckpoint]
    split
    · exact hlater
    · next hunauthorized =>
      split
      · next hpending =>
        obtain ⟨i₀, hrecorded, hopened⟩ := h.pending hpending.1
        exact ⟨fun hs => absurd hs hne, fun _ => ⟨i₀, hrecorded, Since.here ⟨hopened, parts, rfl⟩⟩,
          fun _ hflag => absurd hflag hunauthorized⟩
      · exact hlater

theorem traced_next (hex : ∀ parts, t.fingerprint parts ≠ "") (h : Traced t es (checkpoint v))
    (he : Enabled t v e) : Traced t (es ++ [e]) (checkpoint (next t v e)) := by
  have plain :
    (∀ tool input i answered, e ≠ .closeout tool input i answered) → ¬ Interrupts t e := by
    rintro hne ⟨tool, input, i, answered, heq, -⟩
    exact hne _ _ _ _ heq
  cases e with
  | closeout tool input i answered =>
    cases he
    exact traced_closeout hex h (enforceCloseout_effect t v tool input i)
  | context tool input i =>
    rw [next, enforceProposalContext_checkpoint]
    exact h.later (plain nofun)
  | after tool response i => exact traced_after h tool response i
  | language locale i =>
    rw [next, setConversationLanguage_checkpoint]
    exact h.later (plain nofun)
  | respond parts => exact traced_respond h parts
  | handoff admitted =>
    refine (h.later (plain nofun)).withdraw fun hflag => ?_
    exact (of_decide_eq_true hflag).1

end

/-- The closeout agent is let in only at the end of the handshake, with nothing pending. -/
theorem admitted_after_handshake (hex : ∀ parts, t.fingerprint parts ≠ "") {v : Variables}
    (start : checkpoint v = .none) {es : List Event}
    (hrun : (callbacks t).Run v (es ++ [.handoff true])) :
    (∃ i₀, Authorized t i₀ es) ∧ ((callbacks t).final v es).proposalId = "" ∧
      ((callbacks t).final v es).proposalCommitAttempted = false := by
  obtain ⟨hbefore, hadmitted, -⟩ := Machine.each_append.mp hrun
  have htraced : Traced t es (checkpoint ((callbacks t).final v es)) := by
    refine @history_of_each _ _ (callbacks t) (fun es v => Traced t es (checkpoint v)) _ _ _ ?_
      (fun es v e => traced_next hex) hbefore
    rw [start]
    exact traced_of_state (by decide) (by decide)
  have hauthorized : HandoffAuthorized ((callbacks t).final v es) := by
    by_contra hrefused
    have hnone : true = (authorizeCloseoutHandoff ((callbacks t).final v es)).2.isNone := hadmitted
    rw [authorizeCloseoutHandoff, if_neg hrefused] at hnone
    cases hnone
  obtain ⟨hflag, hoffered, hproposal, hcommit⟩ := hauthorized
  exact ⟨htraced.authorized hoffered hflag, hproposal, hcommit⟩

def inputTexts : Texts where
  str _ := ""
  dumps := Json.dumpsSpaced
  loads := Json.loads
  fingerprint parts :=
    if parts = ["No, that is all."] then
      "f0e22ba2aad0fa90a40ae4cd5977f9c77708a580bdeab2fa0f309c5c4f592226"
    else "9c99e0bfed4a4d68ea7560302426acab541310487e29fac20a2563cb53f4176b"

def feeTurn : Invocation := ⟨"turn-1", ["Please reverse the overdraft fee."]⟩

def closingTurn : Invocation := ⟨"turn-2", ["No, that is all."]⟩

def feeReversed : List Event :=
  [.closeout "reverse_overdraft_fee" [] feeTurn false, .context "reverse_overdraft_fee" [] feeTurn,
    .after "reverse_overdraft_fee" (.obj [("success", .bool true)]) feeTurn,
    .respond (some [.generated "The fee was reversed. Is there anything else?"])]

def transferred : List Event :=
  [.closeout "transfer_to_agent" [("agent_name", .str "Session Closeout Agent")] closingTurn true,
    .respond (some [.generated "Goodbye."]),
    .closeout "transfer_to_agent" [("agent_name", .str "Session Closeout Agent")] closingTurn false]

def opening : Variables := .initial "en-US" "en" "profile"

theorem inputTexts_hex (parts : List String) : inputTexts.fingerprint parts ≠ "" := by
  unfold inputTexts
  dsimp only
  split <;> decide

theorem feeReversed_handshake :
    let es := feeReversed ++ transferred
    (∃ i₀, Authorized inputTexts i₀ es) ∧
      ((callbacks inputTexts).final opening es).proposalId = "" ∧
      ((callbacks inputTexts).final opening es).proposalCommitAttempted = false :=
  admitted_after_handshake inputTexts inputTexts_hex rfl (by decide +kernel)

def endRefused : Event := .closeout "end_session" [] feeTurn true

/-- The checkpoint outlives a refused end of the session. -/
theorem handshake_survives_end_session :
    ¬ ∀ (t : Texts), (∀ parts, t.fingerprint parts ≠ "") → ∀ (v : Variables),
      checkpoint v = .none → ∀ es : List Event, (callbacks t).Run v (es ++ [.handoff true]) →
        ∃ i₀ before e after, es = before ++ e :: after ∧ Succeeds i₀ e ∧
          ∀ tool input i answered, .closeout tool input i answered ∈ after →
            CloseoutTransfer t tool input := by
  intro hall
  obtain ⟨i₀, before, e, after, heq, ⟨tool, response, rfl, -⟩, honly⟩ :=
    hall inputTexts inputTexts_hex opening rfl (feeReversed ++ endRefused :: transferred)
      (by decide +kernel)
  have hend : endRefused ∈ after := by
    rcases before with _ | ⟨_, _ | ⟨_, _ | ⟨_, rest⟩⟩⟩
    · cases heq
    · cases heq
    · cases heq
      exact List.mem_cons_of_mem _ List.mem_cons_self
    · have hrest : (feeReversed ++ endRefused :: transferred).drop 3 =
          rest ++ .after tool response i₀ :: after := congrArg (List.drop 3) heq
      have hmem : Event.after tool response i₀ ∈
          (feeReversed ++ endRefused :: transferred).drop 3 := by
        rw [hrest]
        exact List.mem_append_right _ List.mem_cons_self
      simp [feeReversed, endRefused, transferred] at hmem
  have htransfer := honly _ _ _ _ hend
  exact absurd htransfer.1 (by decide)

end CloseoutHandoffs
