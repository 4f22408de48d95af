import BankingService.CesEvidence
import BankingService.Library.JsonLayout

/-! A commit that was let through keeps its proposal, its flag and its confirmation until the answer
is definitive, exactly as long as no other answer is captured meanwhile. -/
namespace UnresolvedCommits

open BankingService BankingService.Ces CesEvidence Python Runs

variable (t : Texts)

structure Commit where
  proposalId : String
  confirmationTurnId : String
  deriving DecidableEq

/-- The variables, and the commit that was let through and has no definitive answer yet. -/
structure State where
  vars : Variables
  commit : Option Commit

/-- The first commit that is let through is remembered until it is answered for good. -/
def nextCommit (s : State) : Event → Option Commit
  | .before tool input i =>
    let r := beforeTool t s.vars tool input i
    if IsCommit tool ∧ r.2.2.isNone then
      s.commit.or (some ⟨r.1.proposalId, r.1.proposalConfirmationTurnId⟩)
    else s.commit
  | .after tool input _ response =>
    if IsCommit tool ∧ Definitive t (payloadOf response) then
      s.commit.filter fun c => textOf t (lookup input "proposal_id") ≠ c.proposalId
    else s.commit
  | .language _ _ => s.commit

def commits : Machine State Event where
  Enabled _ _ := True
  next s e := ⟨act t s.vars e, nextCommit t s e⟩

def Held (s : State) : Prop :=
  ∀ c, s.commit = some c → s.vars.proposalId = c.proposalId ∧
    s.vars.proposalCommitAttempted = true ∧
    s.vars.proposalConfirmationTurnId = c.confirmationTurnId

/-- The only decision let through is another commit of the same proposal. -/
def OnlyRetries (s : State) (e : Event) : Prop :=
  ∀ c tool input i sent, s.commit = some c → e = .before tool input i →
    IsCommit tool ∨ EndsWith tool "decide_action_proposal" →
    LetThrough t s.vars tool input i sent →
      IsCommit tool ∧ textOf t (lookup sent "proposal_id") = c.proposalId

/-- While a commit is unresolved, no new proposal, no decision and no other proposal's commit is
answered. -/
def Undisturbed (s : State) (e : Event) : Prop :=
  ∀ c, s.commit = some c → match e with
    | .after tool input _ response =>
      ¬ Proposes t tool (payloadOf response) ∧
        ¬ (EndsWith tool "decide_action_proposal" ∧ Succeeded (payloadOf response)) ∧
        (IsCommit tool ∧ Definitive t (payloadOf response) →
          textOf t (lookup input "proposal_id") = c.proposalId)
    | _ => True

def Real (s : State) : Prop := ∀ c, s.commit = some c → c.proposalId ≠ ""

variable {t}

theorem real_next {s : State} {e : Event} (h : Real s) : Real ((commits t).next s e) := by
  intro c hc
  cases e with
  | language locale i => exact h c hc
  | after tool input i response =>
    simp only [commits, nextCommit] at hc
    split at hc
    · exact h c (Option.filter_eq_some_iff.mp hc).1
    · exact h c hc
  | before tool input i =>
    simp only [commits, nextCommit] at hc
    split at hc
    · next hsent =>
      rcases Option.or_eq_some_iff.mp hc with hold | ⟨-, hnew⟩
      · exact h c hold
      · cases hnew
        have heffect := beforeTool_effect t s.vars tool input i
        dsimp only at heffect
        rw [hsent.2] at heffect
        obtain ⟨hcurrent, hid, -⟩ := commit_effect t hsent.1 heffect
        exact fun hempty => hcurrent (hid.symm.trans hempty)
    · exact h c hc

theorem held_before {s : State} {tool : String} {input : Fields} {i : Invocation} (h : Held s) :
    Held ((commits t).next s (.before tool input i)) := by
  intro c hc
  have heffect := beforeTool_effect t s.vars tool input i
  dsimp only at heffect
  change (evidence (beforeTool t s.vars tool input i).1).proposalId = c.proposalId ∧
    (evidence (beforeTool t s.vars tool input i).1).commitAttempted = true ∧
    (evidence (beforeTool t s.vars tool input i).1).confirmationTurnId = c.confirmationTurnId
  have hold : s.commit = some c → (evidence s.vars).proposalId = c.proposalId ∧
      (evidence s.vars).commitAttempted = true ∧
      (evidence s.vars).confirmationTurnId = c.confirmationTurnId := h c
  have hkept : s.commit = some c →
      (evidence (beforeTool t s.vars tool input i).1).proposalId = c.proposalId ∧
        (evidence (beforeTool t s.vars tool input i).1).commitAttempted = true ∧
        (evidence (beforeTool t s.vars tool input i).1).confirmationTurnId =
          c.confirmationTurnId := by
    intro hs
    obtain ⟨hid, hattempted, hturn⟩ := hold hs
    generalize evidence (beforeTool t s.vars tool input i).1 = e' at heffect
    generalize (beforeTool t s.vars tool input i).2.1 = sent at heffect
    generalize (beforeTool t s.vars tool input i).2.2.isNone = through at heffect
    cases heffect with
    | refused => exact ⟨hid, hattempted, hturn⟩
    | attestedOnly input commit fresh => exact absurd (fresh.symm.trans hattempted) (by decide)
    | decided input decides fresh => exact absurd (fresh.symm.trans hattempted) (by decide)
    | turnTaken => exact ⟨hid, hattempted, hturn⟩
    | passed => exact ⟨hid, hattempted, hturn⟩
    | committed input commit fresh => exact absurd (fresh.symm.trans hattempted) (by decide)
    | retried => exact ⟨hid, hattempted, hturn⟩
  simp only [commits, nextCommit] at hc
  split at hc
  · next hsent =>
    rcases Option.or_eq_some_iff.mp hc with hs | ⟨-, hnew⟩
    · exact hkept hs
    · cases hnew
      rw [hsent.2] at heffect
      obtain ⟨-, -, hattempted, -⟩ := commit_effect t hsent.1 heffect
      exact ⟨rfl, hattempted, rfl⟩
  · exact hkept hc

/-- After a tool, the commit is held exactly if the answer is not another one. -/
theorem held_after {s : State} {tool : String} {input : Fields} {i : Invocation} {response : Json}
    (hreal : Real s) (h : Held s) :
    Held ((commits t).next s (.after tool input i response)) ↔
      Undisturbed t s (.after tool input i response) := by
  have heffect := afterTool_effect t s.vars tool response i
  have hnext : ∀ c, ((commits t).next s (.after tool input i response)).commit = some c ↔
      s.commit = some c ∧ ¬ (IsCommit tool ∧ Definitive t (payloadOf response) ∧
        textOf t (lookup input "proposal_id") = c.proposalId) := by
    intro c
    simp only [commits, nextCommit]
    split
    · next hanswer =>
      rw [Option.filter_eq_some_iff, decide_eq_true_eq]
      exact and_congr_right fun _ => by simp [hanswer.1, hanswer.2]
    · next hanswer =>
      refine ⟨fun hs => ⟨hs, fun hc => hanswer ⟨hc.1, hc.2.1⟩⟩, fun hs => hs.1⟩
  have hheld : Held ((commits t).next s (.after tool input i response)) ↔
      ∀ c, s.commit = some c → ¬ (IsCommit tool ∧ Definitive t (payloadOf response) ∧
        textOf t (lookup input "proposal_id") = c.proposalId) →
      (evidence (afterTool t s.vars tool response i)).proposalId = c.proposalId ∧
        (evidence (afterTool t s.vars tool response i)).commitAttempted = true ∧
        (evidence (afterTool t s.vars tool response i)).confirmationTurnId =
          c.confirmationTurnId := by
    refine forall_congr' fun c => ?_
    rw [hnext c, and_imp]
    exact Iff.rfl
  rw [hheld]
  refine forall_congr' fun c => imp_congr_right fun hs => ?_
  obtain ⟨hid, hattempted, hturn⟩ : (evidence s.vars).proposalId = c.proposalId ∧
      (evidence s.vars).commitAttempted = true ∧
      (evidence s.vars).confirmationTurnId = c.confirmationTurnId := h c hs
  have hne := hreal c hs
  generalize evidence (afterTool t s.vars tool response i) = e' at heffect
  cases heffect with
  | kept unresolved undecided unproposed =>
    refine ⟨fun _ => ⟨unproposed, undecided, fun hc => absurd hc.2 (unresolved hc.1)⟩,
      fun _ _ => ?_⟩
    exact ⟨hid, hattempted, hturn⟩
  | committed commit definitive =>
    obtain ⟨hundecided, hunproposed⟩ := commit_alone t commit (payloadOf response)
    constructor
    · intro hkeeps
      refine ⟨hunproposed, fun hd => hundecided hd.1, fun _ => ?_⟩
      by_contra hother
      exact hne (hkeeps fun hc => hother hc.2.2).1.symm
    · intro hundisturbed hother
      exact absurd ⟨commit, definitive, hundisturbed.2.2 ⟨commit, definitive⟩⟩ hother
  | unpresented commit definitive =>
    obtain ⟨hundecided, hunproposed⟩ := commit_alone t commit (payloadOf response)
    constructor
    · intro hkeeps
      refine ⟨hunproposed, fun hd => hundecided hd.1, fun _ => ?_⟩
      by_contra hother
      exact absurd (hkeeps fun hc => hother hc.2.2).2.1 (by simp [TurnEvidence.unpresented])
    · intro hundisturbed hother
      exact absurd ⟨commit, definitive, hundisturbed.2.2 ⟨commit, definitive⟩⟩ hother
  | decided decides succeeded =>
    constructor
    · intro hkeeps
      have hplain : ¬ IsCommit tool := fun hc => (commit_alone t hc (payloadOf response)).1 decides
      exact absurd (hkeeps fun hc => hplain hc.1).1.symm hne
    · intro hundisturbed
      exact absurd ⟨decides, succeeded⟩ hundisturbed.2.1
  | proposed id plain proposes =>
    constructor
    · intro hkeeps
      exact absurd (hkeeps fun hc => plain hc.1).2.1 (by simp [TurnEvidence.proposed])
    · intro hundisturbed
      exact absurd proposes hundisturbed.1

theorem held_language {s : State} {locale : String} {i : Invocation} (h : Held s) :
    Held ((commits t).next s (.language locale i)) := by
  intro c hc
  obtain ⟨hid, hattempted, hturn⟩ : (evidence s.vars).proposalId = c.proposalId ∧
      (evidence s.vars).commitAttempted = true ∧
      (evidence s.vars).confirmationTurnId = c.confirmationTurnId := h c hc
  change (evidence (setConversationLanguage t s.vars locale i)).proposalId = c.proposalId ∧
    (evidence (setConversationLanguage t s.vars locale i)).commitAttempted = true ∧
    (evidence (setConversationLanguage t s.vars locale i)).confirmationTurnId =
      c.confirmationTurnId
  rcases setConversationLanguage_effect t s.vars locale i with heq | ⟨hfresh, -⟩
  · rw [heq]
    exact ⟨hid, hattempted, hturn⟩
  · exact absurd (hfresh.symm.trans hattempted) (by decide)

theorem held_next {s : State} {e : Event} (hreal : Real s) (h : Held s) :
    Held ((commits t).next s e) ↔ Undisturbed t s e := by
  cases e with
  | before tool input i => exact ⟨fun _ _ _ => trivial, fun _ => held_before h⟩
  | after tool input i response => exact held_after hreal h
  | language locale i => exact ⟨fun _ _ _ => trivial, fun _ => held_language h⟩

theorem onlyRetries_of_held {s : State} {e : Event} (h : Held s) : OnlyRetries t s e := by
  rintro c tool input i sent hc rfl hdecision hsent
  obtain ⟨hid, hattempted, -⟩ : (evidence s.vars).proposalId = c.proposalId ∧
      (evidence s.vars).commitAttempted = true ∧ _ := h c hc
  have heffect := effect_of_letThrough t hsent
  by_cases hcommit : IsCommit tool
  · obtain ⟨-, -, -, hnamed⟩ := commit_effect t hcommit heffect
    exact ⟨hcommit, hnamed.trans hid⟩
  · have hdecides := hdecision.resolve_left hcommit
    generalize evidence (act t s.vars (.before tool input i)) = e' at heffect
    cases heffect with
    | decided input decides fresh => exact absurd (fresh.symm.trans hattempted) (by decide)
    | turnTaken input takes => exact absurd hdecides (takesTurn_exclusive takes (by decide))
    | passed input plain undecided => exact absurd hdecides undecided
    | committed input commit => exact absurd commit hcommit
    | retried input commit => exact absurd commit hcommit

variable (t)

theorem commit_held_iff (language code source : String) (es : List Event) :
    ((commits t).Throughout Held ⟨.initial language code source, none⟩ es ∧
      (commits t).Each (OnlyRetries t) ⟨.initial language code source, none⟩ es) ↔
        (commits t).Each (Undisturbed t) ⟨.initial language code source, none⟩ es := by
  have hrun : (commits t).Run ⟨.initial language code source, none⟩ es :=
    each_of_forall (fun _ _ => trivial) _
  have hreal : Real ⟨.initial language code source, none⟩ := by
    intro c hc
    cases hc
  have hheld : Held ⟨.initial language code source, none⟩ := by
    intro c hc
    cases hc
  have hiff := throughout_iff_each (fun _ _ hj _ _ _ => real_next hj)
    (fun _ _ hj hp _ => held_next hj hp) hrun hreal hheld
  rw [hiff]
  refine ⟨fun h => h.1, fun h => ⟨h, ?_⟩⟩
  refine each_of_each (I := fun s => Real s ∧ Held s) ?_ ?_ ⟨hreal, hheld⟩ h
  · intro s e hs hundisturbed
    exact ⟨real_next hs.1, (held_next hs.1 hs.2).mpr hundisturbed⟩
  · intro s e hs _
    exact onlyRetries_of_held hs.2

def texts : Texts where
  str _ := ""
  dumps := Json.dumpsSpaced
  loads := Json.loads
  fingerprint _ := ""

def prepared (turn id : String) : List Event :=
  [.before "prepare_action_proposal" [] ⟨turn, ["Please."]⟩,
    .after "prepare_action_proposal" [] ⟨turn, ["Please."]⟩ (.obj
      [("success", .bool true), ("proposal_id", .str id), ("action_type", .str "REISSUE_CARD"),
        ("customer_safe_summary", .str "A new card.")])]

def unanswered : List Event :=
  prepared "turn-1" "proposal-1" ++
    [.before "commit_action_proposal" [] ⟨"turn-2", ["Yes."]⟩,
      .after "commit_action_proposal" [("proposal_id", .str "proposal-1")] ⟨"turn-2", ["Yes."]⟩
        (.obj [("success", .bool false)])]

theorem unanswered_held :
    (commits texts).Throughout Held ⟨.initial "en-US" "en" "profile", none⟩ unanswered ∧
      (commits texts).Each (OnlyRetries texts) ⟨.initial "en-US" "en" "profile", none⟩
        unanswered := by
  refine (commit_held_iff texts "en-US" "en" "profile" unanswered).mpr ⟨?_, ?_, ?_, ?_, trivial⟩
  · intro c hc
    cases hc
  · intro c hc
    cases hc
  · intro c hc
    cases hc
  · intro c hc
    have hplain : ¬ (IsCommit "commit_action_proposal" ∧
        Definitive texts (payloadOf (.obj [("success", .bool false)]))) := by decide
    have hunproposed : ¬ Proposes texts "commit_action_proposal"
        (payloadOf (.obj [("success", .bool false)])) := by decide
    exact ⟨hunproposed, by decide, fun h => absurd h hplain⟩

/-- A new proposal takes the place of the one whose commit is unresolved. -/
theorem unresolved_commit_is_replaced :
    ¬ ∀ (t : Texts) (language code source : String) (es : List Event),
      (commits t).Throughout Held ⟨.initial language code source, none⟩ es := by
  intro hall
  have hheld := (hall texts "en-US" "en" "profile"
    (unanswered ++ prepared "turn-3" "proposal-2")).last
  have hcommit : ((commits texts).final ⟨.initial "en-US" "en" "profile", none⟩
      (unanswered ++ prepared "turn-3" "proposal-2")).commit =
        some ⟨"proposal-1", "turn-2"⟩ := by decide
  exact absurd (hheld _ hcommit).2.1 (by decide)

end UnresolvedCommits
