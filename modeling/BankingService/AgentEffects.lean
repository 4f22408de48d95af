import BankingService.AgentCalls

/-! What each part of a tool call can do to the session, each said once. -/
namespace AgentEffects

open BankingService BankingService.AgentSession BankingService.ProposalEvidence Relational

theorem commit_or_decide {c : Call} (h : c.tool.decision = true) :
    c.tool = .commitActionProposal ∨ c.tool = .decideActionProposal := by
  cases ht : c.tool
  case commitActionProposal => exact Or.inl rfl
  case decideActionProposal => exact Or.inr rfl
  all_goals
    rw [ht] at h
    cases h

theorem ordered_of_decision {c : Call} (h : c.tool.decision = true) : c.tool.ordered = true := by
  rcases commit_or_decide h with ht | ht <;> rw [ht] <;> rfl

/-- No other proposal than the call's is pending. -/
def NoOther (s : Session) (c : Call) : Prop := ∀ p, s.pending = some p → p.proposalId = c.proposalId

def Named (s : Session) : Prop := ∀ p, s.pending = some p → p.proposalId ≠ ""

theorem ledger_cases {s : Session} {c : Call} {answer : Response}
    (h : completedProposalResult s c = some answer) :
    c.tool.decision = true ∧ answer.structured = none ∧
      (answer.status ∈ PROPOSAL_LEDGER_STATUSES → Named s → NoOther s c) ∧
      (answer.status = "ALREADY_COMMITTED" →
        s.completed.get? c.proposalId = some COMMITTED_RESOLUTION) := by
  unfold completedProposalResult at h
  split at h
  · cases h
  · next hc =>
    rw [not_or, not_not] at hc
    split at h
    · cases h
    · next resolution hr =>
      have hfound : s.completed.get? c.proposalId = some resolution :=
        (Option.filter_eq_some_iff.mp hr).1
      dsimp only at h
      split at h
      · cases h
        refine ⟨hc.1, rfl, fun hs => absurd hs (by decide), fun hs => absurd hs (by decide)⟩
      · next hpending =>
        have hno : Named s → NoOther s c := by
          intro hnamed p hp
          have hne := hnamed p hp
          rw [hp] at hpending
          by_contra hother
          exact hpending ⟨hne, hother⟩
        split at h
        · next hcommitted =>
          cases h
          exact ⟨hc.1, rfl, fun _ => hno, fun _ => hcommitted ▸ hfound⟩
        · cases h
          exact ⟨hc.1, rfl, fun _ => hno, fun hs => absurd hs (by decide)⟩

/-- What the first part of a call can come to. -/
inductive Admitted (s : Session) (c : Call) : Session × Phase → Prop where
  | ledger (answer) (found : completedProposalResult s c = some answer) :
      Admitted s c (s, if c.tool.consequential then .checkingLedger answer else .told answer)
  | refused (status) (plain : c.tool.decision = false)
      (other : status ∉ PROPOSAL_LEDGER_STATUSES) : Admitted s c (s, .told (.told status))
  | unattested (decision : c.tool.decision = true) :
      Admitted s c ({ s with pending := attested s c }, .told (.told "AUTHORIZATION_REQUIRED"))
  | accepted (p) (decision : c.tool.decision = true) (pending : attested s c = some p)
      (guard : proposalEvidenceError (some p) c.proposalId p.actionType = none) :
      Admitted s c ({ s with pending := some p },
        if c.tool.consequential then .checking (some p) else .running)
  | passed (plain : c.tool.decision = false) :
      Admitted s c (s, if c.tool.consequential then .checking s.pending else .running)

theorem admitted (s : Session) (c : Call) (refused : Bool) :
    Admitted s c (beforeTool s c refused) := by
  unfold beforeTool
  split
  · next answer h => exact .ledger answer h
  · split
    · next answer h =>
      unfold playbookDecisionRequiredResult at h
      split at h
      · cases h
      · next hprepare =>
        split at h
        · cases h
        · cases h
          refine .refused _ ?_ (by decide)
          rw [not_not.mp hprepare]
          rfl
    · by_cases hd : c.tool.decision = true
      · rw [if_pos hd]
        dsimp only
        cases hp : attested s c with
        | none =>
          have hnone : (proposalEvidenceError none c.proposalId "").isSome = true := by
            rw [Option.isSome_iff_ne_none]
            intro h
            obtain ⟨p, hp, -⟩ := guarded h
            cases hp
          rw [Option.map_none, Option.getD_none, if_pos hnone]
          exact hp ▸ .unattested hd
        | some p =>
          split
          · exact hp ▸ .unattested hd
          · next hguard =>
            have hguard : proposalEvidenceError (some p) c.proposalId p.actionType = none :=
              Option.not_isSome_iff_eq_none.mp hguard
            split
            · next hconsequential =>
              have haccepted := Admitted.accepted p hd hp hguard
              rw [if_pos hconsequential] at haccepted
              exact haccepted
            · next hconsequential =>
              have haccepted := Admitted.accepted p hd hp hguard
              rw [if_neg hconsequential] at haccepted
              exact haccepted
      · rw [if_neg hd]
        have hplain : c.tool.decision = false := eq_false_of_ne_true hd
        split
        · exact .refused _ hplain (by decide)
        · have hpassed := Admitted.passed (s := s) hplain
          split
          · next hconsequential =>
            rw [if_pos hconsequential] at hpassed
            exact hpassed
          · next hconsequential =>
            rw [if_neg hconsequential] at hpassed
            exact hpassed

theorem attested_pending {s : Session} {c : Call} {p : PendingProposal}
    (h : attested s c = some p) :
    ∃ q, s.pending = some q ∧ p.proposalId = q.proposalId ∧
      (q.proposalId ≠ c.proposalId → p = q) := by
  obtain ⟨q, hq, rfl⟩ := Option.map_eq_some_iff.mp h
  refine ⟨q, hq, ?_⟩
  rcases attested_cases q c.proposalId q.actionType ((s.latestTurn.map (·.1)).getD "")
    ((s.latestTurn.map (·.2)).getD 0) with ⟨hattests, heq⟩ | heq
  · rw [heq]
    exact ⟨rfl, fun hne => absurd hattests.sameProposal hne⟩
  · rw [heq]
    exact ⟨rfl, fun _ => rfl⟩

/-- What the rest of the part before a tool can come to. -/
inductive Resumed (s : Session) (c : Call) (held : Option PendingProposal) :
    Session × Phase → Prop where
  | refused (status) (other : status ∉ PROPOSAL_LEDGER_STATUSES) :
      Resumed s c held (s, .told (.told status))
  | committed (tool : c.tool = .commitActionProposal) :
      Resumed s c held ({ s with pending := held.map markCommitInFlight }, .running)
  | written (tool : c.tool = .triageCustomerReportedFraud) :
      Resumed s c held ({ s with pending := held }, .running)
  | passed (other : c.tool ≠ .commitActionProposal) : Resumed s c held (s, .running)

theorem resumed (s : Session) (c : Call) (held : Option PendingProposal) (valid refused : Bool) :
    Resumed s c held (resumeChecked s c held valid refused) := by
  unfold resumeChecked
  split
  · exact .refused _ (by decide)
  · split
    · next htool => exact .committed htool
    · next htool =>
      split
      · exact .refused _ (by decide)
      · exact .written htool
    · next hcommit _ =>
      split
      · exact .refused _ (by decide)
      · exact .passed hcommit

theorem changeVoiceLanguage_cases (s : Session) (changed : Bool) :
    changeVoiceLanguage s changed = s ∨
      ∃ p, s.pending = some p ∧ p.evidenceState ≠ .commitInFlight ∧
        p.evidenceState ≠ .commitRetry ∧
        changeVoiceLanguage s changed = { s with pending := some (requireRePresentation p) } := by
  unfold changeVoiceLanguage
  split
  · next p hp =>
    split
    · exact Or.inl rfl
    · next h =>
      rw [not_or, not_or] at h
      exact Or.inr ⟨p, hp, h.1, h.2.1, rfl⟩
  · exact Or.inl rfl

theorem presented_idle {p : PendingProposal} {id : String} {observedAt : EpochTime}
    (h : p.evidenceState ≠ .awaitingPresentation) : markProposalPresented p id observedAt = p := by
  rcases presented_cases p id observedAt with ⟨hs, -⟩ | heq
  · exact absurd hs h
  · exact heq

theorem presented_same (p : PendingProposal) (id : String) (observedAt : EpochTime) :
    (markProposalPresented p id observedAt).proposalId = p.proposalId := by
  rcases presented_cases p id observedAt with ⟨-, heq⟩ | heq
  · rw [heq]
  · rw [heq]

theorem recordPlaybookSelection_same (s : Session) (c : Call) :
    (recordPlaybookSelection s c).pending = s.pending ∧
      (recordPlaybookSelection s c).completed = s.completed ∧
      (recordPlaybookSelection s c).latestTurn = s.latestTurn := by
  unfold recordPlaybookSelection
  split <;> exact ⟨rfl, rfl, rfl⟩

theorem recordCompletedProposal_cases (s : Session) (id resolution : String) :
    (recordCompletedProposal s id resolution).pending = s.pending ∧
      ((recordCompletedProposal s id resolution).completed = s.completed ∨
        (recordCompletedProposal s id resolution).completed = s.completed.set id resolution) := by
  unfold recordCompletedProposal
  split
  · exact ⟨rfl, Or.inl rfl⟩
  · exact ⟨rfl, Or.inr rfl⟩

def recoveryClassOf (r : Response) : String := (r.structured.map (·.recoveryClass)).getD ""

/-- The bank's answer to a commit that settles it. -/
def Definitive (r : Response) : Prop :=
  r.Succeeds ∨ (recoveryClassOf r ≠ "" ∧ recoveryClassOf r ≠ "RETRY_SAME_PROPOSAL")

instance : DecidablePred Definitive := fun _ => inferInstanceAs (Decidable (_ ∨ _))

/-- What the pending proposal and the ledger can become after a tool. -/
inductive After (s : Session) (c : Call) (r : Response) :
    Option PendingProposal → Dict String String → Prop where
  | prepared (result : BankResult) (tool : c.tool = .prepareActionProposal)
      (structured : r.structured = some result) (success : result.success = true)
      (action : result.actionType ≠ "") :
      After s c r (some (createPendingProposal result.proposalId result.actionType
        result.contractVersion (s.latestTurn.map (·.1)))) s.completed
  | decided (result : BankResult) (tool : c.tool = .decideActionProposal)
      (structured : r.structured = some result) (success : result.success = true)
      (resolution : String) (named : c.decision ≠ "" → resolution = Python.upper c.decision)
      (completed : Dict String String) (recorded : completed = s.completed ∨
        completed = s.completed.set (resolvedId c result) resolution) :
      After s c r none completed
  | committed (result : BankResult) (tool : c.tool = .commitActionProposal)
      (structured : r.structured = some result) (success : result.success = true)
      (completed : Dict String String) (recorded : completed = s.completed ∨
        completed = s.completed.set (resolvedId c result) COMMITTED_RESOLUTION) :
      After s c r none completed
  | failed (tool : c.tool = .commitActionProposal) (other : r.status ∉ PROPOSAL_LEDGER_STATUSES)
      (p : PendingProposal) (pending : s.pending = some p)
      (inFlight : p.evidenceState = .commitInFlight) (p' : Option PendingProposal)
      (changed : p' ≠ some p) (same : ∀ q, p' = some q → q.proposalId = p.proposalId)
      (retried : ¬ Definitive r → ∃ reason, p' = some (markCommitRetry p reason)) :
      After s c r p' s.completed
  | kept (plain : c.tool = .commitActionProposal → ¬ r.Succeeds)
      (unfailed : c.tool = .commitActionProposal → r.status ∉ PROPOSAL_LEDGER_STATUSES →
        ∀ p, s.pending = some p → p.evidenceState ≠ .commitInFlight)
      (unprepared : ¬ (c.tool = .prepareActionProposal ∧ ∃ result, r.structured = some result ∧
        result.success = true ∧ result.actionType ≠ ""))
      (undecided : ¬ (c.tool = .decideActionProposal ∧ r.Succeeds)) :
      After s c r s.pending s.completed

theorem succeeds_iff {r : Response} :
    r.Succeeds ↔ ∃ result, r.structured = some result ∧ result.success = true := by
  unfold Response.Succeeds
  rw [Option.isSome_iff_exists]
  simp only [Option.filter_eq_some_iff]

theorem after_failedCommit {s : Session} {c : Call} {r : Response} (hfailed : ¬ r.Succeeds)
    (htool : c.tool = .commitActionProposal) (hother : r.status ∉ PROPOSAL_LEDGER_STATUSES) :
    After s c r (failedCommit s (recoveryClassOf r)).pending
      (failedCommit s (recoveryClassOf r)).completed := by
  have hundecided : ¬ (c.tool = .decideActionProposal ∧ r.Succeeds) := fun h => hfailed h.2
  have hunprepared : ¬ (c.tool = .prepareActionProposal ∧ ∃ result, r.structured = some result ∧
      result.success = true ∧ result.actionType ≠ "") := by
    rintro ⟨-, result, hr, hs, -⟩
    exact hfailed (succeeds_iff.mpr ⟨result, hr, hs⟩)
  unfold failedCommit
  split
  · next p hp =>
    split
    · next hstate =>
      refine .kept (fun _ => hfailed) (fun _ _ q hq => ?_) hunprepared hundecided
      rw [hp] at hq
      cases hq
      exact hstate
    · next hstate =>
      have hstate := not_not.mp hstate
      split
      · next hclass =>
        refine .failed htool hother p hp hstate _ ?_ ?_ ?_
        · intro heq
          have hpresent := congrArg PendingProposal.evidenceState (Option.some.inj heq)
          rw [hstate] at hpresent
          cases hpresent
        · rintro q ⟨⟩
          rfl
        · intro hopen
          refine absurd (Or.inr ?_) hopen
          rw [hclass]
          decide
      · split
        · next hclass =>
          exact .failed htool hother p hp hstate _ nofun nofun
            fun hopen => absurd (Or.inr hclass) hopen
        · refine .failed htool hother p hp hstate _ ?_ ?_ ?_
          · intro heq
            have hretry := congrArg PendingProposal.evidenceState (Option.some.inj heq)
            rw [markCommitRetry, if_pos hstate, hstate] at hretry
            cases hretry
          · rintro q ⟨⟩
            rw [markCommitRetry, if_pos hstate]
          · exact fun _ => ⟨_, rfl⟩
  · next hp =>
    refine .kept (fun _ => hfailed) (fun _ _ q hq => ?_) hunprepared hundecided
    rw [hp] at hq
    cases hq

theorem after_succeeded {s : Session} {c : Call} {r : Response} {result : BankResult}
    (hr : r.structured = some result) (hs : result.success = true) :
    After s c r (succeeded s c result).pending (succeeded s c result).completed := by
  cases htool : c.tool
  case prepareActionProposal =>
    simp only [succeeded, htool]
    split
    · next haction =>
      refine .kept ?_ ?_ ?_ ?_
      · rw [htool]
        nofun
      · rw [htool]
        nofun
      · rintro ⟨-, x, hx, -, hne⟩
        rw [hr] at hx
        cases hx
        exact hne haction
      · rw [htool]
        nofun
    · next haction => exact .prepared result htool hr hs haction
  case decideActionProposal =>
    simp only [succeeded, htool]
    obtain ⟨hp, hrecorded⟩ := recordCompletedProposal_cases { s with pending := none }
      (resolvedId c result) (Python.upper (if c.decision ≠ "" then c.decision
        else if result.decision ≠ "" then result.decision else "RESOLVED"))
    rw [hp]
    refine .decided result htool hr hs _ ?_ _ hrecorded
    intro hne
    rw [if_pos hne]
  case commitActionProposal =>
    simp only [succeeded, htool]
    obtain ⟨hp, hrecorded⟩ := recordCompletedProposal_cases { s with pending := none }
      (resolvedId c result) COMMITTED_RESOLUTION
    rw [hp]
    exact .committed result htool hr hs _ hrecorded
  all_goals
    simp only [succeeded, htool]
    refine .kept ?_ ?_ ?_ ?_
    all_goals
      rw [htool]
      nofun

theorem after_applyResult (s : Session) (c : Call) (r : Response) :
    After s c r (applyResult s c r).pending (applyResult s c r).completed := by
  unfold applyResult
  cases hr : r.structured.filter (·.success) with
  | some result =>
    obtain ⟨hstructured, hsuccess⟩ := Option.filter_eq_some_iff.mp hr
    exact after_succeeded hstructured hsuccess
  | none =>
    have hfailed : ¬ r.Succeeds := by
      unfold Response.Succeeds
      rw [hr]
      nofun
    dsimp only
    split
    · next hc => exact after_failedCommit hfailed hc.1 hc.2
    · next hc =>
      refine .kept (fun _ => hfailed) (fun htool hother => absurd ⟨htool, hother⟩ hc) ?_
        fun h => hfailed h.2
      rintro ⟨-, result, hr, hs, -⟩
      exact hfailed (succeeds_iff.mpr ⟨result, hr, hs⟩)

theorem after (s : Session) (c : Call) (r : Response) :
    After s c r (afterTool s c r).pending (afterTool s c r).completed := by
  unfold afterTool
  split
  · -- the selection of a playbook is another part of the session
    obtain ⟨hp, hl, ht⟩ := recordPlaybookSelection_same s c
    have h := after_applyResult (recordPlaybookSelection s c) c r
    revert h
    generalize (applyResult (recordPlaybookSelection s c) c r).pending = pending
    generalize (applyResult (recordPlaybookSelection s c) c r).completed = completed
    intro h
    cases h with
    | prepared result tool structured success action =>
      rw [hl, ht]
      exact .prepared result tool structured success action
    | decided result tool structured success resolution named _ recorded =>
      rw [hl] at recorded
      exact .decided result tool structured success resolution named _ recorded
    | committed result tool structured success _ recorded =>
      rw [hl] at recorded
      exact .committed result tool structured success _ recorded
    | failed tool other q pending inFlight p' changed same retried =>
      rw [hp] at pending
      rw [hl]
      exact .failed tool other q pending inFlight _ changed same retried
    | kept plain unfailed unprepared undecided =>
      rw [hp] at unfailed ⊢
      rw [hl]
      exact .kept plain unfailed unprepared undecided
  · exact after_applyResult s c r

theorem afterCallback_session (w : State) (i : ℕ) (c : Call) (r : Response) :
    (afterCallback w i c r).session = afterTool w.session c r := by
  unfold afterCallback
  dsimp only
  split <;> rfl

end AgentEffects
