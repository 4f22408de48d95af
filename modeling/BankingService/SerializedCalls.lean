import BankingService.ToolGate

/-! The ordered gate lets one call at a time between its callbacks, whatever else the session does,
so that a decision reaches the bank only with the evidence of the pending proposal. -/
namespace SerializedCalls

open BankingService BankingService.AgentSession BankingService.ProposalEvidence
  AgentEffects ToolGate
open Relational Runs

/-- The calls of a session, beside the proposals whose commit the bank reported. -/
structure World where
  state : State
  reported : List String

def reportedBy (w : State) : Event → List String
  | .answer i r =>
    match w.task i, r.structured.filter (·.success) with
    | some ⟨c, .running⟩, some result =>
      if c.tool = .commitActionProposal then [resolvedId c result] else []
    | _, _ => []
  | _ => []

/-- The tasks of the session; the runtime's own fallback is none of them. -/
def tasks : Machine World Event where
  Enabled w e := Enabled w.state e ∧ e ≠ .fallback
  next w e := ⟨next w.state e, w.reported ++ reportedBy w.state e⟩

def start : World := ⟨.initial, []⟩

/-- A decision goes to the bank for the pending proposal and with evidence that is accepted. -/
def SendsEvidence (w : World) (e : Event) : Prop :=
  ∀ i c, (next w.state e).task i = some ⟨c, .running⟩ → w.state.task i ≠ some ⟨c, .running⟩ →
    c.tool.decision = true → ∃ p, proposalEvidenceError (some p) c.proposalId p.actionType = none ∧
      ((c.tool = .commitActionProposal ∧ w.state.session.pending = some p ∧
        (next w.state e).session.pending = some (markCommitInFlight p)) ∨
      (c.tool = .decideActionProposal ∧ (next w.state e).session.pending = some p))

/-- A call is told that its proposal is committed only if the bank has reported so and no other
proposal is pending. -/
def AnswersCommitted (w : World) (e : Event) : Prop :=
  ∀ i c r, (next w.state e).task i = some ⟨c, .told r⟩ → w.state.task i ≠ some ⟨c, .told r⟩ →
    r.status = "ALREADY_COMMITTED" →
      c.proposalId ∈ w.reported ∧ NoOther (next w.state e).session c

def taskOf : Event → Option ℕ
  | .enter i _ | .checked i _ _ | .answer i _ | .error i | .after i | .refreshed i | .stop i =>
    some i
  | _ => none

/-- A decision that names another proposal leaves the pending one as it is. -/
def KeepsOther (w : World) (e : Event) : Prop :=
  ∀ i c ph p, taskOf e = some i → w.state.task i = some ⟨c, ph⟩ → c.tool.decision = true →
    w.state.session.pending = some p → c.proposalId ≠ p.proposalId →
      (next w.state e).session.pending = some p

/-- No commit that names another proposal is finished while the pending proposal's is in flight. -/
def NoneInFlight (w : World) (e : Event) : Prop :=
  ∀ i c ph p, e = .after i → w.state.task i = some ⟨c, ph⟩ → c.tool = .commitActionProposal →
    w.state.session.pending = some p → p.evidenceState = .commitInFlight →
      c.proposalId = p.proposalId

/-- What holds of an ordered call where it is. -/
def Good (s : Session) (reported : List String) (c : Call) : Phase → Prop
  | .waiting | .refreshing => True
  | .checkingLedger r | .told r => r.structured = none ∧
      (r.status ∈ PROPOSAL_LEDGER_STATUSES → NoOther s c) ∧
      (r.status = "ALREADY_COMMITTED" → c.proposalId ∈ reported)
  | .checking held => c.tool ≠ .decideActionProposal ∧ (∀ p, held = some p → p.proposalId ≠ "") ∧
      (c.tool = .commitActionProposal → ∃ p, held = some p ∧ s.pending = some p ∧
        proposalEvidenceError (some p) c.proposalId p.actionType = none)
  | .running => c.tool.decision = true → ∃ p, s.pending = some p ∧ c.proposalId = p.proposalId
  | .answered r =>
      (c.tool.decision = true → ∃ p, s.pending = some p ∧ c.proposalId = p.proposalId) ∧
      (c.tool = .decideActionProposal → r.Succeeds → c.decision ∈ DECISIONS) ∧
      ∀ result, r.structured = some result → result.success = true →
        (c.tool = .commitActionProposal → resolvedId c result ∈ reported) ∧
        (c.tool = .prepareActionProposal → result.proposalId ≠ "")

structure Inv (w : World) : Prop where
  serial : Serial w.state
  good : Guarded (Good w.state.session w.reported) w.state
  decides : ∀ i c r, w.state.task i = some ⟨c, .checkingLedger r⟩ → c.tool.decision = true
  named : Named w.state.session
  ledger : ∀ id, w.state.session.completed.get? id = some COMMITTED_RESOLUTION → id ∈ w.reported

section
variable {c : Call} {ph : Phase} {s s' : Session} {rep rep' : List String}

/-- What is known of a call looks at the pending proposal only. -/
theorem Good.congr (h : Good s rep c ph) (hs : s'.pending = s.pending) (hrep : rep ⊆ rep') :
    Good s' rep' c ph := by
  cases ph with
  | waiting => trivial
  | refreshing => trivial
  | checkingLedger r =>
    obtain ⟨hr, hno, hcommitted⟩ := h
    refine ⟨hr, fun hl p hp => hno hl p (hs ▸ hp), fun hc => hrep (hcommitted hc)⟩
  | told r =>
    obtain ⟨hr, hno, hcommitted⟩ := h
    refine ⟨hr, fun hl p hp => hno hl p (hs ▸ hp), fun hc => hrep (hcommitted hc)⟩
  | checking held =>
    obtain ⟨hdecide, hnamed, hcommit⟩ := h
    refine ⟨hdecide, hnamed, fun htool => ?_⟩
    obtain ⟨p, hheld, hp, hguard⟩ := hcommit htool
    exact ⟨p, hheld, hs.trans hp, hguard⟩
  | running =>
    intro hd
    obtain ⟨p, hp, hid⟩ := h hd
    exact ⟨p, hs.trans hp, hid⟩
  | answered r =>
    obtain ⟨hpending, hdecision, hresult⟩ := h
    refine ⟨fun hd => ?_, hdecision, fun result hr hsuccess => ?_⟩
    · obtain ⟨p, hp, hid⟩ := hpending hd
      exact ⟨p, hs.trans hp, hid⟩
    · obtain ⟨hcommit, hprepare⟩ := hresult result hr hsuccess
      exact ⟨fun htool => hrep (hcommit htool), hprepare⟩

end

theorem upper_decisions :
    ∀ d ∈ DECISIONS, d ≠ "" ∧ Python.upper d ≠ COMMITTED_RESOLUTION := by decide

section
variable {w : World} {i : ℕ} {c : Call} {ph : Phase} {rep : List String}

/-- A call goes on: it has the session for itself if it is ordered, and leaves the proposals alone
otherwise. -/
theorem inv_moved {r : Session × Phase} (h : Inv w) (hi : w.state.task i = some ⟨c, ph⟩)
    (hph : c.tool.ordered = true → ph ≠ .waiting ∧ r.2 ≠ .waiting) (hrep : w.reported ⊆ rep)
    (good : c.tool.ordered = true → Good r.1 rep c r.2)
    (decides : ∀ answer, r.2 = .checkingLedger answer → c.tool.decision = true)
    (quiet : c.tool.ordered = false → r.1.pending = w.state.session.pending) (named : Named r.1)
    (ledger : ∀ id, r.1.completed.get? id = some COMMITTED_RESOLUTION → id ∈ rep) :
    Inv ⟨w.state.moved i c r, rep⟩ := by
  refine ⟨serial_moved h.serial hi hph, ?_, ?_, named, ledger⟩
  · exact guarded_moved h.serial h.good hi (fun hc => (hph hc).1) good
      fun hc _ _ hgood => hgood.congr (quiet hc) hrep
  · intro j d answer hj
    obtain ⟨-, rfl, hanswer⟩ | ⟨-, hj⟩ := moved_cases hj
    · exact decides answer hanswer.symm
    · exact h.decides j d answer hj

theorem inv_ended {s : Session} (h : Inv w) (hi : w.state.task i = some ⟨c, ph⟩)
    (hph : ph ≠ .waiting ∨ s.pending = w.state.session.pending)
    (quiet : c.tool.ordered = false → s.pending = w.state.session.pending) (named : Named s)
    (ledger : ∀ id, s.completed.get? id = some COMMITTED_RESOLUTION → id ∈ w.reported) :
    Inv ⟨w.state.ended i s, w.reported⟩ := by
  refine ⟨serial_ended h.serial, ?_, ?_, named, ledger⟩
  · refine guarded_ended h.serial h.good hi fun hfree _ _ hgood => ?_
    have hsame : s.pending = w.state.session.pending := by
      rcases hfree with hc | hwaiting
      · exact quiet hc
      · exact hph.resolve_left (not_not.mpr hwaiting)
    exact hgood.congr hsame (List.Subset.refl _)
  · intro j d answer hj
    exact h.decides j d answer (ended_cases hj).2

theorem good_admitted {s : Session} {r : Session × Phase} (h : Admitted s c r) (hnamed : Named s)
    (hledger : ∀ id, s.completed.get? id = some COMMITTED_RESOLUTION → id ∈ rep) :
    Good r.1 rep c r.2 ∧ Named r.1 ∧ r.1.completed = s.completed ∧ r.2 ≠ .waiting ∧
      (∀ answer, r.2 = .checkingLedger answer → c.tool.decision = true) ∧
      (c.tool.decision = false → r.1.pending = s.pending) := by
  cases h with
  | ledger answer found =>
    obtain ⟨hd, hstructured, hno, hcommitted⟩ := ledger_cases found
    have hgood : answer.structured = none ∧
        (answer.status ∈ PROPOSAL_LEDGER_STATUSES → NoOther s c) ∧
        (answer.status = "ALREADY_COMMITTED" → c.proposalId ∈ rep) :=
      ⟨hstructured, fun hs => hno hs hnamed, fun hs => hledger _ (hcommitted hs)⟩
    dsimp only
    split
    · exact ⟨hgood, hnamed, rfl, nofun, fun _ _ => hd, fun _ => rfl⟩
    · exact ⟨hgood, hnamed, rfl, nofun, nofun, fun _ => rfl⟩
  | refused status plain other =>
    refine ⟨⟨rfl, fun hs => absurd hs other, fun hs => ?_⟩, hnamed, rfl, nofun, nofun, fun _ => rfl⟩
    exact absurd (show status ∈ PROPOSAL_LEDGER_STATUSES from by
      rw [show status = "ALREADY_COMMITTED" from hs]
      decide) other
  | unattested decision =>
    refine ⟨⟨rfl, fun hs => absurd hs (by decide), fun hs => absurd hs (by decide)⟩, ?_, rfl, nofun,
      nofun, fun hplain => ?_⟩
    · intro p hp
      obtain ⟨q, hq, hid, -⟩ := attested_pending hp
      rw [hid]
      exact hnamed q hq
    · rw [decision] at hplain
      cases hplain
  | accepted p decision pending guard =>
    obtain ⟨q, hq, hid, -⟩ := attested_pending pending
    have hpnamed : p.proposalId ≠ "" := by
      rw [hid]
      exact hnamed q hq
    have hnamed' : Named { s with pending := some p } := by
      rintro _ ⟨⟩
      exact hpnamed
    have hplain : c.tool.decision = false → some p = s.pending := by
      rw [decision]
      nofun
    obtain ⟨_, hp, hsame, -⟩ := guarded guard
    cases hp
    dsimp only
    split
    · next hconsequential =>
      refine ⟨⟨?_, ?_, fun _ => ⟨p, rfl, rfl, guard⟩⟩, hnamed', rfl, nofun, nofun, hplain⟩
      · intro htool
        rw [htool] at hconsequential
        cases hconsequential
      · rintro _ ⟨⟩
        exact hpnamed
    · exact ⟨fun _ => ⟨p, rfl, hsame.symm⟩, hnamed', rfl, nofun, nofun, hplain⟩
  | passed plain =>
    dsimp only
    split
    · refine ⟨⟨?_, hnamed, ?_⟩, hnamed, rfl, nofun, nofun, fun _ => rfl⟩
      · intro htool
        rw [htool] at plain
        cases plain
      · intro htool
        rw [htool] at plain
        cases plain
    · refine ⟨fun hd => ?_, hnamed, rfl, nofun, nofun, fun _ => rfl⟩
      rw [plain] at hd
      cases hd

theorem markCommitInFlight_same (p : PendingProposal) :
    (markCommitInFlight p).proposalId = p.proposalId := by
  unfold markCommitInFlight
  split <;> rfl

theorem good_resumed {s : Session} {held : Option PendingProposal} {r : Session × Phase}
    (h : Resumed s c held r) (hgood : c.tool.ordered = true → Good s rep c (.checking held))
    (hnamed : Named s) :
    (c.tool.ordered = true → Good r.1 rep c r.2) ∧ Named r.1 ∧ r.1.completed = s.completed ∧
      r.2 ≠ .waiting ∧ (∀ answer, r.2 ≠ .checkingLedger answer) ∧
      (c.tool.ordered = false → r.1.pending = s.pending) := by
  cases h with
  | refused status other =>
    refine ⟨fun _ => ⟨rfl, fun hs => absurd hs other, fun hs => ?_⟩, hnamed, rfl, nofun, nofun,
      fun _ => rfl⟩
    exact absurd (show status ∈ PROPOSAL_LEDGER_STATUSES from by
      rw [show status = "ALREADY_COMMITTED" from hs]
      decide) other
  | committed tool =>
    have hordered : c.tool.ordered = true := by
      rw [tool]
      rfl
    obtain ⟨-, -, hcommit⟩ := hgood hordered
    obtain ⟨p, rfl, hp, hguard⟩ := hcommit tool
    obtain ⟨_, hq, hsame, -⟩ := guarded hguard
    cases hq
    refine ⟨fun _ _ => ⟨_, rfl, ?_⟩, ?_, rfl, nofun, nofun, ?_⟩
    · rw [markCommitInFlight_same, hsame]
    · rintro _ ⟨⟩
      rw [markCommitInFlight_same]
      exact hnamed p hp
    · rw [hordered]
      nofun
  | written tool =>
    have hordered : c.tool.ordered = true := by
      rw [tool]
      rfl
    obtain ⟨-, hheld, -⟩ := hgood hordered
    refine ⟨fun _ hd => ?_, hheld, rfl, nofun, nofun, ?_⟩
    · rw [tool] at hd
      cases hd
    · rw [hordered]
      nofun
  | passed other =>
    refine ⟨fun hordered hd => ?_, hnamed, rfl, nofun, nofun, fun _ => rfl⟩
    obtain ⟨hdecide, -⟩ := hgood hordered
    rcases commit_or_decide hd with htool | htool
    · exact absurd htool other
    · exact absurd htool hdecide

theorem inv_entered {r : Session × Phase} (h : Inv w) (hfree : w.state.owner = none)
    (hc : c.tool.ordered = true) (hr : r.2 ≠ .waiting) (good : Good r.1 w.reported c r.2)
    (decides : ∀ answer, r.2 = .checkingLedger answer → c.tool.decision = true)
    (named : Named r.1)
    (ledger : ∀ id, r.1.completed.get? id = some COMMITTED_RESOLUTION → id ∈ w.reported) :
    Inv ⟨{ w.state.moved i c r with owner := some i }, w.reported⟩ := by
  refine ⟨serial_entered h.serial hfree hc hr, ?_, ?_, named, ledger⟩
  · exact guarded_entered h.serial hfree good
  · intro j d answer hj
    obtain ⟨-, rfl, hanswer⟩ | ⟨-, hj⟩ := moved_cases (w := w.state) hj
    · exact decides answer hanswer.symm
    · exact h.decides j d answer hj

theorem inv_observed {s : Session} (h : Inv w)
    (good : ∀ c ph, c.tool.ordered = true → Good w.state.session w.reported c ph →
      Good s w.reported c ph)
    (named : Named s) (completed : s.completed = w.state.session.completed) :
    Inv ⟨{ w.state with session := s }, w.reported⟩ := by
  refine ⟨h.serial, ?_, h.decides, named, ?_⟩
  · intro j d ph' hj hd hph'
    exact good d ph' hd (h.good j d ph' hj hd hph')
  · intro id hid
    exact h.ledger id (completed ▸ hid)

theorem good_presented {s : Session} {id : String} {observedAt : EpochTime}
    (h : Good s rep c ph) :
    Good { s with pending := s.pending.map fun p => markProposalPresented p id observedAt } rep c
      ph := by
  have hno : NoOther s c → NoOther
      { s with pending := s.pending.map fun p => markProposalPresented p id observedAt } c := by
    intro hno p hp
    obtain ⟨q, hq, rfl⟩ := Option.map_eq_some_iff.mp hp
    rw [presented_same]
    exact hno q hq
  have hsome : (∃ p, s.pending = some p ∧ c.proposalId = p.proposalId) →
      ∃ p, s.pending.map (fun p => markProposalPresented p id observedAt) = some p ∧
        c.proposalId = p.proposalId := by
    rintro ⟨p, hp, hid⟩
    rw [hp]
    exact ⟨_, rfl, hid.trans (presented_same p id observedAt).symm⟩
  cases ph with
  | waiting => trivial
  | refreshing => trivial
  | checkingLedger r => exact ⟨h.1, fun hl => hno (h.2.1 hl), h.2.2⟩
  | told r => exact ⟨h.1, fun hl => hno (h.2.1 hl), h.2.2⟩
  | running => exact fun hd => hsome (h hd)
  | answered r => exact ⟨fun hd => hsome (h.1 hd), h.2⟩
  | checking held =>
    obtain ⟨hdecide, hnamed, hcommit⟩ := h
    refine ⟨hdecide, hnamed, fun htool => ?_⟩
    obtain ⟨p, hheld, hp, hguard⟩ := hcommit htool
    -- evidence that is accepted does not wait for a presentation
    obtain ⟨_, hsome, -, -, hattested⟩ := guarded hguard
    cases hsome
    have hidle : p.evidenceState ≠ .awaitingPresentation := by
      rcases hattested with hs | hs <;> rw [hs] <;> decide
    refine ⟨p, hheld, ?_, hguard⟩
    change s.pending.map _ = some p
    rw [hp, Option.map_some, presented_idle hidle]

/-- What the update after an ordered call leaves. -/
theorem good_after {s : Session} {r : Response} {pending : Option PendingProposal}
    {completed : Dict String String} (h : After s c r pending completed)
    (hgood : c.tool.ordered = true → r.structured = none ∨ Good s rep c (.answered r))
    (hnamed : Named s)
    (hledger : ∀ id, s.completed.get? id = some COMMITTED_RESOLUTION → id ∈ rep) :
    (∀ p, pending = some p → p.proposalId ≠ "") ∧
      (∀ id, completed.get? id = some COMMITTED_RESOLUTION → id ∈ rep) ∧
      (c.tool.ordered = false → pending = s.pending) := by
  have hanswered : ∀ {result}, r.structured = some result → c.tool.ordered = true →
      Good s rep c (.answered r) := by
    intro result hr hc
    rcases hgood hc with hnone | hgood
    · rw [hr] at hnone
      cases hnone
    · exact hgood
  have hordered : ∀ {tool : Tool}, c.tool = tool → tool.ordered = true →
      c.tool.ordered = false → pending = s.pending := by
    rintro tool rfl hc hfalse
    rw [hc] at hfalse
    cases hfalse
  cases h with
  | prepared result tool structured success action =>
    have hc : c.tool.ordered = true := by
      rw [tool]
      rfl
    obtain ⟨-, -, hresult⟩ := hanswered structured hc
    refine ⟨?_, hledger, hordered tool rfl⟩
    rintro _ ⟨⟩
    exact (hresult result structured success).2 tool
  | decided result tool structured success resolution named _ recorded =>
    have hc : c.tool.ordered = true := by
      rw [tool]
      rfl
    obtain ⟨-, hdecision, -⟩ := hanswered structured hc
    refine ⟨nofun, fun id hid => ?_, hordered tool rfl⟩
    rcases recorded with rfl | rfl
    · exact hledger id hid
    · obtain ⟨hne, hother⟩ :=
        upper_decisions _ (hdecision tool (succeeds_iff.mpr ⟨result, structured, success⟩))
      rw [Dict.get?_set] at hid
      split at hid
      · rw [named hne] at hid
        exact absurd (Option.some.inj hid) hother
      · exact hledger id hid
  | committed result tool structured success _ recorded =>
    have hc : c.tool.ordered = true := by
      rw [tool]
      rfl
    obtain ⟨-, -, hresult⟩ := hanswered structured hc
    refine ⟨nofun, fun id hid => ?_, hordered tool rfl⟩
    rcases recorded with rfl | rfl
    · exact hledger id hid
    · rw [Dict.get?_set] at hid
      split at hid
      · next hsame =>
        rw [hsame]
        exact (hresult result structured success).1 tool
      · exact hledger id hid
  | failed tool other p isPending inFlight _ changed same retried =>
    refine ⟨fun q hq => ?_, hledger, hordered tool rfl⟩
    rw [same q hq]
    exact hnamed p isPending
  | kept plain unfailed unprepared undecided => exact ⟨hnamed, hledger, fun _ => rfl⟩

theorem inv_after {r : Response} (h : Inv w)
    (hi : w.state.task i = some ⟨c, .told r⟩ ∨ w.state.task i = some ⟨c, .answered r⟩) :
    Inv ⟨afterCallback w.state i c r, w.reported⟩ := by
  obtain ⟨ph, hph, hi, hgood⟩ : ∃ ph, ph ≠ .waiting ∧ w.state.task i = some ⟨c, ph⟩ ∧
      (c.tool.ordered = true → r.structured = none ∨
        Good w.state.session w.reported c (.answered r)) := by
    rcases hi with hi | hi
    · exact ⟨.told r, nofun, hi, fun hc => Or.inl (h.good i c _ hi hc nofun).1⟩
    · exact ⟨.answered r, nofun, hi, fun hc => Or.inr (h.good i c _ hi hc nofun)⟩
  obtain ⟨hnamed, hledger, hquiet⟩ :=
    good_after (after w.state.session c r) hgood h.named h.ledger
  unfold afterCallback
  dsimp only
  split
  · exact inv_moved h hi (fun _ => ⟨hph, nofun⟩) (List.Subset.refl _) (fun _ => trivial) nofun
      hquiet hnamed hledger
  · exact inv_ended h hi (Or.inl hph) hquiet hnamed hledger

theorem named_map {s : Session} {f : PendingProposal → PendingProposal} (h : Named s)
    (hf : ∀ p, (f p).proposalId = p.proposalId) : Named { s with pending := s.pending.map f } := by
  intro p hp
  obtain ⟨q, hq, rfl⟩ := Option.map_eq_some_iff.mp hp
  rw [hf]
  exact h q hq

theorem markCommitRetry_same (reason : String) (p : PendingProposal) :
    (markCommitRetry p reason).proposalId = p.proposalId := by
  unfold markCommitRetry
  split <;> rfl

theorem inv_error (h : Inv w) (hi : w.state.task i = some ⟨c, .running⟩) :
    Inv ⟨w.state.ended i (onToolError w.state.session c), w.reported⟩ := by
  unfold onToolError
  split
  · next htool =>
    refine inv_ended h hi (Or.inl nofun) (fun hc => ?_)
      (named_map h.named (markCommitRetry_same _)) h.ledger
    rw [htool] at hc
    cases hc
  · exact inv_ended h hi (Or.inl nofun) (fun _ => rfl) h.named h.ledger

theorem inv_setLanguage (h : Inv w) (hi : w.state.task i = some ⟨c, .running⟩)
    (hc : c.tool = .setConversationLanguage) (changed : Bool) :
    Inv ⟨{ w.state with session := changeVoiceLanguage w.state.session changed }, w.reported⟩ := by
  have hinside : Inside w.state i := by
    refine ⟨c, .running, hi, ?_, nofun⟩
    rw [hc]
    rfl
  rcases changeVoiceLanguage_cases w.state.session changed with heq | ⟨p, hp, -, -, heq⟩
  · rw [heq]
    exact h
  · rw [heq]
    refine ⟨h.serial, ?_, h.decides, ?_, h.ledger⟩
    · intro j d ph' hj hd hph'
      obtain rfl := alone h.serial hinside ⟨d, ph', hj, hd, hph'⟩
      obtain ⟨rfl, rfl⟩ := Task.mk.inj (Option.some.inj (hi.symm.trans hj))
      intro hdecision
      rw [hc] at hdecision
      cases hdecision
    · rintro _ ⟨⟩
      exact h.named p hp

theorem reported_answer {r : Response} {result : BankResult}
    (hi : w.state.task i = some ⟨c, .running⟩) (hc : c.tool = .commitActionProposal)
    (hr : r.structured = some result) (hs : result.success = true) :
    resolvedId c result ∈ reportedBy w.state (.answer i r) := by
  have hsuccess : r.structured.filter (·.success) = some result :=
    Option.filter_eq_some_iff.mpr ⟨hr, hs⟩
  simp only [reportedBy, hi, hsuccess, hc, if_true, List.mem_singleton]

theorem inv_answer {r : Response} (h : Inv w) (hi : w.state.task i = some ⟨c, .running⟩)
    (hdecision : c.tool = .decideActionProposal → r.Succeeds → c.decision ∈ DECISIONS)
    (hprepare : c.tool = .prepareActionProposal → ∀ result, r.structured = some result →
      result.success = true → result.proposalId ≠ "") :
    Inv ⟨w.state.moved i c (w.state.session, .answered r),
      w.reported ++ reportedBy w.state (.answer i r)⟩ := by
  have hrep : w.reported ⊆ w.reported ++ reportedBy w.state (.answer i r) :=
    List.subset_append_left ..
  refine inv_moved h hi (fun _ => ⟨nofun, nofun⟩) hrep (fun hc => ?_) nofun (fun _ => rfl) h.named
    fun id hid => hrep (h.ledger id hid)
  refine ⟨h.good i c _ hi hc nofun, hdecision, fun result hr hs =>
    ⟨fun htool => ?_, fun htool => ?_⟩⟩
  · exact List.mem_append_right _ (reported_answer hi htool hr hs)
  · exact hprepare htool result hr hs

theorem inv_ledger (h : Inv w) (valid : Bool) {answer : Response}
    (hi : w.state.task i = some ⟨c, .checkingLedger answer⟩) :
    Inv ⟨w.state.moved i c
      (w.state.session, .told (if valid then answer else .told "SESSION_INVALIDATED")),
      w.reported⟩ := by
  refine inv_moved h hi (fun _ => ⟨nofun, nofun⟩) (List.Subset.refl _) (fun hc => ?_) nofun
    (fun _ => rfl) h.named h.ledger
  split
  · exact h.good i c (.checkingLedger answer) hi hc nofun
  · exact ⟨rfl, fun hs => absurd hs (by decide), fun hs => absurd hs (by decide)⟩

theorem inv_checked (h : Inv w) (valid refused : Bool) {held : Option PendingProposal}
    (hi : w.state.task i = some ⟨c, .checking held⟩) :
    Inv ⟨w.state.moved i c (resumeChecked w.state.session c held valid refused), w.reported⟩ := by
  obtain ⟨hgood, hnamed, hcompleted, hwaiting, hdecides, hquiet⟩ :=
    good_resumed (resumed w.state.session c held valid refused)
      (fun hc => h.good i c _ hi hc nofun) h.named
  exact inv_moved h hi (fun _ => ⟨nofun, hwaiting⟩) (List.Subset.refl _) hgood
    (fun answer hanswer => absurd hanswer (hdecides answer)) hquiet hnamed
    fun id hid => h.ledger id (hcompleted ▸ hid)

theorem inv_enter (h : Inv w) (refused : Bool) (hi : w.state.task i = some ⟨c, .waiting⟩)
    (hfree : c.tool.ordered = true → w.state.owner = none) :
    Inv ⟨{ w.state.moved i c (beforeTool w.state.session c refused) with
      owner := if c.tool.ordered then some i else w.state.owner }, w.reported⟩ := by
  obtain ⟨hgood, hnamed, hcompleted, hwaiting, hdecides, hquiet⟩ :=
    good_admitted (admitted w.state.session c refused) h.named h.ledger
  have hledger : ∀ id, (beforeTool w.state.session c refused).1.completed.get? id =
      some COMMITTED_RESOLUTION → id ∈ w.reported := fun id hid => h.ledger id (hcompleted ▸ hid)
  cases hc : c.tool.ordered with
  | true => exact inv_entered h (hfree hc) hc hwaiting hgood hdecides hnamed hledger
  | false =>
    have hplain : c.tool.decision = false := by
      cases hd : c.tool.decision with
      | false => rfl
      | true => exact absurd (ordered_of_decision hd) (hc ▸ nofun)
    have hordered : ∀ {P : Prop}, c.tool.ordered = true → P := fun hc' => by
      rw [hc] at hc'
      cases hc'
    exact inv_moved h hi hordered (List.Subset.refl _) hordered hdecides (fun _ => hquiet hplain)
      hnamed hledger

theorem inv_start (h : Inv w) (hi : w.state.task i = none) :
    Inv ⟨{ w.state with task := Function.update w.state.task i (some ⟨c, .waiting⟩) },
      w.reported⟩ := by
  refine ⟨serial_started h.serial hi, guarded_started h.good, ?_, h.named, h.ledger⟩
  intro j d answer hj
  exact h.decides j d answer (started_cases hj nofun)

end

theorem inv_next {w : World} {e : Event} (h : Inv w) (he : tasks.Enabled w e) :
    Inv (tasks.next w e) := by
  obtain ⟨he, hfallback⟩ := he
  have hsame : ∀ {w' : State}, Inv ⟨w', w.reported⟩ → Inv ⟨w', w.reported ++ []⟩ := by
    intro w' hw'
    rw [List.append_nil]
    exact hw'
  cases e with
  | start i c => exact hsame (inv_start h he)
  | enter i refused =>
    obtain ⟨c, hi, hfree⟩ := he
    simp only [tasks, next, hi]
    exact hsame (inv_enter h refused hi hfree)
  | checked i valid refused =>
    obtain ⟨c, ⟨answer, hi⟩ | ⟨held, hi⟩⟩ := he
    · simp only [tasks, next, hi]
      exact hsame (inv_ledger h valid hi)
    · simp only [tasks, next, hi]
      exact hsame (inv_checked h valid refused hi)
  | answer i r =>
    obtain ⟨c, hi, hdecision, hprepare⟩ := he
    simp only [tasks, next, hi]
    exact inv_answer h hi hdecision hprepare
  | error i =>
    obtain ⟨c, hi⟩ := he
    simp only [tasks, next, hi]
    exact hsame (inv_error h hi)
  | after i =>
    obtain ⟨c, r, hi⟩ := he
    have hnext : next w.state (.after i) = afterCallback w.state i c r := by
      rcases hi with hi | hi <;> simp only [next, hi]
    simp only [tasks, hnext]
    exact hsame (inv_after h hi)
  | refreshed i =>
    obtain ⟨c, hi⟩ := he
    exact hsame (inv_ended h hi (Or.inr rfl) (fun _ => rfl) h.named h.ledger)
  | stop i =>
    obtain ⟨⟨c, ph⟩, hi⟩ := he
    exact hsame (inv_ended h hi (Or.inr rfl) (fun _ => rfl) h.named h.ledger)
  | setLanguage i changed =>
    obtain ⟨c, hi, hc⟩ := he
    exact hsame (inv_setLanguage h hi hc changed)
  | turn id observedAt =>
    exact hsame (inv_observed h (fun _ _ _ hgood => hgood.congr rfl (List.Subset.refl _)) h.named
      rfl)
  | present id observedAt =>
    exact hsame (inv_observed h (fun _ _ _ => good_presented)
      (named_map h.named fun p => presented_same p id observedAt) rfl)
  | fallback => exact absurd rfl hfallback

section
variable {w : World} {e : Event} {i : ℕ} {c : Call} {r : Response} {p : PendingProposal}

theorem reached {ph : Phase} (h : tasks.Enabled w e)
    (hnext : (next w.state e).task i = some ⟨c, ph⟩) (hold : w.state.task i ≠ some ⟨c, ph⟩)
    (hph : ph = .running ∨ ∃ r, ph = .told r) :
    (∃ refused, e = .enter i refused ∧ w.state.task i = some ⟨c, .waiting⟩ ∧
      (next w.state e).session = (beforeTool w.state.session c refused).1 ∧
      ph = (beforeTool w.state.session c refused).2) ∨
    (∃ valid refused held, e = .checked i valid refused ∧
      w.state.task i = some ⟨c, .checking held⟩ ∧
      (next w.state e).session = (resumeChecked w.state.session c held valid refused).1 ∧
      ph = (resumeChecked w.state.session c held valid refused).2) ∨
    ∃ valid refused answer, e = .checked i valid refused ∧
      w.state.task i = some ⟨c, .checkingLedger answer⟩ ∧
      (next w.state e).session = w.state.session ∧
      ph = .told (if valid then answer else .told "SESSION_INVALIDATED") := by
  have hmoved : ∀ {j d} {r : Session × Phase}, (w.state.moved j d r).task i = some ⟨c, ph⟩ →
      i = j ∧ c = d ∧ ph = r.2 := by
    intro j d r hm
    rcases moved_cases hm with hm | ⟨-, hm⟩
    · exact hm
    · exact absurd hm hold
  have hended : ∀ {j} {s : Session}, (w.state.ended j s).task i ≠ some ⟨c, ph⟩ := by
    intro j s hm
    exact hold (ended_cases hm).2
  cases e with
  | start j d =>
    exfalso
    simp only [next, Function.update_apply] at hnext
    split at hnext
    · cases hnext
      rcases hph with hph | ⟨r, hph⟩ <;> cases hph
    · exact hold hnext
  | enter j refused =>
    obtain ⟨d, hj, -⟩ := h.1
    simp only [next, hj] at hnext ⊢
    obtain ⟨rfl, rfl, hph⟩ := hmoved (r := beforeTool w.state.session d refused) hnext
    exact Or.inl ⟨refused, rfl, hj, rfl, hph⟩
  | checked j valid refused =>
    obtain ⟨d, ⟨answer, hj⟩ | ⟨held, hj⟩⟩ := h.1
    · simp only [next, hj] at hnext ⊢
      obtain ⟨rfl, rfl, hph⟩ := hmoved hnext
      exact Or.inr (Or.inr ⟨valid, refused, answer, rfl, hj, rfl, hph⟩)
    · simp only [next, hj] at hnext ⊢
      obtain ⟨rfl, rfl, hph⟩ := hmoved hnext
      exact Or.inr (Or.inl ⟨valid, refused, held, rfl, hj, rfl, hph⟩)
  | answer j r =>
    exfalso
    obtain ⟨d, hj, -⟩ := h.1
    simp only [next, hj] at hnext
    obtain ⟨-, -, rfl⟩ := hmoved hnext
    rcases hph with hph | ⟨r, hph⟩ <;> cases hph
  | error j =>
    obtain ⟨d, hj⟩ := h.1
    simp only [next, hj] at hnext
    exact absurd hnext hended
  | after j =>
    exfalso
    obtain ⟨d, r, hj⟩ := h.1
    have heq : next w.state (.after j) = afterCallback w.state j d r := by
      rcases hj with hj | hj <;> simp only [next, hj]
    rw [heq, afterCallback] at hnext
    split at hnext
    · obtain ⟨-, -, rfl⟩ := hmoved hnext
      rcases hph with hph | ⟨r, hph⟩ <;> cases hph
    · exact hended hnext
  | refreshed j => exact absurd hnext hended
  | stop j => exact absurd hnext hended
  | setLanguage j changed => exact absurd hnext hold
  | turn id observedAt => exact absurd hnext hold
  | present id observedAt => exact absurd hnext hold
  | fallback => exact absurd hnext hold

theorem sendsEvidence (hw : Inv w) (h : tasks.Enabled w e) : SendsEvidence w e := by
  intro i c hnext hold hd
  rcases reached h hnext hold (Or.inl rfl) with
    ⟨refused, -, -, hs, hph⟩ | ⟨valid, refused, held, -, hi, hs, hph⟩ | ⟨_, _, _, -, -, -, hph⟩
  · rw [hs]
    have hadmitted := admitted w.state.session c refused
    revert hadmitted hph
    generalize beforeTool w.state.session c refused = r
    intro hph hadmitted
    cases hadmitted with
    | ledger answer found =>
      dsimp only at hph
      split at hph <;> cases hph
    | refused status plain other => cases hph
    | unattested decision => cases hph
    | accepted p decision pending guard =>
      refine ⟨p, guard, Or.inr ⟨?_, rfl⟩⟩
      rcases commit_or_decide hd with htool | htool
      · dsimp only at hph
        rw [htool] at hph
        cases hph
      · exact htool
    | passed plain =>
      rw [hd] at plain
      cases plain
  · rw [hs]
    obtain ⟨hdecide, -, hcommit⟩ := hw.good i c _ hi (ordered_of_decision hd) nofun
    have htool := (commit_or_decide hd).resolve_right hdecide
    obtain ⟨p, rfl, hp, hguard⟩ := hcommit htool
    refine ⟨p, hguard, Or.inl ⟨htool, hp, ?_⟩⟩
    have hresumed := resumed w.state.session c (some p) valid refused
    revert hresumed hph
    generalize resumeChecked w.state.session c (some p) valid refused = r
    intro hph hresumed
    cases hresumed with
    | refused status other => cases hph
    | committed tool => rfl
    | written tool =>
      rw [tool] at htool
      cases htool
    | passed other => exact absurd htool other
  · cases hph

theorem answersCommitted (hw : Inv w) (h : tasks.Enabled w e) : AnswersCommitted w e := by
  intro i c r hnext hold hstatus
  have hledger : r.status ∈ PROPOSAL_LEDGER_STATUSES := by
    rw [hstatus]
    decide
  rcases reached h hnext hold (Or.inr ⟨r, rfl⟩) with
    ⟨refused, -, -, hs, hph⟩ | ⟨valid, refused, held, -, hi, hs, hph⟩ |
      ⟨valid, refused, answer, -, hi, hs, hph⟩
  · have hadmitted := admitted w.state.session c refused
    revert hadmitted hph
    rw [hs]
    generalize beforeTool w.state.session c refused = x
    intro hph hadmitted
    obtain ⟨hgood, -⟩ := good_admitted hadmitted hw.named hw.ledger
    rw [← hph] at hgood
    exact ⟨hgood.2.2 hstatus, hgood.2.1 hledger⟩
  · have hresumed := resumed w.state.session c held valid refused
    revert hresumed hph
    generalize resumeChecked w.state.session c held valid refused = x
    intro hph hresumed
    cases hresumed with
    | refused status other =>
      cases hph
      exact absurd hledger other
    | committed tool => cases hph
    | written tool => cases hph
    | passed other => cases hph
  · obtain ⟨-, hno, hcommitted⟩ :=
      hw.good i c _ hi (ordered_of_decision (hw.decides i c answer hi)) nofun
    rw [hs]
    split at hph
    · cases hph
      exact ⟨hcommitted hstatus, hno hledger⟩
    · cases hph
      exact absurd hledger (by decide)

theorem after_told {s : Session} {pending : Option PendingProposal}
    {completed : Dict String String} (h : After s c r pending completed)
    (hr : r.structured = none) :
    pending = s.pending ∨ (c.tool = .commitActionProposal ∧
      ∃ p, s.pending = some p ∧ p.evidenceState = .commitInFlight) := by
  have hnone : ∀ {result}, r.structured ≠ some result := by
    intro result hsome
    rw [hr] at hsome
    cases hsome
  cases h with
  | prepared result tool structured success action => exact absurd structured hnone
  | decided result tool structured success resolution named _ recorded =>
    exact absurd structured hnone
  | committed result tool structured success _ recorded => exact absurd structured hnone
  | failed tool other p pending inFlight _ changed same retried =>
    exact Or.inr ⟨tool, p, pending, inFlight⟩
  | kept plain unfailed unprepared undecided => exact Or.inl rfl

theorem noneInFlight (hw : Inv w) (h : tasks.Enabled w e) (hkeeps : KeepsOther w e) :
    NoneInFlight w e := by
  rintro i c ph p rfl hi htool hp hstate
  by_contra hother
  have hd : c.tool.decision = true := by
    rw [htool]
    rfl
  have hsame := hkeeps i c ph p rfl hi hd hp hother
  obtain ⟨d, r, hi' | hi'⟩ := h.1
  · obtain ⟨rfl, rfl⟩ := Task.mk.inj (Option.some.inj (hi.symm.trans hi'))
    obtain ⟨hr, hno, -⟩ := hw.good i c _ hi (ordered_of_decision hd) (by rintro ⟨⟩)
    have hafter := after w.state.session c r
    simp only [next, hi, afterCallback_session] at hsame
    revert hafter hsame
    generalize (afterTool w.state.session c r).pending = pending
    generalize (afterTool w.state.session c r).completed = completed
    intro hafter hsame
    cases hafter with
    | prepared result tool structured success action =>
      rw [hr] at structured
      cases structured
    | decided => cases hsame
    | committed => cases hsame
    | failed tool other q pending inFlight _ changed same retried =>
      rw [hp] at pending
      exact changed (hsame.trans pending)
    | kept plain unfailed unprepared undecided =>
      by_cases hledger : r.status ∈ PROPOSAL_LEDGER_STATUSES
      · exact hother (hno hledger p hp).symm
      · exact unfailed htool hledger p hp hstate
  · obtain ⟨rfl, rfl⟩ := Task.mk.inj (Option.some.inj (hi.symm.trans hi'))
    obtain ⟨q, hq, hid⟩ := (hw.good i c _ hi (ordered_of_decision hd) (by rintro ⟨⟩)).1 hd
    rw [hp] at hq
    cases hq
    exact hother hid

theorem keepsOther (hw : Inv w) (h : tasks.Enabled w e) (hnone : NoneInFlight w e) :
    KeepsOther w e := by
  intro i c ph p htask hi hd hp hother
  have hc := ordered_of_decision hd
  -- where the bank has the call, it names the pending proposal
  have hnamed : ¬ ∃ q, w.state.session.pending = some q ∧ c.proposalId = q.proposalId := by
    rintro ⟨q, hq, hid⟩
    rw [hp] at hq
    cases hq
    exact hother hid
  cases e with
  | enter j refused =>
    cases htask
    obtain ⟨d, hi', -⟩ := h.1
    obtain ⟨rfl, rfl⟩ := Task.mk.inj (Option.some.inj (hi.symm.trans hi'))
    simp only [next, hi]
    change (beforeTool w.state.session c refused).1.pending = some p
    have hadmitted := admitted w.state.session c refused
    revert hadmitted
    generalize beforeTool w.state.session c refused = r
    intro hadmitted
    cases hadmitted with
    | ledger answer found => exact hp
    | refused status plain other => exact hp
    | unattested decision =>
      have hattested : attested w.state.session c ≠ none := by
        rw [attested, hp]
        exact Option.some_ne_none _
      obtain ⟨q, hq⟩ := Option.ne_none_iff_exists'.mp hattested
      obtain ⟨q', hq', -, hsame⟩ := attested_pending hq
      rw [hp] at hq'
      cases hq'
      change attested w.state.session c = some p
      rw [hq, hsame (Ne.symm hother)]
    | accepted q decision pending guard =>
      obtain ⟨q', hq', hid, -⟩ := attested_pending pending
      obtain ⟨_, hsome, hguard, -⟩ := guarded guard
      cases hsome
      exact absurd ⟨q', hq', hguard.symm.trans hid⟩ hnamed
    | passed plain => exact hp
  | checked j valid refused =>
    cases htask
    obtain ⟨d, ⟨answer, hi'⟩ | ⟨held, hi'⟩⟩ := h.1
    · simp only [next, hi']
      exact hp
    · obtain ⟨rfl, rfl⟩ := Task.mk.inj (Option.some.inj (hi.symm.trans hi'))
      simp only [next, hi]
      change (resumeChecked w.state.session c held valid refused).1.pending = some p
      obtain ⟨hdecide, -, hcommit⟩ := hw.good i c _ hi hc (by rintro ⟨⟩)
      obtain ⟨q, -, hq, hguard⟩ := hcommit ((commit_or_decide hd).resolve_right hdecide)
      obtain ⟨_, hsome, hid, -⟩ := guarded hguard
      cases hsome
      exact absurd ⟨q, hq, hid.symm⟩ hnamed
  | answer j r =>
    cases htask
    obtain ⟨d, hi', -⟩ := h.1
    simp only [next, hi']
    exact hp
  | error j =>
    cases htask
    obtain ⟨d, hi'⟩ := h.1
    obtain ⟨rfl, rfl⟩ := Task.mk.inj (Option.some.inj (hi.symm.trans hi'))
    exact absurd (hw.good i c _ hi hc (by rintro ⟨⟩) hd) hnamed
  | after j =>
    cases htask
    obtain ⟨d, r, hi' | hi'⟩ := h.1
    · obtain ⟨rfl, rfl⟩ := Task.mk.inj (Option.some.inj (hi.symm.trans hi'))
      simp only [next, hi, afterCallback_session]
      rcases after_told (after w.state.session c r) (hw.good i c _ hi hc (by rintro ⟨⟩)).1 with
        hsame | ⟨htool, q, hq, hstate⟩
      · exact hsame.trans hp
      · exact absurd ⟨q, hq, hnone i c _ q rfl hi htool hq hstate⟩ hnamed
    · obtain ⟨rfl, rfl⟩ := Task.mk.inj (Option.some.inj (hi.symm.trans hi'))
      exact absurd ((hw.good i c _ hi hc (by rintro ⟨⟩)).1 hd) hnamed
  | refreshed j => exact hp
  | stop j => exact hp
  | start j d => cases htask
  | setLanguage j changed => cases htask
  | turn id observedAt => cases htask
  | present id observedAt => cases htask
  | fallback => cases htask

end

theorem tasks_run {w : World} {es : List Event} (h : calls.Run w.state es)
    (hfallback : ∀ e ∈ es, e ≠ .fallback) : tasks.Run w es := by
  induction es generalizing w with
  | nil => trivial
  | cons e es ih =>
    exact ⟨⟨h.1, hfallback e List.mem_cons_self⟩, ih h.2 fun e he => hfallback e (.tail _ he)⟩

theorem inv_initial : Inv start := by
  have hnone : ∀ {i c ph}, start.state.task i ≠ some ⟨c, ph⟩ := by
    intro i c ph h
    cases h
  exact ⟨serial_initial, fun _ _ _ h => absurd h hnone, fun _ _ _ h => absurd h hnone, nofun, nofun⟩

/-- In every session the ordered calls are serialized, a decision goes out with accepted evidence,
and a call is told that its proposal is committed only if it is. A call leaves another proposal
alone exactly as long as none that names another is finished while the pending one is in flight. -/
theorem calls_serialized {es : List Event} (h : tasks.Run start es) :
    tasks.Throughout (fun w => Serial w.state) start es ∧ tasks.Each SendsEvidence start es ∧
      tasks.Each AnswersCommitted start es ∧
      (tasks.Each KeepsOther start es ↔ tasks.Each NoneInFlight start es) := by
  have keep : ∀ w e, Inv w → tasks.Enabled w e → Inv (tasks.next w e) := fun _ _ => inv_next
  refine ⟨?_, ?_, ?_, fun hkeeps => ?_, fun hnone => ?_⟩
  · exact (throughout_of_each keep inv_initial h).mono fun w hw => hw.serial
  · exact each_of_each keep (fun _ _ => sendsEvidence) inv_initial h
  · exact each_of_each keep (fun _ _ => answersCommitted) inv_initial h
  · exact each_of_each (fun w e hw he => keep w e hw he.1)
      (fun _ _ hw he => noneInFlight hw he.1 he.2) inv_initial (h.and hkeeps)
  · exact each_of_each (fun w e hw he => keep w e hw he.1)
      (fun _ _ hw he => keepsOther hw he.1 he.2) inv_initial (h.and hnone)

def commitP : Call := ⟨.commitActionProposal, "p1", "", ""⟩

def repeated : List Event :=
  confirmed ++ [.answer 2 ⟨"", true, some ⟨true, "p1", "", "", "", ""⟩⟩, .after 2, .start 3 commitP,
    .enter 3 false, .checked 3 true false]

theorem repeated_serialized :
    tasks.Run start repeated ∧
      (tasks.final start repeated).state.task 3 =
        some ⟨commitP, .told (.told "ALREADY_COMMITTED")⟩ ∧
      tasks.Each AnswersCommitted start repeated ∧
      (tasks.Each KeepsOther start repeated ↔ tasks.Each NoneInFlight start repeated) := by
  have hrun : tasks.Run start repeated := by
    refine tasks_run (Machine.each_append.mpr ⟨confirmed_run, ⟨_, rfl, nofun, nofun⟩,
      ⟨_, _, Or.inr rfl⟩, rfl, ⟨_, rfl, fun _ => rfl⟩, ⟨_, Or.inl ⟨_, rfl⟩⟩, trivial⟩) ?_
    simp [repeated, confirmed]
  exact ⟨hrun, rfl, (calls_serialized hrun).2.2⟩

def abandoned : List Event :=
  confirmed ++ [.stop 2, .start 3 ⟨.commitActionProposal, "p2", "", ""⟩, .enter 3 false]

theorem abandoned_run : tasks.Run start (abandoned ++ [.after 3]) := by
  refine tasks_run (Machine.each_append.mpr ⟨Machine.each_append.mpr ⟨confirmed_run, ⟨_, rfl⟩, rfl,
    ⟨_, rfl, fun _ => rfl⟩, trivial⟩, ⟨_, _, Or.inl rfl⟩, trivial⟩) ?_
  simp [abandoned, confirmed]

theorem refused_commit_touches_another :
    ¬ ∀ es, tasks.Run start es →
      tasks.Throughout (fun w => Serial w.state) start es ∧ tasks.Each SendsEvidence start es ∧
        tasks.Each AnswersCommitted start es ∧ tasks.Each KeepsOther start es := by
  intro h
  obtain ⟨-, -, -, hkeeps⟩ := h _ abandoned_run
  have hlast : KeepsOther (tasks.final start abandoned) (.after 3) :=
    (Machine.each_append.mp hkeeps).2.1
  have hpending := hlast 3 _ _ _ rfl rfl rfl rfl (by decide)
  have hstate := congrArg (·.map (·.evidenceState)) hpending
  cases hstate

end SerializedCalls
