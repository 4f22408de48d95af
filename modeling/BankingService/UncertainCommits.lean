import BankingService.ToolGate

/-! A commit that was sent and has no definitive answer stays the pending proposal with its
confirmation, exactly as long as no preparation and no decision succeeds meanwhile. -/
namespace UncertainCommits

open BankingService BankingService.AgentSession BankingService.ProposalEvidence
  AgentEffects ToolGate
open Runs

/-- The calls of a session, beside the proposal whose commit was sent and not answered for good. -/
structure World where
  state : State
  unresolved : Option PendingProposal

/-- A commit is sent when its call goes on to the bank. -/
def nextUnresolved (w : World) : Event → Option PendingProposal
  | .checked i valid refused =>
    match w.state.task i with
    | some ⟨c, .checking held⟩ =>
      if c.tool = .commitActionProposal ∧
          (resumeChecked w.state.session c held valid refused).2 = .running then
        w.unresolved.or held
      else w.unresolved
    | _ => w.unresolved
  | .answer i r =>
    match w.state.task i with
    | some ⟨c, .running⟩ =>
      if c.tool = .commitActionProposal ∧ Definitive r then
        w.unresolved.filter fun u => u.proposalId ≠ c.proposalId
      else w.unresolved
    | _ => w.unresolved
  | _ => w.unresolved

def commits : Machine World Event where
  Enabled w e := Enabled w.state e
  next w e := ⟨next w.state e, nextUnresolved w e⟩

def start : World := ⟨.initial, none⟩

/-- `p` is the proposal `u` while its commit is uncertain, with the same confirmation. -/
structure Carries (u p : PendingProposal) : Prop where
  sameProposal : p.proposalId = u.proposalId
  uncertain : p.evidenceState = .commitInFlight ∨ p.evidenceState = .commitRetry
  samePresentation : p.presentationTurnId = u.presentationTurnId
  sameConfirmation : p.confirmationTurnId = u.confirmationTurnId

def Held (w : World) : Prop :=
  ∀ u, w.unresolved = some u → ∃ p, w.state.session.pending = some p ∧ Carries u p

/-- While a commit is uncertain, no successful preparation and no successful decision is
taken in. -/
def Undisturbed (w : World) (e : Event) : Prop :=
  ∀ u i c r, w.unresolved = some u → e = .after i → w.state.task i = some ⟨c, .answered r⟩ →
    ¬ (c.tool = .prepareActionProposal ∧ ∃ result, r.structured = some result ∧
      result.success = true ∧ result.actionType ≠ "") ∧
    ¬ (c.tool = .decideActionProposal ∧ r.Succeeds)

section
variable {u p : PendingProposal}

theorem Carries.retried (h : Carries u p) (reason : String) :
    Carries u (markCommitRetry p reason) := by
  unfold markCommitRetry
  split
  · exact ⟨h.sameProposal, Or.inr rfl, h.samePresentation, h.sameConfirmation⟩
  · exact h

theorem Carries.sent (h : Carries u p) (hattested : p.evidenceState.Attested) :
    Carries u (markCommitInFlight p) := by
  rw [markCommitInFlight, if_pos hattested]
  exact ⟨h.sameProposal, Or.inl rfl, h.samePresentation, h.sameConfirmation⟩

theorem carries_first (hattested : p.evidenceState.Attested) :
    Carries p (markCommitInFlight p) := by
  rw [markCommitInFlight, if_pos hattested]
  exact ⟨rfl, Or.inl rfl, rfl, rfl⟩

theorem Carries.ne (h : Carries u p) {s : EvidenceState} (hflight : s ≠ .commitInFlight)
    (hretry : s ≠ .commitRetry) : p.evidenceState ≠ s := by
  rintro rfl
  exact h.uncertain.elim hflight hretry

theorem Carries.attested (h : Carries u p) {s : Session} (hp : s.pending = some p) (c : Call) :
    attested s c = some p := by
  rw [AgentSession.attested, hp, Option.map_some]
  rcases attested_cases p c.proposalId p.actionType ((s.latestTurn.map (·.1)).getD "")
    ((s.latestTurn.map (·.2)).getD 0) with ⟨hattests, -⟩ | heq
  · exact absurd hattests.awaited (h.ne (by decide) (by decide))
  · rw [heq]

end

def Known (unresolved : Option PendingProposal) (c : Call) : Phase → Prop
  | .checkingLedger r | .told r => r.structured = none
  | .checking held =>
    (c.tool = .commitActionProposal →
      ∃ p, held = some p ∧ p.proposalId = c.proposalId ∧ p.evidenceState.Attested) ∧
    (c.tool = .commitActionProposal ∨ c.tool = .triageCustomerReportedFraud →
      ∀ u, unresolved = some u → ∃ p, held = some p ∧ Carries u p)
  | .running => c.tool = .commitActionProposal →
      ∀ u, unresolved = some u → u.proposalId = c.proposalId
  | .answered r => c.tool = .commitActionProposal → ∀ u, unresolved = some u → ¬ Definitive r
  | _ => True

structure Inv (w : World) : Prop where
  serial : Serial w.state
  known : Guarded (Known w.unresolved) w.state

section
variable {w : World} {i : ℕ} {c : Call}

theorem known_admitted {r : Session × Phase} (hheld : Held w)
    (h : Admitted w.state.session c r) : Known w.unresolved c r.2 := by
  cases h with
  | ledger answer found =>
    obtain ⟨-, hstructured, -⟩ := ledger_cases found
    dsimp only
    split <;> exact hstructured
  | refused status plain other => exact rfl
  | unattested decision => exact rfl
  | accepted p decision pending guard =>
    obtain ⟨_, hsome, hid, -, hattested⟩ := guarded guard
    cases hsome
    dsimp only
    split
    · refine ⟨fun _ => ⟨p, rfl, hid, hattested⟩, fun _ u hu => ⟨p, rfl, ?_⟩⟩
      obtain ⟨q, hq, hcarries⟩ := hheld u hu
      rw [hcarries.attested hq] at pending
      cases pending
      exact hcarries
    · next hconsequential =>
      intro htool
      rw [htool] at hconsequential
      exact absurd rfl hconsequential
  | passed plain =>
    have hcommit : ∀ {P : Prop}, c.tool = .commitActionProposal → P := by
      intro P htool
      rw [htool] at plain
      cases plain
    dsimp only
    split
    · exact ⟨hcommit, fun _ => hheld⟩
    · exact hcommit

theorem ordered_of_commit {c : Call} (h : c.tool = .commitActionProposal) :
    c.tool.ordered = true := by
  rw [h]
  rfl

theorem unresolved_checked {valid refused : Bool} {held : Option PendingProposal}
    (hi : w.state.task i = some ⟨c, .checking held⟩) (hc : c.tool.ordered = false) :
    nextUnresolved w (.checked i valid refused) = w.unresolved := by
  simp only [nextUnresolved, hi]
  refine if_neg fun h => ?_
  rw [ordered_of_commit h.1] at hc
  cases hc

theorem unresolved_answer {r : Response} (hi : w.state.task i = some ⟨c, .running⟩)
    (hc : c.tool.ordered = false) : nextUnresolved w (.answer i r) = w.unresolved := by
  simp only [nextUnresolved, hi]
  refine if_neg fun h => ?_
  rw [ordered_of_commit h.1] at hc
  cases hc

theorem known_resumed {held : Option PendingProposal} {r : Session × Phase}
    (h : Resumed w.state.session c held r) (hknown : Known w.unresolved c (.checking held)) :
    Known (if c.tool = .commitActionProposal ∧ r.2 = .running then w.unresolved.or held
      else w.unresolved) c r.2 := by
  cases h with
  | refused status other => exact rfl
  | committed tool =>
    intro _ u hu
    rw [if_pos ⟨tool, rfl⟩] at hu
    obtain ⟨p, rfl, hid, -⟩ := hknown.1 tool
    rcases Option.or_eq_some_iff.mp hu with hold | ⟨-, hnew⟩
    · obtain ⟨_, hp, hcarries⟩ := hknown.2 (Or.inl tool) u hold
      cases hp
      exact hcarries.sameProposal.symm.trans hid
    · cases hnew
      exact hid
  | written tool =>
    intro hcommit
    rw [tool] at hcommit
    cases hcommit
  | passed other => exact fun hcommit => absurd hcommit other

theorem inv_next {e : Event} (h : Inv w) (hheld : Held w) (he : Enabled w.state e) :
    Inv (commits.next w e) := by
  refine ⟨serial_next h.serial he, ?_⟩
  have hsame : ∀ d ph, Known w.unresolved d ph → Known w.unresolved d ph := fun _ _ hk => hk
  cases e with
  | start i c => exact guarded_started h.known
  | enter i refused =>
    obtain ⟨c, hi, hfree⟩ := he
    have hknown := known_admitted hheld (admitted w.state.session c refused)
    simp only [commits, next, hi]
    cases hc : c.tool.ordered with
    | true => exact guarded_entered h.serial (hfree hc) hknown
    | false =>
      refine guarded_moved h.serial h.known hi (fun hordered => ?_) (fun _ => hknown) fun _ => hsame
      rw [hc] at hordered
      cases hordered
  | checked i valid refused =>
    obtain ⟨c, ⟨answer, hi⟩ | ⟨held, hi⟩⟩ := he
    · simp only [commits, next, nextUnresolved, hi]
      refine guarded_moved h.serial h.known hi (fun _ => by rintro ⟨⟩) (fun hc => ?_) fun _ => hsame
      split
      · exact h.known i c (.checkingLedger answer) hi hc (by rintro ⟨⟩)
      · exact rfl
    · simp only [commits, next, hi]
      refine guarded_moved h.serial h.known hi (fun _ => by rintro ⟨⟩)
        (fun hc => ?_) fun hc d ph hk => ?_
      · simp only [nextUnresolved, hi]
        exact known_resumed (resumed ..) (h.known i c _ hi hc (by rintro ⟨⟩))
      · rw [unresolved_checked hi hc]
        exact hk
  | answer i r =>
    obtain ⟨c, hi, -⟩ := he
    simp only [commits, next, hi]
    refine guarded_moved h.serial h.known hi (fun _ => by rintro ⟨⟩) (fun hc hcommit u hu => ?_)
      fun hc d ph hk => ?_
    · simp only [nextUnresolved, hi] at hu
      split at hu
      · obtain ⟨hold, hother⟩ := Option.filter_eq_some_iff.mp hu
        rw [decide_eq_true_eq] at hother
        exact absurd (h.known i c .running hi hc (by rintro ⟨⟩) hcommit u hold) hother
      · next hopen => exact fun hdefinitive => hopen ⟨hcommit, hdefinitive⟩
    · rw [unresolved_answer hi hc]
      exact hk
  | error i =>
    obtain ⟨c, hi⟩ := he
    simp only [commits, next, hi]
    exact guarded_ended h.serial h.known hi fun _ => hsame
  | after i =>
    obtain ⟨c, r, hi⟩ := he
    have hnext : next w.state (.after i) = afterCallback w.state i c r := by
      rcases hi with hi | hi <;> simp only [next, hi]
    simp only [commits, hnext]
    have hmoved : ∀ {ph}, w.state.task i = some ⟨c, ph⟩ → ph ≠ .waiting →
        Guarded (Known w.unresolved) (afterCallback w.state i c r) := by
      intro ph hi hph
      unfold afterCallback
      dsimp only
      split
      · exact guarded_moved h.serial h.known hi (fun _ => hph) (fun _ => trivial) fun _ => hsame
      · exact guarded_ended h.serial h.known hi fun _ => hsame
    rcases hi with hi | hi
    · exact hmoved hi (by rintro ⟨⟩)
    · exact hmoved hi (by rintro ⟨⟩)
  | refreshed i =>
    obtain ⟨c, hi⟩ := he
    exact guarded_ended h.serial h.known hi fun _ => hsame
  | stop i =>
    obtain ⟨⟨c, ph⟩, hi⟩ := he
    exact guarded_ended h.serial h.known hi fun _ => hsame
  | setLanguage i changed => exact h.known
  | turn id observedAt => exact h.known
  | present id observedAt => exact h.known
  | fallback => exact h.known

theorem held_of {s : Session} (hheld : Held w) (hpending : ∀ u p, w.unresolved = some u →
    w.state.session.pending = some p → Carries u p → ∃ q, s.pending = some q ∧ Carries u q) :
    ∀ u, w.unresolved = some u → ∃ p, s.pending = some p ∧ Carries u p := by
  intro u hu
  obtain ⟨p, hp, hcarries⟩ := hheld u hu
  exact hpending u p hu hp hcarries

theorem held_admitted {r : Session × Phase} (hheld : Held w)
    (h : Admitted w.state.session c r) :
    ∀ u, w.unresolved = some u → ∃ p, r.1.pending = some p ∧ Carries u p := by
  cases h with
  | ledger answer found => exact hheld
  | refused status plain other => exact hheld
  | unattested decision =>
    exact held_of hheld fun u p _ hp hcarries => ⟨p, hcarries.attested hp c, hcarries⟩
  | accepted p decision pending guard =>
    refine held_of hheld fun u q _ hq hcarries => ⟨q, ?_, hcarries⟩
    rw [← hcarries.attested hq c, pending]
  | passed plain => exact hheld

theorem held_resumed {held : Option PendingProposal} {r : Session × Phase} (hheld : Held w)
    (h : Resumed w.state.session c held r)
    (hknown : c.tool.ordered = true → Known w.unresolved c (.checking held)) :
    ∀ u, (if c.tool = .commitActionProposal ∧ r.2 = .running then w.unresolved.or held
      else w.unresolved) = some u → ∃ p, r.1.pending = some p ∧ Carries u p := by
  cases h with
  | refused status other =>
    rw [if_neg fun h => nomatch h.2]
    exact hheld
  | committed tool =>
    intro u hu
    rw [if_pos ⟨tool, rfl⟩] at hu
    obtain ⟨hcommit, hcarried⟩ := hknown (ordered_of_commit tool)
    obtain ⟨p, rfl, -, hattested⟩ := hcommit tool
    refine ⟨markCommitInFlight p, rfl, ?_⟩
    rcases Option.or_eq_some_iff.mp hu with hold | ⟨-, hnew⟩
    · obtain ⟨_, hp, hcarries⟩ := hcarried (Or.inl tool) u hold
      cases hp
      exact hcarries.sent hattested
    · cases hnew
      exact carries_first hattested
  | written tool =>
    have hcommit : c.tool ≠ .commitActionProposal := by
      rw [tool]
      nofun
    rw [if_neg fun h => hcommit h.1]
    exact (hknown (by rw [tool]; rfl)).2 (Or.inr tool)
  | passed other =>
    rw [if_neg fun h => other h.1]
    exact hheld

theorem held_language (hheld : Held w) (changed : Bool) : ∀ u, w.unresolved = some u →
    ∃ p, (changeVoiceLanguage w.state.session changed).pending = some p ∧ Carries u p := by
  refine held_of hheld fun u p _ hp hcarries => ?_
  rcases changeVoiceLanguage_cases w.state.session changed with heq | ⟨q, hq, hflight, hretry, -⟩
  · rw [heq]
    exact ⟨p, hp, hcarries⟩
  · rw [hp] at hq
    cases hq
    exact absurd hcarries.uncertain (not_or.mpr ⟨hflight, hretry⟩)

theorem after_held {r : Response} {pending : Option PendingProposal}
    {completed : Relational.Dict String String} {u p : PendingProposal}
    (h : After w.state.session c r pending completed) (hp : w.state.session.pending = some p)
    (hcarries : Carries u p) (hopen : c.tool = .commitActionProposal → ¬ Definitive r) :
    (∃ q, pending = some q ∧ Carries u q) ↔
      ¬ (c.tool = .prepareActionProposal ∧ ∃ result, r.structured = some result ∧
        result.success = true ∧ result.actionType ≠ "") ∧
      ¬ (c.tool = .decideActionProposal ∧ r.Succeeds) := by
  cases h with
  | prepared result tool structured success action =>
    refine iff_of_false ?_ fun h => h.1 ⟨tool, result, structured, success, action⟩
    rintro ⟨_, ⟨⟩, hcarries⟩
    exact hcarries.ne (s := .awaitingPresentation) (by decide) (by decide) rfl
  | decided result tool structured success resolution named _ recorded =>
    refine iff_of_false (fun ⟨_, hq, _⟩ => nomatch hq) fun h => h.2 ⟨tool, ?_⟩
    exact succeeds_iff.mpr ⟨result, structured, success⟩
  | committed result tool structured success _ recorded =>
    exact absurd (Or.inl (succeeds_iff.mpr ⟨result, structured, success⟩)) (hopen tool)
  | failed tool other q pending inFlight _ changed same retried =>
    rw [hp] at pending
    cases pending
    obtain ⟨reason, rfl⟩ := retried (hopen tool)
    refine iff_of_true ⟨_, rfl, hcarries.retried reason⟩ ⟨?_, ?_⟩
    · rw [tool]
      exact fun h => nomatch h.1
    · rw [tool]
      exact fun h => nomatch h.1
  | kept plain unfailed unprepared undecided =>
    exact iff_of_true ⟨p, hp, hcarries⟩ ⟨unprepared, undecided⟩

theorem held_after {r : Response} (h : Inv w) (hheld : Held w)
    (hi : w.state.task i = some ⟨c, .told r⟩ ∨ w.state.task i = some ⟨c, .answered r⟩) :
    Held (commits.next w (.after i)) ↔ Undisturbed w (.after i) := by
  have hpending : (next w.state (.after i)).session = afterTool w.state.session c r := by
    rcases hi with hi | hi <;> simp only [next, hi, afterCallback_session]
  have hopen : c.tool = .commitActionProposal → ∀ u, w.unresolved = some u → ¬ Definitive r := by
    intro hc
    rcases hi with hi | hi
    · have hr : r.structured = none := h.known i c _ hi (ordered_of_commit hc) (by rintro ⟨⟩)
      intro _ _ hdefinitive
      simp [Definitive, Response.Succeeds, recoveryClassOf, hr] at hdefinitive
    · exact h.known i c _ hi (ordered_of_commit hc) (by rintro ⟨⟩) hc
  have hstep : ∀ u p, w.unresolved = some u → w.state.session.pending = some p → Carries u p →
      ((∃ q, (afterTool w.state.session c r).pending = some q ∧ Carries u q) ↔
        ¬ (c.tool = .prepareActionProposal ∧ ∃ result, r.structured = some result ∧
          result.success = true ∧ result.actionType ≠ "") ∧
        ¬ (c.tool = .decideActionProposal ∧ r.Succeeds)) :=
    fun u p hu hp hcarries => after_held (after ..) hp hcarries fun hc => hopen hc u hu
  constructor
  · rintro hnext u j d x hu ⟨⟩ htask
    obtain ⟨p, hp, hcarries⟩ := hheld u hu
    have hd : d = c ∧ x = r := by
      rcases hi with hi | hi
      · rw [hi] at htask
        cases htask
      · rw [hi] at htask
        cases htask
        exact ⟨rfl, rfl⟩
    obtain ⟨rfl, rfl⟩ := hd
    refine (hstep u p hu hp hcarries).mp ?_
    rw [← hpending]
    exact hnext u hu
  · intro hundisturbed u hu
    obtain ⟨p, hp, hcarries⟩ := hheld u hu
    change ∃ q, (next w.state (.after i)).session.pending = some q ∧ Carries u q
    rw [hpending]
    refine (hstep u p hu hp hcarries).mpr ?_
    rcases hi with hi | hi
    · -- a call that was answered in its place brings no result
      have hnone : c.tool.ordered = true → r.structured = none :=
        fun hc => h.known i c _ hi hc (by rintro ⟨⟩)
      constructor
      · rintro ⟨htool, result, hr, -⟩
        rw [hnone (by rw [htool]; rfl)] at hr
        cases hr
      · rintro ⟨htool, hsucceeds⟩
        obtain ⟨result, hr, -⟩ := succeeds_iff.mp hsucceeds
        rw [hnone (by rw [htool]; rfl)] at hr
        cases hr
    · exact hundisturbed u i c r hu rfl hi

theorem undisturbed_other {e : Event} (he : ∀ i, e ≠ .after i) : Undisturbed w e :=
  fun _ i _ _ _ hafter _ => absurd hafter (he i)

theorem held_next {e : Event} (h : Inv w) (hheld : Held w) (he : Enabled w.state e) :
    Held (commits.next w e) ↔ Undisturbed w e := by
  cases e with
  | after i =>
    obtain ⟨c, r, hi⟩ := he
    exact held_after h hheld hi
  | start i c => exact iff_of_true hheld (undisturbed_other (by rintro _ ⟨⟩))
  | enter i refused =>
    refine iff_of_true ?_ (undisturbed_other (by rintro _ ⟨⟩))
    obtain ⟨c, hi, -⟩ := he
    simp only [commits, next, hi]
    exact held_admitted (w := w) hheld (admitted w.state.session c refused)
  | checked i valid refused =>
    refine iff_of_true ?_ (undisturbed_other (by rintro _ ⟨⟩))
    obtain ⟨c, ⟨answer, hi⟩ | ⟨held, hi⟩⟩ := he
    · simp only [commits, next, nextUnresolved, hi]
      exact hheld
    · simp only [commits, next, nextUnresolved, hi]
      exact held_resumed hheld (resumed ..) fun hc => h.known i c _ hi hc (by rintro ⟨⟩)
  | answer i r =>
    refine iff_of_true ?_ (undisturbed_other (by rintro _ ⟨⟩))
    obtain ⟨c, hi, -⟩ := he
    simp only [commits, next, nextUnresolved, hi]
    intro u hu
    refine hheld u ?_
    change (if c.tool = .commitActionProposal ∧ Definitive r then _ else w.unresolved) =
      some u at hu
    split at hu
    · exact (Option.filter_eq_some_iff.mp hu).1
    · exact hu
  | error i =>
    refine iff_of_true ?_ (undisturbed_other (by rintro _ ⟨⟩))
    obtain ⟨c, hi⟩ := he
    simp only [commits, next, hi]
    refine held_of (w := w) hheld fun u p _ hp hcarries => ?_
    unfold onToolError
    split
    · rw [hp]
      exact ⟨_, rfl, hcarries.retried _⟩
    · exact ⟨p, hp, hcarries⟩
  | refreshed i => exact iff_of_true hheld (undisturbed_other (by rintro _ ⟨⟩))
  | stop i => exact iff_of_true hheld (undisturbed_other (by rintro _ ⟨⟩))
  | setLanguage i changed =>
    exact iff_of_true (held_language hheld changed) (undisturbed_other (by rintro _ ⟨⟩))
  | turn id observedAt => exact iff_of_true hheld (undisturbed_other (by rintro _ ⟨⟩))
  | present id observedAt =>
    refine iff_of_true (held_of (w := w) hheld fun u p _ hp hcarries => ⟨p, ?_, hcarries⟩)
      (undisturbed_other (by rintro _ ⟨⟩))
    change w.state.session.pending.map _ = some p
    rw [hp, Option.map_some, presented_idle (hcarries.ne (by decide) (by decide))]
  | fallback => exact iff_of_true (held_language hheld true) (undisturbed_other (by rintro _ ⟨⟩))

end

theorem commits_run {w : World} {es : List Event} (h : calls.Run w.state es) :
    commits.Run w es := by
  induction es generalizing w with
  | nil => trivial
  | cons e es ih => exact ⟨h.1, ih h.2⟩

theorem inv_initial : Inv start := by
  refine ⟨serial_initial, ?_⟩
  intro i c ph h
  cases h

/-- The uncertain commit is held throughout a session exactly if no successful preparation and no
successful decision is taken in while it is uncertain. -/
theorem commits_held_iff {es : List Event} (h : commits.Run start es) :
    commits.Throughout Held start es ↔ commits.Each Undisturbed start es :=
  throughout_iff_each (J := Inv) (fun _ _ hw hheld he _ => inv_next hw hheld he)
    (fun _ _ hw hheld he => held_next hw hheld he) h inv_initial nofun

def retried : List Event :=
  confirmed ++ [.error 2, .fallback, .start 3 ⟨.commitActionProposal, "p1", "", ""⟩, .enter 3 false,
    .checked 3 true false]

theorem retried_held :
    (commits.final start retried).state.session.pending.map (·.evidenceState) =
        some .commitInFlight ∧
      (commits.Throughout Held start retried ↔ commits.Each Undisturbed start retried) := by
  have hrun : commits.Run start retried :=
    commits_run (Machine.each_append.mpr ⟨confirmed_run, ⟨_, rfl⟩, trivial, rfl,
      ⟨_, rfl, fun _ => rfl⟩, ⟨_, Or.inr ⟨_, rfl⟩⟩, trivial⟩)
  exact ⟨rfl, commits_held_iff hrun⟩

def replaced : List Event :=
  confirmed ++ [.answer 2 ⟨"", false, some ⟨false, "p1", "", "", "", ""⟩⟩, .after 2,
    .start 3 ⟨.prepareActionProposal, "", "", "card_unfreeze"⟩, .enter 3 false,
    .answer 3 ⟨"", true, some ⟨true, "p2", "UNFREEZE_CARD", "1.0", "", ""⟩⟩, .after 3]

theorem replaced_run : commits.Run start replaced := by
  refine commits_run (Machine.each_append.mpr ⟨confirmed_run, ⟨_, rfl, nofun, nofun⟩,
    ⟨_, _, Or.inr rfl⟩, rfl, ⟨_, rfl, fun _ => rfl⟩, ⟨_, rfl, nofun, ?_⟩,
      ⟨_, _, Or.inr rfl⟩, trivial⟩)
  rintro - _ ⟨⟩ -
  decide

theorem uncertain_commit_is_replaced :
    ¬ ∀ es, commits.Run start es → commits.Throughout Held start es := by
  intro h
  have hheld : Held (commits.final start replaced) := (h _ replaced_run).last
  obtain ⟨p, hp, hcarries⟩ := hheld _ rfl
  have hother : p.proposalId = "p2" := by
    cases hp
    rfl
  rw [hcarries.sameProposal] at hother
  revert hother
  decide

end UncertainCommits
