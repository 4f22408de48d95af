import BankingService.ProposalCalls

/-! Whether the evidence that a committed proposal carries is about its own presentation. The turn
on which it was presented and the turns that the evidence names are recorded by different calls. -/
namespace BankingService.PresentationTurns

open Python Relational Checked Relation Runs

variable {β π ρ : Type}

/-- The evidence names the turns that the row records: the proposal's own presentation, and a
later turn of the customer that is not the one it came from. -/
def OwnPresentation (p : ActionProposal π ρ) : Prop :=
  ∃ presentation confirmation evidence,
    p.presentedAssistantTurnId = some presentation ∧
    p.confirmationCustomerTurnId = some confirmation ∧ p.confirmationEvidence = some evidence ∧
    evidence.get "presentation_turn_id" = some (.text presentation) ∧
    evidence.get "confirmation_turn_id" = some (.text confirmation) ∧
    confirmation ≠ presentation ∧ confirmation ≠ p.originatingCustomerTurnId

def CommittedOnOwnPresentation (db : ProposalDb β π ρ) : Prop :=
  ∀ p ∈ db.proposals.rows, p.status = .committed → OwnPresentation p

/-- The calls that a proposal takes to its commit. -/
def TowardsCommit : EngineCall π → Prop
  | .create _ | .markPresented _ _ _ | .attestDecision _ _ | .executeRegisteredCommit _ _ => True
  | .confirm _ _ _ _ | .decline _ _ _ | .invalidate _ _ _ => False

instance : DecidablePred (TowardsCommit (π := π)) := fun c => by
  cases c <;> unfold TowardsCommit <;> infer_instance

/-- An attested decision that confirms a proposal already presented names the turn that its
presentation was recorded on. -/
def SamePresentation (h : ProposalDigests π ρ) (db : ProposalDb β π ρ)
    (e : EngineEvent β π ρ) : Prop :=
  match e.call with
  | .attestDecision id context => ∀ p ∈ db.proposals.get? id,
      ∀ evidence ∈ (Engine.validateDecisionEvidence ⟨h, e.registry, e.clock⟩ p context).toOption,
      p.status = .presented → ¬ p.Overdue e.clock.confirming →
      evidence.decisionTurnId ≠ p.originatingCustomerTurnId →
      p.presentedAssistantTurnId = some evidence.presentationTurnId
  | _ => True

instance (h : ProposalDigests π ρ) (db : ProposalDb β π ρ) (e : EngineEvent β π ρ) :
    Decidable (SamePresentation h db e) := by
  unfold SamePresentation
  split <;> infer_instance

/-- The decisions that are about the presentation of the row they confirm. -/
def aboutPresentation : Decisions π ρ := fun p turn evidence =>
  ∃ presentation confirmation, p.presentedAssistantTurnId = some presentation ∧
    turn = some confirmation ∧ evidence.get "presentation_turn_id" = some (.text presentation) ∧
    evidence.get "confirmation_turn_id" = some (.text confirmation) ∧ confirmation ≠ presentation

structure Decided (p : ActionProposal π ρ) : Prop where
  settled : p.status ≠ .committing
  own : p.status = .confirmed ∨ p.status = .committed → OwnPresentation p

theorem decided_of_undecided {p : ActionProposal π ρ} (hs : p.status ≠ .committing)
    (hc : p.status ≠ .confirmed) (hd : p.status ≠ .committed) : Decided p :=
  ⟨hs, fun h => h.elim (absurd · hc) (absurd · hd)⟩

theorem decided_step {p q : ActionProposal π ρ} {stage : Stage}
    (h : RowStep aboutPresentation p stage q) (hp : Decided p) : Decided q := by
  cases h with
  | confirmed turn evidence now status inTime later protection decided =>
    refine ⟨by simp, fun _ => ?_⟩
    obtain ⟨presentation, confirmation, hpres, rfl, hev, hconf, hne⟩ := decided
    exact ⟨presentation, confirmation, evidence, hpres, rfl, rfl, hev, hconf, hne,
      fun h => later.2 (congrArg some h)⟩
  | again => exact hp
  | _ => exact decided_of_undecided (by simp) (by simp) (by simp)

theorem decided_rows (h : ProposalDigests π ρ) :
    RowInvariant h aboutPresentation (Decided (π := π) (ρ := ρ)) where
  step := decided_step
  overtaken _ _ := decided_of_undecided (by simp) (by simp) (by simp)
  executed hp status _ := ⟨by simp, fun _ => hp.own (Or.inl status)⟩
  created status _ := decided_of_undecided (by simp [status]) (by simp [status]) (by simp [status])

/-- Validated evidence is about the turn on which the row it confirms was presented: the call
presents the proposal itself, or it must name the recorded turn. -/
theorem confirms_own {h : ProposalDigests π ρ} {db : ProposalDb β π ρ} {e : EngineEvent β π ρ}
    (hcall : TowardsCommit e.call) (hsame : SamePresentation h db e) :
    Confirms aboutPresentation ⟨h, e.registry, e.clock⟩ db e.call := by
  unfold Confirms
  split
  · next hc =>
    rw [hc] at hcall
    exact hcall.elim
  · next id context hc =>
    simp only [SamePresentation, hc] at hsame
    intro p evidence hp hev q hq hs hover hlater
    have hvalid := hev
    simp only [Engine.validateDecisionEvidence, bind_eq_ok, raised_eq_ok] at hvalid
    obtain ⟨specification, -, hvalid⟩ := hvalid
    obtain ⟨-, -, hne, hpres, hconf, -⟩ := validateDecision_eq_ok hvalid
    refine ⟨evidence.presentationTurnId, evidence.decisionTurnId, ?_, rfl, hpres, hconf, hne⟩
    rcases hq with rfl | ⟨-, rfl⟩
    · exact hsame q hp evidence (by rw [hev]; rfl) hs hover fun h => hlater (congrArg some h)
    · rfl
  · trivial

variable [DecidableEq ρ]

/-- In every run in which no decision confirms a proposal under another turn than the one it was
presented on, every committed proposal carries evidence about its own presentation. -/
theorem committed_on_own_presentation (h : ProposalDigests π ρ) {db : ProposalDb β π ρ}
    {events : List (EngineEvent β π ρ)} (start : ∀ p ∈ db.proposals.rows, Decided p)
    (calls : ∀ e ∈ events, TowardsCommit e.call)
    (cond : (calling h).Each (SamePresentation h) db events) :
    (calling h).Throughout CommittedOnOwnPresentation db events := by
  have hkeep : ∀ db (e : EngineEvent β π ρ), (∀ p ∈ db.proposals.rows, Decided p) →
      TowardsCommit e.call ∧ SamePresentation h db e →
      ∀ p ∈ ((calling h).next db e).proposals.rows, Decided p := by
    rintro db e hdb ⟨hcall, hsame⟩
    have hpath := perform_path (h := h)
      (A := ⟨fun _ => True, fun _ => True, aboutPresentation, fun _ => True⟩) trivial
      (fun _ => trivial)
      (fun p hp => (hdb p hp).settled) (confirms_own hcall hsame)
    exact (decided_rows h).path hpath hdb
  have hdecided := throughout_of_each hkeep start ((each_of_forall calls db).and cond)
  exact hdecided.mono fun db hdb p hp hs => (hdb p hp).own (Or.inr hs)

def shownOnce : List (EngineEvent ℕ String Bool) :=
  [reissueCall 1 (.create (reissueValues "key-1" 1)),
    reissueCall 2 (.markPresented (.ofNat 1) (some "turn-2") 2),
    reissueCall 3 (.attestDecision (.ofNat 1) (acceptedOn "turn-2" "turn-3")),
    reissueCall 4 (.executeRegisteredCommit (.ofNat 1) reissueCommit)]

theorem shownOnce_commits_on_own_presentation :
    (calling reissueDigests).Throughout CommittedOnOwnPresentation (reissueStore 0) shownOnce ∧
      ((calling reissueDigests).final (reissueStore 0) shownOnce).proposals.rows.map
        (fun p => p.status) = [.committed] := by
  exact ⟨committed_on_own_presentation reissueDigests (fun _ hp => absurd hp List.not_mem_nil)
    (by decide) (by decide +kernel), by decide +kernel⟩

/-- The offer was shown on turn 2 and once more on turn 4, where the customer accepted it. -/
def shownTwice : List (EngineEvent ℕ String Bool) :=
  [reissueCall 1 (.create (reissueValues "key-1" 1)),
    reissueCall 2 (.markPresented (.ofNat 1) (some "turn-2") 2),
    reissueCall 3 (.attestDecision (.ofNat 1) (acceptedOn "turn-4" "turn-5")),
    reissueCall 4 (.executeRegisteredCommit (.ofNat 1) reissueCommit)]

theorem decision_on_another_presentation_commits :
    ¬ ∀ events : List (EngineEvent ℕ String Bool), (∀ e ∈ events, TowardsCommit e.call) →
      (calling reissueDigests).Throughout CommittedOnOwnPresentation (reissueStore 0) events := by
  intro hall
  have hlast := (hall shownTwice (by decide)).last
  have hrow : ∃ p ∈ ((calling reissueDigests).final (reissueStore 0) shownTwice).proposals.rows,
      p.status = .committed ∧ p.presentedAssistantTurnId = some "turn-2" ∧
      (p.confirmationEvidence.bind fun e => e.get "presentation_turn_id") =
        some (.text "turn-4") := by
    decide +kernel
  obtain ⟨p, hp, hs, hpres, hev⟩ := hrow
  obtain ⟨presentation, confirmation, evidence, hpres', -, hevidence, hget, -⟩ := hlast p hp hs
  have hturn : presentation = "turn-2" := Option.some.inj (hpres'.symm.trans hpres)
  rw [hevidence, Option.bind_some, hget, hturn] at hev
  exact absurd hev (by decide)

end BankingService.PresentationTurns
