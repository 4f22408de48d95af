import BankingService.AgentEffects

/-! The gate that the ordered calls pass one at a time, and what is known of the call inside. -/
namespace ToolGate

open BankingService BankingService.AgentSession BankingService.ProposalEvidence AgentEffects

/-- The call is between its before- and its after-callback. -/
def Inside (w : State) (i : ℕ) : Prop :=
  ∃ c ph, w.task i = some ⟨c, ph⟩ ∧ c.tool.ordered = true ∧ ph ≠ .waiting

/-- At most one ordered call is inside, and the gate is free unless one is. -/
def Serial (w : State) : Prop := ∀ i, w.owner = some i ↔ Inside w i

def Guarded (G : Call → Phase → Prop) (w : State) : Prop :=
  ∀ i c ph, w.task i = some ⟨c, ph⟩ → c.tool.ordered = true → ph ≠ .waiting → G c ph

section
variable {w : State} {i j : ℕ} {c d : Call} {ph ph' : Phase} {s : Session} {r : Session × Phase}
variable {G H : Call → Phase → Prop}

theorem alone (hw : Serial w) (hi : Inside w i) (hj : Inside w j) : j = i := by
  have howner := ((hw j).mpr hj).symm.trans ((hw i).mpr hi)
  exact Option.some.inj howner

theorem moved_cases (h : (w.moved i c r).task j = some ⟨d, ph'⟩) :
    (j = i ∧ d = c ∧ ph' = r.2) ∨ (j ≠ i ∧ w.task j = some ⟨d, ph'⟩) := by
  unfold State.moved at h
  by_cases hj : j = i
  · subst hj
    simp only [Function.update_self, Option.some.injEq, Task.mk.injEq] at h
    exact Or.inl ⟨rfl, h.1.symm, h.2.symm⟩
  · simp only [Function.update_of_ne hj] at h
    exact Or.inr ⟨hj, h⟩

theorem moved_self (w : State) (i : ℕ) (c : Call) (r : Session × Phase) :
    (w.moved i c r).task i = some ⟨c, r.2⟩ := Function.update_self ..

theorem ended_cases (h : (w.ended i s).task j = some ⟨d, ph'⟩) :
    j ≠ i ∧ w.task j = some ⟨d, ph'⟩ := by
  unfold State.ended at h
  by_cases hj : j = i
  · subst hj
    simp only [Function.update_self, reduceCtorEq] at h
  · simp only [Function.update_of_ne hj] at h
    exact ⟨hj, h⟩

theorem started_cases
    (h : Function.update w.task i (some ⟨c, .waiting⟩) j = some ⟨d, ph'⟩) (hph : ph' ≠ .waiting) :
    w.task j = some ⟨d, ph'⟩ := by
  rw [Function.update_apply] at h
  split at h
  · cases h
    exact absurd rfl hph
  · exact h

theorem none_inside (hw : Serial w) (hfree : w.owner = none) : ¬ Inside w j := by
  intro hj
  have howner := (hw j).mpr hj
  rw [hfree] at howner
  cases howner

theorem inside_ended : Inside (w.ended i s) j ↔ j ≠ i ∧ Inside w j := by
  unfold Inside State.ended
  by_cases hj : j = i
  · subst hj
    simp
  · simp only [Function.update_of_ne hj, hj, ne_eq, not_false_eq_true, true_and]

theorem serial_ended (hw : Serial w) : Serial (w.ended i s) := by
  intro j
  rw [inside_ended, ← hw j]
  change (if w.owner = some i then none else w.owner) = some j ↔ j ≠ i ∧ w.owner = some j
  split
  · next howner =>
    rw [howner]
    refine ⟨nofun, fun h => ?_⟩
    exact absurd (Option.some.inj h.2).symm h.1
  · next howner =>
    refine ⟨fun h => ⟨?_, h⟩, fun h => h.2⟩
    rintro rfl
    exact howner h

theorem serial_moved (hw : Serial w) (hi : w.task i = some ⟨c, ph⟩)
    (hph : c.tool.ordered = true → ph ≠ .waiting ∧ r.2 ≠ .waiting) : Serial (w.moved i c r) := by
  intro j
  refine (hw j).trans ⟨?_, ?_⟩
  · rintro ⟨d, ph', hj, hd, hph'⟩
    by_cases hji : j = i
    · subst hji
      obtain ⟨rfl, rfl⟩ := Task.mk.inj (Option.some.inj (hi.symm.trans hj))
      exact ⟨c, r.2, moved_self .., hd, (hph hd).2⟩
    · exact ⟨d, ph', (Function.update_of_ne hji ..).trans hj, hd, hph'⟩
  · rintro ⟨d, ph', hj, hd, hph'⟩
    rcases moved_cases hj with ⟨rfl, rfl, rfl⟩ | ⟨-, hj⟩
    · exact ⟨d, ph, hi, hd, (hph hd).1⟩
    · exact ⟨d, ph', hj, hd, hph'⟩

theorem serial_entered (hw : Serial w) (hfree : w.owner = none) (hc : c.tool.ordered = true)
    (hr : r.2 ≠ .waiting) : Serial { w.moved i c r with owner := some i } := by
  intro j
  constructor
  · rintro ⟨⟩
    exact ⟨c, r.2, moved_self w i c r, hc, hr⟩
  · rintro ⟨d, ph', hj, hd, hph'⟩
    rcases moved_cases (w := w) hj with ⟨rfl, -⟩ | ⟨-, hj⟩
    · rfl
    · exact absurd ⟨d, ph', hj, hd, hph'⟩ (none_inside hw hfree)

theorem serial_started (hw : Serial w) (hi : w.task i = none) :
    Serial { w with task := Function.update w.task i (some ⟨c, .waiting⟩) } := by
  intro j
  refine (hw j).trans ⟨?_, ?_⟩
  · rintro ⟨d, ph, hj, hd, hph⟩
    have hji : j ≠ i := by
      rintro rfl
      rw [hi] at hj
      cases hj
    exact ⟨d, ph, (Function.update_of_ne hji ..).trans hj, hd, hph⟩
  · rintro ⟨d, ph, hj, hd, hph⟩
    exact ⟨d, ph, started_cases hj hph, hd, hph⟩

theorem beforeTool_inside (s : Session) (c : Call) (refused : Bool) :
    (beforeTool s c refused).2 ≠ .waiting := by
  have h := admitted s c refused
  revert h
  generalize beforeTool s c refused = r
  intro h
  cases h with
  | ledger answer found => dsimp only; split <;> nofun
  | refused status plain other => nofun
  | unattested decision => nofun
  | accepted p decision pending guard => dsimp only; split <;> nofun
  | passed plain => dsimp only; split <;> nofun

theorem resumed_inside (s : Session) (c : Call) (held : Option PendingProposal)
    (valid refused : Bool) : (resumeChecked s c held valid refused).2 ≠ .waiting := by
  have h := resumed s c held valid refused
  revert h
  generalize resumeChecked s c held valid refused = r
  intro h
  cases h <;> nofun

theorem serial_after {r : Response} (hw : Serial w)
    (hi : w.task i = some ⟨c, .told r⟩ ∨ w.task i = some ⟨c, .answered r⟩) :
    Serial (afterCallback w i c r) := by
  unfold afterCallback
  dsimp only
  split
  · rcases hi with hi | hi
    · exact serial_moved hw hi fun _ => ⟨nofun, nofun⟩
    · exact serial_moved hw hi fun _ => ⟨nofun, nofun⟩
  · exact serial_ended hw

theorem serial_next {e : Event} (hw : Serial w) (he : Enabled w e) : Serial (next w e) := by
  cases e with
  | start i c => exact serial_started hw he
  | enter i refused =>
    obtain ⟨c, hi, hfree⟩ := he
    simp only [next, hi]
    cases hc : c.tool.ordered with
    | true => exact serial_entered hw (hfree hc) hc (beforeTool_inside _ _ _)
    | false =>
      refine serial_moved hw hi fun hordered => ?_
      rw [hc] at hordered
      cases hordered
  | checked i valid refused =>
    obtain ⟨c, ⟨answer, hi⟩ | ⟨held, hi⟩⟩ := he
    · simp only [next, hi]
      exact serial_moved hw hi fun _ => ⟨nofun, nofun⟩
    · simp only [next, hi]
      exact serial_moved hw hi fun _ => ⟨nofun, resumed_inside _ _ _ _ _⟩
  | answer i r =>
    obtain ⟨c, hi, -⟩ := he
    simp only [next, hi]
    exact serial_moved hw hi fun _ => ⟨nofun, nofun⟩
  | error i =>
    obtain ⟨c, hi⟩ := he
    simp only [next, hi]
    exact serial_ended hw
  | after i =>
    obtain ⟨c, r, hi⟩ := he
    have hnext : next w (.after i) = afterCallback w i c r := by
      rcases hi with hi | hi <;> simp only [next, hi]
    rw [hnext]
    exact serial_after hw hi
  | refreshed i => exact serial_ended hw
  | stop i => exact serial_ended hw
  | setLanguage i changed => exact hw
  | turn id observedAt => exact hw
  | present id observedAt => exact hw
  | fallback => exact hw

theorem serial_initial : Serial State.initial := by
  refine fun i => ⟨nofun, ?_⟩
  rintro ⟨c, ph, h, -⟩
  cases h

theorem guarded_moved (hw : Serial w) (h : Guarded G w) (hi : w.task i = some ⟨c, ph⟩)
    (hph : c.tool.ordered = true → ph ≠ .waiting) (own : c.tool.ordered = true → H c r.2)
    (others : c.tool.ordered = false → ∀ d ph', G d ph' → H d ph') :
    Guarded H (w.moved i c r) := by
  intro j d ph' hj hd hph'
  obtain ⟨-, rfl, rfl⟩ | ⟨hji, hj⟩ := moved_cases hj
  · exact own hd
  · cases hc : c.tool.ordered with
    | true => exact absurd (alone hw ⟨c, ph, hi, hc, hph hc⟩ ⟨d, ph', hj, hd, hph'⟩) hji
    | false => exact others hc d ph' (h j d ph' hj hd hph')

theorem guarded_ended (hw : Serial w) (h : Guarded G w) (hi : w.task i = some ⟨c, ph⟩)
    (others : c.tool.ordered = false ∨ ph = .waiting → ∀ d ph', G d ph' → H d ph') :
    Guarded H (w.ended i s) := by
  intro j d ph' hj hd hph'
  obtain ⟨hji, hj⟩ := ended_cases hj
  have hgood := h j d ph' hj hd hph'
  by_cases hinside : c.tool.ordered = true ∧ ph ≠ .waiting
  · exact absurd (alone hw ⟨c, ph, hi, hinside⟩ ⟨d, ph', hj, hd, hph'⟩) hji
  · refine others ?_ d ph' hgood
    rw [not_and_or, Bool.not_eq_true, not_not] at hinside
    exact hinside

theorem guarded_entered (hw : Serial w) (hfree : w.owner = none) (own : H c r.2) :
    Guarded H { w.moved i c r with owner := some i } := by
  intro j d ph' hj hd hph'
  obtain ⟨-, rfl, rfl⟩ | ⟨-, hj⟩ := moved_cases (w := w) hj
  · exact own
  · exact absurd ⟨d, ph', hj, hd, hph'⟩ (none_inside hw hfree)

theorem guarded_started (h : Guarded G w) :
    Guarded G { w with task := Function.update w.task i (some ⟨c, .waiting⟩) } :=
  fun j d ph' hj hd hph' => h j d ph' (started_cases hj hph') hd hph'

end

def confirmed : List Event :=
  [.turn "t1" 1, .start 0 ⟨.recordPlaybookDecision, "", "SELECT", "card_unfreeze"⟩, .enter 0 false,
    .answer 0 ⟨"", true, none⟩, .after 0,
    .start 1 ⟨.prepareActionProposal, "", "", "card_unfreeze"⟩, .enter 1 false,
    .answer 1 ⟨"", true, some ⟨true, "p1", "UNFREEZE_CARD", "1.0", "", ""⟩⟩, .after 1,
    .present "a1" 2, .turn "t2" 3, .start 2 ⟨.commitActionProposal, "p1", "", ""⟩, .enter 2 false,
    .checked 2 true false]

theorem confirmed_run : calls.Run .initial confirmed := by
  refine ⟨trivial, rfl, ⟨_, rfl, fun _ => rfl⟩, ⟨_, rfl, nofun, nofun⟩, ⟨_, _, Or.inr rfl⟩, rfl,
    ⟨_, rfl, fun _ => rfl⟩, ⟨_, rfl, nofun, ?_⟩, ⟨_, _, Or.inr rfl⟩, trivial, trivial, rfl,
    ⟨_, rfl, fun _ => rfl⟩, ⟨_, Or.inr ⟨_, rfl⟩⟩, trivial⟩
  rintro - _ ⟨⟩ -
  decide

end ToolGate
