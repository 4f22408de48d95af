import BankingService.ProposalService
import BankingService.ProposalCalls
import Mathlib.Data.List.Nodup

/-! Calls that create proposals, in sessions side by side: what each of them answers, and what it
leaves of the proposals that are there. -/
namespace BankingService.ProposalCreations

open Python Relational Checked Runs ReadCommitted

variable {β π ρ : Type}

def SameTerms (existing q : ActionProposal π ρ) : Prop :=
  existing.payloadFingerprint = q.payloadFingerprint ∧ existing.definitionId = q.definitionId ∧
    existing.definitionRevision = q.definitionRevision ∧
    existing.definitionDigest = q.definitionDigest ∧ existing.accountId = q.accountId ∧
    existing.contractVersion = q.contractVersion ∧
    existing.scope.runtimeName = q.scope.runtimeName ∧
    existing.scope.runtimeSessionId = q.scope.runtimeSessionId ∧
    existing.originatingCustomerTurnId = q.originatingCustomerTurnId ∧
    existing.resetGeneration = q.resetGeneration ∧
    existing.confirmationPolicy = q.confirmationPolicy ∧
    existing.customerSafeSummary = q.customerSafeSummary ∧
    existing.catalogSnapshotId = q.catalogSnapshotId

instance : DecidableRel (SameTerms (π := π) (ρ := ρ)) := fun _ _ =>
  inferInstanceAs (Decidable (_ ∧ _))

def Keyed (v : CreateValues π) (p : ActionProposal π ρ) : Prop :=
  p.scope.customerId = v.scope.customerId ∧ p.scope.supportSessionId = v.scope.supportSessionId ∧
    p.actionType = v.actionType ∧ p.idempotencyKey = v.idempotencyKey

instance (v : CreateValues π) : DecidablePred (Keyed (ρ := ρ) v) := fun _ =>
  inferInstanceAs (Decidable (_ ∧ _))

/-- An active proposal of the session whose time is up. One that is being committed stays. -/
def Due (scope : ProposalScope) (now : Timestamp) (p : ActionProposal π ρ) : Prop :=
  ActiveInSession scope p ∧ p.status ≠ .committing ∧ p.expiresAt ≤ now

/-- An active proposal of the session that blocks a new one. -/
def Live (scope : ProposalScope) (now : Timestamp) (p : ActionProposal π ρ) : Prop :=
  ActiveInSession scope p ∧ ¬ (p.status ≠ .committing ∧ p.expiresAt ≤ now)

/-- The due proposals of the session have expired; every other row is as it was. -/
structure Closed (scope : ProposalScope) (now : Timestamp) (db db' : ProposalDb β π ρ) : Prop where
  rows : ∀ r, r ∈ db'.proposals.rows ↔ (r ∈ db.proposals.rows ∧ ¬ Due scope now r) ∨
    ∃ p ∈ db.proposals.rows, Due scope now p ∧ r = p.expiredAt now
  bank : db'.bank = db.bank
  users : db'.users = db.users

def asked (e : Engine β π ρ) (s : ActionSpecification β π ρ) (v : CreateValues π) :
    ActionProposal π ρ :=
  e.proposalOf s v (v.expiresAt.getD (e.clock.creating + DEFAULT_PROPOSAL_TTL_SECONDS * 1000000))

/-- Why a call that nothing blocks adds no row. -/
inductive Refusal (e : Engine β π ρ) (q : ActionProposal π ρ) (db : ProposalDb β π ρ) :
    ServiceError → Prop where
  | lapsed (past : q.expiresAt ≤ e.clock.creating) :
      Refusal e q db (rejected "Proposal expiration must be in the future.")
  | taken {p} (stored : p ∈ db.proposals.rows) (clash : p.id = q.id ∨
      (p.bankDecisionRef = q.bankDecisionRef ∧ q.bankDecisionRef ≠ none)) :
      Refusal e q db (.python .integrityError)
  | unrecorded {error} (at_ : ProposalDb β π ρ) (raised : e.record at_ q .proposed = .error error) :
      Refusal e q db error
  | unexpired {error p} (at_ : ProposalDb β π ρ) (stored : p ∈ db.proposals.rows)
      (due : Due q.scope e.clock.creating p)
      (raised : e.record at_ (p.expiredAt e.clock.creating) .expired = .error error) :
      Refusal e q db error

/-- What a call answers and leaves. The cases exclude each other by what the call meets. -/
inductive Outcome (e : Engine β π ρ) (v : CreateValues π) (db : ProposalDb β π ρ) :
    ProposalDb β π ρ → Except ServiceError (ActionProposal π ρ) → Prop where
  | invalid {error} (unchecked : e.checkValues v = .error error) : Outcome e v db db (.error error)
  | replayed {s existing answer} (checked : e.checkValues v = .ok s)
      (stored : existing ∈ db.proposals.rows) (keyed : Keyed v existing)
      (same : SameTerms existing (asked e s v)) (named : answer.id = existing.id) :
      Outcome e v db db (.ok answer)
  | conflicting {s existing} (checked : e.checkValues v = .ok s)
      (stored : existing ∈ db.proposals.rows) (keyed : Keyed v existing)
      (other : ¬ SameTerms existing (asked e s v)) :
      Outcome e v db db (.error (.proposal (.conflict
        "Idempotency key is already bound to a different proposal.")))
  | blocked {s p} (checked : e.checkValues v = .ok s)
      (unused : ∀ q ∈ db.proposals.rows, ¬ Keyed v q) (stored : p ∈ db.proposals.rows)
      (live : Live v.scope e.clock.creating p) :
      Outcome e v db db (.error (.proposal (.activeExists
        ("Active proposal " ++ p.id.str ++ " blocks replacement in this session.") p.id)))
  | created {s closed db'} (checked : e.checkValues v = .ok s)
      (unused : ∀ q ∈ db.proposals.rows, ¬ Keyed v q)
      (free : ∀ q ∈ db.proposals.rows, ¬ Live v.scope e.clock.creating q)
      (expired : Closed v.scope e.clock.creating db closed)
      (added : ∀ r, r ∈ db'.proposals.rows ↔ r ∈ closed.proposals.rows ∨ r = asked e s v)
      (bank : db'.bank = db.bank) (users : db'.users = db.users) :
      Outcome e v db db' (.ok (asked e s v))
  | refused {s error} (checked : e.checkValues v = .ok s)
      (unused : ∀ q ∈ db.proposals.rows, ¬ Keyed v q)
      (free : ∀ q ∈ db.proposals.rows, ¬ Live v.scope e.clock.creating q)
      (reason : Refusal e (asked e s v) db error) : Outcome e v db db (.error error)

/-- What the lookup under the lock comes to: a due proposal is closed or stays as it was with the
error, a live one is returned, and there is no third. -/
inductive Met (e : Engine β π ρ) (scope : ProposalScope) (db : ProposalDb β π ρ) :
    Except ServiceError (ProposalDb β π ρ × Option (ActionProposal π ρ)) → Prop where
  | nobody {mid} (free : ∀ p ∈ db.proposals.rows, ¬ Live scope e.clock.creating p)
      (closed : Closed scope e.clock.creating db mid) : Met e scope db (.ok (mid, none))
  | somebody {p} (stored : p ∈ db.proposals.rows) (live : Live scope e.clock.creating p) :
      Met e scope db (.ok (db, some p))
  | unexpired {p error} (at_ : ProposalDb β π ρ) (stored : p ∈ db.proposals.rows)
      (due : Due scope e.clock.creating p)
      (raised : e.record at_ (p.expiredAt e.clock.creating) .expired = .error error)
      (free : ∀ p ∈ db.proposals.rows, ¬ Live scope e.clock.creating p) :
      Met e scope db (.error error)

/-- A call commits what it wrote with its proposal, and is rolled back with its error. -/
def answerOf (db : ProposalDb β π ρ)
    (x : Except ServiceError (ProposalDb β π ρ × ActionProposal π ρ)) :
    ProposalDb β π ρ × Except ServiceError (ActionProposal π ρ) :=
  match x with
  | .ok (db', p) => (db', .ok p)
  | .error error => (db, .error error)

section
variable {e : Engine β π ρ} {s : ActionSpecification β π ρ} {v : CreateValues π}
  {db db' mid : ProposalDb β π ρ} {p q : ActionProposal π ρ} {scope : ProposalScope}
  {now : Timestamp}

theorem validateIdempotentReplay_eq (existing q : ActionProposal π ρ) :
    (validateIdempotentReplay existing q = .ok existing ∧ SameTerms existing q) ∨
      (validateIdempotentReplay existing q = .error (.proposal (.conflict
        "Idempotency key is already bound to a different proposal.")) ∧
        ¬ SameTerms existing q) := by
  unfold validateIdempotentReplay require SameTerms
  split_ifs with h
  · exact Or.inl ⟨rfl, h⟩
  · exact Or.inr ⟨rfl, h⟩

theorem findIdempotentProposal_eq_some (h : findIdempotentProposal db v.scope v.actionType
    v.idempotencyKey = some p) : p ∈ db.proposals.rows ∧ Keyed v p :=
  Table.first?_mem h

theorem findIdempotentProposal_eq_none : findIdempotentProposal db v.scope v.actionType
    v.idempotencyKey = none ↔ ∀ q ∈ db.proposals.rows, ¬ Keyed v q :=
  Table.first?_eq_none

theorem mem_active : p ∈ db.proposals.select (ActiveInSession scope) ↔
    p ∈ db.proposals.rows ∧ ActiveInSession scope p := Table.mem_select

/-- The partial unique index: a session has one active proposal at most. -/
theorem eq_of_active (hp : p ∈ db.proposals.rows) (hq : q ∈ db.proposals.rows)
    (hpa : ActiveInSession scope p) (hqa : ActiveInSession scope q) : p = q :=
  Table.eq_of_clash hp hq (Or.inr (Or.inr ⟨⟨hpa.1.trans hqa.1.symm, hpa.2.1.trans hqa.2.1.symm⟩,
    Or.inr ⟨hpa.2.2, hqa.2.2⟩⟩))

theorem select_active_cases (db : ProposalDb β π ρ) (scope : ProposalScope) :
    db.proposals.select (ActiveInSession scope) = [] ∨
      ∃ p, db.proposals.select (ActiveInSession scope) = [p] := by
  have hdistinct : (db.proposals.select (ActiveInSession scope)).Pairwise fun a b => a ≠ b := by
    refine (db.proposals.distinct.sublist List.filter_sublist).imp ?_
    rintro a b hab rfl
    exact hab (Row.clash_of_key rfl)
  have hmem := fun p => @mem_active β π ρ db p scope
  cases hl : db.proposals.select (ActiveInSession scope) with
  | nil => exact Or.inl rfl
  | cons a l =>
    cases l with
    | nil => exact Or.inr ⟨a, rfl⟩
    | cons b l =>
      rw [hl] at hdistinct hmem
      obtain ⟨ha, haa⟩ := (hmem a).mp List.mem_cons_self
      obtain ⟨hb, hba⟩ := (hmem b).mp (.tail _ List.mem_cons_self)
      exact absurd (eq_of_active ha hb haa hba)
        ((List.pairwise_cons.mp hdistinct).1 b List.mem_cons_self)

theorem closed_of_free (none : ∀ p ∈ db.proposals.rows, ¬ Due scope now p) :
    Closed scope now db db := by
  refine ⟨fun r => ?_, rfl, rfl⟩
  constructor
  · exact fun hr => Or.inl ⟨hr, none r hr⟩
  · rintro (⟨hr, -⟩ | ⟨p, hp, hdue, -⟩)
    · exact hr
    · exact absurd hdue (none p hp)

theorem expire_cases (hp : p ∈ db.proposals.rows) (hdue : Due scope e.clock.creating p) :
    (∃ mid, e.recordDisposition db (p.expiredAt e.clock.creating) = .ok mid ∧
      Closed scope e.clock.creating db mid) ∨
    ∃ error at_, e.recordDisposition db (p.expiredAt e.clock.creating) = .error error ∧
      e.record at_ (p.expiredAt e.clock.creating) .expired = .error error := by
  have current : db.proposals.get? p.id = some p := Table.get?_of_mem hp
  have free : ∀ b, Row.Clash (p.expiredAt e.clock.creating) b → Row.Clash p b := by
    rintro b (hid | hd | ⟨hs, hk | ⟨ha, -⟩⟩)
    · exact Or.inl hid
    · exact Or.inr (Or.inl hd)
    · exact Or.inr (Or.inr ⟨hs, Or.inl hk⟩)
    · cases ha
  obtain ⟨t, ht⟩ := Table.update?_of_free current free
  have hsaved : saveProposal db (p.expiredAt e.clock.creating) =
      .ok { db with proposals := t } :=
    saveProposal_eq_ok.mpr ⟨t, ht, rfl⟩
  have hrecord : e.recordDisposition db (p.expiredAt e.clock.creating) =
      e.record { db with proposals := t } (p.expiredAt e.clock.creating) .expired := by
    unfold Engine.recordDisposition Engine.advance
    rw [hsaved, ok_bind]
    rfl
  rcases ok_or_error (e.recordDisposition db (p.expiredAt e.clock.creating)) with
    ⟨mid, hmid⟩ | ⟨error, herror⟩
  · refine Or.inl ⟨mid, hmid, ?_⟩
    obtain ⟨-, -, -, hbank, husers, -⟩ := advance_eq_ok hmid
    refine ⟨fun r => ?_, hbank, husers⟩
    rw [mem_replaced (fun id => get?_advance hmid current rfl id) rfl]
    constructor
    · rintro (rfl | ⟨hr, hid⟩)
      · exact Or.inr ⟨p, hp, hdue, rfl⟩
      · exact Or.inl ⟨hr, fun h => hid (congrArg ActionProposal.id (eq_of_active hr hp h.1 hdue.1))⟩
    · rintro (⟨hr, hnot⟩ | ⟨r', hr', hdue', rfl⟩)
      · exact Or.inr ⟨hr, fun hid => hnot (Table.eq_of_key hr hp hid ▸ hdue)⟩
      · rw [eq_of_active hr' hp hdue'.1 hdue.1]
        exact Or.inl rfl
  · exact Or.inr ⟨error, _, herror, hrecord ▸ herror⟩

theorem expireOverdue_met : Met e scope db
    (e.expireOverdue db (olderFirst (db.proposals.select (ActiveInSession scope)))) := by
  have hmem := fun p => @mem_active β π ρ db p scope
  rcases select_active_cases db scope with hnone | ⟨p, hone⟩
  · rw [hnone] at hmem ⊢
    have hfree : ∀ p ∈ db.proposals.rows, ¬ ActiveInSession scope p :=
      fun p hp ha => absurd ((hmem p).mpr ⟨hp, ha⟩) List.not_mem_nil
    rw [olderFirst, List.mergeSort_nil]
    exact .nobody (fun p hp h => hfree p hp h.1) (closed_of_free fun p hp h => hfree p hp h.1)
  · rw [hone] at hmem ⊢
    obtain ⟨hp, hactive⟩ := (hmem p).mp List.mem_cons_self
    rw [olderFirst, List.mergeSort_singleton, Engine.expireOverdue]
    by_cases hdue : p.status ≠ .committing ∧ p.expiresAt ≤ e.clock.creating
    · rw [if_pos hdue]
      have hfree : ∀ q ∈ db.proposals.rows, ¬ Live scope e.clock.creating q := by
        intro q hq hlive
        rw [eq_of_active hq hp hlive.1 hactive] at hlive
        exact hlive.2 hdue
      rcases expire_cases hp ⟨hactive, hdue⟩ with ⟨mid, hmid, hclosed⟩ |
        ⟨error, at_, herror, hraised⟩
      · rw [hmid, ok_bind]
        exact .nobody hfree hclosed
      · rw [herror]
        exact .unexpired at_ hp ⟨hactive, hdue⟩ hraised hfree
    · rw [if_neg hdue]
      exact .somebody hp ⟨hactive, hdue⟩

theorem insertProposal_eq_error {error : ServiceError} (h : e.insertProposal db q = .error error) :
    (error = .python .integrityError ∧ ∃ x ∈ db.proposals.rows, Row.Clash x q) ∨
      ∃ at_, e.record at_ q .proposed = .error error := by
  unfold Engine.insertProposal at h
  cases hins : db.proposals.insert? q with
  | some t =>
    have hok : raised .python (insert db.proposals q) = .ok t :=
      raised_eq_ok.mpr (insert_eq_ok.mpr hins)
    rw [hok, ok_bind] at h
    exact Or.inr ⟨_, h⟩
  | none =>
    have herror : raised ServiceError.python (insert db.proposals q) =
        .error (.python .integrityError) := by
      rw [insert, hins]
      rfl
    rw [herror] at h
    cases h
    exact Or.inl ⟨rfl, Table.insert?_eq_none.mp hins⟩

theorem not_active_of_closed (closed : Closed scope now db mid)
    (free : ∀ p ∈ db.proposals.rows, ¬ Live scope now p) :
    ∀ p ∈ mid.proposals.rows, ¬ ActiveInSession scope p := by
  intro p hp hactive
  rcases (closed.rows p).mp hp with ⟨hp, hnot⟩ | ⟨r, -, -, rfl⟩
  · by_cases hdue : p.status ≠ .committing ∧ p.expiresAt ≤ now
    · exact hnot ⟨hactive, hdue⟩
    · exact free p hp ⟨hactive, hdue⟩
  · exact absurd hactive.2.2 (by simp [ProposalStatus.isActive])

theorem not_keyed_of_closed (closed : Closed scope now db mid)
    (unused : ∀ p ∈ db.proposals.rows, ¬ Keyed v p) :
    ∀ p ∈ mid.proposals.rows, ¬ Keyed v p := by
  intro p hp hkeyed
  rcases (closed.rows p).mp hp with ⟨hp, -⟩ | ⟨r, hr, -, rfl⟩
  · exact unused p hp hkeyed
  · exact unused r hr hkeyed

/-- A row that the new one clashes with, other than under its key or as active, has its id or its
bank decision, and had them before. -/
theorem taken_of_clash (closed : Closed v.scope now db mid)
    (unused : ∀ p ∈ mid.proposals.rows, ¬ Keyed v p)
    (free : ∀ p ∈ mid.proposals.rows, ¬ ActiveInSession v.scope p) {x : ActionProposal π ρ}
    (hx : x ∈ mid.proposals.rows) (clash : Row.Clash x (asked e s v)) :
    ∃ p ∈ db.proposals.rows, p.id = (asked e s v).id ∨
      (p.bankDecisionRef = (asked e s v).bankDecisionRef ∧
        (asked e s v).bankDecisionRef ≠ none) := by
  have hsame : x.id = (asked e s v).id ∨ (x.bankDecisionRef = (asked e s v).bankDecisionRef ∧
      (asked e s v).bankDecisionRef ≠ none) := by
    rcases clash with hid | ⟨href, hne⟩ | ⟨⟨hc, hs⟩, ⟨htype, hkey⟩ | ⟨ha, -⟩⟩
    · exact Or.inl hid
    · exact Or.inr ⟨href, href ▸ hne⟩
    · exact absurd ⟨hc, hs, htype, hkey⟩ (unused x hx)
    · exact absurd ⟨hc, hs, ha⟩ (free x hx)
  rcases (closed.rows x).mp hx with ⟨hx, -⟩ | ⟨r, hr, -, rfl⟩
  · exact ⟨x, hx, hsame⟩
  · exact ⟨r, hr, hsame⟩

theorem createUnderLock_free
    (hmet : e.expireOverdue db (olderFirst (db.proposals.select (ActiveInSession v.scope))) =
      .ok (mid, none)) :
    e.createUnderLock db s v none (db.proposals.select (ActiveInSession v.scope)) = (do
      require (e.clock.creating < (asked e s v).expiresAt)
        (rejected "Proposal expiration must be in the future.")
      match e.insertProposal mid (asked e s v) with
      | .ok db => return (db, asked e s v)
      | .error (.python .integrityError) =>
        match findIdempotentProposal mid v.scope v.actionType v.idempotencyKey with
        | some existing => do
          let existing ← validateIdempotentReplay existing (asked e s v)
          return (mid, existing)
        | none =>
          match (olderFirst (mid.proposals.select (ActiveInSession v.scope))).head? with
          | some p => .error (.proposal (.activeExists
              ("Concurrent active proposal " ++ p.id.str ++ " won this session scope.") p.id))
          | none => .error (.python .integrityError)
      | .error error => .error error) := by
  unfold Engine.createUnderLock
  dsimp only
  rw [hmet, ok_bind]
  rfl

/-- The insertion is the only way on, and what it fails for is not another proposal of the session:
the recovery finds none. -/
theorem createUnderLock_of_free (checked : e.checkValues v = .ok s)
    (unused : ∀ p ∈ db.proposals.rows, ¬ Keyed v p)
    (free : ∀ p ∈ db.proposals.rows, ¬ Live v.scope e.clock.creating p)
    (closed : Closed v.scope e.clock.creating db mid)
    (hmet : e.expireOverdue db (olderFirst (db.proposals.select (ActiveInSession v.scope))) =
      .ok (mid, none)) {answer : ProposalDb β π ρ × Except ServiceError (ActionProposal π ρ)}
    (ha : answer = answerOf db (e.createUnderLock db s v none
      (db.proposals.select (ActiveInSession v.scope)))) :
    Outcome e v db answer.1 answer.2 := by
  have hunused := not_keyed_of_closed closed unused
  have hfree := not_active_of_closed closed free
  rw [createUnderLock_free hmet] at ha
  by_cases htime : e.clock.creating < (asked e s v).expiresAt
  swap
  · rw [require, if_neg htime] at ha
    subst ha
    exact .refused checked unused free (.lapsed (not_lt.mp htime))
  rw [require_of htime, ok_bind] at ha
  cases hins : e.insertProposal mid (asked e s v) with
  | ok db' =>
    have hcreated : answer = (db', .ok (asked e s v)) := by
      rw [ha, hins]
      rfl
    rw [hcreated]
    obtain ⟨t, ht, hproposals, hbank, husers, -⟩ := insertProposal_eq_ok hins
    refine .created checked unused free closed (fun r => ?_) (hbank.trans closed.bank)
      (husers.trans closed.users)
    rw [hproposals]
    exact Table.mem_insert ht
  | error error =>
    have hfailed : answer = (db, .error error) := by
      rw [ha, hins]
      have hnone := findIdempotentProposal_eq_none.mpr hunused
      have hselect : mid.proposals.select (ActiveInSession v.scope) = [] :=
        Table.select_eq_nil.mpr hfree
      split
      · next h => cases h
      · next h =>
        cases h
        rw [hnone]
        dsimp only
        rw [hselect, olderFirst, List.mergeSort_nil]
        rfl
      · next h =>
        cases h
        rfl
    rw [hfailed]
    rcases insertProposal_eq_error hins with ⟨rfl, x, hx, hclash⟩ | ⟨at_, hraised⟩
    · obtain ⟨r, hr, hsame⟩ := taken_of_clash closed hunused hfree hx hclash
      exact .refused checked unused free (.taken hr hsame)
    · exact .refused checked unused free (.unrecorded at_ hraised)

/-- A call under the lock, of which nobody has used the key. -/
theorem createUnderLock_outcome (checked : e.checkValues v = .ok s)
    (unused : ∀ p ∈ db.proposals.rows, ¬ Keyed v p)
    {answer : ProposalDb β π ρ × Except ServiceError (ActionProposal π ρ)}
    (ha : answer = answerOf db (e.createUnderLock db s v none
      (db.proposals.select (ActiveInSession v.scope)))) :
    Outcome e v db answer.1 answer.2 := by
  have hmet := @expireOverdue_met β π ρ e db v.scope
  generalize hx : e.expireOverdue db (olderFirst (db.proposals.select (ActiveInSession v.scope))) =
    x at hmet
  cases hmet with
  | nobody free closed => exact createUnderLock_of_free checked unused free closed hx ha
  | @somebody p stored live =>
    have hblocked : answer = (db, .error (.proposal (.activeExists
        ("Active proposal " ++ p.id.str ++ " blocks replacement in this session.") p.id))) := by
      rw [ha, Engine.createUnderLock]
      dsimp only
      rw [hx, ok_bind]
      rfl
    rw [hblocked]
    exact .blocked checked unused stored live
  | @unexpired p error at_ stored due raised free =>
    have hfailed : answer = (db, .error error) := by
      rw [ha, Engine.createUnderLock]
      dsimp only
      rw [hx]
      rfl
    rw [hfailed]
    exact .refused checked unused free (.unexpired at_ stored due raised)

theorem answerOf_found (existing : ActionProposal π ρ) :
    (answerOf db (e.createUnderLock db s v (some existing) []) = (db, .ok existing) ∧
      SameTerms existing (asked e s v)) ∨
    (answerOf db (e.createUnderLock db s v (some existing) []) =
        (db, .error (.proposal (.conflict
          "Idempotency key is already bound to a different proposal."))) ∧
      ¬ SameTerms existing (asked e s v)) := by
  have hreplay : e.createUnderLock db s v (some existing) [] =
      (validateIdempotentReplay existing (asked e s v)).bind fun existing => .ok (db, existing) :=
    rfl
  rw [hreplay]
  rcases validateIdempotentReplay_eq existing (asked e s v) with ⟨hok, hsame⟩ | ⟨herror, hother⟩
  · rw [hok]
    exact Or.inl ⟨rfl, hsame⟩
  · rw [herror]
    exact Or.inr ⟨rfl, hother⟩

theorem createUnderLock_found (checked : e.checkValues v = .ok s) {existing : ActionProposal π ρ}
    (hp : p ∈ db.proposals.rows) (keyed : Keyed v p) (hid : p.id = existing.id)
    (terms : ∀ q, SameTerms p q ↔ SameTerms existing q)
    {answer : ProposalDb β π ρ × Except ServiceError (ActionProposal π ρ)}
    (ha : answer = answerOf db (e.createUnderLock db s v (some existing) [])) :
    Outcome e v db answer.1 answer.2 := by
  rcases @answerOf_found β π ρ e s v db existing with
    ⟨hreplayed, hsame⟩ | ⟨hconflict, hother⟩
  · rw [ha, hreplayed]
    exact .replayed checked hp keyed ((terms _).mpr hsame) hid.symm
  · rw [ha, hconflict]
    exact .conflicting checked hp keyed fun h => hother ((terms _).mp h)

/-- What any call leaves of the rows: due ones of its session expire, and one is added at most. -/
structure Grown (v : CreateValues π) (now : Timestamp) (db db' : ProposalDb β π ρ) : Prop where
  kept : ∀ r ∈ db.proposals.rows, ¬ Due v.scope now r → r ∈ db'.proposals.rows
  expired : ∀ r ∈ db.proposals.rows, Due v.scope now r → r.expiredAt now ∈ db'.proposals.rows
  known : ∀ r ∈ db'.proposals.rows, r ∈ db.proposals.rows ∨
    (∃ p ∈ db.proposals.rows, Due v.scope now p ∧ r = p.expiredAt now) ∨ r.scope = v.scope

theorem Closed.grown (closed : Closed v.scope now db mid)
    (all : ∀ r ∈ mid.proposals.rows, r ∈ db'.proposals.rows)
    (known : ∀ r ∈ db'.proposals.rows, r ∈ mid.proposals.rows ∨ r.scope = v.scope) :
    Grown v now db db' := by
  constructor
  · exact fun r hr hdue => all r ((closed.rows r).mpr (Or.inl ⟨hr, hdue⟩))
  · exact fun r hr hdue => all _ ((closed.rows _).mpr (Or.inr ⟨r, hr, hdue, rfl⟩))
  · intro r hr
    rcases known r hr with hr | hscope
    · rcases (closed.rows r).mp hr with ⟨hr, -⟩ | hexpired
      · exact Or.inl hr
      · exact Or.inr (Or.inl hexpired)
    · exact Or.inr (Or.inr hscope)

theorem createUnderLock_grown (h : e.createUnderLock db s v none
    (db.proposals.select (ActiveInSession v.scope)) = .ok (db', q)) :
    Grown v e.clock.creating db db' := by
  have hmet := @expireOverdue_met β π ρ e db v.scope
  generalize hx : e.expireOverdue db (olderFirst (db.proposals.select (ActiveInSession v.scope))) =
    x at hmet
  cases hmet with
  | @nobody mid free closed =>
    rw [createUnderLock_free hx] at h
    simp only [bind_eq_ok] at h
    obtain ⟨-, -, h⟩ := h
    split at h
    · next hins =>
      cases h
      obtain ⟨t, ht, hproposals, -⟩ := insertProposal_eq_ok hins
      have hmem : ∀ r, r ∈ db'.proposals.rows ↔ r ∈ mid.proposals.rows ∨ r = asked e s v := by
        intro r
        rw [hproposals]
        exact Table.mem_insert ht
      refine closed.grown (fun r hr => (hmem r).mpr (Or.inl hr)) fun r hr => ?_
      refine ((hmem r).mp hr).imp_right ?_
      rintro rfl
      rfl
    · split at h
      · simp only [bind_eq_ok, pure_eq_ok] at h
        obtain ⟨existing, -, hpair⟩ := h
        cases hpair
        exact closed.grown (fun r hr => hr) fun r hr => Or.inl hr
      · split at h <;> cases h
    · cases h
  | somebody stored live =>
    rw [Engine.createUnderLock] at h
    dsimp only at h
    rw [hx, ok_bind] at h
    cases h
  | unexpired at_ stored due raised free =>
    rw [Engine.createUnderLock] at h
    dsimp only at h
    rw [hx] at h
    cases h

theorem Grown.others (h : Grown v now db db') (hp : p.scope.customerId ≠ v.scope.customerId) :
    p ∈ db'.proposals.rows ↔ p ∈ db.proposals.rows := by
  constructor
  · intro hmem
    rcases h.known p hmem with hmem | ⟨r, -, hdue, rfl⟩ | hscope
    · exact hmem
    · exact absurd hdue.1.1 hp
    · exact absurd (congrArg ProposalScope.customerId hscope) hp
  · exact fun hmem => h.kept p hmem fun hdue => hp hdue.1.1

theorem Grown.stays (h : Grown v now db db') (hp : p ∈ db.proposals.rows) :
    ∃ r ∈ db'.proposals.rows, r.id = p.id ∧ (∀ w : CreateValues π, Keyed w p → Keyed w r) ∧
      ∀ q, SameTerms r q ↔ SameTerms p q := by
  by_cases hdue : Due v.scope now p
  · exact ⟨_, h.expired p hp hdue, rfl, fun _ hw => hw, fun _ => Iff.rfl⟩
  · exact ⟨p, h.kept p hp hdue, rfl, fun _ hw => hw, fun _ => Iff.rfl⟩

end

structure CreateCall (β π ρ : Type) where
  registry : ActionRegistry β π ρ
  clock : Clock
  values : CreateValues π

def CreateCall.engine (c : CreateCall β π ρ) (h : ProposalDigests π ρ) : Engine β π ρ :=
  ⟨h, c.registry, c.clock⟩

/-- How far a call is. `active` are the rows it has locked, `todo` the ids it is yet to lock. -/
inductive CreateStage (β π ρ : Type) where
  | looking
  | invalid (error : ServiceError)
  | found (s : ActionSpecification β π ρ) (existing : ActionProposal π ρ)
  | joining (s : ActionSpecification β π ρ)
  | searching (s : ActionSpecification β π ρ)
  | locking (s : ActionSpecification β π ρ) (todo : List Uuid) (active : List (ActionProposal π ρ))

namespace CreateCall

variable (c : CreateCall β π ρ)

def action : CreateStage β π ρ → Action ServiceLock
  | .looking | .searching _ => .read
  | .joining _ => .lock (.customer c.values.scope.customerId)
  | .locking _ (id :: _) _ => .lock (.proposal id)
  | .invalid _ | .found _ _ | .locking _ [] _ => .run []

def look (h : ProposalDigests π ρ) (db : ProposalDb β π ρ) : CreateStage β π ρ :=
  match (c.engine h).checkValues c.values with
  | .error error => .invalid error
  | .ok s =>
    match findIdempotentProposal db c.values.scope c.values.actionType c.values.idempotencyKey with
    | some existing => .found s existing
    | none => .joining s

def lockRow (db : ProposalDb β π ρ) (active : List (ActionProposal π ρ)) (id : Uuid) :
    List (ActionProposal π ρ) :=
  active ++ ((db.proposals.get? id).filter fun p => ActiveInSession c.values.scope p).toList

def observe (h : ProposalDigests π ρ) (db : ProposalDb β π ρ) :
    CreateStage β π ρ → CreateStage β π ρ
  | .looking => c.look h db
  | .joining s => .searching s
  | .searching s => .locking s
      ((olderFirst (db.proposals.select (ActiveInSession c.values.scope))).map fun p => p.id) []
  | .locking s (id :: todo) active => .locking s todo (c.lockRow db active id)
  | stage => stage

def body (h : ProposalDigests π ρ) (db : ProposalDb β π ρ) :
    CreateStage β π ρ → ReadCommitted.Outcome (ProposalDb β π ρ) (CreateStage β π ρ)
      (Except ServiceError (ActionProposal π ρ))
  | .invalid error => .finish db (.error error)
  | .found s existing =>
    let answer := answerOf db ((c.engine h).createUnderLock db s c.values (some existing) [])
    .finish answer.1 answer.2
  | .locking s _ active =>
    let answer := answerOf db ((c.engine h).createUnderLock db s c.values none active)
    .finish answer.1 answer.2
  | _ => .resume db .looking

end CreateCall

def creations (h : ProposalDigests π ρ) :
    Program (ProposalDb β π ρ) (CreateCall β π ρ) (fun _ => CreateStage β π ρ) ServiceLock
      (Except ServiceError (ActionProposal π ρ)) where
  enter _ := .looking
  action c stage := c.action stage
  observe db c stage := c.observe h db stage
  body db c stage := c.body h db stage

abbrev CreateSession (β π ρ : Type) :=
  Session (ρ := CreateCall β π ρ) (fun _ => CreateStage β π ρ)

/-- From the lookup under it to the end, a call holds the lock on its customer. -/
def createClaims (s : CreateSession β π ρ) (k : ServiceLock) : Prop :=
  match s.seen with
  | .searching _ | .locking _ _ _ => k = .customer s.request.values.scope.customerId
  | _ => False

/-- Of the session's active rows, those locked so far and those yet to lock. -/
structure Gathered (scope : ProposalScope) (db : ProposalDb β π ρ) (todo : List Uuid)
    (active : List (ActionProposal π ρ)) : Prop where
  nodup : (todo ++ active.map fun p => p.id).Nodup
  locked : ∀ p ∈ active, p ∈ db.proposals.rows ∧ ActiveInSession scope p
  all : ∀ p ∈ db.proposals.rows, ActiveInSession scope p → p ∈ active ∨ p.id ∈ todo

/-- What a call has read is still so, but for the columns of its earlier proposal that
may change. -/
def Seen (h : ProposalDigests π ρ) (db : ProposalDb β π ρ) (s : CreateSession β π ρ) : Prop :=
  let checked := (s.request.engine h).checkValues s.request.values
  match s.seen with
  | .looking => True
  | .invalid error => checked = .error error
  | .found specification existing => checked = .ok specification ∧
      ∃ p ∈ db.proposals.rows, Keyed s.request.values p ∧ p.id = existing.id ∧
        ∀ q, SameTerms p q ↔ SameTerms existing q
  | .joining specification | .searching specification => checked = .ok specification
  | .locking specification todo active => checked = .ok specification ∧
      Gathered s.request.values.scope db todo active

section
variable {h : ProposalDigests π ρ} {c : CreateCall β π ρ} {db db' : ProposalDb β π ρ}
  {scope : ProposalScope} {todo : List Uuid} {active : List (ActionProposal π ρ)} {id : Uuid}

theorem gathered_start (db : ProposalDb β π ρ) (scope : ProposalScope) : Gathered scope db
    ((olderFirst (db.proposals.select (ActiveInSession scope))).map fun p => p.id) [] := by
  have hperm : (olderFirst (db.proposals.select (ActiveInSession scope))).Perm
      (db.proposals.select (ActiveInSession scope)) := List.mergeSort_perm ..
  constructor
  · rw [List.map_nil, List.append_nil]
    exact List.pairwise_map.mpr (currentRows_olderFirst (currentRows_select db _)).2
  · intro p hp
    cases hp
  · intro p hp hactive
    exact Or.inr (List.mem_map_of_mem (hperm.mem_iff.mpr (mem_active.mpr ⟨hp, hactive⟩)))

theorem gathered_lock (g : Gathered c.values.scope db (id :: todo) active) :
    Gathered c.values.scope db todo (c.lockRow db active id) := by
  obtain ⟨hid, hnodup⟩ := List.nodup_cons.mp g.nodup
  cases hget : (db.proposals.get? id).filter fun p => ActiveInSession c.values.scope p with
  | none =>
    rw [CreateCall.lockRow, hget, Option.toList_none, List.append_nil]
    refine ⟨hnodup, g.locked, fun p hp hactive => ?_⟩
    refine (g.all p hp hactive).imp_right fun hmem => (List.mem_cons.mp hmem).resolve_left ?_
    rintro rfl
    have hrow : db.proposals.get? p.id = some p := Table.get?_of_mem hp
    rw [hrow, Option.filter_some, if_pos (decide_eq_true hactive)] at hget
    cases hget
  | some p =>
    obtain ⟨hrow, hactive⟩ := Option.filter_eq_some_iff.mp hget
    obtain ⟨hp, rfl⟩ := Table.get?_eq_some.mp hrow
    rw [CreateCall.lockRow, hget, Option.toList_some]
    constructor
    · rw [List.map_append, ← List.append_assoc]
      exact List.nodup_append_comm.mp (List.nodup_cons.mpr ⟨hid, hnodup⟩)
    · intro r hr
      rcases List.mem_append.mp hr with hr | hr
      · exact g.locked r hr
      · rw [List.mem_singleton.mp hr]
        exact ⟨hp, of_decide_eq_true hactive⟩
    · intro r hr hra
      rcases g.all r hr hra with hmem | hmem
      · exact Or.inl (List.mem_append_left _ hmem)
      · rcases List.mem_cons.mp hmem with heq | hmem
        · exact Or.inl
            (List.mem_append_right _ (List.mem_singleton.mpr (Table.eq_of_key hr hp heq)))
        · exact Or.inr hmem

theorem Gathered.complete (g : Gathered scope db [] active) :
    active = db.proposals.select (ActiveInSession scope) := by
  have hmem : ∀ p, p ∈ active ↔ p ∈ db.proposals.select (ActiveInSession scope) := by
    intro p
    rw [mem_active]
    exact ⟨g.locked p, fun ⟨hp, ha⟩ => (g.all p hp ha).resolve_right List.not_mem_nil⟩
  have hnodup : active.Nodup := List.Nodup.of_map _ g.nodup
  rcases select_active_cases db scope with hnone | ⟨p, hone⟩
  · rw [hnone] at hmem ⊢
    exact List.eq_nil_iff_forall_not_mem.mpr fun p hp => absurd ((hmem p).mp hp) List.not_mem_nil
  · rw [hone] at hmem ⊢
    exact List.perm_singleton.mp
      ((List.perm_ext_iff_of_nodup hnodup (List.nodup_singleton p)).mpr hmem)

theorem Gathered.others {v : CreateValues π} {now : Timestamp} (g : Gathered scope db todo active)
    (grown : Grown v now db db') (other : scope.customerId ≠ v.scope.customerId) :
    Gathered scope db' todo active := by
  refine ⟨g.nodup, fun p hp => ?_, fun p hp hactive => ?_⟩
  · obtain ⟨hstored, hactive⟩ := g.locked p hp
    exact ⟨(grown.others (hactive.1 ▸ other)).mpr hstored, hactive⟩
  · exact g.all p ((grown.others (hactive.1 ▸ other)).mp hp) hactive

theorem body_grown {t : CreateStage β π ρ} {rows : List ServiceLock}
    (run : (creations h).action c t = .run rows) (seen : Seen h db ⟨c, t⟩) :
    ((creations h).body db c t).db = db ∨
      (createClaims ⟨c, t⟩ (.customer c.values.scope.customerId) ∧
        Grown c.values c.clock.creating db ((creations h).body db c t).db) := by
  cases t with
  | looking => cases run
  | invalid error => exact Or.inl rfl
  | found s existing =>
    have hbody : ((creations h).body db c (.found s existing)).db =
        (answerOf db ((c.engine h).createUnderLock db s c.values (some existing) [])).1 := rfl
    rw [hbody]
    rcases @answerOf_found β π ρ (c.engine h) s c.values db existing with ⟨hanswer, -⟩ |
      ⟨hanswer, -⟩
    · exact Or.inl (congrArg Prod.fst hanswer)
    · exact Or.inl (congrArg Prod.fst hanswer)
  | joining s => cases run
  | searching s => cases run
  | locking s todo active =>
    cases todo with
    | cons id todo => cases run
    | nil =>
      obtain ⟨-, hgathered⟩ := seen
      have hselect : active = db.proposals.select (ActiveInSession c.values.scope) :=
        hgathered.complete
      subst hselect
      change (answerOf db _).1 = db ∨ (_ ∧ Grown _ _ db (answerOf db _).1)
      cases hx : (c.engine h).createUnderLock db s c.values none
          (db.proposals.select (ActiveInSession c.values.scope)) with
      | ok result => exact Or.inr ⟨rfl, createUnderLock_grown (e := c.engine h) hx⟩
      | error error => exact Or.inl rfl

theorem observe_looking : (creations h).observe db c .looking = c.look h db := by
  simp only [creations, CreateCall.observe]

theorem look_claims (k : ServiceLock) : ¬ createClaims ⟨c, c.look h db⟩ k := by
  unfold CreateCall.look
  split
  · exact id
  · split <;> exact id

theorem creations_claims (h : ProposalDigests π ρ) :
    Claims (creations (β := β) h) createClaims where
  enter _ _ hk := hk
  read db c t k ha hk := by
    cases t with
    | looking =>
      rw [observe_looking] at hk
      exact absurd hk (look_claims k)
    | searching s => exact hk
    | joining s => cases ha
    | invalid error => cases ha
    | found s existing => cases ha
    | locking s todo active => cases todo <;> cases ha
  lock db c t k k' ha hk := by
    cases t with
    | looking => cases ha
    | searching s => cases ha
    | joining s =>
      cases ha
      exact Or.inl hk
    | invalid error => cases ha
    | found s existing => cases ha
    | locking s todo active =>
      cases todo with
      | nil => cases ha
      | cons id todo => exact Or.inr hk
  resume db c t db' t' k rows ha hb := by
    cases t with
    | looking => cases ha
    | searching s => cases ha
    | joining s => cases ha
    | invalid error => cases hb
    | found s existing => cases hb
    | locking s todo active => cases hb

theorem look_seen (h : ProposalDigests π ρ) (db : ProposalDb β π ρ) (c : CreateCall β π ρ) :
    Seen h db ⟨c, c.look h db⟩ := by
  unfold CreateCall.look
  cases hchecked : (c.engine h).checkValues c.values with
  | error error => exact hchecked
  | ok s =>
    dsimp only
    cases hfind : findIdempotentProposal db c.values.scope c.values.actionType
        c.values.idempotencyKey with
    | none => exact hchecked
    | some existing =>
      obtain ⟨hstored, hkeyed⟩ := findIdempotentProposal_eq_some hfind
      exact ⟨hchecked, existing, hstored, hkeyed, rfl, fun _ => Iff.rfl⟩

theorem Seen.survives {s : CreateSession β π ρ} (seen : Seen h db s)
    (grown : Grown c.values c.clock.creating db db')
    (other : ¬ createClaims s (.customer c.values.scope.customerId)) : Seen h db' s := by
  obtain ⟨r, t⟩ := s
  cases t with
  | looking => trivial
  | invalid error => exact seen
  | joining s => exact seen
  | searching s => exact seen
  | found s existing =>
    obtain ⟨hchecked, p, hp, hkeyed, hid, hterms⟩ := seen
    obtain ⟨q, hq, hqid, hqkeyed, hqterms⟩ := grown.stays hp
    exact ⟨hchecked, q, hq, hqkeyed _ hkeyed, hqid.trans hid,
      fun x => (hqterms x).trans (hterms x)⟩
  | locking s todo active =>
    refine ⟨seen.1, seen.2.others grown fun heq => other ?_⟩
    exact congrArg ServiceLock.customer heq.symm

theorem creations_knowledge (h : ProposalDigests π ρ) :
    Knowledge (creations (β := β) h) (fun _ => True) createClaims (fun _ _ => True)
      (fun _ => True) (Seen h) where
  enter _ _ _ _ := trivial
  observe db c t hrun _ seen := by
    cases t with
    | looking =>
      rw [observe_looking]
      exact look_seen h db c
    | invalid error => exact seen
    | found s existing => exact seen
    | joining s => exact seen
    | searching s => exact ⟨seen, gathered_start db _⟩
    | locking s todo active =>
      cases todo with
      | nil => exact seen
      | cons id todo => exact ⟨seen.1, gathered_lock seen.2⟩
  keep _ _ _ _ _ _ _ _ := trivial
  resume db c t db' t' rows ha _ _ _ hb := by
    cases t with
    | looking => cases ha
    | searching s => cases ha
    | joining s => cases ha
    | invalid error => cases hb
    | found s existing => cases hb
    | locking s todo active => cases hb
  stable db s c t rows ha _ seen _ hs exclusive := by
    rcases body_grown ha seen with hsame | ⟨hclaims, hgrown⟩
    · rw [hsame]
      exact hs
    · exact hs.survives hgrown fun hother => exclusive _ ⟨hother, hclaims⟩

end

/-- Another call used the key after this one had looked for it. -/
def Overtaken (db : ProposalDb β π ρ) (s : CreateSession β π ρ) : Prop :=
  match s.seen with
  | .locking _ _ _ => ∃ p ∈ db.proposals.rows, Keyed s.request.values p
  | _ => False

/-- The call ends as if it had run on the current database with nobody else there. -/
def Served (h : ProposalDigests π ρ) (db : ProposalDb β π ρ) (s : CreateSession β π ρ) : Prop :=
  ¬ Overtaken db s → ∃ db' answer,
    (creations h).body db s.request s.seen = .finish db' answer ∧
    Outcome (s.request.engine h) s.request.values db db' answer

def OneActive (db : ProposalDb β π ρ) : Prop :=
  ∀ p ∈ db.proposals.rows, ∀ q ∈ db.proposals.rows, p.sameSession q → p.status.isActive →
    q.status.isActive → p = q

theorem oneActive (db : ProposalDb β π ρ) : OneActive db := by
  intro p hp q hq hsame hpa hqa
  exact Table.eq_of_clash hp hq (Or.inr (Or.inr ⟨hsame, Or.inr ⟨hpa, hqa⟩⟩))

theorem served_of_seen {h : ProposalDigests π ρ} {db : ProposalDb β π ρ} {c : CreateCall β π ρ}
    {t : CreateStage β π ρ} {rows : List ServiceLock}
    (run : (creations h).action c t = .run rows) (seen : Seen h db ⟨c, t⟩) :
    Served h db ⟨c, t⟩ := by
  intro hfirst
  cases t with
  | looking => cases run
  | invalid error => exact ⟨db, .error error, rfl, .invalid seen⟩
  | found s existing =>
    obtain ⟨hchecked, p, hp, hkeyed, hid, hterms⟩ := seen
    exact ⟨_, _, rfl, createUnderLock_found hchecked hp hkeyed hid hterms rfl⟩
  | joining s => cases run
  | searching s => cases run
  | locking s todo active =>
    cases todo with
    | cons id todo => cases run
    | nil =>
      obtain ⟨hchecked, hgathered⟩ := seen
      have hselect : active = db.proposals.select (ActiveInSession c.values.scope) :=
        hgathered.complete
      subst hselect
      have hunused : ∀ p ∈ db.proposals.rows, ¬ Keyed c.values p :=
        fun p hp hkeyed => hfirst ⟨p, hp, hkeyed⟩
      exact ⟨_, _, rfl, createUnderLock_outcome hchecked hunused rfl⟩

/-- Over every run of calls side by side: a session never has two active proposals, and every call
that is not overtaken answers and leaves what the current database calls for. -/
theorem creations_served {ι : Type} [DecidableEq ι] (h : ProposalDigests π ρ)
    (db : ProposalDb β π ρ) (es : List (Event ι (CreateCall β π ρ)))
    (run : (machine (creations h) fun _ => True).Run (World.quiet db) es) :
    (machine (creations h) fun _ => True).Throughout (fun w => OneActive w.db)
        (World.quiet db) es ∧
      (machine (creations h) fun _ => True).Each (RunsUnder (creations h) (Served h))
        (World.quiet db) es := by
  constructor
  · exact throughout_of_keep (P := fun w : World ι (ProposalDb β π ρ) (fun _ => CreateStage β π ρ)
      ServiceLock _ => OneActive w.db) (fun _ _ _ => oneActive _) (oneActive db)
  · refine each_of_each (I := Informed createClaims (fun _ => True) (Seen h)) ?_ ?_
      (informed_quiet trivial) run
    · intro w e hw he
      exact informed_next (creations_claims h) (creations_knowledge h) hw he
        fun _ _ _ _ => trivial
    · rintro w e hw he i s rfl ⟨hs, rows, ha⟩
      exact served_of_seen ha (hw.knows i s hs)

def reissueCreation (now : Timestamp) (id : ℕ) (summary : String) : CreateCall ℕ String Bool :=
  ⟨reissueRegistry, .at_ now, { reissueValues "key-1" id with
    customerSafeSummary := summary }⟩

def reworded : List (Event ℕ (CreateCall ℕ String Bool)) :=
  [.start 0 (reissueCreation 1 1 "Replace the card."), .step 0, .step 0, .step 0, .step 0,
    .start 1 (reissueCreation 200000000 2 "Replace the lost card."), .step 1, .step 1]

def doubled : List (Event ℕ (CreateCall ℕ String Bool)) :=
  [.start 0 (reissueCreation 1 1 "Replace the card."), .step 0,
    .start 1 (reissueCreation 2 2 "Replace the card."), .step 1, .step 1, .step 1, .step 1,
    .step 0, .step 0, .step 0, .step 0]

def reissueAnswers (es : List (Event ℕ (CreateCall ℕ String Bool))) :
    List (Except ServiceError Uuid) :=
  ((machine (creations reissueDigests) fun _ => True).final (World.quiet (reissueStore 0))
    es).answers.map fun a => a.2.map fun p => p.id

/-- A key that is bound to other terms creates nothing although nothing blocks it; and a call is
refused for its own twin, which its key was used for with the same terms. -/
theorem same_key_creates_nothing :
    ((machine (creations reissueDigests) fun _ => True).Run
      (World.quiet (reissueStore 0)) reworded ∧
      reissueAnswers reworded = [.ok (.ofNat 1), .error (.proposal (.conflict
        "Idempotency key is already bound to a different proposal."))] ∧
      ∀ p ∈ ((machine (creations reissueDigests) fun _ => True).final
        (World.quiet (reissueStore 0)) reworded).db.proposals.rows,
          p.status = .proposed ∧ p.expiresAt ≤ 200000000) ∧
    ((machine (creations reissueDigests) fun _ => True).Run (World.quiet (reissueStore 0)) doubled ∧
      reissueAnswers doubled = [.ok (.ofNat 2), .error (.proposal (.activeExists
        ("Active proposal " ++ (Uuid.ofNat 2).str ++ " blocks replacement in this session.")
        (.ofNat 2)))]) := by
  decide +kernel

theorem reworded_served :
    (machine (creations reissueDigests) fun _ => True).Throughout (fun w => OneActive w.db)
        (World.quiet (reissueStore 0)) reworded ∧
      (machine (creations reissueDigests) fun _ => True).Each
        (RunsUnder (creations reissueDigests) (Served reissueDigests))
        (World.quiet (reissueStore 0)) reworded :=
  creations_served reissueDigests (reissueStore 0) reworded (by decide +kernel)

end BankingService.ProposalCreations
