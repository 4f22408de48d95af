import BankingService.Library.Checked
import BankingService.Library.Runs
import Mathlib.Algebra.Ring.Nat
import Mathlib.Data.List.Pairwise
import Mathlib.Data.List.Sort
import Mathlib.Data.Prod.Lex
import Mathlib.Order.Nat

/-! The relay that publishes the audit outbox behind a cursor, the pruning of what is behind it, and
the writers that commit rows meanwhile. -/
namespace BankingService.OutboxRelay

open Checked Runs

/-- A committed row. Times and event ids are in the database's order; the least id stands for the
empty text. -/
structure OutboxRow (τ ι : Type) where
  createdAt : τ
  eventId : ι
  eventType : String
  schemaVersion : ℕ
  payload : String
  deriving DecidableEq

structure OutboxRelayCheckpoint (τ ι : Type) where
  lastCreatedAt : Option τ
  lastEventId : Option ι
  publishedCount : ℕ

/-- The outbox, the relay's checkpoint, and what the topic has received. -/
structure Outbox (τ ι : Type) where
  rows : List (OutboxRow τ ι)
  checkpoint : Option (OutboxRelayCheckpoint τ ι)
  topic : List (OutboxRow τ ι)

def PROPOSAL_EVIDENCE_SNAPSHOT : String := "PROPOSAL_EVIDENCE_SNAPSHOT"

inductive RelayException where
  | valueError (message : String)
  | publishFailed
  | databaseError
  deriving DecidableEq

inductive RelayStatus where
  | alreadyRunning
  | dryRun
  | ok
  deriving DecidableEq

structure RelayResult (τ ι : Type) where
  published : ℕ
  lastEventId : Option ι
  lastCreatedAt : Option τ
  status : RelayStatus

/-- How a run of the relay goes: whether it gets the lock, how many messages are acknowledged before
one fails, whether that one reaches the topic all the same, and whether the commit goes through. -/
structure RelayFate where
  locked : Bool
  acknowledged : ℕ
  reached : Bool
  commits : Bool

section

variable {τ ι : Type}

def newCheckpoint : OutboxRelayCheckpoint τ ι := ⟨none, none, 0⟩

def Outbox.currentCheckpoint (s : Outbox τ ι) : OutboxRelayCheckpoint τ ι :=
  s.checkpoint.getD newCheckpoint

/-- Where the checkpoint stands once a batch is published. -/
def OutboxRelayCheckpoint.advance (c : OutboxRelayCheckpoint τ ι) (batch : List (OutboxRow τ ι)) :
    OutboxRelayCheckpoint τ ι :=
  match batch.getLast? with
  | none => c
  | some last => ⟨some last.createdAt, some last.eventId, c.publishedCount + batch.length⟩

/-- Publishes a batch. The checkpoint is committed after the whole of it. -/
def publishBatch (s : Outbox τ ι) (batch : List (OutboxRow τ ι)) (fate : RelayFate) :
    Outbox τ ι × Except RelayException (RelayResult τ ι) :=
  if fate.acknowledged < batch.length then
    ({ s with topic := s.topic ++
        batch.take (if fate.reached then fate.acknowledged + 1 else fate.acknowledged) },
      .error .publishFailed)
  else
    let published := { s with topic := s.topic ++ batch }
    if fate.commits then
      let checkpoint := s.currentCheckpoint.advance batch
      ({ published with checkpoint := some checkpoint },
        .ok ⟨batch.length, checkpoint.lastEventId, checkpoint.lastCreatedAt, .ok⟩)
    else (published, .error .databaseError)

/-- `prune_historical_audit_events`, with the retention's own cutoff. -/
def pruneHistoricalAuditEvents [LinearOrder τ] (s : Outbox τ ι) (cutoff : τ) : Outbox τ ι :=
  match s.checkpoint.bind OutboxRelayCheckpoint.lastCreatedAt with
  | none => s
  | some checkpointTime =>
    { s with rows := s.rows.filter fun r =>
        ¬ (r.createdAt < min cutoff checkpointTime ∧ r.eventType ≠ PROPOSAL_EVIDENCE_SNAPSHOT) }

def committedRows [DecidableEq τ] [DecidableEq ι] (s s' : Outbox τ ι) : List (OutboxRow τ ι) :=
  s'.rows.filter fun r => r ∉ s.rows

def OutboxRow.cursor (r : OutboxRow τ ι) : τ ×ₗ ι := toLex (r.createdAt, r.eventId)

theorem cursor_id {a b : OutboxRow τ ι} (h : a.cursor = b.cursor) : a.eventId = b.eventId :=
  congrArg (fun k : τ ×ₗ ι => (ofLex k).2) h

def Distinct (s : Outbox τ ι) : Prop := s.rows.Pairwise fun a b => a.eventId ≠ b.eventId

theorem eq_of_id {s : Outbox τ ι} (h : Distinct s) {a b : OutboxRow τ ι} (ha : a ∈ s.rows)
    (hb : b ∈ s.rows) (hid : a.eventId = b.eventId) : a = b := by
  by_contra hne
  have : Std.Symm fun a b : OutboxRow τ ι => a.eventId ≠ b.eventId := ⟨fun _ _ h => h.symm⟩
  exact h.forall ha hb hne hid

theorem mem_committedRows [DecidableEq τ] [DecidableEq ι] {s s' : Outbox τ ι} {r : OutboxRow τ ι} :
    r ∈ committedRows s s' ↔ r ∈ s'.rows ∧ r ∉ s.rows := by
  unfold committedRows
  rw [List.mem_filter, decide_eq_true_eq]

theorem publishBatch_rows (s : Outbox τ ι) (batch : List (OutboxRow τ ι)) (fate : RelayFate) :
    (publishBatch s batch fate).1.rows = s.rows := by
  unfold publishBatch
  split
  · rfl
  · dsimp only
    split <;> rfl

theorem prune_rows [LinearOrder τ] (s : Outbox τ ι) (cutoff : τ) :
    ∀ r ∈ (pruneHistoricalAuditEvents s cutoff).rows, r ∈ s.rows := by
  unfold pruneHistoricalAuditEvents
  split
  · exact fun r hr => hr
  · exact fun r hr => List.mem_of_mem_filter hr

theorem nodup_of_strict [LinearOrder τ] [LinearOrder ι] {l : List (OutboxRow τ ι)}
    (h : l.Pairwise fun a b => a.cursor < b.cursor) : l.Nodup := by
  refine h.imp ?_
  rintro a b hlt rfl
  exact lt_irrefl _ hlt

theorem eq_of_strict [LinearOrder τ] [LinearOrder ι] {l l' : List (OutboxRow τ ι)}
    (h : l.Pairwise fun a b => a.cursor < b.cursor)
    (h' : l'.Pairwise fun a b => a.cursor < b.cursor) (hmem : ∀ r, r ∈ l ↔ r ∈ l') : l = l' := by
  have hperm := (List.perm_ext_iff_of_nodup (nodup_of_strict h) (nodup_of_strict h')).mpr hmem
  refine List.Perm.eq_of_pairwise ?_ h h' hperm
  intro a b _ _ hab hba
  exact absurd (hab.trans hba) (lt_irrefl _)

theorem le_last [LinearOrder τ] [LinearOrder ι] {l : List (OutboxRow τ ι)}
    (h : l.Pairwise fun a b => a.cursor < b.cursor)
    {last r : OutboxRow τ ι} (hlast : l.getLast? = some last) (hr : r ∈ l) :
    r.cursor ≤ last.cursor := by
  obtain ⟨init, rfl⟩ := List.getLast?_eq_some_iff.mp hlast
  rcases List.mem_append.mp hr with hr | hr
  · exact ((List.pairwise_append.mp h).2.2 r hr last List.mem_cons_self).le
  · rw [List.mem_singleton.mp hr]

def emptyOutbox : Outbox τ ι := ⟨[], none, []⟩

/-- What the relay's exactness rests on: the ids are distinct and what is stored was
committed. -/
structure Recorded (s : Outbox τ ι × List (OutboxRow τ ι)) : Prop where
  distinct : Distinct s.1
  stored : ∀ r ∈ s.1.rows, r ∈ s.2

theorem recorded_empty : Recorded ((emptyOutbox, []) : Outbox τ ι × List (OutboxRow τ ι)) :=
  ⟨List.Pairwise.nil, fun _ hr => hr⟩

end

section

variable {τ ι : Type} [LinearOrder τ] [LinearOrder ι] [OrderBot ι]

def OutboxRelayCheckpoint.before (c : OutboxRelayCheckpoint τ ι) (r : OutboxRow τ ι) : Prop :=
  match c.lastCreatedAt with
  | none => True
  | some t => t < r.createdAt ∨ (r.createdAt = t ∧ c.lastEventId.getD ⊥ < r.eventId)

instance (c : OutboxRelayCheckpoint τ ι) : DecidablePred c.before := fun r => by
  unfold OutboxRelayCheckpoint.before
  cases c.lastCreatedAt <;> infer_instance

def pendingRows (s : Outbox τ ι) : List (OutboxRow τ ι) :=
  (s.rows.filter fun r => s.currentCheckpoint.before r).insertionSort fun a b => a.cursor ≤ b.cursor

/-- `AuditOutboxRelay.run` -/
def relayRun (s : Outbox τ ι) (batchSize : ℤ) (dryRun : Bool) (fate : RelayFate) :
    Outbox τ ι × Except RelayException (RelayResult τ ι) :=
  if batchSize < 1 ∨ 1000 < batchSize then
    (s, .error (.valueError "batch_size must be between 1 and 1000"))
  else if fate.locked = false then (s, .ok ⟨0, none, none, .alreadyRunning⟩)
  else
    let batch := (pendingRows s).take batchSize.toNat
    if dryRun then
      let checkpoint := s.currentCheckpoint.advance batch
      (s, .ok ⟨batch.length, checkpoint.lastEventId, checkpoint.lastCreatedAt, .dryRun⟩)
    else publishBatch s batch fate

inductive OutboxEvent (τ ι : Type) where
  /-- A writer's transaction commits; its rows were dated when they were recorded. -/
  | commit (rows : List (OutboxRow τ ι))
  | relay (batchSize : ℤ) (dryRun : Bool) (fate : RelayFate)
  | prune (cutoff : τ)

def Outbox.next (s : Outbox τ ι) : OutboxEvent τ ι → Outbox τ ι
  | .commit rows => { s with rows := s.rows ++ rows }
  | .relay batchSize dryRun fate => (relayRun s batchSize dryRun fate).1
  | .prune cutoff => pruneHistoricalAuditEvents s cutoff

/-- No event id is used twice. -/
def Fresh (s : Outbox τ ι) (rows : List (OutboxRow τ ι)) : Prop :=
  (rows.map OutboxRow.eventId).Nodup ∧
    ∀ r ∈ rows, ∀ x ∈ s.rows ++ s.topic, x.eventId ≠ r.eventId

def outboxRuns : Machine (Outbox τ ι) (OutboxEvent τ ι) where
  Enabled s e := ∀ rows, e = .commit rows → Fresh s rows
  next := Outbox.next

/-- The runs, with all the rows that were ever committed. -/
def recordedRuns : Machine (Outbox τ ι × List (OutboxRow τ ι)) (OutboxEvent τ ι) :=
  outboxRuns.recording committedRows

/-- Nothing is lost: what is behind the checkpoint, and what is no longer there, has been
published. -/
def Complete (s : Outbox τ ι × List (OutboxRow τ ι)) : Prop :=
  ∀ r ∈ s.2, (¬ s.1.currentCheckpoint.before r ∨ r ∉ s.1.rows) → r ∈ s.1.topic

/-- A commit brings rows that are past the checkpoint. -/
def Timely (s : Outbox τ ι × List (OutboxRow τ ι)) (e : OutboxEvent τ ι) : Prop :=
  ∀ rows, e = .commit rows → ∀ r ∈ rows, s.1.currentCheckpoint.before r

instance (s : Outbox τ ι) (rows : List (OutboxRow τ ι)) : Decidable (Fresh s rows) :=
  inferInstanceAs (Decidable (_ ∧ _))

instance outboxRuns_enabled (s : Outbox τ ι) : ∀ e, Decidable (outboxRuns.Enabled s e)
  | .commit rows =>
    decidable_of_iff (Fresh s rows) ⟨fun h _ he => by cases he; exact h, fun h => h _ rfl⟩
  | .relay _ _ _ => isTrue (by rintro _ ⟨⟩)
  | .prune _ => isTrue (by rintro _ ⟨⟩)

instance (s : Outbox τ ι × List (OutboxRow τ ι)) (e : OutboxEvent τ ι) :
    Decidable (recordedRuns.Enabled s e) := outboxRuns_enabled s.1 e

instance (s : Outbox τ ι × List (OutboxRow τ ι)) : ∀ e, Decidable (Timely s e)
  | .commit rows => decidable_of_iff (∀ r ∈ rows, s.1.currentCheckpoint.before r)
      ⟨fun h _ he => by cases he; exact h, fun h => h _ rfl⟩
  | .relay _ _ _ => isTrue (by rintro _ ⟨⟩)
  | .prune _ => isTrue (by rintro _ ⟨⟩)

theorem before_iff {c : OutboxRelayCheckpoint τ ι} {r : OutboxRow τ ι} {t : τ}
    (h : c.lastCreatedAt = some t) :
    c.before r ↔ toLex (t, c.lastEventId.getD ⊥) < r.cursor := by
  unfold OutboxRelayCheckpoint.before OutboxRow.cursor
  rw [h, Prod.Lex.toLex_lt_toLex]
  constructor
  · rintro (hlt | ⟨heq, hid⟩)
    · exact Or.inl hlt
    · exact Or.inr ⟨heq.symm, hid⟩
  · rintro (hlt | ⟨heq, hid⟩)
    · exact Or.inl hlt
    · exact Or.inr ⟨heq.symm, hid⟩

/-- After a batch, what is not past the checkpoint is not past the last row of the batch. -/
theorem before_advance {c : OutboxRelayCheckpoint τ ι} {batch : List (OutboxRow τ ι)}
    {last r : OutboxRow τ ι} (h : batch.getLast? = some last) :
    (c.advance batch).before r ↔ last.cursor < r.cursor := by
  have hadvance : c.advance batch =
      ⟨some last.createdAt, some last.eventId, c.publishedCount + batch.length⟩ := by
    unfold OutboxRelayCheckpoint.advance
    rw [h]
  rw [hadvance, before_iff rfl]
  rfl

theorem mem_pendingRows {s : Outbox τ ι} {r : OutboxRow τ ι} :
    r ∈ pendingRows s ↔ r ∈ s.rows ∧ s.currentCheckpoint.before r := by
  unfold pendingRows
  rw [List.mem_insertionSort, List.mem_filter, decide_eq_true_eq]

theorem pendingRows_sorted (s : Outbox τ ι) :
    (pendingRows s).Pairwise fun a b => a.cursor ≤ b.cursor := by
  have : Std.Total fun a b : OutboxRow τ ι => a.cursor ≤ b.cursor := ⟨fun a b => le_total _ _⟩
  have : IsTrans (OutboxRow τ ι) fun a b => a.cursor ≤ b.cursor := ⟨fun _ _ _ => le_trans⟩
  exact List.pairwise_insertionSort _ _

theorem mem_batch {s : Outbox τ ι} (distinct : Distinct s) {n : ℕ} {last r : OutboxRow τ ι}
    (hlast : ((pendingRows s).take n).getLast? = some last) (hr : r ∈ pendingRows s)
    (hle : r.cursor ≤ last.cursor) : r ∈ (pendingRows s).take n := by
  have hmem : last ∈ (pendingRows s).take n := List.mem_of_getLast? hlast
  rw [← List.take_append_drop n (pendingRows s), List.mem_append] at hr
  rcases hr with hr | hr
  · exact hr
  · have hsorted := pendingRows_sorted s
    rw [← List.take_append_drop n (pendingRows s), List.pairwise_append] at hsorted
    have hge := hsorted.2.2 last hmem r hr
    have hid := cursor_id (le_antisymm hle hge)
    have hlastrow := (mem_pendingRows.mp (List.mem_of_mem_take hmem)).1
    have hrow := (mem_pendingRows.mp (List.mem_of_mem_drop hr)).1
    rw [eq_of_id distinct hrow hlastrow hid]
    exact hmem

theorem relayRun_rows (s : Outbox τ ι) (batchSize : ℤ) (dryRun : Bool) (fate : RelayFate) :
    (relayRun s batchSize dryRun fate).1.rows = s.rows := by
  unfold relayRun
  split
  · rfl
  · split
    · rfl
    · dsimp only
      split
      · rfl
      · exact publishBatch_rows _ _ _

theorem recorded_next {s : Outbox τ ι × List (OutboxRow τ ι)} {e : OutboxEvent τ ι}
    (h : Recorded s) (enabled : recordedRuns.Enabled s e) : Recorded (recordedRuns.next s e) := by
  constructor
  · cases e with
    | commit rows =>
      obtain ⟨hnodup, hfresh⟩ := enabled rows rfl
      refine List.pairwise_append.mpr ⟨h.distinct, List.pairwise_map.mp hnodup, ?_⟩
      intro x hx r hr
      exact hfresh r hr x (List.mem_append_left _ hx)
    | relay batchSize dryRun fate =>
      show (relayRun s.1 batchSize dryRun fate).1.rows.Pairwise _
      rw [relayRun_rows]
      exact h.distinct
    | prune cutoff =>
      show (pruneHistoricalAuditEvents s.1 cutoff).rows.Pairwise _
      unfold pruneHistoricalAuditEvents
      split
      · exact h.distinct
      · exact h.distinct.filter _
  · intro r hr
    by_cases hold : r ∈ s.1.rows
    · exact List.mem_append_left _ (h.stored r hold)
    · exact List.mem_append_right _ (mem_committedRows.mpr ⟨hr, hold⟩)

theorem complete_next {s : Outbox τ ι × List (OutboxRow τ ι)} {e : OutboxEvent τ ι}
    (complete : Complete s) (kept : ∀ r ∈ (s.1.next e).rows, r ∈ s.1.rows)
    (published : ∀ r ∈ s.1.topic, r ∈ (s.1.next e).topic)
    (passed : ∀ r ∈ s.1.rows, s.1.currentCheckpoint.before r →
      ¬ (s.1.next e).currentCheckpoint.before r ∨ r ∉ (s.1.next e).rows → r ∈ (s.1.next e).topic) :
    Complete (recordedRuns.next s e) := by
  intro r hr hbehind
  have hold : r ∈ s.2 := by
    rcases List.mem_append.mp hr with hr | hr
    · exact hr
    · obtain ⟨hnew, habsent⟩ := mem_committedRows.mp hr
      exact absurd (kept r hnew) habsent
  by_cases hrow : r ∈ s.1.rows
  · by_cases hbefore : s.1.currentCheckpoint.before r
    · exact passed r hrow hbefore hbehind
    · exact published r (complete r hold (Or.inl hbefore))
  · exact published r (complete r hold (Or.inr hrow))

theorem publishBatch_complete {s : Outbox τ ι} {n : ℕ} {fate : RelayFate} (distinct : Distinct s) :
    (∀ r ∈ s.topic, r ∈ (publishBatch s ((pendingRows s).take n) fate).1.topic) ∧
    ∀ r ∈ s.rows, s.currentCheckpoint.before r →
      ¬ (publishBatch s ((pendingRows s).take n) fate).1.currentCheckpoint.before r →
      r ∈ (publishBatch s ((pendingRows s).take n) fate).1.topic := by
  unfold publishBatch
  split
  · exact ⟨fun r hr => List.mem_append_left _ hr, fun r _ hbefore hpassed => absurd hbefore hpassed⟩
  · dsimp only
    split
    · refine ⟨fun r hr => List.mem_append_left _ hr, ?_⟩
      intro r hrow hbefore hpassed
      have hpending : r ∈ pendingRows s := mem_pendingRows.mpr ⟨hrow, hbefore⟩
      cases hlast : ((pendingRows s).take n).getLast? with
      | none =>
        have hsame :
          s.currentCheckpoint.advance ((pendingRows s).take n) = s.currentCheckpoint := by
          unfold OutboxRelayCheckpoint.advance
          rw [hlast]
        have hcurrent : (s.currentCheckpoint.advance ((pendingRows s).take n)).before r := by
          rw [hsame]
          exact hbefore
        exact absurd hcurrent hpassed
      | some last =>
        have hle : r.cursor ≤ last.cursor := by
          rw [← not_lt, ← before_advance (c := s.currentCheckpoint) hlast]
          exact hpassed
        exact List.mem_append_right _ (mem_batch distinct hlast hpending hle)
    · exact ⟨fun r hr => List.mem_append_left _ hr, fun r _ hbefore hpassed =>
        absurd hbefore hpassed⟩

theorem relay_complete {s : Outbox τ ι × List (OutboxRow τ ι)} {batchSize : ℤ} {dryRun : Bool}
    {fate : RelayFate} (recorded : Recorded s) (complete : Complete s) :
    Complete (recordedRuns.next s (.relay batchSize dryRun fate)) := by
  have hkept : ∀ r ∈ (relayRun s.1 batchSize dryRun fate).1.rows, r ∈ s.1.rows := by
    rw [relayRun_rows]
    exact fun r hr => hr
  have hrun : (∀ r ∈ s.1.topic, r ∈ (relayRun s.1 batchSize dryRun fate).1.topic) ∧
      ∀ r ∈ s.1.rows, s.1.currentCheckpoint.before r →
        ¬ (relayRun s.1 batchSize dryRun fate).1.currentCheckpoint.before r →
        r ∈ (relayRun s.1 batchSize dryRun fate).1.topic := by
    unfold relayRun
    split
    · exact ⟨fun r hr => hr, fun r _ hbefore hpassed => absurd hbefore hpassed⟩
    · split
      · exact ⟨fun r hr => hr, fun r _ hbefore hpassed => absurd hbefore hpassed⟩
      · dsimp only
        split
        · exact ⟨fun r hr => hr, fun r _ hbefore hpassed => absurd hbefore hpassed⟩
        · exact publishBatch_complete recorded.distinct
  refine complete_next (e := .relay batchSize dryRun fate) complete hkept hrun.1 ?_
  intro r hrow hbefore hbehind
  rcases hbehind with hpassed | habsent
  · exact hrun.2 r hrow hbefore hpassed
  · apply absurd _ habsent
    show r ∈ (relayRun s.1 batchSize dryRun fate).1.rows
    rw [relayRun_rows]
    exact hrow

theorem prune_complete {s : Outbox τ ι × List (OutboxRow τ ι)} {cutoff : τ}
    (complete : Complete s) :
    Complete (recordedRuns.next s (.prune cutoff)) := by
  have hcheckpoint : (pruneHistoricalAuditEvents s.1 cutoff).currentCheckpoint =
      s.1.currentCheckpoint := by
    unfold pruneHistoricalAuditEvents
    split <;> rfl
  have htopic : (pruneHistoricalAuditEvents s.1 cutoff).topic = s.1.topic := by
    unfold pruneHistoricalAuditEvents
    split <;> rfl
  refine complete_next (e := .prune cutoff) complete (prune_rows s.1 cutoff) ?_ ?_
  · intro r hr
    show r ∈ (pruneHistoricalAuditEvents s.1 cutoff).topic
    rw [htopic]
    exact hr
  · intro r hrow hbefore hbehind
    exfalso
    rcases hbehind with hpassed | habsent
    · apply hpassed
      show (pruneHistoricalAuditEvents s.1 cutoff).currentCheckpoint.before r
      rw [hcheckpoint]
      exact hbefore
    · apply habsent
      show r ∈ (pruneHistoricalAuditEvents s.1 cutoff).rows
      unfold pruneHistoricalAuditEvents
      split
      · exact hrow
      · next t ht =>
        -- what is deleted is dated before the checkpoint
        obtain ⟨c, hc, hct⟩ := Option.bind_eq_some_iff.mp ht
        have hcurrent : s.1.currentCheckpoint = c := by
          unfold Outbox.currentCheckpoint
          rw [hc, Option.getD_some]
        rw [hcurrent, before_iff hct] at hbefore
        have hle : t ≤ r.createdAt := by
          rcases (Prod.Lex.toLex_lt_toLex.mp hbefore) with hlt | ⟨heq, -⟩
          · exact hlt.le
          · exact heq.le
        rw [List.mem_filter, decide_eq_true_eq]
        refine ⟨hrow, ?_⟩
        rintro ⟨hdeleted, -⟩
        exact absurd (hdeleted.trans_le (min_le_right _ _)) (not_lt.mpr hle)

theorem commit_complete_iff {s : Outbox τ ι × List (OutboxRow τ ι)} {rows : List (OutboxRow τ ι)}
    (complete : Complete s) (fresh : Fresh s.1 rows) :
    Complete (recordedRuns.next s (.commit rows)) ↔
      ∀ r ∈ rows, s.1.currentCheckpoint.before r := by
  have habsent : ∀ r ∈ rows, r ∉ s.1.rows ∧ r ∉ s.1.topic := by
    intro r hr
    refine ⟨fun h => ?_, fun h => ?_⟩
    · exact fresh.2 r hr r (List.mem_append_left _ h) rfl
    · exact fresh.2 r hr r (List.mem_append_right _ h) rfl
  constructor
  · intro h r hr
    by_contra hbehind
    have hnew : r ∈ committedRows s.1 (s.1.next (.commit rows)) :=
      mem_committedRows.mpr ⟨List.mem_append_right _ hr, (habsent r hr).1⟩
    exact (habsent r hr).2 (h r (List.mem_append_right _ hnew) (Or.inl hbehind))
  · intro timely r hr hbehind
    rcases List.mem_append.mp hr with hr | hr
    · rcases hbehind with hpassed | hgone
      · exact complete r hr (Or.inl hpassed)
      · exact complete r hr (Or.inr fun h => hgone (List.mem_append_left _ h))
    · obtain ⟨hrow, hold⟩ := mem_committedRows.mp hr
      have hnew : r ∈ rows := (List.mem_append.mp hrow).resolve_left hold
      rcases hbehind with hpassed | hgone
      · exact absurd (timely r hnew) hpassed
      · exact absurd hrow hgone

theorem complete_step_iff {s : Outbox τ ι × List (OutboxRow τ ι)} {e : OutboxEvent τ ι}
    (recorded : Recorded s) (complete : Complete s) (enabled : recordedRuns.Enabled s e) :
    Complete (recordedRuns.next s e) ↔ Timely s e := by
  cases e with
  | commit rows =>
    rw [commit_complete_iff complete (enabled rows rfl)]
    constructor
    · rintro h rows' ⟨⟩
      exact h
    · intro h
      exact h rows rfl
  | relay batchSize dryRun fate =>
    refine iff_of_true (relay_complete recorded complete) ?_
    rintro rows ⟨⟩
  | prune cutoff =>
    refine iff_of_true (prune_complete complete) ?_
    rintro rows ⟨⟩

theorem pendingRows_strict {s : Outbox τ ι} (distinct : Distinct s) :
    (pendingRows s).Pairwise fun a b => a.cursor < b.cursor := by
  have hids : (pendingRows s).Pairwise fun a b => a.eventId ≠ b.eventId := by
    refine List.Perm.pairwise (List.perm_insertionSort _ _).symm (distinct.filter _) ?_
    intro a b h
    exact h.symm
  refine (pendingRows_sorted s).imp₂ ?_ hids
  intro a b hle hne
  exact lt_of_le_of_ne hle fun h => hne (cursor_id h)

def relayed (n : ℕ) : OutboxEvent τ ι := .relay n false ⟨true, n, false, true⟩

theorem next_relayed {s : Outbox τ ι} {n : ℕ} (h : 1 ≤ n ∧ n ≤ 1000) :
    s.next (relayed n) = { s with
      checkpoint := some (s.currentCheckpoint.advance ((pendingRows s).take n))
      topic := s.topic ++ (pendingRows s).take n } := by
  have hsize : ¬ ((n : ℤ) < 1 ∨ 1000 < (n : ℤ)) := by omega
  have hacknowledged : ¬ n < ((pendingRows s).take n).length := by
    rw [List.length_take]
    omega
  show (relayRun s n false ⟨true, n, false, true⟩).1 = _
  unfold relayRun
  rw [if_neg hsize]
  simp only [Int.toNat_natCast, Bool.true_eq_false, Bool.false_eq_true, if_false]
  unfold publishBatch
  rw [if_neg hacknowledged]
  rfl

theorem before_mono {c : OutboxRelayCheckpoint τ ι} {a b : OutboxRow τ ι} (h : c.before a)
    (hlt : a.cursor < b.cursor) : c.before b := by
  cases hc : c.lastCreatedAt with
  | none =>
    unfold OutboxRelayCheckpoint.before
    rw [hc]
    trivial
  | some t =>
    rw [before_iff hc] at h ⊢
    exact h.trans hlt

theorem next_relayed_rows {s : Outbox τ ι} {n : ℕ} : (s.next (relayed n)).rows = s.rows :=
  relayRun_rows s n false _

theorem pendingRows_relayed {s : Outbox τ ι} (distinct : Distinct s) {n : ℕ}
    (h : 1 ≤ n ∧ n ≤ 1000) : pendingRows (s.next (relayed n)) = (pendingRows s).drop n := by
  have hstrict := pendingRows_strict distinct
  have hnext : Distinct (s.next (relayed n)) := by
    unfold Distinct
    rw [next_relayed_rows]
    exact distinct
  apply eq_of_strict (pendingRows_strict hnext) (hstrict.sublist (List.drop_sublist _ _))
  intro r
  rw [mem_pendingRows, next_relayed h]
  show r ∈ s.rows ∧ (s.currentCheckpoint.advance ((pendingRows s).take n)).before r ↔ _
  cases hlast : ((pendingRows s).take n).getLast? with
  | none =>
    have hempty : pendingRows s = [] := by
      rcases List.take_eq_nil_iff.mp (List.getLast?_eq_none_iff.mp hlast) with hzero | hempty
      · omega
      · exact hempty
    have hadvance : s.currentCheckpoint.advance ((pendingRows s).take n) = s.currentCheckpoint := by
      unfold OutboxRelayCheckpoint.advance
      rw [hlast]
    rw [hadvance, ← mem_pendingRows, hempty, List.drop_nil]
  | some last =>
    have hmem : last ∈ (pendingRows s).take n := List.mem_of_getLast? hlast
    have hsplit := hstrict
    rw [← List.take_append_drop n (pendingRows s), List.pairwise_append] at hsplit
    rw [before_advance hlast]
    constructor
    · rintro ⟨hrow, hlt⟩
      have hbefore := (mem_pendingRows.mp (List.mem_of_mem_take hmem)).2
      have hpending : r ∈ pendingRows s := mem_pendingRows.mpr ⟨hrow, before_mono hbefore hlt⟩
      rw [← List.take_append_drop n (pendingRows s), List.mem_append] at hpending
      rcases hpending with htaken | hleft
      · exact absurd hlt (not_lt.mpr (le_last hsplit.1 hlast htaken))
      · exact hleft
    · intro hr
      exact ⟨(mem_pendingRows.mp (List.mem_of_mem_drop hr)).1, hsplit.2.2 last hmem r hr⟩

/-- Runs that succeed publish the backlog in order, each row once. -/
theorem backlog_published {s : Outbox τ ι} (distinct : Distinct s) (ns : List ℕ)
    (sizes : ∀ n ∈ ns, 1 ≤ n ∧ n ≤ 1000) :
    (outboxRuns.final s (ns.map relayed)).topic = s.topic ++ (pendingRows s).take ns.sum := by
  induction ns generalizing s with
  | nil =>
    rw [List.sum_nil, List.take_zero, List.append_nil]
    rfl
  | cons n ns ih =>
    have hsize := sizes n List.mem_cons_self
    have hnext : Distinct (s.next (relayed n)) := by
      unfold Distinct
      rw [next_relayed_rows]
      exact distinct
    have hrest := ih hnext fun m hm => sizes m (List.mem_cons_of_mem _ hm)
    have htopic : (s.next (relayed n)).topic = s.topic ++ (pendingRows s).take n := by
      rw [next_relayed hsize]
    rw [pendingRows_relayed distinct hsize, htopic, List.append_assoc, ← List.take_add] at hrest
    rw [List.sum_cons]
    exact hrest

theorem recorded_run {s : Outbox τ ι × List (OutboxRow τ ι)} {es : List (OutboxEvent τ ι)}
    (recorded : Recorded s) (run : recordedRuns.Run s es) : Recorded (recordedRuns.final s es) :=
  final_of_each (fun _ _ h enabled => recorded_next h enabled) recorded run

theorem complete_empty : Complete ((emptyOutbox, []) : Outbox τ ι × List (OutboxRow τ ι)) := by
  intro r hr
  cases hr

end

/-- Whatever the relay's batches, failures and repeats and however the outbox is pruned, no
committed event is lost exactly as long as every transaction commits rows past the checkpoint. -/
theorem complete_iff_timely {τ ι : Type} [LinearOrder τ] [LinearOrder ι] [OrderBot ι]
    (es : List (OutboxEvent τ ι)) (run : recordedRuns.Run (emptyOutbox, []) es) :
    recordedRuns.Throughout Complete (emptyOutbox, []) es ↔
      recordedRuns.Each Timely (emptyOutbox, []) es := by
  refine throughout_iff_each (J := Recorded) ?_ ?_ run ?_ ?_
  · intro s e recorded _ enabled _
    exact recorded_next recorded enabled
  · intro s e recorded complete enabled
    exact complete_step_iff recorded complete enabled
  · exact recorded_empty
  · exact complete_empty

def noted (time id : ℕ) : OutboxRow ℕ ℕ := ⟨time, id, "CARD_REPLACED", 1, "{}"⟩

/-- A message that fails but arrives, the batch again, and a pruning. -/
def relayMorning : List (OutboxEvent ℕ ℕ) :=
  [.commit [noted 10 1, noted 12 2], .relay 100 false ⟨true, 1, true, true⟩,
    .relay 1 false ⟨true, 1, false, true⟩, .commit [noted 11 3],
      .relay 100 false ⟨true, 100, false, true⟩,
    .prune 11]

def lateCommit : OutboxEvent ℕ ℕ := .commit [noted 9 4]

theorem late_commit_is_lost :
    recordedRuns.Throughout Complete (emptyOutbox, []) relayMorning ∧
      ¬ recordedRuns.Throughout Complete (emptyOutbox, []) (relayMorning ++ [lateCommit]) := by
  have hrun : recordedRuns.Run (emptyOutbox, []) (relayMorning ++ [lateCommit]) := by decide
  constructor
  · exact (complete_iff_timely relayMorning (Machine.each_append.mp hrun).1).mpr (by decide)
  · rw [complete_iff_timely _ hrun]
    decide

/-- After any timely run, successful runs of the relay that take as many rows as are pending publish
these in order and once each, and with them everything that was ever committed is published. -/
theorem backlog_drained {τ ι : Type} [LinearOrder τ] [LinearOrder ι] [OrderBot ι]
    (es : List (OutboxEvent τ ι)) (run : recordedRuns.Run (emptyOutbox, []) es)
    (timely : recordedRuns.Each Timely (emptyOutbox, []) es) (ns : List ℕ)
    (sizes : ∀ n ∈ ns, 1 ≤ n ∧ n ≤ 1000)
    (enough : (pendingRows (recordedRuns.final (emptyOutbox, []) es).1).length ≤ ns.sum) :
    let s := recordedRuns.final (emptyOutbox, []) es
    let last := outboxRuns.final s.1 (ns.map relayed)
    last.topic = s.1.topic ++ pendingRows s.1 ∧ ∀ r ∈ s.2, r ∈ last.topic := by
  intro s last
  have hrecorded : Recorded s := recorded_run recorded_empty run
  have hcomplete : Complete s := by
    have hsteps : recordedRuns.Each (fun s e => recordedRuns.Enabled s e ∧ Timely s e)
        (emptyOutbox, []) es := run.and timely
    have hboth : Recorded s ∧ Complete s := by
      refine final_of_each (P := fun s => Recorded s ∧ Complete s) ?_
        ⟨recorded_empty, complete_empty⟩ hsteps
      rintro s e ⟨hrecorded, hcomplete⟩ ⟨enabled, timely⟩
      exact ⟨recorded_next hrecorded enabled,
        (complete_step_iff hrecorded hcomplete enabled).mpr timely⟩
    exact hboth.2
  have htopic : last.topic = s.1.topic ++ pendingRows s.1 := by
    rw [← List.take_of_length_le enough]
    exact backlog_published hrecorded.distinct ns sizes
  refine ⟨htopic, ?_⟩
  intro r hr
  rw [htopic, List.mem_append]
  by_cases hbehind : ¬ s.1.currentCheckpoint.before r ∨ r ∉ s.1.rows
  · exact Or.inl (hcomplete r hr hbehind)
  · rw [not_or, not_not, not_not] at hbehind
    exact Or.inr (mem_pendingRows.mpr ⟨hbehind.2, hbehind.1⟩)

theorem morning_backlog_drained :
    let s :=
      recordedRuns.final (emptyOutbox, []) (relayMorning ++ [.commit [noted 20 6, noted 20 5]])
    let last := outboxRuns.final s.1 ([1, 1].map relayed)
    last.topic = s.1.topic ++ [noted 20 5, noted 20 6] ∧ ∀ r ∈ s.2, r ∈ last.topic := by
  have hdrained := backlog_drained (relayMorning ++ [.commit [noted 20 6, noted 20 5]])
    (by decide) (by decide) [1, 1] (by decide) (by decide)
  refine ⟨hdrained.1.trans ?_, hdrained.2⟩
  decide

end BankingService.OutboxRelay
