import BankingService.ProposalLifecycle

/-! The audit trail of proposals: every stage that a proposal reaches is recorded once, as an
event and as an archived snapshot of the row, in the transaction that moves the row. -/
namespace BankingService

open Python Relational Checked

structure TransitionSnapshot (π ρ : Type) where
  stage : Stage
  proposal : ActionProposal π ρ
  deriving DecidableEq

def TransitionSnapshot.state {π ρ : Type} (s : TransitionSnapshot π ρ) : ProposalStatus :=
  s.proposal.status

inductive RequestOperation where
  | prepare
  | decide
  | commit
  deriving DecidableEq

inductive ProposalAuditPayload (π ρ : Type) where
  | snapshot (artifactId auditEventId digest : String) (document : TransitionSnapshot π ρ)
  | transition (proposalId : Uuid) (actionType contractVersion payloadFingerprint : String)
      (state : ProposalStatus) (reasonCode : Option String) (artifactId artifactDigest : String)
  | rejection (operation : RequestOperation) (customerId : Option Uuid) (reasonCode : String)
      (attemptedProposal : Option Uuid)
  deriving DecidableEq

structure ProposalEvent (π ρ : Type) where
  eventId : String
  eventType : String
  schemaVersion : ℕ
  payload : ProposalAuditPayload π ρ
  createdAt : Timestamp
  deriving DecidableEq

instance {π ρ : Type} : Row (ProposalEvent π ρ) String := Row.ofKey ProposalEvent.eventId

/-- What the service reads and writes. `bank` is everything that the action handlers work on. -/
structure ProposalDb (β π ρ : Type) where
  bank : β
  users : Table User
  proposals : Table (ActionProposal π ρ)
  outbox : Table (ProposalEvent π ρ)

/-- SHA-256, the text of `uuid5` in the URL namespace, and the canonical JSON texts. Archiving
raises where a fact of the row does not fit the snapshot's schema. -/
structure ProposalDigests (π ρ : Type) where
  sha256 : String → String
  uuid5 : String → String
  payloadJson : π → String
  snapshotJson : TransitionSnapshot π ρ → Except PyException String

variable {β π ρ : Type}

def ProposalDigests.eventIdFor (h : ProposalDigests π ρ) (proposalId : Uuid) (stage : Stage) :
    String :=
  h.uuid5 ("proposal-audit.v2:" ++ proposalId.str ++ ":" ++ stage.value)

def ProposalDigests.artifactIdFor (h : ProposalDigests π ρ) (eventId : String) : String :=
  h.uuid5 ("proposal-evidence.v1:" ++ eventId)

def raised {ε α : Type} (f : ε → ServiceError) (x : Except ε α) : Except ServiceError α :=
  x.mapError f

@[simp] theorem raised_eq_ok {ε α : Type} {f : ε → ServiceError} {x : Except ε α} {a : α} :
    raised f x = .ok a ↔ x = .ok a := by
  cases x <;> simp [raised, Except.mapError]

def snapshotEventType : String := "PROPOSAL_EVIDENCE_SNAPSHOT"

/-- The two rows that record a stage: the archived snapshot, and the event that refers to it. -/
def transitionEvents (h : ProposalDigests π ρ) (p : ActionProposal π ρ) (stage : Stage)
    (json : String) (now : Timestamp) : List (ProposalEvent π ρ) :=
  let eventId := h.eventIdFor p.id stage
  let artifactId := h.artifactIdFor eventId
  let digest := h.sha256 json
  [⟨artifactId, snapshotEventType, 1, .snapshot artifactId eventId digest ⟨stage, p⟩, now⟩,
    ⟨eventId, "ACTION_PROPOSAL_" ++ stage.value, 2, .transition p.id p.actionType
      p.contractVersion p.payloadFingerprint p.status p.invalidationReason artifactId digest, now⟩]

/-- A stage that has left an event or a snapshot is not recorded again. -/
def AlreadyRecorded (h : ProposalDigests π ρ) (outbox : Table (ProposalEvent π ρ))
    (proposalId : Uuid) (stage : Stage) : Prop :=
  ∃ e ∈ outbox.rows, e.eventId = h.eventIdFor proposalId stage ∨
    e.eventId = h.artifactIdFor (h.eventIdFor proposalId stage)

instance (h : ProposalDigests π ρ) (outbox : Table (ProposalEvent π ρ)) (proposalId : Uuid)
    (stage : Stage) : Decidable (AlreadyRecorded h outbox proposalId stage) :=
  inferInstanceAs (Decidable (∃ e ∈ outbox.rows, _))

def recordTransition (h : ProposalDigests π ρ) (db : ProposalDb β π ρ) (p : ActionProposal π ρ)
    (stage : Stage) (now : Timestamp) : Except ServiceError (ProposalDb β π ρ) :=
  if AlreadyRecorded h db.outbox p.id stage then .ok db
  else do
    let json ← raised .python (h.snapshotJson ⟨stage, p⟩)
    let outbox ← raised .python (insertAll db.outbox (transitionEvents h p stage json now))
    return { db with outbox := outbox }

/-- The columns of a locked row written back. -/
def saveProposal (db : ProposalDb β π ρ) (p : ActionProposal π ρ) :
    Except ServiceError (ProposalDb β π ρ) := do
  let proposals ← orRaise (db.proposals.update? p.id fun _ => p) (.python .integrityError)
  return { db with proposals := proposals }

/-- `isinstance(exc, ValueError)`: the base class of the protocol's own errors as well. -/
def ServiceError.IsValueError : ServiceError → Prop
  | .proposal _ | .runtimeContext _ | .python (.valueError _) | .python .validationError => True
  | .python _ => False

instance (e : ServiceError) : Decidable e.IsValueError := by
  unfold ServiceError.IsValueError
  split <;> infer_instance

/-- The rejection of a failed request, under a generated id. -/
def recordRejection (db : ProposalDb β π ρ) (eventId : Uuid) (now : Timestamp)
    (operation : RequestOperation) (customerId : Option Uuid) (e : ServiceError)
    (attemptedProposal : Option Uuid) : Except ServiceError (ProposalDb β π ρ) := do
  let eventType := if e.IsValueError then "ACTION_PROPOSAL_REQUEST_REJECTED"
    else "ACTION_PROPOSAL_REQUEST_FAILED"
  let reasonCode := match e with
    | .proposal e => e.code
    | e => if e.IsValueError then "INVALID_REQUEST" else "INTERNAL_FAILURE"
  let outbox ← raised .python (insert db.outbox ⟨eventId.str, eventType, 2,
    .rejection operation customerId reasonCode attemptedProposal, now⟩)
  return { db with outbox := outbox }

theorem Stage.value_injective : Function.Injective Stage.value := by
  intro a b h
  revert h
  cases a <;> cases b <;> decide

theorem transitionName_injective {i j : Uuid} {s t : Stage}
    (h : "proposal-audit.v2:" ++ i.str ++ ":" ++ s.value =
      "proposal-audit.v2:" ++ j.str ++ ":" ++ t.value) : i = j ∧ s = t := by
  have hl := congrArg String.toList h
  simp only [String.toList_append, List.append_assoc] at hl
  obtain ⟨hi, hrest⟩ := List.append_inj (List.append_cancel_left hl)
    (i.length_str.trans j.length_str.symm)
  refine ⟨Uuid.str_injective (String.toList_inj.mp hi), Stage.value_injective ?_⟩
  exact String.toList_inj.mp (List.append_cancel_left hrest)

theorem evidenceName_ne (i : Uuid) (s : Stage) (e : String) :
    "proposal-audit.v2:" ++ i.str ++ ":" ++ s.value ≠ "proposal-evidence.v1:" ++ e := by
  intro h
  have hl := congrArg String.toList h
  simp only [String.toList_append, List.append_assoc] at hl
  have htake := congrArg (List.take 18) hl
  rw [List.take_append_of_le_length (by decide), List.take_append_of_le_length (by decide)] at htake
  exact absurd htake (by decide)

/-- The ids that `uuid5` gives to different names differ. -/
def DistinctNames (h : ProposalDigests π ρ) : Prop := Function.Injective h.uuid5

section
variable {h : ProposalDigests π ρ}

theorem eventIdFor_inj (hn : DistinctNames h) {i j : Uuid} {s t : Stage}
    (he : h.eventIdFor i s = h.eventIdFor j t) : i = j ∧ s = t :=
  transitionName_injective (hn he)

theorem artifactIdFor_inj (hn : DistinctNames h) {i j : Uuid} {s t : Stage}
    (he : h.artifactIdFor (h.eventIdFor i s) = h.artifactIdFor (h.eventIdFor j t)) :
    i = j ∧ s = t := by
  have hnames := congrArg String.toList (hn he)
  simp only [String.toList_append] at hnames
  exact eventIdFor_inj hn (String.toList_inj.mp (List.append_cancel_left hnames))

theorem eventIdFor_ne_artifactIdFor (hn : DistinctNames h) (i : Uuid) (s : Stage) (e : String) :
    h.eventIdFor i s ≠ h.artifactIdFor e :=
  fun he => evidenceName_ne i s e (hn he)

end

end BankingService
