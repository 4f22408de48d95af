import BankingService.Library.IsoTime
import BankingService.Library.Json
import BankingService.Library.Dict
import BankingService.Library.Checked
import BankingService.Library.ReadCommitted
import BankingService.Python

/-! Overrides of document exceptions by loan officers. A request reads the artifact, compares the
version in memory and writes four columns; nothing is locked in between. -/
namespace BankingService.Underwriting

open Python Relational Checked ReadCommitted IsoTime

inductive OverrideError where
  | valueError (message : String)
  | conflict (message : String)
  | jsonDecodeError
  | typeError
  deriving DecidableEq

inductive TextColumn where
  | empty
  | malformed
  | json (document : Json)

/-- `json.loads(column) if column else {}`. -/
def TextColumn.loads : TextColumn → Except OverrideError Json
  | empty => .ok (.obj [])
  | malformed => .error .jsonDecodeError
  | json document => .ok document

/-- `document[key] = value`; only a dictionary takes a text as a key. -/
def setItem (document : Json) (key : String) (value : Json) : Except OverrideError Json :=
  match document with
  | .obj fields => .ok (.obj (Dict.set fields key value))
  | _ => .error .typeError

theorem get_set {fields : List (String × Json)} {k k' : String} {v : Json} :
    Json.get k' (.obj (Dict.set fields k v)) =
      if k' = k then some v else Json.get k' (.obj fields) := by
  have hmapped : ∀ l : List (String × Json),
      ((l.map fun x => if x.1 = k then (k, v) else x).find? fun x => x.1 = k').map Prod.snd =
        if k' = k then (l.find? fun x => x.1 = k').map fun _ => v
        else (l.find? fun x => x.1 = k').map Prod.snd := by
    intro l
    induction l with
    | nil => simp
    | cons x l ih =>
      rw [List.map_cons, List.find?_cons, List.find?_cons]
      by_cases hx : x.1 = k
      · by_cases hk : k' = k
        · simp [hx, hk]
        · simpa [hx, hk, Ne.symm hk] using ih
      · by_cases hk' : x.1 = k'
        · have hne : k' ≠ k := fun h => hx (hk'.trans h)
          simp [hk', hne]
        · simpa [hx, hk'] using ih
  unfold Dict.set
  split
  · next hin =>
    simp only [Json.get, ← List.map_reverse]
    rw [hmapped fields.reverse]
    split
    · next hk =>
      obtain ⟨x, hx, hxk⟩ := hin
      have hsome : (fields.reverse.find? fun x => x.1 = k').isSome := by
        rw [List.find?_isSome]
        exact ⟨x, List.mem_reverse.mpr hx, by simp [hxk, hk]⟩
      obtain ⟨y, hy⟩ := Option.isSome_iff_exists.mp hsome
      rw [hy]
      rfl
    · rfl
  · simp only [Json.get, List.reverse_append, List.reverse_singleton, List.singleton_append,
      List.find?_cons]
    by_cases hk : k' = k
    · simp [hk]
    · simp [hk, Ne.symm hk]

theorem get_setItem {document document' value : Json} {k k' : String}
    (h : setItem document k value = .ok document') :
    document'.get k' = if k' = k then some value else document.get k' := by
  cases document with
  | obj fields =>
    cases h
    exact get_set
  | _ => cases h

inductive ProcessingStatus where
  | uploaded
  | pendingClassification
  | classifying
  | processed
  | mismatch
  | failed
  | pendingReview
  deriving DecidableEq

def ProcessingStatus.value : ProcessingStatus → String
  | uploaded => "UPLOADED"
  | pendingClassification => "PENDING_CLASSIFICATION"
  | classifying => "CLASSIFYING"
  | processed => "PROCESSED"
  | mismatch => "MISMATCH"
  | failed => "FAILED"
  | pendingReview => "PENDING_REVIEW"

inductive UnderwritingDecision where
  | approve
  | rejectFraud
  | rejectLegibility
  | rejectDataMismatch
  deriving DecidableEq

def UnderwritingDecision.value : UnderwritingDecision → String
  | approve => "APPROVE"
  | rejectFraud => "REJECT_FRAUD"
  | rejectLegibility => "REJECT_LEGIBILITY"
  | rejectDataMismatch => "REJECT_DATA_MISMATCH"

def UnderwritingDecision.targetStatus : UnderwritingDecision → ProcessingStatus
  | approve => .processed
  | rejectFraud | rejectLegibility => .failed
  | rejectDataMismatch => .mismatch

structure DocumentVerificationStatus where
  ssnVerified : Bool
  employerVerified : Bool
  calculatedGrossMonthlyIncome : Json

def DocumentVerificationStatus.modelDump (s : DocumentVerificationStatus) : Json :=
  .obj [("ssn_verified", .bool s.ssnVerified), ("employer_verified", .bool s.employerVerified),
    ("calculated_gross_monthly_income", s.calculatedGrossMonthlyIncome)]

/-- An override, with the clock reading and the random version that its call will take. A corrected
value is given as `str` makes it. -/
structure OverrideRequest where
  artifactId : String
  decision : UnderwritingDecision
  verifications : DocumentVerificationStatus
  correctedPayload : List (String × String)
  underwriterNotes : String
  underwriterId : String
  expectedVersionId : Option String
  now : AwareDateTime
  newVersionId : Uuid
  distinct : (correctedPayload.map Prod.fst).Nodup

structure ApplicationArtifact where
  artifactId : String
  claimedArtifactType : Option String
  actualArtifactType : Option String
  extractionPayload : TextColumn
  auditMetadata : TextColumn
  status : ProcessingStatus
  versionId : Option String

instance : Row ApplicationArtifact String := .ofKey ApplicationArtifact.artifactId

/-- `a or b` on a text that may be missing. -/
def orElse (a : Option String) (b : String) : String :=
  match a with
  | some s => if s = "" then b else s
  | none => b

def ApplicationArtifact.docTypeKey (a : ApplicationArtifact) : String :=
  upper (orElse a.actualArtifactType (orElse a.claimedArtifactType "W2"))

def fullConfidence : Json := .real ⟨['1', '.', '0'], by decide⟩

def correctedField (text : String) : Json :=
  .obj [("value", .str text), ("confidence", fullConfidence)]

def correct (docFields : Json) (corrections : List (String × String)) :
    Except OverrideError Json :=
  corrections.foldlM (fun d c => setItem d c.1 (correctedField c.2)) docFields

def updatedPayload (a : ApplicationArtifact) (r : OverrideRequest) :
    Except OverrideError Json := do
  match ← a.extractionPayload.loads with
  | .obj fields => do
    let docFields := (Json.get a.docTypeKey (.obj fields)).getD (.obj [])
    let docFields ← correct docFields r.correctedPayload
    return .obj [(a.docTypeKey, docFields)]
  | _ => .error .typeError

def underwritingTrace (r : OverrideRequest) : Json :=
  .obj [("underwriter_id", .str r.underwriterId), ("override_timestamp", .str r.now.isoformat),
    ("decision", .str r.decision.value), ("verifications", r.verifications.modelDump),
    ("underwriter_notes", .str r.underwriterNotes),
    ("corrected_fields", .arr (r.correctedPayload.map fun c => .str c.1))]

def overridesKey : String := "underwriting_overrides"

def listedOverrides (document : Json) : List Json :=
  match document.get overridesKey with
  | some (.arr items) => items
  | _ => []

def updatedAudit (a : ApplicationArtifact) (r : OverrideRequest) : Except OverrideError Json := do
  let original ← a.auditMetadata.loads
  setItem original overridesKey (.arr (listedOverrides original ++ [underwritingTrace r]))

def overridable (status : ProcessingStatus) : Prop := status = .mismatch ∨ status = .pendingReview

instance : DecidablePred overridable := fun _ => inferInstanceAs (Decidable (_ ∨ _))

/-- The version check; an empty or missing version on either side passes. -/
def VersionMatches (expected stored : Option String) : Prop :=
  ∀ v ∈ expected, ∀ u ∈ stored, v ≠ "" → u ≠ "" → u = v

instance (expected stored : Option String) : Decidable (VersionMatches expected stored) := by
  unfold VersionMatches
  infer_instance

/-- The four columns that an override writes. -/
structure Columns where
  status : ProcessingStatus
  extractionPayload : Json
  auditMetadata : Json
  versionId : String

/-- `apply_underwriting_override` on the artifact as the session loaded it. -/
def override (a : ApplicationArtifact) (r : OverrideRequest) : Except OverrideError Columns := do
  require (overridable a.status)
    (.conflict ("Artifact '" ++ r.artifactId ++ "' is already in state: " ++ a.status.value ++ "."))
  require (VersionMatches r.expectedVersionId a.versionId)
    (.conflict ("This exception record was updated or accepted by another loan officer. " ++
      "Please refresh."))
  let payload ← updatedPayload a r
  let audit ← updatedAudit a r
  return ⟨r.decision.targetStatus, payload, audit, r.newVersionId.str⟩

def Columns.write (c : Columns) (a : ApplicationArtifact) : ApplicationArtifact :=
  { a with
    status := c.status, extractionPayload := .json c.extractionPayload,
    auditMetadata := .json c.auditMetadata, versionId := some c.versionId }

inductive OverrideSeen where
  | start
  | loaded (artifact : Option ApplicationArtifact)

abbrev Reply := Except OverrideError Unit

/-- One unlocked read, and one update that is committed at once. -/
def overrides : Program (Table ApplicationArtifact) OverrideRequest (fun _ => OverrideSeen) String
    Reply where
  enter _ := .start
  action
    | _, .start => .read
    | r, .loaded _ => .run [r.artifactId]
  observe db
    | r, .start => .loaded (db.get? r.artifactId)
    | _, seen => seen
  body db
    | r, .loaded (some a) =>
      match override a r with
      | .ok columns =>
        .finish (db.update r.artifactId columns.write fun _ _ h => h) (.ok ())
      | .error e => .finish db (.error e)
    | r, .loaded none =>
      .finish db (.error (.valueError ("Exception record '" ++ r.artifactId ++ "' not found.")))
    | _, .start => .finish db (.error .typeError)

end BankingService.Underwriting
