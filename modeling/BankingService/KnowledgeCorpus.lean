import BankingService.CreditProductCatalog
import BankingService.Library.JsonLayout
import BankingService.PythonValues

/-! The credit knowledge corpus. It is built from the product catalog and from policy documents,
rendered to two files, and loaded from them. -/
namespace BankingService.KnowledgeCorpus

open Checked CreditProductCatalog Python

def CORPUS_SCHEMA_VERSION : ℤ := 1

def MAX_SPAN_CHARS : ℕ := 200

def GENERATOR : String := "banking-service/scripts/generate_credit_knowledge_corpus.py"

def GROUNDED_FIELDS : List String :=
  ["doc_id", "section_id", "short_title", "snapshot_id", "text_span"]

/-- One character, and up to `most` more. -/
def matchesId (first rest : Char → Bool) (most : ℕ) : List Char → Bool
  | [] => false
  | c :: l => first c && decide (l.length ≤ most) && l.all rest

/-- `[a-z0-9][a-z0-9-]{0,29}`. -/
def isSectionId (l : List Char) : Bool :=
  matchesId (fun c => c.isLower || c.isDigit) (fun c => c.isLower || c.isDigit || c == '-') 29 l

/-- `[A-Za-z0-9][A-Za-z0-9_-]{0,62}`. -/
def isRecordId (l : List Char) : Bool :=
  matchesId Char.isAlphanum (fun c => c.isAlphanum || c == '_' || c == '-') 62 l

/-- `POLICY-[A-Z0-9-]{1,40}`. -/
def isPolicyId (l : List Char) : Bool :=
  "POLICY-".toList.isPrefixOf l &&
    matchesId (fun c => c.isUpper || c.isDigit || c == '-')
      (fun c => c.isUpper || c.isDigit || c == '-') 39
      (l.drop 7)

/-- `re.match` of a pattern up to `$`, which also matches before a last newline. -/
def reMatch (p : List Char → Bool) (s : String) : Bool :=
  p s.toList || (decide (s.toList.getLast? = some '\n') && p s.toList.dropLast)

structure PolicySection where
  sectionId : Matching fun s => isSectionId s.toList
  heading : Text 1 100
  text : {s : String // 1 ≤ s.length}

structure PolicyDocument where
  docId : Matching fun s => isPolicyId s.toList
  title : Text 1 120
  shortTitle : Text 1 80
  sections : {l : List PolicySection // 1 ≤ l.length}

structure Section where
  sectionId : String
  heading : String
  text : String

structure Document where
  docId : String
  kind : String
  title : String
  shortTitle : String
  productCode : Option String
  sections : List Section

def formatCitation (shortTitle sectionId snapshotId : String) : String :=
  shortTitle ++ " §" ++ sectionId ++ " (snapshot " ++ snapshotId ++ ")"

def sentence (text : String) : String :=
  let text := strip text
  if text.toList.getLast? ∈ [some '.', some '!', some '?'] then text else text ++ "."

def productSections (product : CreditProductResponse) : List Section :=
  [ ⟨"overview", "Overview",
    sentence product.tagline ++ " Best for: " ++ sentence product.bestFor ++
      " Secured card: " ++ (if product.isSecured then "yes" else "no") ++ "."⟩,
    ⟨"purchase-apr", "Purchase APR", "Purchase APR: " ++ product.purchaseApr.displayText ++
      ". Intro purchase APR: " ++
        (product.introPurchaseApr.map fun i => i.displayText).getD "none" ++ "."⟩,
    ⟨"balance-transfers", "Balance transfers", "Balance transfer fee: " ++
      product.balanceTransferFeeRate.displayText ++ " (minimum " ++
      product.balanceTransferFeeMinimum.displayText ++ "). Intro balance transfer APR: " ++
      (product.introBalanceTransferApr.map fun i => i.displayText).getD "none" ++ "."⟩,
    ⟨"cash-advances", "Cash advances", "Cash advance APR: " ++ product.cashAdvanceApr.displayText ++
      ". Cash advance fee: " ++ product.cashAdvanceFeeRate.displayText ++ " (minimum " ++
      product.cashAdvanceFeeMinimum.displayText ++ ")."⟩,
    ⟨"fees", "Fees",
      "Annual fee: " ++ product.annualFee.displayText ++ ". Foreign transaction fee: " ++
      product.foreignTransactionFeeRate.displayText ++ ". Late fee: up to " ++
      product.lateFeeMaximum.displayText ++ ". Returned payment fee: up to " ++
      product.returnedPaymentFeeMaximum.displayText ++ "."⟩,
    ⟨"penalty-apr", "Penalty APR", "Penalty APR: " ++
      (product.penaltyApr.map fun r => r.displayText).getD "none" ++ "."⟩,
    ⟨"rewards", "Rewards", sentence product.rewards.displayText⟩,
    ⟨"credit-limits", "Credit limits",
      "Credit limit range: " ++ product.minCreditLimit.displayText ++
      " minimum to " ++ product.maxCreditLimit.displayText ++ " maximum."⟩ ] ++
  (product.features.zipIdx 1).map fun (feature, index) =>
    ⟨"feature-" ++ toString index, "Feature", feature⟩

def productDocument (seed : CreditProductSeed) : Except PyException Document := do
  let product ← presentCreditProduct seed
  return {
    docId := "CARD-" ++ product.productCode
    kind := "PRODUCT"
    title := product.productName ++ " card terms"
    shortTitle := product.productName
    productCode := some product.productCode
    sections := productSections product }

def policyDocument (policy : PolicyDocument) : Document where
  docId := policy.docId
  kind := "POLICY"
  title := policy.title
  shortTitle := policy.shortTitle
  productCode := none
  sections := policy.sections.val.map fun s => ⟨s.sectionId, s.heading, s.text⟩

structure Record where
  id : String
  docId : String
  kind : String
  title : String
  shortTitle : String
  sectionId : String
  heading : String
  textSpan : String
  productCode : Option String
  deriving DecidableEq

namespace Record

def struct (r : Record) : List (String × Json) :=
  [("doc_id", .str r.docId), ("kind", .str r.kind), ("title", .str r.title),
    ("short_title", .str r.shortTitle), ("section_id", .str r.sectionId),
      ("heading", .str r.heading),
    ("text_span", .str r.textSpan)] ++ r.productCode.toList.map fun code =>
      ("product_code", .str code)

def json (r : Record) : Json := .obj [("id", .str r.id), ("structData", .obj r.struct)]

def stampedStruct (snapshotId : String) (r : Record) : List (String × Json) :=
  r.struct ++ [("snapshot_id", .str snapshotId),
    ("citation", .str (formatCitation r.shortTitle r.sectionId snapshotId))]

def stamped (snapshotId : String) (r : Record) : Json :=
  .obj [("id", .str r.id), ("structData", .obj (r.stampedStruct snapshotId))]

end Record

def unstampedRecord (document : Document) (s : Section) : Except PyException Record := do
  let place := document.docId ++ " §" ++ s.sectionId
  require (reMatch isSectionId s.sectionId = true) (.valueError (place ++ ": invalid section_id"))
  require (s.text.length ≤ MAX_SPAN_CHARS) (.valueError (place ++ ": text_span is " ++
    toString s.text.length ++ " chars; the limit is " ++ toString MAX_SPAN_CHARS))
  let recordId := document.docId ++ "-" ++ s.sectionId
  require (reMatch isRecordId recordId = true)
    (.valueError (place ++ ": record id " ++ Python.repr recordId ++
    " is not a valid document id"))
  return {
    id := recordId
    docId := document.docId
    kind := document.kind
    title := document.title
    shortTitle := document.shortTitle
    sectionId := s.sectionId
    heading := s.heading
    textSpan := s.text
    productCode := document.productCode }

def documentRecords (document : Document) : Except PyException (List Record) := do
  require (document.sections.map Section.sectionId).Nodup
    (.valueError (document.docId ++ ": duplicate section_id"))
  document.sections.mapM (unstampedRecord document)

def unstampedRecords (documents : List Document) : Except PyException (List Record) := do
  let records ← documents.mapM documentRecords
  require (records.flatten.map Record.id).Nodup (.valueError "Duplicate knowledge record ids.")
  return records.flatten

structure CorpusSnapshot where
  manifest : Json
  records : List Json

section
-- the first twelve hexadecimal digits of the SHA-256 of a text
variable (digest : String → String)

def computeSnapshotId (records : List Record) : String :=
  toString CORPUS_SCHEMA_VERSION ++ "-" ++ digest (Json.dumps (.arr (records.map Record.json)))

def activeSeeds (seeds : List CreditProductSeed) : List CreditProductSeed :=
  (seeds.filter fun seed => seed.isActive).mergeSort fun a b =>
    a.displayOrder < b.displayOrder ∨ a.displayOrder = b.displayOrder ∧
      a.productCode.val ≤ b.productCode.val

def corpusDocuments (seeds : List CreditProductSeed) (policies : List PolicyDocument) :
    Except PyException (List Document) := do
  let products ← (activeSeeds seeds).mapM productDocument
  return products ++ policies.map policyDocument

def manifestOf (snapshotId : String) (documents : List Document) (records : List Record) : Json :=
  .obj [("schema_version", .int CORPUS_SCHEMA_VERSION), ("snapshot_id", .str snapshotId),
    ("generator", .str GENERATOR), ("record_count", .int records.length),
    ("documents", .arr (documents.map fun document =>
      .obj [("doc_id", .str document.docId), ("kind", .str document.kind),
        ("title", .str document.title),
        ("short_title", .str document.shortTitle),
        ("sections", .arr (document.sections.map fun s => .str s.sectionId))]))]

def buildCorpus (seeds : List CreditProductSeed) (policies : List PolicyDocument) :
    Except PyException CorpusSnapshot := do
  let documents ← corpusDocuments seeds policies
  let records ← unstampedRecords documents
  let snapshotId := computeSnapshotId digest records
  return ⟨manifestOf snapshotId documents records, records.map (Record.stamped snapshotId)⟩

end

structure CorpusFiles where
  manifest : String
  documents : String

def renderCorpusFiles (snapshot : CorpusSnapshot) : CorpusFiles where
  manifest := snapshot.manifest.dumpsIndented ++ "\n"
  documents := String.join (snapshot.records.map fun record => record.dumps ++ "\n")

/-- What is read of a file: every line ends in a newline. -/
def readText : List Char → List Char
  | '\r' :: '\n' :: l => '\n' :: readText l
  | '\r' :: l => '\n' :: readText l
  | c :: l => c :: readText l
  | [] => []

def isLineBreak (c : Char) : Bool :=
  let n := c.toNat
  (10 ≤ n && n ≤ 13) || (28 ≤ n && n ≤ 30) || n == 0x85 || n == 0x2028 || n == 0x2029

/-- `splitlines` of a text in which no line ends in two characters. -/
def splitlines : List Char → List (List Char)
  | [] => []
  | c :: l =>
    if isLineBreak c then [] :: splitlines l
    else match splitlines l with
      | [] => [[c]]
      | line :: lines => (c :: line) :: lines

/-- `json.loads`; the text of its error is left out. -/
def loads (text : List Char) : Except PyException Json :=
  orRaise (Json.loads (String.ofList text)) (.valueError "JSONDecodeError")

/-- `value.get(key)`, where only dictionaries have it. -/
def getField (value : Json) (key : String) : Except PyException Json :=
  match value with
  | .obj fields => .ok ((lookup fields key).getD .null)
  | _ => .error .attributeError

/-- `value or default`. -/
def orElse (value default : Json) : Json := if Python.truthy value then value else default

section
-- the number that a literal is read as, and `repr` of what is no string
variable (float : Json.Real → ℚ) (reprOther : Json → String)

def strOf : Json → String
  | .str s => s
  | value => reprOther value

def reprOf : Json → String
  | .str s => Python.repr s
  | value => reprOther value

def blankField (struct : Json) (field : String) : Except PyException Bool := do
  let value ← getField struct field
  return strip (strOf reprOther (orElse value (.str ""))) = ""

def checkRecord (snapshotId : String) (record : Json) : Except PyException Unit := do
  let structData ← getField record "structData"
  let struct := orElse structData (.obj [])
  let stamp ← getField struct "snapshot_id"
  let blanks ← GROUNDED_FIELDS.mapM (blankField reprOther struct)
  let id ← getField record "id"
  require (equal float stamp (.str snapshotId) = true ∧ true ∉ blanks)
    (.valueError
      ("Credit knowledge record " ++ reprOf reprOther id ++ " is not grounded in the snapshot."))
  let span ← getField struct "text_span"
  let textSpan := strOf reprOther (orElse span (.str ""))
  require (textSpan.length ≤ MAX_SPAN_CHARS)
    (.valueError (reprOf reprOther id ++ ": text_span is " ++
    toString textSpan.length ++ " chars; the limit is " ++ toString MAX_SPAN_CHARS))

def loadCorpus (files : CorpusFiles) : Except PyException CorpusSnapshot := do
  let manifest ← loads (readText files.manifest.toList)
  let version ← getField manifest "schema_version"
  require (equal float version (.int CORPUS_SCHEMA_VERSION) = true)
    (.valueError "Unsupported credit knowledge corpus schema_version.")
  let stamp ← getField manifest "snapshot_id"
  let snapshotId := strOf reprOther (orElse stamp (.str ""))
  let lines := splitlines (readText files.documents.toList)
  let records ← (lines.filter fun line => stripChars isSpace line ≠ []).mapM loads
  let count ← getField manifest "record_count"
  require (snapshotId ≠ "" ∧ equal float (.int records.length) count = true)
    (.valueError "Credit knowledge corpus manifest does not match its documents.")
  let _ ← records.mapM (checkRecord float reprOther snapshotId)
  return ⟨manifest, records⟩

end

end BankingService.KnowledgeCorpus
