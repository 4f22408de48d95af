import BankingService.Library.JsonFields
import BankingService.KnowledgeCorpus
import Mathlib.Data.List.TakeWhile

/-! A corpus that is built and rendered loads again as it was, if every short title and every text
of a section has a character that is no space. The builder does not look for one. -/
namespace CorpusRoundTrips

open BankingService BankingService.CreditProductCatalog BankingService.KnowledgeCorpus
  Checked Python

/-- It is more than spaces. -/
def Worded (s : String) : Prop := ∃ c ∈ s.toList, isSpace c = false

instance (s : String) : Decidable (Worded s) :=
  decidable_of_iff ((s.toList.any fun c => !isSpace c) = true) (by simp [Worded])

theorem strip_eq_empty {s : String} : strip s = "" ↔ ¬ Worded s := by
  have hempty : ("" : String) = String.ofList [] := rfl
  rw [strip, hempty, String.ofList_inj, stripChars_eq_nil, Worded]
  push Not
  exact forall₂_congr fun c _ => by simp

theorem ne_empty_of_worded {s : String} (h : Worded s) : s ≠ "" := by
  rintro rfl
  exact absurd h (by decide)

theorem worded_append {s t : String} : Worded (s ++ t) ↔ Worded s ∨ Worded t := by
  simp [Worded, or_and_right, exists_or]

theorem worded_sentence (s : String) : Worded (sentence s) := by
  unfold sentence
  dsimp only
  split_ifs with h
  · have hlast : ∀ c, (strip s).toList.getLast? = some c → isSpace c = false → Worded (strip s) :=
      fun c hc hspace => ⟨c, List.mem_of_getLast? hc, hspace⟩
    simp only [List.mem_cons, List.not_mem_nil, or_false] at h
    rcases h with h | h | h <;> exact hlast _ h (by decide)
  · exact worded_append.mpr (Or.inr (by decide))

/-- A record of a section, which passed the builder's checks. -/
structure RecordOf (document : Document) (s : Section) (r : Record) : Prop where
  sectionId : reMatch isSectionId s.sectionId = true
  span : s.text.length ≤ MAX_SPAN_CHARS
  recordId : reMatch isRecordId r.id = true
  fields : r = ⟨document.docId ++ "-" ++ s.sectionId, document.docId, document.kind, document.title,
    document.shortTitle, s.sectionId, s.heading, s.text, document.productCode⟩

theorem unstampedRecord_eq_ok {document : Document} {s : Section} {r : Record}
    (h : unstampedRecord document s = .ok r) : RecordOf document s r := by
  obtain ⟨_, hsection, h⟩ := bind_eq_ok.mp h
  obtain ⟨_, hspan, h⟩ := bind_eq_ok.mp h
  obtain ⟨_, hrecord, h⟩ := bind_eq_ok.mp h
  obtain rfl := pure_eq_ok.mp h
  exact ⟨require_eq_ok.mp hsection, require_eq_ok.mp hspan, require_eq_ok.mp hrecord, rfl⟩

theorem unstampedRecords_eq_ok {documents : List Document} {records : List Record}
    (h : unstampedRecords documents = .ok records) :
    (records.map Record.id).Nodup ∧
      (∀ r ∈ records, ∃ d ∈ documents, ∃ s ∈ d.sections, RecordOf d s r) ∧
      ∀ d ∈ documents, ∀ s ∈ d.sections, ∃ r ∈ records, RecordOf d s r := by
  obtain ⟨lists, hlists, h⟩ := bind_eq_ok.mp h
  obtain ⟨_, hdistinct, h⟩ := bind_eq_ok.mp h
  obtain rfl := pure_eq_ok.mp h
  have hall := mapM_eq_ok.mp hlists
  have hdocument : ∀ d l, documentRecords d = .ok l → List.Forall₂ (RecordOf d) d.sections l := by
    intro d l hd
    obtain ⟨_, -, hd⟩ := bind_eq_ok.mp hd
    exact (mapM_eq_ok.mp hd).imp fun _ _ => unstampedRecord_eq_ok
  refine ⟨require_eq_ok.mp hdistinct, ?_, ?_⟩
  · intro r hr
    obtain ⟨l, hl, hr⟩ := List.mem_flatten.mp hr
    obtain ⟨d, hd, hok⟩ := mem_right_of_forall₂ hall hl
    obtain ⟨s, hs, hrecord⟩ := mem_right_of_forall₂ (hdocument d l hok) hr
    exact ⟨d, hd, s, hs, hrecord⟩
  · intro d hd s hs
    obtain ⟨l, hl, hok⟩ := mem_right_of_forall₂ hall.flip hd
    obtain ⟨r, hr, hrecord⟩ := mem_right_of_forall₂ (hdocument d l hok).flip hs
    exact ⟨r, List.mem_flatten.mpr ⟨l, hl, hr⟩, hrecord⟩

theorem ne_of_matchesId {first rest : Char → Bool} {most : ℕ} {l : List Char}
    (hfirst : ∀ c, first c = true → isSpace c = false) (h : matchesId first rest most l = true) :
    ∃ c ∈ l, isSpace c = false := by
  cases l with
  | nil => cases h
  | cons c l =>
    rw [matchesId, Bool.and_eq_true, Bool.and_eq_true] at h
    exact ⟨c, List.mem_cons_self, hfirst c h.1.1⟩

theorem isSpace_of_isAlphanum {c : Char} (h : c.isAlphanum = true) : isSpace c = false := by
  have hrange : 65 ≤ c.toNat ∧ c.toNat ≤ 90 ∨ 97 ≤ c.toNat ∧ c.toNat ≤ 122 ∨
      48 ≤ c.toNat ∧ c.toNat ≤ 57 := by
    change (((decide (65 ≤ c.val ∧ c.val ≤ 90) || (decide (97 ≤ c.val) && decide (c.val ≤ 122))) ||
      (decide (48 ≤ c.val) && decide (c.val ≤ 57))) = true) at h
    simp [UInt32.le_iff_toNat_le] at h
    tauto
  unfold isSpace
  simp only [Bool.or_eq_false_iff, Bool.and_eq_false_imp, decide_eq_true_eq,
    decide_eq_false_iff_not,
    beq_eq_false_iff_ne]
  omega

theorem worded_of_sectionId {s : String} (h : reMatch isSectionId s = true) : Worded s := by
  have hfirst : ∀ c : Char, (c.isLower || c.isDigit) = true → isSpace c = false := by
    intro c hc
    apply isSpace_of_isAlphanum
    rw [Bool.or_eq_true] at hc
    change ((c.isUpper || c.isLower) || c.isDigit) = true
    rcases hc with hc | hc <;> simp [hc]
  rw [reMatch, Bool.or_eq_true, Bool.and_eq_true] at h
  rcases h with h | ⟨-, h⟩
  · exact ne_of_matchesId hfirst h
  · obtain ⟨c, hc, hspace⟩ := ne_of_matchesId hfirst h
    exact ⟨c, List.dropLast_subset _ hc, hspace⟩

section
variable (float : Json.Real → ℚ) (reprOther : Json → String)

theorem getField_sorted {fields : List (String × Json)} {key : String}
    (distinct : (fields.map Prod.fst).Nodup) : getField (Json.obj fields).sorted key =
      .ok (((Json.get key (.obj fields)).map Json.sorted).getD .null) := by
  rw [← Json.get_sorted distinct]
  rfl

theorem truthy_sorted {f : String × Json} {fields : List (String × Json)} :
    Python.truthy (Json.obj (f :: fields)).sorted = true := by
  have hne : (Json.sortedFields (f :: fields)).insertionSort (fun a b => a.1 ≤ b.1) ≠ [] := by
    intro hnil
    have hlength := congrArg List.length hnil
    rw [List.length_insertionSort, Json.sortedFields_eq] at hlength
    cases hlength
  rw [Json.sorted, Python.truthy, Bool.not_eq_true']
  exact List.isEmpty_eq_false_iff.mpr hne

theorem strOf_orElse (s : String) : strOf reprOther (orElse (.str s) (.str "")) = s := by
  unfold orElse
  by_cases h : s = ""
  · subst h
    rfl
  · rw [if_pos (by simpa [Python.truthy] using h)]
    rfl

theorem stampedStruct_distinct (snapshotId : String) (r : Record) :
    ((r.stampedStruct snapshotId).map Prod.fst).Nodup := by
  unfold Record.stampedStruct Record.struct
  cases r.productCode <;> simp

theorem blankField_stamped {snapshotId field value : String} {r : Record}
    (h : Json.get field (.obj (r.stampedStruct snapshotId)) = some (.str value)) :
    blankField reprOther (Json.obj (r.stampedStruct snapshotId)).sorted field =
      .ok (decide (strip value = "")) := by
  rw [blankField, getField_sorted (stampedStruct_distinct snapshotId r), h, ok_bind]
  simp only [Option.map_some, Option.getD_some, Json.sorted, strOf_orElse]
  rfl

theorem checkRecord_stamped {snapshotId : String} {r : Record}
    (hspan : r.textSpan.length ≤ MAX_SPAN_CHARS) :
    checkRecord float reprOther snapshotId (r.stamped snapshotId).sorted = .ok () ↔
      Worded r.docId ∧ Worded r.sectionId ∧ Worded r.shortTitle ∧ Worded snapshotId ∧
        Worded r.textSpan := by
  have hget : ∀ field value, (field, Json.str value) ∈ r.stampedStruct snapshotId →
      Json.get field (.obj (r.stampedStruct snapshotId)) = some (.str value) :=
    fun _ _ => (Json.get_eq_some (stampedStruct_distinct snapshotId r)).mpr
  have hfield : ∀ field value, (field, Json.str value) ∈ r.stampedStruct snapshotId →
      getField (Json.obj (r.stampedStruct snapshotId)).sorted field = .ok (.str value) := by
    intro field value h
    rw [getField_sorted (stampedStruct_distinct snapshotId r), hget field value h]
    rfl
  have hblank : ∀ field value, (field, Json.str value) ∈ r.stampedStruct snapshotId →
      blankField reprOther (Json.obj (r.stampedStruct snapshotId)).sorted field =
        .ok (decide (strip value = "")) := fun field value h =>
          blankField_stamped reprOther (hget field value h)
  have hrecord : ([("id", Json.str r.id), ("structData", Json.obj (r.stampedStruct snapshotId))].map
      Prod.fst).Nodup := by simp
  have hid : getField (r.stamped snapshotId).sorted "id" = .ok (.str r.id) := by
    rw [Record.stamped, getField_sorted hrecord]
    rfl
  have hstruct : getField (r.stamped snapshotId).sorted "structData" =
      .ok (Json.obj (r.stampedStruct snapshotId)).sorted := by
    rw [Record.stamped, getField_sorted hrecord]
    rfl
  have htruthy : orElse (Json.obj (r.stampedStruct snapshotId)).sorted (.obj []) =
      (Json.obj (r.stampedStruct snapshotId)).sorted := if_pos truthy_sorted
  have hblanks :
    GROUNDED_FIELDS.mapM (blankField reprOther (Json.obj (r.stampedStruct snapshotId)).sorted) =
      .ok [decide (strip r.docId = ""), decide (strip r.sectionId = ""),
        decide (strip r.shortTitle = ""),
        decide (strip snapshotId = ""), decide (strip r.textSpan = "")] := by
    rw [mapM_eq_ok]
    refine .cons (hblank _ _ ?_)
      (.cons (hblank _ _ ?_) (.cons (hblank _ _ ?_) (.cons (hblank _ _ ?_)
      (.cons (hblank _ _ ?_) .nil)))) <;> simp [Record.stampedStruct, Record.struct]
  have hstamp := hfield "snapshot_id" snapshotId (by simp [Record.stampedStruct])
  have htext := hfield "text_span" r.textSpan (by simp [Record.stampedStruct, Record.struct])
  have hworded : ∀ s : String, ¬ strip s = "" ↔ Worded s := fun s => by
    rw [strip_eq_empty, not_not]
  rw [checkRecord, hstruct, ok_bind, htruthy]
  dsimp only
  rw [hstamp, ok_bind, hblanks, ok_bind, hid, ok_bind, htext]
  simp only [strOf_orElse, bind_eq_ok, ok_bind, require_eq_ok, equal, decide_true, true_and,
    List.mem_cons,
    List.not_mem_nil, or_false, not_or, hspan, exists_const, and_true, eq_comm (a := true),
    decide_eq_true_eq, hworded]

theorem readText_eq_self : ∀ {l : List Char}, '\r' ∉ l → readText l = l
  | [], _ => rfl
  | c :: l, h => by
    have hc : c ≠ '\r' := fun heq => h (heq ▸ List.mem_cons_self)
    have hl := readText_eq_self fun hmem => h (List.mem_cons_of_mem c hmem)
    unfold readText
    split
    · next heq => exact absurd (List.cons.inj heq).1 hc
    · next heq => exact absurd (List.cons.inj heq).1 hc
    · next heq =>
      obtain ⟨rfl, rfl⟩ := List.cons.inj heq
      rw [hl]
    · next heq => cases heq

theorem splitlines_append {line rest : List Char} (h : ∀ c ∈ line, isLineBreak c = false) :
    splitlines (line ++ '\n' :: rest) = line :: splitlines rest := by
  induction line with
  | nil => rfl
  | cons c line ih =>
    have hc := h c List.mem_cons_self
    rw [List.cons_append, splitlines, ih fun d hd =>
      h d (List.mem_cons_of_mem c hd), if_neg (by simp [hc])]

theorem splitlines_lines {lines : List (List Char)}
    (h : ∀ line ∈ lines, ∀ c ∈ line, isLineBreak c = false) :
    splitlines (lines.flatMap fun line => line ++ ['\n']) = lines := by
  induction lines with
  | nil => rfl
  | cons line lines ih =>
    rw [List.flatMap_cons, List.append_assoc]
    exact (splitlines_append (h line List.mem_cons_self)).trans
      (congrArg _ (ih fun l hl => h l (List.mem_cons_of_mem line hl)))

theorem printable_dumps (j : Json) : ∀ c ∈ j.dumps.toList, Json.Printable c := by
  rw [Json.dumps, String.toList_ofList]
  exact Json.printable_text j.sorted

theorem isLineBreak_of_printable {c : Char} (h : Json.Printable c) : isLineBreak c = false := by
  unfold Json.Printable at h
  unfold isLineBreak
  simp only [Bool.or_eq_false_iff, Bool.and_eq_false_imp, decide_eq_true_eq,
    decide_eq_false_iff_not,
    beq_eq_false_iff_ne]
  omega

theorem dumps_obj_not_blank (fields : List (String × Json)) :
    stripChars isSpace (Json.obj fields).dumps.toList ≠ [] := by
  intro h
  have hbrace : (Json.obj fields).dumps.toList = Char.ofNat 123 :: Json.fieldsText
      ((Json.sortedFields fields).insertionSort fun a b => a.1 ≤ b.1) := by
    rw [Json.dumps, String.toList_ofList]
    rfl
  have := stripChars_eq_nil.mp h (Char.ofNat 123) (by rw [hbrace]; exact List.mem_cons_self)
  cases this

theorem documents_toList (records : List Json) :
    (String.join (records.map fun record => record.dumps ++ "\n")).toList =
      (records.map fun record => record.dumps.toList).flatMap fun line => line ++ ['\n'] := by
  rw [String.toList_join, List.flatMap_map, List.flatMap_map]
  exact List.flatMap_congr fun record _ => by rw [String.toList_append]; rfl

theorem loads_lines {records : List Json} (hobj : ∀ r ∈ records, ∃ fields, r = .obj fields) :
    ((splitlines
      (readText (String.join (records.map fun record => record.dumps ++ "\n")).toList)).filter
      fun line => stripChars isSpace line ≠ []).mapM loads = .ok (records.map Json.sorted) := by
  have hbreak : ∀ line ∈ records.map (fun record => record.dumps.toList), ∀ c ∈ line,
      isLineBreak c = false := by
    intro line hline c hc
    obtain ⟨r, -, rfl⟩ := List.mem_map.mp hline
    exact isLineBreak_of_printable (printable_dumps r c hc)
  have hreturn : '\r' ∉ (records.map fun record => record.dumps.toList).flatMap fun line =>
    line ++ ['\n'] := by
    intro hmem
    obtain ⟨line, hline, hc⟩ := List.mem_flatMap.mp hmem
    rcases List.mem_append.mp hc with hc | hc
    · exact absurd (hbreak line hline _ hc) (by decide)
    · exact absurd (List.mem_singleton.mp hc) (by decide)
  have hkept : (records.map fun record => record.dumps.toList).filter
      (fun line => stripChars isSpace line ≠ []) = records.map fun record =>
        record.dumps.toList := by
    refine List.filter_eq_self.mpr fun line hline => ?_
    obtain ⟨r, hr, rfl⟩ := List.mem_map.mp hline
    obtain ⟨fields, rfl⟩ := hobj r hr
    exact decide_eq_true (dumps_obj_not_blank fields)
  rw [documents_toList, readText_eq_self hreturn, splitlines_lines hbreak, hkept, mapM_eq_ok,
    List.forall₂_map_left_iff, List.forall₂_map_right_iff, List.forall₂_same]
  intro r hr
  rw [loads, String.ofList_toList, Json.loads_dumps]
  rfl

def inOrder (s : CorpusSnapshot) : CorpusSnapshot := ⟨s.manifest.sorted, s.records.map Json.sorted⟩

theorem finite_manifestOf (snapshotId : String) (documents : List Document)
    (records : List Record) :
    (manifestOf snapshotId documents records).finite = true := by
  have hdocuments : Json.finiteItems (documents.map fun document =>
      .obj [("doc_id", .str document.docId), ("kind", .str document.kind),
        ("title", .str document.title),
        ("short_title", .str document.shortTitle),
        ("sections", .arr (document.sections.map fun s => .str s.sectionId))]) = true := by
    refine Json.finiteItems_iff.mpr fun x hx => ?_
    obtain ⟨document, -, rfl⟩ := List.mem_map.mp hx
    have hsections : Json.finiteItems (document.sections.map fun s => .str s.sectionId) = true := by
      refine Json.finiteItems_iff.mpr fun x hx => ?_
      obtain ⟨s, -, rfl⟩ := List.mem_map.mp hx
      rfl
    simp [Json.finite, Json.finiteFields, hsections]
  simp [manifestOf, Json.finite, Json.finiteFields, hdocuments]

theorem loadCorpus_render {snapshotId : String} {documents : List Document} {records : List Record}
    {loaded : CorpusSnapshot} (hid : snapshotId ≠ "") :
    loadCorpus float reprOther (renderCorpusFiles ⟨manifestOf snapshotId documents records,
        records.map (Record.stamped snapshotId)⟩) = .ok loaded ↔
      (∀ r ∈ records,
        checkRecord float reprOther snapshotId (r.stamped snapshotId).sorted = .ok ()) ∧
        loaded = inOrder ⟨manifestOf snapshotId documents records,
          records.map (Record.stamped snapshotId)⟩ := by
  have hmanifest :
    loads (readText ((manifestOf snapshotId documents records).dumpsIndented ++ "\n").toList) =
      .ok (manifestOf snapshotId documents records).sorted := by
    have hreturn :
      '\r' ∉ ((manifestOf snapshotId documents records).dumpsIndented ++ "\n").toList := by
      intro hmem
      rw [Json.dumpsIndented, String.toList_append, String.toList_ofList] at hmem
      rcases List.mem_append.mp hmem with hmem | hmem
      · exact absurd (Json.inLayout_indented _ 0 _ hmem) (by decide)
      · exact absurd hmem (by decide)
    have hnewline : "\n" = String.ofList ['\n'] := rfl
    have hparse :=
      @Json.read_dumpsIndented true _ ['\n'] (finite_manifestOf snapshotId documents records) rfl
      (Json.ends_cons (by decide))
    rw [readText_eq_self hreturn, loads, String.ofList_toList, hnewline, Json.loads,
      hparse, orRaise]
  have hdistinct :
    ([("schema_version", Json.int CORPUS_SCHEMA_VERSION), ("snapshot_id", .str snapshotId),
      ("generator", .str GENERATOR), ("record_count", .int records.length),
      ("documents", .arr (documents.map fun document =>
        .obj [("doc_id", .str document.docId), ("kind", .str document.kind),
          ("title", .str document.title),
          ("short_title", .str document.shortTitle),
          ("sections", .arr (document.sections.map fun s => .str s.sectionId))]))].map
            Prod.fst).Nodup := by
    simp
  have hversion : getField (manifestOf snapshotId documents records).sorted "schema_version" =
      .ok (.int CORPUS_SCHEMA_VERSION) := by
    rw [manifestOf, getField_sorted hdistinct]
    rfl
  have hstamp : getField (manifestOf snapshotId documents records).sorted "snapshot_id" =
      .ok (.str snapshotId) := by
    rw [manifestOf, getField_sorted hdistinct]
    rfl
  have hcount : getField (manifestOf snapshotId documents records).sorted "record_count" =
      .ok (.int records.length) := by
    rw [manifestOf, getField_sorted hdistinct]
    rfl
  have hlines := @loads_lines (records.map (Record.stamped snapshotId))
    (fun r hr => by
      obtain ⟨x, -, rfl⟩ := List.mem_map.mp hr
      exact ⟨_, rfl⟩)
  unfold loadCorpus renderCorpusFiles
  dsimp only
  rw [hmanifest, ok_bind, hversion, ok_bind, require_of (by simp [equal, numeric]), ok_bind,
    hstamp, ok_bind,
    hlines, ok_bind, hcount, ok_bind, strOf_orElse,
    require_of ⟨hid, by simp [equal, numeric]⟩, ok_bind]
  constructor
  · intro h
    obtain ⟨_, hchecks, h⟩ := bind_eq_ok.mp h
    refine ⟨?_, (pure_eq_ok.mp h).symm⟩
    have hall := mapM_eq_ok.mp hchecks
    rw [List.map_map, List.forall₂_map_left_iff] at hall
    intro r hr
    obtain ⟨_, -, hcheck⟩ := mem_right_of_forall₂ hall.flip hr
    exact hcheck
  · rintro ⟨hchecks, rfl⟩
    refine bind_eq_ok.mpr ⟨records.map fun _ => (), ?_, rfl⟩
    rw [mapM_eq_ok, List.map_map, List.forall₂_map_left_iff, List.forall₂_map_right_iff,
      List.forall₂_same]
    exact hchecks

end

/-- Its title and its sections can be shown. -/
def Readable (d : Document) : Prop := Worded d.shortTitle ∧ ∀ s ∈ d.sections, Worded s.text

def ReadableSeed (seed : CreditProductSeed) : Prop :=
  Worded seed.productName ∧ ∀ f ∈ seed.features.val, Worded f.val

def ReadablePolicy (policy : PolicyDocument) : Prop :=
  Worded policy.shortTitle ∧ ∀ s ∈ policy.sections.val, Worded s.text

instance (seed : CreditProductSeed) : Decidable (ReadableSeed seed) :=
  inferInstanceAs (Decidable (_ ∧ ∀ f ∈ seed.features.val, Worded f.val))

instance (policy : PolicyDocument) : Decidable (ReadablePolicy policy) :=
  inferInstanceAs (Decidable (_ ∧ ∀ s ∈ policy.sections.val, Worded s.text))

theorem worded_productSections (product : CreditProductResponse) :
    (∀ s ∈ productSections product, Worded s.text) ↔ ∀ f ∈ product.features, Worded f := by
  have hfeatures : (∀ s ∈ (product.features.zipIdx 1).map (fun x =>
      (⟨"feature-" ++ toString x.2, "Feature", x.1⟩ : Section)), Worded s.text) ↔
        ∀ f ∈ product.features, Worded f := by
    conv_rhs => rw [← List.zipIdx_map_fst 1 product.features]
    rw [List.forall_mem_map, List.forall_mem_map]
  rw [productSections, List.forall_mem_append]
  refine (and_congr Iff.rfl hfeatures).trans (and_iff_right_iff_imp.mpr ?_)
  intro _ s hs
  simp only [List.mem_cons, List.not_mem_nil, or_false] at hs
  rcases hs with rfl | rfl | rfl | rfl | rfl | rfl | rfl | rfl
  case inr.inr.inr.inr.inr.inr.inl =>
    dsimp only
    exact worded_sentence _
  case inl =>
    simp only [worded_append]
    repeat refine Or.inl ?_
    exact worded_sentence _
  all_goals
    simp only [worded_append]
    repeat refine Or.inl ?_
    decide

theorem readable_product {seed : CreditProductSeed} {d : Document}
    (h : productDocument seed = .ok d) :
    Worded d.docId ∧ d.sections ≠ [] ∧ (Readable d ↔ ReadableSeed seed) := by
  obtain ⟨product, hproduct, h⟩ := bind_eq_ok.mp h
  obtain rfl := pure_eq_ok.mp h
  obtain ⟨-, hname, hfeatures⟩ := presentCreditProduct_fields hproduct
  refine ⟨worded_append.mpr (Or.inl (by decide)), List.cons_ne_nil _ _, ?_⟩
  rw [Readable, ReadableSeed, worded_productSections, hname, hfeatures, List.forall_mem_map]

theorem readable_policy (policy : PolicyDocument) : Worded (policyDocument policy).docId ∧
    (policyDocument policy).sections ≠ [] ∧
      (Readable (policyDocument policy) ↔ ReadablePolicy policy) := by
  refine ⟨?_, ?_, ?_⟩
  · have hdoc : isPolicyId policy.docId.val.toList = true := policy.docId.property
    rw [isPolicyId, Bool.and_eq_true, List.isPrefixOf_iff_prefix] at hdoc
    exact ⟨'P', hdoc.1.subset (by decide), by decide⟩
  · intro hnil
    have hlength := policy.sections.property
    rw [List.map_eq_nil_iff.mp hnil] at hlength
    cases hlength
  · rw [Readable, ReadablePolicy, policyDocument, List.forall_mem_map]

theorem forall_corpusDocuments {seeds : List CreditProductSeed} {policies : List PolicyDocument}
    {documents : List Document} (h : corpusDocuments seeds policies = .ok documents)
    {P : Document → Prop} :
    (∀ d ∈ documents, P d) ↔ (∀ seed ∈ seeds, seed.isActive = true →
      ∀ d, productDocument seed = .ok d → P d) ∧
        ∀ policy ∈ policies, P (policyDocument policy) := by
  obtain ⟨products, hproducts, h⟩ := bind_eq_ok.mp h
  obtain rfl := pure_eq_ok.mp h
  have hall := mapM_eq_ok.mp hproducts
  have hactive : ∀ seed, seed ∈ activeSeeds seeds ↔ seed ∈ seeds ∧ seed.isActive = true := by
    intro seed
    rw [activeSeeds, List.mem_mergeSort, List.mem_filter]
  rw [List.forall_mem_append, List.forall_mem_map]
  refine and_congr_left' ⟨?_, ?_⟩
  · intro hP seed hseed hisActive d hd
    obtain ⟨d', hd', hok⟩ := mem_right_of_forall₂ hall.flip ((hactive seed).mpr ⟨hseed, hisActive⟩)
    obtain rfl := Except.ok.inj (hok.symm.trans hd)
    exact hP d' hd'
  · intro hP d hd
    obtain ⟨seed, hseed, hok⟩ := mem_right_of_forall₂ hall hd
    obtain ⟨hmem, hisActive⟩ := (hactive seed).mp hseed
    exact hP seed hmem hisActive d hok

theorem struct_distinct (r : Record) : (r.struct.map Prod.fst).Nodup := by
  unfold Record.struct
  cases r.productCode <;> simp

theorem finite_json (r : Record) : r.json.finite = true := by
  unfold Record.json Record.struct
  cases r.productCode <;> rfl

theorem get_productCode (r : Record) :
    Json.get "product_code" (.obj r.struct) = r.productCode.map Json.str := by
  cases r with
  | mk id docId kind title shortTitle sectionId heading textSpan productCode =>
    cases productCode <;> rfl

theorem json_injective {r r' : Record} (h : r.json.sorted = r'.json.sorted) : r = r' := by
  have hdistinct : ∀ r : Record, ([("id", Json.str r.id), ("structData", Json.obj r.struct)].map
      Prod.fst).Nodup := fun r => by simp
  have hid : ∀ r : Record, getField r.json.sorted "id" = .ok (.str r.id) := by
    intro r
    rw [Record.json, getField_sorted (hdistinct r)]
    rfl
  have hstruct :
    ∀ r : Record, getField r.json.sorted "structData" = .ok (Json.obj r.struct).sorted := by
    intro r
    rw [Record.json, getField_sorted (hdistinct r)]
    rfl
  have hsame : (Json.obj r.struct).sorted = (Json.obj r'.struct).sorted :=
    Except.ok.inj
      ((hstruct r).symm.trans ((congrArg (getField · "structData") h).trans (hstruct r')))
  have hget := (Json.sorted_obj (struct_distinct r) (struct_distinct r')).mp hsame
  have hidentifier := Except.ok.inj
    ((hid r).symm.trans ((congrArg (getField · "id") h).trans (hid r')))
  have hfield :
    ∀ (name : String) (f : Record → String), (∀ r : Record, (name, Json.str (f r)) ∈ r.struct) →
      f r = f r' := by
    intro name f hmem
    have hname := hget name
    rw [(Json.get_eq_some (struct_distinct r)).mpr (hmem r),
      (Json.get_eq_some (struct_distinct r')).mpr (hmem r')] at hname
    exact Json.str.inj (Option.some.inj hname)
  have hcode : r.productCode = r'.productCode := by
    have hname := hget "product_code"
    rw [get_productCode, get_productCode, Option.map_map, Option.map_map] at hname
    exact Option.map_injective (fun _ _ heq => Json.str.inj heq) hname
  have hdocId := hfield "doc_id" Record.docId fun r => by simp [Record.struct]
  have hkind := hfield "kind" Record.kind fun r => by simp [Record.struct]
  have htitle := hfield "title" Record.title fun r => by simp [Record.struct]
  have hshort := hfield "short_title" Record.shortTitle fun r => by simp [Record.struct]
  have hsection := hfield "section_id" Record.sectionId fun r => by simp [Record.struct]
  have hheading := hfield "heading" Record.heading fun r => by simp [Record.struct]
  have htext := hfield "text_span" Record.textSpan fun r => by simp [Record.struct]
  cases r
  cases r'
  simp_all

/-- With no two texts of one digest, the snapshot id tells the records apart. -/
theorem computeSnapshotId_inj {digest : String → String} (hdigest : Function.Injective digest)
    {records records' : List Record} :
    computeSnapshotId digest records = computeSnapshotId digest records' ↔ records = records' := by
  constructor
  · intro h
    have hfinite : ∀ l : List Record, (Json.arr (l.map Record.json)).finite = true := by
      intro l
      rw [Json.finite, Json.finiteItems_iff]
      intro x hx
      obtain ⟨r, -, rfl⟩ := List.mem_map.mp hx
      exact finite_json r
    have htext := hdigest (String.append_right_inj _ |>.mp h)
    have hsorted := (Json.dumps_eq_iff (hfinite records) (hfinite records')).mp htext
    rw [Json.sorted, Json.sorted, Json.sortedItems_eq, Json.sortedItems_eq, List.map_map,
      List.map_map] at hsorted
    exact List.map_injective_iff.mpr (fun _ _ => json_injective) (Json.arr.inj hsorted)
  · rintro rfl
    rfl

variable (digest : String → String)

theorem worded_computeSnapshotId (records : List Record) :
    Worded (computeSnapshotId digest records) :=
  worded_append.mpr (Or.inl (by decide))

/-- The records that a corpus is made of, before they are stamped. -/
def unstamped (seeds : List CreditProductSeed) (policies : List PolicyDocument) :
    Except PyException (List Record) := do
  let documents ← corpusDocuments seeds policies
  unstampedRecords documents

theorem buildCorpus_eq_ok {seeds : List CreditProductSeed} {policies : List PolicyDocument}
    {s : CorpusSnapshot} :
    buildCorpus digest seeds policies = .ok s ↔ ∃ documents records,
      corpusDocuments seeds policies = .ok documents ∧ unstampedRecords documents = .ok records ∧
      s = ⟨manifestOf (computeSnapshotId digest records) documents records,
        records.map (Record.stamped (computeSnapshotId digest records))⟩ := by
  constructor
  · intro h
    obtain ⟨documents, hdocuments, h⟩ := bind_eq_ok.mp h
    obtain ⟨records, hrecords, h⟩ := bind_eq_ok.mp h
    exact ⟨documents, records, hdocuments, hrecords, (pure_eq_ok.mp h).symm⟩
  · rintro ⟨documents, records, hdocuments, hrecords, rfl⟩
    exact bind_eq_ok.mpr ⟨documents, hdocuments, bind_eq_ok.mpr ⟨records, hrecords, rfl⟩⟩

variable (float : Json.Real → ℚ) (reprOther : Json → String)

/-- What the loader asks of the records, in words of the seeds and the policies. -/
theorem checks_iff {seeds : List CreditProductSeed} {policies : List PolicyDocument}
    {documents : List Document} {records : List Record}
    (hdocuments : corpusDocuments seeds policies = .ok documents)
    (hrecords : unstampedRecords documents = .ok records) {snapshotId : String}
    (hid : Worded snapshotId) :
    (∀ r ∈ records, checkRecord float reprOther snapshotId (r.stamped snapshotId).sorted = .ok ()) ↔
      (∀ seed ∈ seeds, seed.isActive = true → ReadableSeed seed) ∧
        ∀ policy ∈ policies, ReadablePolicy policy := by
  obtain ⟨-, hsource, hevery⟩ := unstampedRecords_eq_ok hrecords
  have hsound : ∀ d ∈ documents, Worded d.docId ∧ d.sections ≠ [] := by
    refine (forall_corpusDocuments hdocuments).mpr ⟨fun seed _ _ d hd => ?_, fun policy _ => ?_⟩
    · exact ⟨(readable_product hd).1, (readable_product hd).2.1⟩
    · exact ⟨(readable_policy policy).1, (readable_policy policy).2.1⟩
  have hreadable :
    (∀ r ∈ records, checkRecord float reprOther snapshotId (r.stamped snapshotId).sorted =
      .ok ()) ↔ ∀ d ∈ documents, Readable d := by
    constructor
    · intro hchecks d hd
      have hsection : ∀ s ∈ d.sections, Worded d.shortTitle ∧ Worded s.text := by
        intro s hs
        obtain ⟨r, hr, hof⟩ := hevery d hd s hs
        have hspan : r.textSpan.length ≤ MAX_SPAN_CHARS := by
          rw [hof.fields]
          exact hof.span
        obtain ⟨-, -, hshort, -, htext⟩ :=
          (checkRecord_stamped float reprOther hspan).mp (hchecks r hr)
        rw [hof.fields] at hshort htext
        exact ⟨hshort, htext⟩
      obtain ⟨s, hs⟩ := List.exists_mem_of_ne_nil _ (hsound d hd).2
      exact ⟨(hsection s hs).1, fun s hs => (hsection s hs).2⟩
    · intro hdocs r hr
      obtain ⟨d, hd, s, hs, hof⟩ := hsource r hr
      have hspan : r.textSpan.length ≤ MAX_SPAN_CHARS := by
        rw [hof.fields]
        exact hof.span
      rw [checkRecord_stamped float reprOther hspan, hof.fields]
      exact ⟨(hsound d hd).1, worded_of_sectionId hof.sectionId, (hdocs d hd).1, hid,
        (hdocs d hd).2 s hs⟩
  rw [hreadable, forall_corpusDocuments hdocuments]
  refine and_congr ⟨?_, ?_⟩ (forall₂_congr fun policy _ => (readable_policy policy).2.2)
  · intro h seed hseed hactive
    obtain ⟨product, hproduct⟩ := presentCreditProduct_ok seed
    have hd : ∃ d, productDocument seed = .ok d := ⟨_, bind_eq_ok.mpr ⟨product, hproduct, rfl⟩⟩
    obtain ⟨d, hd⟩ := hd
    exact (readable_product hd).2.2.mp (h seed hseed hactive d hd)
  · intro h seed hseed hactive d hd
    exact (readable_product hd).2.2.mpr (h seed hseed hactive)

/-- A corpus that was built loads as it was exactly if its names, titles and texts are more than
spaces. Its ids are distinct and its snapshot id is that of its records either way. -/
theorem round_trip_iff (hdigest : Function.Injective digest) {seeds : List CreditProductSeed}
    {policies : List PolicyDocument} {s : CorpusSnapshot}
    (built : buildCorpus digest seeds policies = .ok s) :
    (loadCorpus float reprOther (renderCorpusFiles s) = .ok (inOrder s) ∧
      (s.records.map (Json.get "id")).Nodup ∧
      ∀ seeds' policies' s', buildCorpus digest seeds' policies' = .ok s' →
        (Json.get "snapshot_id" s.manifest = Json.get "snapshot_id" s'.manifest ↔
          unstamped seeds policies = unstamped seeds' policies')) ↔
      (∀ seed ∈ seeds, seed.isActive = true → ReadableSeed seed) ∧
        ∀ policy ∈ policies, ReadablePolicy policy := by
  obtain ⟨documents, records, hdocuments, hrecords, rfl⟩ := (buildCorpus_eq_ok digest).mp built
  have hworded := worded_computeSnapshotId digest records
  have hdistinct : ((records.map (Record.stamped (computeSnapshotId digest records))).map
      (Json.get "id")).Nodup := by
    have hids :
      (records.map (Record.stamped (computeSnapshotId digest records))).map (Json.get "id") =
        (records.map Record.id).map fun id => some (Json.str id) := by
      rw [List.map_map, List.map_map]
      rfl
    rw [hids]
    exact (unstampedRecords_eq_ok hrecords).1.map fun _ _ heq => Json.str.inj (Option.some.inj heq)
  have hsnapshot : ∀ seeds' policies' s', buildCorpus digest seeds' policies' = .ok s' →
      (Json.get "snapshot_id" (manifestOf (computeSnapshotId digest records) documents records) =
        Json.get "snapshot_id" s'.manifest ↔
          unstamped seeds policies = unstamped seeds' policies') := by
    intro seeds' policies' s' hs'
    obtain ⟨documents', records', hdocuments', hrecords', rfl⟩ := (buildCorpus_eq_ok digest).mp hs'
    have hid :
      ∀ snapshotId documents records,
        Json.get "snapshot_id" (manifestOf snapshotId documents records) =
        some (.str snapshotId) := fun _ _ _ => rfl
    have hmine : unstamped seeds policies = .ok records :=
      bind_eq_ok.mpr ⟨documents, hdocuments, hrecords⟩
    have htheirs : unstamped seeds' policies' = .ok records' :=
      bind_eq_ok.mpr ⟨documents', hdocuments', hrecords'⟩
    rw [hid, hid, Option.some.injEq, Json.str.injEq, computeSnapshotId_inj hdigest, hmine, htheirs,
      Except.ok.injEq]
  rw [loadCorpus_render float reprOther (ne_empty_of_worded hworded),
    checks_iff float reprOther hdocuments hrecords hworded]
  constructor
  · rintro ⟨⟨hreadable, -⟩, -⟩
    exact hreadable
  · intro hreadable
    exact ⟨⟨hreadable, rfl⟩, hdistinct, hsnapshot⟩

def hours (text : {s : String // 1 ≤ s.length}) : PolicyDocument where
  docId := ⟨"POLICY-HOURS", by decide⟩
  title := ⟨"Service hours", by decide⟩
  shortTitle := ⟨"Hours", by decide⟩
  sections := ⟨[⟨⟨"phone", by decide⟩, ⟨"Phone", by decide⟩, text⟩], le_rfl⟩

def starter : CreditProductSeed where
  productCode := ⟨"SECURED_STARTER", by decide⟩
  productName := ⟨"Nova Horizon Secured Starter", by decide⟩
  displayOrder := 5
  tagline := ⟨"Build credit with a deposit-backed card", by decide⟩
  bestFor := ⟨"Establishing or rebuilding credit", by decide⟩
  currencyCode := .usd
  minCreditLimitCents := ⟨20000, by decide⟩
  maxCreditLimitCents := ⟨250000, by decide⟩
  purchaseApr := ⟨2799, false, by decide, by decide⟩
  introPurchaseApr := none
  introPurchaseAprMonths := none
  introBalanceTransferApr := none
  introBalanceTransferAprMonths := none
  balanceTransferFeeRate := ⟨500, false, by decide, by decide⟩
  balanceTransferFeeMinimumMinor := ⟨500, by decide⟩
  cashAdvanceApr := ⟨2999, false, by decide, by decide⟩
  cashAdvanceFeeRate := ⟨500, false, by decide, by decide⟩
  cashAdvanceFeeMinimumMinor := ⟨1000, by decide⟩
  foreignTransactionFeeRate := ⟨300, false, by decide, by decide⟩
  lateFeeMaximumMinor := ⟨2500, by decide⟩
  returnedPaymentFeeMaximumMinor := ⟨2500, by decide⟩
  penaltyApr := none
  annualFeeCents := ⟨0, by decide⟩
  cashbackRate := ⟨100, false, by decide, by decide⟩
  travelMultiplier := ⟨1, le_rfl⟩
  diningMultiplier := ⟨1, le_rfl⟩
  isSecured := true
  features :=
    ⟨[⟨"Credit limit equals your refundable security deposit", by decide⟩,
      ⟨"Reports to all three major credit bureaus monthly", by decide⟩,
      ⟨"Reviewed for an unsecured upgrade after 7 months of on-time payments", by decide⟩,
      ⟨"Free credit score monitoring", by decide⟩], by decide⟩
  isActive := true
  coherentTerms := by decide

def anyDay : PolicyDocument := hours ⟨"Call any day.", by decide⟩

def starterText : Except PyException String := do
  let product ← productDocument starter
  let records ← unstampedRecords [product, policyDocument anyDay]
  return Json.dumps (.arr (records.map Record.json))

/-- The digest of the records of that product and of the policy open all day, and one of its own for
any other text. -/
def hoursDigest (text : String) : String :=
  if starterText.toOption = some text then "d7f1731adc76" else "x" ++ text

theorem hoursDigest_injective : Function.Injective hoursDigest := by
  have hfresh : ∀ text : String, "x" ++ text ≠ "d7f1731adc76" := by
    intro text h
    have hfirst := congrArg (fun s => s.toList.head?) h
    rw [String.toList_append] at hfirst
    exact absurd (Option.some.inj hfirst) (by decide)
  intro a b h
  unfold hoursDigest at h
  split_ifs at h with ha hb hb
  · exact Option.some.inj (ha.symm.trans hb)
  · exact absurd h.symm (hfresh b)
  · exact absurd h (hfresh a)
  · exact (String.append_right_inj _).mp h

theorem length_le_utf8ByteSize (s : String) : s.length ≤ s.utf8ByteSize := by
  have hencode : ∀ l : List Char, l.length ≤ l.utf8Encode.size := by
    intro l
    induction l with
    | nil => exact Nat.zero_le _
    | cons c l ih =>
      have hpos : 0 < (String.utf8EncodeChar c).length :=
        List.length_pos_iff.mpr String.utf8EncodeChar_ne_nil
      rw [List.utf8Encode_cons, ByteArray.size_append, List.utf8Encode_singleton,
        List.size_toByteArray, List.length_cons]
      omega
  have hsize := hencode s.toList
  rwa [String.utf8Encode_toList, String.size_toByteArray, String.length_toList] at hsize

/-- A document whose sections pass the builder's checks has a record for each of them. -/
theorem documentRecords_built {document : Document}
    (distinct : (document.sections.map Section.sectionId).Nodup)
    (named : ∀ s ∈ document.sections, reMatch isSectionId s.sectionId = true)
    (short : ∀ s ∈ document.sections, s.text.length ≤ MAX_SPAN_CHARS)
    (identified : ∀ s ∈ document.sections,
      reMatch isRecordId (document.docId ++ "-" ++ s.sectionId) = true) :
    ∃ records, documentRecords document = .ok records ∧
      records.map Record.id = document.sections.map fun s => document.docId ++ "-" ++ s.sectionId := by
  refine ⟨document.sections.map fun s => ⟨document.docId ++ "-" ++ s.sectionId, document.docId,
    document.kind, document.title, document.shortTitle, s.sectionId, s.heading, s.text,
    document.productCode⟩, bind_eq_ok.mpr ⟨(), require_of distinct, mapM_eq_ok.mpr ?_⟩, ?_⟩
  · rw [List.forall₂_map_right_iff, List.forall₂_same]
    intro s hs
    exact bind_eq_ok.mpr ⟨(), require_of (named s hs), bind_eq_ok.mpr ⟨(), require_of (short s hs),
      bind_eq_ok.mpr ⟨(), require_of (identified s hs), rfl⟩⟩⟩
  · rw [List.map_map]
    rfl

theorem hours_recorded (text : {s : String // 1 ≤ s.length})
    (short : text.val.length ≤ MAX_SPAN_CHARS) :
    ∃ records, documentRecords (policyDocument (hours text)) = .ok records ∧
      records.map Record.id = ["POLICY-HOURS-phone"] := by
  apply documentRecords_built
  · exact List.nodup_singleton _
  · rintro s hs
    obtain rfl := List.mem_singleton.mp hs
    change reMatch isSectionId "phone" = true
    decide
  · rintro s hs
    obtain rfl := List.mem_singleton.mp hs
    exact short
  · rintro s hs
    obtain rfl := List.mem_singleton.mp hs
    change reMatch isRecordId "POLICY-HOURS-phone" = true
    decide

theorem hours_built (text : {s : String // 1 ≤ s.length})
    (short : text.val.length ≤ MAX_SPAN_CHARS) :
    ∃ s, buildCorpus hoursDigest [] [hours text] = .ok s := by
  have hdocuments : corpusDocuments [] [hours text] = .ok [policyDocument (hours text)] := by
    rw [corpusDocuments, activeSeeds, List.filter_nil, List.mergeSort_nil]
    rfl
  obtain ⟨records, hrecorded, hids⟩ := hours_recorded text short
  have hrecords : unstampedRecords [policyDocument (hours text)] = .ok [records].flatten :=
    bind_eq_ok.mpr ⟨[records], mapM_eq_ok.mpr (.cons hrecorded .nil),
      bind_eq_ok.mpr ⟨(), require_of (by
        rw [List.flatten_singleton, hids]
        exact List.nodup_singleton _), rfl⟩⟩
  exact ⟨_, (buildCorpus_eq_ok hoursDigest).mpr ⟨_, _, hdocuments, hrecords, rfl⟩⟩

theorem starter_recorded : ∃ product records, productDocument starter = .ok product ∧
    documentRecords product = .ok records ∧
      (records.map Record.id ++ ["POLICY-HOURS-phone"]).Nodup := by
  have hpresented : (productDocument starter).toOption.isSome = true := by decide +kernel
  rcases ok_or_error (productDocument starter) with ⟨product, hproduct⟩ | ⟨e, he⟩
  · have hproven : ∀ {P : Document → Bool},
        (productDocument starter).toOption.any P = true → P product = true := by
      intro P h
      rwa [hproduct] at h
    have hdistinct := @hproven (fun d => decide (d.sections.map Section.sectionId).Nodup)
      (by decide +kernel)
    have hnamed := @hproven (fun d => d.sections.all fun s => reMatch isSectionId s.sectionId)
      (by decide +kernel)
    have hshort := @hproven (fun d => d.sections.all fun s =>
      decide (s.text.utf8ByteSize ≤ MAX_SPAN_CHARS)) (by decide +kernel)
    have hidentified := @hproven (fun d => d.sections.all fun s =>
      reMatch isRecordId (d.docId ++ "-" ++ s.sectionId)) (by decide +kernel)
    have hfresh := @hproven (fun d => decide ((d.sections.map fun s =>
      d.docId ++ "-" ++ s.sectionId) ++ ["POLICY-HOURS-phone"]).Nodup) (by decide +kernel)
    obtain ⟨records, hrecorded, hids⟩ := documentRecords_built (of_decide_eq_true hdistinct)
      (List.all_eq_true.mp hnamed)
      (fun s hs => (length_le_utf8ByteSize _).trans
        (of_decide_eq_true (List.all_eq_true.mp hshort s hs)))
      (List.all_eq_true.mp hidentified)
    refine ⟨product, records, hproduct, hrecorded, ?_⟩
    rw [hids]
    exact of_decide_eq_true hfresh
  · rw [he] at hpresented
    cases hpresented

theorem starter_built : ∃ s, buildCorpus hoursDigest [starter] [anyDay] = .ok s := by
  have hseeds : activeSeeds [starter] = [starter] := by
    rw [activeSeeds, List.filter_cons_of_pos (by rfl), List.filter_nil, List.mergeSort_singleton]
  obtain ⟨product, records, hproduct, hrecorded, hdistinct⟩ := starter_recorded
  obtain ⟨policy, hpolicy, hid⟩ := hours_recorded ⟨"Call any day.", by decide⟩ (by decide)
  have hdocuments : corpusDocuments [starter] [anyDay] = .ok [product, policyDocument anyDay] := by
    rw [corpusDocuments, hseeds]
    exact bind_eq_ok.mpr ⟨[product], mapM_eq_ok.mpr (.cons hproduct .nil), rfl⟩
  have hrecords : unstampedRecords [product, policyDocument anyDay] =
      .ok [records, policy].flatten :=
    bind_eq_ok.mpr ⟨[records, policy], mapM_eq_ok.mpr (.cons hrecorded (.cons hpolicy .nil)),
      bind_eq_ok.mpr ⟨(), require_of (by
        rw [List.flatten_cons, List.flatten_singleton, List.map_append, hid]
        exact hdistinct), rfl⟩⟩
  exact ⟨_, (buildCorpus_eq_ok hoursDigest).mpr ⟨_, _, hdocuments, hrecords, rfl⟩⟩

theorem hours_round_trip : ∃ s, buildCorpus hoursDigest [starter] [anyDay] = .ok s ∧
    loadCorpus (fun _ => 0) Json.dumps (renderCorpusFiles s) = .ok (inOrder s) := by
  obtain ⟨s, hs⟩ := starter_built
  refine ⟨s, hs, ((round_trip_iff hoursDigest (fun _ => 0) Json.dumps hoursDigest_injective hs).mpr
    ⟨fun seed h _ => ?_, fun policy h => ?_⟩).1⟩
  · obtain rfl := List.mem_singleton.mp h
    decide
  · obtain rfl := List.mem_singleton.mp h
    decide

/-- A section of one space is built and rendered, and then keeps the corpus from loading. -/
theorem blank_section_not_loaded :
    ∃ s, buildCorpus hoursDigest [] [hours ⟨" ", by decide⟩] = .ok s ∧
    ∀ loaded, loadCorpus (fun _ => 0) Json.dumps (renderCorpusFiles s) ≠ .ok loaded := by
  obtain ⟨s, hs⟩ := hours_built ⟨" ", by decide⟩ (by decide)
  refine ⟨s, hs, fun loaded h => ?_⟩
  obtain ⟨documents, records, hdocuments, hrecords, rfl⟩ := (buildCorpus_eq_ok hoursDigest).mp hs
  have hworded := worded_computeSnapshotId hoursDigest records
  have hchecks := ((loadCorpus_render _ _ (ne_empty_of_worded hworded)).mp h).1
  have hreadable := ((checks_iff _ _ hdocuments hrecords hworded).mp hchecks).2 _ List.mem_cons_self
  exact absurd hreadable (by decide)

end CorpusRoundTrips
