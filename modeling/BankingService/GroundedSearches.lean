import BankingService.CorpusRoundTrips
import BankingService.KnowledgeSearch
import BankingService.Library.Runs

/-! Every page of a search is made of stored sections of the shipped snapshot, or there is no page.
A page out of the cache is what the service gave for the same query not long before. -/
namespace GroundedSearches

open BankingService BankingService.KnowledgeCorpus BankingService.KnowledgeSearch
  Checked Python Runs

def HasFields (record : Json) : Prop :=
  ∃ fields struct, record = .obj fields ∧ lookup fields "structData" = some (.obj struct) ∧
    ∀ f ∈ GROUNDED_FIELDS, ∃ value, lookup struct f = some value

def IsSection (record : Json) (s : KnowledgeSnippet) : Prop :=
  ∃ fields struct title, record = .obj fields ∧ lookup fields "id" = some (.str s.citeKey) ∧
    lookup fields "structData" = some (.obj struct) ∧
    lookup struct "doc_id" = some (.str s.docId) ∧
      lookup struct "section_id" = some (.str s.sectionId) ∧
    lookup struct "short_title" = some (.str title) ∧
      lookup struct "snapshot_id" = some (.str s.snapshotId) ∧
    lookup struct "text_span" = some (.str s.textSpan) ∧
    s.citation = formatCitation title s.sectionId s.snapshotId

variable {float : Json.Real → ℚ} {reprOther : Json → String}

theorem getField_eq_ok {value x : Json} {key : String} (h : getField value key = .ok x) :
    ∃ fields, value = .obj fields ∧ x = (lookup fields key).getD .null := by
  unfold getField at h
  split at h
  · next fields => exact ⟨fields, rfl, (Except.ok.inj h).symm⟩
  · cases h

theorem lookup_of_not_blank {struct : List (String × Json)} {field : String}
    (h : blankField reprOther (.obj struct) field = .ok false) :
    ∃ value, lookup struct field = some value := by
  obtain ⟨x, hx, h⟩ := bind_eq_ok.mp h
  obtain rfl := Except.ok.inj hx
  cases hvalue : lookup struct field with
  | some value => exact ⟨value, rfl⟩
  | none =>
    rw [hvalue] at h
    cases h

theorem hasFields_of_checkRecord {snapshotId : String} {record : Json}
    (h : checkRecord float reprOther snapshotId record = .ok ()) : HasFields record := by
  obtain ⟨structData, hstruct, h⟩ := bind_eq_ok.mp h
  obtain ⟨fields, rfl, rfl⟩ := getField_eq_ok hstruct
  obtain ⟨stamp, hstamp, h⟩ := bind_eq_ok.mp h
  obtain ⟨struct, hobj, -⟩ := getField_eq_ok hstamp
  obtain ⟨blanks, hblanks, h⟩ := bind_eq_ok.mp h
  obtain ⟨id, -, h⟩ := bind_eq_ok.mp h
  obtain ⟨_, hrequire, -⟩ := bind_eq_ok.mp h
  obtain ⟨-, hfull⟩ := require_eq_ok.mp hrequire
  have hpresent : ∀ f ∈ GROUNDED_FIELDS, ∃ value, lookup struct f = some value := by
    intro f hf
    obtain ⟨b, hb, hblank⟩ := mem_right_of_forall₂ (mapM_eq_ok.mp hblanks).flip hf
    rw [hobj] at hblank
    cases b with
    | false => exact lookup_of_not_blank hblank
    | true => exact absurd hb hfull
  refine ⟨fields, struct, rfl, ?_, hpresent⟩
  unfold orElse at hobj
  split_ifs at hobj with htruthy
  · cases hvalue : lookup fields "structData" with
    | some value =>
      rw [hvalue, Option.getD_some] at hobj
      rw [hobj]
    | none =>
      rw [hvalue] at hobj
      cases hobj
  · obtain rfl := Json.obj.inj hobj
    obtain ⟨value, hvalue⟩ := hpresent "doc_id" (by decide)
    cases hvalue

theorem hasFields_of_loadCorpus {files : CorpusFiles} {corpus : CorpusSnapshot}
    (h : loadCorpus float reprOther files = .ok corpus) : ∀ r ∈ corpus.records, HasFields r := by
  obtain ⟨manifest, -, h⟩ := bind_eq_ok.mp h
  obtain ⟨version, -, h⟩ := bind_eq_ok.mp h
  obtain ⟨_, -, h⟩ := bind_eq_ok.mp h
  obtain ⟨stamp, -, h⟩ := bind_eq_ok.mp h
  obtain ⟨records, -, h⟩ := bind_eq_ok.mp h
  obtain ⟨count, -, h⟩ := bind_eq_ok.mp h
  obtain ⟨_, -, h⟩ := bind_eq_ok.mp h
  obtain ⟨checks, hchecks, h⟩ := bind_eq_ok.mp h
  obtain rfl := pure_eq_ok.mp h
  intro r hr
  obtain ⟨_, -, hcheck⟩ := mem_right_of_forall₂ (mapM_eq_ok.mp hchecks).flip hr
  exact hasFields_of_checkRecord hcheck

/-- Nothing but what a stored record has under its own id is found. -/
def Genuine (corpus : CorpusSnapshot) (records : Relational.Dict String Json) : Prop :=
  ∀ id record, records.get? id = some record →
    record ∈ corpus.records ∧ item record "id" = .ok (.str id)

theorem genuine_of_new {corpus : CorpusSnapshot} {s : DiscoveryEngineKnowledge}
    (h : DiscoveryEngineKnowledge.new reprOther corpus = .ok s) :
    Genuine corpus s.recordsById ∧ s.cache = [] := by
  obtain ⟨snapshotId, -, h⟩ := bind_eq_ok.mp h
  obtain ⟨records, hrecords, h⟩ := bind_eq_ok.mp h
  obtain rfl := pure_eq_ok.mp h
  refine ⟨?_, rfl⟩
  have hfold : ∀ (l : List Json) (before after : Relational.Dict String Json),
      (∀ r ∈ l, r ∈ corpus.records) → Genuine corpus before →
        l.foldlM addRecord before = .ok after →
        Genuine corpus after := by
    intro l
    induction l with
    | nil =>
      intro before after _ hbefore hafter
      obtain rfl := pure_eq_ok.mp hafter
      exact hbefore
    | cons record l ih =>
      intro before after hmem hbefore hafter
      obtain ⟨next, hnext, hafter⟩ := bind_eq_ok.mp hafter
      refine ih next after (fun r hr => hmem r (List.mem_cons_of_mem _ hr)) ?_ hafter
      obtain ⟨id, hid, hnext⟩ := bind_eq_ok.mp hnext
      split at hnext
      · next id =>
        obtain rfl := pure_eq_ok.mp hnext
        intro id' r hr
        rw [Relational.Dict.get?_set] at hr
        split_ifs at hr with heq
        · obtain rfl := Option.some.inj hr
          exact ⟨hmem _ List.mem_cons_self, heq ▸ hid⟩
        · exact hbefore id' r hr
      · cases hnext
      · cases hnext
      · obtain rfl := pure_eq_ok.mp hnext
        exact hbefore
  exact hfold corpus.records [] records (fun _ h => h) (fun _ _ h => by cases h) hrecords

variable (reprOther)

theorem differs_eq {hit : String → String} {record : Json} (h : HasFields record) :
    ∃ fields struct, record = .obj fields ∧ lookup fields "structData" = some (.obj struct) ∧
      ∀ fs, (∀ f ∈ fs, f ∈ GROUNDED_FIELDS) → ∃ b, differs hit record fs = .ok b ∧
        (b = false → ∀ f ∈ fs, lookup struct f = some (.str (hit f))) := by
  obtain ⟨fields, struct, rfl, hstruct, hpresent⟩ := h
  have hitem : item (.obj fields) "structData" = .ok (.obj struct) := by rw [item, hstruct]; rfl
  refine ⟨fields, struct, rfl, hstruct, fun fs => ?_⟩
  induction fs with
  | nil => exact fun _ => ⟨false, rfl, fun _ f hf => absurd hf List.not_mem_nil⟩
  | cons f fs ih =>
    intro hgrounded
    obtain ⟨value, hvalue⟩ := hpresent f (hgrounded f List.mem_cons_self)
    obtain ⟨b, hb, hsame⟩ := ih fun g hg => hgrounded g (List.mem_cons_of_mem _ hg)
    have hfield : item (.obj struct) f = .ok value := by rw [item, hvalue]; rfl
    rw [differs, hitem, ok_bind, hfield, ok_bind]
    split
    · next s =>
      by_cases hs : hit f = s
      · rw [if_pos hs]
        refine ⟨b, hb, fun hfalse => ?_⟩
        rw [List.forall_mem_cons]
        exact ⟨hs ▸ hvalue, hsame hfalse⟩
      · rw [if_neg hs]
        exact ⟨true, rfl, fun h => by cases h⟩
    · exact ⟨true, rfl, fun h => by cases h⟩

theorem groundedSnippet_cases {corpus : CorpusSnapshot} {records : Relational.Dict String Json}
    (hfields : ∀ r ∈ corpus.records, HasFields r) (genuine : Genuine corpus records)
    (docId : String)
    (structData : Json) :
    (∃ message,
      groundedSnippet reprOther (.str docId) structData records = .error (.unavailable message)) ∨
      ∃ s, groundedSnippet reprOther (.str docId) structData records = .ok s ∧ s.citeKey = docId ∧
        ∃ record ∈ corpus.records, IsSection record s := by
  unfold groundedSnippet
  split
  · next fields =>
    by_cases hmissing : (GROUNDED_FIELDS.filter fun f => textField fields f = none) = []
    · rw [if_neg (not_not.mpr hmissing), CorpusRoundTrips.strOf_orElse]
      dsimp only
      split
      · exact Or.inl ⟨_, rfl⟩
      · next record hrecord =>
        obtain ⟨hmem, hid⟩ := genuine _ _ hrecord
        obtain ⟨fields', struct, rfl, hstruct, hdiffers⟩ :=
          @differs_eq (fun f => (textField fields f).getD "") record (hfields record hmem)
        obtain ⟨b, hb, hsame⟩ := hdiffers GROUNDED_FIELDS fun _ h => h
        rw [hb, ok_bind]
        cases b with
        | true => exact Or.inl ⟨_, rfl⟩
        | false =>
          have hequal := hsame rfl
          have hlookup : lookup fields' "id" = some (.str docId) := orRaise_eq_ok.mp hid
          refine Or.inr
            ⟨_, rfl, rfl, _, hmem, fields', struct, (textField fields "short_title").getD "", rfl,
            hlookup, hstruct, ?_⟩
          exact ⟨hequal _ (by decide), hequal _ (by decide), hequal _ (by decide),
            hequal _ (by decide),
            hequal _ (by decide), rfl⟩
    · rw [if_pos hmissing]
      exact Or.inl ⟨_, rfl⟩
  · exact Or.inl ⟨_, rfl⟩

def resultIds (results : List ServiceResult) : List String :=
  results.filterMap fun r => r.document.map (documentId reprOther)

/-- The snippets are those of the results, each id once, in the order of the results. -/
structure PageOf (corpus : CorpusSnapshot) (results : List ServiceResult) (seen : List String)
    (snippets : List KnowledgeSnippet) : Prop where
  order : snippets.map KnowledgeSnippet.citeKey =
    ((resultIds reprOther results).filter fun id => id ∉ seen).eraseDups
  stored : ∀ s ∈ snippets, ∃ record ∈ corpus.records, IsSection record s

theorem groundedSnippets_cases {corpus : CorpusSnapshot} {records : Relational.Dict String Json}
    (hfields : ∀ r ∈ corpus.records, HasFields r) (genuine : Genuine corpus records)
    (results : List ServiceResult) (seen : List String) :
    (∃ message, groundedSnippets reprOther records results seen = .error (.unavailable message)) ∨
      ∃ snippets, groundedSnippets reprOther records results seen = .ok snippets ∧
        PageOf reprOther corpus results seen snippets := by
  induction results generalizing seen with
  | nil => exact Or.inr ⟨[], rfl, rfl, fun _ h => absurd h List.not_mem_nil⟩
  | cons result rest ih =>
    unfold groundedSnippets
    cases hdocument : result.document with
    | none => exact Or.inl ⟨_, rfl⟩
    | some document =>
      dsimp only
      have hids : resultIds reprOther (result :: rest) =
          documentId reprOther document :: resultIds reprOther rest := by
        simp [resultIds, hdocument]
      by_cases hseen : documentId reprOther document ∈ seen
      · rw [if_pos hseen]
        refine (ih seen).imp_right ?_
        rintro ⟨snippets, hok, hpage⟩
        refine ⟨snippets, hok, ?_, hpage.stored⟩
        rw [hids, List.filter_cons, if_neg (by simpa using hseen)]
        exact hpage.order
      · rw [if_neg hseen]
        rcases groundedSnippet_cases reprOther hfields genuine
          (documentId reprOther document) document.structData with ⟨m, hm⟩ | ⟨s, hs, hkey, hstored⟩
        · rw [hm]
          exact Or.inl ⟨_, rfl⟩
        · rw [hs, ok_bind]
          rcases ih (documentId reprOther document :: seen) with ⟨m, hm⟩ | ⟨snippets, hok, hpage⟩
          · rw [hm]
            exact Or.inl ⟨_, rfl⟩
          · rw [hok, ok_bind]
            refine Or.inr ⟨_, rfl, ?_, List.forall_mem_cons.mpr ⟨hstored, hpage.stored⟩⟩
            rw [List.map_cons, hkey, hpage.order, hids, List.filter_cons,
              if_pos (by simpa using hseen),
              List.eraseDups_cons, List.filter_filter]
            congr 2
            refine List.filter_congr fun id _ => ?_
            simp [not_or, beq_eq_decide]

theorem eraseDups_nodup {α : Type} [DecidableEq α] (l : List α) :
    l.eraseDups.Nodup ∧ l.eraseDups.Sublist l := by
  induction hn : l.length using Nat.strong_induction_on generalizing l with
  | _ n ih =>
    cases l with
    | nil => exact ⟨List.nodup_nil, .slnil⟩
    | cons a l =>
      rw [List.eraseDups_cons]
      have hlt : (l.filter fun b => !b == a).length < n := by
        rw [← hn]
        exact Nat.lt_succ_of_le (List.length_filter_le _ _)
      obtain ⟨hnodup, hsublist⟩ := ih _ hlt _ rfl
      refine ⟨List.nodup_cons.mpr ⟨?_, hnodup⟩, (hsublist.trans List.filter_sublist).cons_cons a⟩
      rw [List.mem_eraseDups]
      simp

/-- At most the clamped number of snippets, each of its own, stored section. -/
structure Grounded (corpus : CorpusSnapshot) (pageSize : ℤ)
    (snippets : List KnowledgeSnippet) : Prop where
  size : (snippets.length : ℤ) ≤ clamp pageSize
  distinct : (snippets.map KnowledgeSnippet.citeKey).Nodup
  stored : ∀ s ∈ snippets, ∃ record ∈ corpus.records, IsSection record s

def Gave (reprOther : Json → String) (c : Search) (snippets : List KnowledgeSnippet) : Prop :=
  ∃ results, c.answer = .results results ∧ snippets.map KnowledgeSnippet.citeKey =
    (resultIds reprOther (results.take (clamp c.pageSize).toNat)).eraseDups

theorem page_cases {corpus : CorpusSnapshot} {s : DiscoveryEngineKnowledge}
    (hfields : ∀ r ∈ corpus.records, HasFields r) (genuine : Genuine corpus s.recordsById)
    (c : Search) :
    (∃ message, page reprOther s c = .error (.unavailable message)) ∨
      ∃ snippets, page reprOther s c = .ok snippets ∧ Gave reprOther c snippets ∧
        Grounded corpus c.pageSize snippets := by
  unfold page
  cases hanswer : c.answer with
  | failed errorName => exact Or.inl ⟨_, rfl⟩
  | results found =>
    rw [results, ok_bind]
    refine (groundedSnippets_cases reprOther hfields genuine _ []).imp_right ?_
    rintro ⟨snippets, hok, hpage⟩
    have horder := hpage.order
    rw [List.filter_eq_self.mpr (by simp)] at horder
    refine ⟨snippets, hok, ⟨found, hanswer, horder⟩, ?_, ?_, hpage.stored⟩
    · have hclamp : 0 ≤ clamp c.pageSize := by
        unfold clamp
        omega
      have hlength := congrArg List.length horder
      have hsublist := (eraseDups_nodup (resultIds reprOther
        (found.take (clamp c.pageSize).toNat))).2.length_le
      have hfound : (resultIds reprOther (found.take (clamp c.pageSize).toNat)).length ≤
          (clamp c.pageSize).toNat :=
        (List.length_filterMap_le _ _).trans (List.length_take_le _ _)
      rw [List.length_map] at hlength
      omega
    · rw [horder]
      exact (eraseDups_nodup _).1

theorem fresh_of_round {now storedAt : ℚ} (h : ¬ CACHE_TTL_S ≤ Binary64.round (now - storedAt)) :
    now - storedAt < CACHE_TTL_S := by
  by_contra hold
  have hdouble : Binary64.IsDouble CACHE_TTL_S := by decide +kernel
  exact h (Binary64.le_round (by decide +kernel) hdouble (not_lt.mp hold))

/-- What differs between two states is that the second remembers less. -/
structure Forgets (s s' : DiscoveryEngineKnowledge) : Prop where
  snapshotId : s'.snapshotId = s.snapshotId
  recordsById : s'.recordsById = s.recordsById
  length : s'.cache.length ≤ s.cache.length
  entries : ∀ x ∈ s'.cache, x ∈ s.cache

theorem cached_cases (s : DiscoveryEngineKnowledge) (key : Key) (now : ℚ) :
    (∃ storedAt snippets, (key, storedAt, snippets) ∈ s.cache ∧ now - storedAt < CACHE_TTL_S ∧
      cached s key now = (some snippets, s)) ∨ ∃ s', Forgets s s' ∧
        cached s key now = (none, s') := by
  unfold cached
  cases hget : s.cache.get? key with
  | none => exact Or.inr ⟨s, ⟨rfl, rfl, le_rfl, fun _ h => h⟩, rfl⟩
  | some entry =>
    obtain ⟨storedAt, snippets⟩ := entry
    dsimp only
    split_ifs with hold
    · refine Or.inr ⟨{ s with
        cache := s.cache.remove key }, ⟨rfl, rfl, ?_, ?_⟩, rfl⟩
      · exact Relational.Dict.length_remove_le
      · exact fun _ => Relational.Dict.mem_of_mem_remove
    · exact Or.inl ⟨storedAt, snippets, Relational.Dict.mem_of_get? hget, fresh_of_round hold, rfl⟩

/-- A search answers from the cache, or is unavailable and remembers nothing, or answers what the
service gave and remembers that. -/
theorem search_cases {corpus : CorpusSnapshot} {s : DiscoveryEngineKnowledge}
    (hfields : ∀ r ∈ corpus.records, HasFields r) (genuine : Genuine corpus s.recordsById)
    (c : Search) :
    (∃ storedAt snippets, (keyOf s c, storedAt, snippets) ∈ s.cache ∧
      c.lookedUpAt - storedAt < CACHE_TTL_S ∧
      search reprOther s c = (.ok ⟨snippets, s.snapshotId, true⟩, s)) ∨
    ∃ s', Forgets s s' ∧ ((∃ message, search reprOther s c = (.error (.unavailable message), s')) ∨
      ∃ snippets, Gave reprOther c snippets ∧ Grounded corpus c.pageSize snippets ∧
        search reprOther s c =
          (.ok ⟨snippets, s.snapshotId, false⟩, store s' (keyOf s c) c.storedAt snippets)) := by
  unfold search
  rcases cached_cases s (keyOf s c) c.lookedUpAt with
    ⟨storedAt, snippets, hmem, hfresh, hcached⟩ | ⟨s', hforgets, hcached⟩
  · rw [hcached]
    exact Or.inl ⟨storedAt, snippets, hmem, hfresh, rfl⟩
  · rw [hcached]
    dsimp only
    refine Or.inr ⟨s', hforgets, ?_⟩
    have hgenuine : Genuine corpus s'.recordsById := by
      rw [hforgets.recordsById]
      exact genuine
    rcases page_cases reprOther hfields hgenuine c with ⟨message, hpage⟩ |
      ⟨snippets, hpage, hgave, hgrounded⟩
    · rw [hpage]
      exact Or.inl ⟨message, rfl⟩
    · rw [hpage]
      refine Or.inr ⟨snippets, hgave, hgrounded, ?_⟩
      rw [hforgets.snapshotId, keyOf, keyOf, hforgets.snapshotId]

variable {reprOther}

def searching (reprOther : Json → String) : Machine DiscoveryEngineKnowledge Search :=
  ⟨fun _ _ => True, fun s c => (search reprOther s c).2⟩

/-- The clock never goes back. -/
def Ticking (calls : List Search) : Prop :=
  (calls.flatMap fun c => [c.lookedUpAt, c.storedAt]).Pairwise (· ≤ ·)

instance (calls : List Search) : Decidable (Ticking calls) :=
  inferInstanceAs (Decidable (List.Pairwise _ _))

structure Earlier (reprOther : Json → String) (corpus : CorpusSnapshot)
    (start : DiscoveryEngineKnowledge)
    (calls : List Search) (key : Key) (storedAt : ℚ) (snippets : List KnowledgeSnippet)
    (before : List Search) (e : Search) : Prop where
  among : ∃ after, calls = before ++ e :: after
  same : keyOf start e = key
  time : e.storedAt = storedAt
  answered : (search reprOther ((searching reprOther).final start before) e).1 =
    .ok ⟨snippets, start.snapshotId, false⟩
  gave : Gave reprOther e snippets
  grounded : Grounded corpus e.pageSize snippets

structure Remembers (reprOther : Json → String) (corpus : CorpusSnapshot)
    (start : DiscoveryEngineKnowledge)
    (calls : List Search) (s : DiscoveryEngineKnowledge) : Prop where
  reached : s = (searching reprOther).final start calls
  snapshotId : s.snapshotId = start.snapshotId
  recordsById : s.recordsById = start.recordsById
  bounded : s.cache.length ≤ CACHE_MAX_ENTRIES
  earlier : ∀ key storedAt snippets, (key, storedAt, snippets) ∈ s.cache →
    ∃ before e, Earlier reprOther corpus start calls key storedAt snippets before e

theorem Earlier.later {corpus : CorpusSnapshot} {start : DiscoveryEngineKnowledge}
    {calls : List Search}
    {key : Key} {storedAt : ℚ} {snippets : List KnowledgeSnippet}
    {before : List Search} {e : Search}
    (h : Earlier reprOther corpus start calls key storedAt snippets before e) (c : Search) :
    Earlier reprOther corpus start (calls ++ [c]) key storedAt snippets before e := by
  obtain ⟨after, hafter⟩ := h.among
  exact ⟨⟨after ++ [c], by rw [hafter, List.append_assoc, List.cons_append]⟩, h.same,
    h.time, h.answered,
    h.gave, h.grounded⟩

theorem remembers_next {corpus : CorpusSnapshot} {start s : DiscoveryEngineKnowledge}
    {calls : List Search}
    (hfields : ∀ r ∈ corpus.records, HasFields r) (genuine : Genuine corpus start.recordsById)
    (h : Remembers reprOther corpus start calls s) (c : Search) :
    Remembers reprOther corpus start (calls ++ [c]) ((searching reprOther).next s c) := by
  have hreached :
    (searching reprOther).next s c = (searching reprOther).final start (calls ++ [c]) := by
    rw [Machine.final_append, ← h.reached]
    rfl
  have hgenuine : Genuine corpus s.recordsById := by
    rw [h.recordsById]
    exact genuine
  have hkey : keyOf s c = keyOf start c := by rw [keyOf, keyOf, h.snapshotId]
  have hkept : ∀ key storedAt snippets, (key, storedAt, snippets) ∈ s.cache →
      ∃ before e, Earlier reprOther corpus start (calls ++ [c]) key storedAt snippets before e := by
    intro key storedAt snippets hmem
    obtain ⟨before, e, hearlier⟩ := h.earlier key storedAt snippets hmem
    exact ⟨before, e, hearlier.later c⟩
  rcases search_cases reprOther hfields hgenuine c with
    ⟨storedAt, snippets, -, -, hsearch⟩ |
    ⟨s', hforgets, ⟨message, hsearch⟩ | ⟨snippets, hgave, hgrounded, hsearch⟩⟩
  · have hnext : (searching reprOther).next s c = s := congrArg Prod.snd hsearch
    refine ⟨hreached, ?_, ?_, ?_, ?_⟩ <;> rw [hnext]
    · exact h.snapshotId
    · exact h.recordsById
    · exact h.bounded
    · exact hkept
  · have hnext : (searching reprOther).next s c = s' := congrArg Prod.snd hsearch
    refine ⟨hreached, ?_, ?_, ?_, ?_⟩
    · rw [hnext, hforgets.snapshotId, h.snapshotId]
    · rw [hnext, hforgets.recordsById, h.recordsById]
    · rw [hnext]
      exact hforgets.length.trans h.bounded
    · intro key storedAt snippets hmem
      rw [hnext] at hmem
      exact hkept _ _ _ (hforgets.entries _ hmem)
  · have hnext : (searching reprOther).next s c = store s' (keyOf s c) c.storedAt snippets :=
      congrArg Prod.snd hsearch
    refine ⟨hreached, ?_, ?_, ?_, ?_⟩
    · rw [hnext, store_snapshotId, hforgets.snapshotId, h.snapshotId]
    · rw [hnext, store_recordsById, hforgets.recordsById, h.recordsById]
    · rw [hnext, store_cache]
      exact Relational.Dict.length_push_le
    · intro key storedAt found hmem
      rw [hnext, store_cache] at hmem
      rcases Relational.Dict.mem_push hmem with hnew | hold
      · cases hnew
        refine ⟨calls, c, ⟨[], rfl⟩, hkey.symm, rfl, ?_, hgave, hgrounded⟩
        rw [← h.reached, hsearch, h.snapshotId]
      · exact hkept _ _ _ (hforgets.entries _ hold)

theorem remembers_final {corpus : CorpusSnapshot} {start : DiscoveryEngineKnowledge}
    (hfields : ∀ r ∈ corpus.records, HasFields r) (genuine : Genuine corpus start.recordsById)
    (empty : start.cache = []) (calls : List Search) :
    Remembers reprOther corpus start calls ((searching reprOther).final start calls) := by
  refine history_of_each (C := fun _ _ => True) ⟨rfl, rfl, rfl, ?_, ?_⟩
    (fun calls s c h _ => remembers_next hfields genuine h c)
      (each_of_forall (fun _ _ => trivial) start)
  · rw [empty]
    exact Nat.zero_le _
  · rw [empty]
    exact fun _ _ _ h => absurd h List.not_mem_nil

theorem Ticking.storedAt_le {before after : List Search} {e c : Search}
    (clock : Ticking (before ++ e :: after ++ [c])) : e.storedAt ≤ c.lookedUpAt := by
  unfold Ticking at clock
  rw [List.flatMap_append, List.pairwise_append] at clock
  refine clock.2.2 e.storedAt ?_ c.lookedUpAt ?_
  · refine List.mem_flatMap.mpr ⟨e, List.mem_append_right _ List.mem_cons_self, ?_⟩
    exact List.mem_cons_of_mem _ List.mem_cons_self
  · exact List.mem_flatMap.mpr ⟨c, List.mem_singleton_self c, List.mem_cons_self⟩

theorem keyOf_eq {s : DiscoveryEngineKnowledge} {e c : Search} (h : keyOf s e = keyOf s c) :
    strip e.query = strip c.query ∧ clamp e.pageSize = clamp c.pageSize := by
  obtain ⟨hquery, hrest⟩ := Prod.mk.inj h
  exact ⟨hquery, (Prod.mk.inj hrest).1⟩

/-- The page is what the service gave to an earlier search for the same, less than the time to live
before. -/
def FromEarlier (reprOther : Json → String) (start : DiscoveryEngineKnowledge) (calls : List Search)
    (c : Search) (snippets : List KnowledgeSnippet) : Prop :=
  ∃ before e after, calls = before ++ e :: after ∧ strip e.query = strip c.query ∧
    clamp e.pageSize = clamp c.pageSize ∧ Gave reprOther e snippets ∧
    (search reprOther ((searching reprOther).final start before) e).1 =
      .ok ⟨snippets, start.snapshotId, false⟩ ∧
    e.storedAt ≤ c.lookedUpAt ∧ c.lookedUpAt - e.storedAt < CACHE_TTL_S

/-- What a search gives and leaves behind. -/
def Sound (reprOther : Json → String) (corpus : CorpusSnapshot) (start s : DiscoveryEngineKnowledge)
    (calls : List Search) (c : Search) : Except SearchException SearchHits → Prop
  | .error e => (∃ message, e = .unavailable message) ∧
    ∀ x ∈ (search reprOther s c).2.cache, x ∈ s.cache
  | .ok hits => Grounded corpus c.pageSize hits.snippets ∧
      if hits.cacheHit then FromEarlier reprOther start calls c hits.snippets
      else Gave reprOther c hits.snippets

/-- After any searches, the next one is unavailable and adds nothing to the cache, or gives stored
sections; the cache stays bounded. -/
theorem searches_grounded {files : CorpusFiles} {corpus : CorpusSnapshot}
    {start : DiscoveryEngineKnowledge}
    (loaded : loadCorpus float reprOther files = .ok corpus)
    (opened : DiscoveryEngineKnowledge.new reprOther corpus = .ok start)
    (calls : List Search) (c : Search)
    (clock : Ticking (calls ++ [c])) :
    let s := (searching reprOther).final start calls
    s.cache.length ≤ CACHE_MAX_ENTRIES ∧ (search reprOther s c).2.cache.length ≤ CACHE_MAX_ENTRIES ∧
      Sound reprOther corpus start s calls c (search reprOther s c).1 := by
  intro s
  have hfields := hasFields_of_loadCorpus loaded
  obtain ⟨genuine, empty⟩ := genuine_of_new opened
  have hs : Remembers reprOther corpus start calls s := remembers_final hfields genuine empty calls
  have hnext := remembers_next hfields genuine hs c
  have hgenuine : Genuine corpus s.recordsById := by
    rw [hs.recordsById]
    exact genuine
  refine ⟨hs.bounded, hnext.bounded, ?_⟩
  rcases search_cases reprOther hfields hgenuine c with
    ⟨storedAt, snippets, hmem, hfresh, hsearch⟩ |
    ⟨s', hforgets, ⟨message, hsearch⟩ | ⟨snippets, hgave, hgrounded, hsearch⟩⟩
  · obtain ⟨before, e, hearlier⟩ := hs.earlier _ _ _ hmem
    obtain ⟨after, rfl⟩ := hearlier.among
    have hkey : keyOf start e = keyOf start c := by
      rw [hearlier.same, keyOf, keyOf, hs.snapshotId]
    obtain ⟨hquery, hsize⟩ := keyOf_eq hkey
    obtain rfl := hearlier.time
    rw [hsearch]
    refine ⟨⟨?_, hearlier.grounded.distinct, hearlier.grounded.stored⟩, ?_⟩
    · rw [← hsize]
      exact hearlier.grounded.size
    · exact ⟨before, e, after, rfl, hquery, hsize, hearlier.gave, hearlier.answered,
        clock.storedAt_le,
        hfresh⟩
  · have hstate : (search reprOther s c).2 = s' := congrArg Prod.snd hsearch
    rw [hsearch]
    refine ⟨⟨message, rfl⟩, ?_⟩
    rw [hstate]
    exact hforgets.entries
  · rw [hsearch]
    exact ⟨hgrounded, hgave⟩

/-- A section that is searched for twice, a minute apart. -/
def phoneRecord : Record where
  id := "POLICY-HOURS-phone"
  docId := "POLICY-HOURS"
  kind := "POLICY"
  title := "Service hours"
  shortTitle := "Hours"
  sectionId := "phone"
  heading := "Phone"
  textSpan := "Call any day."
  productCode := none

def phoneSnapshot : CorpusSnapshot :=
  ⟨manifestOf "v1" [] [phoneRecord], [phoneRecord].map (Record.stamped "v1")⟩

theorem phoneSnapshot_loaded :
    loadCorpus (fun _ => 0) Json.dumps (renderCorpusFiles phoneSnapshot) =
    .ok (CorpusRoundTrips.inOrder phoneSnapshot) := by
  refine (CorpusRoundTrips.loadCorpus_render _ _ (by decide)).mpr ⟨fun r hr => ?_, rfl⟩
  obtain rfl := List.mem_singleton.mp hr
  rfl

def phoneService : DiscoveryEngineKnowledge where
  snapshotId := "v1"
  recordsById := [("POLICY-HOURS-phone", (phoneRecord.stamped "v1").sorted)]
  cache := []

def phoneSearch (query : String) (time : ℚ) : Search :=
  let result : ServiceResult :=
    ⟨some ⟨.str "POLICY-HOURS-phone", .obj [("doc_id", .str "POLICY-HOURS"),
    ("section_id", .str "phone"), ("short_title", .str "Hours"), ("snapshot_id", .str "v1"),
    ("text_span", .str "Call any day.")]⟩⟩
  ⟨query, 3, .results [result, result], time, time⟩

def phoneSnippet : KnowledgeSnippet where
  citeKey := "POLICY-HOURS-phone"
  snapshotId := "v1"
  docId := "POLICY-HOURS"
  sectionId := "phone"
  citation := "Hours §phone (snapshot v1)"
  textSpan := "Call any day."

theorem phone_found_again :
    let s := (searching Json.dumps).final phoneService [phoneSearch "phone" 1]
    let c := phoneSearch " phone " 61
    (search Json.dumps s c).1 = .ok ⟨[phoneSnippet], "v1", true⟩ ∧
      s.cache.length ≤ CACHE_MAX_ENTRIES ∧
        (search Json.dumps s c).2.cache.length ≤ CACHE_MAX_ENTRIES ∧
      Sound Json.dumps (CorpusRoundTrips.inOrder phoneSnapshot) phoneService s
        [phoneSearch "phone" 1] c
        (search Json.dumps s c).1 :=
  ⟨by decide +kernel, searches_grounded phoneSnapshot_loaded rfl [phoneSearch "phone" 1]
    (phoneSearch " phone " 61) (by decide +kernel)⟩

end GroundedSearches
