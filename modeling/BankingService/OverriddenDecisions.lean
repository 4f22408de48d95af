import BankingService.Underwriting

/-! Loan officers who override the same exception. The version that a request compares is the one
it loaded, so what it writes is right as long as nobody commits in between. -/
namespace OverriddenDecisions

open BankingService BankingService.Underwriting Python Relational Checked Runs ReadCommitted

abbrev Artifacts := Table ApplicationArtifact

abbrev OverrideWorld :=
  World ℕ Artifacts (fun _ : OverrideRequest => OverrideSeen) String Underwriting.Reply

abbrev OverrideEvent := Event ℕ OverrideRequest

abbrev overriding : Machine OverrideWorld OverrideEvent := machine overrides fun _ => True

def docFields (a : ApplicationArtifact) : Json :=
  match a.extractionPayload.loads with
  | .ok document => (document.get a.docTypeKey).getD (.obj [])
  | .error _ => .obj []

def field (a : ApplicationArtifact) (name : String) : Option Json := (docFields a).get name

def decisions (a : ApplicationArtifact) : List Json :=
  match a.auditMetadata.loads with
  | .ok document => listedOverrides document
  | .error _ => []

variable {a : ApplicationArtifact} {r : OverrideRequest} {columns : Columns}

theorem get_correct {document document' : Json} {corrections : List (String × String)}
    (h : correct document corrections = .ok document') {name : String}
    (hname : name ∉ corrections.map Prod.fst) : document'.get name = document.get name := by
  induction corrections generalizing document with
  | nil =>
    cases h
    rfl
  | cons c corrections ih =>
    simp only [correct, List.foldlM_cons, bind_eq_ok] at h
    obtain ⟨d, hd, h⟩ := h
    rw [List.map_cons, List.mem_cons, not_or] at hname
    rw [ih h hname.2, get_setItem hd, if_neg hname.1]

theorem get_corrected {document document' : Json} {corrections : List (String × String)}
    (distinct : (corrections.map Prod.fst).Nodup) (h : correct document corrections = .ok document')
    {name text : String} (hc : (name, text) ∈ corrections) :
    document'.get name = some (correctedField text) := by
  induction corrections generalizing document with
  | nil => cases hc
  | cons c corrections ih =>
    simp only [correct, List.foldlM_cons, bind_eq_ok] at h
    obtain ⟨d, hd, h⟩ := h
    rw [List.map_cons, List.nodup_cons] at distinct
    rcases List.mem_cons.mp hc with rfl | hc
    · rw [get_correct h distinct.1, get_setItem hd, if_pos rfl]
    · exact ih distinct.2 h hc

/-- Everything an override needs and does. -/
structure Overrides (a : ApplicationArtifact) (r : OverrideRequest) (columns : Columns) : Prop where
  version : VersionMatches r.expectedVersionId a.versionId
  newVersion : columns.versionId = r.newVersionId.str
  corrected : correct (docFields a) r.correctedPayload = .ok (docFields (columns.write a))
  recorded : decisions (columns.write a) = decisions a ++ [underwritingTrace r]

theorem overrides_of_ok (h : override a r = .ok columns) : Overrides a r columns := by
  simp only [override, bind_eq_ok, require_eq_ok, pure_eq_ok] at h
  obtain ⟨-, -, -, hversion, payload, hpayload, audit, haudit, h⟩ := h
  cases h
  refine ⟨hversion, rfl, ?_, ?_⟩
  · simp only [updatedPayload, bind_eq_ok] at hpayload
    obtain ⟨original, hloads, hpayload⟩ := hpayload
    cases original with
    | obj fields =>
      simp only [bind_eq_ok, pure_eq_ok] at hpayload
      obtain ⟨corrected, hcorrect, rfl⟩ := hpayload
      have hbefore : docFields a = (Json.get a.docTypeKey (.obj fields)).getD (.obj []) := by
        rw [docFields, hloads]
      have hafter : docFields (Columns.write ⟨r.decision.targetStatus,
          .obj [(a.docTypeKey, corrected)], audit, r.newVersionId.str⟩ a) = corrected := by
        simp [docFields, Columns.write, TextColumn.loads, Json.get, ApplicationArtifact.docTypeKey]
      rw [hbefore, hafter]
      exact hcorrect
    | _ => cases hpayload
  · simp only [updatedAudit, bind_eq_ok] at haudit
    obtain ⟨original, hloads, haudit⟩ := haudit
    have hbefore : decisions a = listedOverrides original := by
      rw [decisions, hloads]
    rw [hbefore]
    simp only [decisions, Columns.write, TextColumn.loads, listedOverrides, get_setItem haudit,
      if_true]

theorem Overrides.field_kept (h : Overrides a r columns) {name : String}
    (hname : name ∉ r.correctedPayload.map Prod.fst) :
    field (columns.write a) name = field a name := get_correct h.corrected hname

theorem Overrides.field_corrected (h : Overrides a r columns) {name text : String}
    (hc : (name, text) ∈ r.correctedPayload) :
    field (columns.write a) name = some (correctedField text) :=
  get_corrected r.distinct h.corrected hc

/-- A successful override commits on the artifact as it was loaded. -/
def StillCurrent (db : Artifacts) : Session (fun _ : OverrideRequest => OverrideSeen) → Prop
  | ⟨r, .loaded (some a)⟩ => (∃ columns, override a r = .ok columns) → db.get? r.artifactId = some a
  | _ => True

def Succeeded (x : OverrideRequest × Underwriting.Reply) : Prop := x.2 = .ok ()

instance : DecidablePred Succeeded := fun _ => inferInstanceAs (Decidable (_ = _))

/-- `uuid4` makes a version that nobody has asked for yet. -/
def VersionFresh (w : OverrideWorld) (e : OverrideEvent) : Prop :=
  RunsUnder overrides (fun _ s =>
    s.request.expectedVersionId ≠ some s.request.newVersionId.str ∧
      ∀ x ∈ w.answers, x.1.expectedVersionId ≠ some s.request.newVersionId.str) w e

instance (w : OverrideWorld) (e : OverrideEvent) : Decidable (VersionFresh w e) := by
  unfold VersionFresh
  infer_instance

/-- What a step does to the artifacts and the answers: nothing, a refusal, or one override. -/
inductive Change (w w' : OverrideWorld) : Prop where
  | same (db : w'.db = w.db) (answers : w'.answers = w.answers)
  | refused (r : OverrideRequest) (e : OverrideError) (db : w'.db = w.db)
      (answers : w'.answers = w.answers ++ [(r, .error e)])
  | applied (r : OverrideRequest) (a : ApplicationArtifact) (columns : Columns)
      (stored : w.db.get? r.artifactId = some a) (done : Overrides a r columns)
      (fresh : r.expectedVersionId ≠ some r.newVersionId.str ∧
        ∀ x ∈ w.answers, x.1.expectedVersionId ≠ some r.newVersionId.str)
      (row : w'.db.get? r.artifactId = some (columns.write a))
      (others : ∀ id, id ≠ r.artifactId → w'.db.get? id = w.db.get? id)
      (answers : w'.answers = w.answers ++ [(r, .ok ())])

theorem change_of_step {w : OverrideWorld} {e : OverrideEvent}
    (he : Enabled overrides (fun _ => True) w e) (fresh : VersionFresh w e)
    (current : RunsUnder overrides StillCurrent w e) : Change w (next overrides w e) := by
  obtain ⟨i, r, -, -, -, h⟩ | ⟨i, s, -, -, h⟩ | ⟨i, s, -, -, -, h⟩ | ⟨i, s, k, -, -, -, -, h⟩ |
    ⟨i, s, db', answer, hi, hs, hb, h⟩ | ⟨i, s, db', t, -, hs, hb, -⟩ := step_cases he
  · rw [h]
    exact .same rfl rfl
  · rw [h]
    exact .same rfl rfl
  · rw [h]
    exact .same rfl rfl
  · rw [h]
    exact .same rfl rfl
  · rw [h]
    have hfresh := fresh i s hi hs
    have hcurrent := current i s hi hs
    obtain ⟨r, seen⟩ := s
    cases seen with
    | start =>
      cases hb
      exact .refused r _ rfl rfl
    | loaded artifact =>
      cases artifact with
      | none =>
        cases hb
        exact .refused r _ rfl rfl
      | some a =>
        cases hok : override a r with
        | error err =>
          simp only [overrides, hok] at hb
          cases hb
          exact .refused r err rfl rfl
        | ok columns =>
          simp only [overrides, hok] at hb
          cases hb
          have hstored : w.db.get? r.artifactId = some a := hcurrent ⟨columns, hok⟩
          exact .applied r a columns hstored (overrides_of_ok hok) hfresh
            (Table.get?_update_self columns.write hstored)
            (fun id hne => Table.get?_update_of_ne columns.write hne) rfl
  · obtain ⟨r, seen⟩ := s
    cases seen with
    | start => cases hb
    | loaded artifact =>
      cases artifact with
      | none => cases hb
      | some a =>
        simp only [overrides] at hb
        split at hb <;> cases hb

def winners (w : OverrideWorld) (id v : String) : List (OverrideRequest × Underwriting.Reply) :=
  w.answers.filter fun x => Succeeded x ∧ x.1.artifactId = id ∧ x.1.expectedVersionId = some v

/-- Of the requests that carry one version at most one has succeeded; every success is recorded on
its artifact, and its corrections stand unless a later success corrected the same field. -/
structure Upheld (w : OverrideWorld) : Prop where
  once : ∀ id v, v ≠ "" → (winners w id v).length ≤ 1
  traced : ∀ x ∈ w.answers, Succeeded x →
    ∃ a, w.db.get? x.1.artifactId = some a ∧ underwritingTrace x.1 ∈ decisions a
  corrected : ∀ earlier x later, w.answers = earlier ++ x :: later → Succeeded x →
    ∀ name text, (name, text) ∈ x.1.correctedPayload →
      (∀ y ∈ later, Succeeded y → y.1.artifactId = x.1.artifactId →
        name ∉ y.1.correctedPayload.map Prod.fst) →
        ∃ a, w.db.get? x.1.artifactId = some a ∧ field a name = some (correctedField text)

/-- A version that has won is not the artifact's version any more. -/
def Spent (w : OverrideWorld) : Prop :=
  ∀ x ∈ w.answers, Succeeded x → ∀ v, x.1.expectedVersionId = some v →
    ∃ a u, w.db.get? x.1.artifactId = some a ∧ a.versionId = some u ∧ u ≠ "" ∧ u ≠ v

variable {w w' : OverrideWorld}

theorem str_ne_empty (u : Uuid) : u.str ≠ "" := by
  intro h
  have hparse := Uuid.parse?_str u
  rw [h] at hparse
  have hnone : Uuid.parse? "" = none := by decide
  rw [hnone] at hparse
  cases hparse

theorem Change.decision_kept (h : Change w w') {id : String} {a : ApplicationArtifact}
    (ha : w.db.get? id = some a) {trace : Json} (ht : trace ∈ decisions a) :
    ∃ a', w'.db.get? id = some a' ∧ trace ∈ decisions a' := by
  cases h with
  | same db answers => exact ⟨a, by rw [db]; exact ha, ht⟩
  | refused r e db answers => exact ⟨a, by rw [db]; exact ha, ht⟩
  | applied r b columns stored done fresh row others answers =>
    by_cases hid : id = r.artifactId
    · subst hid
      obtain rfl := Option.some.inj (stored.symm.trans ha)
      refine ⟨_, row, ?_⟩
      rw [done.recorded]
      exact List.mem_append_left _ ht
    · exact ⟨a, by rw [others id hid]; exact ha, ht⟩

theorem Change.mem_answers (h : Change w w') {x : OverrideRequest × Underwriting.Reply}
    (hx : x ∈ w'.answers) :
    x ∈ w.answers ∨ w'.answers = w.answers ++ [x] := by
  cases h with
  | same db answers => exact Or.inl (answers ▸ hx)
  | refused r e db answers =>
    rw [answers] at hx ⊢
    rcases List.mem_append.mp hx with hx | hx
    · exact Or.inl hx
    · rw [List.mem_singleton.mp hx]
      exact Or.inr rfl
  | applied r a columns stored done fresh row others answers =>
    rw [answers] at hx ⊢
    rcases List.mem_append.mp hx with hx | hx
    · exact Or.inl hx
    · rw [List.mem_singleton.mp hx]
      exact Or.inr rfl

theorem spent_of_change (h : Change w w') (hs : Spent w) : Spent w' := by
  cases h with
  | same db answers =>
    unfold Spent
    rw [db, answers]
    exact hs
  | refused r e db answers =>
    intro x hx hok v hv
    rw [answers] at hx
    rcases List.mem_append.mp hx with hx | hx
    · rw [db]
      exact hs x hx hok v hv
    · rw [List.mem_singleton.mp hx] at hok
      cases hok
  | applied r a columns stored done fresh row others answers =>
    intro x hx hok v hv
    rw [answers] at hx
    have hnew : (columns.write a).versionId = some r.newVersionId.str :=
      congrArg some done.newVersion
    have hexpected : x.1.expectedVersionId ≠ some r.newVersionId.str := by
      rcases List.mem_append.mp hx with hx | hx
      · exact fresh.2 x hx
      · rw [List.mem_singleton.mp hx]
        exact fresh.1
    by_cases hid : x.1.artifactId = r.artifactId
    · rw [hid]
      refine ⟨_, _, row, hnew, str_ne_empty _, ?_⟩
      intro heq
      exact hexpected (hv.trans (congrArg some heq.symm))
    · rcases List.mem_append.mp hx with hx | hx
      · rw [others _ hid]
        exact hs x hx hok v hv
      · rw [List.mem_singleton.mp hx] at hid
        exact absurd rfl hid

theorem winners_append (x : OverrideRequest × Underwriting.Reply)
    (answers : w'.answers = w.answers ++ [x]) (id v : String) : winners w' id v = winners w id v ++
      if Succeeded x ∧ x.1.artifactId = id ∧ x.1.expectedVersionId = some v then [x] else [] := by
  unfold winners
  rw [answers, List.filter_append]
  by_cases h : Succeeded x ∧ x.1.artifactId = id ∧ x.1.expectedVersionId = some v
  · simp [h]
  · simp [h]

theorem once_of_change (h : Change w w') (hs : Spent w)
    (hw : ∀ id v, v ≠ "" → (winners w id v).length ≤ 1) (id v : String) (hv : v ≠ "") :
    (winners w' id v).length ≤ 1 := by
  cases h with
  | same db answers =>
    unfold winners
    rw [answers]
    exact hw id v hv
  | refused r e db answers =>
    rw [winners_append _ answers, if_neg (fun h => by cases h.1), List.append_nil]
    exact hw id v hv
  | applied r a columns stored done fresh row others answers =>
    rw [winners_append _ answers]
    split
    · next hwins =>
      obtain ⟨-, hid, hexpected⟩ := hwins
      dsimp only at hid hexpected
      -- an earlier winner would have left another version behind
      have hnone : winners w id v = [] := by
        refine List.eq_nil_iff_forall_not_mem.mpr ?_
        intro x hx
        obtain ⟨hmem, hx⟩ := List.mem_filter.mp hx
        obtain ⟨hok, hxid, hxv⟩ : Succeeded x ∧ x.1.artifactId = id ∧
            x.1.expectedVersionId = some v := by simpa using hx
        obtain ⟨b, u, hb, hu, hne, huv⟩ := hs x hmem hok v hxv
        rw [hxid, ← hid, stored] at hb
        cases hb
        exact huv (done.version v hexpected u hu hv hne)
      rw [hnone]
      simp
    · rw [List.append_nil]
      exact hw id v hv

theorem traced_of_change (h : Change w w') (hw : Upheld w)
    (x : OverrideRequest × Underwriting.Reply) (hx : x ∈ w'.answers) (hok : Succeeded x) :
    ∃ a, w'.db.get? x.1.artifactId = some a ∧ underwritingTrace x.1 ∈ decisions a := by
  rcases h.mem_answers hx with hmem | hlast
  · obtain ⟨a, ha, ht⟩ := hw.traced x hmem hok
    exact h.decision_kept ha ht
  · cases h with
    | same db answers =>
      have hlength := congrArg List.length (hlast.symm.trans answers)
      simp at hlength
    | refused r e db answers =>
      have heq := List.append_cancel_left (hlast.symm.trans answers)
      rw [List.singleton_inj] at heq
      rw [heq] at hok
      cases hok
    | applied r a columns stored done fresh row others answers =>
      have heq := List.append_cancel_left (hlast.symm.trans answers)
      rw [List.singleton_inj] at heq
      subst heq
      refine ⟨_, row, ?_⟩
      rw [done.recorded]
      exact List.mem_append_right _ (List.mem_singleton.mpr rfl)

theorem split_appended {α : Type} {l earlier later : List α} {x y : α}
    (h : l ++ [y] = earlier ++ x :: later) :
    (later = [] ∧ y = x) ∨ ∃ later', later = later' ++ [y] ∧ l = earlier ++ x :: later' := by
  rcases List.eq_nil_or_concat later with rfl | ⟨later', z, rfl⟩
  · obtain ⟨-, heq⟩ := List.append_inj' h rfl
    exact Or.inl ⟨rfl, List.singleton_inj.mp heq⟩
  · rw [List.concat_eq_append] at h ⊢
    rw [← List.cons_append, ← List.append_assoc] at h
    obtain ⟨hl, heq⟩ := List.append_inj' h rfl
    exact Or.inr ⟨later', by rw [List.singleton_inj.mp heq], hl⟩

theorem corrected_of_change (h : Change w w') (hw : Upheld w)
    {earlier later : List (OverrideRequest × Underwriting.Reply)}
    {x : OverrideRequest × Underwriting.Reply}
    (hsplit : w'.answers = earlier ++ x :: later) (hok : Succeeded x) {name text : String}
    (hc : (name, text) ∈ x.1.correctedPayload)
    (huncorrected : ∀ y ∈ later, Succeeded y → y.1.artifactId = x.1.artifactId →
      name ∉ y.1.correctedPayload.map Prod.fst) :
    ∃ a, w'.db.get? x.1.artifactId = some a ∧ field a name = some (correctedField text) := by
  cases h with
  | same db answers =>
    rw [answers] at hsplit
    rw [db]
    exact hw.corrected _ _ _ hsplit hok name text hc huncorrected
  | refused r e db answers =>
    rw [db]
    rw [answers] at hsplit
    rcases split_appended hsplit with ⟨-, rfl⟩ | ⟨later', rfl, hbefore⟩
    · cases hok
    · exact hw.corrected _ _ _ hbefore hok name text hc fun y hy =>
        huncorrected y (List.mem_append_left _ hy)
  | applied r a columns stored done fresh row others answers =>
    rw [answers] at hsplit
    rcases split_appended hsplit with ⟨-, rfl⟩ | ⟨later', rfl, hbefore⟩
    · exact ⟨_, row, done.field_corrected hc⟩
    · obtain ⟨b, hb, hfield⟩ := hw.corrected _ _ _ hbefore hok name text hc fun y hy =>
        huncorrected y (List.mem_append_left _ hy)
      by_cases hid : x.1.artifactId = r.artifactId
      · have hlast :=
          huncorrected (r, .ok ()) (List.mem_append_right _ (List.mem_singleton.mpr rfl))
          rfl hid.symm
        rw [hid, stored] at hb
        cases hb
        rw [hid]
        exact ⟨_, row, (done.field_kept hlast).trans hfield⟩
      · rw [others _ hid]
        exact ⟨b, hb, hfield⟩

theorem upheld_of_change (h : Change w w') (hs : Spent w) (hw : Upheld w) : Upheld w' where
  once := once_of_change h hs hw.once
  traced := traced_of_change h hw
  corrected _ _ _ hsplit hok _ _ hc huncorrected :=
    corrected_of_change h hw hsplit hok hc huncorrected

/-- A decision that a successful override writes over is one that it has seen. -/
def DecisionsSeen (w : OverrideWorld) (e : OverrideEvent) : Prop :=
  ∀ i r a columns, e = .step i → AtRun overrides w i ⟨r, .loaded (some a)⟩ →
    override a r = .ok columns → ∀ b, w.db.get? r.artifactId = some b → decisions b ⊆ decisions a

/-- In every run in which each successful override commits on the artifact as it loaded it, a
version wins once, and no decision and no correction is lost. -/
theorem overrides_upheld {db : Artifacts} {events : List OverrideEvent}
    (run : overriding.Run (World.quiet db) events)
    (fresh : overriding.Each VersionFresh (World.quiet db) events)
    (current : overriding.Each (RunsUnder overrides StillCurrent) (World.quiet db) events) :
    overriding.Throughout Upheld (World.quiet db) events ∧
      overriding.Each DecisionsSeen (World.quiet db) events := by
  constructor
  · have hinit : Upheld (World.quiet db) ∧ Spent (World.quiet db) := by
      refine ⟨⟨fun id v _ => Nat.zero_le 1, ?_, ?_⟩, ?_⟩
      · intro x hx
        cases hx
      · intro earlier x later hsplit
        exact absurd hsplit.symm (by simp [World.quiet])
      · intro x hx
        cases hx
    have hboth : overriding.Throughout (fun w => Upheld w ∧ Spent w) (World.quiet db) events := by
      refine throughout_of_each ?_ hinit ((run.and fresh).and current)
      rintro w e ⟨hw, hs⟩ ⟨⟨he, hfresh⟩, hcurrent⟩
      have hchange := change_of_step he hfresh hcurrent
      exact ⟨upheld_of_change hchange hs hw, spent_of_change hchange hs⟩
    exact hboth.mono fun w hw => hw.1
  · refine current.mono ?_
    intro w e hcurrent i r a columns he hrun hok b hb
    have hstored := hcurrent i _ he hrun ⟨columns, hok⟩
    rw [hstored] at hb
    cases hb
    exact List.Subset.refl _

/-- A mismatched W-2, whose version two officers expect. -/
def mismatchedArtifact : ApplicationArtifact :=
  { artifactId := "art-1", claimedArtifactType := some "W2", actualArtifactType := none,
    extractionPayload := .empty, auditMetadata := .empty, status := .mismatch,
    versionId := some "version-abc" }

def mismatches : Artifacts := ⟨[mismatchedArtifact], List.pairwise_singleton _ _⟩

def noon : IsoTime.AwareDateTime :=
  ⟨(IsoTime.datetime 2026 7 16 12 0 0 0).get rfl, 0, IsoTime.utc_range⟩

def officer (id : String) (version : ℕ) : OverrideRequest :=
  { artifactId := "art-1", decision := .approve, verifications := ⟨true, true, .int 3750⟩,
    correctedPayload := [("Wages", "48000")], underwriterNotes := "Verified.", underwriterId := id,
    expectedVersionId := some "version-abc", now := noon, newVersionId := .ofNat version,
    distinct := by decide }

def racingOfficers : List OverrideEvent :=
  [.start 0 (officer "officer-1" 1), .step 0, .start 1 (officer "officer-2" 2), .step 1, .step 0,
    .step 1]

def officersInTurn : List OverrideEvent :=
  [.start 0 (officer "officer-1" 1), .step 0, .step 0, .start 1 (officer "officer-2" 2), .step 1,
    .step 1]

theorem inTurn_upheld :
    overriding.Throughout Upheld (World.quiet mismatches) officersInTurn ∧
      overriding.Each DecisionsSeen (World.quiet mismatches) officersInTurn := by
  refine overrides_upheld (by decide) (by decide) ⟨?_, ?_, ?_, ?_, ?_, ?_, trivial⟩
  all_goals rintro i s h ⟨hs, rows, ha⟩
  all_goals cases h
  · cases hs
    trivial
  · cases hs
    exact fun _ => rfl
  · cases hs
    trivial
  · cases hs
    rintro ⟨columns, hok⟩
    cases hok

/-- Both succeed, with the same expected version. -/
theorem racing_officers_both_win :
    ¬ ∀ (db : Artifacts) (events : List OverrideEvent), overriding.Run (World.quiet db) events →
      overriding.Each VersionFresh (World.quiet db) events →
        overriding.Throughout Upheld (World.quiet db) events ∧
          overriding.Each DecisionsSeen (World.quiet db) events := by
  intro hall
  have hlast := (hall mismatches racingOfficers (by decide) (by decide)).1.last
  have honce := hlast.once "art-1" "version-abc" (by decide)
  exact absurd honce (by decide)

end OverriddenDecisions
