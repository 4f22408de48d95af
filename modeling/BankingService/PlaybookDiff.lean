import BankingService.Library.JsonFields
import BankingService.PythonValues

/-! The changes between two revisions of a playbook, as JSON pointers. A reviewer approves a
publication by them. -/
namespace PlaybookAdministration

open Python

inductive ChangeType where
  | added
  | removed
  | changed
  deriving DecidableEq

structure Change where
  path : String
  before : Json
  after : Json
  changeType : ChangeType

/-- `key.replace("~", "~0").replace("/", "~1")`. -/
def escaped (key : String) : String := String.ofList (Json.escapeName key)

/-- `sorted(set(left) | set(right))`. -/
def sortedKeys (left right : List (String × Json)) : List String :=
  (left.map Prod.fst ++ right.map Prod.fst).dedup.insertionSort (· ≤ ·)

section
variable (float : Json.Real → ℚ)

def compare (left right : Json) (path : String) : List Change :=
  match left, right with
  | .obj fields, .obj fields' =>
    (sortedKeys fields fields').flatMap fun key =>
      let childPath := path ++ "/" ++ escaped key
      match _h : Json.get key (.obj fields), Json.get key (.obj fields') with
      | some x, some y => compare x y childPath
      | none, y => [⟨childPath, .null, y.getD .null, .added⟩]
      | some x, none => [⟨childPath, x, .null, .removed⟩]
  | left, right => if equal float left right then [] else [⟨path, left, right, .changed⟩]
termination_by sizeOf left
decreasing_by exact Json.sizeOf_get ‹_›

def structuralDiff (before after : Json) : List Change := compare float before after ""

end

section
variable {float : Json.Real → ℚ} {fields fields' : List (String × Json)}

theorem equalItems_iff {items items' : List Json} :
    equalItems float items items' = true ↔
      List.Forall₂ (fun x y => equal float x y = true) items items' := by
  induction items generalizing items' with
  | nil => cases items' <;> simp [equalItems]
  | cons x items ih => cases items' <;> simp [equalItems, ih]

theorem equal_items {items items' : List Json} (h : items.map Json.sorted = items'.map Json.sorted)
    (ih : ∀ x ∈ items, ∀ y ∈ items', x.sorted = y.sorted → equal float x y = true) :
    equalItems float items items' = true := by
  rw [equalItems_iff]
  induction items generalizing items' with
  | nil =>
    rw [List.map_eq_nil_iff.mp h.symm]
    exact .nil
  | cons x items hitems =>
    obtain ⟨y, items', rfl, hxy, hrest⟩ := List.map_eq_cons_iff.mp h.symm
    refine .cons (ih x List.mem_cons_self y List.mem_cons_self hxy.symm) ?_
    exact hitems hrest.symm fun x hx y hy =>
      ih x (List.mem_cons_of_mem _ hx) y (List.mem_cons_of_mem _ hy)

theorem equalFields_iff : equalFields float fields fields' = true ↔
    ∀ f ∈ fields, ∃ y, lookup fields' f.1 = some y ∧ equal float f.2 y = true := by
  induction fields with
  | nil => simp [equalFields]
  | cons f fields ih =>
    rw [equalFields, Bool.and_eq_true, ih, List.forall_mem_cons]
    refine and_congr_left fun _ => ?_
    cases lookup fields' f.1 <;> simp

theorem equal_objects (distinct : (fields.map Prod.fst).Nodup)
    (distinct' : (fields'.map Prod.fst).Nodup)
    (h : (Json.obj fields).sorted = (Json.obj fields').sorted)
    (ih : ∀ f ∈ fields, ∀ y, Json.get f.1 (.obj fields') = some y → f.2.sorted = y.sorted →
      equal float f.2 y = true) :
    equal float (.obj fields) (.obj fields') = true := by
  have hlength : fields.length = fields'.length := by
    have hsorted := congrArg List.length (Json.obj.inj h)
    rw [List.length_insertionSort, List.length_insertionSort, Json.sortedFields_eq,
      Json.sortedFields_eq, List.length_map, List.length_map] at hsorted
    exact hsorted
  rw [equal, decide_eq_true_iff, equalFields_iff]
  refine ⟨hlength, fun f hf => ?_⟩
  have hget := (Json.sorted_obj distinct distinct').mp h f.1
  rw [(Json.get_eq_some distinct).mpr hf] at hget
  obtain ⟨y, hy, hsame⟩ := Option.map_eq_some_iff.mp hget.symm
  exact ⟨y, hy, ih f hf y hy hsame.symm⟩

theorem equal_of_sorted (x y : Json) (hx : x.unique = true) (hy : y.unique = true)
    (hfinite : x.finite = true) (h : x.sorted = y.sorted) : equal float x y = true := by
  induction hsize : sizeOf x using Nat.strong_induction_on generalizing x y with
  | _ n ih =>
    cases x with
    | arr items =>
      cases y with
      | arr items' =>
        rw [Json.unique, Json.uniqueItems_iff] at hx hy
        rw [Json.finite, Json.finiteItems_iff] at hfinite
        have hitems := Json.arr.inj h
        rw [Json.sortedItems_eq, Json.sortedItems_eq] at hitems
        rw [equal]
        refine equal_items hitems fun a ha b hb hab => ?_
        refine ih (sizeOf a) ?_ a b (hx a ha) (hy b hb) (hfinite a ha) hab rfl
        have hsmaller := List.sizeOf_lt_of_mem ha
        rw [← hsize, Json.arr.sizeOf_spec]
        omega
      | _ => cases h
    | obj fields =>
      cases y with
      | obj fields' =>
        obtain ⟨hdistinct, hunique⟩ := Json.unique_obj.mp hx
        obtain ⟨hdistinct', hunique'⟩ := Json.unique_obj.mp hy
        rw [Json.finite_obj hdistinct] at hfinite
        refine equal_objects hdistinct hdistinct' h fun f hf b hb hab => ?_
        have hget := (Json.get_eq_some hdistinct).mpr hf
        refine ih (sizeOf f.2) ?_ f.2 b (hunique _ _ hget) (hunique' _ _ hb)
          (hfinite _ _ hget) hab rfl
        rw [← hsize]
        exact Json.sizeOf_get hget
      | _ => cases h
    | nonFinite x => cases hfinite
    | bool b =>
      cases y with
      | bool b' =>
        cases h
        simp [equal, numeric]
      | _ => cases h
    | int n =>
      cases y with
      | int n =>
        cases h
        simp [equal, numeric]
      | _ => cases h
    | real x =>
      cases y with
      | real y =>
        cases h
        simp [equal, numeric]
      | _ => cases h
    | null =>
      cases y with
      | null => simp [equal]
      | _ => cases h
    | str s =>
      cases y with
      | str t =>
        cases h
        simp [equal]
      | _ => cases h

end

def Change.edit (change : Change) : Json.Edit :=
  match change.changeType with
  | .added => .add change.after
  | .removed => .remove
  | .changed => .replace change.after

def Change.apply (change : Change) (document : Option Json) : Option (Option Json) := do
  let path ← Json.pointer change.path
  Json.editAt change.edit path document

/-- The document after the changes, if each of them can be made. -/
def applyChanges (changes : List Change) (document : Json) : Option Json :=
  (changes.foldlM (fun document (change : Change) => change.apply document) (some document)).join

section
variable {float : Json.Real → ℚ}

theorem escaped_pointer (path : List String) (key : String) :
    Json.pointerText path ++ "/" ++ escaped key = Json.pointerText (path ++ [key]) :=
  (Json.pointerText_concat path key).symm

theorem compare_eq (left right : Json) (path : List String) :
    (compare float left right (Json.pointerText path)).map (fun c => (c.path, c.edit)) =
      (Json.diff (equal float) left right).map fun e => (Json.pointerText (path ++ e.1), e.2) := by
  induction left using Json.induction_get generalizing right path with
  | h left ih =>
    by_cases hboth : Json.BothObjects left right
    · obtain ⟨fields, fields', rfl, rfl⟩ := hboth
      rw [compare, Json.diff_objects, List.map_flatMap, List.map_flatMap]
      refine List.flatMap_congr fun key hkey => ?_
      have hpresent := Json.mem_mergedNames.mp hkey
      rw [Json.under, List.map_map, escaped_pointer, Json.diffUnder]
      cases hx : Json.get key (.obj fields) with
      | none =>
        cases hy : Json.get key (.obj fields') with
        | none =>
          rw [hx, hy] at hpresent
          simp at hpresent
        | some y => rfl
      | some x =>
        cases hy : Json.get key (.obj fields') with
        | none => rfl
        | some y =>
          refine (ih key x hx y (path ++ [key])).trans ?_
          simp
    · rw [Json.diff_values hboth, compare]
      · split
        · rfl
        · simp [Change.edit]
      · intro fields fields' hleft hright
        exact hboth ⟨fields, fields', hleft, hright⟩

theorem applyChanges_eq (before after : Json) :
    applyChanges (structuralDiff float before after) before =
      (Json.patch (Json.diff (equal float) before after) (some before)).join := by
  have hfold : ∀ (changes : List Change) (edits : List (List String × Json.Edit)) (x : Option Json),
      changes.map (fun c => (c.path, c.edit)) = edits.map (fun e => (Json.pointerText e.1, e.2)) →
      changes.foldlM (fun document (change : Change) => change.apply document) x =
        Json.patch edits x := by
    intro changes
    induction changes with
    | nil =>
      intro edits x h
      rw [List.map_eq_nil_iff.mp h.symm]
      rfl
    | cons c changes ih =>
      intro edits x h
      obtain ⟨e, edits, rfl, he, hrest⟩ := List.map_eq_cons_iff.mp h.symm
      obtain ⟨hpath, hedit⟩ := Prod.mk.inj he
      rw [List.foldlM_cons, Json.patch, List.foldlM_cons, Change.apply, ← hpath,
        Json.pointer_pointerText, ← hedit]
      refine bind_congr fun y => ih edits y hrest.symm
  rw [applyChanges, hfold (structuralDiff float before after) _ _ (compare_eq before after [])]

theorem paths_eq (before after : Json) : (structuralDiff float before after).map Change.path =
    ((Json.diff (equal float) before after).map Prod.fst).map Json.pointerText := by
  have h := congrArg (List.map Prod.fst) (@compare_eq float before after [])
  rw [List.map_map, List.map_map] at h
  rw [List.map_map]
  exact h

end

structure Document where
  json : Json
  object : ∃ fields, json = .obj fields
  unique : json.unique = true
  finite : json.finite = true

/-- The changes are exact: there are none if the documents have one text, and otherwise they have
distinct paths and lead from the text of the one to that of the other. -/
def Exact (float : Json.Real → ℚ) (before after : Document) : Prop :=
  (structuralDiff float before.json after.json = [] ↔ before.json.dumps = after.json.dumps) ∧
  (structuralDiff float before.json after.json ≠ [] →
    ((structuralDiff float before.json after.json).map Change.path).Nodup ∧
    ∃ result, applyChanges (structuralDiff float before.json after.json) before.json = some result ∧
      result.dumps = after.json.dumps)

/-- The changes are exact if and only if equal values at one path, other than two objects, have one
text. -/
theorem diff_exact_iff (float : Json.Real → ℚ) (before after : Document) :
    Exact float before after ↔ Json.Agree (equal float) before.json after.json := by
  obtain ⟨result, hpatch, hresult⟩ := @Json.patch_diff (equal float) before.json after.json
    before.unique after.unique before.finite after.finite
  have happly : applyChanges (structuralDiff float before.json after.json) before.json =
      some result := by
    rw [applyChanges_eq, hpatch]
    rfl
  have htext :
    result.dumps = after.json.dumps ↔ Json.Agree (equal float) before.json after.json := by
    rw [Json.dumps_eq_iff hresult.finite after.finite]
    exact hresult.text
  constructor
  · rintro ⟨hempty, hchanged⟩
    by_cases hnil : structuralDiff float before.json after.json = []
    · rw [hnil] at happly
      obtain rfl : before.json = result := Option.some.inj happly
      exact htext.mp (hempty.mp hnil)
    · obtain ⟨-, other, hother, hsame⟩ := hchanged hnil
      obtain rfl : result = other := Option.some.inj (happly.symm.trans hother)
      exact htext.mp hsame
  · intro hagree
    refine ⟨⟨fun hnil => ?_, fun hsame => ?_⟩, fun _ => ⟨?_, result, happly, htext.mpr hagree⟩⟩
    · rw [hnil] at happly
      obtain rfl : before.json = result := Option.some.inj happly
      exact htext.mpr hagree
    · rw [Json.dumps_eq_iff before.finite after.finite] at hsame
      have hnone := Json.diff_eq_nil (fun x y hx hy hfinite hxy =>
        @equal_of_sorted float x y hx hy hfinite hxy) before.unique after.unique before.finite hsame
      have hpaths := @paths_eq float before.json after.json
      rw [hnone] at hpaths
      exact List.map_eq_nil_iff.mp hpaths
    · rw [paths_eq]
      exact Json.diff_distinct.map Json.pointerText_injective

def enabled (value : Json) (unique : value.unique = true) (finite : value.finite = true) :
    Document where
  json := .obj [("enabled", value)]
  object := ⟨_, rfl⟩
  unique := by simp [Json.unique, Json.uniqueFields, unique]
  finite := by simp [Json.finite, Json.finiteFields, finite]

/-- `1` against `true` is no change. -/
theorem type_change_is_not_shown :
    ¬ ∀ (float : Json.Real → ℚ) (before after : Document), Exact float before after := by
  intro h
  obtain ⟨hempty, -⟩ := h (fun _ => 0) (enabled (.int 1) rfl rfl) (enabled (.bool true) rfl rfl)
  have hnone : structuralDiff (fun _ => 0) (enabled (.int 1) rfl rfl).json
      (enabled (.bool true) rfl rfl).json = [] := by decide +kernel
  have hsame := hempty.mp hnone
  revert hsame
  decide

end PlaybookAdministration
