import BankingService.Library.Json
import Mathlib.Data.List.Dedup

/-! Objects as finite maps: two objects with distinct names have the same text if and only if their
fields have. A patch is a list of edits, each at the end of a path of names. -/
namespace Json

mutual

def unique : Json → Bool
  | arr items => uniqueItems items
  | obj fields => decide (fields.map Prod.fst).Nodup && uniqueFields fields
  | _ => true

def uniqueItems : List Json → Bool
  | [] => true
  | x :: xs => x.unique && uniqueItems xs

def uniqueFields : List (String × Json) → Bool
  | [] => true
  | (_, x) :: fields => x.unique && uniqueFields fields

end

theorem uniqueFields_iff {l : List (String × Json)} :
    uniqueFields l = true ↔ ∀ f ∈ l, f.2.unique = true := by
  induction l with
  | nil => simp [uniqueFields]
  | cons f l ih => simp [uniqueFields, ih]

theorem uniqueItems_iff {l : List Json} : uniqueItems l = true ↔ ∀ x ∈ l, x.unique = true := by
  induction l with
  | nil => simp [uniqueItems]
  | cons x l ih => simp [uniqueItems, ih]

section
variable {fields fields' : List (String × Json)} {name name' : String} {x : Json}

theorem get_mem {j : Json} (h : get name j = some x) :
    ∃ fields, j = obj fields ∧ (name, x) ∈ fields := by
  cases j with
  | obj fields =>
    obtain ⟨f, hf, rfl⟩ := Option.map_eq_some_iff.mp h
    have hname : f.1 = name := by simpa using List.find?_some hf
    subst hname
    exact ⟨fields, rfl, List.mem_reverse.mp (List.mem_of_find?_eq_some hf)⟩
  | _ => cases h

theorem sizeOf_get {j : Json} (h : get name j = some x) : sizeOf x < sizeOf j := by
  obtain ⟨fields, rfl, hmem⟩ := get_mem h
  have hfield := List.sizeOf_lt_of_mem hmem
  simp only [Prod.mk.sizeOf_spec, obj.sizeOf_spec] at hfield ⊢
  omega

/-- Induction along the fields of objects. -/
theorem induction_get {P : Json → Prop}
    (h : ∀ j, (∀ name x, get name j = some x → P x) → P j) (j : Json) : P j := by
  induction hsize : sizeOf j using Nat.strong_induction_on generalizing j with
  | _ n ih =>
    refine h j fun name x hx => ih (sizeOf x) ?_ x rfl
    rw [← hsize]
    exact sizeOf_get hx

theorem isSome_get : (get name (obj fields)).isSome ↔ name ∈ fields.map Prod.fst := by
  rw [get, Option.isSome_map, List.find?_isSome, List.mem_map]
  constructor
  · rintro ⟨f, hf, hname⟩
    exact ⟨f, List.mem_reverse.mp hf, of_decide_eq_true hname⟩
  · rintro ⟨f, hf, hname⟩
    exact ⟨f, List.mem_reverse.mpr hf, decide_eq_true hname⟩

theorem unique_obj : (obj fields).unique = true ↔
    (fields.map Prod.fst).Nodup ∧ ∀ name x, get name (obj fields) = some x → x.unique = true := by
  rw [unique, Bool.and_eq_true, decide_eq_true_iff, uniqueFields_iff]
  refine and_congr_right fun hdistinct => ?_
  constructor
  · intro h name x hx
    exact h _ ((get_eq_some hdistinct).mp hx)
  · intro h f hf
    exact h f.1 f.2 ((get_eq_some hdistinct).mpr hf)

theorem finite_obj (distinct : (fields.map Prod.fst).Nodup) : (obj fields).finite = true ↔
    ∀ name x, get name (obj fields) = some x → x.finite = true := by
  rw [finite, finiteFields_iff]
  constructor
  · intro h name x hx
    exact h _ ((get_eq_some distinct).mp hx)
  · intro h f hf
    exact h f.1 f.2 ((get_eq_some distinct).mpr hf)

theorem dumps_eq_iff {a b : Json} (ha : a.finite = true) (hb : b.finite = true) :
    dumps a = dumps b ↔ a.sorted = b.sorted := by
  constructor
  · intro h
    have hparse := parse_dumps a
    rw [h, parse_dumps b, if_pos ha, if_pos hb] at hparse
    exact (Option.some.inj hparse).symm
  · intro h
    rw [dumps, dumps, h]

/-- The text of an object is that of its fields, whatever their order. -/
theorem sorted_obj (distinct : (fields.map Prod.fst).Nodup)
    (distinct' : (fields'.map Prod.fst).Nodup) :
    (obj fields).sorted = (obj fields').sorted ↔
      ∀ name, (get name (obj fields)).map sorted = (get name (obj fields')).map sorted := by
  constructor
  · intro h name
    rw [← get_sorted distinct, h, get_sorted distinct']
  · intro h
    have hnames : ∀ l : List (String × Json), (sortedFields l).map Prod.fst = l.map Prod.fst := by
      intro l
      simp [sortedFields_eq]
    have hnodup : ∀ l : List (String × Json), (l.map Prod.fst).Nodup → (sortedFields l).Nodup := by
      intro l hl
      rw [← hnames] at hl
      exact hl.of_map
    have hperm : (sortedFields fields).Perm (sortedFields fields') := by
      rw [List.perm_ext_iff_of_nodup (hnodup _ distinct) (hnodup _ distinct')]
      rintro ⟨name, x⟩
      have hmem : ∀ l : List (String × Json), (l.map Prod.fst).Nodup →
          ((name, x) ∈ sortedFields l ↔ (get name (obj l)).map sorted = some x) := by
        intro l hl
        rw [← get_sorted hl, sorted, get_eq_some, List.mem_insertionSort]
        rw [((List.perm_insertionSort _ _).map _).nodup_iff, hnames]
        exact hl
      rw [hmem _ distinct, hmem _ distinct', h]
    have htotal : Std.Total fun a b : String × Json => a.1 ≤ b.1 := ⟨fun a b => le_total a.1 b.1⟩
    have htrans : IsTrans (String × Json) fun a b => a.1 ≤ b.1 := ⟨fun a b c => le_trans⟩
    rw [sorted, sorted]
    congr 1
    refine @List.Perm.eq_of_pairwise _ (fun a b : String × Json => a.1 ≤ b.1) _ _ ?_
      (List.pairwise_insertionSort _ _) (List.pairwise_insertionSort _ _)
      ((List.perm_insertionSort _ _).trans (hperm.trans (List.perm_insertionSort _ _).symm))
    intro a b ha hb hab hba
    have hdistinct : ((sortedFields fields).map Prod.fst).Nodup := by
      rw [hnames]
      exact distinct
    rw [List.mem_insertionSort] at ha hb
    exact List.inj_on_of_nodup_map hdistinct ha (hperm.mem_iff.mpr hb) (le_antisymm hab hba)

end

/-- What an edit does at the end of its path. -/
inductive Edit where
  | add (x : Json)
  | remove
  | replace (x : Json)

/-- Only what is missing is added, and only what is there is removed or replaced. -/
def Edit.alter : Edit → Option Json → Option (Option Json)
  | add x, none => some (some x)
  | remove, some _ => some none
  | replace x, some _ => some (some x)
  | _, _ => none

def put (name : String) (x : Option Json) (fields : List (String × Json)) :
    List (String × Json) :=
  fields.filter (fun f => f.1 ≠ name) ++ x.toList.map fun x => (name, x)

def editAt (e : Edit) : List String → Option Json → Option (Option Json)
  | [], x => e.alter x
  | name :: path, some (obj fields) =>
    (editAt e path (get name (obj fields))).map fun x => some (obj (put name x fields))
  | _ :: _, _ => none

def under (name : String) (edits : List (List String × Edit)) : List (List String × Edit) :=
  edits.map fun e => (name :: e.1, e.2)

def patch (edits : List (List String × Edit)) (x : Option Json) : Option (Option Json) :=
  edits.foldlM (fun x e => editAt e.2 e.1 x) x

section
variable {fields : List (String × Json)} {name name' : String} {x : Option Json}

theorem put_distinct (distinct : (fields.map Prod.fst).Nodup) :
    ((put name x fields).map Prod.fst).Nodup := by
  have hkept : ((fields.filter fun f => f.1 ≠ name).map Prod.fst).Nodup :=
    distinct.sublist (List.filter_sublist.map _)
  unfold put
  cases x with
  | none => simpa using hkept
  | some x =>
    rw [List.map_append, List.nodup_append]
    refine ⟨hkept, List.nodup_singleton _, ?_⟩
    simp

theorem get_put (distinct : (fields.map Prod.fst).Nodup) :
    get name' (obj (put name x fields)) = if name' = name then x else get name' (obj fields) := by
  apply Option.ext
  intro y
  rw [get_eq_some (put_distinct distinct), put, List.mem_append, List.mem_filter]
  by_cases hname : name' = name
  · subst hname
    cases x with
    | none => simp
    | some x => simp [eq_comm]
  · rw [if_neg hname, get_eq_some distinct]
    cases x with
    | none => simp [hname]
    | some x => simp [hname]

/-- Edits under one name change the value under it and nothing else. -/
theorem patch_under {edits : List (List String × Edit)} {y : Option Json}
    (distinct : (fields.map Prod.fst).Nodup) (h : patch edits (get name (obj fields)) = some y) :
    ∃ fields', patch (under name edits) (some (obj fields)) =
        some (some (obj fields')) ∧ (fields'.map Prod.fst).Nodup ∧
      ∀ name', get name' (obj fields') = if name' = name then y else get name' (obj fields) := by
  induction edits generalizing fields with
  | nil =>
    obtain rfl : get name (obj fields) = y := Option.some.inj h
    refine ⟨fields, rfl, distinct, fun name' => ?_⟩
    split
    · next hname => rw [hname]
    · rfl
  | cons e edits ih =>
    rw [patch, List.foldlM_cons] at h
    obtain ⟨z, hz, hrest⟩ := Option.bind_eq_some_iff.mp h
    have hput := @put_distinct fields name z distinct
    have hname : get name (obj (put name z fields)) = z := by
      rw [get_put distinct, if_pos rfl]
    obtain ⟨fields', hpatch, hdistinct, hget⟩ := ih hput (by rw [hname]; exact hrest)
    refine ⟨fields', ?_, hdistinct, fun name' => ?_⟩
    · rw [under, List.map_cons, patch, List.foldlM_cons, editAt, hz]
      exact hpatch
    · rw [hget, get_put distinct]
      split
      · rfl
      · rfl

theorem patch_flatMap {names : List String} {edits : String → List (List String × Edit)}
    {y : String → Option Json} (hnames : names.Nodup) (distinct : (fields.map Prod.fst).Nodup)
    (h : ∀ name ∈ names, patch (edits name) (get name (obj fields)) = some (y name)) :
    ∃ fields', patch (names.flatMap fun name => under name (edits name)) (some (obj fields)) =
        some (some (obj fields')) ∧ (fields'.map Prod.fst).Nodup ∧
      ∀ name, get name (obj fields') = if name ∈ names then y name else get name (obj fields) := by
  induction names generalizing fields with
  | nil => exact ⟨fields, rfl, distinct, fun name => rfl⟩
  | cons name names ih =>
    obtain ⟨hnew, hnodup⟩ := List.nodup_cons.mp hnames
    obtain ⟨first, hfirst, hdistinct, hget⟩ := patch_under distinct (h name List.mem_cons_self)
    obtain ⟨fields', hrest, hdistinct', hget'⟩ := ih hnodup hdistinct fun other hother => by
      have hne : other ≠ name := fun heq => hnew (heq ▸ hother)
      rw [hget, if_neg hne]
      exact h other (List.mem_cons_of_mem _ hother)
    refine ⟨fields', ?_, hdistinct', fun other => ?_⟩
    · rw [List.flatMap_cons, patch, List.foldlM_append]
      exact Option.bind_eq_some_iff.mpr ⟨_, hfirst, hrest⟩
    · rw [hget', hget]
      by_cases heq : other = name
      · subst heq
        simp [hnew]
      · simp [heq]

end

def BothObjects (left right : Json) : Prop :=
  ∃ fields fields', left = obj fields ∧ right = obj fields'

def mergedNames (left right : List (String × Json)) : List String :=
  (left.map Prod.fst ++ right.map Prod.fst).dedup.insertionSort (· ≤ ·)

def descend : List String → Json → Option Json
  | [], j => some j
  | name :: path, j => (get name j).bind (descend path)

section
variable (same : Json → Json → Bool)

/-- The edits that lead from the left to the right, where `same` decides which values are left
alone. -/
def diff (left right : Json) : List (List String × Edit) :=
  match left, right with
  | obj fields, obj fields' =>
    (mergedNames fields fields').flatMap fun name =>
      under name <|
        match _h : get name (obj fields), get name (obj fields') with
        | some x, some y => diff x y
        | none, some y => [([], .add y)]
        | some _, none => [([], .remove)]
        | none, none => []
  | left, right => if same left right then [] else [([], .replace right)]
termination_by sizeOf left
decreasing_by exact sizeOf_get ‹_›

/-- Values that are the same and not both objects have one text. -/
def Agree (left right : Json) : Prop :=
  ∀ path x y, descend path left = some x → descend path right = some y → ¬ BothObjects x y →
    same x y = true → x.sorted = y.sorted

def diffUnder (name : String) (left right : Json) : List (List String × Edit) :=
  match get name left, get name right with
  | some x, some y => diff same x y
  | none, some y => [([], .add y)]
  | some _, none => [([], .remove)]
  | none, none => []

end

section
variable {same : Json → Json → Bool} {left right x y : Json} {name : String}
variable {fields fields' : List (String × Json)}

theorem mem_mergedNames : name ∈ mergedNames fields fields' ↔
    (get name (obj fields)).isSome ∨ (get name (obj fields')).isSome := by
  rw [mergedNames, List.mem_insertionSort, List.mem_dedup, List.mem_append, isSome_get, isSome_get]

theorem mergedNames_nodup : (mergedNames fields fields').Nodup :=
  (List.perm_insertionSort _ _).nodup_iff.mpr (List.nodup_dedup _)

theorem diff_objects : diff same (obj fields) (obj fields') =
    (mergedNames fields fields').flatMap fun name =>
      under name (diffUnder same name (obj fields) (obj fields')) := by
  rw [diff]
  congr 1
  funext name
  congr 1
  rw [diffUnder]
  cases get name (obj fields) with
  | none =>
    cases get name (obj fields') with
    | none => rfl
    | some y => rfl
  | some x =>
    cases get name (obj fields') with
    | none => rfl
    | some y => rfl

theorem diff_values (h : ¬ BothObjects left right) :
    diff same left right = if same left right then [] else [([], .replace right)] := by
  rw [diff]
  intro fields fields' hleft hright
  exact h ⟨fields, fields', hleft, hright⟩

theorem agree_objects : Agree same (obj fields) (obj fields') ↔
    ∀ name x y, get name (obj fields) = some x → get name (obj fields') = some y →
      Agree same x y := by
  constructor
  · intro h name x y hx hy path x' y' hx' hy'
    refine h (name :: path) x' y' ?_ ?_
    · rw [descend, hx]
      exact hx'
    · rw [descend, hy]
      exact hy'
  · rintro h (_ | ⟨name, path⟩) x y hx hy hboth
    · cases hx
      cases hy
      exact absurd ⟨fields, fields', rfl, rfl⟩ hboth
    · obtain ⟨x', hx', hx⟩ := Option.bind_eq_some_iff.mp hx
      obtain ⟨y', hy', hy⟩ := Option.bind_eq_some_iff.mp hy
      exact h name x' y' hx' hy' path x y hx hy hboth

theorem agree_values (h : ¬ BothObjects left right) :
    Agree same left right ↔ (same left right = true → left.sorted = right.sorted) := by
  constructor
  · intro hagree
    exact hagree [] left right rfl rfl h
  · rintro hsame (_ | ⟨name, path⟩) x y hx hy -
    · cases hx
      cases hy
      exact hsame
    · obtain ⟨x', hx', -⟩ := Option.bind_eq_some_iff.mp hx
      obtain ⟨y', hy', -⟩ := Option.bind_eq_some_iff.mp hy
      obtain ⟨fields, rfl, -⟩ := get_mem hx'
      obtain ⟨fields', rfl, -⟩ := get_mem hy'
      exact absurd ⟨fields, fields', rfl, rfl⟩ h

theorem diff_distinct : ((diff same left right).map Prod.fst).Nodup := by
  induction left using induction_get generalizing right with
  | h left ih =>
    by_cases hboth : BothObjects left right
    · obtain ⟨fields, fields', rfl, rfl⟩ := hboth
      rw [diff_objects, List.map_flatMap, List.nodup_flatMap]
      constructor
      · intro name _
        have hunder : ((diffUnder same name (obj fields) (obj fields')).map Prod.fst).Nodup := by
          unfold diffUnder
          split
          · next x _ hx _ => exact ih name x hx
          · exact List.nodup_singleton _
          · exact List.nodup_singleton _
          · exact List.nodup_nil
        rw [under, List.map_map]
        have hcons := hunder.map (f := List.cons name) fun a b hab => (List.cons.inj hab).2
        rw [List.map_map] at hcons
        exact hcons
      · refine mergedNames_nodup.imp fun {name name'} hne => ?_
        intro path hpath hpath'
        obtain ⟨e, he, rfl⟩ := List.mem_map.mp hpath
        obtain ⟨e', he', heq⟩ := List.mem_map.mp hpath'
        obtain ⟨d, -, rfl⟩ := List.mem_map.mp he
        obtain ⟨d', -, rfl⟩ := List.mem_map.mp he'
        exact hne (List.cons.inj heq).1.symm
    · rw [diff_values hboth]
      split
      · exact List.nodup_nil
      · exact List.nodup_singleton _

/-- What a patch by the differences leads to: the text of the right, if the two agree. -/
structure Patched (same : Json → Json → Bool) (left right result : Json) : Prop where
  unique : result.unique = true
  finite : result.finite = true
  text : result.sorted = right.sorted ↔ Agree same left right

def PatchedUnder (same : Json → Json → Bool) (left right result : Option Json) : Prop :=
  match left, right with
  | some x, some y => ∃ z, result = some z ∧ Patched same x y z
  | _, y => result = y

theorem patch_diffUnder (ih : ∀ x y, get name left = some x → get name right = some y →
      ∃ z, patch (diff same x y) (some x) = some (some z) ∧ Patched same x y z) :
    ∃ result, patch (diffUnder same name left right) (get name left) = some result ∧
      PatchedUnder same (get name left) (get name right) result := by
  unfold diffUnder PatchedUnder
  cases hx : get name left with
  | none =>
    cases hy : get name right with
    | none => exact ⟨none, rfl, rfl⟩
    | some y => exact ⟨some y, rfl, rfl⟩
  | some x =>
    cases hy : get name right with
    | none => exact ⟨none, rfl, rfl⟩
    | some y =>
      obtain ⟨z, hz, hpatched⟩ := ih x y hx hy
      exact ⟨some z, hz, z, rfl, hpatched⟩

theorem patched_objects {result : List (String × Json)}
    (distinct : (result.map Prod.fst).Nodup) (hunique : (obj fields').unique = true)
    (hfinite : (obj fields').finite = true)
    (h : ∀ name, PatchedUnder same (get name (obj fields)) (get name (obj fields'))
      (get name (obj result))) :
    Patched same (obj fields) (obj fields') (obj result) := by
  obtain ⟨hdistinct, hunique⟩ := unique_obj.mp hunique
  rw [finite_obj hdistinct] at hfinite
  have hcases : ∀ name z, get name (obj result) = some z →
      get name (obj fields') = some z ∨ ∃ x y, get name (obj fields) = some x ∧
        get name (obj fields') = some y ∧ Patched same x y z := by
    intro name z hz
    have hname := h name
    rw [hz] at hname
    unfold PatchedUnder at hname
    split at hname
    · next x y hx hy =>
      obtain ⟨w, hw, hpatched⟩ := hname
      cases hw
      exact Or.inr ⟨x, y, hx, hy, hpatched⟩
    · exact Or.inl hname.symm
  constructor
  · rw [unique_obj]
    refine ⟨distinct, fun name z hz => ?_⟩
    rcases hcases name z hz with hright | ⟨x, y, -, -, hpatched⟩
    · exact hunique name z hright
    · exact hpatched.unique
  · rw [finite_obj distinct]
    intro name z hz
    rcases hcases name z hz with hright | ⟨x, y, -, -, hpatched⟩
    · exact hfinite name z hright
    · exact hpatched.finite
  · rw [sorted_obj distinct hdistinct, agree_objects]
    constructor
    · intro htext name x y hx hy
      have hname := h name
      rw [hx, hy] at hname
      obtain ⟨z, hz, hpatched⟩ := hname
      have hsame := htext name
      rw [hz, hy] at hsame
      exact hpatched.text.mp (Option.some.inj hsame)
    · intro hagree name
      have hname := h name
      unfold PatchedUnder at hname
      split at hname
      · next x y hx hy =>
        obtain ⟨z, hz, hpatched⟩ := hname
        rw [hz, hy]
        exact congrArg some (hpatched.text.mpr (hagree name x y hx hy))
      · rw [hname]

/-- The differences can be applied, one after the other. -/
theorem patch_diff (huniqueL : left.unique = true) (huniqueR : right.unique = true)
    (hfiniteL : left.finite = true) (hfiniteR : right.finite = true) :
    ∃ result, patch (diff same left right) (some left) = some (some result) ∧
      Patched same left right result := by
  induction left using induction_get generalizing right with
  | h left ih =>
    by_cases hboth : BothObjects left right
    · obtain ⟨fields, fields', rfl, rfl⟩ := hboth
      obtain ⟨hdistinct, hleft⟩ := unique_obj.mp huniqueL
      obtain ⟨hdistinct', hright⟩ := unique_obj.mp huniqueR
      choose result hpatch hunder using fun name =>
        @patch_diffUnder same (obj fields) (obj fields') name fun x y hx hy =>
          ih name x hx (hleft name x hx) (hright name y hy)
            ((finite_obj hdistinct).mp hfiniteL name x hx)
            ((finite_obj hdistinct').mp hfiniteR name y hy)
      obtain ⟨patched, hpatched, hnames, hget⟩ := patch_flatMap
        (@mergedNames_nodup fields fields') hdistinct
        fun name _ => hpatch name
      refine ⟨obj patched, ?_, patched_objects hnames huniqueR hfiniteR fun name => ?_⟩
      · rw [diff_objects]
        exact hpatched
      · rw [hget]
        split
        · exact hunder name
        · next hname =>
          rw [mem_mergedNames, not_or, Option.not_isSome_iff_eq_none,
            Option.not_isSome_iff_eq_none] at hname
          rw [hname.1, hname.2]
          rfl
    · rw [diff_values hboth]
      split
      · next hsame =>
        refine ⟨left, rfl, huniqueL, hfiniteL, ?_⟩
        rw [agree_values hboth]
        exact ⟨fun h _ => h, fun h => h hsame⟩
      · next hsame =>
        refine ⟨right, rfl, huniqueR, hfiniteR, ?_⟩
        rw [agree_values hboth]
        exact ⟨fun _ h => absurd h hsame, fun _ => rfl⟩

/-- Documents of one text have no differences. -/
theorem diff_eq_nil (reflexive : ∀ x y : Json, x.unique = true → y.unique = true →
      x.finite = true → x.sorted = y.sorted → same x y = true)
    (huniqueL : left.unique = true) (huniqueR : right.unique = true)
    (hfinite : left.finite = true) (h : left.sorted = right.sorted) :
    diff same left right = [] := by
  induction left using induction_get generalizing right with
  | h left ih =>
    by_cases hboth : BothObjects left right
    · obtain ⟨fields, fields', rfl, rfl⟩ := hboth
      obtain ⟨hdistinct, hleft⟩ := unique_obj.mp huniqueL
      obtain ⟨hdistinct', hright⟩ := unique_obj.mp huniqueR
      rw [sorted_obj hdistinct hdistinct'] at h
      rw [diff_objects, List.flatMap_eq_nil_iff]
      intro name _
      have hname := h name
      unfold diffUnder
      cases hx : get name (obj fields) with
      | none =>
        rw [hx] at hname
        rw [Option.map_eq_none_iff.mp hname.symm]
        rfl
      | some x =>
        rw [hx] at hname
        obtain ⟨y, hy, hsorted⟩ := Option.map_eq_some_iff.mp hname.symm
        rw [hy]
        simp only
        rw [ih name x hx (hleft name x hx) (hright name y hy)
          ((finite_obj hdistinct).mp hfinite name x hx) hsorted.symm]
        rfl
    · rw [diff_values hboth, if_pos (reflexive _ _ huniqueL huniqueR hfinite h)]

end

def replaceChar (old : Char) (new l : List Char) : List Char :=
  l.flatMap fun c => if c = old then new else [c]

/-- `~` is written `~0` and `/` is written `~1`. -/
def escapeName (name : String) : List Char :=
  replaceChar '/' ['~', '1'] (replaceChar '~' ['~', '0'] name.toList)

def unescapeName : List Char → List Char
  | '~' :: '0' :: l => '~' :: unescapeName l
  | '~' :: '1' :: l => '/' :: unescapeName l
  | c :: l => c :: unescapeName l
  | [] => []

def pointerText (path : List String) : String :=
  String.ofList (path.flatMap fun name => '/' :: escapeName name)

def pointer (text : String) : Option (List String) :=
  match text.toList with
  | [] => some []
  | c :: l =>
    if c = '/' then
      some ((l.splitOn '/').map fun name => String.ofList (unescapeName name)) else none

theorem escapeName_eq (name : String) : escapeName name =
    name.toList.flatMap fun c =>
      if c = '~' then ['~', '0'] else if c = '/' then ['~', '1'] else [c] := by
  rw [escapeName, replaceChar, replaceChar, List.flatMap_assoc]
  congr 1
  funext c
  by_cases htilde : c = '~'
  · subst htilde
    rfl
  · simp [htilde]

theorem unescapeName_cons {c : Char} {l : List Char} (h : c ≠ '~') :
    unescapeName (c :: l) = c :: unescapeName l := by
  rw [unescapeName]
  · intro _ hc
    exact absurd hc h
  · intro _ hc
    exact absurd hc h

theorem unescapeName_escapeName (name : String) :
    String.ofList (unescapeName (escapeName name)) = name := by
  have hchars : ∀ l : List Char, unescapeName (l.flatMap fun c =>
      if c = '~' then ['~', '0'] else if c = '/' then ['~', '1'] else [c]) = l := by
    intro l
    induction l with
    | nil => rfl
    | cons c l ih =>
      rw [List.flatMap_cons]
      by_cases htilde : c = '~'
      · subst htilde
        exact congrArg _ ih
      · by_cases hslash : c = '/'
        · subst hslash
          exact congrArg _ ih
        · rw [if_neg htilde, if_neg hslash, List.singleton_append, unescapeName_cons htilde, ih]
  rw [escapeName_eq, hchars, String.ofList_toList]

theorem slash_notMem_escapeName (name : String) : '/' ∉ escapeName name := by
  rw [escapeName_eq, List.mem_flatMap]
  rintro ⟨c, -, hc⟩
  split at hc
  · simp at hc
  · split at hc
    · simp at hc
    · next hslash => exact hslash (List.mem_singleton.mp hc).symm

theorem pointer_pointerText (path : List String) : pointer (pointerText path) = some path := by
  cases path with
  | nil => rfl
  | cons name path =>
    have htext : (pointerText (name :: path)).toList =
        '/' :: List.intercalate ['/'] ((name :: path).map escapeName) := by
      rw [pointerText, String.toList_ofList]
      induction path generalizing name with
      | nil => simp [List.intercalate]
      | cons next path ih =>
        rw [List.flatMap_cons, ih]
        simp [List.intercalate]
    have hnames : ((name :: path).map escapeName).map
        (fun name => String.ofList (unescapeName name)) = name :: path := by
      rw [List.map_map]
      exact (List.map_congr_left fun name _ => unescapeName_escapeName name).trans (List.map_id' _)
    rw [pointer, htext]
    simp only [if_true]
    rw [List.splitOn_intercalate, hnames]
    · intro l hl
      obtain ⟨name, -, rfl⟩ := List.mem_map.mp hl
      exact slash_notMem_escapeName name
    · exact List.cons_ne_nil _ _

theorem pointerText_injective : Function.Injective pointerText := by
  intro path path' h
  have hread := pointer_pointerText path
  rw [h, pointer_pointerText path'] at hread
  exact (Option.some.inj hread).symm

theorem pointerText_concat (path : List String) (name : String) :
    pointerText (path ++ [name]) = pointerText path ++ "/" ++ String.ofList (escapeName name) := by
  rw [← String.toList_inj]
  simp [pointerText, String.toList_append]

end Json
