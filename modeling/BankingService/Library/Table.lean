import Mathlib.Algebra.BigOperators.Group.List.Basic
import Mathlib.Data.List.Pairwise
import Mathlib.Tactic.Abel

/-! Tables of a relational store. A table is a list of rows, in storage order, no two of which
clash on a primary key or a unique constraint. -/
namespace Relational

universe u v
variable {ρ : Type u} {κ : Type v}

/-- The primary key of a row, and when two rows would violate a unique constraint. -/
class Row (ρ : Type u) (κ : outParam (Type v)) where
  key : ρ → κ
  Clash : ρ → ρ → Prop
  [keyDecEq : DecidableEq κ]
  [clashDec : DecidableRel Clash]
  clash_symm : ∀ {a b}, Clash a b → Clash b a
  clash_of_key : ∀ {a b}, key a = key b → Clash a b

attribute [reducible, instance] Row.keyDecEq Row.clashDec

@[reducible] def Row.ofKey [DecidableEq κ] (key : ρ → κ) : Row ρ κ where
  key := key
  Clash a b := key a = key b
  clash_symm := fun h => h.symm
  clash_of_key := fun h => h

structure Table (ρ : Type u) {κ : Type v} [Row ρ κ] where
  rows : List ρ
  distinct : rows.Pairwise fun a b => ¬ Row.Clash a b

variable [Row ρ κ]

namespace Table

def empty : Table ρ := ⟨[], List.Pairwise.nil⟩

def single (r : ρ) : Table ρ := ⟨[r], List.pairwise_singleton _ r⟩

def get? (t : Table ρ) (k : κ) : Option ρ :=
  t.rows.find? fun r => Row.key r = k

def first? (t : Table ρ) (p : ρ → Prop) [DecidablePred p] : Option ρ :=
  t.rows.find? fun r => p r

def select (t : Table ρ) (p : ρ → Prop) [DecidablePred p] : List ρ :=
  t.rows.filter fun r => p r

/-- The row is refused where a unique constraint forbids it. -/
def insert? (t : Table ρ) (r : ρ) : Option (Table ρ) :=
  if h : ∀ x ∈ t.rows, ¬ Row.Clash x r then
    some ⟨t.rows ++ [r], List.pairwise_append.mpr
      ⟨t.distinct, List.pairwise_singleton _ _, by simpa using h⟩⟩
  else none

/-- Columns outside the unique constraints are overwritten in the row with key `k`. -/
def update (t : Table ρ) (k : κ) (f : ρ → ρ)
    (free : ∀ a b, Row.Clash (f a) b → Row.Clash a b := by exact fun _ _ h => h) : Table ρ where
  rows := t.rows.map fun r => if Row.key r = k then f r else r
  distinct := by
    rw [List.pairwise_map]
    refine t.distinct.imp ?_
    intro a b hab
    have hba : ¬ Row.Clash b a := fun h => hab (Row.clash_symm h)
    split <;> split <;> rename_i ha hb
    · exact absurd (Row.clash_of_key (ha.trans hb.symm)) hab
    · exact fun h => hab (free _ _ h)
    · exact fun h => hba (free _ _ (Row.clash_symm h))
    · exact hab

def remove (t : Table ρ) (p : ρ → Prop) [DecidablePred p] : Table ρ where
  rows := t.rows.filter fun r => ¬ p r
  distinct := t.distinct.sublist List.filter_sublist

variable {t t' : Table ρ} {r r' : ρ} {k k' : κ}

theorem eq_of_clash (h : r ∈ t.rows) (h' : r' ∈ t.rows) (hc : Row.Clash r r') : r = r' := by
  by_contra hne
  have : Std.Symm fun a b : ρ => ¬ Row.Clash a b := ⟨fun _ _ hab hba => hab (Row.clash_symm hba)⟩
  exact t.distinct.forall h h' hne hc

theorem eq_of_key (h : r ∈ t.rows) (h' : r' ∈ t.rows) (hk : Row.key r = Row.key r') : r = r' :=
  eq_of_clash h h' (Row.clash_of_key hk)

theorem get?_eq_some : t.get? k = some r ↔ r ∈ t.rows ∧ Row.key r = k := by
  unfold get?
  constructor
  · intro h
    exact ⟨List.mem_of_find?_eq_some h, by simpa using List.find?_some h⟩
  · rintro ⟨hr, rfl⟩
    cases h : t.rows.find? fun x => Row.key x = Row.key r with
    | none =>
      rw [List.find?_eq_none] at h
      exact absurd (decide_eq_true rfl) (h r hr)
    | some x =>
      have hk : Row.key x = Row.key r := by simpa using List.find?_some h
      rw [eq_of_key (List.mem_of_find?_eq_some h) hr hk]

theorem get?_eq_none : t.get? k = none ↔ ∀ r ∈ t.rows, Row.key r ≠ k := by
  simp [get?, List.find?_eq_none]

theorem get?_of_mem (h : r ∈ t.rows) : t.get? (Row.key r) = some r :=
  get?_eq_some.mpr ⟨h, rfl⟩

theorem first?_mem {p : ρ → Prop} [DecidablePred p] (h : t.first? p = some r) :
    r ∈ t.rows ∧ p r :=
  ⟨List.mem_of_find?_eq_some h, by simpa using List.find?_some h⟩

theorem first?_eq_none {p : ρ → Prop} [DecidablePred p] :
    t.first? p = none ↔ ∀ r ∈ t.rows, ¬ p r := by
  simp [first?, List.find?_eq_none]

theorem first?_eq_some_of_unique {p : ρ → Prop} [DecidablePred p]
    (hp : ∀ a b, p a → p b → Row.Clash a b) (h : r ∈ t.rows) (hr : p r) :
    t.first? p = some r := by
  cases hx : t.first? p with
  | none => exact absurd hr (first?_eq_none.mp hx r h)
  | some x =>
    obtain ⟨hm, hpx⟩ := first?_mem hx
    rw [eq_of_clash hm h (hp x r hpx hr)]

theorem mem_select {p : ρ → Prop} [DecidablePred p] : r ∈ t.select p ↔ r ∈ t.rows ∧ p r := by
  simp [select]

theorem select_eq_singleton {p : ρ → Prop} [DecidablePred p] (h : r ∈ t.rows) (hr : p r)
    (unique : ∀ x ∈ t.rows, p x → Row.Clash x r) : t.select p = [r] := by
  have hone : ∀ x ∈ t.select p, x = r := by
    intro x hx
    obtain ⟨hx, hpx⟩ := mem_select.mp hx
    exact eq_of_clash hx h (unique x hx hpx)
  have hdistinct : (t.select p).Pairwise fun a b => ¬ Row.Clash a b :=
    t.distinct.sublist List.filter_sublist
  cases hl : t.select p with
  | nil => exact absurd (hl ▸ mem_select.mpr ⟨h, hr⟩) List.not_mem_nil
  | cons a l =>
    rw [hl] at hone hdistinct
    obtain rfl := hone a List.mem_cons_self
    cases l with
    | nil => rfl
    | cons b l =>
      obtain rfl := hone b (.tail _ List.mem_cons_self)
      exact absurd (Row.clash_of_key rfl) ((List.pairwise_cons.mp hdistinct).1 _ List.mem_cons_self)

theorem insert?_eq_some : t.insert? r = some t' ↔
    (∀ x ∈ t.rows, ¬ Row.Clash x r) ∧ t'.rows = t.rows ++ [r] := by
  unfold insert?
  split
  · next h =>
    simp only [Option.some.injEq]
    constructor
    · rintro rfl
      exact ⟨h, rfl⟩
    · rintro ⟨-, hr⟩
      cases t'
      simp_all
  · next h =>
    simp only [reduceCtorEq, false_iff, not_and]
    exact fun h' => absurd h' h

theorem insert?_eq_none : t.insert? r = none ↔ ∃ x ∈ t.rows, Row.Clash x r := by
  unfold insert?
  split
  · next h => simpa using h
  · next h => simpa using h

theorem insert?_of_free (free : ∀ x ∈ t.rows, ¬ Row.Clash x r) : ∃ t', t.insert? r = some t' := by
  rw [← Option.ne_none_iff_exists', ne_eq, insert?_eq_none]
  rintro ⟨x, hx, hclash⟩
  exact free x hx hclash

theorem rows_insert (h : t.insert? r = some t') : t'.rows = t.rows ++ [r] :=
  (insert?_eq_some.mp h).2

theorem fresh_insert (h : t.insert? r = some t') {x : ρ} (hx : x ∈ t.rows) :
    ¬ Row.Clash x r :=
  (insert?_eq_some.mp h).1 x hx

theorem mem_insert (h : t.insert? r = some t') {x : ρ} : x ∈ t'.rows ↔ x ∈ t.rows ∨ x = r := by
  rw [rows_insert h]
  simp

theorem get?_insert (h : t.insert? r = some t') :
    t'.get? k = if Row.key r = k then some r else t.get? k := by
  split
  · next hk => exact get?_eq_some.mpr ⟨(mem_insert h).mpr (Or.inr rfl), hk⟩
  · next hk =>
    unfold get?
    rw [rows_insert h, List.find?_append]
    simp [hk]

theorem get?_insert_of_some (h : t.insert? r = some t') {x : ρ} (hx : t.get? k = some x) :
    t'.get? k = some x := by
  obtain ⟨hm, hk⟩ := get?_eq_some.mp hx
  exact get?_eq_some.mpr ⟨(mem_insert h).mpr (Or.inl hm), hk⟩

theorem get?_insert_self (h : t.insert? r = some t') : t'.get? (Row.key r) = some r := by
  simp [get?_insert h]

theorem first?_insert (h : t.insert? r = some t') {p : ρ → Prop} [DecidablePred p] :
    t'.first? p = (t.first? p).or (if p r then some r else none) := by
  unfold first?
  rw [rows_insert h, List.find?_append]
  by_cases hp : p r <;> simp [hp]

theorem select_insert (h : t.insert? r = some t') {p : ρ → Prop} [DecidablePred p] :
    t'.select p = t.select p ++ [r].filter fun r => p r := by
  unfold select
  rw [rows_insert h, List.filter_append]

def insertAll? (t : Table ρ) : List ρ → Option (Table ρ)
  | [] => some t
  | r :: l => (t.insert? r).bind fun t' => t'.insertAll? l

theorem rows_insertAll {l : List ρ} (h : t.insertAll? l = some t') : t'.rows = t.rows ++ l := by
  induction l generalizing t with
  | nil =>
    cases h
    simp
  | cons r l ih =>
    obtain ⟨u, hu, hl⟩ := Option.bind_eq_some_iff.mp h
    rw [ih hl, rows_insert hu, List.append_assoc]
    rfl

theorem insertAll?_of_free {l : List ρ} (free : ∀ x ∈ t.rows, ∀ r ∈ l, ¬ Row.Clash x r)
    (apart : l.Pairwise fun a b => ¬ Row.Clash a b) : ∃ t', t.insertAll? l = some t' := by
  induction l generalizing t with
  | nil => exact ⟨t, rfl⟩
  | cons r l ih =>
    obtain ⟨hr, hl⟩ := List.pairwise_cons.mp apart
    obtain ⟨u, hu⟩ := insert?_of_free fun x hx => free x hx r List.mem_cons_self
    have hrest : ∀ x ∈ u.rows, ∀ s ∈ l, ¬ Row.Clash x s := by
      intro x hx s hs
      rcases (mem_insert hu).mp hx with hx | rfl
      · exact free x hx s (.tail _ hs)
      · exact hr s hs
    obtain ⟨t', ht'⟩ := ih hrest hl
    exact ⟨t', by rw [insertAll?, hu, Option.bind_some, ht']⟩

theorem mem_insertAll {l : List ρ} (h : t.insertAll? l = some t') {x : ρ} :
    x ∈ t'.rows ↔ x ∈ t.rows ∨ x ∈ l := by
  rw [rows_insertAll h, List.mem_append]

theorem select_insertAll {l : List ρ} (h : t.insertAll? l = some t') {p : ρ → Prop}
    [DecidablePred p] : t'.select p = t.select p ++ l.filter fun r => p r := by
  unfold select
  rw [rows_insertAll h, List.filter_append]

theorem select_eq_nil {p : ρ → Prop} [DecidablePred p] :
    t.select p = [] ↔ ∀ r ∈ t.rows, ¬ p r := by
  simp [select, List.filter_eq_nil_iff]

theorem mem_update {x : ρ} {f : ρ → ρ}
    (free : ∀ a b, Row.Clash (f a) b → Row.Clash a b := by exact fun _ _ h => h) :
    x ∈ (t.update k f free).rows ↔
    ∃ r ∈ t.rows, x = if Row.key r = k then f r else r := by
  simp [update, eq_comm]

theorem get?_update (f : ρ → ρ)
    (hk : ∀ a : ρ, Row.key (f a) = Row.key a := by exact fun _ => rfl)
    (free : ∀ a b, Row.Clash (f a) b → Row.Clash a b := by exact fun _ _ h => h) :
    (t.update k f free).get? k' = if k' = k then (t.get? k).map f else t.get? k' := by
  have h : ∀ r : ρ, Row.key (if Row.key r = k then f r else r) = Row.key r := by
    intro r
    split
    · exact hk r
    · rfl
  unfold get? update
  rw [List.find?_map]
  simp only [Function.comp_def, h]
  split
  · next hkk =>
    subst hkk
    cases hx : t.rows.find? fun r => Row.key r = k' with
    | none => rfl
    | some x =>
      have hxk : Row.key x = k' := by simpa using List.find?_some hx
      simp [hxk]
  · next hkk =>
    cases hx : t.rows.find? fun r => Row.key r = k' with
    | none => rfl
    | some x =>
      have hxk : Row.key x = k' := by simpa using List.find?_some hx
      simp [hxk, hkk]

theorem get?_update_self (f : ρ → ρ) (h : t.get? k = some r)
    (hk : ∀ a : ρ, Row.key (f a) = Row.key a := by exact fun _ => rfl)
    (free : ∀ a b, Row.Clash (f a) b → Row.Clash a b := by exact fun _ _ h => h) :
    (t.update k f free).get? k = some (f r) := by
  rw [get?_update f hk free, if_pos rfl, h, Option.map_some]

theorem get?_update_of_ne (f : ρ → ρ) (h : k' ≠ k)
    (hk : ∀ a : ρ, Row.key (f a) = Row.key a := by exact fun _ => rfl)
    (free : ∀ a b, Row.Clash (f a) b → Row.Clash a b := by exact fun _ _ h => h) :
    (t.update k f free).get? k' = t.get? k' := by
  rw [get?_update f hk free, if_neg h]

def updateAll (t : Table ρ) (f : ρ → ρ)
    (free : ∀ a b, Row.Clash (f a) (f b) → Row.Clash a b := by exact fun _ _ h => h) : Table ρ where
  rows := t.rows.map f
  distinct := by
    rw [List.pairwise_map]
    exact t.distinct.imp fun hab h => hab (free _ _ h)

theorem get?_updateAll (f : ρ → ρ)
    (hk : ∀ a : ρ, Row.key (f a) = Row.key a := by exact fun _ => rfl)
    (free : ∀ a b, Row.Clash (f a) (f b) → Row.Clash a b := by exact fun _ _ h => h) :
    (t.updateAll f free).get? k = (t.get? k).map f := by
  unfold get? updateAll
  rw [List.find?_map]
  simp only [Function.comp_def, hk]

/-- An update of any columns, refused where the new row would clash with another one. -/
def update? (t : Table ρ) (k : κ) (f : ρ → ρ) : Option (Table ρ) :=
  if h : (t.rows.map fun r => if Row.key r = k then f r else r).Pairwise
      fun a b => ¬ Row.Clash a b then some ⟨_, h⟩ else none

theorem update?_of_free (h : t.get? k = some r) (free : ∀ b, Row.Clash r' b → Row.Clash r b) :
    ∃ t', t.update? k (fun _ => r') = some t' := by
  obtain ⟨hr, hk⟩ := get?_eq_some.mp h
  have hrow : ∀ a ∈ t.rows, Row.key a = k → a = r :=
    fun a ha hak => eq_of_key ha hr (hak.trans hk.symm)
  refine ⟨_, dif_pos ?_⟩
  rw [List.pairwise_map]
  refine t.distinct.imp_of_mem ?_
  intro a b ha hb hab
  split <;> split <;> rename_i hak hbk
  · exact absurd (Row.clash_of_key (hak.trans hbk.symm)) hab
  · rw [hrow a ha hak] at hab
    exact fun hc => hab (free b hc)
  · rw [hrow b hb hbk] at hab
    exact fun hc => hab (Row.clash_symm (free a (Row.clash_symm hc)))
  · exact hab

theorem rows_of_update? {f : ρ → ρ} (h : t.update? k f = some t') :
    t'.rows = t.rows.map fun r => if Row.key r = k then f r else r := by
  unfold update? at h
  split at h
  · cases h
    rfl
  · cases h

theorem mem_update? {f : ρ → ρ} (h : t.update? k f = some t') {x : ρ} :
    x ∈ t'.rows ↔ ∃ r ∈ t.rows, x = if Row.key r = k then f r else r := by
  rw [rows_of_update? h]
  simp [eq_comm]

theorem get?_update? {f : ρ → ρ} (h : t.update? k f = some t')
    (hk : ∀ a : ρ, Row.key a = k → Row.key (f a) = k) :
    t'.get? k' = if k' = k then (t.get? k).map f else t.get? k' := by
  split
  · next hkk =>
    subst hkk
    cases hx : t.get? k' with
    | none =>
      refine get?_eq_none.mpr ?_
      intro r hr
      obtain ⟨a, ha, rfl⟩ := (mem_update? h).mp hr
      have hne := get?_eq_none.mp hx a ha
      simp [hne]
    | some x =>
      obtain ⟨hm, hkey⟩ := get?_eq_some.mp hx
      exact get?_eq_some.mpr ⟨(mem_update? h).mpr ⟨x, hm, by simp [hkey]⟩, hk x hkey⟩
  · next hkk =>
    cases hx : t.get? k' with
    | none =>
      refine get?_eq_none.mpr ?_
      intro r hr
      obtain ⟨a, ha, rfl⟩ := (mem_update? h).mp hr
      by_cases hak : Row.key a = k
      · simp only [hak, if_true, hk a hak]
        exact fun e => hkk e.symm
      · simpa [hak] using get?_eq_none.mp hx a ha
    | some x =>
      obtain ⟨hm, rfl⟩ := get?_eq_some.mp hx
      exact get?_eq_some.mpr ⟨(mem_update? h).mpr ⟨x, hm, by simp [hkk]⟩, rfl⟩

variable {M : Type*} [AddCommMonoid M]

def total (t : Table ρ) (g : ρ → M) : M := (t.rows.map g).sum

theorem sum_select {p : ρ → Prop} [DecidablePred p] {g : ρ → M} :
    ((t.select p).map g).sum = t.total fun r => if p r then g r else 0 := by
  unfold select total
  induction t.rows with
  | nil => rfl
  | cons r l ih => by_cases hr : p r <;> simp [hr, ih]

theorem total_insert (h : t.insert? r = some t') (g : ρ → M) :
    t'.total g = t.total g + g r := by
  simp [total, rows_insert h]

private theorem sum_map_update {l : List ρ} {g : ρ → M} {f : ρ → ρ}
    (hd : l.Pairwise fun a b => ¬ Row.Clash a b) (hr : r ∈ l) (hk : Row.key r = k) :
    ((l.map fun x => if Row.key x = k then f x else x).map g).sum + g r =
      (l.map g).sum + g (f r) := by
  induction l with
  | nil => cases hr
  | cons x l ih =>
    rw [List.pairwise_cons] at hd
    rcases List.mem_cons.mp hr with rfl | hr
    · have hrest : (l.map fun x => if Row.key x = k then f x else x) = l := by
        refine (List.map_congr_left ?_).trans (List.map_id l)
        intro y hy
        have hyk : Row.key y ≠ k := fun h =>
          hd.1 y hy (Row.clash_of_key (hk.trans h.symm))
        simp [hyk]
      simp only [List.map_cons, hk, if_pos, List.sum_cons, hrest]
      abel
    · have hxk : Row.key x ≠ k := fun h =>
        hd.1 r hr (Row.clash_of_key (h.trans hk.symm))
      have := ih hd.2 hr
      simp only [List.map_cons, hxk, if_false, List.sum_cons]
      rw [add_assoc, this, add_assoc]

/-- An update changes a total by the change of its own row. -/
theorem total_update (f : ρ → ρ) (h : t.get? k = some r) (g : ρ → M)
    (free : ∀ a b, Row.Clash (f a) b → Row.Clash a b := by exact fun _ _ h => h) :
    (t.update k f free).total g + g r = t.total g + g (f r) := by
  obtain ⟨hr, hk⟩ := get?_eq_some.mp h
  exact sum_map_update t.distinct hr hk

end Table

end Relational
