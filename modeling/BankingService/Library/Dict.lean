import BankingService.Library.Table

/-! Dictionaries that keep the order of insertion, and the dictionary of a table's rows. -/
namespace Relational

universe u v w x

/-- A new key goes to the end, a present one keeps its place. -/
abbrev Dict (κ : Type u) (α : Type v) := List (κ × α)

namespace Dict

variable {κ : Type u} {α : Type v} [DecidableEq κ]

def get? (d : Dict κ α) (k : κ) : Option α := (d.find? fun x => x.1 = k).map Prod.snd

def values (d : Dict κ α) : List α := d.map Prod.snd

def set (d : Dict κ α) (k : κ) (a : α) : Dict κ α :=
  if ∃ x ∈ d, x.1 = k then d.map fun x => if x.1 = k then (k, a) else x else d ++ [(k, a)]

theorem get?_set (d : Dict κ α) (k k' : κ) (a : α) :
    (d.set k a).get? k' = if k' = k then some a else d.get? k' := by
  have hmap : ∀ l : Dict κ α, get? (l.map fun x => if x.1 = k then (k, a) else x) k' =
      if k' = k then (if ∃ x ∈ l, x.1 = k then some a else none) else get? l k' := by
    intro l
    induction l with
    | nil => simp [get?]
    | cons x l ih =>
      simp only [get?] at ih ⊢
      rw [List.map_cons, List.find?_cons, List.find?_cons]
      by_cases hk : k' = k
      · subst hk
        by_cases hx : x.1 = k'
        · simp [hx]
        · simp only [if_neg hx, decide_eq_false hx]
          have hsame : (∃ y ∈ l, y.1 = k') ↔ ∃ y ∈ x :: l, y.1 = k' := by simp [hx]
          rw [ih, if_pos rfl, if_pos trivial]
          exact if_congr hsame rfl rfl
      · have hkk : ¬ k = k' := fun h => hk h.symm
        by_cases hx : x.1 = k
        · have hxk : ¬ x.1 = k' := fun h => hkk (hx.symm.trans h)
          simp only [if_pos hx, decide_eq_false hkk, decide_eq_false hxk]
          rw [ih]
          simp [hk]
        · by_cases hxk : x.1 = k'
          · simp [hxk, hk]
          · simp only [if_neg hx, decide_eq_false hxk]
            rw [ih]
            simp [hk]
  unfold set
  by_cases hpresent : ∃ x ∈ d, x.1 = k
  · rw [if_pos hpresent, hmap, if_pos hpresent]
  · rw [if_neg hpresent]
    simp only [get?, List.find?_append]
    by_cases hk : k' = k
    · subst hk
      have hnone : d.find? (fun x => x.1 = k') = none :=
        List.find?_eq_none.mpr fun x hx hxk => hpresent ⟨x, hx, of_decide_eq_true hxk⟩
      simp [hnone]
    · have hkk : ¬ k = k' := fun h => hk h.symm
      simp [hk, hkk]

end Dict

variable {ρ : Type u} {κ : Type v} [Row ρ κ] {κ' : Type w} {α : Type x} [DecidableEq κ']

def dictOf (g : κ → κ') (h : ρ → α) (t : Table ρ) : Dict κ' α :=
  t.rows.map fun r => (g (Row.key r), h r)

/-- In the dictionary of the table, `k'` is the name of `k`. -/
def Named (g : κ → κ') (t : Table ρ) (k : κ) (k' : κ') : Prop :=
  ∀ r ∈ t.rows, g (Row.key r) = k' ↔ Row.key r = k

variable {g : κ → κ'} {h : ρ → α} {t t' : Table ρ} {k : κ} {k' : κ'} {r : ρ}

omit [DecidableEq κ'] in
theorem values_dictOf : (dictOf g h t).values = t.rows.map h := by
  simp [dictOf, Dict.values]

theorem get?_dictOf (named : Named g t k k') : (dictOf g h t).get? k' = (t.get? k).map h := by
  have hfind : ∀ l : List ρ, (∀ r ∈ l, g (Row.key r) = k' ↔ Row.key r = k) →
      ((l.map fun r => (g (Row.key r), h r)).find? fun x => x.1 = k').map Prod.snd =
        (l.find? fun r => Row.key r = k).map h := by
    intro l hl
    induction l with
    | nil => rfl
    | cons r l ih =>
      have hrest := ih fun x hx => hl x (List.mem_cons_of_mem _ hx)
      have hr := hl r List.mem_cons_self
      by_cases hk : Row.key r = k
      · have hk' := hr.mpr hk
        rw [List.map_cons, List.find?_cons, List.find?_cons]
        simp only [hk', decide_true, Option.map_some]
        simp only [hk, decide_true, Option.map_some]
      · simp only [List.map_cons, List.find?_cons, mt hr.mp hk, hk, decide_false]
        exact hrest
  exact hfind t.rows named

theorem set_dictOf_update {f : ρ → ρ} {free : ∀ a b, Row.Clash (f a) b → Row.Clash a b} {a : α}
    (hr : t.get? k = some r) (named : Named g t k k') (key : Row.key (f r) = k) (ha : a = h (f r)) :
    (dictOf g h t).set k' a = dictOf g h (t.update k f free) := by
  subst ha
  obtain ⟨hmem, hkey⟩ := Table.get?_eq_some.mp hr
  have hpresent : ∃ x ∈ dictOf g h t, x.1 = k' :=
    ⟨_, List.mem_map_of_mem hmem, (named r hmem).mpr hkey⟩
  rw [Dict.set, if_pos hpresent, dictOf, List.map_map]
  simp only [dictOf, Table.update, List.map_map]
  refine List.map_congr_left fun x hx => ?_
  simp only [Function.comp]
  by_cases hk : Row.key x = k
  · obtain rfl : x = r := Table.eq_of_key hx hmem (hk.trans hkey.symm)
    rw [if_pos ((named x hx).mpr hk), if_pos hk, key, ← (named x hx).mpr hk, hk]
  · rw [if_neg fun heq => hk ((named x hx).mp heq), if_neg hk]

theorem set_dictOf_insert {a : α} (hr : t.insert? r = some t') (key : g (Row.key r) = k')
    (fresh : ∀ x ∈ t.rows, g (Row.key x) ≠ k') (ha : a = h r) :
    (dictOf g h t).set k' a = dictOf g h t' := by
  subst key ha
  have habsent : ¬ ∃ x ∈ dictOf g h t, x.1 = g (Row.key r) := by
    rintro ⟨x, hx, heq⟩
    obtain ⟨y, hy, rfl⟩ := List.mem_map.mp hx
    exact fresh y hy heq
  rw [Dict.set, if_neg habsent, dictOf, dictOf, Table.rows_insert hr, List.map_append]
  rfl

theorem named_self [DecidableEq κ] : Named (id : κ → κ) t k k := fun _ _ => Iff.rfl

theorem filter_mergeSort {α : Type} {le : α → α → Bool} {l : List α} {p : α → Bool}
    (trans : ∀ a b c, le a b → le b c → le a c) (total : ∀ a b, le a b || le b a)
    (antisymm : ∀ a ∈ l, ∀ b ∈ l, le a b → le b a → a = b) :
    (l.mergeSort le).filter p = (l.filter p).mergeSort le := by
  refine @List.Perm.eq_of_pairwise _ (fun a b => le a b) _ _ ?_ ?_ ?_ ?_
  · intro a b ha hb
    exact antisymm a ((List.mem_mergeSort).mp (List.mem_filter.mp ha).1) b
      (List.mem_filter.mp (List.mem_mergeSort.mp hb)).1
  · exact (List.pairwise_mergeSort trans total l).filter _
  · exact List.pairwise_mergeSort trans total _
  · exact ((List.mergeSort_perm l le).filter p).trans (List.mergeSort_perm _ le).symm

end Relational
