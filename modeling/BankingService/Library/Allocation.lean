import Mathlib.Algebra.Order.BigOperators.Group.List
import Mathlib.Algebra.Order.Group.Defs
import Mathlib.Algebra.Order.Monoid.Unbundled.MinMax

/-! An amount drawn from sources in turn, from each as much as it has and as is still needed. -/
namespace Allocation

section
variable {α : Type*} [AddCommGroup α] [LinearOrder α]

def draw (n c : α) : α := min n (max 0 c)

def draws : α → List α → List α
  | _, [] => []
  | n, c :: l => draw n c :: draws (n - draw n c) l

def capacity (l : List α) : α := (l.map (max 0)).sum

variable {n c : α} {l l' : List α}

theorem draw_nonneg (hn : 0 ≤ n) : 0 ≤ draw n c := le_min hn (le_max_left 0 c)

theorem draw_le : draw n c ≤ n := min_le_left _ _

theorem draw_le_source : draw n c ≤ max 0 c := min_le_right _ _

@[simp] theorem capacity_nil : capacity ([] : List α) = 0 := rfl

@[simp] theorem capacity_cons : capacity (c :: l) = max 0 c + capacity l := List.sum_cons

theorem length_draws (n : α) (l : List α) : (draws n l).length = l.length := by
  induction l generalizing n with
  | nil => rfl
  | cons c l ih => rw [draws, List.length_cons, List.length_cons, ih]

theorem draws_append (n : α) (l l' : List α) :
    draws n (l ++ l') = draws n l ++ draws (n - (draws n l).sum) l' := by
  induction l generalizing n with
  | nil => rw [draws, List.sum_nil, sub_zero, List.nil_append, List.nil_append]
  | cons c l ih => rw [List.cons_append, draws, ih, draws, List.cons_append, List.sum_cons, sub_sub]

end

section
variable {α : Type*} [AddCommGroup α] [LinearOrder α] [IsOrderedAddMonoid α]
  {n : α} {l l' : List α}

theorem capacity_nonneg (l : List α) : 0 ≤ capacity l := by
  refine List.sum_nonneg fun x hx => ?_
  obtain ⟨c, -, rfl⟩ := List.mem_map.mp hx
  exact le_max_left 0 c

theorem draws_nonneg (hn : 0 ≤ n) : ∀ x ∈ draws n l, 0 ≤ x := by
  induction l generalizing n with
  | nil => nofun
  | cons c l ih =>
    rw [draws, List.forall_mem_cons]
    exact ⟨draw_nonneg hn, ih (sub_nonneg.mpr draw_le)⟩

theorem forall₂_draws (hn : 0 ≤ n) :
    List.Forall₂ (fun c x => 0 ≤ x ∧ x ≤ max 0 c) l (draws n l) := by
  induction l generalizing n with
  | nil => exact .nil
  | cons c l ih => exact .cons ⟨draw_nonneg hn, draw_le_source⟩ (ih (sub_nonneg.mpr draw_le))

/-- In all, what is needed or all that there is. -/
theorem sum_draws (hn : 0 ≤ n) : (draws n l).sum = min n (capacity l) := by
  induction l generalizing n with
  | nil => exact (min_eq_right hn).symm
  | cons c l ih =>
    have hrest : 0 ≤ n - draw n c := sub_nonneg.mpr draw_le
    rw [draws, List.sum_cons, ih hrest, capacity_cons, ← min_add_add_left, add_sub_cancel]
    rcases le_total n (max 0 c) with hle | hle
    · -- the source covers all that is needed
      have hdraw : draw n c = n := min_eq_left hle
      have hmore : ∀ {a : α}, n ≤ a → n ≤ a + capacity l := fun h =>
        h.trans (le_add_of_nonneg_right (capacity_nonneg l))
      rw [hdraw, min_eq_left (hmore le_rfl), min_eq_left (hmore hle)]
    · have hdraw : draw n c = max 0 c := min_eq_right hle
      rw [hdraw]

/-- While something is needed, every source so far has given all that it has. -/
theorem draws_eq_of_needed (hn : 0 ≤ n) (h : (draws n l).sum < n) :
    draws n l = l.map (max 0) := by
  induction l generalizing n with
  | nil => rfl
  | cons c l ih =>
    have hrest : 0 ≤ n - draw n c := sub_nonneg.mpr draw_le
    have htail := List.sum_nonneg (draws_nonneg (l := l) hrest)
    rw [draws, List.sum_cons] at h
    have hlt : draw n c < n := (le_add_of_nonneg_right htail).trans_lt h
    have hdraw : draw n c = max 0 c := by
      rcases min_choice n (max 0 c) with hmin | hmin
      · exact absurd hmin hlt.ne
      · exact hmin
    rw [draws, List.map_cons, ih hrest (lt_sub_iff_add_lt'.mpr h), hdraw]

/-- Where a later source gives something, every earlier one has given all that it has. -/
theorem draws_exhausted (hn : 0 ≤ n) (h : ∃ x ∈ draws (n - (draws n l).sum) l', x ≠ 0) :
    draws n l = l.map (max 0) := by
  refine draws_eq_of_needed hn (lt_of_le_of_ne ?_ fun heq => ?_)
  · rw [sum_draws hn]
    exact min_le_left _ _
  · obtain ⟨x, hx, hne⟩ := h
    rw [heq, sub_self] at hx
    have hsum : (draws (0 : α) l').sum = 0 := by
      rw [sum_draws le_rfl, min_eq_left (capacity_nonneg l')]
    exact hne (List.all_zero_of_le_zero_le_of_sum_eq_zero (draws_nonneg le_rfl) hsum hx)

end

/-- The draws `l'` as far as they went; after that nothing is drawn. -/
inductive Stopped {α : Type*} [Zero α] : List α → List α → Prop where
  | halted (l' : List α) : Stopped (l'.map fun _ => 0) l'
  | drew (x : α) {l l' : List α} (rest : Stopped l l') : Stopped (x :: l) (x :: l')

theorem Stopped.refl {α : Type*} [Zero α] (l : List α) : Stopped l l := by
  induction l with
  | nil => exact .halted []
  | cons x l ih => exact .drew x ih

theorem Stopped.append {α : Type*} [Zero α] {k₁ k₂ l₁ l₂ : List α}
    (h : Stopped (k₁ ++ k₂) (l₁ ++ l₂))
    (length : k₁.length = l₁.length) : (k₁ = l₁ ∧ Stopped k₂ l₂) ∨ ∀ x ∈ k₂, x = 0 := by
  induction k₁ generalizing l₁ with
  | nil =>
    rw [List.length_nil, eq_comm, List.length_eq_zero_iff] at length
    subst length
    exact Or.inl ⟨rfl, h⟩
  | cons x k₁ ih =>
    cases l₁ with
    | nil => cases length
    | cons y l₁ =>
      generalize hk : x :: k₁ ++ k₂ = k at h
      generalize hl : y :: l₁ ++ l₂ = l at h
      cases h with
      | halted =>
        right
        intro z hz
        have hmem : z ∈ l.map fun _ => (0 : α) := by
          rw [← hk]
          exact List.mem_append_right _ hz
        obtain ⟨-, -, rfl⟩ := List.mem_map.mp hmem
        rfl
      | drew z rest =>
        cases hk
        cases hl
        refine (ih rest (Nat.succ_inj.mp length)).imp_left fun ⟨heq, hrest⟩ => ⟨?_, hrest⟩
        rw [heq]

theorem Stopped.mem {α : Type*} [Zero α] {x : α} {k l : List α} (h : Stopped k l) (hx : x ∈ k)
    (hne : x ≠ 0) : x ∈ l := by
  induction h with
  | halted l =>
    obtain ⟨-, -, rfl⟩ := List.mem_map.mp hx
    exact absurd rfl hne
  | drew y rest ih =>
    rcases List.mem_cons.mp hx with rfl | hx
    · exact List.mem_cons_self
    · exact .tail _ (ih hx)

theorem Stopped.forall₂ {α β : Type*} [Zero α] {k l : List α} {m : List β} {R : β → α → Prop}
    (h : Stopped k l) (hl : List.Forall₂ R m l) (hzero : ∀ b ∈ m, R b 0) : List.Forall₂ R m k := by
  induction h generalizing m with
  | halted l =>
    induction hl with
    | nil => exact .nil
    | cons _ _ ih => exact .cons (hzero _ List.mem_cons_self) (ih fun b hb => hzero b (.tail _ hb))
  | drew x rest ih =>
    cases hl with
    | cons hx hrest => exact .cons hx (ih hrest fun b hb => hzero b (.tail _ hb))

theorem Stopped.sum_le {α : Type*} [AddCommGroup α] [LinearOrder α] [IsOrderedAddMonoid α]
    {k l : List α} (h : Stopped k l) (hl : ∀ x ∈ l, 0 ≤ x) : k.sum ≤ l.sum := by
  induction h with
  | halted l =>
    have hzero : (l.map fun _ => (0 : α)).sum = 0 := by simp
    rw [hzero]
    exact List.sum_nonneg hl
  | drew x rest ih =>
    rw [List.sum_cons, List.sum_cons]
    exact add_le_add_right (ih fun y hy => hl y (.tail _ hy)) x

end Allocation
