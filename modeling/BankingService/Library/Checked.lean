import Mathlib.Data.List.Forall2
import Mathlib.Tactic.Common

/-! Computations that may raise. A function body is a chain of checks and writes; these lemmas
take a successful chain apart, one bind at a time, without unfolding the monad. -/
namespace Checked

universe u v
variable {ε : Type u} {α β : Type v}

/-- Raise `e` unless `c` holds. -/
def require (c : Prop) [Decidable c] (e : ε) : Except ε Unit :=
  if c then .ok () else .error e

def orRaise (o : Option α) (e : ε) : Except ε α :=
  match o with
  | some a => .ok a
  | none => .error e

@[simp] theorem bind_eq_ok {x : Except ε α} {f : α → Except ε β} {b : β} :
    (x >>= f) = .ok b ↔ ∃ a, x = .ok a ∧ f a = .ok b := by
  cases x <;> simp [bind, Except.bind]

@[simp] theorem pure_eq_ok {a b : α} : (pure a : Except ε α) = .ok b ↔ a = b := by
  simp [pure, Except.pure]

@[simp] theorem map_eq_ok {x : Except ε α} {f : α → β} {b : β} :
    f <$> x = .ok b ↔ ∃ a, x = .ok a ∧ f a = b := by
  cases x <;> simp [Functor.map, Except.map]

@[simp] theorem require_eq_ok {c : Prop} [Decidable c] {e : ε} {u : Unit} :
    require c e = .ok u ↔ c := by
  unfold require
  split <;> simp [*]

@[simp] theorem orRaise_eq_ok {o : Option α} {e : ε} {a : α} :
    orRaise o e = .ok a ↔ o = some a := by
  cases o <;> simp [orRaise]

theorem ok_bind {a : α} {f : α → Except ε β} : ((.ok a : Except ε α) >>= f) = f a := rfl

theorem require_of {c : Prop} [Decidable c] {e : ε} (h : c) : require c e = .ok () := if_pos h

theorem exists_bind {x : Except ε α} {f : α → Except ε β} (hx : ∃ a, x = .ok a)
    (hf : ∀ a, x = .ok a → ∃ b, f a = .ok b) : ∃ b, (x >>= f) = .ok b := by
  obtain ⟨a, ha⟩ := hx
  obtain ⟨b, hb⟩ := hf a ha
  exact ⟨b, bind_eq_ok.mpr ⟨a, ha, hb⟩⟩

theorem mapM_eq_ok {f : α → Except ε β} {l : List α} {l' : List β} :
    l.mapM f = .ok l' ↔ List.Forall₂ (fun a b => f a = .ok b) l l' := by
  induction l generalizing l' with
  | nil => rw [List.mapM_nil, pure_eq_ok, List.forall₂_nil_left_iff, eq_comm]
  | cons a l ih =>
    rw [List.mapM_cons, List.forall₂_cons_left_iff]
    simp only [bind_eq_ok, pure_eq_ok, ih]
    constructor
    · rintro ⟨b, hb, bs, hbs, rfl⟩
      exact ⟨b, bs, hb, hbs, rfl⟩
    · rintro ⟨b, bs, hb, hbs, rfl⟩
      exact ⟨b, hb, bs, hbs, rfl⟩

theorem mapM_eq_map {f : α → Except ε β} {g : α → β} {l : List α} {l' : List β}
    (hf : ∀ a b, f a = .ok b → b = g a) (h : l.mapM f = .ok l') : l' = l.map g := by
  have hall := mapM_eq_ok.mp h
  clear h
  induction hall with
  | nil => rfl
  | cons hab _ ih => rw [List.map_cons, hf _ _ hab, ih]

theorem ok_or_error (x : Except ε α) : (∃ a, x = .ok a) ∨ ∃ e, x = .error e := by
  cases x with
  | ok a => exact Or.inl ⟨a, rfl⟩
  | error e => exact Or.inr ⟨e, rfl⟩

instance decidableSucceeds (x : Except ε α) : Decidable (∃ a, x = .ok a) :=
  match x with
  | .ok a => isTrue ⟨a, rfl⟩
  | .error _ => isFalse fun ⟨_, h⟩ => nomatch h

theorem mapError_eq_ok {ε ε' α : Type*} {f : ε → ε'} {x : Except ε α} {a : α} :
    x.mapError f = .ok a ↔ x = .ok a := by
  cases x <;> simp [Except.mapError]

theorem mem_right_of_forall₂ {α β : Type} {R : α → β → Prop} {l : List α} {l' : List β} {y : β}
    (h : List.Forall₂ R l l') (hy : y ∈ l') : ∃ x ∈ l, R x y := by
  induction h with
  | nil => cases hy
  | cons hxy _ ih =>
    rcases List.mem_cons.mp hy with rfl | hy
    · exact ⟨_, List.mem_cons_self, hxy⟩
    · obtain ⟨x, hx, hR⟩ := ih hy
      exact ⟨x, List.mem_cons_of_mem _ hx, hR⟩

end Checked
