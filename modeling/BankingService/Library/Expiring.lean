import Mathlib.Logic.Function.Basic
import Mathlib.Tactic.Common

/-! Stores whose entries run out. An entry is read before its deadline only, and `setNx` writes
where there is nothing to read. -/
namespace Expiring

structure Entry (ν : Type*) where
  value : ν
  deadline : ℕ
  deriving DecidableEq, Repr

abbrev Store (κ ν : Type*) := κ → Option (Entry ν)

variable {κ ν : Type*}

def live (s : Store κ ν) (now : ℕ) (k : κ) : Option (Entry ν) :=
  (s k).filter fun e => now < e.deadline

def get (s : Store κ ν) (now : ℕ) (k : κ) : Option ν := (live s now k).map Entry.value

section

variable [DecidableEq κ]

def setNx (s : Store κ ν) (now ttl : ℕ) (k : κ) (v : ν) : Store κ ν × Bool :=
  if (live s now k).isSome then (s, false)
  else (Function.update s k (some ⟨v, now + ttl⟩), true)

def delete (s : Store κ ν) (k : κ) : Store κ ν := Function.update s k none

end

/-- No entry at the key outlasts the time by more than `ttl`. -/
def Within (s : Store κ ν) (now ttl : ℕ) (k : κ) : Prop :=
  ∀ e, s k = some e → e.deadline ≤ now + ttl

variable {s : Store κ ν} {now ttl : ℕ} {k l : κ} {v : ν} {e : Entry ν}

theorem live_eq_some : live s now k = some e ↔ s k = some e ∧ now < e.deadline := by
  simp [live, Option.filter_eq_some_iff]

theorem live_eq_none : live s now k = none ↔ ∀ e, s k = some e → e.deadline ≤ now := by
  simp [live, Option.filter_eq_none_iff]

theorem Within.later (h : Within s now ttl k) (d : ℕ) : Within s (now + d) ttl k := by
  intro e he
  have := h e he
  omega

/-- What is within `ttl` has run out that much later. -/
theorem Within.free (h : Within s now ttl k) : live s (now + ttl) k = none :=
  live_eq_none.mpr h

variable [DecidableEq κ]

theorem setNx_free (h : live s now k = none) :
    setNx s now ttl k v = (Function.update s k (some ⟨v, now + ttl⟩), true) := by
  simp [setNx, h]

theorem setNx_taken (h : live s now k = some e) : setNx s now ttl k v = (s, false) := by
  simp [setNx, h]

theorem setNx_other (h : l ≠ k) : (setNx s now ttl k v).1 l = s l := by
  unfold setNx
  split
  · rfl
  · exact Function.update_of_ne h _ _

theorem delete_other (h : l ≠ k) : delete s k l = s l := Function.update_of_ne h _ _

theorem Within.setNx (h : Within s now ttl k) : Within (setNx s now ttl k v).1 now ttl k := by
  cases hl : live s now k with
  | none =>
    intro e he
    simp only [setNx_free hl, Function.update_self, Option.some.injEq] at he
    subst he
    exact Nat.le_refl _
  | some e => rwa [setNx_taken hl]

theorem Within.delete (h : Within s now ttl k) : Within (delete s l) now ttl k := by
  intro e he
  by_cases hk : k = l
  · subst hk
    simp [Expiring.delete] at he
  · rw [delete_other hk] at he
    exact h e he

end Expiring
