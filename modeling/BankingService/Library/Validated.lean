import BankingService.Library.Checked
import Mathlib.Data.Int.Notation

/-! Values that carry the check they passed: bounded integers, strings of a given shape, records
with a validator. -/
namespace Checked

universe u v
variable {ε : Type u} {α : Type v}

abbrev Bounded (lo hi : ℤ) : Type := {n : ℤ // lo ≤ n ∧ n ≤ hi}

abbrev Matching (p : String → Bool) : Type := {s : String // p s = true}

abbrev Validated (check : α → Except ε Unit) : Type v := {a : α // check a = .ok ()}

def validate (check : α → Except ε Unit) (a : α) : Except ε (Validated check) :=
  match h : check a with
  | .ok _ => .ok ⟨a, h⟩
  | .error e => .error e

variable {check : α → Except ε Unit} {a : α}

@[simp] theorem validate_eq_ok {v : Validated check} : validate check a = .ok v ↔ v.val = a := by
  unfold validate
  split
  · next h =>
    rw [Except.ok.injEq, Subtype.ext_iff, eq_comm]
  · next e h =>
    constructor
    · intro hv
      cases hv
    · rintro rfl
      rw [v.property] at h
      cases h

end Checked
