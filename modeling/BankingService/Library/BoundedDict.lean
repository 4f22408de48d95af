import BankingService.Library.Dict

/-! Dictionaries of a bounded size, which forget their oldest entries. -/
namespace Relational.Dict

universe u v
variable {κ : Type u} {α : Type v} [DecidableEq κ]

def remove (d : Dict κ α) (k : κ) : Dict κ α := d.filter fun x => x.1 ≠ k

/-- The key goes to the end, and the oldest entries go while there are too many. -/
def push (capacity : ℕ) (d : Dict κ α) (k : κ) (a : α) : Dict κ α :=
  let pushed := d.remove k ++ [(k, a)]
  pushed.drop (pushed.length - capacity)

variable {capacity : ℕ} {d : Dict κ α} {k : κ} {a : α} {x : κ × α}

theorem mem_of_get? (h : d.get? k = some a) : (k, a) ∈ d := by
  obtain ⟨⟨k', a'⟩, hfind, rfl⟩ := Option.map_eq_some_iff.mp h
  obtain rfl : k' = k := by simpa using List.find?_some hfind
  exact List.mem_of_find?_eq_some hfind

theorem length_remove_le : (d.remove k).length ≤ d.length := List.length_filter_le _ _

theorem mem_of_mem_remove (h : x ∈ d.remove k) : x ∈ d := (List.mem_filter.mp h).1

theorem length_push_le : (d.push capacity k a).length ≤ capacity := by
  rw [push, List.length_drop]
  omega

theorem mem_push (h : x ∈ d.push capacity k a) : x = (k, a) ∨ x ∈ d := by
  rcases List.mem_append.mp (List.mem_of_mem_drop h) with hold | hnew
  · exact Or.inr (mem_of_mem_remove hold)
  · exact Or.inl (List.mem_singleton.mp hnew)

end Relational.Dict
