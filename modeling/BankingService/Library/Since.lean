import Mathlib.Tactic.Common

/-! What has happened since a record was last replaced, read off the list of events so far. Claims
about the past are nested: each event is asked for together with what had happened before it. -/
namespace History

variable {ε : Type*} {fresh : ε → Prop} {P Q : List ε → ε → Prop} {es : List ε} {e : ε}

/-- An event with `P`, which also sees the events before it, and no fresh start after it. -/
def Since (fresh : ε → Prop) (P : List ε → ε → Prop) (es : List ε) : Prop :=
  ∃ before e after, es = before ++ e :: after ∧ P before e ∧ ∀ x ∈ after, ¬ fresh x

theorem Since.here (h : P es e) : Since fresh P (es ++ [e]) :=
  ⟨es, e, [], rfl, h, fun _ hx => absurd hx List.not_mem_nil⟩

theorem Since.later (h : Since fresh P es) (he : ¬ fresh e) : Since fresh P (es ++ [e]) := by
  obtain ⟨before, x, after, rfl, hx, hafter⟩ := h
  refine ⟨before, x, after ++ [e], ?_, hx, ?_⟩
  · rw [List.append_assoc, List.cons_append]
  · intro y hy
    rcases List.mem_append.mp hy with hy | hy
    · exact hafter y hy
    · rw [List.mem_singleton.mp hy]
      exact he

/-- What an event saw before it is still the case, if neither it nor any later event is a fresh
start. -/
theorem Since.earlier {fresh' : ε → Prop} (h : Since fresh P es) (hsub : ∀ x, fresh' x → fresh x)
    (hp : ∀ before e, P before e → Since fresh' Q before ∧ ¬ fresh' e) : Since fresh' Q es := by
  obtain ⟨before, x, after, rfl, hx, hafter⟩ := h
  obtain ⟨⟨first, u, rest, rfl, hu, hrest⟩, hfresh⟩ := hp before x hx
  refine ⟨first, u, rest ++ x :: after, ?_, hu, ?_⟩
  · rw [List.append_assoc, List.cons_append]
  · intro y hy
    rcases List.mem_append.mp hy with hy | hy
    · exact hrest y hy
    · rcases List.mem_cons.mp hy with rfl | hy
      · exact hfresh
      · exact fun hy' => hafter y hy (hsub y hy')

end History
