import Mathlib.Algebra.Order.Group.Basic
import Mathlib.Order.MinMax
import Mathlib.Tactic.Abel

/-! A cached headroom. The headroom under a limit is what the limit leaves after the use so far,
kept between zero and the limit. A cache of it may be recomputed, or moved by the change of the
use; the second keeps it exact only where the clamp does not act. -/
namespace ClampedCache

variable {α : Type*} [AddCommGroup α] [LinearOrder α]

/-- What is left under `limit` when `used` of it is in use. -/
def headroom (limit used : α) : α := max 0 (min limit (limit - used))

variable {limit used change raised : α}

variable [IsOrderedAddMonoid α]

theorem headroom_of_within (hu : 0 ≤ used) (h : used ≤ limit) :
    headroom limit used = limit - used := by
  have hsub : limit - used ≤ limit := by simpa using hu
  unfold headroom
  rw [min_eq_right hsub, max_eq_right (by simpa using h)]

theorem headroom_of_nonpos (h : used ≤ 0) : headroom limit used = max 0 limit := by
  have hsub : limit ≤ limit - used := by simpa using h
  unfold headroom
  rw [min_eq_left hsub]

theorem headroom_of_over (h : limit ≤ used) : headroom limit used = 0 := by
  have hsub : limit - used ≤ 0 := by simpa using h
  exact max_eq_left ((min_le_right _ _).trans hsub)

/-- Where there is headroom for `change`, using it leaves the use within the limit. -/
theorem within_of_le_headroom (hc : 0 < change) (h : change ≤ headroom limit used) :
    used + change ≤ limit := by
  have hraw : change ≤ min limit (limit - used) := by
    rcases le_max_iff.mp h with h0 | h0
    · exact absurd h0 (not_le_of_gt hc)
    · exact h0
  have : change ≤ limit - used := hraw.trans (min_le_right _ _)
  rwa [le_sub_iff_add_le, add_comm] at this

/-- Giving back `change` moves the headroom by it exactly if the limit was not overrun and no
more was given back than was used. -/
theorem headroom_release_iff (hc : 0 < change) :
    headroom limit used + change = headroom limit (used - change) ↔
      used ≤ limit ∧ change ≤ used := by
  constructor
  · intro h
    have hle : used ≤ limit := by
      by_contra hlt
      rw [not_le] at hlt
      rw [headroom_of_over hlt.le, zero_add] at h
      have hraw : limit - (used - change) < change := by
        rw [← sub_add]
        simpa using hlt
      have : headroom limit (used - change) < change :=
        max_lt hc ((min_le_right _ _).trans_lt hraw)
      exact absurd h.symm this.ne
    refine ⟨hle, ?_⟩
    by_contra hlt
    rw [not_le] at hlt
    have hback : used - change ≤ 0 := by simpa using hlt.le
    rw [headroom_of_nonpos hback] at h
    rcases le_total 0 used with hu | hu
    · rw [headroom_of_within hu hle, max_eq_right (hu.trans hle)] at h
      have : change = used := by
        rwa [sub_add, sub_eq_self, sub_eq_zero, eq_comm] at h
      exact absurd this hlt.ne'
    · rw [headroom_of_nonpos hu] at h
      exact absurd (add_eq_left.mp h) hc.ne'
  · rintro ⟨hle, hcu⟩
    have hrest : used - change ≤ limit := (sub_le_self _ hc.le).trans hle
    rw [headroom_of_within (hc.le.trans hcu) hle,
      headroom_of_within (by simpa using hcu) hrest]
    abel

/-- Raising the limit moves the headroom by the raise exactly if the limit was not overrun. -/
theorem headroom_raise_iff (hl : 0 ≤ limit) (hr : limit < raised) :
    headroom limit used + (raised - limit) = headroom raised used ↔ used ≤ limit := by
  constructor
  · intro h
    by_contra hlt
    rw [not_le] at hlt
    rw [headroom_of_over hlt.le, zero_add] at h
    have hraw : raised - used < raised - limit := by simpa using hlt
    have : headroom raised used < raised - limit :=
      max_lt (by simpa using hr) ((min_le_right _ _).trans_lt hraw)
    exact absurd h.symm this.ne
  · intro hle
    rcases le_total 0 used with hu | hu
    · rw [headroom_of_within hu hle, headroom_of_within hu (hle.trans hr.le)]
      abel
    · rw [headroom_of_nonpos hu, headroom_of_nonpos hu, max_eq_right hl,
        max_eq_right (hl.trans hr.le)]
      abel

/-- A use that grows leaves the headroom as it was only if there was none left either way. -/
theorem headroom_charge_iff (hc : 0 < change) (h : used + change ≤ limit) :
    headroom limit (used + change) = headroom limit used ↔ used + change ≤ 0 := by
  constructor
  · intro heq
    by_contra hpos
    rw [not_le] at hpos
    rw [headroom_of_within hpos.le h] at heq
    have hused : used < used + change := by simpa using hc
    rcases le_total 0 used with hu | hu
    · rw [headroom_of_within hu (hused.le.trans h)] at heq
      have := sub_right_injective heq
      exact absurd this hused.ne'
    · rw [headroom_of_nonpos hu, max_eq_right (hpos.le.trans h), sub_eq_self] at heq
      exact absurd heq hpos.ne'
  · intro hle
    have hu : used ≤ 0 := (by simpa using hc.le : used ≤ used + change).trans hle
    rw [headroom_of_nonpos hle, headroom_of_nonpos hu]

end ClampedCache
