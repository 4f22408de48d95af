import Mathlib.Algebra.Order.Floor.Ring
import Mathlib.Data.Int.Log
import Mathlib.Data.Rat.Floor
import Mathlib.Tactic.Linarith
import Mathlib.Tactic.Ring

/-! Rounding to a double, without its largest exponent. It never takes a number across one that is a
double itself. -/
namespace Binary64

def nearestEven (x : ℚ) : ℤ :=
  let n := ⌊x⌋
  if x - n < 1 / 2 then n else if 1 / 2 < x - n then n + 1 else if Even n then n else n + 1

def lastBit (x : ℚ) : ℤ := max (Int.log 2 x - 52) (-1074)

def roundMagnitude (x : ℚ) : ℚ := nearestEven (x / 2 ^ lastBit x) * 2 ^ lastBit x

def round (x : ℚ) : ℚ := if x < 0 then -roundMagnitude (-x) else roundMagnitude x

def IsDouble (x : ℚ) : Prop := round x = x

instance (x : ℚ) : Decidable (IsDouble x) := inferInstanceAs (Decidable (_ = _))

variable {x y : ℚ} {n : ℤ}

theorem le_nearestEven (h : (n : ℚ) ≤ x) : n ≤ nearestEven x := by
  have hfloor : n ≤ ⌊x⌋ := Int.le_floor.mpr h
  unfold nearestEven
  dsimp only
  split_ifs <;> omega

theorem nearestEven_intCast (n : ℤ) : nearestEven n = n := by
  simp [nearestEven]

theorem exact_of_lastBit (h : (n : ℚ) * 2 ^ lastBit x = x) : roundMagnitude x = x := by
  have hpos : (0 : ℚ) < 2 ^ lastBit x := zpow_pos two_pos _
  have hdiv : x / 2 ^ lastBit x = n := (div_eq_iff hpos.ne').mpr h.symm
  rw [roundMagnitude, hdiv, nearestEven_intCast, h]

theorem lastBit_mono (hx : 0 < x) (h : x ≤ y) : lastBit x ≤ lastBit y :=
  max_le_max (Int.sub_le_sub_right (Int.log_mono_right hx h) _) le_rfl

theorem le_roundMagnitude (hx : 0 < x) (double : roundMagnitude x = x) (h : x ≤ y) :
    x ≤ roundMagnitude y := by
  have hy : 0 < y := hx.trans_le h
  have hpos : (0 : ℚ) < 2 ^ lastBit y := zpow_pos two_pos _
  rcases (lastBit_mono hx h).eq_or_lt with heq | hlt
  · rw [roundMagnitude, heq] at double
    have hle : ((nearestEven (x / 2 ^ lastBit y) : ℤ) : ℚ) ≤ y / 2 ^ lastBit y := by
      rw [le_div_iff₀ hpos, double]
      exact h
    calc x = nearestEven (x / 2 ^ lastBit y) * 2 ^ lastBit y := double.symm
      _ ≤ roundMagnitude y :=
        mul_le_mul_of_nonneg_right (by exact_mod_cast le_nearestEven hle) hpos.le
  · have hnormal : lastBit y = Int.log 2 y - 52 := by
      unfold lastBit at hlt ⊢
      omega
    have hlog : Int.log 2 x + 1 ≤ Int.log 2 y := by
      unfold lastBit at hlt
      omega
    have hbits : (2 : ℚ) ^ Int.log 2 y = ((2 ^ 52 : ℤ) : ℚ) * 2 ^ lastBit y := by
      rw [hnormal, zpow_sub₀ (by norm_num)]
      field_simp
      norm_num
    have hlow : ((2 ^ 52 : ℤ) : ℚ) ≤ y / 2 ^ lastBit y := by
      rw [le_div_iff₀ hpos, ← hbits]
      exact_mod_cast Int.zpow_log_le_self (by norm_num : 1 < 2) hy
    calc x ≤ 2 ^ (Int.log 2 x + 1) := by
          exact_mod_cast (Int.lt_zpow_succ_log_self (by norm_num : 1 < 2) x).le
      _ ≤ 2 ^ Int.log 2 y := zpow_le_zpow_right₀ (by norm_num) hlog
      _ = ((2 ^ 52 : ℤ) : ℚ) * 2 ^ lastBit y := hbits
      _ ≤ roundMagnitude y :=
        mul_le_mul_of_nonneg_right (by exact_mod_cast le_nearestEven hlow) hpos.le

theorem le_round (hx : 0 < x) (double : IsDouble x) (h : x ≤ y) : x ≤ round y := by
  have hdouble : roundMagnitude x = x := by
    rw [IsDouble, round, if_neg (not_lt.mpr hx.le)] at double
    exact double
  rw [round, if_neg (not_lt.mpr (hx.le.trans h))]
  exact le_roundMagnitude hx hdouble h

theorem round_neg (x : ℚ) : round (-x) = -round x := by
  rcases lt_trichotomy x 0 with h | rfl | h
  · rw [round, if_neg (by linarith), round, if_pos h, neg_neg]
  · have hzero : roundMagnitude 0 = 0 := exact_of_lastBit (n := 0) (by simp)
    simp [round, hzero]
  · rw [round, if_pos (by linarith), round, if_neg (by linarith), neg_neg]

theorem roundMagnitude_natCast {n : ℕ} (h : n < 2 ^ 53) : roundMagnitude n = n := by
  have hlog : Int.log 2 (n : ℚ) ≤ 52 := by
    rw [Int.log_natCast]
    have := Nat.log_lt_of_lt_pow' (b := 2) (by norm_num : (53 : ℕ) ≠ 0) h
    omega
  obtain ⟨k, hk⟩ : ∃ k : ℕ, lastBit (n : ℚ) = -(k : ℤ) := by
    refine ⟨(-lastBit (n : ℚ)).toNat, ?_⟩
    unfold lastBit
    omega
  refine exact_of_lastBit (n := n * 2 ^ k) ?_
  rw [hk, zpow_neg, zpow_natCast]
  push_cast
  field_simp

theorem round_intCast (h : |n| < 2 ^ 53) : round n = n := by
  obtain ⟨k, rfl | rfl⟩ := Int.eq_nat_or_neg n
  · rw [round, if_neg (by simp)]
    exact_mod_cast roundMagnitude_natCast (by simpa using h)
  · have hk : k < 2 ^ 53 := by simpa using h
    push_cast
    rw [round_neg, round, if_neg (by simp), roundMagnitude_natCast hk]

theorem le_abs_round_intCast (h : 2 ^ 53 ≤ |n|) : 2 ^ 53 ≤ |round n| := by
  have hdouble : IsDouble (2 ^ 53) := by decide +kernel
  rcases abs_cases n with ⟨habs, -⟩ | ⟨habs, -⟩
  · rw [habs] at h
    exact (le_round (by norm_num) hdouble (by exact_mod_cast h)).trans (le_abs_self _)
  · rw [habs] at h
    have hle : (2 : ℚ) ^ 53 ≤ -(n : ℚ) := by exact_mod_cast h
    have := le_round (by norm_num) hdouble hle
    rw [round_neg] at this
    exact this.trans (neg_le_abs _)

end Binary64
