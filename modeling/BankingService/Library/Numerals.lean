import Mathlib.Algebra.Order.Ring.Nat
import Mathlib.Data.List.Basic
import Mathlib.Tactic.Common
import Mathlib.Tactic.Ring

/-! Numerals with a fixed number of decimals, written in two ways: from the quotient and the
remainder, and by a point put into the digits. Grouping of the digits can be taken out again. -/
namespace Numerals

open Nat (toDigits ofDigitChars)

def commas : List Char → List Char
  | a :: b :: c :: d :: l => a :: b :: c :: ',' :: commas (d :: l)
  | l => l

def grouped (n : ℕ) : List Char := (commas (toDigits 10 n).reverse).reverse

def padded (width n : ℕ) : List Char := (toDigits 10 n).leftpad width '0'

def pointed (whole fraction : List Char) : List Char :=
  if fraction = [] then whole else whole ++ '.' :: fraction

/-- `n` units of which `10 ^ decimals` are one. -/
def fixedPoint (decimals n : ℕ) : List Char :=
  pointed (toDigits 10 (n / 10 ^ decimals))
    (if decimals = 0 then [] else padded decimals (n % 10 ^ decimals))

variable {n e width : ℕ}

theorem isDigit_of_mem_toDigits {c : Char} (h : c ∈ toDigits 10 n) : c.isDigit = true :=
  Nat.isDigit_of_mem_toDigits (by decide) (by decide) h

theorem filter_commas {p : Char → Bool} (hcomma : p ',' = false) :
    ∀ l : List Char, (∀ c ∈ l, p c = true) → (commas l).filter p = l
  | a :: b :: c :: d :: l, h => by
    have hrest := filter_commas hcomma (d :: l) fun x hx => h x (by simp_all)
    have ha := h a (by simp)
    have hb := h b (by simp)
    have hc := h c (by simp)
    simp [commas, ha, hb, hc, hcomma, hrest]
  | [], _ => rfl
  | [a], h => by simpa [commas] using h
  | [a, b], h => by simpa [commas] using h
  | [a, b, c], h => by simpa [commas] using h

theorem filter_grouped {p : Char → Bool} (hcomma : p ',' = false)
    (hdigit : ∀ c, c.isDigit = true → p c = true) : (grouped n).filter p = toDigits 10 n := by
  rw [grouped, List.filter_reverse, filter_commas hcomma, List.reverse_reverse]
  intro c hc
  exact hdigit c (isDigit_of_mem_toDigits (List.mem_reverse.mp hc))

theorem length_padded (h : n < 10 ^ e) (he : 0 < e) : (padded e n).length = e := by
  have hle : (toDigits 10 n).length ≤ e := (Nat.length_toDigits_le_iff (by decide) he).mpr h
  rw [padded, List.length_leftpad]
  omega

theorem isDigit_of_mem_padded {c : Char} (h : c ∈ padded width n) : c.isDigit = true := by
  rcases List.mem_append.mp h with hzero | hdigit
  · obtain rfl := (List.mem_replicate.mp hzero).2
    rfl
  · exact isDigit_of_mem_toDigits hdigit

theorem ofDigitChars_padded : ofDigitChars 10 (padded width n) 0 = n := by
  rw [padded, List.leftpad, Nat.ofDigitChars_append, Nat.ofDigitChars_replicate_zero, mul_zero,
    Nat.ofDigitChars_ten_toDigits]

theorem padded_of_length (h : width ≤ (toDigits 10 n).length) : padded width n = toDigits 10 n := by
  rw [padded, List.leftpad, Nat.sub_eq_zero_of_le h]
  rfl

theorem padded_one (n : ℕ) : padded 1 n = toDigits 10 n := padded_of_length Nat.length_toDigits_pos

theorem padded_succ (he : 0 < e) :
    padded (e + 1) n = padded e (n / 10) ++ toDigits 10 (n % 10) := by
  rcases Nat.lt_or_ge n 10 with hlt | hge
  · rw [Nat.div_eq_of_lt hlt, Nat.mod_eq_of_lt hlt]
    obtain ⟨k, rfl⟩ := Nat.exists_eq_add_one.mpr he
    simp [padded, List.leftpad, Nat.toDigits_of_lt_base hlt, List.replicate_succ']
  · have happend : toDigits 10 n = toDigits 10 (n / 10) ++ toDigits 10 (n % 10) := by
      conv_lhs => rw [← Nat.div_add_mod n 10]
      exact (Nat.toDigits_append_toDigits (by decide) (by omega) (by omega)).symm
    have hone : (toDigits 10 (n % 10)).length = 1 := by
      rw [Nat.toDigits_of_lt_base (by omega)]
      rfl
    rw [padded, happend, List.leftpad, padded, List.leftpad, List.length_append, hone,
      List.append_assoc, Nat.add_sub_add_right]

theorem padded_split (he : 0 < e) :
    padded (e + 1) n = toDigits 10 (n / 10 ^ e) ++ padded e (n % 10 ^ e) := by
  induction e, he using Nat.le_induction generalizing n with
  | base => rw [padded_succ (by decide), padded_one, padded_one, pow_one]
  | succ e he ih =>
    have hquotient : n / 10 / 10 ^ e = n / 10 ^ (e + 1) := by
      rw [Nat.div_div_eq_div_mul, pow_succ']
    have hremainder : n % 10 ^ (e + 1) / 10 = n / 10 % 10 ^ e := by
      rw [pow_succ', Nat.mod_mul_right_div_self]
    have hlast : n % 10 ^ (e + 1) % 10 = n % 10 := Nat.mod_mod_of_dvd _ (Dvd.intro_left _ rfl)
    rw [padded_succ (by omega), ih, hquotient, padded_succ (n := n % 10 ^ (e + 1)) he, hremainder,
      hlast, List.append_assoc]

theorem ne_nil_of_padded (he : 0 < e) : padded e n ≠ [] := by
  intro h
  have hlength := congrArg List.length h
  rw [padded, List.length_leftpad, List.length_nil] at hlength
  omega

theorem pointed_padded {l : List Char} (he : 0 < e) (hl : l = padded (e + 1) n) :
    pointed (l.take (l.length - e)) (l.drop (l.length - e)) = fixedPoint e n := by
  have hfraction : (padded e (n % 10 ^ e)).length = e :=
    length_padded (Nat.mod_lt _ (Nat.pow_pos (by decide))) he
  rw [padded_split he] at hl
  have hlength : l.length - e = (toDigits 10 (n / 10 ^ e)).length := by
    rw [hl, List.length_append, hfraction, Nat.add_sub_cancel]
  rw [fixedPoint, if_neg he.ne', hlength, hl, List.take_left, List.drop_left]

/-- The units that digits before and after the point stand for. -/
def units (decimals : ℕ) (whole fraction : List Char) : ℕ :=
  ofDigitChars 10 whole 0 * 10 ^ decimals +
    ofDigitChars 10 fraction 0 * 10 ^ (decimals - fraction.length)

theorem exists_fixedPoint (decimals n : ℕ) :
    ∃ whole fraction, fixedPoint decimals n = pointed whole fraction ∧
    whole ≠ [] ∧ (∀ c ∈ whole ++ fraction, c.isDigit = true) ∧ fraction.length = decimals ∧
    units decimals whole fraction = n := by
  rcases Nat.eq_zero_or_pos decimals with rfl | he
  · refine ⟨toDigits 10 n, [], by simp [fixedPoint], Nat.toDigits_ne_nil, ?_, rfl, by simp [units]⟩
    intro c hc
    exact isDigit_of_mem_toDigits (by simpa using hc)
  · have hfraction : (padded decimals (n % 10 ^ decimals)).length = decimals :=
      length_padded (Nat.mod_lt _ (Nat.pow_pos (by decide))) he
    refine ⟨toDigits 10 (n / 10 ^ decimals), padded decimals (n % 10 ^ decimals), ?_,
      Nat.toDigits_ne_nil, ?_, hfraction, ?_⟩
    · rw [fixedPoint, if_neg he.ne']
    · intro c hc
      rcases List.mem_append.mp hc with h | h
      · exact isDigit_of_mem_toDigits h
      · exact isDigit_of_mem_padded h
    · rw [units, Nat.ofDigitChars_ten_toDigits, ofDigitChars_padded, hfraction,
        Nat.sub_self, pow_zero,
        mul_one, Nat.div_add_mod']

end Numerals
