import Mathlib.Tactic.Common

/-! Base64, with a decoder that passes over characters outside the alphabet. -/
namespace Base64

def alphabet : List Char :=
  "ABCDEFGHIJKLMNOPQRSTUVWXYZabcdefghijklmnopqrstuvwxyz0123456789+/".toList

def digit (n : ℕ) : Char := alphabet.getD n 'A'

def value (c : Char) : Option ℕ := alphabet.idxOf? c

def encode : List UInt8 → List Char
  | [] => []
  | [a] => [digit (a.toNat / 4), digit (a.toNat % 4 * 16), '=', '=']
  | [a, b] =>
    [digit (a.toNat / 4), digit (a.toNat % 4 * 16 + b.toNat / 16), digit (b.toNat % 16 * 4), '=']
  | a :: b :: c :: rest => digit (a.toNat / 4) :: digit (a.toNat % 4 * 16 + b.toNat / 16) ::
      digit (b.toNat % 16 * 4 + c.toNat / 64) :: digit (c.toNat % 64) :: encode rest

/-- `position` characters of a group of four are read, `left` is what they have over, and `pads`
equal signs came after them. Padding that fills the group ends the text. -/
def scan (position left pads : ℕ) : List Char → Option (List UInt8)
  | [] => if position = 0 then some [] else none
  | c :: rest =>
    if c = '=' then
      if 2 ≤ position ∧ 4 ≤ position + (pads + 1) then some []
      else scan position left (if 2 ≤ position then pads + 1 else pads) rest
    else match value c with
      | none => scan position left pads rest
      | some v => match position with
        | 0 => scan 1 v 0 rest
        | 1 => (scan 2 (v % 16) 0 rest).map (UInt8.ofNat (left * 4 + v / 16) :: ·)
        | 2 => (scan 3 (v % 4) 0 rest).map (UInt8.ofNat (left * 16 + v / 4) :: ·)
        | _ => (scan 0 0 0 rest).map (UInt8.ofNat (left * 64 + v) :: ·)

/-- Only ASCII texts are decoded. -/
def decode (text : List Char) : Option (List UInt8) :=
  if text.all fun c => c.toNat < 128 then scan 0 0 0 text else none

theorem value_digit {n : ℕ} (h : n < 64) : value (digit n) = some n := by
  have hall : ∀ k : Fin 64, value (digit k) = some k.val := by decide +kernel
  exact hall ⟨n, h⟩

theorem digit_ne_pad {n : ℕ} (h : n < 64) : digit n ≠ '=' := by
  have hall : ∀ k : Fin 64, digit k ≠ '=' := by decide +kernel
  exact hall ⟨n, h⟩

theorem digit_ascii {n : ℕ} (h : n < 64) : (digit n).toNat < 128 := by
  have hall : ∀ k : Fin 64, (digit k).toNat < 128 := by decide +kernel
  exact hall ⟨n, h⟩

theorem encode_ascii (data : List UInt8) : ∀ c ∈ encode data, c.toNat < 128 := by
  fun_induction encode data with
  | case1 => exact fun _ h => absurd h List.not_mem_nil
  | case2 a =>
    have ha := a.toNat_lt
    simp only [List.forall_mem_cons]
    exact ⟨digit_ascii (by omega), digit_ascii (by omega), by decide, by decide,
      fun _ h => absurd h List.not_mem_nil⟩
  | case3 a b =>
    have ha := a.toNat_lt
    have hb := b.toNat_lt
    simp only [List.forall_mem_cons]
    exact ⟨digit_ascii (by omega), digit_ascii (by omega), digit_ascii (by omega), by decide,
      fun _ h => absurd h List.not_mem_nil⟩
  | case4 a b c rest ih =>
    have ha := a.toNat_lt
    have hb := b.toNat_lt
    have hc := c.toNat_lt
    simp only [List.forall_mem_cons]
    exact ⟨digit_ascii (by omega), digit_ascii (by omega), digit_ascii (by omega),
      digit_ascii (by omega), ih⟩

section
variable {n : ℕ} (h : n < 64) (left pads : ℕ) (rest : List Char)
include h

theorem scan_first : scan 0 left pads (digit n :: rest) = scan 1 n 0 rest := by
  rw [scan, if_neg (digit_ne_pad h), value_digit h]
  rfl

theorem scan_second : scan 1 left pads (digit n :: rest) =
    (scan 2 (n % 16) 0 rest).map (UInt8.ofNat (left * 4 + n / 16) :: ·) := by
  rw [scan, if_neg (digit_ne_pad h), value_digit h]
  rfl

theorem scan_third : scan 2 left pads (digit n :: rest) =
    (scan 3 (n % 4) 0 rest).map (UInt8.ofNat (left * 16 + n / 4) :: ·) := by
  rw [scan, if_neg (digit_ne_pad h), value_digit h]
  rfl

theorem scan_fourth : scan 3 left pads (digit n :: rest) =
    (scan 0 0 0 rest).map (UInt8.ofNat (left * 64 + n) :: ·) := by
  rw [scan, if_neg (digit_ne_pad h), value_digit h]
  rfl

end

theorem scan_encode (data : List UInt8) : scan 0 0 0 (encode data) = some data := by
  have hbyte : ∀ (a : UInt8) (n : ℕ), n = a.toNat → UInt8.ofNat n = a := by
    rintro a n rfl
    exact UInt8.ofNat_toNat
  fun_induction encode data with
  | case1 => rfl
  | case2 a =>
    have ha := a.toNat_lt
    rw [scan_first (by omega), scan_second (by omega)]
    rw [hbyte a _ (by omega)]
    rfl
  | case3 a b =>
    have ha := a.toNat_lt
    have hb := b.toNat_lt
    rw [scan_first (by omega), scan_second (by omega), scan_third (by omega)]
    rw [hbyte a _ (by omega), hbyte b _ (by omega)]
    rfl
  | case4 a b c rest ih =>
    have ha := a.toNat_lt
    have hb := b.toNat_lt
    have hc := c.toNat_lt
    rw [scan_first (by omega), scan_second (by omega), scan_third (by omega),
      scan_fourth (by omega)]
    rw [hbyte a _ (by omega), hbyte b _ (by omega), hbyte c _ (by omega), ih]
    rfl

theorem decode_encode (data : List UInt8) : decode (encode data) = some data := by
  rw [decode, if_pos, scan_encode]
  simpa using encode_ascii data

end Base64
