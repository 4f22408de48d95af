import BankingService.Library.Checked
import BankingService.MoneyPresentation

/-! Amounts that are shown can be typed in again. What the UI reads is the exact value of what was
typed, and what it adds up is the exact sum; where it cannot be exact it throws. -/
namespace ShownAmounts

open BankingService BankingService.MoneyUtils Numerals Python

theorem ofBigInt_of_inRange {n : ℤ} (h : InRange n) : Number.ofBigInt n = .finite n := by
  have hsafe : |n| < 2 ^ 53 := by
    rw [abs_lt]
    unfold InRange MAX_MINOR at h
    omega
  have habs : (|(n : ℚ)|) < 2 ^ 1024 := by
    calc |(n : ℚ)| < 2 ^ 53 := by exact_mod_cast hsafe
      _ ≤ 2 ^ 1024 := pow_le_pow_right₀ (by norm_num) (by norm_num)
  rw [Number.ofBigInt, Binary64.round_intCast hsafe, if_neg (not_le.mpr habs)]

theorem safeInteger?_intCast (n : ℤ) :
    (Number.finite n).safeInteger? = if InRange n then some n else none := by
  simp [Number.safeInteger?]

theorem safeInteger?_ofBigInt (n : ℤ) :
    (Number.ofBigInt n).safeInteger? = if InRange n then some n else none := by
  by_cases h : InRange n
  · rw [ofBigInt_of_inRange h, safeInteger?_intCast]
  · rw [if_neg h, Number.ofBigInt]
    split_ifs
    · rfl
    · have hlarge : 2 ^ 53 ≤ |n| := by
        rw [le_abs]
        unfold InRange MAX_MINOR at h
        omega
      have hround := Binary64.le_abs_round_intCast hlarge
      rw [Number.safeInteger?, if_neg]
      rintro ⟨hden, hrange⟩
      rw [← Rat.coe_int_num_of_den_eq_one hden] at hround
      have hnum : 2 ^ 53 ≤ |(Binary64.round n).num| := by exact_mod_cast hround
      rw [le_abs] at hnum
      unfold InRange MAX_MINOR at hrange
      omega

theorem get?_currencyExponents {code : String} {exponent : ℕ} :
    currencyExponents.get? code = some exponent ↔ ∃ c : CurrencyCode, c.text = code ∧
      c.exponent = exponent := by
  constructor
  · intro h
    simp only [currencyExponents, Relational.Dict.get?, List.find?_cons, List.find?_nil] at h
    by_cases husd : "USD" = code
    · subst husd
      exact ⟨.usd, rfl, by simpa [CurrencyCode.exponent] using h⟩
    by_cases hmxn : "MXN" = code
    · subst hmxn
      exact ⟨.mxn, rfl, by simpa [CurrencyCode.exponent] using h⟩
    by_cases hjpy : "JPY" = code
    · subst hjpy
      exact ⟨.jpy, rfl, by simpa [CurrencyCode.exponent] using h⟩
    by_cases hbhd : "BHD" = code
    · subst hbhd
      exact ⟨.bhd, rfl, by simpa [CurrencyCode.exponent] using h⟩
    · simp [husd, hmxn, hjpy, hbhd] at h
  · rintro ⟨c, rfl, rfl⟩
    cases c <;> decide

/-- Money as the UI holds it. -/
def jsMoney (m : Money) : JsMoney := ⟨.finite m.amountMinor, m.currencyCode.text⟩

theorem validateMoney_eq_ok {value : Option JsMoney} {r : String × ℤ × ℕ} :
    validateMoney value = .ok r ↔
    ∃ m : Money, value = some (jsMoney m) ∧
      r = (m.currencyCode.text, m.amountMinor, m.currencyCode.exponent) := by
  constructor
  · intro h
    unfold validateMoney at h
    cases value with
    | none => cases h
    | some money =>
      obtain ⟨amount, code⟩ := money
      simp only at h
      split at h
      · next n exponent hamount hexponent =>
        obtain ⟨c, rfl, rfl⟩ := get?_currencyExponents.mp hexponent
        cases amount with
        | other => cases hamount
        | finite x =>
          rw [Number.safeInteger?] at hamount
          split_ifs at hamount with hx
          cases hamount
          cases h
          refine ⟨⟨x.num, c, hx.2⟩, ?_, rfl⟩
          rw [jsMoney, Rat.coe_int_num_of_den_eq_one hx.1]
      · cases h
  · rintro ⟨m, rfl, rfl⟩
    have hexponent := get?_currencyExponents.mpr ⟨m.currencyCode, rfl, rfl⟩
    simp only [validateMoney, jsMoney, safeInteger?_intCast, if_pos m.in_range, hexponent]

structure Literal where
  sign : List Char
  whole : List Char
  fraction : List Char
  signed : sign = [] ∨ sign = ['+'] ∨ sign = ['-']
  nonempty : whole ≠ []
  digits : ∀ c ∈ whole ++ fraction, c.isDigit = true

namespace Literal

def text (d : Literal) : List Char := d.sign ++ pointed d.whole d.fraction

def value (d : Literal) : ℚ :=
  (if d.sign = ['-'] then -1 else 1) *
    (Nat.ofDigitChars 10 d.whole 0 + Nat.ofDigitChars 10 d.fraction 0 / 10 ^ d.fraction.length)

/-- The units of `10 ^ -exponent` in it. -/
def minor (d : Literal) (exponent : ℕ) : ℤ :=
  (if d.sign = ['-'] then -1 else 1) * units exponent d.whole d.fraction

theorem minor_eq {d : Literal} {exponent : ℕ} (h : d.fraction.length ≤ exponent) :
    (d.minor exponent : ℚ) = d.value * 10 ^ exponent := by
  have hpow :
    (10 : ℚ) ^ exponent = 10 ^ (exponent - d.fraction.length) * 10 ^ d.fraction.length := by
    rw [← pow_add, Nat.sub_add_cancel h]
  have hfraction : (Nat.ofDigitChars 10 d.fraction 0 : ℚ) / 10 ^ d.fraction.length * 10 ^ exponent =
      Nat.ofDigitChars 10 d.fraction 0 * 10 ^ (exponent - d.fraction.length) := by
    rw [hpow]
    field_simp
  rw [minor, value, units, mul_assoc, add_mul, hfraction]
  push_cast
  rfl

end Literal

theorem matchDigits_eq_some {l whole fraction : List Char} :
    matchDigits l = some (whole, fraction) ↔
    l = pointed whole fraction ∧ whole ≠ [] ∧ ∀ c ∈ whole ++ fraction, c.isDigit = true := by
  constructor
  · intro h
    unfold matchDigits at h
    split_ifs at h with hempty
    have hall : ∀ c ∈ l.takeWhile Char.isDigit, c.isDigit = true := 
      List.all_eq_true.mp List.all_takeWhile
    have hsplit := List.takeWhile_append_dropWhile (p := Char.isDigit) (l := l)
    split at h
    · next hdrop =>
      cases h
      rw [hdrop, List.append_nil] at hsplit
      exact ⟨hsplit.symm, hempty, by simpa using hall⟩
    · next c rest hdrop =>
      split_ifs at h with hpoint
      obtain ⟨rfl, hne, hdigits⟩ := hpoint
      cases h
      refine ⟨?_, hempty, ?_⟩
      · rw [pointed, if_neg hne, ← hdrop, hsplit]
      · intro c hc
        rcases List.mem_append.mp hc with h | h
        · exact hall c h
        · exact List.all_eq_true.mp hdigits c h
  · rintro ⟨rfl, hne, hdigits⟩
    have hwhole : ∀ c ∈ whole, c.isDigit = true := fun c hc => hdigits c (List.mem_append_left _ hc)
    unfold matchDigits pointed
    split_ifs with hfraction htake htake
    · obtain ⟨h, -⟩ := @Json.takeWhile_all Char.isDigit whole [] hwhole (by simp)
      rw [List.append_nil] at h
      exact absurd (h.symm.trans htake) hne
    · obtain ⟨h, hdrop⟩ := @Json.takeWhile_all Char.isDigit whole [] hwhole (by simp)
      rw [List.append_nil] at h hdrop
      rw [h, hdrop, hfraction]
    · obtain ⟨h, -⟩ := @Json.takeWhile_all Char.isDigit whole ('.' :: fraction) hwhole (by simp)
      exact absurd (h.symm.trans htake) hne
    · obtain ⟨h, hdrop⟩ := @Json.takeWhile_all Char.isDigit whole ('.' :: fraction) hwhole (by simp)
      have hall : fraction.all Char.isDigit = true :=
        List.all_eq_true.mpr fun c hc => hdigits c (List.mem_append_right _ hc)
      simp only [h, hdrop, hfraction, hall, ne_eq, not_false_eq_true, and_self, if_true]

theorem head_pointed {whole fraction : List Char} (hne : whole ≠ [])
    (hdigits : ∀ c ∈ whole ++ fraction, c.isDigit = true) :
    ∃ c l, pointed whole fraction = c :: l ∧ c.isDigit = true := by
  obtain ⟨c, l, rfl⟩ := List.exists_cons_of_ne_nil hne
  have hc := hdigits c (by simp)
  unfold pointed
  split_ifs
  · exact ⟨c, l, rfl, hc⟩
  · exact ⟨c, _, rfl, hc⟩

theorem matchAmount_eq_some {l whole fraction : List Char} {negative : Bool} :
    matchAmount l = some (negative, whole, fraction) ↔ ∃ d : Literal, d.text = l ∧
      decide (d.sign = ['-']) = negative ∧ d.whole = whole ∧ d.fraction = fraction := by
  constructor
  · intro h
    unfold matchAmount at h
    split at h
    · obtain ⟨⟨_, _⟩, hmatch, heq⟩ := Option.map_eq_some_iff.mp h
      cases heq
      obtain ⟨rfl, hne, hdigits⟩ := matchDigits_eq_some.mp hmatch
      exact ⟨⟨['-'], whole, fraction, by simp, hne, hdigits⟩, rfl, rfl, rfl, rfl⟩
    · obtain ⟨⟨_, _⟩, hmatch, heq⟩ := Option.map_eq_some_iff.mp h
      cases heq
      obtain ⟨rfl, hne, hdigits⟩ := matchDigits_eq_some.mp hmatch
      exact ⟨⟨['+'], whole, fraction, by simp, hne, hdigits⟩, rfl, rfl, rfl, rfl⟩
    · obtain ⟨⟨_, _⟩, hmatch, heq⟩ := Option.map_eq_some_iff.mp h
      cases heq
      obtain ⟨rfl, hne, hdigits⟩ := matchDigits_eq_some.mp hmatch
      exact ⟨⟨[], whole, fraction, by simp, hne, hdigits⟩, rfl, rfl, rfl, rfl⟩
  · rintro ⟨⟨sign, whole, fraction, hsign, hne, hdigits⟩, rfl, rfl, rfl, rfl⟩
    have hmatch := matchDigits_eq_some.mpr ⟨rfl, hne, hdigits⟩
    rcases hsign with rfl | rfl | rfl
    · obtain ⟨c, l, hhead, hc⟩ := head_pointed hne hdigits
      simp only [Literal.text, List.nil_append]
      unfold matchAmount
      split
      · next heq =>
        rw [hhead] at heq
        cases heq
        cases hc
      · next heq =>
        rw [hhead] at heq
        cases heq
        cases hc
      · rw [hmatch]
        rfl
    · simp [Literal.text, matchAmount, hmatch]
    · simp [Literal.text, matchAmount, hmatch]

/-- A literal is an amount in the currency: it has no more decimals, and is in range. -/
def Fits (d : Literal) (c : CurrencyCode) : Prop :=
  d.fraction.length ≤ c.exponent ∧ |d.value| * 10 ^ c.exponent ≤ MAX_MINOR

theorem ofDigitChars_rightpad {l : List Char} {exponent : ℕ} :
    Nat.ofDigitChars 10 (l.rightpad exponent '0') 0 =
      Nat.ofDigitChars 10 l 0 * 10 ^ (exponent - l.length) := by
  rw [List.rightpad, Nat.ofDigitChars_append, Nat.ofDigitChars_replicate_zero, mul_comm]

theorem inRange_minor {d : Literal} {c : CurrencyCode} (h : d.fraction.length ≤ c.exponent) :
    InRange (d.minor c.exponent) ↔ |d.value| * 10 ^ c.exponent ≤ MAX_MINOR := by
  have habs : |d.value| * 10 ^ c.exponent = |(d.minor c.exponent : ℚ)| := by
    rw [Literal.minor_eq h, abs_mul, abs_of_nonneg (a := (10 : ℚ) ^ c.exponent) (by positivity)]
  have hcast : |(d.minor c.exponent : ℚ)| ≤ (MAX_MINOR : ℚ) ↔ |d.minor c.exponent| ≤ MAX_MINOR := by
    norm_cast
  rw [habs, hcast, abs_le]
  rfl

theorem parseMoneyInput_eq_ok {input code : String} {m : JsMoney} :
    parseMoneyInput input code = .ok m ↔
    ∃ c : CurrencyCode, c.text = code ∧ ∃ d : Literal, d.text = trim input ∧ Fits d c ∧
      m = ⟨.finite (d.value * 10 ^ c.exponent), code⟩ := by
  have hminor : ∀ (d : Literal) (exponent : ℕ), (if decide (d.sign = ['-']) = true then
      -((Nat.ofDigitChars 10 d.whole 0 : ℤ) * 10 ^ exponent +
        Nat.ofDigitChars 10 (d.fraction.rightpad exponent '0') 0)
      else (Nat.ofDigitChars 10 d.whole 0 : ℤ) * 10 ^ exponent +
        Nat.ofDigitChars 10 (d.fraction.rightpad exponent '0') 0) = d.minor exponent := by
    intro d exponent
    rw [Literal.minor, units, ofDigitChars_rightpad]
    by_cases hsign : d.sign = ['-']
    · simp [hsign]
    · simp [hsign]
  constructor
  · intro h
    unfold parseMoneyInput at h
    split at h
    · cases h
    · next exponent hexponent =>
      obtain ⟨c, hc, rfl⟩ := get?_currencyExponents.mp hexponent
      dsimp only at h
      split at h
      · cases h
      · next negative whole fraction hmatch =>
        obtain ⟨d, hd, rfl, rfl, rfl⟩ := matchAmount_eq_some.mp hmatch
        rw [hminor] at h
        split_ifs at h with hlength hrange
        have hrange : InRange (d.minor c.exponent) := by
          unfold InRange
          omega
        have hle := Nat.le_of_not_lt hlength
        cases h
        refine ⟨c, hc, d, hd, ⟨hle, (inRange_minor hle).mp hrange⟩, ?_⟩
        rw [ofBigInt_of_inRange hrange, Literal.minor_eq hle]
  · rintro ⟨c, hc, d, hd, ⟨hle, hvalue⟩, rfl⟩
    have hrange := (inRange_minor hle).mpr hvalue
    have hexponent := get?_currencyExponents.mpr ⟨c, hc, rfl⟩
    have hmatch := matchAmount_eq_some.mpr ⟨d, hd, rfl, rfl, rfl⟩
    unfold parseMoneyInput
    simp only [hexponent, hmatch]
    rw [hminor, if_neg (Nat.not_lt.mpr hle), if_neg, ofBigInt_of_inRange hrange,
      Literal.minor_eq hle]
    unfold InRange at hrange
    omega

def plainDigits (text : String) : String :=
  String.ofList (text.toList.filter fun c => c.isDigit || c == '-' || c == '.')

def decimal (m : Money) : String :=
  String.ofList ((if m.amountMinor < 0 then ['-'] else []) ++
    fixedPoint m.currencyCode.exponent m.amountMinor.natAbs)

theorem decimalText_eq (m : Money) :
    decimalText m.amountMinor m.currencyCode.exponent = decimal m := by
  have hdigits : (if m.currencyCode.exponent ≠ 0 then
      (padded (m.currencyCode.exponent + 1) m.amountMinor.natAbs).take
          ((padded (m.currencyCode.exponent + 1) m.amountMinor.natAbs).length
            - m.currencyCode.exponent) ++
        '.' :: (padded (m.currencyCode.exponent + 1) m.amountMinor.natAbs).drop
          ((padded (m.currencyCode.exponent + 1) m.amountMinor.natAbs).length
            - m.currencyCode.exponent)
      else padded (m.currencyCode.exponent + 1) m.amountMinor.natAbs) =
        fixedPoint m.currencyCode.exponent m.amountMinor.natAbs := by
    by_cases he : m.currencyCode.exponent = 0
    · rw [he, if_neg (by simp), padded_one]
      simp [fixedPoint, pointed]
    · have hpos := Nat.pos_of_ne_zero he
      have hsplit := pointed_padded (n := m.amountMinor.natAbs) hpos rfl
      rw [if_pos he, ← hsplit, pointed, if_neg]
      intro hnil
      have hlength := congrArg List.length hnil
      simp only [List.length_drop, List.length_nil, padded, List.length_leftpad] at hlength
      omega
  rw [decimalText, decimal, hdigits]
  split_ifs <;> rfl

theorem plainDigits_projectMoney {m : Money} {locale : String} {p : MoneyPresentation}
    (h : projectMoney m locale = .ok p) : plainDigits p.displayText = decimal m := by
  have hgrouped : ∀ n, (grouped n).filter (fun c => c.isDigit || c == '-' || c == '.') =
      Nat.toDigits 10 n := fun n => filter_grouped rfl fun c hc => by simp [hc]
  have hpadded :
    ∀ e n, (padded e n).filter (fun c => c.isDigit || c == '-' || c == '.') = padded e n :=
    fun e n => List.filter_eq_self.mpr fun c hc => by simp [isDigit_of_mem_padded hc]
  have hcode :
    (m.currencyCode.text ++ " ").toList.filter
      (fun c => c.isDigit || c == '-' || c == '.') = [] := by
    cases m.currencyCode <;> decide
  unfold projectMoney at h
  by_cases hlocale : locale ∈ MoneyLocale.SUPPORTED_SUPPORT_LOCALES
  swap
  · rw [if_pos hlocale] at h
    cases h
  rw [if_neg (not_not.mpr hlocale)] at h
  cases h
  rw [plainDigits, String.toList_append, List.filter_append, hcode, String.toList_ofList, decimal,
    fixedPoint, pointed, List.nil_append]
  by_cases he : m.currencyCode.exponent = 0
  · by_cases hneg : m.amountMinor < 0 <;> simp [he, hneg, hgrouped]
  · have hne :
      padded m.currencyCode.exponent (m.amountMinor.natAbs % 10 ^ m.currencyCode.exponent) ≠ [] :=
      ne_nil_of_padded (Nat.pos_of_ne_zero he)
    by_cases hneg : m.amountMinor < 0 <;> simp [he, hneg, hgrouped, hpadded, hne]

theorem isTrimmed_of_isDigit {c : Char} (h : c.isDigit = true) : isTrimmed c = false := by
  have hrange : 48 ≤ c.toNat ∧ c.toNat ≤ 57 := by
    simpa [Char.isDigit, UInt32.le_iff_toNat_le] using h
  unfold isTrimmed
  simp only [Bool.or_eq_false_iff, Bool.and_eq_false_imp, decide_eq_true_eq,
    decide_eq_false_iff_not,
    beq_eq_false_iff_ne]
  omega

theorem parseMoneyInput_decimal (m : Money) :
    parseMoneyInput (decimal m) m.currencyCode.text = .ok (jsMoney m) := by
  obtain ⟨whole, fraction, hfixed, hne, hdigits, hlength, hunits⟩ :=
    exists_fixedPoint m.currencyCode.exponent m.amountMinor.natAbs
  let d : Literal := ⟨if m.amountMinor < 0 then ['-'] else [], whole, fraction,
    by split_ifs <;> simp, hne, hdigits⟩
  have hminor : d.minor m.currencyCode.exponent = m.amountMinor := by
    rw [Literal.minor, hunits]
    by_cases hneg : m.amountMinor < 0
    · simp [d, hneg, abs_of_neg hneg]
    · simp [d, hneg, abs_of_nonneg (not_lt.mp hneg)]
  have htext : d.text = trim (decimal m) := by
    rw [trim, decimal, String.toList_ofList, hfixed, Uuid.stripChars_eq_self]
    · rfl
    · intro c hc
      have hplain : c.isDigit = true ∨ c = '-' ∨ c = '.' := by
        rcases List.mem_append.mp hc with h | h
        · split_ifs at h
          · simp_all
          · simp_all
        · unfold pointed at h
          split_ifs at h
          · exact Or.inl (hdigits c (List.mem_append_left _ h))
          · rcases List.mem_append.mp h with h | h
            · exact Or.inl (hdigits c (List.mem_append_left _ h))
            · rcases List.mem_cons.mp h with rfl | h
              · exact Or.inr (Or.inr rfl)
              · exact Or.inl (hdigits c (List.mem_append_right _ h))
      rcases hplain with hdigit | rfl | rfl
      · exact isTrimmed_of_isDigit hdigit
      · rfl
      · rfl
  have hle : d.fraction.length ≤ m.currencyCode.exponent := hlength.le
  refine parseMoneyInput_eq_ok.mpr ⟨m.currencyCode, rfl, d, htext, ⟨hle, ?_⟩, ?_⟩
  · rw [← inRange_minor hle, hminor]
    exact m.in_range
  · rw [← Literal.minor_eq hle, hminor, jsMoney]

def currencies (ms : List Money) : List CurrencyCode := (ms.map Money.currencyCode).eraseDups

def total (ms : List Money) (c : CurrencyCode) : ℤ :=
  ((ms.filter fun m => m.currencyCode = c).map Money.amountMinor).sum

def addMoney (totals : Relational.Dict String ℤ) (m : Money) : Relational.Dict String ℤ :=
  totals.set m.currencyCode.text ((totals.get? m.currencyCode.text).getD 0 + m.amountMinor)

theorem mem_currencies {ms : List Money} {c : CurrencyCode} :
    c ∈ currencies ms ↔ ∃ m ∈ ms, m.currencyCode = c := by
  simp [currencies, List.mem_eraseDups]

theorem total_append (ms : List Money) (m : Money) (c : CurrencyCode) :
    total (ms ++ [m]) c = total ms c + if m.currencyCode = c then m.amountMinor else 0 := by
  rw [total, List.filter_append, List.map_append, List.sum_append, total]
  by_cases h : m.currencyCode = c <;> simp [h]

theorem total_eq_zero {ms : List Money} {c : CurrencyCode} (h : c ∉ currencies ms) :
    total ms c = 0 := by
  have hnone : (ms.filter fun m => m.currencyCode = c) = [] := by
    rw [List.filter_eq_nil_iff]
    intro m hm heq
    exact h (mem_currencies.mpr ⟨m, hm, by simpa using heq⟩)
  rw [total, hnone]
  rfl

theorem foldlM_addValue {values : List (Option JsMoney)}
    {totals totals' : Relational.Dict String ℤ} :
    values.foldlM addValue totals = .ok totals' ↔
      ∃ ms : List Money, values = ms.map (fun m => some (jsMoney m)) ∧
        totals' = ms.foldl addMoney totals := by
  induction values generalizing totals with
  | nil =>
    rw [List.foldlM_nil, Checked.pure_eq_ok]
    constructor
    · rintro rfl
      exact ⟨[], rfl, rfl⟩
    · rintro ⟨ms, hms, rfl⟩
      obtain rfl := List.map_eq_nil_iff.mp hms.symm
      rfl
  | cons value values ih =>
    rw [List.foldlM_cons, Checked.bind_eq_ok]
    constructor
    · rintro ⟨next, hnext, hrest⟩
      obtain ⟨r, hvalid, heq⟩ := Checked.bind_eq_ok.mp hnext
      obtain ⟨m, rfl, rfl⟩ := validateMoney_eq_ok.mp hvalid
      obtain rfl := Checked.pure_eq_ok.mp heq
      obtain ⟨ms, rfl, rfl⟩ := ih.mp hrest
      exact ⟨m :: ms, rfl, rfl⟩
    · rintro ⟨ms, hms, rfl⟩
      obtain ⟨m, ms, rfl, rfl, rfl⟩ := List.map_eq_cons_iff.mp hms.symm
      refine ⟨addMoney totals m, ?_, ih.mpr ⟨ms, rfl, rfl⟩⟩
      exact Checked.bind_eq_ok.mpr ⟨_, validateMoney_eq_ok.mpr ⟨m, rfl, rfl⟩, rfl⟩

theorem exists_key {ms : List Money} {f : CurrencyCode → ℤ} {c : CurrencyCode} :
    (∃ x ∈ (currencies ms).map (fun c => (c.text, f c)), x.1 = c.text) ↔ c ∈ currencies ms := by
  constructor
  · rintro ⟨x, hx, htext⟩
    obtain ⟨c', hc', rfl⟩ := List.mem_map.mp hx
    obtain rfl := CurrencyCode.text_injective htext
    exact hc'
  · intro h
    exact ⟨_, List.mem_map_of_mem h, rfl⟩

theorem get?_totals {cs : List CurrencyCode} {f : CurrencyCode → ℤ} {c : CurrencyCode} :
    Relational.Dict.get? (cs.map fun c => (c.text, f c)) c.text = if c ∈ cs then
      some (f c) else none := by
  induction cs with
  | nil => rfl
  | cons c' cs ih =>
    rw [Relational.Dict.get?] at ih ⊢
    rw [List.map_cons, List.find?_cons]
    by_cases h : c' = c
    · simp [h]
    · have htext : c'.text ≠ c.text := fun heq => h (CurrencyCode.text_injective heq)
      have hmem : c ∈ c' :: cs ↔ c ∈ cs := by simp [Ne.symm h]
      simp only [decide_eq_false htext, ih, hmem]

/-- The loop keeps the exact total of every currency. -/
theorem foldl_addMoney (ms : List Money) :
    ms.foldl addMoney [] = (currencies ms).map fun c => (c.text, total ms c) := by
  induction ms using List.reverseRecOn with
  | nil => rfl
  | append_singleton ms m ih =>
    have htotal :
      ((if m.currencyCode ∈ currencies ms then some (total ms m.currencyCode) else none).getD 0 +
        m.amountMinor) = total (ms ++ [m]) m.currencyCode := by
      rw [total_append, if_pos rfl]
      by_cases h : m.currencyCode ∈ currencies ms
      · simp [h]
      · simp [h, total_eq_zero h]
    have hcurrencies : currencies (ms ++ [m]) = if m.currencyCode ∈ currencies ms then currencies ms
        else currencies ms ++ [m.currencyCode] := by
      have hmem : m.currencyCode ∈ ms.map Money.currencyCode ↔ m.currencyCode ∈ currencies ms := by
        rw [currencies, List.mem_eraseDups]
      have hlast : [m.currencyCode].eraseDups = [m.currencyCode] := rfl
      rw [currencies, List.map_append, List.eraseDups_append, List.map_cons, List.map_nil,
        List.removeAll, List.filter_cons, List.filter_nil]
      by_cases h : m.currencyCode ∈ currencies ms
      · simp only [List.elem_eq_mem, hmem.mpr h, h, decide_true, Bool.not_true,
          Bool.false_eq_true, if_false,
          if_true, List.eraseDups_nil, List.append_nil]
        rfl
      · simp only [List.elem_eq_mem, mt hmem.mp h, h, decide_false, Bool.not_false, if_true,
          if_false, hlast]
        rfl
    rw [List.foldl_append, ih, List.foldl_cons, List.foldl_nil, addMoney, get?_totals, htotal,
      Relational.Dict.set, hcurrencies]
    by_cases h : m.currencyCode ∈ currencies ms
    · rw [if_pos (exists_key.mpr h), if_pos h, List.map_map]
      refine List.map_congr_left fun c _ => ?_
      by_cases hc : m.currencyCode = c
      · subst hc
        simp
      · have htext : c.text ≠ m.currencyCode.text :=
          fun heq => hc (CurrencyCode.text_injective heq).symm
        simp [htext, total_append, hc]
    · rw [if_neg (mt exists_key.mp h), if_neg h, List.map_append]
      congr 1
      refine List.map_congr_left fun c hc => ?_
      have hne : m.currencyCode ≠ c := fun heq => h (heq ▸ hc)
      rw [total_append, if_neg hne, add_zero]

theorem validTotal_eq_ok {c : CurrencyCode} {n : ℤ} {r : JsMoney} :
    validTotal (c.text, n) = .ok r ↔ InRange n ∧ r = ⟨.finite n, c.text⟩ := by
  unfold validTotal
  rw [Checked.bind_eq_ok]
  constructor
  · rintro ⟨v, hvalid, hr⟩
    obtain ⟨m, hm, -⟩ := validateMoney_eq_ok.mp hvalid
    obtain rfl := Checked.pure_eq_ok.mp hr
    obtain ⟨hamount, -⟩ := JsMoney.mk.inj (Option.some.inj hm)
    have hsafe := safeInteger?_ofBigInt n
    rw [hamount, safeInteger?_intCast, if_pos m.in_range] at hsafe
    by_cases hn : InRange n
    · exact ⟨hn, by rw [ofBigInt_of_inRange hn]⟩
    · rw [if_neg hn] at hsafe
      cases hsafe
  · rintro ⟨hn, rfl⟩
    refine ⟨_, validateMoney_eq_ok.mpr ⟨⟨n, c, hn⟩, ?_, rfl⟩, ?_⟩
    · rw [ofBigInt_of_inRange hn, jsMoney]
    · rw [ofBigInt_of_inRange hn]
      rfl

/-- The sums are exact, and there are none if a value is invalid or a sum out of range. -/
theorem sumMoneyByCurrency_eq_ok {values : List (Option JsMoney)} {sums : List JsMoney} :
    sumMoneyByCurrency values = .ok sums ↔
      ∃ ms : List Money, values = ms.map (fun m => some (jsMoney m)) ∧
      (∀ c ∈ currencies ms, InRange (total ms c)) ∧
      sums = (currencies ms).map fun c => ⟨.finite (total ms c), c.text⟩ := by
  have hmapM : ∀ (cs : List CurrencyCode) (f : CurrencyCode → ℤ) (sums : List JsMoney),
      (cs.map fun c => (c.text, f c)).mapM validTotal = .ok sums ↔
        (∀ c ∈ cs, InRange (f c)) ∧ sums = cs.map fun c => ⟨.finite (f c), c.text⟩ := by
    intro cs f sums
    rw [Checked.mapM_eq_ok, List.forall₂_map_left_iff]
    induction cs generalizing sums with
    | nil => simp
    | cons c cs ih =>
      rw [List.forall₂_cons_left_iff]
      simp only [List.forall_mem_cons, List.map_cons]
      constructor
      · rintro ⟨_, rest, hfirst, hrest, rfl⟩
        obtain ⟨hc, rfl⟩ := validTotal_eq_ok.mp hfirst
        obtain ⟨hcs, rfl⟩ := (ih rest).mp hrest
        exact ⟨⟨hc, hcs⟩, rfl⟩
      · rintro ⟨⟨hc, hcs⟩, rfl⟩
        exact ⟨_, _, validTotal_eq_ok.mpr ⟨hc, rfl⟩, (ih _).mpr ⟨hcs, rfl⟩, rfl⟩
  unfold sumMoneyByCurrency
  rw [Checked.bind_eq_ok]
  constructor
  · rintro ⟨totals, htotals, hsums⟩
    obtain ⟨ms, rfl, rfl⟩ := foldlM_addValue.mp htotals
    rw [foldl_addMoney] at hsums
    exact ⟨ms, rfl, (hmapM _ _ _).mp hsums⟩
  · rintro ⟨ms, rfl, h⟩
    refine ⟨_, foldlM_addValue.mpr ⟨ms, rfl, rfl⟩, ?_⟩
    rw [foldl_addMoney]
    exact (hmapM _ _ _).mpr h

/-- Money that is shown reads back as it was, from the UI's text and from the bank's; the UI reads
the literals that fit, exactly; and it adds up exactly or not at all. -/
theorem shown_money_reads_back (m : Money) (numberFormat : NumberFormat) (plain : String → String)
    (locale : String)
    (displayed : plain (numberFormat locale m.currencyCode.text m.currencyCode.exponent
      m.currencyCode.exponent (decimalText m.amountMinor m.currencyCode.exponent)) =
        decimalText m.amountMinor m.currencyCode.exponent) :
    (∃ text, formatMoney numberFormat (some (jsMoney m)) locale = .ok text ∧
      parseMoneyInput (plain text) m.currencyCode.text = .ok (jsMoney m)) ∧
    (∀ locale ∈ MoneyLocale.SUPPORTED_SUPPORT_LOCALES, ∃ p, projectMoney m locale = .ok p ∧
      parseMoneyInput (plainDigits p.displayText) m.currencyCode.text = .ok (jsMoney m)) ∧
    (∀ input code r, parseMoneyInput input code = .ok r ↔
      ∃ c : CurrencyCode, c.text = code ∧ ∃ d : Literal, d.text = trim input ∧ Fits d c ∧
        r = ⟨.finite (d.value * 10 ^ c.exponent), code⟩) ∧
    ∀ values sums, sumMoneyByCurrency values = .ok sums ↔
      ∃ ms : List Money, values = ms.map (fun m => some (jsMoney m)) ∧
        (∀ c ∈ currencies ms, InRange (total ms c)) ∧
        sums = (currencies ms).map fun c => ⟨.finite (total ms c), c.text⟩ := by
  refine ⟨?_, ?_, fun _ _ _ => parseMoneyInput_eq_ok, fun _ _ => sumMoneyByCurrency_eq_ok⟩
  · have hvalid := validateMoney_eq_ok.mpr ⟨m, rfl, rfl⟩
    refine ⟨_, Checked.bind_eq_ok.mpr ⟨_, hvalid, rfl⟩, ?_⟩
    rw [displayed, decimalText_eq]
    exact parseMoneyInput_decimal m
  · intro locale hlocale
    have hshown : ∃ p, projectMoney m locale = .ok p := by
      unfold projectMoney
      rw [if_neg (not_not.mpr hlocale)]
      exact ⟨_, rfl⟩
    obtain ⟨p, hp⟩ := hshown
    refine ⟨p, hp, ?_⟩
    rw [plainDigits_projectMoney hp]
    exact parseMoneyInput_decimal m

def fewDollars : NumberFormat := fun _ _ _ _ decimal =>
  match decimal.toList with
  | '-' :: digits => "-$" ++ String.ofList digits
  | digits => "$" ++ String.ofList digits

theorem centOwed_reads_back :
    ∃ text, formatMoney fewDollars (some (jsMoney ⟨-1, .usd, by decide⟩)) "en-US" = .ok text ∧
      parseMoneyInput (plainDigits text) "USD" = .ok (jsMoney ⟨-1, .usd, by decide⟩) :=
  (shown_money_reads_back ⟨-1, .usd, by decide⟩ fewDollars plainDigits "en-US" (by decide)).1

/-- A literal with the currency's decimals that is one unit out of range. -/
theorem tooLarge_not_read :
    (∃ d : Literal, d.text = trim "90071992547409.92" ∧
      d.fraction.length ≤ CurrencyCode.usd.exponent) ∧
      parseMoneyInput "90071992547409.92" "USD" = .error "Amount exceeds the supported range." := by
  refine ⟨⟨⟨[], "90071992547409".toList, ['9', '2'], by simp, by decide,
    List.all_eq_true.mp (by decide)⟩, by decide, by decide⟩, ?_⟩
  decide

end ShownAmounts
