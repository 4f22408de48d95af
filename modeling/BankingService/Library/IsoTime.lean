import Mathlib.Algebra.Group.Nat.Defs
import Mathlib.Data.Nat.Init
import Mathlib.Data.Int.Init
import Mathlib.Data.List.DropRight
import Mathlib.Tactic.Common

/-! Calendar times, the ISO 8601 texts that Python writes for them, and Java's
`OffsetDateTime.parse`, which reads a text only with an offset of at most eighteen hours. -/
namespace IsoTime

def isLeap (year : ℤ) : Bool := year % 4 = 0 ∧ (year % 100 ≠ 0 ∨ year % 400 = 0)

def monthLength (year : ℤ) (month : ℕ) : ℕ :=
  if month = 2 then if isLeap year then 29 else 28
  else if month = 4 ∨ month = 6 ∨ month = 9 ∨ month = 11 then 30 else 31

/-- `datetime.datetime` without a time zone. -/
structure LocalDateTime where
  year : ℕ
  month : ℕ
  day : ℕ
  hour : ℕ
  minute : ℕ
  second : ℕ
  microsecond : ℕ
  year_range : 1 ≤ year ∧ year ≤ 9999
  month_range : 1 ≤ month ∧ month ≤ 12
  day_range : 1 ≤ day ∧ day ≤ monthLength year month
  hour_range : hour < 24
  minute_range : minute < 60
  second_range : second < 60
  microsecond_range : microsecond < 1000000
  deriving DecidableEq

/-- `datetime.datetime` with a time zone: its offset from UTC in microseconds is less than a
day. -/
structure AwareDateTime where
  clock : LocalDateTime
  offset : ℤ
  offset_range : offset.natAbs < 24 * 3600 * 1000000
  deriving DecidableEq

/-- `datetime.datetime`, which raises where a field is out of its range. -/
def datetime (year month day hour minute second microsecond : ℕ) : Option LocalDateTime :=
  if h : (1 ≤ year ∧ year ≤ 9999) ∧ (1 ≤ month ∧ month ≤ 12) ∧
    (1 ≤ day ∧ day ≤ monthLength year month) ∧
      hour < 24 ∧ minute < 60 ∧ second < 60 ∧ microsecond < 1000000 then
    some ⟨year, month, day, hour, minute, second, microsecond, h.1, h.2.1, h.2.2.1,
      h.2.2.2.1, h.2.2.2.2.1,
      h.2.2.2.2.2.1, h.2.2.2.2.2.2⟩
  else none

theorem utc_range : (0 : ℤ).natAbs < 24 * 3600 * 1000000 := by decide

def two (n : ℕ) : List Char := [(n / 10 % 10).digitChar, (n % 10).digitChar]

def four (n : ℕ) : List Char := two (n / 100) ++ two (n % 100)

def six (n : ℕ) : List Char := two (n / 10000) ++ two (n / 100 % 100) ++ two (n % 100)

namespace LocalDateTime

/-- `isoformat()` of a time without a zone. -/
def text (d : LocalDateTime) : List Char :=
  four d.year ++ '-' :: two d.month ++ '-' :: two d.day ++ 'T' :: two d.hour ++ ':' ::
    two d.minute ++ ':' :: two d.second ++
      (if d.microsecond = 0 then [] else '.' :: six d.microsecond)

end LocalDateTime

/-- `+HH:MM[:SS[.ffffff]]`. -/
def offsetText (offset : ℤ) : List Char :=
  let seconds := offset.natAbs / 1000000
  let microseconds := offset.natAbs % 1000000
  (if offset < 0 then '-' else '+') :: two (seconds / 3600) ++ ':' :: two (seconds / 60 % 60) ++
    if microseconds ≠ 0 then ':' :: two (seconds % 60) ++ '.' :: six microseconds
    else if seconds % 60 ≠ 0 then ':' :: two (seconds % 60) else []

/-- `isoformat()`. -/
def AwareDateTime.isoformat (d : AwareDateTime) : String :=
  String.ofList (d.clock.text ++ offsetText d.offset)

/-- A `java.time.OffsetDateTime`. -/
structure OffsetDateTime where
  year : ℤ
  month : ℕ
  day : ℕ
  hour : ℕ
  minute : ℕ
  second : ℕ
  nano : ℕ
  offsetSeconds : ℤ
  deriving DecidableEq

/-- `LocalDate.toEpochDay`. -/
def epochDay (year : ℤ) (month day : ℕ) : ℤ :=
  let leaps :=
    if 0 ≤ year then (year + 3) / 4 - (year + 99) / 100 + (year + 399) / 400
    else -(-year / 4 - -year / 100 + -year / 400)
  let adjust := if month ≤ 2 then 0 else if isLeap year then 1 else 2
  365 * year + leaps + (367 * month - 362) / 12 + (day - 1) - adjust - 719528

/-- `toInstant().toEpochMilli()`. -/
def OffsetDateTime.epochMilli (d : OffsetDateTime) : ℤ :=
  (epochDay d.year d.month d.day * 86400 + d.hour * 3600 + d.minute * 60 + d.second -
    d.offsetSeconds) * 1000 + d.nano / 1000000

def digit (c : Char) : Option ℕ := if c.isDigit then some (c.toNat - 48) else none

def readTwo : List Char → Option (ℕ × List Char)
  | a :: b :: t => do
    let a ← digit a
    let b ← digit b
    return (a * 10 + b, t)
  | _ => none

def expect (c : Char) : List Char → Option (List Char)
  | [] => none
  | d :: t => if d = c then some t else none

def readYear : List Char → Option (ℤ × List Char)
  | [] => none
  | c :: t =>
    let signed := c = '+' ∨ c = '-'
    let l := if signed then t else c :: t
    let digits := l.takeWhile Char.isDigit
    let rest := l.dropWhile Char.isDigit
    let n : ℤ := Nat.ofDigitChars 10 digits 0
    if digits.length < 4 ∨ 10 < digits.length ∨ 999999999 < n then none
    else if c = '-' then if n = 0 then none else some (-n, rest)
    else if (c = '+' ↔ 4 < digits.length) then some (n, rest) else none

def readFraction (l : List Char) : ℕ × List Char :=
  let digits := (l.take 9).takeWhile Char.isDigit
  (Nat.ofDigitChars 10 digits 0 * 10 ^ (9 - digits.length), l.drop digits.length)

/-- `[:ss[.fraction]]`. -/
def readSeconds : List Char → Option (ℕ × ℕ × List Char)
  | ':' :: t => do
    let (s, t) ← readTwo t
    match t with
    | '.' :: u => return (s, readFraction u)
    | u => return (s, 0, u)
  | t => some (0, 0, t)

/-- `[:ss]`; what is no seconds is left. -/
def readOffsetSeconds : List Char → ℕ × List Char
  | ':' :: t => (readTwo t).getD (0, ':' :: t)
  | t => (0, t)

/-- `Z` or `±HH:MM[:ss]`. -/
def readOffset : List Char → Option (ℤ × List Char)
  | [] => none
  | c :: t =>
    if c = 'Z' ∨ c = 'z' then some (0, t)
    else if c = '+' ∨ c = '-' then do
      let (h, t) ← readTwo t
      let t ← expect ':' t
      let (m, t) ← readTwo t
      let (s, t) := readOffsetSeconds t
      if m < 60 ∧ s < 60 then
        let seconds : ℤ := h * 3600 + m * 60 + s
        return (if c = '-' then -seconds else seconds, t)
      else none
    else none

def OffsetDateTime.Valid (d : OffsetDateTime) : Prop :=
  1 ≤ d.month ∧ d.month ≤ 12 ∧ 1 ≤ d.day ∧ d.day ≤ monthLength d.year d.month ∧ d.hour < 24 ∧
    d.minute < 60 ∧ d.second < 60 ∧ d.offsetSeconds.natAbs ≤ 18 * 3600

instance (d : OffsetDateTime) : Decidable d.Valid := inferInstanceAs (Decidable (_ ∧ _))

/-- `OffsetDateTime.parse`, by `ISO_OFFSET_DATE_TIME`. -/
def OffsetDateTime.parse (s : String) : Option OffsetDateTime := do
  let (year, t) ← readYear s.toList
  let t ← expect '-' t
  let (month, t) ← readTwo t
  let t ← expect '-' t
  let (day, t) ← readTwo t
  let t ← (expect 'T' t).or (expect 't' t)
  let (hour, t) ← readTwo t
  let t ← expect ':' t
  let (minute, t) ← readTwo t
  let (second, nano, t) ← readSeconds t
  let (offsetSeconds, t) ← readOffset t
  let d : OffsetDateTime := ⟨year, month, day, hour, minute, second, nano, offsetSeconds⟩
  if d.Valid ∧ t = [] then some d else none

theorem digit_digitChar {n : ℕ} (h : n < 10) : digit n.digitChar = some n := by
  have hall : ∀ n : Fin 10, digit n.val.digitChar = some n.val := by decide
  exact hall ⟨n, h⟩

theorem isDigit_digitChar {n : ℕ} (h : n < 10) : n.digitChar.isDigit = true := by
  have hall : ∀ n : Fin 10, n.val.digitChar.isDigit = true := by decide
  exact hall ⟨n, h⟩

theorem isDigit_two (n : ℕ) : ∀ c ∈ two n, c.isDigit = true := by
  intro c hc
  simp only [two, List.mem_cons, List.not_mem_nil, or_false] at hc
  rcases hc with rfl | rfl
  · exact isDigit_digitChar (Nat.mod_lt _ (by decide))
  · exact isDigit_digitChar (Nat.mod_lt _ (by decide))

theorem readTwo_two {n : ℕ} (h : n < 100) (r : List Char) : readTwo (two n ++ r) = some (n, r) := by
  simp only [two, List.cons_append, List.nil_append, readTwo,
    digit_digitChar (Nat.mod_lt _ (by decide : 10 > 0)), Option.bind_eq_bind, Option.bind_some,
    Option.pure_def]
  congr 2
  omega

theorem ofDigitChars_two {n : ℕ} (h : n < 100) (init : ℕ) :
    Nat.ofDigitChars 10 (two n) init = 100 * init + n := by
  simp only [two]
  rw [Nat.ofDigitChars_cons_digitChar_of_lt_ten (Nat.mod_lt _ (by decide)),
    Nat.ofDigitChars_cons_digitChar_of_lt_ten (Nat.mod_lt _ (by decide)), Nat.ofDigitChars_nil]
  omega

@[simp] theorem expect_self (c : Char) (t : List Char) : expect c (c :: t) = some t := if_pos rfl

theorem takeWhile_digits {l r : List Char} (hl : ∀ c ∈ l, c.isDigit = true)
    (hr : ∀ c ∈ r.head?, c.isDigit = false) :
    (l ++ r).takeWhile Char.isDigit = l ∧ (l ++ r).dropWhile Char.isDigit = r := by
  rw [List.takeWhile_append_of_pos hl, List.dropWhile_append_of_pos hl]
  cases r with
  | nil => simp
  | cons c r => simp [hr c rfl]

theorem readYear_four {n : ℕ} (h : n ≤ 9999) (r : List Char) :
    readYear (four n ++ '-' :: r) = some ((n : ℤ), '-' :: r) := by
  have hdigits : ∀ c ∈ four n, c.isDigit = true := by
    intro c hc
    rcases List.mem_append.mp hc with hc | hc
    · exact isDigit_two _ c hc
    · exact isDigit_two _ c hc
  obtain ⟨htake, hdrop⟩ := takeWhile_digits (r := '-' :: r) hdigits (by rintro c ⟨⟩; rfl)
  have hvalue : Nat.ofDigitChars 10 (four n) 0 = n := by
    rw [four, Nat.ofDigitChars_append, ofDigitChars_two (by omega), ofDigitChars_two (by omega)]
    omega
  have hlength : (four n).length = 4 := rfl
  obtain ⟨c, t, hc⟩ : ∃ c t, four n = c :: t := ⟨_, _, rfl⟩
  have hdigit : c.isDigit = true := hdigits c (by rw [hc]; exact List.mem_cons_self)
  have hplus : c ≠ '+' := by
    rintro rfl
    exact absurd hdigit (by decide)
  have hminus : c ≠ '-' := by
    rintro rfl
    exact absurd hdigit (by decide)
  have hbound : ¬ ((999999999 : ℤ) < n) := by omega
  rw [hc, List.cons_append] at htake hdrop
  rw [hc] at hvalue hlength
  rw [hc, List.cons_append, readYear]
  simp only [hplus, hminus, or_self, if_false, htake, hdrop, hvalue, hlength, hbound]
  simp

theorem readFraction_six {n : ℕ} (h : n < 1000000) {r : List Char}
    (hr : ∀ c ∈ r.head?, c.isDigit = false) : readFraction (six n ++ r) = (n * 1000, r) := by
  have hdigits : ∀ c ∈ six n, c.isDigit = true := by
    intro c hc
    simp only [six, List.mem_append] at hc
    rcases hc with (hc | hc) | hc
    · exact isDigit_two _ c hc
    · exact isDigit_two _ c hc
    · exact isDigit_two _ c hc
  have hlength : (six n).length = 6 := rfl
  have htake : ((six n ++ r).take 9).takeWhile Char.isDigit = six n := by
    rw [List.take_append, List.take_of_length_le (by rw [hlength]; decide), hlength]
    refine (takeWhile_digits hdigits ?_).1
    rwa [List.head?_take]
  have hvalue : Nat.ofDigitChars 10 (six n) 0 = n := by
    rw [six, Nat.ofDigitChars_append, Nat.ofDigitChars_append, ofDigitChars_two (by omega),
      ofDigitChars_two (by omega), ofDigitChars_two (by omega)]
    omega
  rw [readFraction, htake, hvalue, hlength, ← hlength, List.drop_left]
  rfl

/-- The offsets that Java reads: whole seconds, at most eighteen hours. -/
def Readable (offset : ℤ) : Prop :=
  offset.natAbs % 1000000 = 0 ∧ offset.natAbs ≤ 18 * 3600 * 1000000

instance (offset : ℤ) : Decidable (Readable offset) := inferInstanceAs (Decidable (_ ∧ _))

theorem readSeconds_text (d : LocalDateTime) {r : List Char}
    (hr : ∀ c ∈ r.head?, c.isDigit = false ∧ c ≠ '.') :
    readSeconds (':' :: two d.second ++
      (if d.microsecond = 0 then [] else '.' :: six d.microsecond) ++ r) =
      some (d.second, d.microsecond * 1000, r) := by
  have hsecond := d.second_range
  split
  · next hzero =>
    rw [List.append_nil, List.cons_append, readSeconds, readTwo_two (by omega), hzero]
    cases r with
    | nil => rfl
    | cons c r =>
      have hc := (hr c rfl).2
      simp only [Option.bind_eq_bind, Option.bind_some]
      split
      · next heq =>
        cases heq
        exact absurd rfl hc
      · rfl
  · rw [List.append_assoc, List.cons_append, readSeconds, readTwo_two (by omega)]
    simp only [List.cons_append, Option.bind_eq_bind, Option.bind_some, Option.pure_def]
    rw [readFraction_six d.microsecond_range fun c hc => (hr c hc).1]

theorem readOffset_signed {c : Char} (hc : c = '+' ∨ c = '-') {h m s : ℕ} {t r : List Char}
    (hh : h < 100) (hm : m < 60) (hs : s < 60) (ht : readOffsetSeconds t = (s, r)) :
    readOffset (c :: two h ++ ':' :: two m ++ t) =
      some (if c = '-' then
        -((h : ℤ) * 3600 + m * 60 + s) else (h : ℤ) * 3600 + m * 60 + s, r) := by
  have hzulu : ¬ (c = 'Z' ∨ c = 'z') := by rcases hc with rfl | rfl <;> decide
  simp only [List.cons_append, List.append_assoc, readOffset, if_neg hzulu, if_pos hc,
    readTwo_two hh, expect_self, readTwo_two (show m < 100 by omega), Option.bind_eq_bind,
    Option.bind_some, ht, hm, hs, and_self, if_true, Option.pure_def]

theorem readOffset_text {offset : ℤ} (h : offset.natAbs < 24 * 3600 * 1000000) :
    readOffset (offsetText offset) =
      some (if offset < 0 then -((offset.natAbs / 1000000 : ℕ) : ℤ)
        else (offset.natAbs / 1000000 : ℕ),
        if offset.natAbs % 1000000 = 0 then [] else '.' :: six (offset.natAbs % 1000000)) := by
  set n := offset.natAbs / 1000000 with hn
  have hdigits : ((n / 3600 : ℕ) : ℤ) * 3600 + (n / 60 % 60 : ℕ) * 60 + (n % 60 : ℕ) = n := by omega
  have hsign :
    (if offset < 0 then '-' else '+') = '+' ∨ (if offset < 0 then '-' else '+') = '-' := by
    split
    · exact Or.inr rfl
    · exact Or.inl rfl
  have hminus : (if offset < 0 then '-' else '+') = '-' ↔ offset < 0 := by
    split
    · next hneg => exact iff_of_true rfl hneg
    · next hneg => exact iff_of_false (by decide) hneg
  have hseconds : readOffsetSeconds (if offset.natAbs % 1000000 ≠ 0 then
        ':' :: two (n % 60) ++ '.' :: six (offset.natAbs % 1000000)
      else if n % 60 ≠ 0 then ':' :: two (n % 60) else []) = (n % 60,
        if offset.natAbs % 1000000 = 0 then [] else '.' :: six (offset.natAbs % 1000000)) := by
    by_cases hmicro : offset.natAbs % 1000000 = 0
    · rw [if_neg (not_not.mpr hmicro), if_pos hmicro]
      by_cases hzero : n % 60 = 0
      · rw [if_neg (not_not.mpr hzero), hzero]
        rfl
      · have hread := readTwo_two (show n % 60 < 100 by omega) []
        rw [List.append_nil] at hread
        rw [if_pos hzero, readOffsetSeconds, hread]
        rfl
    · rw [if_pos hmicro, if_neg hmicro, List.cons_append, readOffsetSeconds,
        readTwo_two (by omega)]
      rfl
  have hread := readOffset_signed hsign (h := n / 3600) (m := n / 60 % 60) (by omega) (by omega)
    (by omega) hseconds
  simp only [hminus, hdigits] at hread
  exact hread

theorem parse_text (d : LocalDateTime) {r : List Char}
    (hr : ∀ c ∈ r.head?, c.isDigit = false ∧ c ≠ '.') :
    OffsetDateTime.parse (String.ofList (d.text ++ r)) = (readOffset r).bind fun x =>
      let t : OffsetDateTime := ⟨d.year, d.month, d.day, d.hour, d.minute, d.second,
        d.microsecond * 1000, x.1⟩
      if t.Valid ∧ x.2 = [] then some t else none := by
  have hseconds := readSeconds_text d hr
  have hday := d.day_range
  have hmonth := d.month_range
  have hlength : monthLength d.year d.month ≤ 31 := by
    unfold monthLength
    split_ifs <;> decide
  simp only [List.cons_append, List.append_assoc] at hseconds
  rw [OffsetDateTime.parse, String.toList_ofList]
  simp only [LocalDateTime.text, List.cons_append, List.append_assoc,
    readYear_four d.year_range.2, readTwo_two (show d.month < 100 by omega),
    readTwo_two (show d.day < 100 by omega),
      readTwo_two (show d.hour < 100 by have := d.hour_range; omega),
    readTwo_two (show d.minute < 100 by have := d.minute_range; omega), expect_self, hseconds,
    Option.bind_eq_bind, Option.bind_some, Option.some_or]

def AwareDateTime.toJava (d : AwareDateTime) : OffsetDateTime :=
  ⟨d.clock.year, d.clock.month, d.clock.day, d.clock.hour, d.clock.minute, d.clock.second,
    d.clock.microsecond * 1000, d.offset / 1000000⟩

theorem valid_toJava {d : AwareDateTime} (h : d.offset.natAbs % 1000000 = 0) :
    d.toJava.Valid ↔ Readable d.offset := by
  have hseconds : d.toJava.offsetSeconds.natAbs * 1000000 = d.offset.natAbs := by
    simp only [AwareDateTime.toJava]
    omega
  constructor
  · rintro ⟨-, -, -, -, -, -, -, hbound⟩
    exact ⟨h, by omega⟩
  · rintro ⟨-, hbound⟩
    exact ⟨d.clock.month_range.1, d.clock.month_range.2, d.clock.day_range.1, d.clock.day_range.2,
      d.clock.hour_range, d.clock.minute_range, d.clock.second_range, by omega⟩

/-- Java reads the text of a time with an offset exactly if the offset is one that it knows. -/
theorem parse_isoformat (d : AwareDateTime) :
    OffsetDateTime.parse d.isoformat = if Readable d.offset then some d.toJava else none := by
  have hsign : ∀ c ∈ (offsetText d.offset).head?, c.isDigit = false ∧ c ≠ '.' := by
    rintro c ⟨⟩
    split
    · decide
    · decide
  rw [AwareDateTime.isoformat, parse_text d.clock hsign, readOffset_text d.offset_range,
    Option.bind_some]
  by_cases hmicro : d.offset.natAbs % 1000000 = 0
  · have hseconds : (if d.offset < 0 then -((d.offset.natAbs / 1000000 : ℕ) : ℤ)
        else (d.offset.natAbs / 1000000 : ℕ)) = d.offset / 1000000 := by
      split <;> omega
    simp only [if_pos hmicro, hseconds, and_true]
    exact if_congr (valid_toJava hmicro) rfl rfl
  · have hread : ¬ Readable d.offset := fun h => hmicro h.1
    simp [hmicro, hread]

def LocalDateTime.trimmedText (d : LocalDateTime) : List Char :=
  four d.year ++ '-' :: two d.month ++ '-' :: two d.day ++ 'T' :: two d.hour ++ ':' ::
    two d.minute ++ ':' :: two d.second ++
      (if d.microsecond = 0 then [] else '.' :: (six d.microsecond).rdropWhile (· = '0'))

theorem readFraction_all {l : List Char} (hl : ∀ c ∈ l, c.isDigit = true) (hlength : l.length ≤ 9) :
    (readFraction l).2 = [] := by
  have htake : (l.take 9).takeWhile Char.isDigit = l := by
    rw [List.take_of_length_le hlength, List.takeWhile_eq_self_iff]
    exact hl
  simp [readFraction, htake]

theorem readSeconds_trimmed (d : LocalDateTime) : ∃ n, readSeconds (':' :: two d.second ++
    (if d.microsecond = 0 then [] else '.' :: (six d.microsecond).rdropWhile (· = '0'))) =
      some (d.second, n, []) := by
  have hsecond := d.second_range
  rw [List.cons_append, readSeconds, readTwo_two (by omega)]
  split
  · exact ⟨0, rfl⟩
  · have hlead := List.rdropWhile_prefix (fun c => c = '0') (l := six d.microsecond)
    have hdigits : ∀ c ∈ (six d.microsecond).rdropWhile (· = '0'), c.isDigit = true := by
      intro c hc
      have hmem := hlead.subset hc
      simp only [six, List.mem_append] at hmem
      rcases hmem with (hmem | hmem) | hmem
      · exact isDigit_two _ c hmem
      · exact isDigit_two _ c hmem
      · exact isDigit_two _ c hmem
    have hrest := readFraction_all hdigits (hlead.length_le.trans (show 6 ≤ 9 by decide))
    refine ⟨(readFraction ((six d.microsecond).rdropWhile (· = '0'))).1, ?_⟩
    simp only [Option.bind_eq_bind, Option.bind_some, Option.pure_def, ← hrest]

/-- Java does not read a text without an offset. -/
theorem parse_trimmed (d : LocalDateTime) :
    OffsetDateTime.parse (String.ofList d.trimmedText) = none := by
  obtain ⟨n, hseconds⟩ := readSeconds_trimmed d
  have hday := d.day_range
  have hmonth := d.month_range
  have hhour := d.hour_range
  have hminute := d.minute_range
  have hlength : monthLength d.year d.month ≤ 31 := by
    unfold monthLength
    split_ifs <;> decide
  simp only [List.cons_append] at hseconds
  rw [OffsetDateTime.parse, String.toList_ofList]
  simp only [LocalDateTime.trimmedText, List.cons_append, List.append_assoc,
    readYear_four d.year_range.2, readTwo_two (show d.month < 100 by omega),
    readTwo_two (show d.day < 100 by omega), readTwo_two (show d.hour < 100 by omega),
    readTwo_two (show d.minute < 100 by omega), expect_self, hseconds, Option.bind_eq_bind,
    Option.bind_some, Option.some_or, readOffset]
  rfl

end IsoTime
