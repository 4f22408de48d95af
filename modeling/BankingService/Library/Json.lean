import Mathlib.Data.List.Sort
import Mathlib.Data.String.Basic
import Mathlib.Tactic.Common

/-! JSON values, their compact ASCII text with sorted keys, and a reader of JSON texts. The reader
takes the text of a value back to the value, and refuses it where a number is not finite. -/
namespace Json

def isNumberChar (c : Char) : Bool :=
  c.isDigit || c == '-' || c == '+' || c == '.' || c == 'e' || c == 'E'

def afterDigits (l : List Char) : Option (List Char) :=
  if l.takeWhile Char.isDigit = [] then none else some (l.dropWhile Char.isDigit)

def afterUnsigned : List Char → Option (List Char)
  | [] => none
  | c :: t => if c = '0' then some t else afterDigits (c :: t)

def afterWhole : List Char → Option (List Char)
  | [] => none
  | c :: t => if c = '-' then afterUnsigned t else afterUnsigned (c :: t)

def afterFraction : List Char → Option (List Char)
  | [] => some []
  | c :: t => if c = '.' then afterDigits t else some (c :: t)

def afterExponent : List Char → Option (List Char)
  | [] => some []
  | c :: t =>
    if c = 'e' ∨ c = 'E' then
      match t with
      | [] => none
      | s :: u => if s = '+' ∨ s = '-' then afterDigits u else afterDigits (s :: u)
    else some (c :: t)

def IsReal (l : List Char) : Prop :=
  l.all isNumberChar ∧ afterWhole l ≠ some [] ∧
    ((afterWhole l).bind afterFraction).bind afterExponent = some []

instance (l : List Char) : Decidable (IsReal l) := inferInstanceAs (Decidable (_ ∧ _ ∧ _))

/-- A finite floating-point number, as its literal. -/
structure Real where
  literal : List Char
  real : IsReal literal
  deriving DecidableEq

inductive NonFinite where
  | nan
  | infinity
  | negativeInfinity
  deriving DecidableEq

def NonFinite.literal : NonFinite → List Char
  | nan => ['N', 'a', 'N']
  | infinity => ['I', 'n', 'f', 'i', 'n', 'i', 't', 'y']
  | negativeInfinity => ['-', 'I', 'n', 'f', 'i', 'n', 'i', 't', 'y']

end Json

/-- A JSON value, or one with a number that JSON has no text for. -/
inductive Json where
  | null
  | bool (b : Bool)
  | int (n : ℤ)
  | real (x : Json.Real)
  | nonFinite (x : Json.NonFinite)
  | str (s : String)
  | arr (items : List Json)
  | obj (fields : List (String × Json))

namespace Json

/-- The value of a field; of several of one name, the last. -/
def get (key : String) : Json → Option Json
  | obj fields => (fields.reverse.find? fun f => f.1 = key).map fun f => f.2
  | _ => none

mutual

def finite : Json → Bool
  | nonFinite _ => false
  | arr items => finiteItems items
  | obj fields => finiteFields fields
  | _ => true

def finiteItems : List Json → Bool
  | [] => true
  | x :: xs => x.finite && finiteItems xs

def finiteFields : List (String × Json) → Bool
  | [] => true
  | (_, x) :: fields => x.finite && finiteFields fields

end

mutual

def sorted : Json → Json
  | arr items => arr (sortedItems items)
  | obj fields => obj ((sortedFields fields).insertionSort fun a b => a.1 ≤ b.1)
  | j => j

def sortedItems : List Json → List Json
  | [] => []
  | x :: xs => x.sorted :: sortedItems xs

def sortedFields : List (String × Json) → List (String × Json)
  | [] => []
  | (k, x) :: fields => (k, x.sorted) :: sortedFields fields

end

def hexDigits (n : ℕ) : List Char :=
  [(n / 4096 % 16).digitChar, (n / 256 % 16).digitChar, (n / 16 % 16).digitChar,
    (n % 16).digitChar]

/-- `\uXXXX`. -/
def unicodeEscape (n : ℕ) : List Char := '\\' :: 'u' :: hexDigits n

def shortEscape (c : Char) : Option Char :=
  if c = '"' then some '"' else if c = '\\' then some '\\'
  else if c = '\n' then some 'n' else if c = '\r' then some 'r' else if c = '\t' then some 't'
  else if c = Char.ofNat 8 then some 'b' else if c = Char.ofNat 12 then some 'f' else none

def escapeChar (c : Char) : List Char :=
  match shortEscape c with
  | some e => ['\\', e]
  | none =>
    if 0x20 ≤ c.toNat ∧ c.toNat < 0x7f then [c]
    else if c.toNat < 0x10000 then unicodeEscape c.toNat
    else unicodeEscape (0xd800 + (c.toNat - 0x10000) / 0x400) ++
      unicodeEscape (0xdc00 + (c.toNat - 0x10000) % 0x400)

def quoted (s : String) : List Char := '"' :: s.toList.flatMap escapeChar ++ ['"']

def intText (n : ℤ) : List Char :=
  if n < 0 then '-' :: Nat.toDigits 10 n.natAbs else Nat.toDigits 10 n.natAbs

mutual

def text : Json → List Char
  | null => ['n', 'u', 'l', 'l']
  | bool b => if b then ['t', 'r', 'u', 'e'] else ['f', 'a', 'l', 's', 'e']
  | int n => intText n
  | real x => x.literal
  | nonFinite x => x.literal
  | str s => quoted s
  | arr items => '[' :: itemsText items
  | obj fields => '{' :: fieldsText fields

def itemsText : List Json → List Char
  | [] => [']']
  | x :: xs => x.text ++ restText xs

def restText : List Json → List Char
  | [] => [']']
  | x :: xs => ',' :: x.text ++ restText xs

def fieldsText : List (String × Json) → List Char
  | [] => ['}']
  | (k, x) :: fields => quoted k ++ ':' :: x.text ++ restFieldsText fields

def restFieldsText : List (String × Json) → List Char
  | [] => ['}']
  | (k, x) :: fields => ',' :: quoted k ++ ':' :: x.text ++ restFieldsText fields

end

/-- `json.dumps(value, sort_keys=True, separators=(",", ":"))`. -/
def dumps (j : Json) : String := String.ofList j.sorted.text

def isBlank (c : Char) : Bool := c == ' ' || c == '\t' || c == '\n' || c == '\r'

def skip (l : List Char) : List Char := l.dropWhile isBlank

def hexValue (c : Char) : Option ℕ :=
  if '0' ≤ c ∧ c ≤ '9' then some (c.toNat - 48)
  else if 'a' ≤ c ∧ c ≤ 'f' then some (c.toNat - 87)
  else if 'A' ≤ c ∧ c ≤ 'F' then some (c.toNat - 55)
  else none

def hex4 : List Char → Option (ℕ × List Char)
  | a :: b :: c :: d :: t => do
    let a ← hexValue a
    let b ← hexValue b
    let c ← hexValue c
    let d ← hexValue d
    return (a * 4096 + b * 256 + c * 16 + d, t)
  | _ => none

def lowSurrogate : List Char → Option (ℕ × List Char)
  | '\\' :: 'u' :: t => (hex4 t).filter fun x => 0xdc00 ≤ x.1 ∧ x.1 < 0xe000
  | _ => none

def unescape : List Char → Option (Char × List Char)
  | [] => none
  | c :: t =>
    if c = 'u' then do
      let (n, t) ← hex4 t
      if 0xd800 ≤ n ∧ n < 0xdc00 then do
        let (m, t) ← lowSurrogate t
        return (Char.ofNat (0x10000 + (n - 0xd800) * 0x400 + (m - 0xdc00)), t)
      else if 0xdc00 ≤ n ∧ n < 0xe000 then none
      else return (Char.ofNat n, t)
    else if c = '"' ∨ c = '\\' ∨ c = '/' then some (c, t)
    else if c = 'n' then some ('\n', t) else if c = 'r' then some ('\r', t)
    else if c = 't' then some ('\t', t) else if c = 'b' then some (Char.ofNat 8, t)
    else if c = 'f' then some (Char.ofNat 12, t) else none

def character : List Char → Option (Char × List Char)
  | [] => none
  | c :: t =>
    if c = '\\' then unescape t else if c.toNat < 0x20 then none else some (c, t)

def stringBody : ℕ → List Char → Option (List Char × List Char)
  | 0, _ => none
  | n + 1, l =>
    if l.head? = some '"' then some ([], l.tail)
    else do
      let (c, t) ← character l
      let (cs, r) ← stringBody n t
      return (c :: cs, r)

def wholeValue : List Char → ℤ
  | [] => 0
  | c :: t => if c = '-' then -(Nat.ofDigitChars 10 t 0) else Nat.ofDigitChars 10 (c :: t) 0

def number (l : List Char) : Option Json :=
  if afterWhole l = some [] then some (int (wholeValue l))
  else if h : IsReal l then some (real ⟨l, h⟩) else none

def keyword (word : List Char) (j : Json) (l : List Char) : Option (Json × List Char) :=
  if word.isPrefixOf l then some (j, l.drop word.length) else none

def nonFiniteAt (l : List Char) : Option (Json × List Char) :=
  [.nan, .infinity, .negativeInfinity].findSome? fun x =>
    keyword (NonFinite.literal x) (nonFinite x) l

def key (n : ℕ) (l : List Char) : Option (String × List Char) :=
  match skip l with
  | [] => none
  | c :: t =>
    if c = '"' then do
      let (k, t) ← stringBody n t
      match skip t with
      | [] => none
      | c :: t => if c = ':' then some (String.ofList k, t) else none
    else none

section
-- whether the literals of numbers that are not finite are read
variable (literals : Bool)

def scalar (c : Char) (l : List Char) : Option (Json × List Char) :=
  if c = 'n' then keyword ['n', 'u', 'l', 'l'] null l
  else if c = 't' then keyword ['t', 'r', 'u', 'e'] (bool true) l
  else if c = 'f' then keyword ['f', 'a', 'l', 's', 'e'] (bool false) l
  else
    match number (l.takeWhile isNumberChar) with
    | some j => some (j, l.dropWhile isNumberChar)
    | none => if literals then nonFiniteAt l else none

mutual

def value : ℕ → List Char → Option (Json × List Char)
  | 0, _ => none
  | n + 1, l =>
    match skip l with
    | [] => none
    | c :: t =>
      if c = '"' then (stringBody n t).map fun x => (str (String.ofList x.1), x.2)
      else if c = '[' then
        if (skip t).head? = some ']' then some (arr [], (skip t).tail)
        else (items n t).map fun x => (arr x.1, x.2)
      else if c = '{' then
        if (skip t).head? = some '}' then some (obj [], (skip t).tail)
        else (fields n t).map fun x => (obj x.1, x.2)
      else scalar literals c (c :: t)

def items : ℕ → List Char → Option (List Json × List Char)
  | 0, _ => none
  | n + 1, l => do
    let (x, t) ← value n l
    match skip t with
    | [] => none
    | c :: t =>
      if c = ']' then some ([x], t)
      else if c = ',' then do
        let (xs, r) ← items n t
        return (x :: xs, r)
      else none

def fields : ℕ → List Char → Option (List (String × Json) × List Char)
  | 0, _ => none
  | n + 1, l => do
    let (k, t) ← key n l
    let (x, t) ← value n t
    match skip t with
    | [] => none
    | c :: t =>
      if c = '}' then some ([(k, x)], t)
      else if c = ',' then do
        let (xs, r) ← fields n t
        return ((k, x) :: xs, r)
      else none

end

/-- The value of a text; no text is longer than the steps that reading it takes. -/
def read (s : String) : Option Json := do
  let (j, r) ← value literals (s.length + 1) s.toList
  if skip r = [] then some j else none

end

def parse : String → Option Json := read false

/-- Python's `json.loads`, up to the escapes of lone surrogates. -/
def loads : String → Option Json := read true

theorem isDigit_toDigits (n : ℕ) : ∀ c ∈ Nat.toDigits 10 n, c.isDigit = true :=
  fun _ hc => Nat.isDigit_of_mem_toDigits (by decide) (by decide) hc

theorem takeWhile_all {p : Char → Bool} {l r : List Char} (hl : ∀ c ∈ l, p c = true)
    (hr : ∀ c ∈ r.head?, p c = false) : (l ++ r).takeWhile p = l ∧ (l ++ r).dropWhile p = r := by
  rw [List.takeWhile_append_of_pos hl, List.dropWhile_append_of_pos hl]
  cases r with
  | nil => simp
  | cons c r => simp [hr c rfl]

theorem afterDigits_all {l : List Char} (h : ∀ c ∈ l, c.isDigit = true) (hne : l ≠ []) :
    afterDigits l = some [] := by
  obtain ⟨htake, hdrop⟩ := takeWhile_all (r := []) h (by simp)
  rw [List.append_nil] at htake hdrop
  rw [afterDigits, htake, hdrop, if_neg hne]

theorem head_toDigits {n : ℕ} (h : 0 < n) : (Nat.toDigits 10 n).head? ≠ some '0' := by
  induction n using Nat.strongRecOn with
  | _ n ih =>
    rw [Nat.toDigits_eq_if (by decide)]
    split
    · simp [Nat.pos_iff_ne_zero.mp h]
    · have hpos : 0 < n / 10 := by omega
      have hrest := ih (n / 10) (by omega) hpos
      rw [List.head?_append]
      cases hd : (Nat.toDigits 10 (n / 10)).head? with
      | none => exact absurd (List.head?_eq_none_iff.mp hd) Nat.toDigits_ne_nil
      | some c => exact fun hc => hrest (hd.trans hc)

theorem afterUnsigned_toDigits (n : ℕ) : afterUnsigned (Nat.toDigits 10 n) = some [] := by
  rcases Nat.eq_zero_or_pos n with rfl | hpos
  · rw [Nat.toDigits_zero]
    rfl
  · have hhead := head_toDigits hpos
    have hall := afterDigits_all (isDigit_toDigits n) Nat.toDigits_ne_nil
    cases hd : Nat.toDigits 10 n with
    | nil => exact absurd hd Nat.toDigits_ne_nil
    | cons c t =>
      rw [hd] at hhead hall
      have hc : c ≠ '0' := fun h => hhead (congrArg some h)
      rw [afterUnsigned, if_neg hc]
      exact hall

theorem toDigits_cons (n : ℕ) : ∃ c t, Nat.toDigits 10 n = c :: t ∧ c.isDigit = true ∧ c ≠ '-' := by
  cases hd : Nat.toDigits 10 n with
  | nil => exact absurd hd Nat.toDigits_ne_nil
  | cons c t =>
    have hc : c.isDigit = true := isDigit_toDigits n c (by rw [hd]; exact List.mem_cons_self)
    refine ⟨c, t, rfl, hc, ?_⟩
    rintro rfl
    exact absurd hc (by decide)

theorem number_intText (n : ℤ) : number (intText n) = some (int n) := by
  rcases lt_or_ge n 0 with hneg | hnonneg
  · rw [intText, if_pos hneg, number, afterWhole, if_pos rfl, afterUnsigned_toDigits, if_pos rfl,
      wholeValue, if_pos rfl, Nat.ofDigitChars_toDigits (by decide) (by decide)]
    congr 2
    omega
  · obtain ⟨c, t, hd, -, hc⟩ := toDigits_cons n.natAbs
    have hunsigned := afterUnsigned_toDigits n.natAbs
    have hvalue : Nat.ofDigitChars 10 (Nat.toDigits 10 n.natAbs) 0 = n.natAbs :=
      Nat.ofDigitChars_toDigits (by decide) (by decide)
    rw [hd] at hunsigned hvalue
    rw [intText, if_neg (not_lt.mpr hnonneg), hd, number, afterWhole, if_neg hc, hunsigned,
      if_pos rfl, wholeValue, if_neg hc, hvalue]
    congr 2
    omega

theorem number_real (x : Real) : number x.literal = some (real x) := by
  rw [number, if_neg x.real.2.1, dif_pos x.real]

theorem isNumberChar_intText (n : ℤ) : ∀ c ∈ intText n, isNumberChar c = true := by
  have hdigits : ∀ c ∈ Nat.toDigits 10 n.natAbs, isNumberChar c = true := by
    intro c hc
    simp [isNumberChar, isDigit_toDigits _ c hc]
  intro c hc
  rw [intText] at hc
  split at hc
  · rcases List.mem_cons.mp hc with rfl | hc
    · rfl
    · exact hdigits c hc
  · exact hdigits c hc

theorem hexValue_digitChar {d : ℕ} (h : d < 16) : hexValue d.digitChar = some d := by
  have hall : ∀ d : Fin 16, hexValue d.val.digitChar = some d.val := by decide
  exact hall ⟨d, h⟩

theorem hex4_hexDigits {n : ℕ} (h : n < 0x10000) (r : List Char) :
    hex4 (hexDigits n ++ r) = some (n, r) := by
  simp only [hexDigits, List.cons_append, List.nil_append, hex4,
    hexValue_digitChar (Nat.mod_lt _ (by decide : 16 > 0)), Option.bind_eq_bind,
    Option.bind_some, Option.pure_def]
  congr 2
  omega

theorem shortEscape_cases {c e : Char} (h : shortEscape c = some e) (r : List Char) :
    character ('\\' :: e :: r) = some (c, r) := by
  unfold shortEscape at h
  split_ifs at h <;> cases h <;> subst_vars <;> rfl

theorem shortEscape_none {c : Char} (h : shortEscape c = none) : c ≠ '"' ∧ c ≠ '\\' := by
  constructor <;> rintro rfl <;> cases h

theorem not_surrogate (c : Char) : ¬ (0xd800 ≤ c.toNat ∧ c.toNat < 0xe000) := by
  have h := c.valid
  simp only [Char.toNat, UInt32.isValidChar, Nat.isValidChar] at h ⊢
  omega

theorem character_unicodeEscape {n : ℕ} (h : n < 0x10000) (hs : ¬ (0xd800 ≤ n ∧ n < 0xe000))
    (r : List Char) : character (unicodeEscape n ++ r) = some (Char.ofNat n, r) := by
  have hhigh : ¬ (0xd800 ≤ n ∧ n < 0xdc00) := by omega
  have hlow : ¬ (0xdc00 ≤ n ∧ n < 0xe000) := by omega
  simp only [unicodeEscape, List.cons_append, character, unescape, if_true, hex4_hexDigits h,
    Option.bind_eq_bind, Option.bind_some, if_neg hhigh, if_neg hlow, Option.pure_def]

theorem character_surrogates {n m : ℕ} (hn : 0xd800 ≤ n ∧ n < 0xdc00)
    (hm : 0xdc00 ≤ m ∧ m < 0xe000) (r : List Char) :
    character (unicodeEscape n ++ (unicodeEscape m ++ r)) =
      some (Char.ofNat (0x10000 + (n - 0xd800) * 0x400 + (m - 0xdc00)), r) := by
  have hlow : lowSurrogate (unicodeEscape m ++ r) = some (m, r) := by
    simp only [unicodeEscape, List.cons_append, lowSurrogate,
      hex4_hexDigits (by omega : m < 0x10000)]
    simp [hm]
  have hfirst := hex4_hexDigits (by omega : n < 0x10000) (unicodeEscape m ++ r)
  rw [show unicodeEscape n ++ (unicodeEscape m ++ r) =
    '\\' :: 'u' :: (hexDigits n ++ (unicodeEscape m ++ r)) from rfl]
  simp only [character, unescape, if_true, hfirst, Option.bind_eq_bind, Option.bind_some,
    if_pos hn, hlow, Option.pure_def]

theorem character_escapeChar (c : Char) (r : List Char) :
    character (escapeChar c ++ r) = some (c, r) := by
  have hs := not_surrogate c
  cases hshort : shortEscape c with
  | some e =>
    simp only [escapeChar, hshort]
    exact shortEscape_cases hshort r
  | none =>
    obtain ⟨-, hbackslash⟩ := shortEscape_none hshort
    simp only [escapeChar, hshort]
    split_ifs with hascii hbmp
    · have hlow : ¬ c.toNat < 0x20 := by omega
      simp only [List.singleton_append, character, if_neg hbackslash, if_neg hlow]
    · rw [character_unicodeEscape hbmp hs, Char.ofNat_toNat]
    · have hmax : c.toNat < 0x110000 := by
        have h := c.valid
        simp only [Char.toNat, UInt32.isValidChar, Nat.isValidChar] at h ⊢
        omega
      rw [List.append_assoc, character_surrogates (by omega) (by omega)]
      have hback : 0x10000 + (0xd800 + (c.toNat - 0x10000) / 0x400 - 0xd800) * 0x400 +
          (0xdc00 + (c.toNat - 0x10000) % 0x400 - 0xdc00) = c.toNat := by omega
      rw [hback, Char.ofNat_toNat]

theorem head_escapeChar (c : Char) : ∃ d t, escapeChar c = d :: t ∧ d ≠ '"' := by
  cases hshort : shortEscape c with
  | some e => exact ⟨'\\', [e], by simp only [escapeChar, hshort], by decide⟩
  | none =>
    simp only [escapeChar, hshort]
    split_ifs with hascii hbmp
    · exact ⟨c, [], rfl, (shortEscape_none hshort).1⟩
    · exact ⟨'\\', _, rfl, by decide⟩
    · exact ⟨'\\', _, rfl, by decide⟩

theorem stringBody_escaped {cs : List Char} {n : ℕ} (r : List Char) (h : cs.length < n) :
    stringBody n (cs.flatMap escapeChar ++ '"' :: r) = some (cs, r) := by
  induction cs generalizing n with
  | nil =>
    obtain ⟨n, rfl⟩ := Nat.exists_eq_add_of_lt h
    simp [stringBody]
  | cons c cs ih =>
    obtain ⟨m, rfl⟩ : ∃ m, n = m + 1 := ⟨n - 1, by omega⟩
    obtain ⟨d, t, hd, hquote⟩ := head_escapeChar c
    have hrest := ih (n := m) (by simpa using h)
    have hcharacter := character_escapeChar c (cs.flatMap escapeChar ++ '"' :: r)
    rw [List.flatMap_cons, List.append_assoc]
    have hne : (escapeChar c ++ (cs.flatMap escapeChar ++ '"' :: r)).head? ≠ some '"' := by
      rw [hd]
      exact fun heq => hquote (Option.some.inj heq)
    rw [stringBody, if_neg hne, hcharacter]
    simp [hrest]

theorem length_quoted (s : String) : s.toList.length + 2 ≤ (quoted s).length := by
  have hflat : s.toList.length ≤ (s.toList.flatMap escapeChar).length := by
    generalize s.toList = l
    induction l with
    | nil => exact le_rfl
    | cons c l ih =>
      obtain ⟨d, t, hd, -⟩ := head_escapeChar c
      rw [List.flatMap_cons, List.length_append, hd]
      simp only [List.length_cons]
      omega
  simp only [quoted, List.length_cons, List.length_append, List.length_nil]
  omega

/-- No number goes on into what follows. -/
def Ends (r : List Char) : Prop := ∀ c ∈ r.head?, isNumberChar c = false

theorem skip_of_head {c : Char} {t : List Char} (h : isBlank c = false) :
    skip (c :: t) = c :: t := by
  simp [skip, h]

def Opens (c : Char) : Prop :=
  isBlank c = false ∧ c ≠ ']' ∧ c ≠ '}'

theorem opens_of_number {c : Char} (h : isNumberChar c = true) : Opens c := by
  refine ⟨?_, ?_, ?_⟩
  · rw [← Bool.not_eq_true]
    intro hblank
    simp only [isBlank, Bool.or_eq_true, beq_iff_eq] at hblank
    rcases hblank with ((rfl | rfl) | rfl) | rfl <;> cases h
  · rintro rfl
    cases h
  · rintro rfl
    cases h

theorem number_nil : number [] = none := by
  rw [number, if_neg (by decide), dif_neg (by decide)]

theorem literal_cons (x : Real) : ∃ c t, x.literal = c :: t ∧ isNumberChar c = true := by
  obtain ⟨l, hall, hwhole, hreal⟩ := x
  cases l with
  | nil => cases hreal
  | cons c t =>
    refine ⟨c, t, rfl, ?_⟩
    simp only [List.all_cons, Bool.and_eq_true] at hall
    exact hall.1

theorem intText_cons (n : ℤ) : ∃ c t, intText n = c :: t ∧ isNumberChar c = true := by
  have hall := isNumberChar_intText n
  cases h : intText n with
  | nil =>
    rw [intText] at h
    split at h
    · cases h
    · exact absurd h Nat.toDigits_ne_nil
  | cons c t => exact ⟨c, t, rfl, hall c (by rw [h]; exact List.mem_cons_self)⟩

theorem text_cons (j : Json) : ∃ c t, j.text = c :: t ∧ Opens c := by
  cases j with
  | null | str | arr | obj => exact ⟨_, _, rfl, by decide, by decide, by decide⟩
  | bool b => cases b <;> exact ⟨_, _, rfl, by decide, by decide, by decide⟩
  | nonFinite x => cases x <;> exact ⟨_, _, rfl, by decide, by decide, by decide⟩
  | int n =>
    obtain ⟨c, t, h, hc⟩ := intText_cons n
    exact ⟨c, t, h, opens_of_number hc⟩
  | real x =>
    obtain ⟨c, t, h, hc⟩ := literal_cons x
    exact ⟨c, t, h, opens_of_number hc⟩

theorem key_quoted (k : String) {n : ℕ} (h : k.toList.length < n) (r : List Char) :
    key n (quoted k ++ ':' :: r) = some (k, r) := by
  have hbody := @stringBody_escaped k.toList n (':' :: r) h
  simp only [quoted, List.cons_append, List.append_assoc, List.nil_append]
  rw [key, skip_of_head (by decide)]
  simp only [if_true, hbody, Option.bind_eq_bind, Option.bind_some,
    skip_of_head (c := ':') (by decide),
    String.ofList_toList]

variable {literals : Bool}

theorem value_scalar {c : Char} {t r : List Char} {n : ℕ} (hopen : Opens c)
    (hstring : c ≠ '"') (harray : c ≠ '[') (hobject : c ≠ '{') :
    value literals (n + 1) (c :: t ++ r) = scalar literals c (c :: t ++ r) := by
  rw [value, List.cons_append, skip_of_head hopen.1]
  simp only [if_neg hstring, if_neg harray, if_neg hobject]

theorem value_number {c : Char} {t r : List Char} {n : ℕ} {j : Json}
    (hall : ∀ x ∈ c :: t, isNumberChar x = true) (hnumber : number (c :: t) = some j)
    (hr : Ends r) : value literals (n + 1) (c :: t ++ r) = some (j, r) := by
  have hc := hall c List.mem_cons_self
  have hne : ∀ d, isNumberChar d = false → c ≠ d := by
    rintro d hd rfl
    rw [hc] at hd
    cases hd
  obtain ⟨htake, hdrop⟩ := takeWhile_all hall hr
  rw [value_scalar (opens_of_number hc) (hne _ (by decide)) (hne _ (by decide))
    (hne _ (by decide)), scalar, if_neg (hne _ (by decide)), if_neg (hne _ (by decide)),
    if_neg (hne _ (by decide)), htake, hdrop, hnumber]

theorem value_nonFinite (x : NonFinite) (n : ℕ) (r : List Char) :
    value literals (n + 1) (x.literal ++ r) = if literals then some (nonFinite x, r) else none := by
  cases x with
  | nan | infinity =>
    refine (value_scalar ⟨by decide, by decide, by decide⟩ (by decide) (by decide)
      (by decide)).trans ?_
    simp [scalar, isNumberChar, number_nil, nonFiniteAt, keyword, NonFinite.literal]
  | negativeInfinity =>
    refine (value_scalar ⟨by decide, by decide, by decide⟩ (by decide) (by decide)
      (by decide)).trans ?_
    have hminus : number ['-'] = none := by
      rw [number, if_neg (by decide), dif_neg (by decide)]
    simp [scalar, isNumberChar, hminus, nonFiniteAt, keyword, NonFinite.literal]

theorem rest_head (xs : List Json) (r : List Char) :
    ∃ c t, restText xs ++ r = c :: t ∧ isBlank c = false ∧ isNumberChar c = false := by
  cases xs with
  | nil => exact ⟨_, _, rfl, by decide, by decide⟩
  | cons x xs => exact ⟨_, _, rfl, by decide, by decide⟩

theorem restFields_head (xs : List (String × Json)) (r : List Char) :
    ∃ c t, restFieldsText xs ++ r = c :: t ∧ isBlank c = false ∧ isNumberChar c = false := by
  cases xs with
  | nil => exact ⟨_, _, rfl, by decide, by decide⟩
  | cons x xs => exact ⟨_, _, rfl, by decide, by decide⟩

theorem ends_of_head {r : List Char} {c : Char} {t : List Char} (h : r = c :: t)
    (hc : isNumberChar c = false) : Ends r := by
  subst h
  rintro d ⟨⟩
  exact hc

theorem ite_map {α β : Type} {c : Prop} {d e : Decidable c} {f : α → β} {a : α} :
    (@ite _ c d (some a) none).map f = @ite _ c e (some (f a)) none := by
  by_cases h : c <;> simp [h]

theorem ite_bind {α β : Type} {c : Prop} {d e : Decidable c} {f : α → β} {a : α} :
    ((@ite _ c d (some a) none).bind fun x => some (f x)) = @ite _ c e (some (f a)) none := by
  by_cases h : c <;> simp [h]

mutual

/-- Reading the text of a value gives the value, and fails where a number is not finite. -/
theorem value_text : ∀ (j : Json) (n : ℕ) (r : List Char), j.text.length ≤ n → Ends r →
    value literals n (j.text ++ r) = if literals || j.finite then some (j, r) else none
  | null, n, r, hn, _ => by
    obtain ⟨n, rfl⟩ : ∃ m, n = m + 1 := ⟨n - 1, by simp [text] at hn; omega⟩
    refine (value_scalar ⟨by decide, by decide, by decide⟩ (by decide) (by decide)
      (by decide)).trans ?_
    simp [scalar, keyword, finite]
  | bool b, n, r, hn, _ => by
    obtain ⟨n, rfl⟩ : ∃ m, n = m + 1 := ⟨n - 1, by cases b <;> simp [text] at hn <;> omega⟩
    cases b <;>
    · refine (value_scalar ⟨by decide, by decide, by decide⟩ (by decide) (by decide)
        (by decide)).trans ?_
      simp [scalar, keyword, finite]
  | int i, n, r, hn, hr => by
    obtain ⟨c, t, htext, -⟩ := intText_cons i
    obtain ⟨n, rfl⟩ : ∃ m, n = m + 1 := ⟨n - 1, by simp [text, htext] at hn; omega⟩
    have hall := isNumberChar_intText i
    have hnumber := number_intText i
    rw [htext] at hall hnumber
    simp only [text, htext, finite, Bool.or_true, if_true]
    exact value_number hall hnumber hr
  | real x, n, r, hn, hr => by
    obtain ⟨c, t, htext, -⟩ := literal_cons x
    obtain ⟨n, rfl⟩ : ∃ m, n = m + 1 := ⟨n - 1, by simp [text, htext] at hn; omega⟩
    have hall := x.real.1
    have hnumber := number_real x
    rw [htext] at hall hnumber
    simp only [text, htext, finite, Bool.or_true, if_true]
    exact value_number (List.all_eq_true.mp hall) hnumber hr
  | nonFinite x, n, r, hn, _ => by
    obtain ⟨n, rfl⟩ : ∃ m, n = m + 1 :=
      ⟨n - 1, by cases x <;> simp [text, NonFinite.literal] at hn <;> omega⟩
    rw [finite, Bool.or_false]
    exact value_nonFinite x n r
  | str s, n, r, hn, _ => by
    have hlength := length_quoted s
    simp only [text] at hn
    obtain ⟨n, rfl⟩ : ∃ m, n = m + 1 := ⟨n - 1, by omega⟩
    have hbody := @stringBody_escaped s.toList n r (by omega)
    simp only [text, quoted, List.cons_append, List.append_assoc, List.nil_append]
    rw [value, skip_of_head (by decide)]
    simp [hbody, finite, String.ofList_toList]
  | arr [], n, r, hn, _ => by
    obtain ⟨n, rfl⟩ : ∃ m, n = m + 1 := ⟨n - 1, by simp [text] at hn; omega⟩
    simp only [text, itemsText, List.cons_append, List.nil_append]
    rw [value, skip_of_head (by decide)]
    simp [skip_of_head (c := ']') (t := r) (by decide), finite, finiteItems]
  | arr (x :: xs), n, r, hn, _ => by
    obtain ⟨n, rfl⟩ : ∃ m, n = m + 1 := ⟨n - 1, by simp [text] at hn; omega⟩
    obtain ⟨c, t, hc, hopen⟩ := text_cons x
    have hitems := items_text (x :: xs) n r nofun (by simpa [text] using hn)
    have hhead : (skip (itemsText (x :: xs) ++ r)).head? ≠ some ']' := by
      rw [itemsText, hc, List.cons_append, List.cons_append, skip_of_head hopen.1]
      exact fun heq => hopen.2.1 (Option.some.inj heq)
    simp only [text, List.cons_append, finite]
    rw [value, skip_of_head (by decide)]
    simp only [Char.reduceEq, if_false, if_true, if_neg hhead, hitems]
    exact ite_map
  | obj [], n, r, hn, _ => by
    obtain ⟨n, rfl⟩ : ∃ m, n = m + 1 := ⟨n - 1, by simp [text] at hn; omega⟩
    simp only [text, fieldsText, List.cons_append, List.nil_append]
    rw [value, skip_of_head (by decide)]
    simp [skip_of_head (c := '}') (t := r) (by decide), finite, finiteFields]
  | obj ((k, x) :: xs), n, r, hn, _ => by
    obtain ⟨n, rfl⟩ : ∃ m, n = m + 1 := ⟨n - 1, by simp [text] at hn; omega⟩
    have hfields := fields_text ((k, x) :: xs) n r nofun (by simpa [text] using hn)
    have hhead : (skip (fieldsText ((k, x) :: xs) ++ r)).head? ≠ some '}' := by
      rw [fieldsText, quoted, List.cons_append, List.cons_append, List.cons_append,
        List.cons_append, skip_of_head (by decide)]
      exact nofun
    simp only [text, List.cons_append, finite]
    rw [value, skip_of_head (by decide)]
    simp only [Char.reduceEq, if_false, if_true, if_neg hhead, hfields]
    exact ite_map

theorem items_text : ∀ (l : List Json) (n : ℕ) (r : List Char), l ≠ [] →
    (itemsText l).length ≤ n →
      items literals n (itemsText l ++ r) = if literals || finiteItems l then some (l, r) else none
  | [], _, _, hne, _ => absurd rfl hne
  | x :: xs, n, r, _, hn => by
    obtain ⟨c, t, hc, -⟩ := text_cons x
    obtain ⟨d, u, hd, hblank, hnumber⟩ := rest_head xs r
    rw [itemsText, List.length_append] at hn
    obtain ⟨n, rfl⟩ : ∃ m, n = m + 1 := ⟨n - 1, by simp [hc] at hn; omega⟩
    have hlength : 1 ≤ (restText xs).length := by cases xs <;> simp [restText]
    have hvalue := value_text x n (restText xs ++ r) (by omega) (ends_of_head hd hnumber)
    rw [items, itemsText, List.append_assoc, hvalue]
    cases hx : literals || x.finite with
    | false => simp_all [finiteItems]
    | true =>
      simp only [if_true, Option.bind_eq_bind, Option.bind_some]
      cases xs with
      | nil => simp [restText, skip_of_head (c := ']') (t := r) (by decide), finiteItems, hx]
      | cons y ys =>
        have hcomma : restText (y :: ys) = ',' :: itemsText (y :: ys) := by
          rw [restText, itemsText, List.cons_append]
        rw [hcomma, List.length_cons] at hn
        have hrest := items_text (y :: ys) n r nofun (by omega)
        rw [hcomma, List.cons_append, skip_of_head (by decide)]
        simp only [Char.reduceEq, if_false, if_true, hrest]
        have hfinite : (literals || finiteItems (x :: y :: ys)) =
            (literals || finiteItems (y :: ys)) := by
          rw [finiteItems, Bool.or_and_distrib_left, hx, Bool.true_and]
        rw [hfinite]
        exact ite_bind

theorem fields_text : ∀ (l : List (String × Json)) (n : ℕ) (r : List Char), l ≠ [] →
    (fieldsText l).length ≤ n →
      fields literals n (fieldsText l ++ r) = if literals || finiteFields l then
        some (l, r) else none
  | [], _, _, hne, _ => absurd rfl hne
  | (k, x) :: xs, n, r, _, hn => by
    have hk := length_quoted k
    obtain ⟨d, u, hd, hblank, hnumber⟩ := restFields_head xs r
    simp only [fieldsText, List.length_append, List.length_cons] at hn
    obtain ⟨n, rfl⟩ : ∃ m, n = m + 1 := ⟨n - 1, by omega⟩
    have hkey := key_quoted k (n := n) (by omega) (x.text ++ (restFieldsText xs ++ r))
    have hvalue := value_text x n (restFieldsText xs ++ r) (by omega) (ends_of_head hd hnumber)
    rw [fields, fieldsText, List.append_assoc, List.append_assoc, List.cons_append, hkey]
    simp only [Option.bind_eq_bind, Option.bind_some]
    rw [hvalue]
    cases hx : literals || x.finite with
    | false => simp_all [finiteFields]
    | true =>
      simp only [if_true, Option.bind_some]
      cases xs with
      | nil => simp [restFieldsText, skip_of_head (c := '}') (t := r) (by decide), finiteFields, hx]
      | cons y ys =>
        have hcomma : restFieldsText (y :: ys) = ',' :: fieldsText (y :: ys) := by
          rw [restFieldsText, fieldsText]
          simp only [List.cons_append]
        rw [hcomma, List.length_cons] at hn
        have hrest := fields_text (y :: ys) n r nofun (by omega)
        rw [hcomma, List.cons_append, skip_of_head (by decide)]
        simp only [Char.reduceEq, if_false, if_true, hrest]
        have hfinite : (literals || finiteFields ((k, x) :: y :: ys)) =
            (literals || finiteFields (y :: ys)) := by
          rw [finiteFields, Bool.or_and_distrib_left, hx, Bool.true_and]
        rw [hfinite]
        exact ite_bind

end

theorem value_text_of_finite {j : Json} (hfinite : j.finite = true) (n : ℕ) (r : List Char)
    (hn : j.text.length ≤ n) (hr : Ends r) : value literals n (j.text ++ r) = some (j, r) := by
  rw [value_text j n r hn hr, hfinite, Bool.or_true, if_pos rfl]

theorem finiteItems_iff {l : List Json} : finiteItems l = true ↔ ∀ x ∈ l, x.finite = true := by
  induction l with
  | nil => simp [finiteItems]
  | cons x l ih => simp [finiteItems, ih]

theorem finiteFields_iff {l : List (String × Json)} :
    finiteFields l = true ↔ ∀ f ∈ l, f.2.finite = true := by
  induction l with
  | nil => simp [finiteFields]
  | cons f l ih => simp [finiteFields, ih]

theorem sortedFields_eq (l : List (String × Json)) :
    sortedFields l = l.map fun f => (f.1, f.2.sorted) := by
  induction l with
  | nil => rfl
  | cons f l ih => simp [sortedFields, ih]

theorem sortedItems_eq (l : List Json) : sortedItems l = l.map sorted := by
  induction l with
  | nil => rfl
  | cons x l ih => simp [sortedItems, ih]

mutual

theorem finite_sorted : ∀ j : Json, j.sorted.finite = j.finite
  | null => rfl
  | bool _ => rfl
  | int _ => rfl
  | real _ => rfl
  | nonFinite _ => rfl
  | str _ => rfl
  | arr items => finiteItems_sorted items
  | obj fields => by
    have hperm := List.perm_insertionSort (fun a b : String × Json => a.1 ≤ b.1)
      (sortedFields fields)
    have hsort : finiteFields ((sortedFields fields).insertionSort fun a b => a.1 ≤ b.1) =
        finiteFields (sortedFields fields) := by
      rw [Bool.eq_iff_iff, finiteFields_iff, finiteFields_iff]
      exact forall_congr' fun f => by rw [hperm.mem_iff]
    exact hsort.trans (finiteFields_sorted fields)

theorem finiteItems_sorted : ∀ l : List Json, finiteItems (sortedItems l) = finiteItems l
  | [] => rfl
  | x :: l => congrArg₂ _ (finite_sorted x) (finiteItems_sorted l)

theorem finiteFields_sorted : ∀ l : List (String × Json),
    finiteFields (sortedFields l) = finiteFields l
  | [] => rfl
  | (_, x) :: l => congrArg₂ _ (finite_sorted x) (finiteFields_sorted l)

end

/-- The text of a value is read back, unless a number in it is not finite. -/
theorem read_dumps (j : Json) :
    read literals (dumps j) = if literals || j.finite then some j.sorted else none := by
  have hvalue := @value_text literals j.sorted (dumps j).length.succ [] (by simp [dumps]) nofun
  rw [List.append_nil, finite_sorted] at hvalue
  have htext : (dumps j).toList = j.sorted.text := String.toList_ofList
  rw [read, htext, hvalue]
  split_ifs <;> rfl

theorem parse_dumps (j : Json) : parse (dumps j) = if j.finite then some j.sorted else none :=
  read_dumps j

theorem loads_dumps (j : Json) : loads (dumps j) = some j.sorted := read_dumps j

theorem get_eq_some {key : String} {fields : List (String × Json)} {x : Json}
    (distinct : (fields.map Prod.fst).Nodup) :
    get key (obj fields) = some x ↔ (key, x) ∈ fields := by
  constructor
  · intro h
    obtain ⟨f, hf, rfl⟩ := Option.map_eq_some_iff.mp h
    obtain ⟨hkey, -⟩ := List.find?_eq_some_iff_append.mp hf
    obtain rfl : f.1 = key := by simpa using hkey
    exact List.mem_reverse.mp (List.mem_of_find?_eq_some hf)
  · intro h
    have hmem : (key, x) ∈ fields.reverse := List.mem_reverse.mpr h
    obtain ⟨f, hf⟩ := Option.isSome_iff_exists.mp
      (List.find?_isSome.mpr ⟨(key, x), hmem, by simp⟩ :
        (fields.reverse.find? fun f => decide (f.1 = key)).isSome)
    have hkey : f.1 = key := by simpa using List.find?_some hf
    have hfield := List.mem_reverse.mp (List.mem_of_find?_eq_some hf)
    have heq : f = (key, x) := List.inj_on_of_nodup_map distinct hfield h hkey
    rw [get, hf, heq]
    rfl

/-- Sorting moves the fields of a dictionary and does not change them. -/
theorem get_sorted {key : String} {fields : List (String × Json)}
    (distinct : (fields.map Prod.fst).Nodup) :
    get key (obj fields).sorted = (get key (obj fields)).map sorted := by
  have hperm := List.perm_insertionSort (fun a b : String × Json => a.1 ≤ b.1)
    (sortedFields fields)
  have hnames : (sortedFields fields).map Prod.fst = fields.map Prod.fst := by
    simp [sortedFields_eq]
  have hdistinct : (((sortedFields fields).insertionSort fun a b => a.1 ≤ b.1).map
      Prod.fst).Nodup := by
    rw [(hperm.map _).nodup_iff, hnames]
    exact distinct
  apply Option.ext
  intro y
  rw [sorted, get_eq_some hdistinct, hperm.mem_iff, sortedFields_eq, List.mem_map,
    Option.map_eq_some_iff]
  constructor
  · rintro ⟨⟨k, x⟩, hmem, heq⟩
    cases heq
    exact ⟨x, (get_eq_some distinct).mpr hmem, rfl⟩
  · rintro ⟨x, hget, rfl⟩
    exact ⟨(key, x), (get_eq_some distinct).mp hget, rfl⟩

end Json
