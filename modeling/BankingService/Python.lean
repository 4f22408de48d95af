import Mathlib.Algebra.Group.Nat.Defs
import Mathlib.Data.List.Basic
import Mathlib.Data.List.TakeWhile
import Mathlib.Data.Fin.Basic
import Mathlib.Tactic.Common

/-! What the service uses of Python's standard library: exceptions, `str` methods and the text
form of a UUID. Case mapping is given for the characters that it takes to ASCII. -/
namespace Python

inductive PyException where
  | valueError (message : String)
  | httpException (statusCode : ℕ) (detail : String)
  | validationError
  | keyError
  | statementError
  | integrityError
  | operationalError
  | multipleResultsFound
  | objectDeletedError
  | attributeError
  deriving DecidableEq, Repr

/-- A clock reading, in microseconds. -/
abbrev Timestamp := ℕ

def upperChar (c : Char) : Char :=
  if c = 'ı' then 'I' else if c = 'ſ' then 'S' else c.toUpper

def upper (s : String) : String := String.ofList (s.toList.map upperChar)

/-- The Kelvin sign is the one other character whose lower case is ASCII. -/
def lowerChar (c : Char) : Char := if c = Char.ofNat 0x212a then 'k' else c.toLower

def lower (s : String) : String := String.ofList (s.toList.map lowerChar)

def utf8 (s : String) : List UInt8 := s.toUTF8.data.toList

theorem decode_utf8 (s : String) : String.fromUTF8? ⟨(utf8 s).toArray⟩ = some s := by
  have hbytes : (⟨(utf8 s).toArray⟩ : ByteArray) = s.toUTF8 := by simp [utf8]
  rw [hbytes]
  unfold String.fromUTF8?
  exact dif_pos s.isValidUTF8

def isSpace (c : Char) : Bool :=
  let n := c.toNat
  (9 ≤ n && n ≤ 13) || (28 ≤ n && n ≤ 32) || n == 0x85 || n == 0xa0 || n == 0x1680 ||
    (0x2000 ≤ n && n ≤ 0x200a) || n == 0x2028 || n == 0x2029 || n == 0x202f || n == 0x205f ||
    n == 0x3000

def stripChars (p : Char → Bool) (l : List Char) : List Char :=
  ((l.dropWhile p).reverse.dropWhile p).reverse

def strip (s : String) : String := String.ofList (stripChars isSpace s.toList)

theorem stripChars_eq_nil {p : Char → Bool} {l : List Char} :
    stripChars p l = [] ↔ ∀ c ∈ l, p c = true := by
  rw [stripChars, List.reverse_eq_nil_iff, List.dropWhile_eq_nil_iff]
  constructor
  · intro h
    rw [← List.dropWhile_eq_nil_iff]
    by_contra hne
    obtain ⟨c, t, hc⟩ := List.exists_cons_of_ne_nil hne
    have hfirst := List.head_dropWhile_not p hne
    have hmem : c ∈ (l.dropWhile p).reverse := by
      rw [hc]
      simp
    simp only [hc, List.head_cons] at hfirst
    rw [h c hmem] at hfirst
    cases hfirst
  · intro h c hc
    exact h c ((List.dropWhile_sublist p).subset (List.mem_reverse.mp hc))

/-- `repr` of a string: single quotes unless it holds one and no double quote. -/
def repr (s : String) : String :=
  let single := Char.ofNat 39
  let double := Char.ofNat 34
  let backslash := Char.ofNat 92
  let quote := if single ∈ s.toList ∧ double ∉ s.toList then double else single
  let escape (c : Char) : List Char :=
    if c = backslash ∨ c = quote then [backslash, c] else
    if c = Char.ofNat 10 then [backslash, 'n'] else
    if c = Char.ofNat 13 then [backslash, 'r'] else
    if c = Char.ofNat 9 then [backslash, 't'] else [c]
  String.ofList (quote :: s.toList.flatMap escape ++ [quote])

/-- `sep.join(parts)`. -/
def join (sep : String) (parts : List String) : String := sep.intercalate parts

structure Uuid where
  digits : List (Fin 16)
  size : digits.length = 32
  deriving DecidableEq

namespace Uuid

/-- `uuid.UUID(int=n)`. -/
def ofNat (n : ℕ) : Uuid :=
  ⟨(List.range 32).map fun i => Fin.ofNat 16 (n / 16 ^ (31 - i)), by simp⟩

def hexDigit (d : Fin 16) : Char :=
  Char.ofNat (if d.val < 10 then 48 + d.val else 87 + d.val)

def digitOf? (c : Char) : Option (Fin 16) :=
  let n := c.toNat
  if 48 ≤ n ∧ n ≤ 57 then some (Fin.ofNat 16 (n - 48))
  else if 97 ≤ n ∧ n ≤ 102 then some (Fin.ofNat 16 (n - 87))
  else if 65 ≤ n ∧ n ≤ 70 then some (Fin.ofNat 16 (n - 55))
  else none

/-- The 8-4-4-4-12 grouping of `str(uuid)`. -/
def grouped {α : Type} (sep : α) (l : List α) : List α :=
  l.take 8 ++ sep :: (l.drop 8).take 4 ++ sep :: (l.drop 12).take 4 ++ sep :: (l.drop 16).take 4 ++
    sep :: l.drop 20

def str (u : Uuid) : String := String.ofList (grouped '-' (u.digits.map hexDigit))

theorem hexDigit_injective : Function.Injective hexDigit := by
  intro a b h
  revert a b
  decide

theorem hexDigit_ne_hyphen (d : Fin 16) : hexDigit d ≠ '-' := by
  revert d
  decide

theorem filter_grouped {α : Type} [DecidableEq α] (sep : α) (l : List α) :
    (grouped sep l).filter (fun a => a ≠ sep) = l.filter (fun a => a ≠ sep) := by
  have h4 : ∀ n, l.drop n = (l.drop n).take 4 ++ l.drop (n + 4) := by
    intro n
    conv_lhs => rw [← List.take_append_drop 4 (l.drop n)]
    rw [List.drop_drop]
  have h : l = l.take 8 ++ ((l.drop 8).take 4 ++ ((l.drop 12).take 4 ++
      ((l.drop 16).take 4 ++ l.drop 20))) := by
    rw [← h4 16, ← h4 12, ← h4 8, List.take_append_drop]
  conv_rhs => rw [h]
  simp [grouped]

theorem str_injective : Function.Injective str := by
  intro u v h
  have hl : grouped '-' (u.digits.map hexDigit) = grouped '-' (v.digits.map hexDigit) :=
    String.ofList_injective h
  have hf : ∀ w : Uuid,
      (w.digits.map hexDigit).filter (fun a => a ≠ '-') = w.digits.map hexDigit := by
    intro w
    rw [List.filter_eq_self]
    simp [hexDigit_ne_hyphen]
  have hm : u.digits.map hexDigit = v.digits.map hexDigit := by
    rw [← hf u, ← hf v, ← filter_grouped, hl, filter_grouped]
  have hd := List.map_injective_iff.mpr hexDigit_injective hm
  cases u
  cases v
  simp_all

theorem length_str (u : Uuid) : u.str.toList.length = 36 := by simp [str, grouped, u.size]

/-- `s.replace(old, '')`. -/
def removeAll (old : List Char) : ℕ → List Char → List Char
  | 0, l => l
  | _, [] => []
  | n + 1, c :: l =>
    if old.isPrefixOf (c :: l) then removeAll old n ((c :: l).drop old.length)
    else c :: removeAll old n l

/-- Hexadecimal digits with single underscores between them. -/
def hexDigits? : List Char → Option (List (Fin 16))
  | [] => none
  | [c] => (digitOf? c).map fun d => [d]
  | c :: '_' :: l => do
    let d ← digitOf? c
    let ds ← hexDigits? l
    return d :: ds
  | c :: l => do
    let d ← digitOf? c
    let ds ← hexDigits? l
    return d :: ds

/-- The sign and the prefix that `int(s, 16)` lets through; a negative value is out of range. -/
def int16? (l : List Char) : Option (List (Fin 16)) :=
  let unprefixed (l : List Char) : List Char :=
    match l with
    | '0' :: 'x' :: '_' :: l => l
    | '0' :: 'X' :: '_' :: l => l
    | '0' :: 'x' :: l => l
    | '0' :: 'X' :: l => l
    | l => l
  match stripChars isSpace l with
  | '+' :: l => hexDigits? (unprefixed l)
  | '-' :: l => (hexDigits? (unprefixed l)).filter fun ds => ds.all fun d => d = 0
  | l => hexDigits? (unprefixed l)

/-- `uuid.UUID(text)`, `none` where it raises `ValueError`. -/
def parse? (text : String) : Option Uuid :=
  let l := text.toList
  let l := removeAll "urn:".toList l.length l
  let l := removeAll "uuid:".toList l.length l
  let l := (stripChars (fun c => c.toNat == 123 || c.toNat == 125) l).filter fun c => c != '-'
  if l.length = 32 then
    (int16? l).bind fun ds =>
      if h : ds.length ≤ 32 then
        some ⟨List.replicate (32 - ds.length) 0 ++ ds, by simp; omega⟩
      else none
  else none

theorem stripChars_eq_self {p : Char → Bool} {l : List Char} (h : ∀ c ∈ l, p c = false) :
    stripChars p l = l := by
  have hdrop : ∀ m : List Char, (∀ c ∈ m, p c = false) → m.dropWhile p = m := by
    intro m hm
    cases m with
    | nil => rfl
    | cons c m => exact List.dropWhile_cons_of_neg (by simp [hm c List.mem_cons_self])
  have hrev : ∀ c ∈ l.reverse, p c = false := fun c hc => h c (List.mem_reverse.mp hc)
  rw [stripChars, hdrop l h, hdrop _ hrev, List.reverse_reverse]

theorem removeAll_eq_self {c : Char} {old : List Char} {n : ℕ} {l : List Char} (h : c ∉ l) :
    removeAll (c :: old) n l = l := by
  induction l generalizing n with
  | nil => cases n <;> rfl
  | cons d l ih =>
    rw [List.mem_cons, not_or] at h
    cases n with
    | zero => rfl
    | succ n =>
      have hprefix : (c :: old).isPrefixOf (d :: l) = false := by
        rw [List.isPrefixOf, beq_false_of_ne h.1, Bool.false_and]
      rw [removeAll, hprefix, if_neg Bool.false_ne_true, ih h.2]

theorem digitOf?_hexDigit (d : Fin 16) : digitOf? (hexDigit d) = some d := by
  revert d
  decide

theorem hexDigits?_map (d : Fin 16) (ds : List (Fin 16)) :
    hexDigits? ((d :: ds).map hexDigit) = some (d :: ds) := by
  have hunderscore : ∀ d, hexDigit d ≠ '_' := by decide
  induction ds generalizing d with
  | nil => simp [hexDigits?, digitOf?_hexDigit]
  | cons e ds ih =>
    have hrest := ih e
    rw [List.map_cons] at hrest
    rw [List.map_cons, List.map_cons, hexDigits?, digitOf?_hexDigit, hrest]
    · rfl
    · rintro ⟨⟩
    · intro l hl
      exact hunderscore e (List.cons.inj hl).1

theorem int16?_map {ds : List (Fin 16)} (hne : ds ≠ []) : int16? (ds.map hexDigit) = some ds := by
  have hhead : ∀ (c : Char) (l : List Char), ds.map hexDigit = c :: l → ∃ d, c = hexDigit d := by
    intro c l h
    obtain ⟨d, -, hd⟩ := List.mem_map.mp (h ▸ List.mem_cons_self : c ∈ ds.map hexDigit)
    exact ⟨d, hd.symm⟩
  have hsecond : ∀ (b c : Char) (l : List Char), ds.map hexDigit = b :: c :: l →
      ∃ d, c = hexDigit d := by
    intro b c l h
    obtain ⟨d, -, hd⟩ := List.mem_map.mp
      (h ▸ List.mem_cons_of_mem _ List.mem_cons_self : c ∈ ds.map hexDigit)
    exact ⟨d, hd.symm⟩
  have hx : ∀ d, hexDigit d ≠ 'x' ∧ hexDigit d ≠ 'X' ∧ hexDigit d ≠ '+' ∧ hexDigit d ≠ '-' ∧
      isSpace (hexDigit d) = false := by decide
  have hstrip : stripChars isSpace (ds.map hexDigit) = ds.map hexDigit := by
    refine stripChars_eq_self fun c hc => ?_
    obtain ⟨d, -, rfl⟩ := List.mem_map.mp hc
    exact (hx d).2.2.2.2
  unfold int16?
  rw [hstrip]
  dsimp only
  split
  · next l hl =>
    obtain ⟨d, hd⟩ := hhead _ _ hl
    exact absurd hd.symm (hx d).2.2.1
  · next l hl =>
    obtain ⟨d, hd⟩ := hhead _ _ hl
    exact absurd hd.symm (hx d).2.2.2.1
  · split
    · next l hl =>
      obtain ⟨d, hd⟩ := hsecond _ _ _ hl
      exact absurd hd.symm (hx d).1
    · next l hl =>
      obtain ⟨d, hd⟩ := hsecond _ _ _ hl
      exact absurd hd.symm (hx d).2.1
    · next l hl =>
      obtain ⟨d, hd⟩ := hsecond _ _ _ hl
      exact absurd hd.symm (hx d).1
    · next l hl =>
      obtain ⟨d, hd⟩ := hsecond _ _ _ hl
      exact absurd hd.symm (hx d).2.1
    · obtain ⟨d, ds', rfl⟩ := List.exists_cons_of_ne_nil hne
      exact hexDigits?_map d ds'

theorem parse?_str (u : Uuid) : parse? u.str = some u := by
  have hdigit : ∀ d, hexDigit d ≠ 'u' ∧
      ((hexDigit d).toNat == 123 || (hexDigit d).toNat == 125) = false := by decide
  have hchar : ∀ c ∈ grouped '-' (u.digits.map hexDigit), c = '-' ∨ ∃ d, c = hexDigit d := by
    intro c hc
    by_cases hhyphen : c = '-'
    · exact Or.inl hhyphen
    · have hmem : c ∈ (grouped '-' (u.digits.map hexDigit)).filter fun a => a ≠ '-' :=
        List.mem_filter.mpr ⟨hc, by simpa using hhyphen⟩
      rw [filter_grouped] at hmem
      obtain ⟨d, -, hd⟩ := List.mem_map.mp (List.mem_filter.mp hmem).1
      exact Or.inr ⟨d, hd.symm⟩
  have hu : 'u' ∉ grouped '-' (u.digits.map hexDigit) := by
    intro hmem
    rcases hchar _ hmem with h | ⟨d, hd⟩
    · exact absurd h (by decide)
    · exact (hdigit d).1 hd.symm
  have hfilter : (u.digits.map hexDigit).filter (fun c => c != '-') = u.digits.map hexDigit := by
    rw [List.filter_eq_self]
    simp [hexDigit_ne_hyphen]
  have hstrip : stripChars (fun c => c.toNat == 123 || c.toNat == 125)
      (grouped '-' (u.digits.map hexDigit)) = grouped '-' (u.digits.map hexDigit) := by
    refine stripChars_eq_self fun c hc => ?_
    rcases hchar c hc with rfl | ⟨d, rfl⟩
    · decide
    · exact (hdigit d).2
  have hplain : (grouped '-' (u.digits.map hexDigit)).filter (fun c => c != '-') =
      u.digits.map hexDigit := by
    have hne : (fun c : Char => c != '-') = fun c => decide (c ≠ '-') := by
      funext c
      rw [bne, decide_not, beq_eq_decide]
    rw [hne, filter_grouped, ← hne, hfilter]
  have hne : u.digits ≠ [] := by
    intro h
    have hsize := u.size
    rw [h] at hsize
    cases hsize
  have hurn : "urn:".toList = 'u' :: "rn:".toList := by decide
  have huuid : "uuid:".toList = 'u' :: "uid:".toList := by decide
  unfold parse? str
  simp only [String.toList_ofList, hurn, huuid, removeAll_eq_self hu, hstrip, hplain,
    List.length_map, u.size, int16?_map hne, Option.bind_some]
  cases u
  simp_all

end Uuid

end Python
