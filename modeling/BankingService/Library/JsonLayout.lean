import BankingService.Library.Json

/-! The text of a JSON value with a line for every item and field, or with blanks between them, and
the characters that texts are made of. -/
namespace Json

def newline (depth : ℕ) : List Char := '\n' :: List.replicate (2 * depth) ' '

mutual

def indented (depth : ℕ) : Json → List Char
  | arr (x :: xs) => '[' :: indentedItems depth (x :: xs)
  | obj (f :: fs) => '{' :: indentedFields depth (f :: fs)
  | j => j.text

def indentedItems (depth : ℕ) : List Json → List Char
  | [] => newline depth ++ [']']
  | [x] => newline (depth + 1) ++ (x.indented (depth + 1) ++ (newline depth ++ [']']))
  | x :: y :: ys =>
    newline (depth + 1) ++ (x.indented (depth + 1) ++ ',' :: indentedItems depth (y :: ys))

def indentedFields (depth : ℕ) : List (String × Json) → List Char
  | [] => newline depth ++ ['}']
  | [(k, x)] => newline (depth + 1) ++
      (quoted k ++ ':' :: ' ' :: (x.indented (depth + 1) ++ (newline depth ++ ['}'])))
  | (k, x) :: f :: fs => newline (depth + 1) ++
      (quoted k ++ ':' :: ' ' :: (x.indented (depth + 1) ++ ',' :: indentedFields depth (f :: fs)))

end

/-- `json.dumps(value, indent=2, sort_keys=True)`. -/
def dumpsIndented (j : Json) : String := String.ofList (j.sorted.indented 0)

mutual

def spaced : Json → List Char
  | arr items => '[' :: spacedItems items
  | obj fields => '{' :: spacedFields fields
  | j => j.text

def spacedItems : List Json → List Char
  | [] => [']']
  | [x] => x.spaced ++ [']']
  | x :: y :: ys => x.spaced ++ ',' :: ' ' :: spacedItems (y :: ys)

def spacedFields : List (String × Json) → List Char
  | [] => ['}']
  | [(k, x)] => quoted k ++ ':' :: ' ' :: (x.spaced ++ ['}'])
  | (k, x) :: f :: fs =>
    quoted k ++ ':' :: ' ' :: (x.spaced ++ ',' :: ' ' :: spacedFields (f :: fs))

end

/-- `json.dumps(value)`. -/
def dumpsSpaced (j : Json) : String := String.ofList j.spaced

theorem skip_newline (depth : ℕ) (l : List Char) : skip (newline depth ++ l) = skip l := by
  have hspaces : ∀ n, skip (List.replicate n ' ' ++ l) = skip l := by
    intro n
    induction n with
    | zero => rfl
    | succ n ih =>
      rw [List.replicate_succ, List.cons_append, ← ih]
      rfl
  rw [newline, List.cons_append, ← hspaces (2 * depth)]
  rfl

theorem skip_blank (l : List Char) : skip (' ' :: l) = skip l := rfl

variable {literals : Bool}

theorem value_congr {n : ℕ} {l l' : List Char} (h : skip l = skip l') :
    value literals n l = value literals n l' := by
  cases n with
  | zero => rfl
  | succ n => rw [value, value, h]

theorem key_congr {n : ℕ} {l l' : List Char} (h : skip l = skip l') : key n l = key n l' := by
  rw [key, key, h]

theorem ends_newline (depth : ℕ) (l : List Char) : Ends (newline depth ++ l) := by
  rintro c ⟨⟩
  rfl

theorem ends_cons {c : Char} {l : List Char} (h : isNumberChar c = false) : Ends (c :: l) := by
  rintro d ⟨⟩
  exact h

theorem indented_cons (depth : ℕ) (j : Json) : ∃ c t, j.indented depth = c :: t ∧ Opens c := by
  have htext := text_cons j
  cases j with
  | arr items =>
    cases items with
    | nil => simpa [indented] using htext
    | cons x xs => exact ⟨_, _, by rw [indented], by decide, by decide, by decide⟩
  | obj fields =>
    cases fields with
    | nil => simpa [indented] using htext
    | cons f fs => exact ⟨_, _, by rw [indented], by decide, by decide, by decide⟩
  | null | bool | int | real | nonFinite | str => simpa only [indented] using htext

mutual

theorem value_indented : ∀ (j : Json) (depth n : ℕ) (r : List Char), (j.indented depth).length ≤ n →
    Ends r → j.finite = true → value literals n (j.indented depth ++ r) = some (j, r)
  | arr (x :: xs), depth, n, r, hn, _, hfinite => by
    rw [indented, List.length_cons] at hn
    obtain ⟨n, rfl⟩ : ∃ m, n = m + 1 := ⟨n - 1, by omega⟩
    have hitems := items_indented (x :: xs) depth n r nofun (by omega) hfinite
    have hhead : (skip (indentedItems depth (x :: xs) ++ r)).head? ≠ some ']' := by
      obtain ⟨c, t, hc, hopen⟩ := indented_cons (depth + 1) x
      cases xs with
      | nil =>
        rw [indentedItems, List.append_assoc, skip_newline, hc, List.cons_append, List.cons_append,
          skip_of_head hopen.1]
        exact fun heq => hopen.2.1 (Option.some.inj heq)
      | cons y ys =>
        rw [indentedItems, List.append_assoc, skip_newline, hc, List.cons_append, List.cons_append,
          skip_of_head hopen.1]
        exact fun heq => hopen.2.1 (Option.some.inj heq)
    rw [indented, List.cons_append, value, skip_of_head (by decide)]
    simp only [Char.reduceEq, if_false, if_true, if_neg hhead, hitems]
    rfl
  | obj ((k, x) :: xs), depth, n, r, hn, _, hfinite => by
    rw [indented, List.length_cons] at hn
    obtain ⟨n, rfl⟩ : ∃ m, n = m + 1 := ⟨n - 1, by omega⟩
    have hfields := fields_indented ((k, x) :: xs) depth n r nofun (by omega) hfinite
    have hhead : (skip (indentedFields depth ((k, x) :: xs) ++ r)).head? ≠ some '}' := by
      cases xs with
      | nil =>
        rw [indentedFields, List.append_assoc, skip_newline, quoted]
        exact nofun
      | cons y ys =>
        rw [indentedFields, List.append_assoc, skip_newline, quoted]
        exact nofun
    rw [indented, List.cons_append, value, skip_of_head (by decide)]
    simp only [Char.reduceEq, if_false, if_true, if_neg hhead, hfields]
    rfl
  | arr [], _, n, r, hn, hr, hfinite => by
    rw [indented] at hn ⊢
    · exact value_text_of_finite hfinite n r hn hr
    all_goals exact nofun
  | obj [], _, n, r, hn, hr, hfinite => by
    rw [indented] at hn ⊢
    · exact value_text_of_finite hfinite n r hn hr
    all_goals exact nofun
  | null, _, n, r, hn, hr, hfinite => value_text_of_finite (j := null) hfinite n r hn hr
  | bool b, _, n, r, hn, hr, hfinite => value_text_of_finite (j := bool b) hfinite n r hn hr
  | int i, _, n, r, hn, hr, hfinite => value_text_of_finite (j := int i) hfinite n r hn hr
  | real x, _, n, r, hn, hr, hfinite => value_text_of_finite (j := real x) hfinite n r hn hr
  | nonFinite x, _, n, r, hn, hr, hfinite =>
    value_text_of_finite (j := nonFinite x) hfinite n r hn hr
  | str s, _, n, r, hn, hr, hfinite => value_text_of_finite (j := str s) hfinite n r hn hr

theorem items_indented : ∀ (l : List Json) (depth n : ℕ) (r : List Char), l ≠ [] →
    (indentedItems depth l).length ≤ n → finiteItems l = true →
      items literals n (indentedItems depth l ++ r) = some (l, r)
  | [], _, _, _, hne, _, _ => absurd rfl hne
  | [x], depth, n, r, _, hn, hfinite => by
    rw [finiteItems, finiteItems, Bool.and_true] at hfinite
    rw [indentedItems] at hn ⊢
    simp only [List.length_append, newline, List.length_cons] at hn
    obtain ⟨n, rfl⟩ : ∃ m, n = m + 1 := ⟨n - 1, by omega⟩
    have hvalue := value_indented x (depth + 1) n (newline depth ++ ']' :: r) (by omega)
      (ends_newline depth _) hfinite
    rw [items, List.append_assoc, value_congr (skip_newline _ _)]
    simp only [List.append_assoc, List.cons_append, List.nil_append, hvalue, Option.bind_eq_bind,
      Option.bind_some, skip_newline, skip_of_head (c := ']') (t := r) (by decide), if_true]
  | x :: y :: ys, depth, n, r, _, hn, hfinite => by
    rw [finiteItems, Bool.and_eq_true] at hfinite
    rw [indentedItems] at hn ⊢
    simp only [List.length_append, newline, List.length_cons] at hn
    obtain ⟨n, rfl⟩ : ∃ m, n = m + 1 := ⟨n - 1, by omega⟩
    have hvalue :=
      value_indented x (depth + 1) n (',' :: (indentedItems depth (y :: ys) ++ r)) (by omega)
      (ends_cons (by decide)) hfinite.1
    have hrest := items_indented (y :: ys) depth n r nofun (by omega) hfinite.2
    rw [items, List.append_assoc, value_congr (skip_newline _ _)]
    simp only [List.append_assoc, List.cons_append, hvalue, Option.bind_eq_bind, Option.bind_some,
      skip_of_head (c := ',') (t := indentedItems depth (y :: ys) ++ r) (by decide), Char.reduceEq,
      if_false, if_true, hrest]
    rfl

theorem fields_indented : ∀ (l : List (String × Json)) (depth n : ℕ) (r : List Char), l ≠ [] →
    (indentedFields depth l).length ≤ n → finiteFields l = true →
      fields literals n (indentedFields depth l ++ r) = some (l, r)
  | [], _, _, _, hne, _, _ => absurd rfl hne
  | [(k, x)], depth, n, r, _, hn, hfinite => by
    rw [finiteFields, finiteFields, Bool.and_true] at hfinite
    have hk := length_quoted k
    rw [indentedFields] at hn ⊢
    simp only [List.length_append, newline, List.length_cons] at hn
    obtain ⟨n, rfl⟩ : ∃ m, n = m + 1 := ⟨n - 1, by omega⟩
    have hkey := key_quoted k (n := n) (by omega)
      (' ' :: (x.indented (depth + 1) ++ (newline depth ++ '}' :: r)))
    have hvalue := value_indented x (depth + 1) n (newline depth ++ '}' :: r) (by omega)
      (ends_newline depth _) hfinite
    rw [fields, List.append_assoc, key_congr (skip_newline _ _)]
    simp only [List.append_assoc, List.cons_append, List.nil_append, hkey, Option.bind_eq_bind,
      Option.bind_some]
    rw [value_congr (skip_blank _), hvalue]
    simp only [Option.bind_some, skip_newline,
      skip_of_head (c := '}') (t := r) (by decide), if_true]
  | (k, x) :: f :: fs, depth, n, r, _, hn, hfinite => by
    rw [finiteFields, Bool.and_eq_true] at hfinite
    have hk := length_quoted k
    rw [indentedFields] at hn ⊢
    simp only [List.length_append, newline, List.length_cons] at hn
    obtain ⟨n, rfl⟩ : ∃ m, n = m + 1 := ⟨n - 1, by omega⟩
    have hkey := key_quoted k (n := n) (by omega)
      (' ' :: (x.indented (depth + 1) ++ ',' :: (indentedFields depth (f :: fs) ++ r)))
    have hvalue :=
      value_indented x (depth + 1) n (',' :: (indentedFields depth (f :: fs) ++ r)) (by omega)
      (ends_cons (by decide)) hfinite.1
    have hrest := fields_indented (f :: fs) depth n r nofun (by omega) hfinite.2
    rw [fields, List.append_assoc, key_congr (skip_newline _ _)]
    simp only [List.append_assoc, List.cons_append, hkey, Option.bind_eq_bind, Option.bind_some]
    rw [value_congr (skip_blank _), hvalue]
    simp only [Option.bind_some, Char.reduceEq, if_false, if_true, hrest,
      skip_of_head (c := ',') (t := indentedFields depth (f :: fs) ++ r) (by decide)]
    rfl

end

theorem read_dumpsIndented {j : Json} {blanks : List Char} (hfinite : j.finite = true)
    (hblanks : skip blanks = []) (hends : Ends blanks) :
    read literals (j.dumpsIndented ++ String.ofList blanks) = some j.sorted := by
  have htext :
    (j.dumpsIndented ++ String.ofList blanks).toList = j.sorted.indented 0 ++ blanks := by
    rw [dumpsIndented, String.toList_append, String.toList_ofList, String.toList_ofList]
  have hlength : (j.dumpsIndented ++ String.ofList blanks).length =
      (j.sorted.indented 0 ++ blanks).length := by
    rw [← String.length_toList, htext]
  have hvalue :=
    @value_indented literals j.sorted 0 ((j.sorted.indented 0 ++ blanks).length + 1) blanks
    (by rw [List.length_append]; omega) hends ((finite_sorted j).trans hfinite)
  rw [read, htext, hlength, hvalue]
  simp [hblanks]

def Printable (c : Char) : Prop := 32 ≤ c.toNat ∧ c.toNat < 127

instance (c : Char) : Decidable (Printable c) := inferInstanceAs (Decidable (_ ∧ _))

theorem printable_of_all {l : List Char} (h : (l.all fun c => decide (Printable c)) = true) :
    ∀ c ∈ l, Printable c :=
  fun c hc => of_decide_eq_true (List.all_eq_true.mp h c hc)

theorem printable_escapeChar (c : Char) : ∀ d ∈ escapeChar c, Printable d := by
  have hdigit : ∀ k < 16, Printable k.digitChar := by decide
  have hhex : ∀ n, ∀ d ∈ hexDigits n, Printable d := by
    intro n d hd
    simp only [hexDigits, List.mem_cons, List.not_mem_nil, or_false] at hd
    rcases hd with rfl | rfl | rfl | rfl <;> exact hdigit _ (Nat.mod_lt _ (by decide))
  have hunicode : ∀ n, ∀ d ∈ unicodeEscape n, Printable d := by
    intro n d hd
    rw [unicodeEscape, List.mem_cons, List.mem_cons] at hd
    rcases hd with rfl | rfl | hd
    · decide
    · decide
    · exact hhex n d hd
  intro d hd
  unfold escapeChar at hd
  split at hd
  · next e he =>
    rw [List.mem_cons, List.mem_singleton] at hd
    rcases hd with rfl | rfl
    · decide
    · unfold shortEscape at he
      split_ifs at he <;> cases he <;> decide
  · split_ifs at hd with hplain hbasic
    · obtain rfl := List.mem_singleton.mp hd
      exact hplain
    · exact hunicode _ d hd
    · rcases List.mem_append.mp hd with h | h
      · exact hunicode _ d h
      · exact hunicode _ d h

theorem printable_quoted (s : String) : ∀ d ∈ quoted s, Printable d := by
  intro d hd
  rw [quoted, List.mem_append, List.mem_cons, List.mem_singleton] at hd
  rcases hd with (rfl | hd) | rfl
  · decide
  · obtain ⟨c, -, hc⟩ := List.mem_flatMap.mp hd
    exact printable_escapeChar c d hc
  · decide

theorem printable_of_number {c : Char} (h : isNumberChar c = true) : Printable c := by
  simp only [isNumberChar, Bool.or_eq_true, beq_iff_eq] at h
  rcases h with ((((h | rfl) | rfl) | rfl) | rfl) | rfl
  · have hrange : 48 ≤ c.toNat ∧ c.toNat ≤ 57 := by
      simpa [Char.isDigit, UInt32.le_iff_toNat_le] using h
    unfold Printable
    omega
  all_goals decide

mutual

theorem printable_text : ∀ j : Json, ∀ c ∈ j.text, Printable c
  | null => printable_of_all (by decide)
  | bool b => printable_of_all (by cases b <;> decide)
  | int n => fun c hc => printable_of_number (isNumberChar_intText n c hc)
  | real x => fun c hc => printable_of_number (List.all_eq_true.mp x.real.1 c hc)
  | nonFinite x => printable_of_all (by cases x <;> decide)
  | str s => printable_quoted s
  | arr items => by
    intro c hc
    rcases List.mem_cons.mp hc with rfl | hc
    · decide
    · exact printable_items items c hc
  | obj fields => by
    intro c hc
    rcases List.mem_cons.mp hc with rfl | hc
    · decide
    · exact printable_fields fields c hc

theorem printable_items : ∀ l : List Json, ∀ c ∈ itemsText l, Printable c
  | [] => printable_of_all (by decide)
  | x :: xs => by
    intro c hc
    rcases List.mem_append.mp hc with hc | hc
    · exact printable_text x c hc
    · exact printable_rest xs c hc

theorem printable_rest : ∀ l : List Json, ∀ c ∈ restText l, Printable c
  | [] => printable_of_all (by decide)
  | x :: xs => by
    intro c hc
    rw [restText, List.mem_append, List.mem_cons] at hc
    rcases hc with (rfl | hc) | hc
    · decide
    · exact printable_text x c hc
    · exact printable_rest xs c hc

theorem printable_fields : ∀ l : List (String × Json), ∀ c ∈ fieldsText l, Printable c
  | [] => printable_of_all (by decide)
  | (k, x) :: xs => by
    intro c hc
    rw [fieldsText, List.mem_append, List.mem_append, List.mem_cons] at hc
    rcases hc with (hc | rfl | hc) | hc
    · exact printable_quoted k c hc
    · decide
    · exact printable_text x c hc
    · exact printable_restFields xs c hc

theorem printable_restFields : ∀ l : List (String × Json), ∀ c ∈ restFieldsText l, Printable c
  | [] => printable_of_all (by decide)
  | (k, x) :: xs => by
    intro c hc
    rw [restFieldsText, List.mem_append, List.mem_append, List.mem_cons, List.mem_cons] at hc
    rcases hc with ((rfl | hc) | rfl | hc) | hc
    · decide
    · exact printable_quoted k c hc
    · decide
    · exact printable_text x c hc
    · exact printable_restFields xs c hc

end

def InLayout (c : Char) : Prop := Printable c ∨ c = '\n'

instance (c : Char) : Decidable (InLayout c) := inferInstanceAs (Decidable (_ ∨ _))

theorem inLayout_newline (depth : ℕ) : ∀ c ∈ newline depth, InLayout c := by
  intro c hc
  rcases List.mem_cons.mp hc with rfl | hc
  · exact Or.inr rfl
  · obtain rfl := (List.mem_replicate.mp hc).2
    exact Or.inl (by decide)

theorem inLayout_append {l l' : List Char} (h : ∀ c ∈ l, InLayout c) (h' : ∀ c ∈ l', InLayout c) :
    ∀ c ∈ l ++ l', InLayout c := fun c hc => (List.mem_append.mp hc).elim (h c) (h' c)

theorem inLayout_cons {d : Char} {l : List Char} (hd : Printable d) (h : ∀ c ∈ l, InLayout c) :
    ∀ c ∈ d :: l, InLayout c := by
  intro c hc
  rcases List.mem_cons.mp hc with rfl | hc
  · exact Or.inl hd
  · exact h c hc

theorem inLayout_end {depth : ℕ} {d : Char} (hd : Printable d) :
    ∀ c ∈ newline depth ++ [d], InLayout c :=
  inLayout_append (inLayout_newline depth) (inLayout_cons hd nofun)

mutual

theorem inLayout_indented : ∀ (j : Json) (depth : ℕ), ∀ c ∈ j.indented depth, InLayout c
  | arr (x :: xs), depth => by
    rw [indented]
    exact inLayout_cons (by decide) (inLayout_items (x :: xs) depth)
  | obj (f :: fs), depth => by
    rw [indented]
    exact inLayout_cons (by decide) (inLayout_fields (f :: fs) depth)
  | arr [], _ => fun c hc => Or.inl (printable_text (arr []) c (by simpa [indented] using hc))
  | obj [], _ => fun c hc => Or.inl (printable_text (obj []) c (by simpa [indented] using hc))
  | null, _ => fun c hc => Or.inl (printable_text null c hc)
  | bool b, _ => fun c hc => Or.inl (printable_text (bool b) c hc)
  | int n, _ => fun c hc => Or.inl (printable_text (int n) c hc)
  | real x, _ => fun c hc => Or.inl (printable_text (real x) c hc)
  | nonFinite x, _ => fun c hc => Or.inl (printable_text (nonFinite x) c hc)
  | str s, _ => fun c hc => Or.inl (printable_text (str s) c hc)

theorem inLayout_items : ∀ (l : List Json) (depth : ℕ), ∀ c ∈ indentedItems depth l, InLayout c
  | [], _ => inLayout_end (by decide)
  | [x], depth => inLayout_append (inLayout_newline _)
      (inLayout_append (inLayout_indented x (depth + 1)) (inLayout_end (by decide)))
  | x :: y :: ys, depth => inLayout_append (inLayout_newline _)
      (inLayout_append (inLayout_indented x (depth + 1))
        (inLayout_cons (by decide) (inLayout_items (y :: ys) depth)))

theorem inLayout_fields :
    ∀ (l : List (String × Json)) (depth : ℕ), ∀ c ∈ indentedFields depth l, InLayout c
  | [], _ => inLayout_end (by decide)
  | [(k, x)], depth => inLayout_append (inLayout_newline _)
      (inLayout_append (fun c hc => Or.inl (printable_quoted k c hc))
        (inLayout_cons (by decide) (inLayout_cons (by decide)
          (inLayout_append (inLayout_indented x (depth + 1)) (inLayout_end (by decide))))))
  | (k, x) :: f :: fs, depth => inLayout_append (inLayout_newline _)
      (inLayout_append (fun c hc => Or.inl (printable_quoted k c hc))
        (inLayout_cons (by decide) (inLayout_cons (by decide)
          (inLayout_append (inLayout_indented x (depth + 1))
            (inLayout_cons (by decide) (inLayout_fields (f :: fs) depth))))))

end

end Json
