import BankingService.Library.Checked

/-! Two implementations of one call. The reference returns the state that it wants stored, or raises
and stores nothing; the mirror writes as it goes and keeps what it wrote before it raised. They
agree if the mirror ends in the image of the reference's state, and raises only before it writes. -/
namespace Mirror

open Checked

variable {ε σ τ α α' β β' : Type}

/-- Raise `e` unless `c` holds. -/
def raiseUnless (c : Prop) [Decidable c] (e : ε) : EStateM ε τ Unit :=
  if c then pure () else throw e

def found (o : Option α) (e : ε) : EStateM ε τ α :=
  match o with
  | some a => pure a
  | none => throw e

/-- The mirror answers as the reference does and writes nothing. -/
def Reads (answer : α → α') (t : τ) (m : EStateM ε τ α') (x : Except ε α) : Prop :=
  m t = match x with
    | .ok a => .ok (answer a) t
    | .error e => .error e t

/-- The mirror does from the image of `s` what the reference does from `s`. -/
def Mirrors (image : σ → τ) (answer : α → β) (s : σ) (m : EStateM ε τ β)
    (x : Except ε (σ × α)) : Prop :=
  m (image s) = match x with
    | .ok (s', a) => .ok (answer a) (image s')
    | .error e => .error e (image s)

def Succeed (image : σ → τ) (answer : α → β) (s : σ) (m : EStateM ε τ β)
    (x : Except ε (σ × α)) : Prop :=
  ∃ s' a, x = .ok (s', a) ∧ m (image s) = .ok (answer a) (image s')

section
variable {t : τ} {m : EStateM ε τ α'} {x : Except ε α} {answer : α → α'} {answer' : β → β'}

theorem reads_pure (a : α) : Reads answer t (pure (answer a) : EStateM ε τ α') (.ok a) := rfl

theorem reads_raiseUnless {c c' : Prop} [Decidable c] [Decidable c'] {e : ε} (h : c ↔ c') :
    Reads id t (raiseUnless c e) (require c' e) := by
  unfold Reads raiseUnless require
  by_cases hc : c
  · rw [if_pos hc, if_pos (h.mp hc)]
    rfl
  · rw [if_neg hc, if_neg (mt h.mpr hc)]
    rfl

theorem reads_found {o : Option α} {o' : Option α'} {e : ε} (h : o' = o.map answer) :
    Reads answer t (found o' e) (orRaise o e) := by
  subst h
  cases o <;> rfl

theorem reads_checked {c : Prop} [Decidable c] {o : Option α} {e : ε} (h : c ↔ ∃ a, o = some a) :
    Reads (fun _ => ()) t (raiseUnless c e) (orRaise o e) := by
  unfold Reads raiseUnless
  cases o with
  | none =>
    rw [if_neg fun hc => nomatch h.mp hc]
    rfl
  | some a =>
    rw [if_pos (h.mpr ⟨a, rfl⟩)]
    rfl

theorem reads_get {k : τ → EStateM ε τ α'} (h : Reads answer t (k t) x) :
    Reads answer t (get >>= k) x := h

theorem reads_bind {k : α' → EStateM ε τ β'} {y : α → Except ε β} (hm : Reads answer t m x)
    (hk : ∀ a, x = .ok a → Reads answer' t (k (answer a)) (y a)) :
    Reads answer' t (m >>= k) (x >>= y) := by
  unfold Reads at hm ⊢
  change EStateM.bind m k t = _
  cases x with
  | error e =>
    simp only [EStateM.bind, hm]
    rfl
  | ok a =>
    simp only [EStateM.bind, hm]
    exact hk a rfl

theorem reads_skip {a : α} {k : α' → EStateM ε τ β'} {y : Except ε β}
    (hm : Reads answer t m (.ok a)) (hk : Reads answer' t (k (answer a)) y) :
    Reads answer' t (m >>= k) y :=
  reads_bind (x := .ok a) (y := fun _ => y) hm fun _ h => Except.ok.inj h ▸ hk

theorem reads_mapM {γ γ' : Type} {k : γ' → EStateM ε τ α'} {y : γ → Except ε α} {g : γ → γ'}
    {l : List γ} (h : ∀ a ∈ l, Reads answer t (k (g a)) (y a)) :
    Reads (List.map answer) t ((l.map g).mapM k) (l.mapM y) := by
  induction l with
  | nil => rfl
  | cons a l ih =>
    rw [List.map_cons, List.mapM_cons, List.mapM_cons]
    refine reads_bind (h a List.mem_cons_self) fun b _ => ?_
    refine reads_bind (ih fun x hx => h x (List.mem_cons_of_mem _ hx)) fun bs _ => ?_
    exact reads_pure (b :: bs)

theorem reads_filterAuxM {p : α → EStateM ε τ Bool} {q : α → Bool} {l : List α} (acc : List α)
    (h : ∀ a ∈ l, Reads id t (p a) (.ok (q a))) :
    Reads id t (l.filterAuxM p acc) (.ok ((l.filter q).reverse ++ acc)) := by
  induction l generalizing acc with
  | nil => rfl
  | cons a l ih =>
    have hrest := ih (cond (q a) (a :: acc) acc) fun x hx => h x (List.mem_cons_of_mem _ hx)
    have hlist : ((l.filter q).reverse ++ cond (q a) (a :: acc) acc) =
        ((a :: l).filter q).reverse ++ acc := by
      cases hq : q a <;> simp [hq]
    rw [hlist] at hrest
    exact reads_bind (x := .ok (q a)) (y := fun _ => .ok _) (h a List.mem_cons_self) fun b hb =>
      Except.ok.inj hb ▸ hrest

theorem reads_filterM {p : α → EStateM ε τ Bool} {q : α → Bool} {l : List α}
    (h : ∀ a ∈ l, Reads id t (p a) (.ok (q a))) :
    Reads id t (l.filterM p) (.ok (l.filter q)) := by
  have haux := reads_filterAuxM [] h
  rw [List.append_nil] at haux
  have hlist : Reads id t (l.filterAuxM p [] >>= fun r => pure r.reverse)
      ((.ok (l.filter q).reverse : Except ε (List α)) >>= fun r => .ok r.reverse) :=
    reads_bind haux fun r _ => reads_pure r.reverse
  rw [ok_bind, List.reverse_reverse] at hlist
  exact hlist

end

section
variable {image : σ → τ} {s : σ} {m : EStateM ε τ α'} {answer : α → α'} {answer' : β → β'}

theorem mirrors_get {k : τ → EStateM ε τ β'} {y : Except ε (σ × β)}
    (h : Mirrors image answer' s (k (image s)) y) : Mirrors image answer' s (get >>= k) y := h

theorem mirrors_read {x : Except ε α} {k : α' → EStateM ε τ β'} {y : α → Except ε (σ × β)}
    (hm : Reads answer (image s) m x)
    (hk : ∀ a, x = .ok a → Mirrors image answer' s (k (answer a)) (y a)) :
    Mirrors image answer' s (m >>= k) (x >>= y) := by
  unfold Reads at hm
  unfold Mirrors
  change EStateM.bind m k (image s) = _
  cases x with
  | error e =>
    simp only [EStateM.bind, hm]
    rfl
  | ok a =>
    simp only [EStateM.bind, hm]
    exact hk a rfl

/-- After the first write nothing may raise any more. -/
theorem mirrors_write {w : Except ε (σ × α)} {k : α' → EStateM ε τ β'}
    {y : σ × α → Except ε (σ × β)} (hm : Mirrors image answer s m w)
    (hk : ∀ s' a, w = .ok (s', a) → Succeed image answer' s' (k (answer a)) (y (s', a))) :
    Mirrors image answer' s (m >>= k) (w >>= y) := by
  unfold Mirrors at hm ⊢
  change EStateM.bind m k (image s) = _
  cases w with
  | error e =>
    simp only [EStateM.bind, hm]
    rfl
  | ok r =>
    obtain ⟨s', a⟩ := r
    obtain ⟨s'', b, hy, hrun⟩ := hk s' a rfl
    simp only [EStateM.bind, hm, hrun]
    rw [ok_bind, hy]

section
variable {γ γ' : Type} {reply : α → γ} {reply' : α' → γ'} {rename : γ → γ'}

theorem mirrors_map {x : Except ε (σ × α)} (hm : Mirrors image answer s m x)
    (hreply : ∀ a, reply' (answer a) = rename (reply a)) :
    Mirrors image rename s (reply' <$> m) (x.map fun r => (r.1, reply r.2)) := by
  unfold Mirrors at hm ⊢
  change EStateM.map reply' m (image s) = _
  cases x with
  | error e =>
    simp only [EStateM.map, hm]
    rfl
  | ok r =>
    simp only [EStateM.map, hm, hreply]
    rfl

theorem mirrors_of_reads {x : Except ε α} (hm : Reads answer (image s) m x)
    (hreply : ∀ a, reply' (answer a) = rename (reply a)) :
    Mirrors image rename s (reply' <$> m) (x.map fun a => (s, reply a)) := by
  unfold Reads at hm
  unfold Mirrors
  change EStateM.map reply' m (image s) = _
  cases x with
  | error e =>
    simp only [EStateM.map, hm]
    rfl
  | ok a =>
    simp only [EStateM.map, hm, hreply]
    rfl

end

theorem mirrors_modify {s' : σ} {a : α} {g : τ → τ} {answer : α → PUnit}
    (hg : g (image s) = image s') :
    Mirrors image answer s (modify g : EStateM ε τ PUnit) (.ok (s', a)) := by
  change EStateM.Result.ok PUnit.unit (g (image s)) = _
  rw [hg]

theorem mirrors_of_succeed {w : Except ε (σ × α)} (h : Succeed image answer s m w) :
    Mirrors image answer s m w := by
  obtain ⟨s', a, rfl, hrun⟩ := h
  exact hrun

theorem succeed_get {k : τ → EStateM ε τ β'} {y : Except ε (σ × β)}
    (h : Succeed image answer' s (k (image s)) y) : Succeed image answer' s (get >>= k) y := h

theorem succeed_read {x : Except ε α} {a : α} {k : α' → EStateM ε τ β'}
    {y : α → Except ε (σ × β)} (hm : Reads answer (image s) m x) (hx : x = .ok a)
    (hk : Succeed image answer' s (k (answer a)) (y a)) :
    Succeed image answer' s (m >>= k) (x >>= y) := by
  obtain ⟨s', b, hy, hrun⟩ := hk
  subst hx
  refine ⟨s', b, hy, ?_⟩
  change EStateM.bind m k (image s) = _
  simp only [Reads] at hm
  simp only [EStateM.bind, hm]
  exact hrun

theorem succeed_write {w : Except ε (σ × α)} {k : α' → EStateM ε τ β'}
    {y : σ × α → Except ε (σ × β)} (hm : Succeed image answer s m w)
    (hk : ∀ s' a, w = .ok (s', a) → Succeed image answer' s' (k (answer a)) (y (s', a))) :
    Succeed image answer' s (m >>= k) (w >>= y) := by
  obtain ⟨s', a, rfl, hrun⟩ := hm
  obtain ⟨s'', b, hy, hrun'⟩ := hk s' a rfl
  refine ⟨s'', b, hy, ?_⟩
  change EStateM.bind m k (image s) = _
  simp only [EStateM.bind, hrun]
  exact hrun'

theorem mirrors_skip {a : α} {k : α' → EStateM ε τ β'} {x : Except ε (σ × β)}
    (hm : Reads answer (image s) m (.ok a)) (h : Mirrors image answer' s (k (answer a)) x) :
    Mirrors image answer' s (m >>= k) x :=
  mirrors_read (x := .ok a) (y := fun _ => x) hm fun _ heq => Except.ok.inj heq ▸ h

theorem succeed_skip {a : α} {k : α' → EStateM ε τ β'} {x : Except ε (σ × β)}
    (hm : Reads answer (image s) m (.ok a)) (h : Succeed image answer' s (k (answer a)) x) :
    Succeed image answer' s (m >>= k) x :=
  succeed_read (x := .ok a) (y := fun _ => x) hm rfl h

theorem succeed_then {s' : σ} {a : α} {k : α' → EStateM ε τ β'} {x : Except ε (σ × β)}
    (hm : Succeed image answer s m (.ok (s', a)))
    (h : Succeed image answer' s' (k (answer a)) x) : Succeed image answer' s (m >>= k) x := by
  refine succeed_write (w := .ok (s', a)) (y := fun _ => x) hm fun _ _ heq => ?_
  cases heq
  exact h

theorem succeed_set {s' : σ} {t : τ} {k : PUnit → EStateM ε τ β'} {x : Except ε (σ × β)}
    (ht : t = image s') (h : Succeed image answer' s' (k ⟨⟩) x) :
    Succeed image answer' s (set t >>= k) x := by
  subst ht
  exact h

theorem succeed_modify {s' : σ} {g : τ → τ} {k : PUnit → EStateM ε τ β'} {x : Except ε (σ × β)}
    (hg : g (image s) = image s') (h : Succeed image answer' s' (k ⟨⟩) x) :
    Succeed image answer' s (modify g >>= k) x := by
  obtain ⟨s'', b, hx, hrun⟩ := h
  refine ⟨s'', b, hx, ?_⟩
  change k ⟨⟩ (g (image s)) = _
  rw [hg]
  exact hrun

theorem succeed_pure {a : α} {b : α'} (h : b = answer a) :
    Succeed image answer s (pure b : EStateM ε τ α') (.ok (s, a)) :=
  ⟨s, a, rfl, by rw [h]; rfl⟩

end

end Mirror
