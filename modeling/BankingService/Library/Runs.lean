import Mathlib.Data.List.Induction
import Mathlib.Tactic.Common

/-! Machines with deterministic labelled steps and their finite runs. A run is the list of its
events; what holds of it is stated at every state it visits or at every step it takes, with
the induction over runs done here once. -/
namespace Runs

structure Machine (σ ε : Type*) where
  Enabled : σ → ε → Prop
  next : σ → ε → σ

variable {σ ε : Type*}

def Machine.final (M : Machine σ ε) : σ → List ε → σ
  | s, [] => s
  | s, e :: es => M.final (M.next s e) es

/-- `C` holds of every step, at the state the step is taken in. -/
def Machine.Each (M : Machine σ ε) (C : σ → ε → Prop) : σ → List ε → Prop
  | _, [] => True
  | s, e :: es => C s e ∧ M.Each C (M.next s e) es

instance (M : Machine σ ε) {C : σ → ε → Prop} [∀ s e, Decidable (C s e)] :
    ∀ s es, Decidable (M.Each C s es)
  | _, [] => isTrue trivial
  | s, e :: es =>
    have := instDecidableEach M (C := C) (M.next s e) es
    inferInstanceAs (Decidable (C s e ∧ M.Each C (M.next s e) es))

/-- `P` holds of every state of the run, the first and the last included. -/
def Machine.Throughout (M : Machine σ ε) (P : σ → Prop) : σ → List ε → Prop
  | s, [] => P s
  | s, e :: es => P s ∧ M.Throughout P (M.next s e) es

def Machine.Run (M : Machine σ ε) (s : σ) (es : List ε) : Prop := M.Each M.Enabled s es

instance (M : Machine σ ε) [∀ s e, Decidable (M.Enabled s e)] (s : σ) (es : List ε) :
    Decidable (M.Run s es) := inferInstanceAs (Decidable (M.Each M.Enabled s es))

/-- A machine beside a record of what its steps emit. -/
def Machine.recording {α : Type*} (M : Machine σ ε) (emit : σ → σ → List α) :
    Machine (σ × List α) ε where
  Enabled s e := M.Enabled s.1 e
  next s e := (M.next s.1 e, s.2 ++ emit s.1 (M.next s.1 e))

variable {M : Machine σ ε}

@[simp] theorem final_nil (s : σ) : M.final s [] = s := rfl

@[simp] theorem final_cons (s : σ) (e : ε) (es : List ε) :
    M.final s (e :: es) = M.final (M.next s e) es := rfl

@[simp] theorem each_nil (C : σ → ε → Prop) (s : σ) : M.Each C s [] := trivial

@[simp] theorem each_cons {C : σ → ε → Prop} {s : σ} {e : ε} {es : List ε} :
    M.Each C s (e :: es) ↔ C s e ∧ M.Each C (M.next s e) es := Iff.rfl

@[simp] theorem throughout_cons {P : σ → Prop} {s : σ} {e : ε} {es : List ε} :
    M.Throughout P s (e :: es) ↔ P s ∧ M.Throughout P (M.next s e) es := Iff.rfl

theorem Machine.final_append (s : σ) (es fs : List ε) :
    M.final s (es ++ fs) = M.final (M.final s es) fs := by
  induction es generalizing s with
  | nil => rfl
  | cons e es ih => exact ih _

theorem Machine.each_append {C : σ → ε → Prop} {s : σ} {es fs : List ε} :
    M.Each C s (es ++ fs) ↔ M.Each C s es ∧ M.Each C (M.final s es) fs := by
  induction es generalizing s with
  | nil => simp
  | cons e es ih => simp [ih, and_assoc]

theorem Machine.Each.mono {C D : σ → ε → Prop} {s : σ} {es : List ε}
    (h : M.Each C s es) (hcd : ∀ s e, C s e → D s e) : M.Each D s es := by
  induction es generalizing s with
  | nil => trivial
  | cons e es ih => exact ⟨hcd s e h.1, ih h.2⟩

theorem Machine.Each.and {C D : σ → ε → Prop} {s : σ} {es : List ε}
    (h : M.Each C s es) (k : M.Each D s es) : M.Each (fun s e => C s e ∧ D s e) s es := by
  induction es generalizing s with
  | nil => trivial
  | cons e es ih => exact ⟨⟨h.1, k.1⟩, ih h.2 k.2⟩

theorem each_of_forall {C : ε → Prop} {es : List ε} (h : ∀ e ∈ es, C e) (s : σ) :
    M.Each (fun _ e => C e) s es := by
  induction es generalizing s with
  | nil => trivial
  | cons e es ih => exact ⟨h e List.mem_cons_self, ih (fun e he => h e (.tail _ he)) _⟩

/-- Keeping a record changes nothing about the runs. -/
theorem recording_run {α : Type*} {emit : σ → σ → List α} {s : σ} {l : List α} {es : List ε} :
    (M.recording emit).Run (s, l) es ↔ M.Run s es := by
  induction es generalizing s l with
  | nil => exact Iff.rfl
  | cons e es ih => exact and_congr_right fun _ => ih

theorem Machine.Throughout.first {P : σ → Prop} {s : σ} {es : List ε}
    (h : M.Throughout P s es) : P s := by
  cases es with
  | nil => exact h
  | cons e es => exact h.1

theorem Machine.Throughout.last {P : σ → Prop} {s : σ} {es : List ε}
    (h : M.Throughout P s es) : P (M.final s es) := by
  induction es generalizing s with
  | nil => exact h
  | cons e es ih => exact ih h.2

theorem Machine.Throughout.mono {P Q : σ → Prop} {s : σ} {es : List ε}
    (h : M.Throughout P s es) (hpq : ∀ s, P s → Q s) : M.Throughout Q s es := by
  induction es generalizing s with
  | nil => exact hpq s h
  | cons e es ih => exact ⟨hpq s h.1, ih h.2⟩

theorem Machine.Throughout.and {P Q : σ → Prop} {s : σ} {es : List ε}
    (h : M.Throughout P s es) (k : M.Throughout Q s es) :
    M.Throughout (fun s => P s ∧ Q s) s es := by
  induction es generalizing s with
  | nil => exact ⟨h, k⟩
  | cons e es ih => exact ⟨⟨h.1, k.1⟩, ih h.2 k.2⟩

/-- The invariant rule: what every step keeps under `C` holds throughout a run whose steps
all meet `C`. -/
theorem throughout_of_each {P : σ → Prop} {C : σ → ε → Prop}
    (step : ∀ s e, P s → C s e → P (M.next s e)) {s : σ} {es : List ε}
    (start : P s) (h : M.Each C s es) : M.Throughout P s es := by
  induction es generalizing s with
  | nil => exact start
  | cons e es ih => exact ⟨start, ih (step s e start h.1) h.2⟩

theorem throughout_of_keep {P : σ → Prop} (keep : ∀ s e, P s → P (M.next s e)) {s : σ}
    {es : List ε} (start : P s) : M.Throughout P s es := by
  induction es generalizing s with
  | nil => exact start
  | cons e es ih => exact ⟨start, ih (keep s e start)⟩

theorem final_of_each {P : σ → Prop} {C : σ → ε → Prop}
    (step : ∀ s e, P s → C s e → P (M.next s e)) {s : σ} {es : List ε}
    (start : P s) (h : M.Each C s es) : P (M.final s es) :=
  (throughout_of_each step start h).last

/-- The rule for what a state says about the events before it. -/
theorem history_of_each {I : List ε → σ → Prop} {C : σ → ε → Prop} {s : σ} {es : List ε}
    (start : I [] s) (step : ∀ es s e, I es s → C s e → I (es ++ [e]) (M.next s e))
    (h : M.Each C s es) : I es (M.final s es) := by
  induction es using List.reverseRecOn with
  | nil => exact start
  | append_singleton es e ih =>
    obtain ⟨hes, he⟩ := Machine.each_append.mp h
    rw [Machine.final_append]
    exact step es _ e (ih hes) he.1

/-- The rule for a property of steps: under an invariant `I` that every step keeps while it
meets `C`, steps that meet `C` are good. -/
theorem each_of_each {I : σ → Prop} {C G : σ → ε → Prop}
    (keep : ∀ s e, I s → C s e → I (M.next s e))
    (good : ∀ s e, I s → C s e → G s e) {s : σ} {es : List ε}
    (start : I s) (h : M.Each C s es) : M.Each G s es := by
  induction es generalizing s with
  | nil => trivial
  | cons e es ih => exact ⟨good s e start h.1, ih (keep s e start h.1) h.2⟩

/-- The exact rule: where a step from a good state leads to a good state exactly when it meets
`C`, a run from a good state stays good exactly when all its steps meet `C`. -/
theorem throughout_iff_each {J P : σ → Prop} {C : σ → ε → Prop}
    (aux : ∀ s e, J s → P s → M.Enabled s e → P (M.next s e) → J (M.next s e))
    (exact_step : ∀ s e, J s → P s → M.Enabled s e → (P (M.next s e) ↔ C s e))
    {s : σ} {es : List ε} (hrun : M.Run s es) (hj : J s) (hp : P s) :
    M.Throughout P s es ↔ M.Each C s es := by
  induction es generalizing s with
  | nil => exact ⟨fun _ => trivial, fun _ => hp⟩
  | cons e es ih =>
    have hstep := exact_step s e hj hp hrun.1
    constructor
    · intro h
      have hnext : P (M.next s e) := h.2.first
      exact ⟨hstep.mp hnext, (ih hrun.2 (aux s e hj hp hrun.1 hnext) hnext).mp h.2⟩
    · intro h
      have hnext : P (M.next s e) := hstep.mpr h.1
      exact ⟨hp, (ih hrun.2 (aux s e hj hp hrun.1 hnext) hnext).mpr h.2⟩

end Runs
