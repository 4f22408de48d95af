import BankingService.Library.Runs
import Mathlib.Logic.Function.Basic

/-! Concurrent transactions over one database at READ COMMITTED. A request is a program of
single statements: plain reads, reads that lock a row, and a last part that writes and commits.
Each statement sees what is committed when it runs; what a transaction read earlier is kept in
its session and may be out of date. Row locks are held until the transaction ends. -/
namespace ReadCommitted

open Runs

/-- The next statement of a session: a plain read, a read that locks `row`, or the writes up to
the commit or the rollback, which wait for the rows they update. -/
inductive Action (κ : Type*) where
  | read
  | lock (row : κ)
  | run (updates : List κ)

def Action.rows {κ : Type*} : Action κ → List κ
  | read => []
  | lock row => [row]
  | run updates => updates

/-- How a run of writes ends. `finish` answers the request, with the database unchanged if the
transaction was rolled back; `resume` ends the transaction and goes on with the request. -/
inductive Outcome (σ τ α : Type*) where
  | finish (db : σ) (answer : α)
  | resume (db : σ) (seen : τ)

def Outcome.db {σ τ α : Type*} : Outcome σ τ α → σ
  | .finish db _ => db
  | .resume db _ => db

variable {ι σ ρ κ α : Type*} {τ : ρ → Type*}

structure Program (σ ρ : Type*) (τ : ρ → Type*) (κ α : Type*) where
  enter : (r : ρ) → τ r
  action : (r : ρ) → τ r → Action κ
  observe : σ → (r : ρ) → τ r → τ r
  body : σ → (r : ρ) → τ r → Outcome σ (τ r) α

structure Session (τ : ρ → Type*) where
  request : ρ
  seen : τ request

/-- The committed database, the open sessions, the row locks and the answers given so far. -/
structure World (ι σ : Type*) (τ : ρ → Type*) (κ α : Type*) where
  db : σ
  session : ι → Option (Session τ)
  holder : κ → Option ι
  answers : List (ρ × α)

inductive Event (ι ρ : Type*) where
  | start (i : ι) (r : ρ)
  | step (i : ι)
  | fail (i : ι)

def World.quiet (db : σ) : World ι σ τ κ α := ⟨db, fun _ => none, fun _ => none, []⟩

variable (P : Program σ ρ τ κ α) (admits : ρ → Prop)

def World.put [DecidableEq ι] (w : World ι σ τ κ α) (i : ι) (s : Option (Session τ)) :
    World ι σ τ κ α :=
  { w with session := Function.update w.session i s }

/-- A session steps unless it waits for a row that another session has locked. -/
def Enabled (w : World ι σ τ κ α) : Event ι ρ → Prop
  | .start i r => w.session i = none ∧ admits r
  | .step i => ∃ s, w.session i = some s ∧
      ∀ k ∈ (P.action s.request s.seen).rows, w.holder k = none ∨ w.holder k = some i
  | .fail i => ∃ s, w.session i = some s

instance [DecidableEq ι] [DecidablePred admits] (w : World ι σ τ κ α) (e : Event ι ρ)
    [DecidableEq κ] : Decidable (Enabled P admits w e) :=
  match e with
  | .start i r => decidable_of_iff ((w.session i).isNone = true ∧ admits r)
      (and_congr_left fun _ => Option.isNone_iff_eq_none)
  | .step i =>
    match h : w.session i with
    | none => isFalse fun ⟨s, hs, _⟩ => by simp [h] at hs
    | some s => decidable_of_iff (∀ k ∈ (P.action s.request s.seen).rows,
        w.holder k = none ∨ w.holder k = some i)
        ⟨fun hk => ⟨s, h, hk⟩, fun ⟨s', hs, hk⟩ => by rw [h] at hs; cases hs; exact hk⟩
  | .fail i => decidable_of_iff ((w.session i).isSome = true) Option.isSome_iff_exists

variable [DecidableEq ι]

def release (i : ι) (holder : κ → Option ι) : κ → Option ι :=
  fun k => if holder k = some i then none else holder k

variable [DecidableEq κ]

/-- A failure at any point rolls the transaction back and drops its locks. -/
def next (w : World ι σ τ κ α) : Event ι ρ → World ι σ τ κ α
  | .start i r => w.put i (some ⟨r, P.enter r⟩)
  | .fail i => { w.put i none with holder := release i w.holder }
  | .step i =>
    match w.session i with
    | none => w
    | some s =>
      let seen := P.observe w.db s.request s.seen
      match P.action s.request s.seen with
      | .read => w.put i (some ⟨s.request, seen⟩)
      | .lock k =>
        { w.put i (some ⟨s.request, seen⟩) with holder := Function.update w.holder k (some i) }
      | .run _ =>
        match P.body w.db s.request s.seen with
        | .finish db a =>
          { w.put i none with
            db := db, holder := release i w.holder, answers := w.answers ++ [(s.request, a)] }
        | .resume db t =>
          { w.put i (some ⟨s.request, t⟩) with db := db, holder := release i w.holder }

def machine : Machine (World ι σ τ κ α) (Event ι ρ) := ⟨Enabled P admits, next P⟩

instance [DecidablePred admits] (w : World ι σ τ κ α) (e : Event ι ρ) :
    Decidable ((machine P admits).Enabled w e) := inferInstanceAs (Decidable (Enabled P admits w e))

def AtRun (w : World ι σ τ κ α) (i : ι) (s : Session τ) : Prop :=
  w.session i = some s ∧ ∃ rows, P.action s.request s.seen = .run rows

def RunsUnder (C : σ → Session τ → Prop) (w : World ι σ τ κ α) (e : Event ι ρ) : Prop :=
  ∀ i s, e = .step i → AtRun P w i s → C w.db s

instance {C : σ → Session τ → Prop} [∀ db s, Decidable (C db s)] (w : World ι σ τ κ α)
    (e : Event ι ρ) : Decidable (RunsUnder P C w e) :=
  match e with
  | .start _ _ => isTrue fun _ _ h => nomatch h
  | .fail _ => isTrue fun _ _ h => nomatch h
  | .step i =>
    match hs : w.session i with
    | none => isTrue fun j s h hr => by cases h; rw [hr.1] at hs; cases hs
    | some s =>
      match ha : P.action s.request s.seen with
      | .run rows => decidable_of_iff (C w.db s) ⟨fun hc j s' h hr => by
          cases h
          rw [hr.1] at hs
          cases hs
          exact hc, fun h => h i s rfl ⟨hs, rows, ha⟩⟩
      | .read => isTrue fun j s' h ⟨hr, rows, ha'⟩ => by
          cases h
          rw [hr] at hs
          cases hs
          rw [ha'] at ha
          cases ha
      | .lock k => isTrue fun j s' h ⟨hr, rows, ha'⟩ => by
          cases h
          rw [hr] at hs
          cases hs
          rw [ha'] at ha
          cases ha

variable {P admits}

omit [DecidableEq κ] in
theorem release_eq_some {i j : ι} {holder : κ → Option ι} {k : κ} :
    release i holder k = some j ↔ holder k = some j ∧ j ≠ i := by
  unfold release
  split
  · next h =>
    simp only [h, Option.some.injEq, reduceCtorEq, false_iff, not_and, not_not]
    exact fun h => h.symm
  · next h =>
    constructor
    · intro hk
      exact ⟨hk, fun hj => h (hj ▸ hk)⟩
    · exact fun hk => hk.1

/-- Everything a step can do to the world. -/
theorem step_cases {w : World ι σ τ κ α} {e : Event ι ρ} (he : Enabled P admits w e) :
    (∃ i r, e = .start i r ∧ w.session i = none ∧ admits r ∧
      next P w e = w.put i (some ⟨r, P.enter r⟩)) ∨
    (∃ i s, e = .fail i ∧ w.session i = some s ∧
      next P w e = { w.put i none with holder := release i w.holder }) ∨
    (∃ i s, e = .step i ∧ w.session i = some s ∧ P.action s.request s.seen = .read ∧
      next P w e = w.put i (some ⟨s.request, P.observe w.db s.request s.seen⟩)) ∨
    (∃ i s k, e = .step i ∧ w.session i = some s ∧ P.action s.request s.seen = .lock k ∧
      (w.holder k = none ∨ w.holder k = some i) ∧
      next P w e = { w.put i (some ⟨s.request, P.observe w.db s.request s.seen⟩) with
        holder := Function.update w.holder k (some i) }) ∨
    (∃ i s db a, e = .step i ∧ AtRun P w i s ∧ P.body w.db s.request s.seen = .finish db a ∧
      next P w e = { w.put i none with
        db := db, holder := release i w.holder, answers := w.answers ++ [(s.request, a)] }) ∨
    (∃ i s db t, e = .step i ∧ AtRun P w i s ∧ P.body w.db s.request s.seen = .resume db t ∧
      next P w e = { w.put i (some ⟨s.request, t⟩) with
        db := db, holder := release i w.holder }) := by
  cases e with
  | start i r => exact Or.inl ⟨i, r, rfl, he.1, he.2, rfl⟩
  | fail i =>
    obtain ⟨s, hs⟩ := he
    exact Or.inr (Or.inl ⟨i, s, rfl, hs, rfl⟩)
  | step i =>
    obtain ⟨s, hs, hfree⟩ := he
    refine Or.inr (Or.inr ?_)
    cases ha : P.action s.request s.seen with
    | read => exact Or.inl ⟨i, s, rfl, hs, ha, by simp [next, hs, ha]⟩
    | lock k =>
      rw [ha] at hfree
      exact Or.inr (Or.inl ⟨i, s, k, rfl, hs, ha, hfree k (List.mem_singleton.mpr rfl),
        by simp [next, hs, ha]⟩)
    | run rows =>
      refine Or.inr (Or.inr ?_)
      have hrun : AtRun P w i s := ⟨hs, rows, ha⟩
      cases hb : P.body w.db s.request s.seen with
      | finish db a => exact Or.inl ⟨i, s, db, a, rfl, hrun, hb, by simp [next, hs, ha, hb]⟩
      | resume db t => exact Or.inr ⟨i, s, db, t, rfl, hrun, hb, by simp [next, hs, ha, hb]⟩

/-- The database changes only where a session runs its writes. -/
theorem db_changes {w : World ι σ τ κ α} {e : Event ι ρ} (he : Enabled P admits w e) :
    (next P w e).db = w.db ∨
    ∃ i s, e = .step i ∧ AtRun P w i s ∧
      (next P w e).db = (P.body w.db s.request s.seen).db := by
  obtain ⟨i, r, -, -, -, h⟩ | ⟨i, s, -, -, h⟩ | ⟨i, s, -, -, -, h⟩ | ⟨i, s, k, -, -, -, -, h⟩ |
    ⟨i, s, db, a, rfl, hs, hb, h⟩ | ⟨i, s, db, t, rfl, hs, hb, h⟩ := step_cases he
  · exact Or.inl (by rw [h]; rfl)
  · exact Or.inl (by rw [h]; rfl)
  · exact Or.inl (by rw [h]; rfl)
  · exact Or.inl (by rw [h]; rfl)
  · exact Or.inr ⟨i, s, rfl, hs, by rw [h, hb]; rfl⟩
  · exact Or.inr ⟨i, s, rfl, hs, by rw [h, hb]; rfl⟩

theorem db_of_run {w : World ι σ τ κ α} {i : ι} {s : Session τ} (hs : AtRun P w i s) :
    (next P w (.step i)).db = (P.body w.db s.request s.seen).db := by
  obtain ⟨hs, rows, ha⟩ := hs
  cases hb : P.body w.db s.request s.seen with
  | finish db a => simp [next, hs, ha, hb, Outcome.db]
  | resume db t => simp [next, hs, ha, hb, Outcome.db]

theorem session_next {w : World ι σ τ κ α} {i : ι} (he : Enabled P admits w (.step i)) :
    ∃ o, (next P w (.step i)).session = Function.update w.session i o := by
  obtain ⟨j, r, hj, -⟩ | ⟨j, s, hj, -⟩ | ⟨j, s, hj, -, -, h⟩ | ⟨j, s, k, hj, -, -, -, h⟩ |
    ⟨j, s, db, a, hj, -, -, h⟩ | ⟨j, s, db, t, hj, -, -, h⟩ := step_cases he
  all_goals cases hj
  all_goals rw [h]; exact ⟨_, rfl⟩

theorem answers_next {w : World ι σ τ κ α} {e : Event ι ρ} (he : Enabled P admits w e)
    {a : ρ × α} (ha : a ∈ w.answers) : a ∈ (next P w e).answers := by
  obtain ⟨i, r, -, -, -, h⟩ | ⟨i, s, -, -, h⟩ | ⟨i, s, -, -, -, h⟩ | ⟨i, s, k, -, -, -, -, h⟩ |
    ⟨i, s, db, b, -, -, -, h⟩ | ⟨i, s, db, t, -, -, -, h⟩ := step_cases he
  all_goals rw [h]
  all_goals first | exact ha | exact List.mem_append_left _ ha

/-- Every open session serves an admitted request. -/
def Admitted (admits : ρ → Prop) (w : World ι σ τ κ α) : Prop :=
  ∀ i s, w.session i = some s → admits s.request

omit [DecidableEq ι] [DecidableEq κ] in
theorem admitted_quiet (db : σ) : Admitted admits (World.quiet db : World ι σ τ κ α) := by
  intro i s hs
  simp [World.quiet] at hs

omit [DecidableEq κ] in
theorem admitted_of_change {w v : World ι σ τ κ α} {i : ι} {o : Option (Session τ)}
    (hw : Admitted admits w) (hv : v.session = Function.update w.session i o)
    (own : ∀ s, o = some s → admits s.request) : Admitted admits v := by
  intro j s hj
  rw [hv] at hj
  by_cases hij : j = i
  · subst j
    rw [Function.update_self] at hj
    exact own s hj
  · rw [Function.update_of_ne hij] at hj
    exact hw j s hj

theorem run_of_admitted {w : World ι σ τ κ α} {es : List (Event ι ρ)}
    (run : (machine P fun _ => True).Run w es) (requests : ∀ i r, .start i r ∈ es → admits r) :
    (machine P admits).Run w es := by
  have hstarts := each_of_forall (M := machine P fun _ => True)
    (C := fun e => ∀ i r, e = .start i r → admits r)
    (fun e he i r h => requests i r (h ▸ he)) w
  have hboth := run.and hstarts
  clear run hstarts requests
  induction es generalizing w with
  | nil => trivial
  | cons e es ih =>
    refine ⟨?_, ih hboth.2⟩
    obtain ⟨⟨henabled, hadmits⟩, -⟩ := hboth
    cases e with
    | start i r => exact ⟨henabled.1, hadmits i r rfl⟩
    | step i => exact henabled
    | fail i => exact henabled

theorem admitted_next {w : World ι σ τ κ α} {e : Event ι ρ} (hw : Admitted admits w)
    (he : Enabled P admits w e) : Admitted admits (next P w e) := by
  obtain ⟨i, r, -, -, hr, h⟩ | ⟨i, s, -, -, h⟩ | ⟨i, s, -, hs, -, h⟩ | ⟨i, s, k, -, hs, -, -, h⟩ |
    ⟨i, s, db, a, -, -, -, h⟩ | ⟨i, s, db, t, -, ⟨hs, -⟩, -, h⟩ := step_cases he
  all_goals rw [h]
  · exact admitted_of_change hw rfl (by rintro _ ⟨⟩; exact hr)
  · exact admitted_of_change hw rfl (fun _ ho => by cases ho)
  · exact admitted_of_change hw rfl (by rintro _ ⟨⟩; exact hw i s hs)
  · exact admitted_of_change hw rfl (by rintro _ ⟨⟩; exact hw i s hs)
  · exact admitted_of_change hw rfl (fun _ ho => by cases ho)
  · exact admitted_of_change hw rfl (by rintro _ ⟨⟩; exact hw i s hs)

/-- The exact rule for a property of the database: it holds throughout exactly if every run of
writes meets the condition under which writes keep it. -/
theorem throughout_db_iff {Q : σ → Prop} {C : σ → Session τ → Prop}
    (exact_run : ∀ db r t rows, admits r → P.action r t = .run rows → Q db →
      (Q (P.body db r t).db ↔ C db ⟨r, t⟩))
    {w : World ι σ τ κ α} {es : List (Event ι ρ)} (hw : Admitted admits w) (start : Q w.db)
    (hrun : (machine P admits).Run w es) :
    (machine P admits).Throughout (fun w => Q w.db) w es ↔
      (machine P admits).Each (RunsUnder P C) w es := by
  refine throughout_iff_each (J := Admitted admits)
    (fun w e hw _ he _ => admitted_next hw he) ?_ hrun hw start
  intro w e hw hq he
  constructor
  · rintro hnext i s rfl hs
    obtain ⟨hi, rows, ha⟩ := hs
    refine (exact_run w.db s.request s.seen rows (hw i s hi) ha hq).mp ?_
    rw [← db_of_run ⟨hi, rows, ha⟩]
    exact hnext
  · intro hC
    rcases db_changes he with h | ⟨i, s, rfl, ⟨hs, rows, ha⟩, h⟩
    · change Q (next P w e).db
      rw [h]
      exact hq
    · change Q (next P w (.step i)).db
      rw [h]
      exact (exact_run w.db s.request s.seen rows (hw i s hs) ha hq).mpr
        (hC i s rfl ⟨hs, rows, ha⟩)

/-- What a session has locked can be read off how far it is: `claims s` are those rows. -/
structure Claims (P : Program σ ρ τ κ α) (claims : Session τ → κ → Prop) : Prop where
  enter : ∀ r k, ¬ claims ⟨r, P.enter r⟩ k
  read : ∀ db r t k, P.action r t = .read → claims ⟨r, P.observe db r t⟩ k → claims ⟨r, t⟩ k
  lock : ∀ db r t k k', P.action r t = .lock k → claims ⟨r, P.observe db r t⟩ k' →
    k' = k ∨ claims ⟨r, t⟩ k'
  resume : ∀ db r t db' t' k rows, P.action r t = .run rows → P.body db r t = .resume db' t' →
    ¬ claims ⟨r, t'⟩ k

def Locked (claims : Session τ → κ → Prop) (w : World ι σ τ κ α) : Prop :=
  ∀ i s, w.session i = some s → ∀ k, claims s k → w.holder k = some i

omit [DecidableEq ι] [DecidableEq κ] in
theorem locked_quiet (claims : Session τ → κ → Prop) (db : σ) :
    Locked claims (World.quiet db : World ι σ τ κ α) := by
  intro i s hs
  simp [World.quiet] at hs

omit [DecidableEq κ] in
/-- A step changes one session and the locks; every other session must keep its own. -/
theorem locked_of_change {claims : Session τ → κ → Prop} {w v : World ι σ τ κ α} {i : ι}
    {o : Option (Session τ)} (hw : Locked claims w)
    (hv : v.session = Function.update w.session i o)
    (own : ∀ s, o = some s → ∀ k, claims s k → v.holder k = some i)
    (others : ∀ j k, j ≠ i → w.holder k = some j → v.holder k = some j) :
    Locked claims v := by
  intro j s hj k hk
  rw [hv] at hj
  by_cases hij : j = i
  · subst j
    rw [Function.update_self] at hj
    exact own s hj k hk
  · rw [Function.update_of_ne hij] at hj
    exact others j k hij (hw j s hj k hk)

theorem locked_next {claims : Session τ → κ → Prop} (hc : Claims P claims)
    {w : World ι σ τ κ α} {e : Event ι ρ} (hw : Locked claims w) (he : Enabled P admits w e) :
    Locked claims (next P w e) := by
  obtain ⟨i, r, -, -, -, h⟩ | ⟨i, s, -, -, h⟩ | ⟨i, s, -, hs, ha, h⟩ |
    ⟨i, s, k, -, hs, ha, hk, h⟩ | ⟨i, s, db, a, -, hs, hb, h⟩ |
    ⟨i, s, db, t, -, ⟨hs, rows, ha⟩, hb, h⟩ := step_cases he
  all_goals rw [h]
  · refine locked_of_change hw rfl ?_ (fun _ _ _ hk => hk)
    rintro _ ⟨⟩ k hk
    exact absurd hk (hc.enter r k)
  · exact locked_of_change hw rfl (fun _ ho => by cases ho)
      (fun j k hij hk => release_eq_some.mpr ⟨hk, hij⟩)
  · refine locked_of_change hw rfl ?_ (fun _ _ _ hk => hk)
    rintro _ ⟨⟩ k hk
    exact hw i s hs k (hc.read _ _ _ _ ha hk)
  · refine locked_of_change hw rfl ?_ ?_
    · rintro _ ⟨⟩ k' hk'
      by_cases hkk : k' = k
      · subst k'; exact Function.update_self ..
      · exact (Function.update_of_ne hkk ..).trans
          (hw i s hs k' ((hc.lock _ _ _ _ _ ha hk').resolve_left hkk))
    · intro j k' hij hk'
      by_cases hkk : k' = k
      · subst k'
        rcases hk with hk | hk
        · rw [hk'] at hk; cases hk
        · rw [hk'] at hk; exact absurd (Option.some.inj hk) hij
      · exact (Function.update_of_ne hkk ..).trans hk'
  · exact locked_of_change hw rfl (fun _ ho => by cases ho)
      (fun j k hij hk => release_eq_some.mpr ⟨hk, hij⟩)
  · refine locked_of_change hw rfl ?_ (fun j k hij hk => release_eq_some.mpr ⟨hk, hij⟩)
    rintro _ ⟨⟩ k hk
    exact absurd hk (hc.resume _ _ _ _ _ _ _ ha hb)

omit [DecidableEq ι] [DecidableEq κ] in
theorem Locked.exclusive {claims : Session τ → κ → Prop} {w : World ι σ τ κ α}
    (hw : Locked claims w) {i j : ι} {s s' : Session τ} (hi : w.session i = some s)
    (hj : w.session j = some s') {k : κ} (hk : claims s k) (hk' : claims s' k) : i = j := by
  have h := hw i s hi k hk
  rw [hw j s' hj k hk'] at h
  exact (Option.some.inj h).symm

structure Knowledge (P : Program σ ρ τ κ α) (admits : ρ → Prop) (claims : Session τ → κ → Prop)
    (C : σ → Session τ → Prop) (D : σ → Prop) (K : σ → Session τ → Prop) : Prop where
  enter : ∀ db r, admits r → D db → K db ⟨r, P.enter r⟩
  observe : ∀ db r t, (∀ rows, P.action r t ≠ .run rows) → D db → K db ⟨r, t⟩ →
    K db ⟨r, P.observe db r t⟩
  keep : ∀ db r t rows, P.action r t = .run rows → D db → K db ⟨r, t⟩ → C db ⟨r, t⟩ →
    D (P.body db r t).db
  resume : ∀ db r t db' t' rows, P.action r t = .run rows → D db → K db ⟨r, t⟩ → C db ⟨r, t⟩ →
    P.body db r t = .resume db' t' → K db' ⟨r, t'⟩
  stable : ∀ db s r t rows, P.action r t = .run rows → D db → K db ⟨r, t⟩ → C db ⟨r, t⟩ →
    K db s → (∀ k, ¬ (claims s k ∧ claims ⟨r, t⟩ k)) → K (P.body db r t).db s

def Knows (K : σ → Session τ → Prop) (w : World ι σ τ κ α) : Prop :=
  ∀ i s, w.session i = some s → K w.db s

omit [DecidableEq ι] [DecidableEq κ] in
theorem knows_quiet (K : σ → Session τ → Prop) (db : σ) :
    Knows K (World.quiet db : World ι σ τ κ α) := by
  intro i s hs
  simp [World.quiet] at hs

omit [DecidableEq κ] in
theorem knows_of_change {K : σ → Session τ → Prop} {w v : World ι σ τ κ α} {i : ι}
    {o : Option (Session τ)} (hv : v.session = Function.update w.session i o)
    (own : ∀ s, o = some s → K v.db s)
    (others : ∀ j s, j ≠ i → w.session j = some s → K v.db s) : Knows K v := by
  intro j s hj
  rw [hv] at hj
  by_cases hij : j = i
  · subst j
    rw [Function.update_self] at hj
    exact own s hj
  · rw [Function.update_of_ne hij] at hj
    exact others j s hij hj

/-- The locks, the invariant of the database and the knowledge of every session together. -/
structure Informed (claims : Session τ → κ → Prop) (D : σ → Prop) (K : σ → Session τ → Prop)
    (w : World ι σ τ κ α) : Prop where
  locked : Locked claims w
  db : D w.db
  knows : Knows K w

omit [DecidableEq ι] [DecidableEq κ] in
theorem informed_quiet {claims : Session τ → κ → Prop} {D : σ → Prop} {K : σ → Session τ → Prop}
    {db : σ} (h : D db) : Informed claims D K (World.quiet db : World ι σ τ κ α) :=
  ⟨locked_quiet claims db, h, knows_quiet K db⟩

theorem informed_next {claims : Session τ → κ → Prop} {C : σ → Session τ → Prop} {D : σ → Prop}
    {K : σ → Session τ → Prop} (hc : Claims P claims) (hk : Knowledge P admits claims C D K)
    {w : World ι σ τ κ α} {e : Event ι ρ} (hw : Informed claims D K w)
    (he : Enabled P admits w e) (hC : RunsUnder P C w e) :
    Informed claims D K (next P w e) := by
  refine ⟨locked_next hc hw.locked he, ?_, ?_⟩
  · rcases db_changes he with h | ⟨i, s, rfl, ⟨hs, rows, ha⟩, h⟩
    · rw [h]
      exact hw.db
    · rw [h]
      exact hk.keep _ _ _ rows ha hw.db (hw.knows i s hs) (hC i s rfl ⟨hs, rows, ha⟩)
  · have others : ∀ i s, e = .step i → AtRun P w i s → ∀ j s', j ≠ i → w.session j = some s' →
        K (P.body w.db s.request s.seen).db s' := by
      rintro i s he ⟨hi, rows, ha⟩ j s' hij hj
      refine hk.stable _ _ _ _ rows ha hw.db (hw.knows i s hi) (hC i s he ⟨hi, rows, ha⟩)
        (hw.knows j s' hj) ?_
      rintro k ⟨hkj, hki⟩
      exact hij (hw.locked.exclusive hj hi hkj hki)
    obtain ⟨i, r, -, -, hr, h⟩ | ⟨i, s, -, -, h⟩ | ⟨i, s, -, hs, ha, h⟩ |
      ⟨i, s, k, -, hs, ha, -, h⟩ | ⟨i, s, db, a, hi, hs, hb, h⟩ |
      ⟨i, s, db, t, hi, hs, hb, h⟩ := step_cases he
    all_goals rw [h]
    · refine knows_of_change rfl ?_ (fun j s _ hj => hw.knows j s hj)
      rintro _ ⟨⟩
      exact hk.enter w.db r hr hw.db
    · exact knows_of_change rfl (fun _ ho => by cases ho) (fun j s _ hj => hw.knows j s hj)
    · refine knows_of_change rfl ?_ (fun j s _ hj => hw.knows j s hj)
      rintro _ ⟨⟩
      exact hk.observe _ _ _ (by simp [ha]) hw.db (hw.knows i s hs)
    · refine knows_of_change rfl ?_ (fun j s _ hj => hw.knows j s hj)
      rintro _ ⟨⟩
      exact hk.observe _ _ _ (by simp [ha]) hw.db (hw.knows i s hs)
    · refine knows_of_change rfl (fun _ ho => by cases ho) ?_
      intro j s' hij hj
      simpa [hb, Outcome.db] using others i s hi hs j s' hij hj
    · have hrun := hs
      obtain ⟨hs, rows, ha⟩ := hs
      refine knows_of_change rfl ?_ ?_
      · rintro _ ⟨⟩
        exact hk.resume _ _ _ _ _ rows ha hw.db (hw.knows i s hs) (hC i s hi hrun) hb
      · intro j s' hij hj
        simpa [hb, Outcome.db] using others i s hi hrun j s' hij hj

/-- The rule for runs: sessions stay informed while every run of writes meets `C`. -/
theorem informed_throughout {claims : Session τ → κ → Prop} {C : σ → Session τ → Prop}
    {D : σ → Prop} {K : σ → Session τ → Prop} (hc : Claims P claims)
    (hk : Knowledge P admits claims C D K) {w : World ι σ τ κ α} {es : List (Event ι ρ)}
    (hw : Informed claims D K w) (hrun : (machine P admits).Run w es)
    (hC : (machine P admits).Each (RunsUnder P C) w es) :
    (machine P admits).Throughout (Informed claims D K) w es := by
  refine throughout_of_each ?_ hw (hrun.and hC)
  exact fun v e hv h => informed_next hc hk hv h.1 h.2

/-- The request from where it is to its answer, in at most `n` statements. -/
def Program.alone (P : Program σ ρ τ κ α) (r : ρ) : ℕ → σ → τ r → Option (σ × α)
  | 0, _, _ => none
  | n + 1, db, t =>
    match P.action r t with
    | .read | .lock _ => P.alone r n db (P.observe db r t)
    | .run _ =>
      match P.body db r t with
      | .finish db' a => some (db', a)
      | .resume db' t' => P.alone r n db' t'

section
variable {r : ρ} {n : ℕ} {db db' : σ} {t t' : τ r} {a : α}

omit [DecidableEq ι] [DecidableEq κ] in
theorem alone_read (ha : P.action r t = .read) :
    P.alone r (n + 1) db t = P.alone r n db (P.observe db r t) := by
  rw [Program.alone, ha]

omit [DecidableEq ι] [DecidableEq κ] in
theorem alone_lock {k : κ} (ha : P.action r t = .lock k) :
    P.alone r (n + 1) db t = P.alone r n db (P.observe db r t) := by
  rw [Program.alone, ha]

omit [DecidableEq ι] [DecidableEq κ] in
theorem alone_resume {rows : List κ} (ha : P.action r t = .run rows)
    (hb : P.body db r t = .resume db' t') : P.alone r (n + 1) db t = P.alone r n db' t' := by
  rw [Program.alone, ha]
  dsimp only
  rw [hb]

omit [DecidableEq ι] [DecidableEq κ] in
theorem alone_finish {rows : List κ} (ha : P.action r t = .run rows)
    (hb : P.body db r t = .finish db' a) : P.alone r (n + 1) db t = some (db', a) := by
  rw [Program.alone, ha]
  dsimp only
  rw [hb]

/-- It is a run of the sessions in which only this one steps, and nobody else holds a lock. -/
theorem run_of_alone {i : ι} (hserved : P.alone r n db t = some (db', a)) {w : World ι σ τ κ α}
    (hs : w.session i = some ⟨r, t⟩) (hdb : w.db = db)
    (free : ∀ k, w.holder k = none ∨ w.holder k = some i) :
    ∃ m, (machine P admits).Run w (List.replicate m (.step i)) ∧
      ((machine P admits).final w (List.replicate m (.step i))).db = db' ∧
      ((machine P admits).final w (List.replicate m (.step i))).answers = w.answers ++
        [(r, a)] := by
  induction n generalizing w db t with
  | zero => cases hserved
  | succ n ih =>
    subst hdb
    have henabled : Enabled P admits w (.step i) := ⟨_, hs, fun k _ => free k⟩
    -- the statement that is next, and what is left of the request after it
    have continue_ : ∀ {v : World ι σ τ κ α} {t' : τ r}, next P w (.step i) = v →
        P.alone r n v.db t' = some (db', a) → v.session i = some ⟨r, t'⟩ →
        (∀ k, v.holder k = none ∨ v.holder k = some i) → v.answers = w.answers →
        ∃ m, (machine P admits).Run w (List.replicate m (.step i)) ∧
          ((machine P admits).final w (List.replicate m (.step i))).db = db' ∧
          ((machine P admits).final w (List.replicate m (.step i))).answers =
            w.answers ++ [(r, a)] := by
      rintro v t' rfl hrest hv hfree hanswers
      obtain ⟨m, hrun, hlast, hanswer⟩ := ih hrest hv rfl hfree
      exact ⟨m + 1, ⟨henabled, hrun⟩, hlast, by rw [← hanswers]; exact hanswer⟩
    have released : ∀ k, release i w.holder k = none ∨ release i w.holder k = some i := by
      intro k
      unfold release
      split
      · exact Or.inl rfl
      · exact free k
    cases ha : P.action r t with
    | read =>
      rw [alone_read ha] at hserved
      refine continue_ (v := w.put i (some ⟨r, P.observe w.db r t⟩)) ?_ hserved ?_ free rfl
      · simp only [next, hs, ha]
      · simp [World.put]
    | lock k =>
      rw [alone_lock ha] at hserved
      refine continue_ (v := { w.put i (some ⟨r, P.observe w.db r t⟩) with
        holder := Function.update w.holder k (some i) }) ?_ hserved ?_ ?_ rfl
      · simp only [next, hs, ha]
      · simp [World.put]
      · intro k'
        by_cases hk : k' = k
        · subst hk
          simp
        · simpa [hk] using free k'
    | run rows =>
      cases hb : P.body w.db r t with
      | finish db'' a' =>
        rw [alone_finish ha hb] at hserved
        obtain ⟨rfl, rfl⟩ := Prod.mk.inj (Option.some.inj hserved)
        have hnext : next P w (.step i) = { w.put i none with
            db := db'', holder := release i w.holder, answers := w.answers ++ [(r, a')] } := by
          simp only [next, hs, ha, hb]
        refine ⟨1, ⟨henabled, trivial⟩, ?_, ?_⟩
        · exact congrArg World.db hnext
        · exact congrArg World.answers hnext
      | resume db'' t' =>
        rw [alone_resume ha hb] at hserved
        refine continue_ (v := { w.put i (some ⟨r, t'⟩) with
          db := db'', holder := release i w.holder }) ?_ hserved ?_ released rfl
        · simp only [next, hs, ha, hb]
        · simp [World.put]

end

end ReadCommitted
