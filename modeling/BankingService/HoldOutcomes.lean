import BankingService.Sessions

/-! What becomes of a hold. A settlement and a reversal read the hold before they lock its account
and write its status afterwards without reading it again, so each of them can overtake the
other; a void reads the hold under the lock. -/
namespace HoldOutcomes

open BankingService Python Relational Checked Runs ReadCommitted

def EndsHold : Request → Prop
  | .settlement _ _ | .reversal _ _ | .voiding _ _ _ _ => True
  | _ => False

instance : DecidablePred EndsHold
  | .settlement _ _ | .reversal _ _ | .voiding _ _ _ _ => isTrue trivial
  | .authorization _ _ _ | .feeReversal _ _ _ _ | .triage _ _ | .payment _ _ | .archive _ =>
    isFalse not_false

def statementsFor (db : Db) (id : Uuid) : List PostedTransaction :=
  db.postedTransactions.select fun p => p.authorizationId = some id

/-- A hold is settled exactly if one statement row refers to it. -/
def SettledOnce (db : Db) : Prop :=
  ∀ id a, db.authorizations.get? id = some a →
    (a.status = .settled ↔ (statementsFor db id).length = 1)

/-- A hold that was settled or reversed has the same status afterwards. -/
def OutcomesKept (db db' : Db) : Prop :=
  ∀ id a, db.authorizations.get? id = some a → a.status = .settled ∨ a.status = .reversed →
    ∃ a', db'.authorizations.get? id = some a' ∧ a'.status = a.status

/-- No committed outcome is overtaken: a settlement does not commit over a reversal, and a
reversal does not commit over a settlement. -/
def NotOvertaken (db : Db) : Session Seen → Prop
  | ⟨.settlement env r, .locked hold (.ok account)⟩ =>
    (∃ x, settleHold db env r hold account = .ok x) →
      ∀ a, db.authorizations.get? hold.id = some a → a.status ≠ .reversed
  | ⟨.reversal env r, .locked hold (.ok account)⟩ =>
    (∃ x, reverseHold db env r hold account = .ok x) →
      ∀ a, db.authorizations.get? hold.id = some a → a.status ≠ .settled
  | _ => True

instance (db : Db) (hold : TransactionAuthorization) (status : HoldStatus) :
    Decidable (∀ a, db.authorizations.get? hold.id = some a → a.status ≠ status) :=
  match db.authorizations.get? hold.id with
  | none => isTrue fun _ ha => nomatch ha
  | some a => decidable_of_iff (a.status ≠ status)
      ⟨fun hs _ ha => Option.some.inj ha ▸ hs, fun hs => hs a rfl⟩

instance : ∀ db s, Decidable (NotOvertaken db s) := fun db s => by
  unfold NotOvertaken
  split <;> infer_instance

def settlementKey (rrn : String) : String := "card-settlement:" ++ rrn

/-- Every settled hold has its one statement row and its journal transaction; no other hold has
a statement row. -/
structure Consistent (db : Db) : Prop where
  once : ∀ id a, db.authorizations.get? id = some a →
    (statementsFor db id).length = if a.status = .settled then 1 else 0
  journaled : ∀ id a, db.authorizations.get? id = some a → a.status = .settled →
    ∃ t ∈ db.transactions.rows, t.idempotencyKey = settlementKey a.retrievalReferenceNumber ∧
      ∃ p ∈ db.postedTransactions.rows, p.journalTransactionId = some t.id

theorem Consistent.settledOnce {db : Db} (h : Consistent db) : SettledOnce db := by
  intro id a ha
  have hlength := h.once id a ha
  constructor
  · intro hs
    rw [hlength, if_pos hs]
  · intro hone
    by_contra hs
    rw [hlength, if_neg hs] at hone
    cases hone

/-- What a hold keeps over any commit. -/
def Evolves (db db' : Db) : Prop :=
  ∀ id a, db.authorizations.get? id = some a → ∃ a', db'.authorizations.get? id = some a' ∧
    a'.retrievalReferenceNumber = a.retrievalReferenceNumber ∧
    (a.status ≠ .declined → a'.status ≠ .declined) ∧
    (a.status = .settled ∨ a.status = .reversed → a'.status = a.status)

theorem Evolves.refl (db : Db) : Evolves db db :=
  fun _ a ha => ⟨a, ha, rfl, fun h => h, fun _ => rfl⟩

/-- The hold that a session read as active is still there, settled or reversed perhaps. -/
def Tracks (db : Db) (hold : TransactionAuthorization) (rrn : String) : Prop :=
  ∃ a, db.authorizations.get? hold.id = some a ∧ a.retrievalReferenceNumber = rrn ∧
    a.status ≠ .declined

theorem Tracks.evolves {db db' : Db} {hold : TransactionAuthorization} {rrn : String}
    (h : Tracks db hold rrn) (he : Evolves db db') : Tracks db' hold rrn := by
  obtain ⟨a, ha, hrrn, hd⟩ := h
  obtain ⟨a', ha', hrrn', hd', -⟩ := he _ a ha
  exact ⟨a', ha', hrrn'.trans hrrn, hd' hd⟩

def HoldTracked (db : Db) (rrn : String) : HoldSeen → Prop
  | .found (.ok hold) | .locked hold _ => Tracks db hold rrn
  | _ => True

/-- What a session knows of its hold. -/
def Known (db : Db) : Session Seen → Prop
  | ⟨.settlement _ r, seen⟩ => HoldTracked db r.retrievalReferenceNumber seen
  | ⟨.reversal _ r, seen⟩ => HoldTracked db r.retrievalReferenceNumber seen
  | ⟨.voiding _ _ _ _, _⟩ => True
  | _ => False

variable {db db' : Db}

theorem get?_setHoldStatus {id x : Uuid} {status : HoldStatus} :
    (setHoldStatus db id status).authorizations.get? x =
      if x = id then (db.authorizations.get? id).map fun a => { a with status := status }
      else db.authorizations.get? x := by
  simp only [setHoldStatus]
  exact Table.get?_update fun a : TransactionAuthorization => { a with status := status }

theorem evolves_of_status {hold a : TransactionAuthorization} {status : HoldStatus}
    (hholds : db'.authorizations = (setHoldStatus db hold.id status).authorizations)
    (ha : db.authorizations.get? hold.id = some a) (hstatus : status ≠ .declined)
    (hkept : a.status = .settled ∨ a.status = .reversed → status = a.status) :
    Evolves db db' := by
  intro id b hb
  rw [hholds, get?_setHoldStatus]
  by_cases hid : id = hold.id
  · subst hid
    rw [ha] at hb
    cases hb
    rw [if_pos rfl, ha]
    exact ⟨_, rfl, rfl, fun _ => hstatus, hkept⟩
  · rw [if_neg hid]
    exact ⟨b, hb, rfl, fun h => h, fun _ => rfl⟩

theorem released_keeps {account updated : CreditAccount} {hold a : TransactionAuthorization}
    (hc : Consistent db) (h : HoldReleased db account hold updated db')
    (ha : db.authorizations.get? hold.id = some a) (hs : a.status ≠ .settled) :
    Consistent db' ∧ Evolves db db' := by
  have hstatements : ∀ id, statementsFor db' id = statementsFor db id := by
    intro id
    unfold statementsFor
    rw [h.posted]
  have hrow : ∀ id b, db'.authorizations.get? id = some b →
      ∃ b₀, db.authorizations.get? id = some b₀ ∧
        b.retrievalReferenceNumber = b₀.retrievalReferenceNumber ∧
        (b.status = .settled ↔ b₀.status = .settled) := by
    intro id b hb
    rw [h.holds, get?_setHoldStatus] at hb
    by_cases hid : id = hold.id
    · subst hid
      rw [if_pos rfl, ha, Option.map_some] at hb
      cases hb
      exact ⟨a, ha, rfl, iff_of_false (by simp) hs⟩
    · rw [if_neg hid] at hb
      exact ⟨b, hb, rfl, Iff.rfl⟩
  refine ⟨⟨?_, ?_⟩, ?_⟩
  · intro id b hb
    obtain ⟨b₀, hb₀, -, hiff⟩ := hrow id b hb
    rw [hstatements, hc.once id b₀ hb₀]
    simp only [hiff]
  · intro id b hb hsettled
    obtain ⟨b₀, hb₀, hrrn, hiff⟩ := hrow id b hb
    rw [h.journal, h.posted, hrrn]
    exact hc.journaled id b₀ hb₀ (hiff.mp hsettled)
  · refine evolves_of_status h.holds ha (by decide) ?_
    rintro (h₁ | h₁)
    · exact absurd h₁ hs
    · exact h₁.symm

/-- A settlement cannot commit over another one: its journal transaction is there already, and so
is the statement row of that transaction. -/
theorem not_settled_twice {account updated : CreditAccount} {hold a : TransactionAuthorization}
    {r : CardSettlementRequest} {statement : PostedTransaction} (hc : Consistent db)
    (h : Settled db account hold r updated statement db')
    (ha : db.authorizations.get? hold.id = some a)
    (hrrn : a.retrievalReferenceNumber = r.retrievalReferenceNumber) : a.status ≠ .settled := by
  intro hs
  obtain ⟨t, ht, hkey, p, hp, hpt⟩ := hc.journaled _ a ha hs
  rw [hrrn] at hkey
  obtain ⟨money, -, hposting⟩ := h.posting
  obtain ⟨mirrorId, clearingId, t', -, hst, hj⟩ := hposting.journal
  cases hj with
  | appended new => exact new.fresh t ht hkey
  | found stored keyed _ _ =>
    have htt : t = t' := Table.eq_of_clash ht stored (Or.inr (hkey.trans keyed.symm))
    refine Table.fresh_insert hposting.posted hp (Or.inr ⟨?_, ?_⟩)
    · rw [hpt, hst, htt]
    · rw [hpt]
      exact Option.some_ne_none _

theorem settled_keeps {account updated : CreditAccount} {hold a : TransactionAuthorization}
    {r : CardSettlementRequest} {statement : PostedTransaction} (hc : Consistent db)
    (h : Settled db account hold r updated statement db')
    (ha : db.authorizations.get? hold.id = some a)
    (hrrn : a.retrievalReferenceNumber = r.retrievalReferenceNumber)
    (hr : a.status ≠ .reversed) : Consistent db' ∧ Evolves db db' := by
  have hs : a.status ≠ .settled := not_settled_twice hc h ha hrrn
  obtain ⟨money, -, hposting⟩ := h.posting
  obtain ⟨mirrorId, clearingId, t, -, hst, hj⟩ := hposting.journal
  obtain ⟨-, hauth, -⟩ := h.statement
  have hstatements : ∀ id, (statementsFor db' id).length =
      (statementsFor db id).length + if id = hold.id then 1 else 0 := by
    intro id
    unfold statementsFor
    rw [Table.select_insert hposting.posted, List.length_append]
    by_cases hid : id = hold.id
    · simp [hauth, hid]
    · simp [hauth, hid, Ne.symm hid]
  have htransactions : ∀ x ∈ db.transactions.rows, x ∈ db'.transactions.rows := by
    intro x hx
    cases hj with
    | appended new => exact (Table.mem_insert new.transactions).mpr (Or.inl hx)
    | found _ _ htxs _ =>
      rw [htxs]
      exact hx
  have hposted : ∀ x ∈ db.postedTransactions.rows, x ∈ db'.postedTransactions.rows :=
    fun x hx => (Table.mem_insert hposting.posted).mpr (Or.inl hx)
  have hnew : t ∈ db'.transactions.rows ∧
      t.idempotencyKey = settlementKey r.retrievalReferenceNumber := by
    cases hj with
    | appended new => exact ⟨(Table.mem_insert new.transactions).mpr (Or.inr rfl), new.keyed⟩
    | found stored keyed _ _ => exact ⟨htransactions t stored, keyed⟩
  refine ⟨⟨?_, ?_⟩, ?_⟩
  · intro id b hb
    rw [h.holds, get?_setHoldStatus] at hb
    by_cases hid : id = hold.id
    · subst hid
      rw [if_pos rfl, ha, Option.map_some] at hb
      cases hb
      rw [hstatements, hc.once _ a ha, if_neg hs, if_pos rfl, if_pos rfl]
    · rw [if_neg hid] at hb
      rw [hstatements, if_neg hid, add_zero]
      exact hc.once id b hb
  · intro id b hb hsettled
    rw [h.holds, get?_setHoldStatus] at hb
    by_cases hid : id = hold.id
    · subst hid
      rw [if_pos rfl, ha, Option.map_some] at hb
      cases hb
      refine ⟨t, hnew.1, ?_, statement, ?_, hst⟩
      · rw [hnew.2, ← hrrn]
      · exact (Table.mem_insert hposting.posted).mpr (Or.inr rfl)
    · rw [if_neg hid] at hb
      obtain ⟨t', ht', hkey, p, hp, hpt⟩ := hc.journaled id b hb hsettled
      exact ⟨t', htransactions t' ht', hkey, p, hposted p hp, hpt⟩
  · refine evolves_of_status h.holds ha (by decide) ?_
    rintro (h₁ | h₁)
    · exact absurd h₁ hs
    · exact absurd h₁ hr

/-- A run of writes keeps the invariant and every outcome, unless it overtakes one. -/
theorem run_keeps (sha256 : String → String) (r : Request) (t : Seen r) (hc : Consistent db)
    (hk : Known db ⟨r, t⟩) (hn : NotOvertaken db ⟨r, t⟩) :
    Consistent ((service sha256).body db r t).db ∧
      Evolves db ((service sha256).body db r t).db := by
  let Keeps (db' : Db) : Prop := Consistent db' ∧ Evolves db db'
  change Keeps ((service sha256).body db r t).db
  have unchanged : Keeps db := ⟨hc, Evolves.refl db⟩
  cases r with
  | settlement env r =>
    cases t with
    | start => exact unchanged
    | found hold => cases hold <;> exact unchanged
    | locked hold account =>
      cases account with
      | error e => exact unchanged
      | ok account =>
        refine commitOrRollback_keeps (P := Keeps) unchanged ?_
        intro db' result hok
        obtain ⟨a, ha, hrrn, -⟩ := hk
        obtain ⟨updated, statement, hsettled⟩ := settled_of_ok hok
        exact settled_keeps hc hsettled ha hrrn (hn ⟨_, hok⟩ a ha)
  | reversal env r =>
    cases t with
    | start => exact unchanged
    | found hold => cases hold <;> exact unchanged
    | locked hold account =>
      cases account with
      | error e => exact unchanged
      | ok account =>
        refine commitOrRollback_keeps (P := Keeps) unchanged ?_
        intro db' available hok
        obtain ⟨a, ha, -, -⟩ := hk
        obtain ⟨updated, hreleased⟩ := holdReleased_of_reverse hok
        exact released_keeps hc hreleased ha (hn ⟨_, hok⟩ a ha)
  | voiding env accountId authorizationId fraudAlertId =>
    cases t with
    | start => exact unchanged
    | looked completed =>
      cases completed with
      | none => exact unchanged
      | some action =>
        refine commitOrRollback_keeps (P := Keeps) unchanged ?_
        intro db' result hok
        simp only [bind_eq_ok, pure_eq_ok] at hok
        obtain ⟨account, -, result', -, hok⟩ := hok
        cases hok
        exact unchanged
    | locked account =>
      cases account with
      | error e => exact unchanged
      | ok account =>
        refine commitOrRollback_keeps (P := Keeps) unchanged ?_
        intro db' result hok
        simp only [bind_eq_ok, pure_eq_ok] at hok
        obtain ⟨⟨db₁, updated, result'⟩, hvoid, hok⟩ := hok
        cases hok
        obtain ⟨id, auth, -, hauth, hactive, hreleased⟩ := holdReleased_of_void hvoid
        obtain ⟨ha, -⟩ := getAuthorizationByIdForAccount_eq_some hauth
        refine released_keeps hc hreleased ha ?_
        intro hs
        rcases hactive with h | h <;> rw [hs] at h <;> cases h
  | _ => exact hk.elim

theorem known_observe (sha256 : String → String) (r : Request) (t : Seen r) (hk : Known db ⟨r, t⟩) :
    Known db ⟨r, (service sha256).observe db r t⟩ := by
  have hfound : ∀ rrn suffix, HoldTracked db rrn (.found (findActiveHold db rrn suffix)) := by
    intro rrn suffix
    cases hf : findActiveHold db rrn suffix with
    | error e => trivial
    | ok hold =>
      obtain ⟨hget, hrrn, hactive⟩ := findActiveHold_eq_ok hf
      refine ⟨hold, hget, hrrn, ?_⟩
      intro hd
      rcases hactive with h | h <;> rw [hd] at h <;> cases h
  cases r with
  | settlement env r =>
    cases t with
    | start => exact hfound _ _
    | found hold => cases hold <;> exact hk
    | locked hold account => exact hk
  | reversal env r =>
    cases t with
    | start => exact hfound _ _
    | found hold => cases hold <;> exact hk
    | locked hold account => exact hk
  | voiding env accountId authorizationId fraudAlertId => trivial
  | _ => exact hk.elim

theorem known_enter (sha256 : String → String) (r : Request) (hr : EndsHold r) :
    Known db ⟨r, (service sha256).enter r⟩ := by
  cases r with
  | settlement env r =>
    simp only [service, enterSettlement]
    split <;> trivial
  | reversal env r => trivial
  | voiding env accountId authorizationId fraudAlertId => trivial
  | _ => exact hr.elim

theorem known_evolves {s : Session Seen} (hk : Known db s) (he : Evolves db db') :
    Known db' s := by
  obtain ⟨r, t⟩ := s
  cases r with
  | settlement env r =>
    cases t with
    | start => trivial
    | found hold =>
      cases hold with
      | error e => trivial
      | ok hold => exact Tracks.evolves hk he
    | locked hold account => exact Tracks.evolves hk he
  | reversal env r =>
    cases t with
    | start => trivial
    | found hold =>
      cases hold with
      | error e => trivial
      | ok hold => exact Tracks.evolves hk he
    | locked hold account => exact Tracks.evolves hk he
  | voiding env accountId authorizationId fraudAlertId => trivial
  | _ => exact hk.elim

theorem service_knowledge (sha256 : String → String) :
    Knowledge (service sha256) EndsHold
      (fun s k => k ∈ locksOf s) NotOvertaken Consistent Known where
  enter _ r hr _ := known_enter sha256 r hr
  observe _ r t _ _ hk := known_observe sha256 r t hk
  keep _ r t _ _ hc hk hn := (run_keeps sha256 r t hc hk hn).1
  resume db r t db' t' rows _ _ hk _ hb := by
    rcases body_resume hb with ⟨_, _, _, _, _, _, _, ht, -⟩ | ⟨_, _, _, _, _, _, -, ht, -⟩
    · rw [ht] at hk
      exact hk.elim
    · rw [ht] at hk
      exact hk.elim
  stable _ _ r t _ _ hc hk hn hs _ := known_evolves hs (run_keeps sha256 r t hc hk hn).2

theorem outcomes_kept (sha256 : String → String) {w : ServiceWorld} {e : ServiceEvent}
    (hw : Informed (fun s k => k ∈ locksOf s) Consistent Known w)
    (he : Enabled (service sha256) EndsHold w e)
    (hn : RunsUnder (service sha256) NotOvertaken w e) :
    OutcomesKept w.db (next (service sha256) w e).db := by
  rcases db_changes he with hsame | ⟨i, s, rfl, hs, hrun⟩
  · rw [hsame]
    exact fun id a ha _ => ⟨a, ha, rfl⟩
  · rw [hrun]
    have hkeeps := run_keeps sha256 s.request s.seen hw.db (hw.knows i s hs.1) (hn i s rfl hs)
    intro id a ha hfinal
    obtain ⟨a', ha', -, -, hkept⟩ := hkeeps.2 id a ha
    exact ⟨a', ha', hkept hfinal⟩

/-- Under any interleaving of settlements, reversals and voids in which none of them overtakes a
committed outcome, a hold is settled exactly if one statement row refers to it, and a settled or
reversed hold stays what it is. -/
theorem outcomes_final_unless_overtaken (sha256 : String → String) {db : Db}
    {events : List ServiceEvent}
    (start : Consistent db) (run : (serving sha256 EndsHold).Run (World.quiet db) events)
    (cond : (serving sha256 EndsHold).Each (RunsUnder (service sha256) NotOvertaken)
      (World.quiet db)
      events) :
    (serving sha256 EndsHold).Throughout (fun w => SettledOnce w.db) (World.quiet db) events ∧
      (serving sha256 EndsHold).Each
        (fun w e => OutcomesKept w.db ((serving sha256 EndsHold).next w e).db) (World.quiet db)
        events := by
  have hinit : Informed (fun s k => k ∈ locksOf s) Consistent Known
      (World.quiet db : ServiceWorld) := informed_quiet start
  constructor
  · have hinformed :=
      informed_throughout (service_claims sha256) (service_knowledge sha256) hinit run cond
    exact hinformed.mono fun w hw => hw.db.settledOnce
  · refine each_of_each ?_ ?_ hinit (run.and cond)
    · exact fun w e hw hc =>
        informed_next (service_claims sha256) (service_knowledge sha256) hw hc.1 hc.2
    · exact fun w e hw hc => outcomes_kept sha256 hw hc.1 hc.2

def chargedCard : CreditAccount :=
  { id := .ofNat 10, customerId := .ofNat 1, productCode := "CASHBACK", status := .active,
    creditLimitCents := 1000, clearedBalanceCents := 0, availableCreditCents := 900,
    currency := .usd, lastLimitIncreaseAt := none }

def pendingHold : TransactionAuthorization :=
  { id := .ofNat 30, cardId := .ofNat 20, accountId := .ofNat 10, transactionAmountCents := 100,
    transactionCurrency := "USD", billingAmountCents := 100, billingCurrency := "USD",
    status := .pending, declineReason := "NONE", authCode := "123456",
    retrievalReferenceNumber := "RRN-1", cardNetwork := "VISA", merchantCategoryCode := "5812",
    merchantName := none, fraudRiskScore := none, createdAt := 0, expiresAt := 1 }

def chargedBank : Db :=
  { Db.empty with
    creditAccounts := ⟨[chargedCard], List.pairwise_singleton _ _⟩,
    authorizations := ⟨[pendingHold], List.pairwise_singleton _ _⟩ }

def networkHashing (s : String) : String := "sha256:" ++ s

def settlesHold : Request := .settlement (.seeded 1) ⟨"RRN-1", 100, none, "Restaurant"⟩

def reversesHold : Request := .reversal (.seeded 2) ⟨"RRN-1", none⟩

/-- The reversal reads the hold before the settlement commits, and writes it afterwards. -/
def overtaken : List ServiceEvent :=
  [.start 0 settlesHold, .step 0, .start 1 reversesHold, .step 1, .step 0, .step 0, .step 1,
    .step 1]

def inTurn : List ServiceEvent :=
  [.start 0 settlesHold, .step 0, .step 0, .step 0, .start 1 reversesHold, .step 1, .step 1]

theorem chargedBank_consistent : Consistent chargedBank := by
  have hrow : ∀ id a, chargedBank.authorizations.get? id = some a → a = pendingHold := by
    intro id a ha
    exact List.mem_singleton.mp (Table.get?_eq_some.mp ha).1
  refine ⟨?_, ?_⟩
  · intro id a ha
    rw [hrow id a ha]
    rfl
  · intro id a ha hs
    rw [hrow id a ha] at hs
    cases hs

theorem inTurn_outcomes :
    (serving networkHashing EndsHold).Throughout (fun w => SettledOnce w.db)
        (World.quiet chargedBank) inTurn ∧
      (serving networkHashing EndsHold).Each
        (fun w e => OutcomesKept w.db ((serving networkHashing EndsHold).next w e).db)
        (World.quiet chargedBank) inTurn :=
  outcomes_final_unless_overtaken networkHashing chargedBank_consistent (by decide) (by decide)

/-- The hold ends reversed although its settlement is posted. -/
theorem reversal_overtakes_settlement :
    ¬ ∀ (sha256 : String → String) (db : Db) (events : List ServiceEvent), Consistent db →
      (serving sha256 EndsHold).Run (World.quiet db) events →
        (serving sha256 EndsHold).Throughout (fun w => SettledOnce w.db) (World.quiet db) events ∧
          (serving sha256 EndsHold).Each
            (fun w e => OutcomesKept w.db ((serving sha256 EndsHold).next w e).db) (World.quiet db)
            events := by
  intro hall
  have hlast :=
    (hall networkHashing chargedBank overtaken chargedBank_consistent (by decide)).1.last
  have hstatus : (((serving networkHashing EndsHold).final (World.quiet chargedBank)
      overtaken).db.authorizations.get? pendingHold.id).map TransactionAuthorization.status =
      some .reversed := by decide
  obtain ⟨a, ha, hs⟩ := Option.map_eq_some_iff.mp hstatus
  have hone : (statementsFor ((serving networkHashing EndsHold).final (World.quiet chargedBank)
      overtaken).db pendingHold.id).length = 1 := by decide
  have hsettled := (hlast _ a ha).mpr hone
  rw [hs] at hsettled
  cases hsettled

end HoldOutcomes
