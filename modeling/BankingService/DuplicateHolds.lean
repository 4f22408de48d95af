import BankingService.Sessions

/-! Swipes that are retried. The lookup of the retrieval reference number comes before the account
lock and is not repeated under it, and no constraint makes the number unique. -/
namespace DuplicateHolds

open BankingService Python Relational Checked Runs ReadCommitted

def IsAuthorization : Request → Prop
  | .authorization _ _ _ => True
  | _ => False

instance : DecidablePred IsAuthorization
  | .authorization _ _ _ => isTrue trivial
  | .settlement _ _ | .reversal _ _ | .voiding _ _ _ _ | .feeReversal _ _ _ _ | .triage _
    _ | .payment _ _
  | .archive _ => isFalse not_false

/-- At most one stored row for each retrieval reference number. -/
def RrnUnique (db : Db) : Prop :=
  ∀ a ∈ db.authorizations.rows, ∀ b ∈ db.authorizations.rows,
    a.retrievalReferenceNumber = b.retrievalReferenceNumber → a = b

instance (db : Db) : Decidable (RrnUnique db) := by
  unfold RrnUnique
  infer_instance

/-- A call that is about to commit a row still finds none under its reference number. -/
def LookupStillTrue (db : Db) : Session Seen → Prop
  | ⟨.authorization env r f, .alertRead card account alert⟩ =>
    account.status = .active →
      (∃ x, authorizeUnderLock db env r f card account alert = .ok x) →
        getAuthorizationByRrn db r.retrievalReferenceNumber = none
  | _ => True

variable {db db' : Db}

theorem lookup_eq_none {rrn : String} : getAuthorizationByRrn db rrn = none ↔
    ∀ a ∈ db.authorizations.rows, a.retrievalReferenceNumber ≠ rrn :=
  Table.first?_eq_none

theorem rrnUnique_congr (h : db'.authorizations = db.authorizations) :
    RrnUnique db' ↔ RrnUnique db := by
  unfold RrnUnique
  rw [h]

theorem rrnUnique_insert {hold : TransactionAuthorization} (hu : RrnUnique db)
    (h : db.authorizations.insert? hold = some db'.authorizations) :
    RrnUnique db' ↔ getAuthorizationByRrn db hold.retrievalReferenceNumber = none := by
  rw [lookup_eq_none]
  have hmem : ∀ x, x ∈ db'.authorizations.rows ↔ x ∈ db.authorizations.rows ∨ x = hold :=
    fun _ => Table.mem_insert h
  constructor
  · intro hu' a ha heq
    have hsame : a = hold :=
      hu' a ((hmem a).mpr (Or.inl ha)) hold ((hmem hold).mpr (Or.inr rfl)) heq
    exact Table.fresh_insert h ha (Row.clash_of_key (by rw [hsame]))
  · intro hfree a ha b hb heq
    rcases (hmem a).mp ha with ha | rfl
    · rcases (hmem b).mp hb with hb | rfl
      · exact hu a ha b hb heq
      · exact absurd heq (hfree a ha)
    · rcases (hmem b).mp hb with hb | rfl
      · exact absurd heq.symm (hfree b hb)
      · rfl

section
variable {env : Ambient} {r : CardAuthHoldRequest} {f : FraudEvaluation} {card : IssuedCard}
  {account : CreditAccount} {alert : Option FraudAlert} {progress : HoldProgress}

/-- A frozen account declines without a row. -/
theorem nothing_stored (hstatus : account.status ≠ .active)
    (h : authorizeUnderLock db env r f card account alert = .ok (db', progress)) :
    db'.authorizations = db.authorizations := by
  simp only [authorizeUnderLock, if_pos hstatus, bind_eq_ok, pure_eq_ok] at h
  obtain ⟨⟨db₁, response⟩, hd, h⟩ := h
  cases h
  obtain ⟨outbox, rfl⟩ := declineUnrecorded_frame hd
  rfl

/-- Every other call stores a row, declined or approved, under its own reference number. -/
theorem row_stored (hstatus : account.status = .active)
    (h : authorizeUnderLock db env r f card account alert = .ok (db', progress)) :
    ∃ hold, hold.retrievalReferenceNumber = r.retrievalReferenceNumber ∧
      db.authorizations.insert? hold = some db'.authorizations := by
  unfold authorizeUnderLock at h
  rw [if_neg (not_not.mpr hstatus)] at h
  split at h
  · simp only [declineInsufficientFunds, addAuthorization, bind_eq_ok, insert_eq_ok,
      recordAudit_eq_ok, pure_eq_ok] at h
    obtain ⟨⟨db₁, response⟩, ⟨db₂, ⟨holds, hholds, rfl⟩, db₃, ⟨outbox, -, rfl⟩, hd⟩, h⟩ := h
    cases hd
    cases h
    exact ⟨_, rfl, hholds⟩
  · simp only [bind_eq_ok] at h
    obtain ⟨⟨db₁, placed⟩, hp, h⟩ := h
    have hplaced := placed_of_ok hp
    obtain ⟨-, -, -, hrrn, -⟩ := hplaced.hold
    refine ⟨placed.hold, hrrn, ?_⟩
    split at h
    · cases h
      exact hplaced.stored
    · simp only [bind_eq_ok, pure_eq_ok] at h
      obtain ⟨⟨db₂, response⟩, hf, h⟩ := h
      cases h
      obtain ⟨updated, -, -, hholds⟩ := finishHold_effect hf
      rw [hholds]
      exact hplaced.stored

end

theorem unrecorded_stores_nothing {env : Ambient} {r : CardAuthHoldRequest}
    {context : List (String × JsonValue)} {code reason : String} :
    (commitOrRollback db (declineUnrecorded db env r context code reason)).1.authorizations =
      db.authorizations := by
  rcases commitOrRollback_cases db (declineUnrecorded db env r context code reason) with
    h | ⟨response, h⟩
  · rw [h]
  · obtain ⟨outbox, hdb⟩ := declineUnrecorded_frame h
    rw [hdb]

theorem counting_stores_nothing {env : Ambient} {r : CardAuthHoldRequest} {placed : PlacedHold}
    {row : Option CreditAccount} :
    (commitOrRollback db (finishCommittedHold db env r placed row)).1.authorizations =
      db.authorizations := by
  rcases commitOrRollback_cases db (finishCommittedHold db env r placed row) with
    h | ⟨response, h⟩
  · rw [h]
  · obtain ⟨outbox, account, -, hf⟩ := finishCommittedHold_cases h
    obtain ⟨updated, -, -, hholds⟩ := finishHold_effect hf
    exact hholds

/-- A run of writes keeps the numbers unique exactly if its lookup is still true. -/
theorem run_exact (sha256 : String → String) (r : Request) (t : Seen r) (hr : IsAuthorization r)
    (hu : RrnUnique db) :
    RrnUnique ((service sha256).body db r t).db ↔ LookupStillTrue db ⟨r, t⟩ := by
  cases r with
  | authorization env r f => ?_
  | _ => exact hr.elim
  have quiet : ∀ o : Outcome Db AuthorizationSeen Reply,
      o.db.authorizations = db.authorizations → (RrnUnique o.db ↔ True) :=
    fun o ho => iff_true_intro ((rrnUnique_congr ho).mpr hu)
  cases t with
  | alertRead card account alert =>
    simp only [service, AuthorizationSeen.body, LookupStillTrue]
    by_cases hstatus : account.status = .active
    · cases hcall : authorizeUnderLock db env r f card account alert with
      | error e => simpa [refuse_db] using hu
      | ok x =>
        obtain ⟨db', progress⟩ := x
        obtain ⟨hold, hrrn, hi⟩ := row_stored hstatus hcall
        have hexact : RrnUnique db' ↔
            getAuthorizationByRrn db r.retrievalReferenceNumber = none := by
          rw [← hrrn]
          exact rrnUnique_insert hu hi
        cases progress with
        | inl response => simpa [Outcome.db, hstatus] using hexact
        | inr placed => simpa [Outcome.db, hstatus] using hexact
    · cases hcall : authorizeUnderLock db env r f card account alert with
      | error e => simpa [refuse_db, hstatus] using hu
      | ok x =>
        obtain ⟨db', progress⟩ := x
        have hsame : RrnUnique db' := (rrnUnique_congr (nothing_stored hstatus hcall)).mpr hu
        cases progress with
        | inl response => simpa [Outcome.db, hstatus] using hsame
        | inr placed => simpa [Outcome.db, hstatus] using hsame
  | cardRead card =>
    cases card with
    | none => exact quiet _ unrecorded_stores_nothing
    | some card => exact quiet _ unrecorded_stores_nothing
  | locked card account =>
    cases account with
    | none => exact quiet _ unrecorded_stores_nothing
    | some account => exact quiet _ rfl
  | reloaded id placed row => exact quiet _ counting_stores_nothing
  | _ => exact quiet _ rfl

/-- Under any interleaving of swipes, a reference number is stored at most once exactly if every
call that commits a row does so while its lookup is still true. -/
theorem rrn_unique_iff_lookups_still_true (sha256 : String → String) {db : Db}
    {events : List ServiceEvent}
    (start : RrnUnique db) (run : (serving sha256 IsAuthorization).Run (World.quiet db) events) :
    (serving sha256 IsAuthorization).Throughout (fun w => RrnUnique w.db) (World.quiet db) events ↔
      (serving sha256 IsAuthorization).Each (RunsUnder (service sha256) LookupStillTrue)
        (World.quiet db)
        events :=
  throughout_db_iff (fun _ r t _ hr _ hu => run_exact sha256 r t hr hu)
    (admitted_quiet db) start run

def openCard : CreditAccount :=
  { id := .ofNat 10, customerId := .ofNat 1, productCode := "CASHBACK", status := .active,
    creditLimitCents := 1000, clearedBalanceCents := 0, availableCreditCents := 1000,
    currency := .usd, lastLimitIncreaseAt := none }

def plasticCard : IssuedCard :=
  { id := .ofNat 20, accountId := .ofNat 10, cardholderName := "Ada", cardToken := "tok_1",
    lastFour := "4242", isActive := true, expMonth := 1, expYear := 2030, status := .active,
    isVirtual := false }

def cardBank : Db :=
  { Db.empty with
    creditAccounts := ⟨[openCard], List.pairwise_singleton _ _⟩,
    issuedCards := ⟨[plasticCard], List.pairwise_singleton _ _⟩ }

theorem hundred_positive : (0 : ℤ) < 100 := by decide

def swipe : CardAuthHoldRequest :=
  { cardToken := "tok_1", amountCents := 100, retrievalReferenceNumber := "RRN-1",
    merchantCategoryCode := "5812", merchantName := "Restaurant", cardNetwork := "VISA",
    createdAt := none, positive := hundred_positive }

def unflagged : FraudEvaluation :=
  { score := 0, isFlagged := false, alertsEnabled := true, alertThreshold := 90,
    interrupted := false }

def plainHashing (s : String) : String := "sha256:" ++ s

def retried : List ServiceEvent :=
  [.start 0 (.authorization (.seeded 1) swipe unflagged), .step 0,
    .start 1 (.authorization (.seeded 2) swipe unflagged), .step 1,
    .step 0, .step 0, .step 0, .step 0, .step 1, .step 1, .step 1, .step 1]

theorem cardBank_unique : RrnUnique cardBank := fun _ ha => by cases ha

theorem retried_run :
    (serving plainHashing IsAuthorization).Run (World.quiet cardBank) retried := by
  decide

theorem retried_exact :
    (serving plainHashing IsAuthorization).Throughout (fun w => RrnUnique w.db)
        (World.quiet cardBank) retried ↔
      (serving plainHashing IsAuthorization).Each (RunsUnder (service plainHashing) LookupStillTrue)
        (World.quiet cardBank) retried :=
  rrn_unique_iff_lookups_still_true plainHashing cardBank_unique retried_run

/-- Two active holds under one reference number. -/
theorem retried_swipe_is_held_twice :
    ¬ ∀ (sha256 : String → String) (db : Db) (events : List ServiceEvent), RrnUnique db →
      (serving sha256 IsAuthorization).Run (World.quiet db) events →
        (serving sha256 IsAuthorization).Throughout (fun w => RrnUnique w.db)
          (World.quiet db) events := by
  intro hall
  have hlast := (hall plainHashing cardBank retried cardBank_unique retried_run).last
  exact absurd hlast (by decide)

end DuplicateHolds
