import BankingService.DuplicateHolds
import BankingService.Remediation

/-! Swipes that are sent again after they were answered. The first answer comes from the decision,
every later one from the status of the stored row; the two agree unless the hold was flagged or
its row was overtaken by another one of the same reference number. -/
namespace ReplayedAuthorizations

open BankingService Python Relational Checked Runs ReadCommitted Relation DuplicateHolds

/-- A commit that leaves the rows as they are, or ends one of them. -/
inductive EndStep (db db' : Db) : Prop where
  | same (holds : db'.authorizations = db.authorizations)
  | ended (id : Uuid) (status : HoldStatus) (final : status = .settled ∨ status = .reversed)
      (holds : db'.authorizations = (setHoldStatus db id status).authorizations)

abbrev Ends : Db → Db → Prop := ReflTransGen EndStep

/-- The row `a` as it was, or settled or reversed since. -/
structure Kept (a a' : TransactionAuthorization) : Prop where
  id : a'.id = a.id
  rrn : a'.retrievalReferenceNumber = a.retrievalReferenceNumber
  authCode : a'.authCode = a.authCode
  declineReason : a'.declineReason = a.declineReason
  status : a'.status = a.status ∨ a'.status = .settled ∨ a'.status = .reversed

theorem Kept.refl (a : TransactionAuthorization) : Kept a a := ⟨rfl, rfl, rfl, rfl, Or.inl rfl⟩

theorem Kept.trans {a b c : TransactionAuthorization} (h : Kept a b) (k : Kept b c) : Kept a c := by
  refine ⟨k.id.trans h.id, k.rrn.trans h.rrn, k.authCode.trans h.authCode,
    k.declineReason.trans h.declineReason, ?_⟩
  rcases k.status with hs | hs
  · rw [hs]
    exact h.status
  · exact Or.inr hs

def RowsKept (db db' : Db) : Prop :=
  ∀ a ∈ db.authorizations.rows, ∃ a' ∈ db'.authorizations.rows, Kept a a'

theorem RowsKept.trans {db db₁ db' : Db} (h : RowsKept db db₁) (k : RowsKept db₁ db') :
    RowsKept db db' := by
  intro a ha
  obtain ⟨b, hb, hab⟩ := h a ha
  obtain ⟨c, hc, hbc⟩ := k b hb
  exact ⟨c, hc, hab.trans hbc⟩

theorem rowsKept_of_same {db db' : Db} (h : db'.authorizations = db.authorizations) :
    RowsKept db db' := by
  intro a ha
  rw [← h] at ha
  exact ⟨a, ha, .refl a⟩

theorem rowsKept_insert {db db' : Db} {hold : TransactionAuthorization}
    (h : db.authorizations.insert? hold = some db'.authorizations) : RowsKept db db' :=
  fun a ha => ⟨a, (Table.mem_insert h).mpr (Or.inl ha), .refl a⟩

variable {db db' : Db}

theorem mem_setHoldStatus {id : Uuid} {status : HoldStatus} {a : TransactionAuthorization} :
    a ∈ (setHoldStatus db id status).authorizations.rows ↔
      ∃ b ∈ db.authorizations.rows, a = if b.id = id then { b with status := status } else b := by
  unfold setHoldStatus
  rw [Table.mem_update]
  rfl

theorem EndStep.rowsKept (h : EndStep db db') : RowsKept db db' := by
  cases h with
  | same holds => exact rowsKept_of_same holds
  | ended id status final holds =>
    intro a ha
    refine ⟨_, holds ▸ mem_setHoldStatus.mpr ⟨a, ha, rfl⟩, ?_⟩
    by_cases hid : a.id = id
    · rw [if_pos hid]
      exact ⟨rfl, rfl, rfl, rfl, Or.inr final⟩
    · rw [if_neg hid]
      exact .refl a

theorem EndStep.rrnUnique (h : EndStep db db') (hu : RrnUnique db) : RrnUnique db' := by
  cases h with
  | same holds => exact (rrnUnique_congr holds).mpr hu
  | ended id status final holds =>
    intro a ha b hb heq
    rw [holds] at ha hb
    obtain ⟨a₀, ha₀, rfl⟩ := mem_setHoldStatus.mp ha
    obtain ⟨b₀, hb₀, rfl⟩ := mem_setHoldStatus.mp hb
    have hrrn : ∀ x : TransactionAuthorization,
        (if x.id = id then { x with status := status } else x).retrievalReferenceNumber =
          x.retrievalReferenceNumber := by
      intro x
      split <;> rfl
    rw [hrrn, hrrn] at heq
    rw [hu a₀ ha₀ b₀ hb₀ heq]

theorem Ends.rowsKept (h : Ends db db') : RowsKept db db' := by
  induction h with
  | refl => exact rowsKept_of_same rfl
  | tail _ step ih => exact ih.trans step.rowsKept

theorem Ends.rrnUnique (h : Ends db db') (hu : RrnUnique db) : RrnUnique db' := by
  induction h with
  | refl => exact hu
  | tail _ step ih => exact step.rrnUnique ih

theorem ends_of_same (h : db'.authorizations = db.authorizations) : Ends db db' :=
  .single (.same h)

theorem ends_of_released {account updated : CreditAccount} {auth : TransactionAuthorization}
    (h : HoldReleased db account auth updated db') : Ends db db' :=
  .single (.ended auth.id .reversed (Or.inr rfl) h.holds)

theorem endStep_of_remedy {r : TriageRequest} {alert : FraudAlert}
    (h : RemedyStep r alert db db') : EndStep db db' := by
  cases h with
  | voided stored active recorded type named => exact .ended _ .reversed (Or.inr rfl) rfl
  | _ => exact .same rfl

theorem endStep_of_replacement {r : TriageRequest} {alert : FraudAlert}
    (h : Replacement r alert db db') : EndStep db db' := by
  cases h with
  | replaced asked disputes recorded type named events => exact .same rfl

theorem ends_of_path {r : TriageRequest} {alert : FraudAlert} (h : RemedyPath r alert db db') :
    Ends db db' := by
  induction h with
  | refl => exact .refl
  | tail _ step ih => exact ih.tail (endStep_of_remedy step)

theorem ends_of_triage {r : TriageRequest} {alert : FraudAlert} (h : TriageRun r alert db db') :
    Ends db db' := by
  cases h with
  | kept path => exact ends_of_path path
  | replaced before replacement after =>
    exact ((ends_of_path before).tail (endStep_of_replacement replacement)).trans
      (ends_of_path after)

theorem payment_keeps_rows {sha256 : String → String} {env : Ambient} {p : BillPayment}
    {deposit : Account} {card : CreditAccount} {existing : Option Transaction}
    {result : BillPaymentResult}
    (h : executePayment sha256 db env p deposit card existing = .ok (db', result)) :
    db'.authorizations = db.authorizations := by
  simp only [executePayment, addPostedTransaction, bind_eq_ok, insert_eq_ok, recordAudit_eq_ok,
    pure_eq_ok] at h
  obtain ⟨⟨db₁, mirror⟩, hm, ⟨db₂, posting⟩, hp, ⟨db₃, updated⟩, hr, db₄, ⟨posted, -, rfl⟩,
    source, -, cleared, -, available, -, db₅, ⟨outbox, -, rfl⟩, h⟩ := h
  cases h
  obtain ⟨accounts, rfl, -⟩ := ensureCreditJournalAccount_effect hm
  obtain ⟨⟨txs, entries, box, rfl⟩, -⟩ := postAfterLookup_pair rfl hp
  obtain ⟨-, rfl⟩ := recalculate_eq_ok hr
  rfl

theorem archive_keeps_rows (db : Db) (stale : List Uuid) :
    (archiveTransactions db stale).authorizations = db.authorizations := by
  unfold archiveTransactions
  induction stale generalizing db with
  | nil => rfl
  | cons id stale ih =>
    rw [List.foldl_cons, ih]

/-- An answered number is that of a row that is kept, a triage has loaded the account of its alert,
and no hold waits to be counted after its own commit. -/
def Known (db : Db) : Session Seen → Prop
  | ⟨.authorization _ r _, .duplicate existing⟩ =>
    existing.retrievalReferenceNumber = r.retrievalReferenceNumber ∧
      ∃ a ∈ db.authorizations.rows, Kept existing a
  | ⟨.authorization _ _ _, .holdPlaced _ _⟩ => False
  | ⟨.authorization _ _ _, .reloaded _ _ _⟩ => False
  | ⟨.triage _ _, .accountRead alert account⟩ => account.id = alert.creditAccountId
  | ⟨.triage _ _, .looked alert account _ _⟩ => account.id = alert.creditAccountId
  | ⟨.triage _ _, .locked alert account⟩ => account.id = alert.creditAccountId
  | _ => True

/-- A call that is about to commit a row still finds none under its reference number, and no hold
that it approves is flagged. -/
def AnsweredAsStored (db : Db) : Session Seen → Prop
  | ⟨.authorization env r f, .alertRead card account alert⟩ =>
    account.status = .active →
      (∃ x, authorizeUnderLock db env r f card account alert = .ok x) →
        getAuthorizationByRrn db r.retrievalReferenceNumber = none ∧
          (r.amountCents ≤ account.availableCreditCents → f.isFlagged = false)
  | _ => True

theorem AnsweredAsStored.lookupStillTrue {s : Session Seen} (h : AnsweredAsStored db s) :
    LookupStillTrue db s := by
  obtain ⟨r, t⟩ := s
  cases r with
  | authorization env r f =>
    cases t with
    | alertRead card account alert => exact fun hstatus hok => (h hstatus hok).1
    | _ => trivial
  | _ => trivial

theorem Known.rowsKept {s : Session Seen} (hk : Known db s) (h : RowsKept db db') :
    Known db' s := by
  obtain ⟨r, t⟩ := s
  cases r with
  | authorization env r f =>
    cases t with
    | duplicate existing =>
      obtain ⟨hrrn, a, ha, hkept⟩ := hk
      obtain ⟨a', ha', hkept'⟩ := h a ha
      exact ⟨hrrn, a', ha', hkept.trans hkept'⟩
    | _ => exact hk
  | triage env r => cases t <;> exact hk
  | _ => trivial

theorem known_enter (sha256 : String → String) (r : Request) :
    Known db ⟨r, (service sha256).enter r⟩ := by
  cases r <;> trivial

theorem known_observe (sha256 : String → String) (r : Request) (t : Seen r)
    (hk : Known db ⟨r, t⟩) : Known db ⟨r, (service sha256).observe db r t⟩ := by
  cases r with
  | authorization env r f =>
    cases t with
    | start =>
      simp only [service, AuthorizationSeen.observe]
      split
      · next existing hfound =>
        obtain ⟨hmem, hrrn⟩ := Table.first?_mem hfound
        exact ⟨hrrn, existing, hmem, .refl existing⟩
      · trivial
    | cardRead card => cases card <;> trivial
    | locked card account => cases account <;> trivial
    | holdPlaced id placed => exact hk.elim
    | _ => exact hk
  | triage env r =>
    cases t with
    | start =>
      simp only [service, TriageSeen.observe]
      split
      · trivial
      · split <;> trivial
    | alertRead alert =>
      simp only [service, TriageSeen.observe]
      split
      · trivial
      · next account hfound =>
        simp only [requireFraudAccount, orRaise_eq_ok, Option.filter_eq_some_iff] at hfound
        exact (Table.get?_eq_some.mp hfound.1).2
    | looked alert account completed pending => cases completed <;> cases pending <;> exact hk
    | _ => exact hk
  | _ => trivial

section
variable {env : Ambient} {r : CardAuthHoldRequest} {f : FraudEvaluation} {card : IssuedCard}
  {account : CreditAccount} {alert : Option FraudAlert} {progress : HoldProgress}

theorem rowsKept_of_authorize
    (h : authorizeUnderLock db env r f card account alert = .ok (db', progress)) :
    RowsKept db db' := by
  by_cases hstatus : account.status = .active
  · obtain ⟨hold, -, hi⟩ := row_stored hstatus h
    exact rowsKept_insert hi
  · exact rowsKept_of_same (nothing_stored hstatus h)

end

theorem run_ends (sha256 : String → String) (r : Request) (t : Seen r) (hr : ¬ IsAuthorization r)
    (hk : Known db ⟨r, t⟩) : Ends db ((service sha256).body db r t).db := by
  have unchanged : Ends db db := .refl
  cases r with
  | authorization env r f => exact absurd trivial hr
  | settlement env r =>
    cases t with
    | start => exact unchanged
    | found hold => cases hold <;> exact unchanged
    | locked hold account =>
      cases account with
      | error e => exact unchanged
      | ok account =>
        refine commitOrRollback_keeps (P := Ends db) unchanged ?_
        intro db' result hok
        obtain ⟨updated, statement, hsettled⟩ := settled_of_ok hok
        exact .single (.ended _ .settled (Or.inl rfl) hsettled.holds)
  | reversal env r =>
    cases t with
    | start => exact unchanged
    | found hold => cases hold <;> exact unchanged
    | locked hold account =>
      cases account with
      | error e => exact unchanged
      | ok account =>
        refine commitOrRollback_keeps (P := Ends db) unchanged ?_
        intro db' available hok
        obtain ⟨updated, hreleased⟩ := holdReleased_of_reverse hok
        exact ends_of_released hreleased
  | voiding env accountId authorizationId fraudAlertId =>
    cases t with
    | start => exact unchanged
    | looked completed =>
      cases completed with
      | none => exact unchanged
      | some action =>
        refine commitOrRollback_keeps (P := Ends db) unchanged ?_
        intro db' result hok
        simp only [bind_eq_ok, pure_eq_ok] at hok
        obtain ⟨account, -, result', -, hok⟩ := hok
        cases hok
        exact unchanged
    | locked account =>
      cases account with
      | error e => exact unchanged
      | ok account =>
        refine commitOrRollback_keeps (P := Ends db) unchanged ?_
        intro db' result hok
        simp only [bind_eq_ok, pure_eq_ok] at hok
        obtain ⟨⟨db₁, updated, result'⟩, hvoid, hok⟩ := hok
        cases hok
        obtain ⟨id, auth, -, -, -, hreleased⟩ := holdReleased_of_void hvoid
        exact ends_of_released hreleased
  | feeReversal env accountId transactionId preloaded =>
    cases t with
    | locked account =>
      cases account with
      | error e => exact unchanged
      | ok account =>
        refine commitOrRollback_keeps (P := Ends db) unchanged ?_
        intro db' result hok
        obtain ⟨original, updated, statement, hreversed⟩ := feeReversed_of_ok hok
        exact ends_of_same hreversed.holds
    | _ => exact unchanged
  | triage env r =>
    cases t with
    | looked alert account completed pending =>
      refine commitOrRollback_keeps (P := Ends db) unchanged ?_
      intro db' result hok
      cases completed with
      | some action =>
        simp only [TriageSeen.writes, triageAfterLookup, bind_eq_ok, pure_eq_ok] at hok
        obtain ⟨result', -, hok⟩ := hok
        cases hok
        exact unchanged
      | none => exact ends_of_triage (triageAfterLookup_run hk hok).2
    | locked alert account =>
      refine commitOrRollback_keeps (P := Ends db) unchanged ?_
      intro db' result hok
      exact ends_of_triage (triageAfterLookup_run hk hok).2
    | _ => exact unchanged
  | payment env r =>
    cases t with
    | looked p deposit card existing =>
      simp only [service, PaymentSeen.body]
      split
      · next hok => exact ends_of_same (payment_keeps_rows hok)
      · exact unchanged
      · exact unchanged
      · exact unchanged
    | _ => exact unchanged
  | archive cutoff =>
    cases t with
    | start => exact unchanged
    | found stale => exact ends_of_same (archive_keeps_rows db stale)

theorem run_rowsKept (sha256 : String → String) (r : Request) (t : Seen r)
    (hk : Known db ⟨r, t⟩) : RowsKept db ((service sha256).body db r t).db := by
  by_cases hr : IsAuthorization r
  · cases r with
    | authorization env r f => ?_
    | _ => exact hr.elim
    cases t with
    | alertRead card account alert =>
      simp only [service, AuthorizationSeen.body]
      split
      · exact rowsKept_of_same rfl
      · next hok => exact rowsKept_of_authorize hok
      · next hok => exact rowsKept_of_authorize hok
    | cardRead card =>
      cases card with
      | none => exact rowsKept_of_same unrecorded_stores_nothing
      | some card => exact rowsKept_of_same unrecorded_stores_nothing
    | locked card account =>
      cases account with
      | none => exact rowsKept_of_same unrecorded_stores_nothing
      | some account => exact rowsKept_of_same rfl
    | reloaded id placed row => exact rowsKept_of_same counting_stores_nothing
    | _ => exact rowsKept_of_same rfl
  · exact (run_ends sha256 r t hr hk).rowsKept

theorem run_rrnUnique (sha256 : String → String) (r : Request) (t : Seen r) (hu : RrnUnique db)
    (hk : Known db ⟨r, t⟩) (hc : AnsweredAsStored db ⟨r, t⟩) :
    RrnUnique ((service sha256).body db r t).db := by
  by_cases hr : IsAuthorization r
  · exact (run_exact sha256 r t hr hu).mpr hc.lookupStillTrue
  · exact (run_ends sha256 r t hr hk).rrnUnique hu

/-- The answers of calls that store a row; a decline that stores none has code 75 or 83. -/
def StoredRow (response : AuthorizationResponse) : Prop :=
  response.actionCode = "00" ∨ response.actionCode = "51"

instance (response : AuthorizationResponse) : Decidable (StoredRow response) := by
  unfold StoredRow
  infer_instance

/-- A stored row from which the same answer would be given again, unless it has ended since. -/
def Backed (db : Db) (r : CardAuthHoldRequest) (response : AuthorizationResponse) : Prop :=
  ∃ a ∈ db.authorizations.rows, a.retrievalReferenceNumber = r.retrievalReferenceNumber ∧
    ((a.status = response.status ∧ a.authCode = response.authCode ∧
        response.actionCode = if a.status = .pending then "00" else "51") ∨
      a.status = .settled ∨ a.status = .reversed)

theorem Backed.rowsKept {r : CardAuthHoldRequest} {response : AuthorizationResponse}
    (h : Backed db r response) (hkept : RowsKept db db') : Backed db' r response := by
  obtain ⟨a, ha, hrrn, hanswer⟩ := h
  obtain ⟨a', ha', hk⟩ := hkept a ha
  refine ⟨a', ha', hk.rrn.trans hrrn, ?_⟩
  rcases hk.status with hs | hs
  · rw [hs, hk.authCode]
    exact hanswer
  · exact Or.inr hs

theorem backed_of_duplicate {r : CardAuthHoldRequest} {existing : TransactionAuthorization}
    (hrrn : existing.retrievalReferenceNumber = r.retrievalReferenceNumber)
    (hkept : ∃ a ∈ db.authorizations.rows, Kept existing a) :
    Backed db r (duplicateResponse existing) := by
  obtain ⟨a, ha, hk⟩ := hkept
  refine ⟨a, ha, hk.rrn.trans hrrn, ?_⟩
  rcases hk.status with hs | hs
  · refine Or.inl ⟨hs, hk.authCode, ?_⟩
    rw [hs]
    rfl
  · exact Or.inr hs

section
variable {env : Ambient} {r : CardAuthHoldRequest} {f : FraudEvaluation} {card : IssuedCard}
  {account : CreditAccount} {alert : Option FraudAlert} {response : AuthorizationResponse}

theorem declineUnrecorded_answer {context : List (String × JsonValue)} {code reason : String}
    (h : declineUnrecorded db env r context code reason = .ok (db', response)) :
    response = declined code reason := by
  simp only [declineUnrecorded, bind_eq_ok, pure_eq_ok] at h
  obtain ⟨db₁, -, h⟩ := h
  cases h
  rfl

theorem not_storedRow_declined {code reason : String} (h : code = "75" ∨ code = "83") :
    ¬ StoredRow (declined code reason) := by
  rcases h with rfl | rfl <;> simp [StoredRow, declined]

theorem answered_row (hstatus : account.status = .active)
    (h : authorizeUnderLock db env r f card account alert = .ok (db', .inl response)) :
    ∃ hold, db.authorizations.insert? hold = some db'.authorizations ∧
      hold.retrievalReferenceNumber = r.retrievalReferenceNumber ∧
      hold.authCode = response.authCode ∧ hold.status = response.status ∧
      ((response.actionCode = "51" ∧ hold.status = .declined) ∨
        (response.actionCode = "00" ∧ r.amountCents ≤ account.availableCreditCents ∧
          hold.status = if f.isFlagged then .flagged else .pending)) := by
  unfold authorizeUnderLock at h
  rw [if_neg (not_not.mpr hstatus)] at h
  split at h
  · simp only [declineInsufficientFunds, addAuthorization, bind_eq_ok, insert_eq_ok,
      recordAudit_eq_ok, pure_eq_ok] at h
    obtain ⟨⟨db₁, response'⟩, ⟨db₂, ⟨holds, hholds, rfl⟩, db₃, ⟨outbox, -, rfl⟩, hd⟩, h⟩ := h
    cases hd
    cases h
    exact ⟨_, hholds, rfl, rfl, rfl, Or.inl ⟨rfl, rfl⟩⟩
  · next hfunds =>
    simp only [bind_eq_ok] at h
    obtain ⟨⟨db₁, placed⟩, hp, h⟩ := h
    have hplaced := placed_of_ok hp
    obtain ⟨-, -, -, hrrn, hhold⟩ := hplaced.hold
    split at h
    · cases h
    · simp only [bind_eq_ok, pure_eq_ok] at h
      obtain ⟨⟨db₂, response'⟩, hf, h⟩ := h
      cases h
      obtain ⟨updated, -, -, hholds⟩ := finishHold_effect hf
      simp only [finishHold, bind_eq_ok, recordAudit_eq_ok, pure_eq_ok] at hf
      obtain ⟨⟨db₃, updated'⟩, -, db₄, -, hf⟩ := hf
      cases hf
      refine ⟨placed.hold, ?_, hrrn, rfl, rfl, Or.inr ⟨rfl, not_lt.mp hfunds, hhold⟩⟩
      rw [hholds]
      exact hplaced.stored

theorem storedRow_iff
    (h : authorizeUnderLock db env r f card account alert = .ok (db', .inl response)) :
    StoredRow response ↔ db'.authorizations ≠ db.authorizations := by
  by_cases hstatus : account.status = .active
  · obtain ⟨hold, hi, -, -, -, hcode⟩ := answered_row hstatus h
    constructor
    · intro _ hsame
      have hrows := Table.rows_insert hi
      rw [hsame] at hrows
      exact absurd hrows (by simp)
    · intro _
      rcases hcode with ⟨hcode, -⟩ | ⟨hcode, -⟩
      · exact Or.inr hcode
      · exact Or.inl hcode
  · have hsame := nothing_stored hstatus h
    simp only [authorizeUnderLock, if_pos hstatus, declineAccountFrozen, bind_eq_ok,
      pure_eq_ok] at h
    obtain ⟨⟨db₁, response'⟩, hd, h⟩ := h
    cases h
    rw [declineUnrecorded_answer hd]
    constructor
    · exact fun hcode => absurd hcode (not_storedRow_declined (Or.inr rfl))
    · exact fun hne => absurd hsame hne

theorem backed_of_authorize
    (hc : AnsweredAsStored db ⟨.authorization env r f, .alertRead card account alert⟩)
    (h : authorizeUnderLock db env r f card account alert = .ok (db', .inl response))
    (hcode : StoredRow response) : Backed db' r response := by
  by_cases hstatus : account.status = .active
  · obtain ⟨hold, hi, hrrn, hauth, hs, hanswer⟩ := answered_row hstatus h
    obtain ⟨-, hflag⟩ := hc hstatus ⟨_, h⟩
    refine ⟨hold, (Table.mem_insert hi).mpr (Or.inr rfl), hrrn, Or.inl ⟨hs, hauth, ?_⟩⟩
    rcases hanswer with ⟨hcode, hdeclined⟩ | ⟨hcode, hfunds, happroved⟩
    · rw [hcode, hdeclined]
      rfl
    · rw [hcode, happroved, hflag hfunds]
      rfl
  · exact absurd (nothing_stored hstatus h) ((storedRow_iff h).mp hcode)

end

/-- Only the message of a new alert commits a hold before it is counted, and only a flagged hold
raises an alert. -/
theorem committed_is_flagged {env : Ambient} {r : CardAuthHoldRequest} {f : FraudEvaluation}
    {card : IssuedCard} {account : CreditAccount} {alert : Option FraudAlert} {placed : PlacedHold}
    (h : authorizeUnderLock db env r f card account alert = .ok (db', .inr placed)) :
    account.status = .active ∧ r.amountCents ≤ account.availableCreditCents ∧
      f.isFlagged = true := by
  unfold authorizeUnderLock at h
  split at h
  · simp only [bind_eq_ok, pure_eq_ok] at h
    obtain ⟨x, -, h⟩ := h
    cases h
  · next hstatus =>
    split at h
    · simp only [bind_eq_ok, pure_eq_ok] at h
      obtain ⟨x, -, h⟩ := h
      cases h
    · next hfunds =>
      refine ⟨not_not.mp hstatus, not_lt.mp hfunds, ?_⟩
      simp only [bind_eq_ok] at h
      obtain ⟨⟨db₁, placed'⟩, hp, h⟩ := h
      by_contra hflag
      have hraises : f.raisesAlert = false := by
        simp [FraudEvaluation.raisesAlert, hflag]
      simp only [placeHold, raiseAlert, hraises, bind_eq_ok, pure_eq_ok, Bool.false_eq_true,
        if_false] at hp
      obtain ⟨db₂, -, db₃, -, x, ⟨⟩, hp⟩ := hp
      cases hp
      simp only [Option.isSome_none, Bool.false_eq_true, if_false, bind_eq_ok, pure_eq_ok] at h
      obtain ⟨x, -, h⟩ := h
      cases h

/-- The answer to a call that stored a row is backed by a row when it is given. -/
theorem run_answer (sha256 : String → String) {env : Ambient} {r : CardAuthHoldRequest}
    {f : FraudEvaluation} {t : AuthorizationSeen} {response : AuthorizationResponse}
    (hk : Known db ⟨.authorization env r f, t⟩)
    (hc : AnsweredAsStored db ⟨.authorization env r f, t⟩)
    (hb : (service sha256).body db (.authorization env r f) t =
      .finish db' (.ok (.authorization response)))
    (hcode : StoredRow response) : Backed db' r response := by
  have unrecorded : ∀ {context : List (String × JsonValue)} {code reason : String},
      code = "75" ∨ code = "83" →
      conclude (τ := AuthorizationSeen) db .authorization
        (declineUnrecorded db env r context code reason) =
          .finish db' (.ok (.authorization response)) → Backed db' r response := by
    intro context code reason hunstored hb
    cases hd : declineUnrecorded db env r context code reason with
    | error e =>
      rw [hd] at hb
      cases hb
    | ok x =>
      obtain ⟨db₁, response'⟩ := x
      rw [hd] at hb
      cases hb
      rw [declineUnrecorded_answer hd] at hcode
      exact absurd hcode (not_storedRow_declined hunstored)
  cases t with
  | duplicate existing =>
    cases hb
    exact backed_of_duplicate hk.1 hk.2
  | cardRead card =>
    cases card with
    | none => exact unrecorded (Or.inl rfl) hb
    | some card => exact unrecorded (Or.inl rfl) hb
  | locked card account =>
    cases account with
    | none => exact unrecorded (Or.inr rfl) hb
    | some account => cases hb
  | alertRead card account alert =>
    simp only [service, AuthorizationSeen.body] at hb
    split at hb
    · cases hb
    · next hok =>
      cases hb
      exact backed_of_authorize hc hok hcode
    · cases hb
  | holdPlaced id placed => exact hk.elim
  | reloaded id placed row => exact hk.elim
  | _ => cases hb

/-- The knowledge of the sessions, with a distinct reference number for each row. -/
abbrev Serving (w : ServiceWorld) : Prop :=
  Informed (fun s k => k ∈ locksOf s) RrnUnique Known w

theorem service_knowledge (sha256 : String → String) :
    Knowledge (service sha256) (fun _ => True) (fun s k => k ∈ locksOf s) AnsweredAsStored RrnUnique
      Known where
  enter _ r _ _ := known_enter sha256 r
  observe _ r t _ _ hk := known_observe sha256 r t hk
  keep _ r t _ _ hu hk hc := run_rrnUnique sha256 r t hu hk hc
  resume db r t db' t' rows _ _ hk hc hb := by
    rcases body_resume hb with ⟨env, req, f, card, account, alert, placed, hs, -, hok⟩ |
      ⟨_, _, _, _, _, _, -, -, ht⟩
    · -- a hold with a commit of its own is flagged
      rw [hs] at hc
      obtain ⟨hstatus, hfunds, hflagged⟩ := committed_is_flagged hok
      obtain ⟨-, hflag⟩ := hc hstatus ⟨_, hok⟩
      rw [hflag hfunds] at hflagged
      cases hflagged
    · rw [ht]
      trivial
  stable _ _ r t _ _ _ hk _ hs _ := hs.rowsKept (run_rowsKept sha256 r t hk)

def AnswersBacked (w : ServiceWorld) : Prop :=
  ∀ env r f response,
    (Request.authorization env r f, Except.ok (Answer.authorization response)) ∈ w.answers →
      StoredRow response → Backed w.db r response

theorem answersBacked_next (sha256 : String → String) {w : ServiceWorld} {e : ServiceEvent}
    (hw : Serving w) (hb : AnswersBacked w) (he : Enabled (service sha256) (fun _ => True) w e)
    (hc : RunsUnder (service sha256) AnsweredAsStored w e) :
    AnswersBacked (next (service sha256) w e) := by
  have later : ∀ {w' : ServiceWorld}, w'.answers = w.answers → RowsKept w.db w'.db →
      AnswersBacked w' := by
    intro w' hsame hkept env r f response ha hcode
    rw [hsame] at ha
    exact (hb env r f response ha hcode).rowsKept hkept
  obtain ⟨i, r, -, -, -, h⟩ | ⟨i, s, -, -, h⟩ | ⟨i, s, -, -, -, h⟩ | ⟨i, s, k, -, -, -, -, h⟩ |
    ⟨i, s, db', a, hi, hs, hrun, h⟩ | ⟨i, s, db', t, hi, hs, hrun, h⟩ := step_cases he
  · rw [h]
    exact later rfl (rowsKept_of_same rfl)
  · rw [h]
    exact later rfl (rowsKept_of_same rfl)
  · rw [h]
    exact later rfl (rowsKept_of_same rfl)
  · rw [h]
    exact later rfl (rowsKept_of_same rfl)
  · have hkept := run_rowsKept sha256 s.request s.seen (hw.knows i s hs.1)
    rw [hrun] at hkept
    rw [h]
    intro env r f response ha hcode
    rcases List.mem_append.mp ha with ha | ha
    · exact (hb env r f response ha hcode).rowsKept hkept
    · obtain ⟨q, t⟩ := s
      obtain ⟨rfl, rfl⟩ := Prod.mk.inj (List.mem_singleton.mp ha)
      exact run_answer sha256 (hw.knows i _ hs.1) (hc i _ hi hs) hrun hcode
  · have hkept := run_rowsKept sha256 s.request s.seen (hw.knows i s hs.1)
    rw [hrun] at hkept
    rw [h]
    exact later rfl hkept

/-- Whatever call is answered from a stored row, the same swipe sent again before its hold is
settled or reversed gets the same action code, authorization code and status, and changes
nothing. -/
def ReplaysAgree (w : ServiceWorld) : Prop :=
  ∀ env r f response,
    (Request.authorization env r f, Except.ok (Answer.authorization response)) ∈ w.answers →
      StoredRow response →
        (∀ a ∈ w.db.authorizations.rows, a.retrievalReferenceNumber = r.retrievalReferenceNumber →
          a.status ≠ .settled ∧ a.status ≠ .reversed) →
          ∀ (env' : Ambient) (r' : CardAuthHoldRequest) (f' : FraudEvaluation),
            r'.retrievalReferenceNumber = r.retrievalReferenceNumber →
              ∃ replayed, processAuthorization w.db env' r' f' = (w.db, .ok replayed) ∧
                replayed.actionCode = response.actionCode ∧
                replayed.authCode = response.authCode ∧ replayed.status = response.status

theorem replaysAgree_of_backed {w : ServiceWorld} (hu : RrnUnique w.db) (hb : AnswersBacked w) :
    ReplaysAgree w := by
  intro env r f response hanswer hcode hactive env' r' f' hrrn
  obtain ⟨a, ha, hnumber, hsame⟩ := hb env r f response hanswer hcode
  have hopen := hactive a ha hnumber
  obtain ⟨hs, hauth, hcode⟩ := hsame.resolve_right fun h => h.elim hopen.1 hopen.2
  have hfound : getAuthorizationByRrn w.db r'.retrievalReferenceNumber = some a := by
    cases hfirst : getAuthorizationByRrn w.db r'.retrievalReferenceNumber with
    | none => exact absurd (hnumber.trans hrrn.symm) (lookup_eq_none.mp hfirst a ha)
    | some b =>
      obtain ⟨hmem, hb⟩ := Table.first?_mem hfirst
      rw [hu a ha b hmem (hnumber.trans (hrrn.symm.trans hb.symm))]
  refine ⟨duplicateResponse a, ?_, hcode.symm, hauth, hs⟩
  unfold processAuthorization
  rw [hfound]

/-- In every run of the service in which the calls that commit a row find its reference number
free and flag no hold that they approve, a swipe that stored a row is answered alike whenever it
is sent again before its hold ends. -/
theorem replays_agree (sha256 : String → String) {db : Db} {events : List ServiceEvent}
    (start : RrnUnique db) (run : (serving sha256 fun _ => True).Run (World.quiet db) events)
    (cond : (serving sha256 fun _ => True).Each (RunsUnder (service sha256) AnsweredAsStored)
      (World.quiet db) events) :
    (serving sha256 fun _ => True).Throughout ReplaysAgree (World.quiet db) events := by
  have hinit : Serving (World.quiet db) ∧ AnswersBacked (World.quiet db) := by
    refine ⟨informed_quiet start, ?_⟩
    intro env r f response ha
    cases ha
  have hboth : (serving sha256 fun _ => True).Throughout
      (fun w => Serving w ∧ AnswersBacked w) (World.quiet db) events := by
    refine throughout_of_each ?_ hinit (run.and cond)
    rintro w e ⟨hw, hb⟩ ⟨he, hc⟩
    exact ⟨informed_next (service_claims sha256) (service_knowledge sha256) hw he hc,
      answersBacked_next sha256 hw hb he hc⟩
  exact hboth.mono fun w hw => replaysAgree_of_backed hw.1.db hw.2

/-- One swipe of 100, sent again after its answer. -/
def answeredTwice (f : FraudEvaluation) : List ServiceEvent :=
  [.start 0 (.authorization (.seeded 1) swipe f), .step 0, .step 0, .step 0, .step 0, .step 0,
    .start 1 (.authorization (.seeded 2) swipe f), .step 1, .step 1]

def flagged : FraudEvaluation :=
  { score := 95, isFlagged := true, alertsEnabled := false, alertThreshold := 90,
    interrupted := false }

instance (db : Db) (s : Session Seen) : Decidable (AnsweredAsStored db s) :=
  match s with
  | ⟨.authorization env r f, .alertRead card account alert⟩ =>
    match h : authorizeUnderLock db env r f card account alert with
    | .error e => isTrue fun _ ⟨x, hx⟩ => by rw [h] at hx; cases hx
    | .ok x => decidable_of_iff (account.status = .active →
        getAuthorizationByRrn db r.retrievalReferenceNumber = none ∧
          (r.amountCents ≤ account.availableCreditCents → f.isFlagged = false))
        ⟨fun hc hs _ => hc hs, fun hc hs => hc hs ⟨x, h⟩⟩
  | ⟨.authorization _ _ _, .start⟩ | ⟨.authorization _ _ _, .duplicate _⟩
  | ⟨.authorization _ _ _, .fresh⟩ | ⟨.authorization _ _ _, .cardRead _⟩
  | ⟨.authorization _ _ _, .locked _ _⟩ | ⟨.authorization _ _ _, .holdPlaced _ _⟩
  | ⟨.authorization _ _ _, .reloaded _ _ _⟩ | ⟨.settlement _ _, _⟩ | ⟨.reversal _ _, _⟩
  | ⟨.voiding _ _ _ _, _⟩ | ⟨.feeReversal _ _ _ _, _⟩ | ⟨.triage _ _, _⟩ | ⟨.payment _ _, _⟩
  | ⟨.archive _, _⟩ => isTrue trivial

theorem unflagged_replays_agree :
    (serving plainHashing fun _ => True).Throughout ReplaysAgree (World.quiet cardBank)
      (answeredTwice unflagged) :=
  replays_agree plainHashing cardBank_unique (by decide) (by decide)

def approves (rrn : String) : Request × Reply → Bool
  | (.authorization _ r _, .ok (.authorization response)) =>
    decide (r.retrievalReferenceNumber = rrn) && decide (response.actionCode = "00")
  | _ => false

theorem approves_eq_true {rrn : String} {q : Request} {a : Reply} :
    approves rrn (q, a) = true ↔ ∃ env r f response, q = .authorization env r f ∧
      a = .ok (.authorization response) ∧ r.retrievalReferenceNumber = rrn ∧
        response.actionCode = "00" := by
  constructor
  · intro h
    unfold approves at h
    split at h
    · next env r f response heq =>
      obtain ⟨rfl, rfl⟩ := Prod.mk.inj heq
      simp only [Bool.and_eq_true, decide_eq_true_eq] at h
      exact ⟨env, r, f, response, rfl, rfl, h.1, h.2⟩
    · cases h
  · rintro ⟨env, r, f, response, rfl, rfl, hrrn, hcode⟩
    simp [approves, hrrn, hcode]

/-- The flagged swipe is approved first and declined when it is sent again. -/
theorem flagged_approval_replayed_as_decline :
    ¬ ∀ (sha256 : String → String) (db : Db) (events : List ServiceEvent), RrnUnique db →
      (serving sha256 fun _ => True).Run (World.quiet db) events →
        (serving sha256 fun _ => True).Throughout ReplaysAgree (World.quiet db) events := by
  intro hall
  have hlast := (hall plainHashing cardBank (answeredTwice flagged) cardBank_unique
    (by decide)).last
  let w := (serving plainHashing fun _ => True).final (World.quiet cardBank) (answeredTwice flagged)
  have happroved : w.answers.any (approves "RRN-1") = true := by decide
  obtain ⟨⟨q, a⟩, hmem, ha⟩ := List.any_eq_true.mp happroved
  obtain ⟨env, r, f, response, rfl, rfl, hrrn, hcode⟩ := approves_eq_true.mp ha
  have hopen : ∀ a ∈ w.db.authorizations.rows, a.status ≠ .settled ∧ a.status ≠ .reversed := by
    decide
  obtain ⟨replayed, hreplay, hsame, -⟩ := hlast env r f response hmem (Or.inl hcode)
    (fun a ha _ => hopen a ha) (.seeded 3) swipe flagged hrrn.symm
  have hdeclined : (processAuthorization w.db (.seeded 3) swipe flagged).2.toOption.map
      AuthorizationResponse.actionCode = some "51" := by decide
  rw [hreplay] at hdeclined
  rw [← hsame, Option.some.inj hdeclined] at hcode
  exact absurd hcode (by decide)

end ReplayedAuthorizations
