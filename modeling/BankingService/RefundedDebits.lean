import BankingService.FraudTriage
import BankingService.Operations
import BankingService.Remediation

/-! Money given back for one posted debit, by reversals, provisional credits and triage. Each
operation looks for entries of its own kind only, under the id as the caller spelled it. What is
given back stays within the debit while no call gets past its own check for a debit that has been
given back in some other way. -/
namespace BankingService.RefundedDebits

open Python Relational Checked Relation Runs

def RefersTo (id : Uuid) (p : PostedTransaction) : Prop :=
  p.reference? "FEE_REVERSAL_REF_" = some id ∨ p.reference? "REVERSAL_REF_" = some id ∨
    p.reference? "FRAUD_PROVISIONAL_CREDIT_REF_" = some id

instance (id : Uuid) : DecidablePred (RefersTo id) := fun _ =>
  inferInstanceAs (Decidable (_ ∨ _ ∨ _))

/-- What was given back for the posted transaction. -/
def returned (db : Db) (id : Uuid) : ℤ :=
  db.postedTransactions.total fun p => if RefersTo id p then p.amountCents else 0

theorem reference?_of_unlike (other : String) {head text : String} {p : PostedTransaction}
    (h : p.description = head ++ text) (hout : ¬ other.toList <+: head.toList)
    (hin : ¬ head.toList <+: other.toList) : p.reference? other = none := by
  have hlist : p.description.toList = head.toList ++ text.toList := by
    rw [h, String.toList_append]
  have hprefix : ¬ other.toList <+: p.description.toList := by
    rw [hlist]
    intro hother
    rcases List.prefix_or_prefix_of_prefix hother (List.prefix_append _ _) with hp | hp
    · exact hout hp
    · exact hin hp
  rw [PostedTransaction.reference?, if_neg hprefix]

section
variable {p : PostedTransaction} {text : String} {id : Uuid}

theorem refersTo_reversal (h : p.description = reversalDescriptionOld text ∨
    p.description = reversalDescriptionNew text) :
    RefersTo id p ↔ Uuid.parse? text = some id := by
  unfold RefersTo
  rcases h with h | h
  · rw [reference?_append h, reference?_of_unlike "REVERSAL_REF_" h (by decide) (by decide),
      reference?_of_unlike "FRAUD_PROVISIONAL_CREDIT_REF_" h (by decide) (by decide)]
    simp
  · rw [reference?_append h, reference?_of_unlike "FEE_REVERSAL_REF_" h (by decide) (by decide),
      reference?_of_unlike "FRAUD_PROVISIONAL_CREDIT_REF_" h (by decide) (by decide)]
    simp

theorem refersTo_provisionalCredit (h : p.description = provisionalCreditDescription text) :
    RefersTo id p ↔ Uuid.parse? text = some id := by
  unfold RefersTo
  rw [reference?_append h, reference?_of_unlike "REVERSAL_REF_" h (by decide) (by decide),
    reference?_of_unlike "FEE_REVERSAL_REF_" h (by decide) (by decide)]
  simp

end

/-- The debit is on the books, and no more than it was given back. -/
structure Covered (d : PostedTransaction) (db : Db) : Prop where
  stored : db.postedTransactions.get? d.id = some d
  within : returned db d.id ≤ |d.amountCents|

section
variable {d statement original : PostedTransaction} {db db' : Db} {account id : Uuid}
  {text : String}

theorem returned_insert (h : db.postedTransactions.insert? statement = some db'.postedTransactions)
    (id : Uuid) : returned db' id =
      returned db id + if RefersTo id statement then statement.amountCents else 0 :=
  Table.total_insert h _

theorem returned_credit (hd : Covered d db) (found : ∃ id, Uuid.parse? text = some id ∧
      getLedgerEntryByIdForAccount db id account = some original)
    (refers : RefersTo d.id statement ↔ Uuid.parse? text = some d.id)
    (amount : statement.amountCents = |original.amountCents|)
    (inserted : db.postedTransactions.insert? statement = some db'.postedTransactions) :
    returned db' d.id =
      returned db d.id + if Uuid.parse? text = some d.id then |d.amountCents| else 0 := by
  rw [returned_insert inserted]
  by_cases hnames : Uuid.parse? text = some d.id
  · obtain ⟨id, hid, hfound⟩ := found
    obtain rfl : d.id = id := Option.some.inj (hnames.symm.trans hid)
    have hrow := (Option.filter_eq_some_iff.mp hfound).1
    obtain rfl : d = original := Option.some.inj (hd.stored.symm.trans hrow)
    rw [if_pos (refers.mpr hnames), if_pos hnames, amount]
  · rw [if_neg fun hr => hnames (refers.mp hr), if_neg hnames]

theorem covered_credit (hd : Covered d db) (found : ∃ id, Uuid.parse? text = some id ∧
      getLedgerEntryByIdForAccount db id account = some original)
    (refers : RefersTo d.id statement ↔ Uuid.parse? text = some d.id)
    (amount : statement.amountCents = |original.amountCents|)
    (inserted : db.postedTransactions.insert? statement = some db'.postedTransactions)
    (first : Uuid.parse? text = some d.id → returned db d.id = 0) : Covered d db' := by
  refine ⟨Table.get?_insert_of_some inserted hd.stored, ?_⟩
  rw [returned_credit hd found refers amount inserted]
  by_cases hnames : Uuid.parse? text = some d.id
  · rw [if_pos hnames, first hnames, zero_add]
  · rw [if_neg hnames, add_zero]
    exact hd.within

theorem covered_congr (hd : Covered d db) (h : db'.postedTransactions = db.postedTransactions) :
    Covered d db' := by
  refine ⟨?_, ?_⟩
  · rw [h]
    exact hd.stored
  · rw [returned, h]
    exact hd.within

end

/-- The texts name the debit in one way only. -/
def OneSpelling (id : Uuid) (texts : List String) : Prop :=
  ∀ text ∈ texts, ∀ other ∈ texts, Uuid.parse? text = some id → Uuid.parse? other = some id →
    text = other

/-- The text names the debit only where its credit would be the first money given back. -/
def FirstUnder (d : PostedTransaction) (account : Uuid) (text : String) (db : Db) : Prop :=
  Uuid.parse? text = some d.id → getFraudProvisionalCreditEntry db account text = none →
    returned db d.id = 0

section
variable {r : TriageRequest} {alert : FraudAlert} {d : PostedTransaction} {db db' : Db}

/-- What holds of the debit between the steps of a triage. -/
structure InTriage (d : PostedTransaction) (r : TriageRequest) (alert : FraudAlert) (db : Db) :
    Prop where
  covered : Covered d db
  first : ∀ text ∈ r.disputedTransactionIds, FirstUnder d alert.creditAccountId text db

theorem inTriage_congr (h : InTriage d r alert db)
    (hp : db'.postedTransactions = db.postedTransactions) : InTriage d r alert db' := by
  refine ⟨covered_congr h.covered hp, ?_⟩
  intro text htext hnames hnone
  rw [getFraudProvisionalCreditEntry, hp] at hnone
  rw [returned, hp]
  exact h.first text htext hnames hnone

theorem inTriage_step (spelling : OneSpelling d.id r.disputedTransactionIds)
    (h : InTriage d r alert db) (hstep : RemedyStep r alert db db') : InTriage d r alert db' := by
  cases hstep with
  | noted | voided | marked | settled => exact inTriage_congr h rfl
  | @credited text id original statement _ rows _ _ _ _ _ disputed parsed found debit uncredited
      account authorization amount description inserted events =>
    have refers : RefersTo d.id statement ↔ Uuid.parse? text = some d.id :=
      refersTo_provisionalCredit description
    have hentry : ∀ other, rows.first? (fun p => p.accountId = alert.creditAccountId ∧
        p.authorizationId = none ∧ p.description = provisionalCreditDescription other) = none →
        getFraudProvisionalCreditEntry db alert.creditAccountId other = none ∧ other ≠ text := by
      intro other hnone
      rw [Table.first?_insert inserted, Option.or_eq_none_iff] at hnone
      refine ⟨hnone.1, ?_⟩
      rintro rfl
      simp [account, authorization, description] at hnone
    refine ⟨covered_credit h.covered ⟨id, parsed, found⟩ refers amount inserted
      fun hnames => h.first text disputed hnames uncredited, ?_⟩
    intro other hother hnames hnone
    obtain ⟨hbefore, hne⟩ := hentry other hnone
    have hunnamed : Uuid.parse? text ≠ some d.id :=
      fun htext => hne (spelling other hother text disputed hnames htext)
    rw [returned_credit h.covered ⟨id, parsed, found⟩ refers amount inserted, if_neg hunnamed,
      add_zero]
    exact h.first other hother hnames hbefore

theorem inTriage_path (spelling : OneSpelling d.id r.disputedTransactionIds)
    (h : InTriage d r alert db) (path : RemedyPath r alert db db') : InTriage d r alert db' := by
  induction path with
  | refl => exact h
  | tail _ hstep ih => exact inTriage_step spelling ih hstep

theorem inTriage_run (spelling : OneSpelling d.id r.disputedTransactionIds)
    (h : InTriage d r alert db) (run : TriageRun r alert db db') : InTriage d r alert db' := by
  cases run with
  | kept path => exact inTriage_path spelling h path
  | replaced before replacement after =>
    refine inTriage_path spelling ?_ after
    cases replacement with
    | replaced => exact inTriage_congr (inTriage_path spelling h before) rfl

end

def GivesBack : Operation → Prop
  | .reversePostedFee _ _ | .applyFraudProvisionalCredit _ _ _ | .triageFraudCase _ => True
  | _ => False

/-- A call that names the debit and finds no entry of its own kind under that text finds that
nothing was given back for the debit. The texts of one triage name it in one way. -/
def FirstToGiveBack (sha256 : String → String) (d : PostedTransaction) (db : Db)
    (e : Ambient × Operation) : Prop :=
  match e.2 with
  | .reversePostedFee account text => Uuid.parse? text = some d.id →
      getReversalEntry db account text = none → returned db d.id = 0
  | .applyFraudProvisionalCredit account text _ => FirstUnder d account text db
  | .triageFraudCase r => ∀ alert, TriageExecutes sha256 db r alert →
      OneSpelling d.id r.disputedTransactionIds ∧
        ∀ text ∈ r.disputedTransactionIds, FirstUnder d alert.creditAccountId text db
  | _ => True

section
variable {sha256 : String → String} {d : PostedTransaction} {db : Db} {e : Ambient × Operation}

theorem reversal_covered {db' : Db} {env : Ambient} {account : Uuid} {text : String}
    {result : FeeReversalResult} (hd : Covered d db)
    (first : Uuid.parse? text = some d.id → getReversalEntry db account text = none →
      returned db d.id = 0)
    (h : reversePostedFee db env account text = .ok (db', result)) : Covered d db' := by
  simp only [reversePostedFee, lockedAccount, bind_eq_ok, orRaise_eq_ok] at h
  obtain ⟨row, hrow, h⟩ := h
  obtain ⟨original, updated, statement, hreversed⟩ := feeReversed_of_ok h
  obtain ⟨money, -, hposting⟩ := hreversed.posting
  obtain ⟨-, -, amount, description⟩ := hreversed.statement
  have hid : row.id = account := (Table.get?_eq_some.mp hrow).2
  exact covered_credit hd hreversed.found (refersTo_reversal description) amount hposting.posted
    fun hnames => first hnames (hid ▸ hreversed.unreversed)

theorem provisionalCredit_covered {db' : Db} {env : Ambient} {account alert : Uuid} {text : String}
    {result : ProvisionalCreditResult} (hd : Covered d db) (first : FirstUnder d account text db)
    (h : creditOnAccount db env account text alert = .ok (db', result)) : Covered d db' := by
  simp only [creditOnAccount, bind_eq_ok, pure_eq_ok] at h
  obtain ⟨row, hrow, ⟨db₁, updated, result'⟩, hcredit, h⟩ := h
  cases h
  rcases applyFraudProvisionalCredit_cases hcredit with ⟨hsame, -⟩ | ⟨-, hcredit⟩
  · rw [hsame]
    exact hd
  · obtain ⟨original, statement, hcredited⟩ := provisionallyCredited_of_ok hcredit
    obtain ⟨money, -, hposting⟩ := hcredited.posting
    obtain ⟨-, -, amount, description⟩ := hcredited.statement
    have hid : row.id = account := (Table.get?_eq_some.mp (remediatedAccount_eq_ok hrow)).2
    exact covered_credit hd hcredited.found (refersTo_provisionalCredit description) amount
      hposting.posted fun hnames => first hnames (hid ▸ hcredited.uncredited)

theorem triage_covered {db' : Db} {env : Ambient} {r : TriageRequest}
    {result : Option CaseResult} (hd : Covered d db)
    (first : ∀ alert, TriageExecutes sha256 db r alert → OneSpelling d.id r.disputedTransactionIds ∧
      ∀ text ∈ r.disputedTransactionIds, FirstUnder d alert.creditAccountId text db)
    (h : triageFraudCase sha256 db env r = .ok (db', result)) : Covered d db' := by
  rcases triageFraudCase_cases h with hsame | ⟨alert, hexec, hrun⟩
  · rw [hsame]
    exact hd
  · obtain ⟨spelling, hfirst⟩ := first alert hexec
    exact (inTriage_run spelling ⟨hd, hfirst⟩ hrun).covered

theorem call_covered (hd : Covered d db) (he : GivesBack e.2)
    (first : FirstToGiveBack sha256 d db e) : Covered d (perform sha256 db e.1 e.2).1 := by
  obtain ⟨env, operation⟩ := e
  cases operation with
  | reversePostedFee account text =>
    simp only [perform, outcome]
    exact commitOrRollback_keeps hd fun _ _ hok => reversal_covered hd first hok
  | applyFraudProvisionalCredit account text alert =>
    simp only [perform, outcome]
    exact commitOrRollback_keeps hd fun _ _ hok => provisionalCredit_covered hd first hok
  | triageFraudCase r =>
    simp only [perform, outcome]
    exact commitOrRollback_keeps hd fun _ _ hok => triage_covered hd first hok
  | _ => exact absurd he id

end

/-- In a run of reversals, provisional credits and triages in which no call gets past its own
check for a debit that was given back before, the credits that reference a posted debit never
exceed it. -/
theorem given_back_within_debit {sha256 : String → String} {d : PostedTransaction} {start : Db}
    {es : List (Ambient × Operation)} (stored : start.postedTransactions.get? d.id = some d)
    (within : returned start d.id ≤ |d.amountCents|)
    (run : (operations sha256 GivesBack).Run start es)
    (first : (operations sha256 GivesBack).Each (FirstToGiveBack sha256 d) start es) :
    (operations sha256 GivesBack).Throughout (fun db => returned db d.id ≤ |d.amountCents|)
      start es := by
  have hcovered : (operations sha256 GivesBack).Throughout (Covered d) start es := by
    refine throughout_of_each ?_ ⟨stored, within⟩ (Machine.Each.and run first)
    rintro db e hd ⟨he, hfirst⟩
    exact call_covered hd he hfirst
  exact hcovered.mono fun _ hd => hd.within

def purchase : PostedTransaction :=
  { id := .ofNat 50, accountId := .ofNat 1, authorizationId := none, journalTransactionId := none,
    authCode := none, retrievalReferenceNumber := none, amountCents := -5000,
    description := "GROCERIES", postedAt := 0 }

def purchaseDb : Db :=
  { fraudDb with postedTransactions := ⟨[purchase], List.pairwise_singleton _ _⟩ }

def credited (seed : ℕ) : Ambient × Operation :=
  (.seeded seed, .applyFraudProvisionalCredit (.ofNat 1) (Uuid.ofNat 50).str (.ofNat 30))

def reversed (seed : ℕ) : Ambient × Operation :=
  (.seeded seed, .reversePostedFee (.ofNat 1) (Uuid.ofNat 50).str)

theorem givesBack_run {sha256 : String → String} {es : List (Ambient × Operation)}
    (h : ∀ e ∈ es, GivesBack e.2) (start : Db) : (operations sha256 GivesBack).Run start es :=
  each_of_forall (C := fun e : Ambient × Operation => GivesBack e.2) h start

/-- Credited, and credited once more under the same alert: the second call finds the first. -/
theorem credited_twice_within_debit :
    (operations fraudDigests.sha256 GivesBack).Throughout
      (fun db => returned db purchase.id ≤ |purchase.amountCents|) purchaseDb
      [credited 1, credited 2] := by
  have hrun : (operations fraudDigests.sha256 GivesBack).Run purchaseDb [credited 1, credited 2] :=
    givesBack_run (by simp [credited, GivesBack]) _
  refine given_back_within_debit (by decide +kernel) (by decide +kernel) hrun ⟨?_, ?_, trivial⟩
  · intro _ _
    decide +kernel
  · intro _ hnone
    exact absurd hnone (by decide +kernel)

/-- A provisional credit and a reversal give back twice the debit. -/
theorem credited_and_reversed :
    (operations fraudDigests.sha256 GivesBack).Run purchaseDb [credited 1, reversed 2] ∧
      purchaseDb.postedTransactions.get? purchase.id = some purchase ∧
      returned purchaseDb purchase.id = 0 ∧ |purchase.amountCents| = 5000 ∧
      returned ((operations fraudDigests.sha256 GivesBack).final purchaseDb
        [credited 1, reversed 2]) purchase.id = 10000 := by
  refine ⟨givesBack_run (by simp [credited, reversed, GivesBack]) _, by decide +kernel,
    by decide +kernel, by decide, by decide +kernel⟩

end BankingService.RefundedDebits
