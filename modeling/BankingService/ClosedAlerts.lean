import BankingService.FraudTriage
import BankingService.ProposalSessions
import BankingService.Remediation

/-! A closed fraud alert stays as it was closed, in every run of the ways to close one, as long as
no triage runs on an alert that is closed already. -/
namespace BankingService.ClosedAlerts

open Python Relational Checked Relation Runs ReadCommitted

abbrev FraudStore := ProposalDb Db (BoundPayload FraudPayload) (Option CaseResult)
abbrev FraudCall := ServiceCall Db FraudPayload (Option CaseResult) FraudInputs
abbrev FraudDigests := ProposalDigests (BoundPayload FraudPayload) (Option CaseResult)

/-- `request` is a request of the proposal service, served alone in at most `n` statements. -/
inductive AlertEvent where
  | triage (env : Ambient) (r : TriageRequest)
  | scenario (env : Ambient) (s : ScenarioAction)
  | resolve (env : Ambient) (authProviderUid resolution : String)
  | expire (env : Ambient) (s : ExpirySweep)
  | request (n : ℕ) (c : FraudCall)

/-- Every definition of the registry is one of fraud triage. -/
def TriageOnly (sha256 : String → String)
    (g : ActionRegistry Db (BoundPayload FraudPayload) (Option CaseResult)) : Prop :=
  ∀ s ∈ g.versions, ∃ env, s.handler = fraudHandler sha256 env

def onBank {α : Type} (store : FraudStore) (call : Db → Except PyException (Db × α)) : FraudStore :=
  { store with bank := (commitOrRollback store.bank (call store.bank)).1 }

/-- The store after a request, if it is answered in at most `n` statements. -/
def served (h : FraudDigests) (n : ℕ) (c : FraudCall) (store : FraudStore) : FraudStore :=
  (((proposalService h).alone (.call c) n store .start).map Prod.fst).getD store

def perform (h : FraudDigests) (store : FraudStore) : AlertEvent → FraudStore
  | .triage env r => onBank store fun db => triageFraudCase h.sha256 db env r
  | .scenario env s => onBank store fun db => executeScenarioCustomerAction h.sha256 db env s
  | .resolve env uid resolution => onBank store fun db =>
    resolveOpenAlertForCustomer db env uid resolution
  | .expire env s => onBank store fun db => expireStaleOpenAlerts db env s
  | .request n c => served h n c store

def alertCalls (h : FraudDigests) : Machine FraudStore AlertEvent where
  Enabled _ e := ∀ n c, e = .request n c → TriageOnly h.sha256 c.catalog.registry
  next := perform h

/-- What was closed is still there, unchanged. -/
def ClosedKept (db db' : Db) : Prop :=
  ∀ id a, db.fraudAlerts.get? id = some a → a.status ≠ .isOpen → db'.fraudAlerts.get? id = some a

theorem ClosedKept.refl (db : Db) : ClosedKept db db := fun _ _ ha _ => ha

theorem ClosedKept.trans {db₁ db₂ db₃ : Db} (h : ClosedKept db₁ db₂) (h' : ClosedKept db₂ db₃) :
    ClosedKept db₁ db₃ := fun id a ha hclosed => h' id a (h id a ha hclosed) hclosed

theorem closedKept_of_open {db db' : Db} (ids : List Uuid)
    (opened : ∀ id ∈ ids, ∀ a, db.fraudAlerts.get? id = some a → a.status = .isOpen)
    (others : ∀ id, id ∉ ids → db'.fraudAlerts.get? id = db.fraudAlerts.get? id) :
    ClosedKept db db' := by
  intro id a ha hclosed
  by_cases hid : id ∈ ids
  · exact absurd (opened id hid a ha) hclosed
  · rw [others id hid]
    exact ha

theorem onBank_keeps {α : Type} {store : FraudStore} {call : Db → Except PyException (Db × α)}
    (settled : AllSettled store)
    (commits : ∀ db' a, call store.bank = .ok (db', a) → ClosedKept store.bank db') :
    AllSettled (onBank store call) ∧ ClosedKept store.bank (onBank store call).bank :=
  ⟨settled, commitOrRollback_keeps (P := ClosedKept store.bank) (.refl _) commits⟩

section
variable {sha256 : String → String} {db db' : Db} {env : Ambient} {r : TriageRequest}

theorem remedyStep_others {alert : FraudAlert} (h : RemedyStep r alert db db') {id : Uuid}
    (hid : id ≠ alert.id) : db'.fraudAlerts.get? id = db.fraudAlerts.get? id := by
  cases h with
  | noted | voided | credited => rfl
  | marked | settled => exact Table.get?_update_of_ne _ hid

theorem remedyPath_others {alert : FraudAlert} (h : RemedyPath r alert db db') {id : Uuid}
    (hid : id ≠ alert.id) : db'.fraudAlerts.get? id = db.fraudAlerts.get? id := by
  induction h with
  | refl => rfl
  | tail _ hstep ih => exact (remedyStep_others hstep hid).trans ih

theorem triageRun_others {alert : FraudAlert} (h : TriageRun r alert db db') {id : Uuid}
    (hid : id ≠ alert.id) : db'.fraudAlerts.get? id = db.fraudAlerts.get? id := by
  cases h with
  | kept path => exact remedyPath_others path hid
  | replaced before replacement after =>
    cases replacement
    rw [remedyPath_others after hid, ← remedyPath_others before hid]
    exact Table.get?_update_of_ne _ hid

/-- The workflow of the call, if it runs, runs on an open alert. -/
def TriagesOpen (sha256 : String → String) (db : Db) (r : TriageRequest) : Prop :=
  ∀ alert, TriageExecutes sha256 db r alert → alert.status = .isOpen

instance (r : TriageRequest) : Decidable (TriagesOpen sha256 db r) :=
  decidable_of_iff (∀ alert ∈ executingAlert? sha256 db r, alert.status = .isOpen)
    (forall_congr' fun _ => by rw [Option.mem_def, ← triageExecutes_iff])

theorem triage_keeps {result : Option CaseResult} (guarded : TriagesOpen sha256 db r)
    (h : triageFraudCase sha256 db env r = .ok (db', result)) : ClosedKept db db' := by
  rcases triageFraudCase_cases h with rfl | ⟨alert, hexec, hrun⟩
  · exact .refl _
  · refine closedKept_of_open [alert.id] ?_ ?_
    · intro id hid a ha
      obtain rfl := List.mem_singleton.mp hid
      obtain rfl : alert = a := Option.some.inj (hexec.stored.symm.trans ha)
      exact guarded alert hexec
    · intro id hid
      exact triageRun_others hrun (fun heq => hid (List.mem_singleton.mpr heq))

def scenarioRequest? (db : Db) (s : ScenarioAction) : Option TriageRequest := do
  let id ← Uuid.parse? s.fraudAlertId
  let alert ← db.fraudAlerts.get? id
  (s.request alert).toOption

theorem scenario_keeps {s : ScenarioAction} {result : ScenarioResult}
    (guarded : ∀ q ∈ scenarioRequest? db s, TriagesOpen sha256 db q)
    (h : executeScenarioCustomerAction sha256 db env s = .ok (db', result)) :
    ClosedKept db db' := by
  simp only [executeScenarioCustomerAction, uuidParam, bind_eq_ok, orRaise_eq_ok] at h
  obtain ⟨id, hid, h⟩ := h
  split at h
  · cases h
    exact .refl _
  · next alert halert =>
    split at h
    · cases h
      exact .refl _
    · next q hq =>
      simp only [bind_eq_ok, pure_eq_ok] at h
      obtain ⟨⟨db₁, result'⟩, htriage, h⟩ := h
      cases h
      refine triage_keeps (guarded q ?_) htriage
      simp [scenarioRequest?, hid, halert, hq, Except.toOption]

theorem latestOpen_status {uid : String} {a : FraudAlert}
    (h : getLatestOpenAlertForCustomer db uid = some a) :
    db.fraudAlerts.get? a.id = some a ∧ a.status = .isOpen := by
  unfold getLatestOpenAlertForCustomer at h
  split at h
  · cases h
  · obtain ⟨hrow, hopen, -⟩ := Table.mem_select.mp (latestAlert_mem h)
    exact ⟨Table.get?_of_mem hrow, hopen⟩

theorem resolve_keeps {uid resolution : String} {result : Option Uuid}
    (h : resolveOpenAlertForCustomer db env uid resolution = .ok (db', result)) :
    ClosedKept db db' := by
  unfold resolveOpenAlertForCustomer at h
  split at h
  · cases h
    exact .refl _
  · next alert halert =>
    simp only [bind_eq_ok, recordAudit_eq_ok, pure_eq_ok] at h
    obtain ⟨db₁, ⟨outbox, -, rfl⟩, h⟩ := h
    cases h
    obtain ⟨hget, hopen⟩ := latestOpen_status halert
    refine closedKept_of_open [alert.id] ?_ ?_
    · intro id hid a ha
      obtain rfl := List.mem_singleton.mp hid
      obtain rfl : alert = a := Option.some.inj (hget.symm.trans ha)
      exact hopen
    · intro id hid
      exact Table.get?_update_of_ne _ (fun heq => hid (List.mem_singleton.mpr heq))

theorem expireAlert_others {maxAge : ℤ} {alert : FraudAlert}
    (h : expireAlert db env maxAge alert = .ok db') {id : Uuid} (hid : id ≠ alert.id) :
    db'.fraudAlerts.get? id = db.fraudAlerts.get? id := by
  simp only [expireAlert, bind_eq_ok, recordAudit_eq_ok] at h
  obtain ⟨db₁, haction, outbox, -, rfl⟩ := h
  have hsame : db₁.fraudAlerts = db.fraudAlerts := by
    unfold createTimeoutAction at haction
    split at haction
    · cases haction
      rfl
    · simp only [bind_eq_ok, pure_eq_ok] at haction
      obtain ⟨actions, -, rfl⟩ := haction
      rfl
  rw [← hsame]
  exact Table.get?_update_of_ne _ hid

theorem expireAll_others {maxAge : ℤ} {alerts : List FraudAlert}
    (h : expireAll db env maxAge alerts = .ok db') {id : Uuid}
    (hid : id ∉ alerts.map fun a => a.id) : db'.fraudAlerts.get? id = db.fraudAlerts.get? id := by
  induction alerts generalizing db env with
  | nil =>
    cases h
    rfl
  | cons a alerts ih =>
    rw [List.map_cons, List.mem_cons, not_or] at hid
    simp only [expireAll, bind_eq_ok] at h
    obtain ⟨db₁, hfirst, hrest⟩ := h
    exact (ih hrest hid.2).trans (expireAlert_others hfirst hid.1)

theorem expire_keeps {s : ExpirySweep} {result : List Uuid}
    (h : expireStaleOpenAlerts db env s = .ok (db', result)) : ClosedKept db db' := by
  unfold expireStaleOpenAlerts at h
  split at h
  · cases h
    exact .refl _
  · simp only [bind_eq_ok, pure_eq_ok] at h
    obtain ⟨db₁, hall, h⟩ := h
    cases h
    refine closedKept_of_open _ ?_ fun id hid => expireAll_others hall hid
    intro id hid a ha
    obtain ⟨b, hb, rfl⟩ := List.mem_map.mp hid
    obtain ⟨hrow, hopen, -⟩ := Table.mem_select.mp
      ((List.mergeSort_perm _ _).mem_iff.mp (List.mem_of_mem_take hb))
    obtain rfl : b = a := Option.some.inj ((Table.get?_of_mem hrow).symm.trans ha)
    exact hopen

theorem commit_keeps {handlerEnv : Uuid → Ambient} {p q : FraudProposal} {executed bank' : Db}
    {result : Option CaseResult}
    (h : HandlerRun (fraudHandler sha256 handlerEnv) p q db executed bank' result) :
    ClosedKept db bank' := by
  obtain ⟨⟨started, hstart, hexec⟩, hrecord, hvalid⟩ := h
  cases hstart
  cases hrecord
  simp only [fraudHandler, fraudValidateCurrentPreconditions, bind_eq_ok, orRaise_eq_ok,
    Option.filter_eq_some_iff, decide_eq_true_eq] at hvalid
  obtain ⟨found, hfound, alert, ⟨rfl, hopen⟩, -⟩ := hvalid
  simp only [fraudHandler, fraudExecute, bind_eq_ok, orRaise_eq_ok, hfound, Except.ok.injEq,
    raised_eq_ok, exists_eq_left', Option.some.injEq] at hexec
  refine triage_keeps ?_ hexec
  intro alert' halert'
  obtain ⟨id, hid, hget⟩ := halert'.found
  simp only [fraudLockedAlert, bind_eq_ok, pure_eq_ok, Option.filter_eq_some_iff] at hfound
  obtain ⟨id', -, hrow, -⟩ := hfound
  have hself : Uuid.parse? alert.id.str = some alert.id := Uuid.parse?_str alert.id
  obtain rfl : alert.id = id := Option.some.inj (hself.symm.trans hid)
  obtain rfl : alert.id = id' := (Table.get?_eq_some.mp hrow).2
  obtain rfl : alert = alert' :=
    Option.some.inj (hrow.symm.trans (Option.filter_eq_some_iff.mp hget).1)
  exact hopen

end

theorem writes_keep {h : FraudDigests} {rows : Uuid → Prop} {store store' : FraudStore}
    (hw : Writes h ⟨TriageOnly h.sha256, fun _ => True⟩ rows store store') :
    ClosedKept store.bank store'.bank := by
  refine hw.bank ClosedKept.refl ClosedKept.trans ?_
  intro registry specification p q now bank executed bank' result admitted registered run
  obtain ⟨env, henv⟩ := admitted specification (forProposal_mem registered)
  rw [henv] at run
  exact commit_keeps run

theorem request_keeps {h : FraudDigests} {n : ℕ} {c : FraudCall} {store : FraudStore}
    (settled : AllSettled store) (admitted : TriageOnly h.sha256 c.catalog.registry) :
    AllSettled (served h n c store) ∧ ClosedKept store.bank (served h n c store).bank := by
  unfold served
  cases hserved : (proposalService h).alone (.call c) n store .start with
  | none => exact ⟨settled, .refl _⟩
  | some v =>
    obtain ⟨store', answer⟩ := v
    obtain ⟨m, hrun, hlast, -⟩ := run_of_alone_start
      (A := ServiceRequest.Uses ⟨TriageOnly h.sha256, fun _ => True⟩) ⟨admitted, trivial⟩ hserved
    have hthroughout := service_throughout (P := fun v => ClosedKept store.bank v.bank)
      (fun _ _ hw hkept => hkept.trans (writes_keep hw)) (informed_quiet settled) (.refl _) hrun
    obtain ⟨hinformed, hkept⟩ := hthroughout.last
    have hsettled := hinformed.db
    rw [hlast] at hkept hsettled
    exact ⟨hsettled, hkept⟩

/-- A triage that is called for, alone or for a scripted customer, does not run its workflow on a
closed alert. -/
def NoneReopened (h : FraudDigests) (store : FraudStore) : AlertEvent → Prop
  | .triage _ r => TriagesOpen h.sha256 store.bank r
  | .scenario _ s => ∀ r ∈ scenarioRequest? store.bank s, TriagesOpen h.sha256 store.bank r
  | .resolve _ _ _ | .expire _ _ | .request _ _ => True

instance (h : FraudDigests) (store : FraudStore) : DecidablePred (NoneReopened h store)
  | .triage _ r => inferInstanceAs (Decidable (TriagesOpen h.sha256 store.bank r))
  | .scenario _ s =>
    inferInstanceAs
      (Decidable (∀ r ∈ scenarioRequest? store.bank s, TriagesOpen h.sha256 store.bank r))
  | .resolve _ _ _ | .expire _ _ | .request _ _ => isTrue trivial

theorem step_keeps {h : FraudDigests} {store : FraudStore} {e : AlertEvent}
    (settled : AllSettled store) (enabled : (alertCalls h).Enabled store e)
    (guarded : NoneReopened h store e) :
    AllSettled (perform h store e) ∧ ClosedKept store.bank (perform h store e).bank := by
  cases e with
  | triage env r =>
    rw [perform]
    exact onBank_keeps settled fun _ _ hok => triage_keeps guarded hok
  | scenario env s =>
    rw [perform]
    exact onBank_keeps settled fun _ _ hok => scenario_keeps guarded hok
  | resolve env uid resolution =>
    rw [perform]
    exact onBank_keeps settled fun _ _ hok => resolve_keeps hok
  | expire env s =>
    rw [perform]
    exact onBank_keeps settled fun _ _ hok => expire_keeps hok
  | request n c => exact request_keeps settled (enabled n c rfl)

theorem run_keeps {h : FraudDigests} {start : FraudStore} {es : List AlertEvent}
    (settled : AllSettled start) (run : (alertCalls h).Run start es)
    (guarded : (alertCalls h).Each (NoneReopened h) start es) :
    AllSettled ((alertCalls h).final start es) ∧
      ClosedKept start.bank ((alertCalls h).final start es).bank := by
  refine final_of_each (P := fun v => AllSettled v ∧ ClosedKept start.bank v.bank) ?_
    ⟨settled, .refl _⟩ (Machine.Each.and run guarded)
  rintro v e ⟨hv, hkept⟩ ⟨enabled, hguard⟩
  obtain ⟨hsettled, hstep⟩ := step_keeps hv enabled hguard
  exact ⟨hsettled, hkept.trans hstep⟩

/-- In a run in which no triage runs on a closed alert, an alert that is closed at any point has
the same status, and the same row altogether, at every later point. -/
theorem closed_for_good {h : FraudDigests} {start : FraudStore} {es fs : List AlertEvent}
    (settled : AllSettled start) (run : (alertCalls h).Run start (es ++ fs))
    (guarded : (alertCalls h).Each (NoneReopened h) start (es ++ fs)) :
    ∀ id a, ((alertCalls h).final start es).bank.fraudAlerts.get? id = some a →
      a.status ≠ .isOpen →
      ((alertCalls h).final start (es ++ fs)).bank.fraudAlerts.get? id = some a := by
  obtain ⟨hrun, hrest⟩ := Machine.each_append.mp run
  obtain ⟨hguard, hguards⟩ := Machine.each_append.mp guarded
  rw [Machine.final_append]
  exact (run_keeps (run_keeps settled hrun hguard).1 hrest hguards).2

def recognition : TriageRequest :=
  ⟨"customer-7", (Uuid.ofNat 30).str, [], [], false, false, some "recognized"⟩

def dispute : TriageRequest :=
  ⟨"customer-7", (Uuid.ofNat 30).str, [(Uuid.ofNat 20).str], [], true, false, some "disputed"⟩

/-- Called again, resolved, swept and proposed once more after it was closed. -/
def afterwards : List AlertEvent :=
  [.triage (.seeded 2) recognition, .resolve (.seeded 3) "customer-7" "false_positive",
    .expire (.seeded 4000000000) {}, .request 20 fraudPreparation]

theorem recognized_stays_closed :
    ∃ a, ((alertCalls fraudDigests).final fraudStore
      [.triage (.seeded 1) recognition]).bank.fraudAlerts.get?
        (.ofNat 30) = some a ∧ a.status = .resolved "CUSTOMER_RECOGNIZED" ∧
      ((alertCalls fraudDigests).final fraudStore
        (.triage (.seeded 1) recognition :: afterwards)).bank.fraudAlerts.get?
          (.ofNat 30) = some a := by
  have hclosed : ((((alertCalls fraudDigests).final fraudStore
      [.triage (.seeded 1) recognition]).bank.fraudAlerts.get? (.ofNat 30)).map fun a => a.status) =
      some (.resolved "CUSTOMER_RECOGNIZED") := by decide +kernel
  obtain ⟨a, ha, hstatus⟩ := Option.map_eq_some_iff.mp hclosed
  refine ⟨a, ha, hstatus, ?_⟩
  refine @closed_for_good fraudDigests fraudStore [.triage (.seeded 1) recognition] afterwards
    (fun _ hp => absurd hp List.not_mem_nil) ?_ (by decide +kernel) (.ofNat 30) a ha
    (by rw [hstatus]; decide)
  have hregistry : TriageOnly fraudDigests.sha256 fraudPreparation.catalog.registry := by
    intro s hs
    obtain rfl := List.mem_singleton.mp hs
    exact ⟨_, rfl⟩
  refine ⟨?_, ?_, ?_, ?_, ?_, trivial⟩
  all_goals
    rintro n c ⟨⟩
  exact hregistry

/-- A resolved alert is triaged to another outcome, under another key. -/
theorem recognized_alert_is_triaged_again :
    let closing : List AlertEvent := [.triage (.seeded 1) recognition]
    (alertCalls fraudDigests).Run fraudStore (closing ++ [.triage (.seeded 2) dispute]) ∧
      ((((alertCalls fraudDigests).final fraudStore closing).bank.fraudAlerts.get?
        (.ofNat 30)).map fun a => a.status) = some (.resolved "CUSTOMER_RECOGNIZED") ∧
      ((((alertCalls fraudDigests).final fraudStore
        (closing ++ [.triage (.seeded 2) dispute])).bank.fraudAlerts.get? (.ofNat 30)).map
          fun a => a.status) = some .triagedPendingReview := by
  refine ⟨⟨?_, ?_, trivial⟩, by decide +kernel, by decide +kernel⟩
  all_goals
    rintro n c ⟨⟩

end BankingService.ClosedAlerts
