import BankingService.ScheduledEvents

/-! Scheduled events that are canceled while they are being delivered. A worker does not look at the
status that its event was marked with, and no update of a row looks at the status it replaces. -/
namespace CanceledEvents

open BankingService BankingService.Scheduler Python Relational Runs ReadCommitted

abbrev SchedulerWorld := World ℕ Store Seen Uuid Reply

abbrev SchedulerEvent := Event ℕ Call

abbrev scheduling : Machine SchedulerWorld SchedulerEvent := machine scheduler fun _ => True

def statusOf (db : Store) (id : Uuid) : Option EventStatus :=
  (db.events.get? id).map SyntheticScheduledEvent.status

def sentFor (db : Store) (id : Uuid) : List (Uuid × BankRequest) :=
  db.sent.filter fun x => x.1 = id

/-- A succeeded or canceled event keeps its status, and for a canceled one nothing more is sent. -/
def Kept (db db' : Store) : Prop :=
  ∀ id s, statusOf db id = some s → s.Terminal →
    statusOf db' id = some s ∧ (s = .canceled → sentFor db' id = sentFor db id)

theorem Kept.refl (db : Store) : Kept db db := fun _ _ h _ => ⟨h, fun _ => rfl⟩

theorem Kept.trans {a b c : Store} (h : Kept a b) (k : Kept b c) : Kept a c := by
  intro id s hs ht
  obtain ⟨hb, hsent⟩ := h id s hs ht
  obtain ⟨hc, hsent'⟩ := k id s hb ht
  exact ⟨hc, fun hcanceled => (hsent' hcanceled).trans (hsent hcanceled)⟩

variable {db db' : Store}

theorem statusOf_update {id id' : Uuid} {f : SyntheticScheduledEvent → SyntheticScheduledEvent}
    (key : ∀ e, (f e).id = e.id) (status : EventStatus → EventStatus)
    (hf : ∀ e, (f e).status = status e.status) :
    statusOf (db.update id f key) id' =
      if id' = id then (statusOf db id').map status else statusOf db id' := by
  unfold statusOf Store.update
  dsimp only
  rw [Table.get?_update f key fun a _ h => (key a).symm.trans h]
  by_cases hid : id' = id
  · rw [if_pos hid, if_pos hid, hid, Option.map_map, Option.map_map]
    exact congrArg (fun g => (db.events.get? id).map g) (funext hf)
  · rw [if_neg hid, if_neg hid]

theorem statusOf_markDispatching {now : Timestamp} {loaded : SyntheticScheduledEvent} {id : Uuid} :
    statusOf (markDispatching db now loaded) id =
      if id = loaded.id ∧ ¬ loaded.status.Terminal then
        (statusOf db id).map (writtenStatus loaded.status .dispatching)
      else statusOf db id := by
  unfold markDispatching
  by_cases ht : loaded.status.Terminal
  · rw [if_pos ht, if_neg (fun h => h.2 ht)]
  · rw [if_neg ht, statusOf_update _ (writtenStatus loaded.status .dispatching) fun _ => rfl]
    simp [ht]

theorem statusOf_record {now : Timestamp} {loaded : SyntheticScheduledEvent} {report : Report}
    {id : Uuid} : statusOf (record db now loaded report) id =
      if id = loaded.id then (statusOf db id).map (writtenStatus loaded.status report.status)
      else statusOf db id := by
  cases report with
  | succeeded result =>
    rw [record, statusOf_update _ (writtenStatus loaded.status .succeeded) fun _ => rfl]
    rfl
  | failed error result =>
    rw [record, statusOf_update _ (writtenStatus loaded.status .failed) fun _ => rfl]
    rfl

theorem sent_markDispatching {now : Timestamp} {loaded : SyntheticScheduledEvent} :
    (markDispatching db now loaded).sent = db.sent := by
  unfold markDispatching
  split <;> rfl

theorem sent_record {now : Timestamp} {loaded : SyntheticScheduledEvent} {report : Report} :
    (record db now loaded report).sent = db.sent := by
  cases report <;> rfl

theorem sent_canceled {now : Timestamp} {events : List SyntheticScheduledEvent} :
    (events.foldl (cancelEvent now) db).sent = db.sent := by
  induction events generalizing db with
  | nil => rfl
  | cons e events ih =>
    rw [List.foldl_cons, ih]
    rfl

theorem statusOf_unselected {now : Timestamp} {events : List SyntheticScheduledEvent} {id : Uuid}
    (hfree : ∀ e ∈ events, e.id ≠ id) :
    statusOf (events.foldl (cancelEvent now) db) id = statusOf db id := by
  induction events generalizing db with
  | nil => rfl
  | cons e events ih =>
    rw [List.foldl_cons, ih fun x hx => hfree x (List.mem_cons_of_mem _ hx), cancelEvent,
      statusOf_update _ (writtenStatus e.status .canceled) fun _ => rfl]
    exact if_neg fun h => hfree e List.mem_cons_self h.symm

theorem statusOf_canceled {now : Timestamp} {events : List SyntheticScheduledEvent} {id : Uuid}
    (h : statusOf db id = some .canceled) :
    statusOf (events.foldl (cancelEvent now) db) id = some .canceled := by
  induction events generalizing db with
  | nil => exact h
  | cons e events ih =>
    rw [List.foldl_cons]
    refine ih ?_
    rw [cancelEvent, statusOf_update _ (writtenStatus e.status .canceled) fun _ => rfl, h]
    simp [writtenStatus]

/-- The delivery of the event has been marked and has not been reported. -/
def Underway (id : Uuid) : Session Seen → Prop
  | ⟨.deliver d, .marked⟩ | ⟨.deliver d, .recorded _⟩ | ⟨.deliver d, .contextRead _ _⟩
  | ⟨.deliver d, .reporting _⟩ | ⟨.deliver d, .reportFound _ _⟩ => d.id = id
  | _ => False

/-- When a delivery is marked its event is not canceled, no update replaces SUCCEEDED, and nothing
that has been marked meanwhile is canceled. -/
def Undisturbed (w : SchedulerWorld) : Session Seen → Prop
  | ⟨.deliver d, .found loaded⟩ => ∀ s, statusOf w.db d.id = some s → s ≠ .canceled ∧
      (s = .succeeded → loaded.status = .succeeded ∨ loaded.status = .dispatching)
  | ⟨.deliver d, .reportFound report (some loaded)⟩ =>
    statusOf w.db d.id = some .succeeded →
      report.status = .succeeded ∨ loaded.status = report.status
  | ⟨.cancel _ _, .selected events⟩ => ∀ e ∈ events, statusOf w.db e.id ≠ some .succeeded ∧
      ∀ i s, w.session i = some s → ¬ Underway e.id s
  | _ => True

def OwnRow : Session Seen → Prop
  | ⟨.deliver d, .found loaded⟩ | ⟨.deliver d, .reportFound _ (some loaded)⟩ => loaded.id = d.id
  | _ => True

/-- No event is canceled while a delivery of it is under way. -/
structure Steady (w : SchedulerWorld) : Prop where
  underway : ∀ i s id, w.session i = some s → Underway id s → statusOf w.db id ≠ some .canceled
  ownRow : ∀ i s, w.session i = some s → OwnRow s

theorem underway_observe {r : Call} {t : Seen r} {id : Uuid}
    (h : Underway id ⟨r, scheduler.observe db r t⟩) : Underway id ⟨r, t⟩ := by
  cases r with
  | deliver d =>
    cases t with
    | snapshot event =>
      cases event with
      | none => exact h
      | some e =>
        simp only [scheduler, DeliverySeen.observe] at h
        split at h <;> exact h.elim
    | recorded event => cases event <;> exact h
    | reportFound report loaded => exact h
    | _ => exact h
  | cancel scheduleId now => cases t <;> exact h.elim

theorem ownRow_observe {r : Call} {t : Seen r} (h : OwnRow ⟨r, t⟩) :
    OwnRow ⟨r, scheduler.observe db r t⟩ := by
  cases r with
  | deliver d =>
    cases t with
    | snapshot event =>
      cases event with
      | none => trivial
      | some e =>
        simp only [scheduler, DeliverySeen.observe]
        split
        · next loaded hget => exact (Table.get?_eq_some.mp hget).2
        · trivial
    | recorded event => cases event <;> trivial
    | reporting report =>
      cases hget : db.events.get? d.id with
      | none =>
        simp only [scheduler, DeliverySeen.observe, hget]
        trivial
      | some loaded =>
        simp only [scheduler, DeliverySeen.observe, hget]
        exact (Table.get?_eq_some.mp hget).2
    | reportFound report loaded => exact h
    | found loaded => exact h
    | _ => trivial
  | cancel scheduleId now => trivial

theorem kept_of_status (hsent : db'.sent = db.sent)
    (hstatus : ∀ id s, statusOf db id = some s → s.Terminal → statusOf db' id = some s) :
    Kept db db' := by
  intro id s hs ht
  refine ⟨hstatus id s hs ht, fun _ => ?_⟩
  unfold sentFor
  rw [hsent]

theorem kept_of_send {d : Delivery} {e : SyntheticScheduledEvent}
    {context : List SyntheticScheduledEvent} (h : statusOf db d.id ≠ some .canceled) :
    Kept db (DeliverySeen.send db d e context).db := by
  unfold DeliverySeen.send
  split
  · intro id s hs ht
    refine ⟨hs, fun hcanceled => ?_⟩
    subst hcanceled
    have hne : d.id ≠ id := fun heq => h (heq ▸ hs)
    simp [Outcome.db, sentFor, hne]
  · exact Kept.refl db

theorem run_kept {w : SchedulerWorld} {i : ℕ} {r : Call} {t : Seen r} (hw : Steady w)
    (hi : w.session i = some ⟨r, t⟩) (hu : Undisturbed w ⟨r, t⟩) :
    Kept w.db (scheduler.body w.db r t).db := by
  have unchanged : Kept w.db w.db := Kept.refl w.db
  cases r with
  | deliver d =>
    cases t with
    | found loaded =>
      have hid : loaded.id = d.id := hw.ownRow i _ hi
      refine kept_of_status sent_markDispatching ?_
      intro id s hs ht
      change statusOf (markDispatching w.db d.now loaded) id = some s
      rw [statusOf_markDispatching]
      split
      · next hwrites =>
        obtain ⟨heq, hlive⟩ := hwrites
        obtain ⟨hne, hsucceeded⟩ := hu s (by rw [← hid, ← heq]; exact hs)
        have hs' : s = .succeeded := ht.resolve_right hne
        rcases hsucceeded hs' with hloaded | hloaded
        · exact absurd (Or.inl hloaded) hlive
        · rw [hs, hloaded]
          simp [writtenStatus]
      · exact hs
    | recorded event =>
      cases event with
      | none => exact unchanged
      | some e =>
        simp only [scheduler, DeliverySeen.body]
        split
        · exact kept_of_send (hw.underway i _ d.id hi rfl)
        · exact unchanged
    | contextRead e context => exact kept_of_send (hw.underway i _ d.id hi rfl)
    | reportFound report event =>
      cases event with
      | none => exact unchanged
      | some loaded =>
        have hid : loaded.id = d.id := hw.ownRow i _ hi
        refine kept_of_status sent_record ?_
        intro id s hs ht
        change statusOf (record w.db d.now loaded report) id = some s
        rw [statusOf_record]
        by_cases heq : id = loaded.id
        · rw [if_pos heq, hs]
          rw [heq, hid] at hs
          have hne : s ≠ .canceled := fun hc =>
            hw.underway i _ d.id hi rfl (hc ▸ hs)
          have hs' : s = .succeeded := ht.resolve_right hne
          subst hs'
          rcases hu hs with hreport | hsame
          · simp [writtenStatus, hreport]
          · simp [writtenStatus, hsame]
        · rw [if_neg heq]
          exact hs
    | snapshot event => cases event <;> exact unchanged
    | _ => exact unchanged
  | cancel scheduleId now =>
    cases t with
    | start => exact unchanged
    | selected events =>
      refine kept_of_status sent_canceled ?_
      intro id s hs ht
      change statusOf (events.foldl (cancelEvent now) w.db) id = some s
      rcases ht with rfl | rfl
      · rw [statusOf_unselected fun e he heq => (hu e he).1 (heq ▸ hs)]
        exact hs
      · exact statusOf_canceled hs

theorem canceled_of_run {w : SchedulerWorld} {r : Call} {t : Seen r} {id : Uuid}
    (h : statusOf (scheduler.body w.db r t).db id = some .canceled) :
    statusOf w.db id = some .canceled ∨
      ∃ scheduleId now events,
        (⟨r, t⟩ : Session Seen) = ⟨.cancel scheduleId now, .selected events⟩ ∧
        ∃ e ∈ events, e.id = id := by
  have written : ∀ {loaded new : EventStatus} {o : Option EventStatus}, new ≠ .canceled →
      o.map (writtenStatus loaded new) = some .canceled → o = some .canceled := by
    intro loaded new o hne ho
    obtain ⟨s, rfl, hs⟩ := Option.map_eq_some_iff.mp ho
    unfold writtenStatus at hs
    split at hs
    · rw [hs]
    · exact absurd hs hne
  cases r with
  | deliver d =>
    refine Or.inl ?_
    cases t with
    | found loaded =>
      change statusOf (markDispatching w.db d.now loaded) id = some .canceled at h
      rw [statusOf_markDispatching] at h
      split at h
      · exact written (by decide) h
      · exact h
    | recorded event =>
      cases event with
      | none => exact h
      | some e =>
        simp only [scheduler, DeliverySeen.body] at h
        split at h
        · unfold DeliverySeen.send at h
          split at h <;> exact h
        · exact h
    | contextRead e context =>
      simp only [scheduler, DeliverySeen.body, DeliverySeen.send] at h
      split at h <;> exact h
    | reportFound report event =>
      cases event with
      | none => exact h
      | some loaded =>
        change statusOf (record w.db d.now loaded report) id = some .canceled at h
        rw [statusOf_record] at h
        split at h
        · refine written ?_ h
          cases report <;> simp [Report.status]
        · exact h
    | snapshot event => cases event <;> exact h
    | _ => exact h
  | cancel scheduleId now =>
    cases t with
    | start => exact Or.inl h
    | selected events =>
      by_cases hmem : ∃ e ∈ events, e.id = id
      · exact Or.inr ⟨scheduleId, now, events, rfl, hmem⟩
      · refine Or.inl ?_
        have hfree : ∀ e ∈ events, e.id ≠ id := fun e he heq => hmem ⟨e, he, heq⟩
        exact (statusOf_unselected hfree).symm.trans h

theorem underway_resume {w : SchedulerWorld} {r : Call} {t t' : Seen r} {db' : Store} {id : Uuid}
    (hb : scheduler.body w.db r t = .resume db' t') (h : Underway id ⟨r, t'⟩) :
    Underway id ⟨r, t⟩ ∨ ∃ d loaded, d.id = id ∧
      (⟨r, t⟩ : Session Seen) = ⟨.deliver d, .found loaded⟩ := by
  cases r with
  | deliver d =>
    cases t with
    | found loaded =>
      cases hb
      exact Or.inr ⟨d, loaded, h, rfl⟩
    | recorded event =>
      cases event with
      | none => cases hb
      | some e =>
        simp only [scheduler, DeliverySeen.body] at hb
        split at hb
        · unfold DeliverySeen.send at hb
          split at hb <;> cases hb <;> exact Or.inl h
        · cases hb
          exact Or.inl h
    | contextRead e context =>
      simp only [scheduler, DeliverySeen.body, DeliverySeen.send] at hb
      split at hb <;> cases hb <;> exact Or.inl h
    | reportFound report event => cases event <;> cases hb
    | snapshot event => cases event <;> cases hb
    | _ => cases hb
  | cancel scheduleId now => cases t <;> cases hb

theorem ownRow_resume {r : Call} {t t' : Seen r} (hb : scheduler.body db r t = .resume db' t') :
    OwnRow ⟨r, t'⟩ := by
  cases r with
  | deliver d =>
    cases t with
    | found loaded =>
      cases hb
      trivial
    | recorded event =>
      cases event with
      | none => cases hb
      | some e =>
        simp only [scheduler, DeliverySeen.body] at hb
        split at hb
        · unfold DeliverySeen.send at hb
          split at hb <;> cases hb <;> trivial
        · cases hb
          trivial
    | contextRead e context =>
      simp only [scheduler, DeliverySeen.body, DeliverySeen.send] at hb
      split at hb <;> cases hb <;> trivial
    | reportFound report event => cases event <;> cases hb
    | snapshot event => cases event <;> cases hb
    | _ => cases hb
  | cancel scheduleId now => cases t <;> cases hb

/-- A step replaces one session; no delivery under way may see its event canceled. -/
theorem steady_of_change {w v : SchedulerWorld} {i : ℕ} {o : Option (Session Seen)}
    (hw : Steady w) (hv : v.session = Function.update w.session i o)
    (own : ∀ s, o = some s → OwnRow s ∧ ∀ id, Underway id s → statusOf v.db id ≠ some .canceled)
    (others : ∀ j s id, w.session j = some s → Underway id s → statusOf v.db id ≠ some .canceled) :
    Steady v := by
  constructor
  · intro j s id hj hu
    rw [hv] at hj
    by_cases hij : j = i
    · subst hij
      rw [Function.update_self] at hj
      exact (own s hj).2 id hu
    · rw [Function.update_of_ne hij] at hj
      exact others j s id hj hu
  · intro j s hj
    rw [hv] at hj
    by_cases hij : j = i
    · subst hij
      rw [Function.update_self] at hj
      exact (own s hj).1
    · rw [Function.update_of_ne hij] at hj
      exact hw.ownRow j s hj

def StepUndisturbed (w : SchedulerWorld) (e : SchedulerEvent) : Prop :=
  RunsUnder scheduler (fun _ s => Undisturbed w s) w e

theorem steady_next {w : SchedulerWorld} {e : SchedulerEvent} (hw : Steady w)
    (he : Enabled scheduler (fun _ => True) w e) (hu : StepUndisturbed w e) :
    Steady (next scheduler w e) ∧ Kept w.db (next scheduler w e).db := by
  -- what the other deliveries see of a run of writes
  have others : ∀ i s, e = .step i → AtRun scheduler w i s → ∀ j s' id, w.session j = some s' →
      Underway id s' → statusOf (scheduler.body w.db s.request s.seen).db id ≠ some .canceled := by
    intro i s hi hs j s' id hj hunder hcanceled
    rcases canceled_of_run hcanceled with h | ⟨scheduleId, now, events, hcancel, x, hx, hxid⟩
    · exact hw.underway j s' id hj hunder h
    · have hcond := hu i s hi hs
      obtain ⟨r, t⟩ := s
      rw [hcancel] at hcond
      exact (hcond x hx).2 j s' hj (hxid ▸ hunder)
  obtain ⟨i, r, -, -, -, h⟩ | ⟨i, s, -, -, h⟩ | ⟨i, s, -, hs, -, h⟩ | ⟨i, s, k, -, hs, -, -, h⟩ |
    ⟨i, s, db', a, hi, hs, hb, h⟩ | ⟨i, s, db', t, hi, hs, hb, h⟩ := step_cases he
  · rw [h]
    refine ⟨steady_of_change hw rfl ?_ hw.underway, Kept.refl _⟩
    rintro _ ⟨⟩
    cases r <;> exact ⟨trivial, fun id hid => hid.elim⟩
  · rw [h]
    exact ⟨steady_of_change hw rfl (fun _ ho => by cases ho) hw.underway, Kept.refl _⟩
  · rw [h]
    refine ⟨steady_of_change hw rfl ?_ hw.underway, Kept.refl _⟩
    rintro _ ⟨⟩
    exact ⟨ownRow_observe (hw.ownRow i s hs),
      fun id hid => hw.underway i s id hs (underway_observe hid)⟩
  · rw [h]
    refine ⟨steady_of_change hw rfl ?_ hw.underway, Kept.refl _⟩
    rintro _ ⟨⟩
    exact ⟨ownRow_observe (hw.ownRow i s hs),
      fun id hid => hw.underway i s id hs (underway_observe hid)⟩
  · have hkept := run_kept hw hs.1 (hu i s hi hs)
    have hothers := others i s hi hs
    rw [hb] at hkept hothers
    rw [h]
    exact ⟨steady_of_change hw rfl (fun _ ho => by cases ho) hothers, hkept⟩
  · have hkept := run_kept hw hs.1 (hu i s hi hs)
    have hothers := others i s hi hs
    have hcanceled := fun (id : Uuid)
      (hc : statusOf (scheduler.body w.db s.request s.seen).db id = some .canceled) =>
        canceled_of_run hc
    rw [hb] at hkept hothers hcanceled
    rw [h]
    refine ⟨steady_of_change hw rfl ?_ hothers, hkept⟩
    rintro _ ⟨⟩
    refine ⟨ownRow_resume hb, fun id hid => ?_⟩
    rcases underway_resume hb hid with hbefore | ⟨d, loaded, rfl, hfound⟩
    · exact hothers i s id hs.1 hbefore
    · intro hc
      have hcond := hu i s hi hs
      obtain ⟨r, t⟩ := s
      rw [hfound] at hcond
      rcases hcanceled d.id hc with hbefore | ⟨_, _, _, hcancel, -⟩
      · exact (hcond _ hbefore).1 rfl
      · rw [hfound] at hcancel
        cases hcancel

/-- In every run of deliveries and cancellations in which no delivery is marked after its event was
canceled, no cancellation overtakes a delivery and no update replaces SUCCEEDED, a succeeded or
canceled event keeps its status for good and nothing is sent for an event after it was canceled. -/
theorem finished_for_good {start : Store} {es fs : List SchedulerEvent}
    (run : scheduling.Run (World.quiet start) (es ++ fs))
    (undisturbed : scheduling.Each StepUndisturbed (World.quiet start) (es ++ fs)) :
    Kept (scheduling.final (World.quiet start) es).db
      (scheduling.final (World.quiet start) (es ++ fs)).db := by
  have hstep : ∀ w e, Steady w → scheduling.Enabled w e ∧ StepUndisturbed w e →
      Steady (scheduling.next w e) := fun w e hw h => (steady_next hw h.1 h.2).1
  have hinit : Steady (World.quiet start) := by
    constructor
    · intro i s id hs
      cases hs
    · intro i s hs
      cases hs
  obtain ⟨hbefore, hafter⟩ := Machine.each_append.mp (run.and undisturbed)
  have hmiddle := final_of_each hstep hinit hbefore
  rw [Machine.final_append]
  have hrest := final_of_each (P := fun w =>
    Steady w ∧ Kept (scheduling.final (World.quiet start) es).db w.db)
    (fun w e hw h => by
      obtain ⟨hs, hk⟩ := steady_next hw.1 h.1 h.2
      exact ⟨hs, hw.2.trans hk⟩) ⟨hmiddle, Kept.refl _⟩ hafter
  exact hrest.2

/-- A swipe that is dispatched and canceled. -/
def scheduledSwipe : SyntheticScheduledEvent :=
  { id := .ofNat 1, scheduleId := "schedule-1", scenarioId := none, executionId := none,
    eventId := "auth-1", eventType := "authorization", personaId := none, status := .scheduled,
    scheduledFor := 100, payload := [("authorization_payload",
      .obj [("retrieval_reference_number", .str "RRN-1")])],
    resultPayload := [], attempts := 0, lastError := none, dispatchedAt := none,
    completedAt := none, canceledAt := none }

def scheduleStore : Store := ⟨⟨[scheduledSwipe], List.pairwise_singleton _ _⟩, []⟩

def approval : BankAnswer := .response 200 (.obj [("action_code", .str "00")]) none

def delivery : Call := .deliver ⟨.ofNat 1, 100, approval⟩

def cancellation : Call := .cancel "schedule-1" 90

def canceledMeanwhile : List SchedulerEvent :=
  [.start 0 delivery, .step 0, .start 1 cancellation, .step 1, .step 1]

def workerGoesOn : List SchedulerEvent := [.step 0, .step 0, .step 0, .step 0]

def canceledFirst : List SchedulerEvent := [.start 1 cancellation, .step 1, .step 1]

def deliveredAfterwards : List SchedulerEvent := [.start 0 delivery, .step 0, .step 0]

theorem canceledFirst_kept :
    Kept (scheduling.final (World.quiet scheduleStore) canceledFirst).db
      (scheduling.final (World.quiet scheduleStore) (canceledFirst ++ deliveredAfterwards)).db := by
  refine finished_for_good (by decide) ⟨?_, ?_, ?_, ?_, ?_, ?_, trivial⟩
  all_goals rintro i s h ⟨hs, rows, ha⟩
  all_goals cases h
  · cases hs
    trivial
  · cases hs
    have hopen : ∀ e ∈ futureEvents scheduleStore "schedule-1" 90,
        statusOf scheduleStore e.id ≠ some .succeeded := by decide
    refine fun e he => ⟨hopen e he, ?_⟩
    intro j s' hj hunder
    by_cases hone : j = 1
    · subst hone
      cases hj
      exact hunder
    · have hnone : Function.update (Function.update (fun _ => none) 1
          (some (⟨cancellation, .start⟩ : Session Seen))) 1
          (some ⟨cancellation, .selected (futureEvents scheduleStore "schedule-1" 90)⟩)
            j = none := by
        rw [Function.update_of_ne hone, Function.update_of_ne hone]
      exact absurd (hnone.symm.trans hj) (by simp)
  · cases hs
    trivial
  · cases hs
    trivial

/-- The request of the canceled event is sent all the same. -/
theorem canceled_event_is_sent :
    ¬ ∀ (start : Store) (es fs : List SchedulerEvent),
      scheduling.Run (World.quiet start) (es ++ fs) →
        Kept (scheduling.final (World.quiet start) es).db
          (scheduling.final (World.quiet start) (es ++ fs)).db := by
  intro hall
  have hkept := hall scheduleStore canceledMeanwhile workerGoesOn (by decide)
  obtain ⟨-, hsent⟩ := hkept (.ofNat 1) .canceled (by decide) (Or.inr rfl)
  have hlength := congrArg List.length (hsent rfl)
  exact absurd hlength (by decide)

end CanceledEvents
