import BankingService.WorkflowAuthorization

/-! Whatever the order of the calls, a consequential action runs only after it was presented and
then confirmed by a later event of the customer. -/
namespace ConfirmedActions

open BankingService.WorkflowAuthorization Python Checked Runs History

variable (h : Digests)

/-- `execute` validates at one clock reading and is marked at a later one. -/
inductive Call where
  | create (action : WorkflowAction) (payload : Payload) (sessionId : String)
      (originatingCustomerEventId : Option String) (ttlSeconds : ℤ)
  | present (assistantEventId : String)
  | authorize (action : WorkflowAction) (payload : Payload) (sessionId customerEventId : String)
      (customerObservedAt : EpochTime)
  | invalidate (reason : String) (eventId : Option String) (status : AuthorizationStatus)
  | execute (action : WorkflowAction) (payload : Payload) (sessionId : String)
      (validatedAt : EpochTime)
  | requireRecovery (reason : String)
  | complete

structure Event where
  now : EpochTime
  call : Call

/-- An execution is validated first, and a record is invalidated to a terminal status. -/
def Allowed (s : Option Authorization) (e : Event) : Prop :=
  match e.call with
  | .invalidate _ _ status => status.Terminal
  | .execute action payload sessionId validatedAt =>
    validatedAt ≤ e.now ∧
      validateWorkflowAuthorization h s action payload sessionId validatedAt = none
  | _ => True

instance (s : Option Authorization) (e : Event) : Decidable (Allowed h s e) := by
  unfold Allowed
  split <;> infer_instance

def act (s : Option Authorization) (e : Event) : Option Authorization :=
  match e.call with
  | .create action payload sessionId originating ttl =>
    match createWorkflowAuthorization h action payload sessionId originating e.now ttl with
    | .ok a => some a
    | .error _ => s
  | .present assistantEventId =>
    s.map fun a => markAuthorizationPresented a assistantEventId e.now
  | .authorize action payload sessionId customerEventId observedAt =>
    s.map fun a =>
      authorizeFromModelToolIntent h a action payload sessionId customerEventId observedAt e.now
  | .invalidate reason eventId status =>
    s.map fun a => invalidateWorkflowAuthorization a reason eventId status
  | .execute _ _ _ _ => s.map fun a => markAuthorizationExecuting a e.now
  | .requireRecovery reason => s.map fun a => markAuthorizationRecoveryRequired a reason
  | .complete => s.map fun a => markAuthorizationCompleted a e.now

def calls : Machine (Option Authorization) Event := ⟨Allowed h, act h⟩

instance (s : Option Authorization) (e : Event) : Decidable ((calls h).Enabled s e) :=
  inferInstanceAs (Decidable (Allowed h s e))

def Plain (e : Event) : Prop :=
  ∀ reason eventId, e.call ≠ .invalidate reason eventId .completed

def CreatedBy (a : Authorization) (e : Event) : Prop :=
  ∃ payload ttl b, e.call = .create a.action payload a.sessionId a.originatingCustomerEventId ttl ∧
    createWorkflowAuthorization h a.action payload a.sessionId a.originatingCustomerEventId e.now
      ttl = .ok b ∧ b.payloadFingerprint = a.payloadFingerprint ∧ b.expiresAt = a.expiresAt

def PresentedBy (a : Authorization) (e : Event) : Prop :=
  ∃ id, e.call = .present id ∧ a.assistantEventId = some id ∧ a.presentedAt = some e.now

/-- A customer event confirmed the same action, payload and session: another event than the one the
action came from and the one that presented it, observed after the presentation. -/
def ConfirmedBy (a : Authorization) (e : Event) : Prop :=
  ∃ payload customer observedAt presentedAt,
    e.call = .authorize a.action payload a.sessionId customer observedAt ∧
      actionPayloadFingerprint h a.action payload = .ok a.payloadFingerprint ∧
      a.customerEventId = some customer ∧ customer ≠ "" ∧
      a.originatingCustomerEventId ≠ some customer ∧ a.assistantEventId ≠ some customer ∧
      a.presentedAt = some presentedAt ∧ presentedAt < observedAt

/-- The same action, payload and session was validated before the expiry, and started. -/
def ExecutedBy (a : Authorization) (e : Event) : Prop :=
  ∃ payload validatedAt, e.call = .execute a.action payload a.sessionId validatedAt ∧
    actionPayloadFingerprint h a.action payload = .ok a.payloadFingerprint ∧
    validatedAt < a.expiresAt ∧ a.consumedAt = some e.now

def Replaces (e : Event) : Prop :=
  ∃ action payload sessionId originating ttl b,
    e.call = .create action payload sessionId originating ttl ∧
      createWorkflowAuthorization h action payload sessionId originating e.now ttl = .ok b

def Created (a : Authorization) : List Event → Prop :=
  Since (Replaces h) fun _ e => CreatedBy h a e

def Presented (a : Authorization) : List Event → Prop :=
  Since (Replaces h) fun before e => Created h a before ∧ PresentedBy a e

def Confirmed (a : Authorization) : List Event → Prop :=
  Since (Replaces h) fun before e => Presented h a before ∧ ConfirmedBy h a e

def Executed (a : Authorization) : List Event → Prop :=
  Since (Replaces h) fun before e => Confirmed h a before ∧ ExecutedBy h a e

/-- What each status of a record says about the past. -/
def Evidenced (es : List Event) (a : Authorization) : Prop :=
  match a.status with
  | .prepared => Created h a es
  | .pending => Presented h a es
  | .confirmed => Confirmed h a es
  | .executing | .completed | .recoveryRequired => Executed h a es
  | .declined | .expired | .invalidated => True

/-- The record is left alone, or found to be expired. -/
def Refused (a a' : Authorization) : Prop :=
  a' = a ∨ ∃ reason eventId, a' = { a with
    status := .expired, invalidationReason := some reason, invalidationEventId := eventId }

section
variable {a : Authorization} {now : EpochTime}

theorem expired_of_live {reason : String} {eventId : Option String} (live : ¬ a.status.Terminal) :
    Refused a (invalidateWorkflowAuthorization a reason eventId .expired) := by
  unfold invalidateWorkflowAuthorization
  rw [if_neg live]
  exact Or.inr ⟨reason, eventId, rfl⟩

theorem presented_cases (a : Authorization) (now : EpochTime) (id : String) :
    (a.status = .prepared ∧ now < a.expiresAt ∧
      markAuthorizationPresented a id now =
        { a with status := .pending, assistantEventId := some id, presentedAt := some now }) ∨
    (¬ (a.status = .prepared ∧ now < a.expiresAt) ∧
      Refused a (markAuthorizationPresented a id now)) := by
  unfold markAuthorizationPresented
  by_cases hs : a.status = .prepared
  · rw [if_neg (not_not.mpr hs)]
    by_cases hnow : a.expiresAt ≤ now
    · rw [if_pos hnow]
      refine Or.inr ⟨fun h => absurd h.2 (not_lt.mpr hnow), expired_of_live ?_⟩
      rw [hs]
      decide
    · rw [if_neg hnow]
      exact Or.inl ⟨hs, not_le.mp hnow, rfl⟩
  · rw [if_pos hs]
    exact Or.inr ⟨fun h => hs h.1, Or.inl rfl⟩

structure Confirms (a : Authorization) (action : WorkflowAction) (payload : Payload)
    (sessionId customerEventId : String) (observedAt now : EpochTime) : Prop where
  pending : a.status = .pending
  unexpired : now < a.expiresAt
  sameAction : a.action = action
  sameSession : a.sessionId = sessionId
  fingerprint : actionPayloadFingerprint h action payload = .ok a.payloadFingerprint
  named : customerEventId ≠ ""
  notOriginating : some customerEventId ≠ a.originatingCustomerEventId
  notAssistant : some customerEventId ≠ a.assistantEventId
  presented : a.presentedAt.getD 0 ≠ 0
  later : a.presentedAt.getD 0 < observedAt

theorem authorized_cases (a : Authorization) (now : EpochTime) (action : WorkflowAction)
    (payload : Payload) (sessionId customer : String) (observedAt : EpochTime) :
    (Confirms h a action payload sessionId customer observedAt now ∧
      authorizeFromModelToolIntent h a action payload sessionId customer observedAt now =
        { a with
          customerEventId := some customer, status := .confirmed,
          confirmationSource := some "MODEL_TOOL_INTENT" }) ∨
    (¬ Confirms h a action payload sessionId customer observedAt now ∧
      Refused a
        (authorizeFromModelToolIntent h a action payload sessionId customer observedAt now)) := by
  unfold authorizeFromModelToolIntent
  by_cases hs : a.status = .pending
  · rw [if_neg (not_not.mpr hs)]
    by_cases hnow : a.expiresAt ≤ now
    · rw [if_pos hnow]
      refine Or.inr ⟨fun h => absurd h.unexpired (not_lt.mpr hnow), expired_of_live ?_⟩
      rw [hs]
      decide
    · rw [if_neg hnow]
      split
      · next hscope =>
        exact Or.inr ⟨fun h => hscope.elim (· h.sameAction) (· h.sameSession), Or.inl rfl⟩
      · next hscope =>
        rw [not_or, not_not, not_not] at hscope
        split
        · next hfp => exact Or.inr ⟨fun h => hfp h.fingerprint, Or.inl rfl⟩
        · next hfp =>
          split
          · next hname => exact Or.inr ⟨fun h => h.named hname, Or.inl rfl⟩
          · next hname =>
            split
            · next horigin => exact Or.inr ⟨fun h => h.notOriginating horigin, Or.inl rfl⟩
            · next horigin =>
              split
              · next hassistant => exact Or.inr ⟨fun h => h.notAssistant hassistant, Or.inl rfl⟩
              · next hassistant =>
                split
                · next htime =>
                  refine Or.inr ⟨fun h => ?_, Or.inl rfl⟩
                  exact htime.elim h.presented (not_le.mpr h.later)
                · next htime =>
                  rw [not_or, not_le] at htime
                  exact Or.inl ⟨⟨hs, not_le.mp hnow, hscope.1, hscope.2, not_not.mp hfp, hname,
                    horigin, hassistant, htime.1, htime.2⟩, rfl⟩
  · rw [if_pos hs]
    exact Or.inr ⟨fun h => hs h.pending, Or.inl rfl⟩

structure Validates (a : Authorization) (action : WorkflowAction) (payload : Payload)
    (sessionId : String) (now : EpochTime) : Prop where
  sameAction : a.action = action
  executable : a.status.Executable
  sameSession : a.sessionId = sessionId
  unexpired : now < a.expiresAt
  fingerprint : actionPayloadFingerprint h action payload = .ok a.payloadFingerprint

theorem validated {s : Option Authorization} {action : WorkflowAction} {payload : Payload}
    {sessionId : String}
    (hv : validateWorkflowAuthorization h s action payload sessionId now = none) :
    ∃ a, s = some a ∧ Validates h a action payload sessionId now := by
  cases s with
  | none => cases hv
  | some a =>
    unfold validateWorkflowAuthorization at hv
    dsimp only at hv
    split at hv
    · cases hv
    · next haction =>
      split at hv
      · cases hv
      · next hexec =>
        split at hv
        · cases hv
        · next hsession =>
          split at hv
          · cases hv
          · split at hv
            · cases hv
            · next hnow =>
              split at hv
              · cases hv
              · next hfp =>
                exact ⟨a, rfl, not_not.mp haction, not_not.mp hexec, not_not.mp hsession,
                  not_le.mp hnow, not_not.mp hfp⟩

end

section
variable {h} {a a' : Authorization} {es : List Event} {e : Event}

theorem Evidenced.later (hev : Evidenced h es a) (he : ¬ Replaces h e) :
    Evidenced h (es ++ [e]) a := by
  unfold Evidenced at hev ⊢
  cases hs : a.status <;> rw [hs] at hev
  case declined | expired | invalidated => trivial
  all_goals exact Since.later hev he

theorem Evidenced.refused (hev : Evidenced h es a) (he : ¬ Replaces h e) (hr : Refused a a') :
    Evidenced h (es ++ [e]) a' := by
  rcases hr with rfl | ⟨reason, eventId, rfl⟩
  · exact hev.later he
  · trivial

theorem confirmed_of_executable (hev : Evidenced h es a) (hs : a.status.Executable) :
    Confirmed h a es := by
  unfold Evidenced at hev
  rcases hs with hs | hs
  · rw [hs] at hev
    exact hev
  · rw [hs] at hev
    refine Since.earlier hev (fun _ hx => hx) ?_
    rintro before e ⟨hconfirmed, payload, validatedAt, hcall, -⟩
    refine ⟨hconfirmed, ?_⟩
    rintro ⟨_, _, _, _, _, _, hcreate, -⟩
    rw [hcreate] at hcall
    cases hcall

theorem created_fields {action : WorkflowAction} {payload : Payload} {sessionId : String}
    {originating : Option String} {now : EpochTime} {ttl : ℤ}
    (hc : createWorkflowAuthorization h action payload sessionId originating now ttl = .ok a) :
    a.action = action ∧ a.sessionId = sessionId ∧ a.originatingCustomerEventId = originating ∧
      a.status = .prepared := by
  simp only [createWorkflowAuthorization, bind_eq_ok, pure_eq_ok] at hc
  obtain ⟨canonical, -, fingerprint, -, hc⟩ := hc
  cases hc
  exact ⟨rfl, rfl, rfl, rfl⟩

theorem evidenced_next {s : Option Authorization} (hev : ∀ a, s = some a → Evidenced h es a)
    (he : Allowed h s e) (hplain : Plain e) (ha : act h s e = some a') :
    Evidenced h (es ++ [e]) a' := by
  obtain ⟨now, call⟩ := e
  -- only a creation replaces the record
  have plain : (∀ action payload sessionId originating ttl,
      call ≠ .create action payload sessionId originating ttl) → ¬ Replaces h ⟨now, call⟩ := by
    rintro hne ⟨action, payload, sessionId, originating, ttl, b, hcall, -⟩
    exact hne _ _ _ _ _ hcall
  cases call with
  | create action payload sessionId originating ttl =>
    cases hc : createWorkflowAuthorization h action payload sessionId originating now ttl with
    | ok a =>
      simp only [act, hc, Option.some.injEq] at ha
      subst ha
      obtain ⟨rfl, rfl, rfl, hs⟩ := created_fields hc
      unfold Evidenced
      rw [hs]
      exact Since.here ⟨payload, ttl, a, rfl, hc, rfl, rfl⟩
    | error err =>
      simp only [act, hc] at ha
      refine (hev a' ha).later ?_
      rintro ⟨_, _, _, _, _, b, hcall, hok⟩
      cases hcall
      rw [hc] at hok
      cases hok
  | present id =>
    obtain ⟨a, rfl, rfl⟩ := Option.map_eq_some_iff.mp ha
    have hpast := hev a rfl
    rcases presented_cases a now id with ⟨hs, -, heq⟩ | ⟨-, hr⟩
    · rw [heq]
      unfold Evidenced at hpast
      rw [hs] at hpast
      exact Since.here ⟨hpast, id, rfl, rfl, rfl⟩
    · exact hpast.refused (plain nofun) hr
  | authorize action payload sessionId customer observedAt =>
    obtain ⟨a, rfl, rfl⟩ := Option.map_eq_some_iff.mp ha
    have hpast := hev a rfl
    rcases authorized_cases h a now action payload sessionId customer observedAt with
      ⟨hc, heq⟩ | ⟨-, hr⟩
    · dsimp only
      rw [heq]
      unfold Evidenced at hpast
      rw [hc.pending] at hpast
      obtain ⟨rfl, rfl⟩ := And.intro hc.sameAction hc.sameSession
      obtain ⟨presentedAt, hpresented⟩ : ∃ t, a.presentedAt = some t := by
        cases ht : a.presentedAt with
        | none => exact absurd (by rw [ht]; rfl) hc.presented
        | some t => exact ⟨t, rfl⟩
      have hlater := hc.later
      rw [hpresented] at hlater
      exact Since.here ⟨hpast, payload, customer, observedAt, presentedAt, rfl, hc.fingerprint, rfl,
        hc.named, fun heq => hc.notOriginating heq.symm, fun heq => hc.notAssistant heq.symm,
        hpresented, hlater⟩
    · exact hpast.refused (plain nofun) hr
  | invalidate reason eventId status =>
    obtain ⟨a, rfl, rfl⟩ := Option.map_eq_some_iff.mp ha
    dsimp only [invalidateWorkflowAuthorization]
    split
    · exact (hev a rfl).later (plain nofun)
    · unfold Evidenced
      cases status with
      | completed => exact absurd rfl (hplain reason eventId)
      | declined | expired | invalidated => trivial
      | prepared | pending | confirmed | executing | recoveryRequired =>
        exact absurd (show AuthorizationStatus.Terminal _ from he) (by decide)
  | execute action payload sessionId validatedAt =>
    obtain ⟨a, rfl, rfl⟩ := Option.map_eq_some_iff.mp ha
    obtain ⟨-, hv⟩ := he
    obtain ⟨b, hb, hv⟩ := validated h hv
    cases hb
    have hconfirmed := confirmed_of_executable (hev a rfl) hv.executable
    obtain ⟨rfl, rfl⟩ := And.intro hv.sameAction hv.sameSession
    unfold markAuthorizationExecuting
    rw [if_neg (not_not.mpr hv.executable)]
    exact Since.here ⟨hconfirmed, payload, validatedAt, rfl, hv.fingerprint, hv.unexpired, rfl⟩
  | requireRecovery reason =>
    obtain ⟨a, rfl, rfl⟩ := Option.map_eq_some_iff.mp ha
    have hpast := (hev a rfl).later (plain nofun)
    dsimp only [markAuthorizationRecoveryRequired]
    split
    · exact hpast
    · next hs =>
      unfold Evidenced at hpast
      rw [not_not.mp hs] at hpast
      exact hpast
  | complete =>
    obtain ⟨a, rfl, rfl⟩ := Option.map_eq_some_iff.mp ha
    have hpast := (hev a rfl).later (plain nofun)
    dsimp only [markAuthorizationCompleted]
    split
    · exact hpast
    · next hs =>
      unfold Evidenced at hpast
      rw [not_not.mp hs] at hpast
      exact hpast

theorem evidenced_run (hrun : (calls h).Run none es) (hplain : ∀ e ∈ es, Plain e) :
    ∀ a, (calls h).final none es = some a → Evidenced h es a := by
  have hsteps := hrun.and (each_of_forall hplain none)
  refine history_of_each (I := fun es s => ∀ a, s = some a → Evidenced h es a) ?_ ?_ hsteps
  · intro a ha
    cases ha
  · intro es s e hev he a ha
    exact evidenced_next hev he.1 he.2 ha

end

def Guard (s : Option Authorization) (e : Event) : Prop :=
  match e.call with
  | .create action payload sessionId originating ttl =>
    ∃ b, createWorkflowAuthorization h action payload sessionId originating e.now ttl = .ok b
  | .present _ => ∃ a, s = some a ∧ a.status = .prepared ∧ e.now < a.expiresAt
  | .authorize action payload sessionId customerEventId observedAt =>
    ∃ a, s = some a ∧ Confirms h a action payload sessionId customerEventId observedAt e.now
  | .invalidate _ _ _ => ∃ a, s = some a ∧ ¬ a.status.Terminal
  | .execute _ _ _ _ => ∃ a, s = some a ∧ a.status.Executable
  | .requireRecovery _ | .complete => ∃ a, s = some a ∧ a.status = .executing

section
variable {s : Option Authorization} {e : Event} {a : Authorization}

theorem refused_self : Option.Rel Refused s s := by
  cases s with
  | none => exact .none
  | some a => exact .some (Or.inl rfl)

theorem refused_map {f : Authorization → Authorization} (hf : ∀ a, s = some a → Refused a (f a)) :
    Option.Rel Refused s (s.map f) := by
  cases s with
  | none => exact .none
  | some a => exact .some (hf a rfl)

theorem refused_of_unguarded (hg : ¬ Guard h s e) : Option.Rel Refused s (act h s e) := by
  obtain ⟨now, call⟩ := e
  cases call with
  | create action payload sessionId originating ttl =>
    cases hc : createWorkflowAuthorization h action payload sessionId originating now ttl with
    | ok b => exact absurd ⟨b, hc⟩ hg
    | error err =>
      simp only [act, hc]
      exact refused_self
  | present id =>
    refine refused_map fun a ha => ?_
    rcases presented_cases a now id with ⟨hs, hnow, -⟩ | ⟨-, hr⟩
    · exact absurd ⟨a, ha, hs, hnow⟩ hg
    · exact hr
  | authorize action payload sessionId customer observedAt =>
    refine refused_map fun a ha => ?_
    rcases authorized_cases h a now action payload sessionId customer observedAt with
      ⟨hc, -⟩ | ⟨-, hr⟩
    · exact absurd ⟨a, ha, hc⟩ hg
    · exact hr
  | invalidate reason eventId status =>
    refine refused_map fun a ha => Or.inl (if_pos ?_)
    by_contra hs
    exact hg ⟨a, ha, hs⟩
  | execute action payload sessionId validatedAt =>
    exact refused_map fun a ha => Or.inl (if_pos fun hs => hg ⟨a, ha, hs⟩)
  | requireRecovery reason =>
    exact refused_map fun a ha => Or.inl (if_pos fun hs => hg ⟨a, ha, hs⟩)
  | complete =>
    exact refused_map fun a ha => Or.inl (if_pos fun hs => hg ⟨a, ha, hs⟩)

theorem terminal_kept (ha : a.status.Terminal) (he : ¬ Replaces h e) :
    act h (some a) e = some a := by
  obtain ⟨now, call⟩ := e
  have other : ∀ s : AuthorizationStatus, ¬ s.Terminal → a.status ≠ s := by
    rintro s hs rfl
    exact hs ha
  have hexec : ¬ a.status.Executable := by
    rintro (hs | hs)
    · exact other _ (by decide) hs
    · exact other _ (by decide) hs
  cases call with
  | create action payload sessionId originating ttl =>
    cases hc : createWorkflowAuthorization h action payload sessionId originating now ttl with
    | ok b => exact absurd ⟨action, payload, sessionId, originating, ttl, b, rfl, hc⟩ he
    | error err => simp only [act, hc]
  | present id => exact congrArg some (if_pos (other _ (by decide)))
  | authorize action payload sessionId customer observedAt =>
    exact congrArg some (if_pos (other _ (by decide)))
  | invalidate reason eventId status => exact congrArg some (if_pos ha)
  | execute action payload sessionId validatedAt => exact congrArg some (if_pos hexec)
  | requireRecovery reason => exact congrArg some (if_pos (other _ (by decide)))
  | complete => exact congrArg some (if_pos (other _ (by decide)))

end

theorem executed_only_after_confirmation {es : List Event} (hrun : (calls h).Run none es)
    (hplain : ∀ e ∈ es, Plain e) :
    (∀ a, (calls h).final none es = some a → a.status = .executing ∨ a.status = .completed →
        Executed h a es) ∧
      (∀ a e, a.status.Terminal → ¬ Replaces h e → act h (some a) e = some a) ∧
      ∀ s e, ¬ Guard h s e → Option.Rel Refused s (act h s e) := by
  refine ⟨fun a ha hs => ?_, fun a e => terminal_kept h, fun s e => refused_of_unguarded h⟩
  have hev := evidenced_run hrun hplain a ha
  unfold Evidenced at hev
  rcases hs with hs | hs
  · rw [hs] at hev
    exact hev
  · rw [hs] at hev
    exact hev

def digests : Digests where
  str
    | .str s => s
    | _ => ""
  sha256 s :=
    if s = (Json.obj [("wallet_provider", .str "GOOGLE_WALLET")]).dumps then
      "6132486715789396f8dfbc31ea9adcd9c3d54dacf95ba39328205b74d8ef8f64"
    else ""

def seconds (n : ℤ) : EpochTime := n * 1000000

def confirmation : List Event :=
  [⟨seconds 10, .create .provisionGoogleWallet [] "session-1" (some "turn-1") 180⟩,
    ⟨seconds 20, .present "turn-2"⟩,
    ⟨seconds 31, .authorize .provisionGoogleWallet [] "session-1" "turn-3" (seconds 30)⟩]

def provisioning (validatedAt markedAt : ℤ) : List Event :=
  confirmation ++
    [⟨seconds markedAt, .execute .provisionGoogleWallet [] "session-1" (seconds validatedAt)⟩]

def completedInTime : List Event := provisioning 32 33 ++ [⟨seconds 34, .complete⟩]

theorem completedInTime_confirmed :
    ∃ a, (calls digests).final none completedInTime = some a ∧
      Executed digests a completedInTime := by
  have hcompleted :
      ((calls digests).final none completedInTime).map (·.status) = some .completed := by decide
  have hplain : ∀ e ∈ completedInTime, Plain e := by
    simp [completedInTime, provisioning, confirmation, Plain]
  obtain ⟨a, ha, hs⟩ := Option.map_eq_some_iff.mp hcompleted
  exact ⟨a, ha, (executed_only_after_confirmation digests (by decide) hplain).1 a ha (Or.inr hs)⟩

/-- The clock is read once to validate the record and once to mark it, and a record can be
invalidated to COMPLETED. -/
theorem expired_authorization_executes :
    (¬ ∀ (h : Digests) (es : List Event), (calls h).Run none es →
      es.Pairwise (fun e f => e.now ≤ f.now) → ∀ a, (calls h).final none es = some a →
        a.status = .executing → ∃ t, a.consumedAt = some t ∧ t < a.expiresAt) ∧
      ¬ ∀ (h : Digests) (es : List Event), (calls h).Run none es →
        es.Pairwise (fun e f => e.now ≤ f.now) → ∀ a, (calls h).final none es = some a →
          a.status = .completed → Executed h a es := by
  constructor
  · intro hall
    have hlate :
        ((calls digests).final none (provisioning 189 191)).map
          (fun a => (a.status, a.consumedAt, a.expiresAt)) =
            some (.executing, some (seconds 191), seconds 190) := by decide
    obtain ⟨a, ha, hfields⟩ := Option.map_eq_some_iff.mp hlate
    simp only [Prod.mk.injEq] at hfields
    obtain ⟨hs, hconsumed, hexpires⟩ := hfields
    obtain ⟨t, ht, hlt⟩ := hall digests (provisioning 189 191) (by decide) (by decide) a ha hs
    rw [hconsumed] at ht
    cases ht
    rw [hexpires] at hlt
    exact absurd hlt (by decide)
  · intro hall
    let es : List Event :=
      [⟨seconds 10, .create .provisionGoogleWallet [] "session-1" (some "turn-1") 180⟩,
        ⟨seconds 20, .invalidate "NO_LONGER_WANTED" none .completed⟩]
    have hclosed : ((calls digests).final none es).map (·.status) = some .completed := by decide
    obtain ⟨a, ha, hs⟩ := Option.map_eq_some_iff.mp hclosed
    obtain ⟨before, e, after, heq, ⟨-, payload, validatedAt, hcall, -⟩, -⟩ :=
      hall digests es (by decide) (by decide) a ha hs
    have hmem : e ∈ es := by
      rw [heq]
      exact List.mem_append_right _ List.mem_cons_self
    simp only [es, List.mem_cons, List.not_mem_nil, or_false] at hmem
    rcases hmem with rfl | rfl
    · cases hcall
    · cases hcall

end ConfirmedActions
