import BankingService.Library.Runs
import BankingService.ResetGenerations

/-! The voice agent's persistent sessions. A consultation reads the reset generation, opens or
resumes its stored session in several calls of the session service, reads the session again for
each stream of the model, and asks for the generation before each consequential tool. -/
namespace BankingService.SessionStore

open Python Runs ResetGenerations

structure Persistence where
  schemaVersion : ℤ
  createdAt : ℚ
  expiresAt : ℚ
  resetGenerationToken : String
  deriving DecidableEq

/-- What the store and the reset guard read of a session's state: the playbook's
`completion_status`, the token of `reset_generation`, and what was added when it was stored. -/
structure SessionState where
  completionStatus : Option String
  resetGeneration : Option String
  resetGenerationToken : Option String
  persistence : Option Persistence
  deriving DecidableEq

def SessionState.completion (state : SessionState) : String :=
  upper (((state.completionStatus).filter (· ≠ "")).getD "ACTIVE")

def SessionState.expiresAt (state : SessionState) : ℚ :=
  (state.persistence.map Persistence.expiresAt).getD 0

def SessionState.Ended (state : SessionState) : Prop :=
  state.completion ∈ ["COMPLETED", "EXPIRED"]

instance : DecidablePred SessionState.Ended := fun _ => inferInstanceAs (Decidable (_ ∈ _))

def SessionState.Expired (state : SessionState) (now : ℚ) : Prop :=
  state.expiresAt ≠ 0 ∧ state.expiresAt ≤ now

instance (now : ℚ) : DecidablePred (SessionState.Expired · now) :=
  fun _ => inferInstanceAs (Decidable (_ ∧ _))

def sessionIsResumable (state : SessionState) (resetGenerationToken : String) (now : ℚ) :
    Bool × String :=
  if (state.persistence.map Persistence.resetGenerationToken).getD "" ≠ resetGenerationToken then
    (false, "RESET_GENERATION_CHANGED")
  else if state.Ended then (false, "SESSION_COMPLETED")
  else if state.Expired now then (false, "SESSION_EXPIRED")
  else (true, "RESUMABLE")

def withPersistenceMetadata (ttlSeconds : ℤ) (state : SessionState) (resetGenerationToken : String)
    (now : ℚ) : SessionState :=
  { state with
    resetGenerationToken := some resetGenerationToken
    persistence := some
      { schemaVersion := 1
        createdAt := now
        expiresAt := now + ttlSeconds
        resetGenerationToken } }

def RESET_CHECK_ATTEMPTS : ℕ := 3

/-- Each attempt gives the current token or raises. -/
def validateResetGeneration (attempts : List (Option String)) (expectedToken : String) :
    Bool × String :=
  if expectedToken = "" then (false, "SESSION_RESET_GENERATION_MISSING")
  else
    match (attempts.take RESET_CHECK_ATTEMPTS).findSome? id with
    | some current =>
      if current ≠ expectedToken then (false, "SESSION_INVALIDATED_BY_RESET") else (true, "CURRENT")
    | none => (false, "RESET_GENERATION_UNAVAILABLE")

structure ResetRefusal where
  error : String
  message : String
  requiredAction : String
  modelInstruction : String
  deriving DecidableEq

def SessionState.expectedGeneration (state : SessionState) : String :=
  ((state.resetGenerationToken).filter (· ≠ "")).getD (state.resetGeneration.getD "")

def resetGenerationBlock (state : SessionState) (attempts : List (Option String)) :
    Option ResetRefusal :=
  let (generationValid, generationReason) :=
    validateResetGeneration attempts state.expectedGeneration
  if generationValid then none
  else some
    { error := "SESSION_INVALIDATED"
      message :=
        "This consultation is no longer current because demo data changed. Start a new consultation before taking action."
      requiredAction := generationReason
      modelInstruction := "Do not claim success or retry this tool in the current session." }

structure SessionKey where
  userId : String
  sessionId : String
  deriving DecidableEq

def sessionKey (customerId sessionId : String) : SessionKey := ⟨"user-" ++ customerId, sessionId⟩

/-- How far a consultation is in opening its session; the token is the generation it read. -/
inductive Phase where
  | loaded (token : String)
  | deleting (token reason : String)
  | creating (token reason : String)
  | running (state : SessionState) (resumed : Bool) (reason : String)
  | failed
  deriving DecidableEq

structure Consultation where
  customerId : String
  sessionId : String
  phase : Phase
  deriving DecidableEq

/-- `listed` holds what each clean-up has still to delete. -/
structure AgentSystem where
  epochs : ResetEpochs
  store : SessionKey → Option SessionState
  consultations : ℕ → Option Consultation
  listed : ℕ → SessionKey → Bool

/-- Resets, and the calls of consultations and clean-ups between which others may run. A load is
unanswered where the bootstrap raised; a creation is refused where the service finds the session
there. -/
inductive AgentEvent where
  | reset (scope : ResetScope)
  | load (c : ℕ) (customerId sessionId : String) (answered : Bool)
  | getSession (c : ℕ) (now : ℚ)
  | deleteSession (c : ℕ)
  | createSession (c : ℕ) (now : ℚ) (accepted : Bool)
  | runLive (c : ℕ)
  | complete (c : ℕ) (completionStatus : Option String)
  | listSessions (n : ℕ) (now : ℚ)
  | deleteListed (n : ℕ) (key : SessionKey)
  deriving DecidableEq

/-- The generation of a bootstrap, with its default where the bootstrap raised. -/
def bootstrapToken (postgresql : Bool) (epochs : ResetEpochs) (customerId : String)
    (answered : Bool) : String :=
  if answered then (getResetGeneration postgresql epochs customerId).token else "0:0"

def initialState (token : String) : SessionState := ⟨some "ACTIVE", some token, none, none⟩

def AgentSystem.move (s : AgentSystem) (c : ℕ) (x : Consultation) (phase : Phase) : AgentSystem :=
  { s with consultations := Function.update s.consultations c (some { x with phase }) }

section

variable (postgresql : Bool) (ttlSeconds : ℤ)

def getSession (s : AgentSystem) (c : ℕ) (now : ℚ) : AgentSystem :=
  match s.consultations c with
  | some x =>
    match x.phase with
    | .loaded token =>
      match s.store (sessionKey x.customerId x.sessionId) with
      | some existing =>
        let (resumable, reason) := sessionIsResumable existing token now
        s.move c x (if resumable then .running existing true reason else .deleting token reason)
      | none => s.move c x (.creating token "SESSION_NOT_FOUND")
    | _ => s
  | none => s

def deleteSession (s : AgentSystem) (c : ℕ) : AgentSystem :=
  match s.consultations c with
  | some x =>
    match x.phase with
    | .deleting token reason =>
      { s.move c x (.creating token reason) with
        store := Function.update s.store (sessionKey x.customerId x.sessionId) none }
    | _ => s
  | none => s

def createSession (s : AgentSystem) (c : ℕ) (now : ℚ) (accepted : Bool) : AgentSystem :=
  match s.consultations c with
  | some x =>
    match x.phase with
    | .creating token reason =>
      let created := withPersistenceMetadata ttlSeconds (initialState token) token now
      if accepted then
        { s.move c x (.running created false reason) with
          store := Function.update s.store (sessionKey x.customerId x.sessionId) (some created) }
      else s.move c x .failed
    | _ => s
  | none => s

/-- A stream of the model starts on what is stored under the consultation's key by then. -/
def runLive (s : AgentSystem) (c : ℕ) : AgentSystem :=
  match s.consultations c with
  | some x =>
    match x.phase with
    | .running _ resumed reason =>
      match s.store (sessionKey x.customerId x.sessionId) with
      | some stored => s.move c x (.running stored resumed reason)
      | none => s.move c x .failed
    | _ => s
  | none => s

def complete (s : AgentSystem) (c : ℕ) (completionStatus : Option String) : AgentSystem :=
  match s.consultations c with
  | some x =>
    match x.phase with
    | .running state resumed reason =>
      let key := sessionKey x.customerId x.sessionId
      { s.move c x (.running { state with completionStatus } resumed reason) with
        store := Function.update s.store key
          ((s.store key).map fun stored => { stored with completionStatus }) }
    | _ => s
  | none => s

/-- The list of `cleanup_expired_sessions`, reduced to the sessions it deletes. -/
def listSessions (s : AgentSystem) (n : ℕ) (now : ℚ) : AgentSystem :=
  { s with listed := Function.update s.listed n fun key =>
      (s.store key).any fun state => state.Ended ∨ state.Expired now }

/-- One of its deletions, of whatever is stored there by then. -/
def deleteListed (s : AgentSystem) (n : ℕ) (key : SessionKey) : AgentSystem :=
  if s.listed n key then
    { s with
      store := Function.update s.store key none
      listed := Function.update s.listed n (Function.update (s.listed n) key false) }
  else s

def agentNext (s : AgentSystem) : AgentEvent → AgentSystem
  | .reset scope => { s with epochs := reset postgresql s.epochs scope }
  | .load c customerId sessionId answered =>
    let token := bootstrapToken postgresql s.epochs customerId answered
    { s with
      consultations := Function.update s.consultations c
        (some ⟨customerId, sessionId, .loaded token⟩) }
  | .getSession c now => getSession s c now
  | .deleteSession c => deleteSession s c
  | .createSession c now accepted => createSession ttlSeconds s c now accepted
  | .runLive c => runLive s c
  | .complete c completionStatus => complete s c completionStatus
  | .listSessions n now => listSessions s n now
  | .deleteListed n key => deleteListed s n key

/-- Any event can come at any time; a call that its consultation is not at does nothing. -/
def agentRuns : Machine AgentSystem AgentEvent where
  Enabled _ _ := True
  next := agentNext postgresql ttlSeconds

end

def emptySystem : AgentSystem :=
  ⟨fun _ => none, fun _ => none, fun _ => none, fun _ _ => false⟩

def AgentEvent.scope? : AgentEvent → Option ResetScope
  | .reset scope => some scope
  | _ => none

def scopes (es : List AgentEvent) : List ResetScope := es.filterMap AgentEvent.scope?

section

variable (postgresql : Bool) (ttlSeconds : ℤ)

def epochsAfter (es : List AgentEvent) : ResetEpochs :=
  afterResets postgresql (fun _ => none) (scopes es)

/-- The consultation read the token when it loaded. -/
def Loaded (es : List AgentEvent) (c : ℕ) (customerId sessionId token : String) : Prop :=
  ∃ before answered after, es = before ++ .load c customerId sessionId answered :: after ∧
    token = bootstrapToken postgresql (epochsAfter postgresql before) customerId answered

/-- The session was created, and for the generation that its consultation had read. -/
def Made (es : List AgentEvent) (key : SessionKey) (state : SessionState) : Prop :=
  ∃ before c customerId sessionId answered after now,
    es = before ++ .load c customerId sessionId answered :: after ∧
    .createSession c now true ∈ after ∧ key = sessionKey customerId sessionId ∧
    state.resetGenerationToken =
      some (bootstrapToken postgresql (epochsAfter postgresql before) customerId answered) ∧
    state.persistence.map Persistence.createdAt = some now

def Founded (es : List AgentEvent) (c : ℕ) (x : Consultation) : Prop :=
  match x.phase with
  | .loaded token | .deleting token _ | .creating token _ =>
    Loaded postgresql es c x.customerId x.sessionId token
  | .running state _ _ => Made postgresql es (sessionKey x.customerId x.sessionId) state
  | .failed => True

structure Inv (es : List AgentEvent) (s : AgentSystem) : Prop where
  epochs : s.epochs = epochsAfter postgresql es
  stored : ∀ key state, s.store key = some state → Made postgresql es key state
  founded : ∀ c x, s.consultations c = some x → Founded postgresql es c x

variable {postgresql} {es : List AgentEvent} {s : AgentSystem} {e : AgentEvent}

theorem Loaded.later {c : ℕ} {customerId sessionId token : String}
    (h : Loaded postgresql es c customerId sessionId token) :
    Loaded postgresql (es ++ [e]) c customerId sessionId token := by
  obtain ⟨before, answered, after, rfl, htoken⟩ := h
  refine ⟨before, answered, after ++ [e], ?_, htoken⟩
  rw [List.append_assoc, List.cons_append]

theorem Made.later {key : SessionKey} {state : SessionState} (h : Made postgresql es key state) :
    Made postgresql (es ++ [e]) key state := by
  obtain ⟨before, c, customerId, sessionId, answered, after, now, rfl, hcreated, hrest⟩ := h
  refine ⟨before, c, customerId, sessionId, answered, after ++ [e], now, ?_, ?_, hrest⟩
  · rw [List.append_assoc, List.cons_append]
  · exact List.mem_append_left _ hcreated

theorem Founded.later {c : ℕ} {x : Consultation} (h : Founded postgresql es c x) :
    Founded postgresql (es ++ [e]) c x := by
  unfold Founded at h ⊢
  cases hphase : x.phase with
  | loaded token => exact Loaded.later (by simpa only [hphase] using h)
  | deleting token reason => exact Loaded.later (by simpa only [hphase] using h)
  | creating token reason => exact Loaded.later (by simpa only [hphase] using h)
  | running state resumed reason => exact Made.later (by simpa only [hphase] using h)
  | failed => trivial

theorem epochsAfter_append (he : e.scope? = none) :
    epochsAfter postgresql (es ++ [e]) = epochsAfter postgresql es := by
  unfold epochsAfter scopes
  rw [List.filterMap_append]
  simp [he]

theorem Inv.later (h : Inv postgresql es s) (he : e.scope? = none) :
    Inv postgresql (es ++ [e]) s where
  epochs := h.epochs.trans (epochsAfter_append he).symm
  stored := by
    intro key state hstate
    exact (h.stored key state hstate).later
  founded := by
    intro c x hx
    exact (h.founded c x hx).later

theorem Inv.move (h : Inv postgresql es s) {c : ℕ} {x : Consultation} {phase : Phase}
    (hfounded : Founded postgresql es c { x with phase }) :
    Inv postgresql es (s.move c x phase) where
  epochs := h.epochs
  stored := h.stored
  founded := by
    intro d y hy
    by_cases hd : d = c
    · subst hd
      simp only [AgentSystem.move, Function.update_self, Option.some.injEq] at hy
      subst hy
      exact hfounded
    · simp only [AgentSystem.move, Function.update_of_ne hd] at hy
      exact h.founded d y hy

theorem Inv.put (h : Inv postgresql es s) {key : SessionKey} {stored : Option SessionState}
    (hstored : ∀ state, stored = some state → Made postgresql es key state) :
    Inv postgresql es { s with store := Function.update s.store key stored } where
  epochs := h.epochs
  stored := by
    intro k state hstate
    by_cases hk : k = key
    · subst hk
      simp only [Function.update_self] at hstate
      exact hstored state hstate
    · simp only [Function.update_of_ne hk] at hstate
      exact h.stored k state hstate
  founded := h.founded

theorem inv_getSession (h : Inv postgresql es s) (c : ℕ) (now : ℚ) :
    Inv postgresql es (getSession s c now) := by
  unfold getSession
  cases hx : s.consultations c with
  | none => exact h
  | some x =>
    have hfounded := h.founded c x hx
    dsimp only
    cases hphase : x.phase with
    | loaded token =>
      simp only [Founded, hphase] at hfounded
      cases hexisting : s.store (sessionKey x.customerId x.sessionId) with
      | none =>
        apply h.move
        exact hfounded
      | some existing =>
        dsimp only
        apply h.move
        cases (sessionIsResumable existing token now).1 with
        | true => exact h.stored _ _ hexisting
        | false => exact hfounded
    | deleting token reason => exact h
    | creating token reason => exact h
    | running state resumed reason => exact h
    | failed => exact h

theorem inv_deleteSession (h : Inv postgresql es s) (c : ℕ) :
    Inv postgresql es (deleteSession s c) := by
  unfold deleteSession
  cases hx : s.consultations c with
  | none => exact h
  | some x =>
    have hfounded := h.founded c x hx
    dsimp only
    cases hphase : x.phase with
    | deleting token reason =>
      simp only [Founded, hphase] at hfounded
      have hmoved : Inv postgresql es (s.move c x (.creating token reason)) := h.move hfounded
      apply hmoved.put
      rintro state ⟨⟩
    | loaded token => exact h
    | creating token reason => exact h
    | running state resumed reason => exact h
    | failed => exact h

theorem inv_createSession (h : Inv postgresql es s) (c : ℕ) (now : ℚ) (accepted : Bool) :
    Inv postgresql (es ++ [.createSession c now accepted])
      (createSession ttlSeconds s c now accepted) := by
  have hlater : Inv postgresql (es ++ [.createSession c now accepted]) s := h.later rfl
  unfold createSession
  cases hx : s.consultations c with
  | none => exact hlater
  | some x =>
    have hfounded := h.founded c x hx
    dsimp only
    cases hphase : x.phase with
    | creating token reason =>
      simp only [Founded, hphase] at hfounded
      obtain ⟨before, answered, after, rfl, rfl⟩ := hfounded
      cases accepted with
      | false => exact hlater.move trivial
      | true =>
        have hmade : Made postgresql
            (before ++ .load c x.customerId x.sessionId answered :: after ++
              [.createSession c now true]) (sessionKey x.customerId x.sessionId)
            (withPersistenceMetadata ttlSeconds
              (initialState (bootstrapToken postgresql (epochsAfter postgresql before) x.customerId
                answered))
              (bootstrapToken postgresql (epochsAfter postgresql before) x.customerId answered)
              now) := by
          refine ⟨before, c, x.customerId, x.sessionId, answered,
            after ++ [.createSession c now true], now, ?_, ?_, rfl, rfl, rfl⟩
          · rw [List.append_assoc, List.cons_append]
          · exact List.mem_append_right _ List.mem_cons_self
        refine Inv.put (s := s.move c x _) (hlater.move ?_) ?_
        · exact hmade
        · intro state hstate
          obtain rfl := Option.some.inj hstate
          exact hmade
    | loaded token => exact hlater
    | deleting token reason => exact hlater
    | running state resumed reason => exact hlater
    | failed => exact hlater

theorem inv_runLive (h : Inv postgresql es s) (c : ℕ) : Inv postgresql es (runLive s c) := by
  unfold runLive
  cases hx : s.consultations c with
  | none => exact h
  | some x =>
    dsimp only
    cases hphase : x.phase with
    | running state resumed reason =>
      cases hstored : s.store (sessionKey x.customerId x.sessionId) with
      | none => exact h.move trivial
      | some stored => exact h.move (h.stored _ _ hstored)
    | loaded token => exact h
    | deleting token reason => exact h
    | creating token reason => exact h
    | failed => exact h

theorem inv_deleteListed (h : Inv postgresql es s) (n : ℕ) (key : SessionKey) :
    Inv postgresql es (deleteListed s n key) := by
  unfold deleteListed
  split
  · have hlisted : Inv postgresql es { s with
        listed := Function.update s.listed n (Function.update (s.listed n) key false) } :=
      ⟨h.epochs, h.stored, h.founded⟩
    apply hlisted.put
    rintro state ⟨⟩
  · exact h

theorem inv_complete (h : Inv postgresql es s) (c : ℕ) (completionStatus : Option String) :
    Inv postgresql es (complete s c completionStatus) := by
  unfold complete
  cases hx : s.consultations c with
  | none => exact h
  | some x =>
    have hfounded := h.founded c x hx
    dsimp only
    cases hphase : x.phase with
    | running state resumed reason =>
      simp only [Founded, hphase] at hfounded
      have hmoved : Inv postgresql es
          (s.move c x (.running { state with completionStatus } resumed reason)) := h.move hfounded
      apply hmoved.put
      intro stored hstored
      obtain ⟨original, horiginal, rfl⟩ := Option.map_eq_some_iff.mp hstored
      exact h.stored _ original horiginal
    | loaded token => exact h
    | deleting token reason => exact h
    | creating token reason => exact h
    | failed => exact h

theorem inv_next (h : Inv postgresql es s) :
    Inv postgresql (es ++ [e]) (agentNext postgresql ttlSeconds s e) := by
  cases e with
  | reset scope =>
    refine ⟨?_, ?_, ?_⟩
    · have hstep : epochsAfter postgresql (es ++ [.reset scope]) =
          reset postgresql (epochsAfter postgresql es) scope := by
        unfold epochsAfter afterResets scopes
        rw [List.filterMap_append, List.foldl_append]
        rfl
      rw [hstep, ← h.epochs]
      rfl
    · intro key state hstate
      exact (h.stored key state hstate).later
    · intro c x hx
      exact (h.founded c x hx).later
  | load c customerId sessionId answered =>
    have hlater : Inv postgresql (es ++ [.load c customerId sessionId answered]) s := h.later rfl
    refine ⟨hlater.epochs, hlater.stored, ?_⟩
    intro d y hy
    by_cases hd : d = c
    · subst hd
      simp only [agentNext, Function.update_self, Option.some.injEq] at hy
      subst hy
      exact ⟨es, answered, [], rfl, by rw [h.epochs]⟩
    · simp only [agentNext, Function.update_of_ne hd] at hy
      exact hlater.founded d y hy
  | getSession c now => exact inv_getSession (h.later rfl) c now
  | deleteSession c => exact inv_deleteSession (h.later rfl) c
  | createSession c now accepted => exact inv_createSession ttlSeconds h c now accepted
  | runLive c => exact inv_runLive (h.later rfl) c
  | complete c completionStatus => exact inv_complete (h.later rfl) c completionStatus
  | listSessions n now =>
    have hlater : Inv postgresql (es ++ [.listSessions n now]) s := h.later rfl
    exact ⟨hlater.epochs, hlater.stored, hlater.founded⟩
  | deleteListed n key => exact inv_deleteListed (h.later rfl) n key

theorem inv_run (es : List AgentEvent) :
    Inv postgresql es ((agentRuns postgresql ttlSeconds).final emptySystem es) := by
  have hstart : Inv postgresql [] emptySystem := by
    refine ⟨rfl, ?_, ?_⟩
    · rintro key state ⟨⟩
    · rintro c x ⟨⟩
  refine history_of_each (C := fun _ _ => True) hstart ?_ (each_of_forall (fun _ _ => trivial) _)
  intro es s e h _
  exact inv_next ttlSeconds h

end

theorem token_ne_empty (g : ResetGeneration) : g.token ≠ "" := by
  intro h
  have hcolon : ':' ∈ g.token.toList := by simp [ResetGeneration.token, String.toList_append]
  rw [h] at hcolon
  simp at hcolon

def checkAttempts (failures : ℕ) (current : String) : List (Option String) :=
  List.replicate failures none ++ [some current]

theorem first_answer (failures : ℕ) (current : String) :
    ((checkAttempts failures current).take RESET_CHECK_ATTEMPTS).findSome? id =
      if failures < RESET_CHECK_ATTEMPTS then some current else none := by
  unfold checkAttempts
  by_cases hfew : failures < RESET_CHECK_ATTEMPTS
  · rw [if_pos hfew, List.take_of_length_le, List.findSome?_append]
    · have hnone : (List.replicate failures (none : Option String)).findSome? id = none := by
        rw [List.findSome?_eq_none_iff]
        intro x hx
        rw [List.eq_of_mem_replicate hx]
        rfl
      rw [hnone]
      rfl
    · rw [List.length_append, List.length_replicate, List.length_singleton]
      exact hfew
  · rw [if_neg hfew, List.take_append_of_le_length, List.take_replicate,
      List.findSome?_eq_none_iff]
    · intro x hx
      rw [List.eq_of_mem_replicate hx]
      rfl
    · rw [List.length_replicate]
      omega

theorem resetGenerationBlock_eq_none {state : SessionState} {token : String}
    (htoken : state.resetGenerationToken = some token) (hgiven : token ≠ "") (failures : ℕ)
    (current : String) : resetGenerationBlock state (checkAttempts failures current) = none ↔
      failures < RESET_CHECK_ATTEMPTS ∧ current = token := by
  have hexpected : state.expectedGeneration = token := by
    simp [SessionState.expectedGeneration, htoken, Option.filter, hgiven]
  unfold resetGenerationBlock validateResetGeneration
  rw [hexpected, if_neg hgiven, first_answer]
  by_cases hfew : failures < RESET_CHECK_ATTEMPTS
  · by_cases hsame : current = token
    · simp [hfew, hsame]
    · simp [hfew, hsame]
  · simp [hfew]

theorem key_injective {customerId customerId' sessionId sessionId' : String}
    (h : sessionKey customerId sessionId = sessionKey customerId' sessionId') :
    customerId = customerId' ∧ sessionId = sessionId' := by
  unfold sessionKey at h
  rw [SessionKey.mk.injEq] at h
  refine ⟨?_, h.2⟩
  have hlist := congrArg String.toList h.1
  rw [String.toList_append, String.toList_append] at hlist
  exact String.toList_injective (List.append_cancel_left hlist)

section

variable (postgresql : Bool)

/-- The bootstrap's token is still the current one: the resets that decide it are those since the
load, or all of them where the bootstrap raised. -/
theorem bootstrap_current (before after : List AgentEvent) (c : ℕ)
    (customerId sessionId : String) (answered : Bool) :
    let es := before ++ .load c customerId sessionId answered :: after
    (getResetGeneration postgresql (epochsAfter postgresql es) customerId).token =
        bootstrapToken postgresql (epochsAfter postgresql before) customerId answered ↔
      (postgresql = true → ∀ scope ∈ scopes (if answered then after else es),
        ¬ scope.Concerns customerId) := by
  intro es
  cases answered with
  | true =>
    have hsplit : epochsAfter postgresql es =
        afterResets postgresql (epochsAfter postgresql before) (scopes after) := by
      unfold epochsAfter afterResets
      rw [← List.foldl_append]
      congr 1
      unfold scopes
      rw [List.filterMap_append, List.filterMap_cons]
      rfl
    rw [hsplit]
    exact generation_unchanged postgresql _ _ customerId
  | false =>
    have hdefault : bootstrapToken postgresql (epochsAfter postgresql before) customerId false =
        (getResetGeneration postgresql (fun _ => none) customerId).token := by
      have hzero : "0:0" = (⟨0, 0⟩ : ResetGeneration).token := by decide
      cases postgresql <;> exact hzero
    rw [hdefault]
    exact generation_unchanged postgresql _ _ customerId

/-- In every run a running session, resumed or not, goes back to the consultation that created it,
and its consequential tools are let through until the first reset that concerns the customer since
that consultation read the generation, as long as one of three attempts is answered. -/
theorem tools_until_reset (ttlSeconds : ℤ) (es : List AgentEvent) (c : ℕ)
    (customerId sessionId : String) (state : SessionState) (resumed : Bool) (reason : String)
    (running : ((agentRuns postgresql ttlSeconds).final emptySystem es).consultations c =
      some ⟨customerId, sessionId, .running state resumed reason⟩) :
    ∃ before d answered after now,
      es = before ++ .load d customerId sessionId answered :: after ∧
      .createSession d now true ∈ after ∧
      state.persistence.map Persistence.createdAt = some now ∧
      ∀ failures, resetGenerationBlock state (checkAttempts failures
          (getResetGeneration postgresql
            ((agentRuns postgresql ttlSeconds).final emptySystem es).epochs customerId).token) =
          none ↔
        failures < RESET_CHECK_ATTEMPTS ∧
        (postgresql = true → ∀ scope ∈ scopes (if answered then after else es),
          ¬ scope.Concerns customerId) := by
  have hinv := @inv_run postgresql ttlSeconds es
  have hmade : Made postgresql es (sessionKey customerId sessionId) state :=
    hinv.founded c _ running
  obtain ⟨before, d, customer, session, answered, after, now, hes, hcreated, hkey, htoken,
    htime⟩ := hmade
  obtain ⟨rfl, rfl⟩ := key_injective hkey
  have hgiven :
    bootstrapToken postgresql (epochsAfter postgresql before) customerId answered ≠ "" := by
    cases answered with
    | true => exact token_ne_empty _
    | false =>
      have hdefault : "0:0" ≠ "" := by decide
      exact hdefault
  refine ⟨before, d, answered, after, now, hes, hcreated, htime, ?_⟩
  intro failures
  rw [resetGenerationBlock_eq_none htoken hgiven, hinv.epochs]
  subst hes
  exact and_congr_right fun _ =>
    bootstrap_current postgresql before after d customerId sessionId answered

end

/-- A consultation, a reset of its customer, and a second consultation that replaces the session,
which the first one's next stream starts on. -/
def reconnected : List AgentEvent :=
  [.load 1 "ann" "s" true, .getSession 1 10, .createSession 1 11 true, .runLive 1,
    .reset (.customer "ann"), .load 2 "ann" "s" true, .getSession 2 20, .deleteSession 2,
    .createSession 2 21 true, .runLive 1]

theorem reconnected_until_reset :
    ∃ before d answered after,
      reconnected = before ++ .load d "ann" "s" answered :: after ∧
      .createSession d 21 true ∈ after ∧
      ∀ failures, resetGenerationBlock
          (withPersistenceMetadata 43200 (initialState "0:1") "0:1" 21)
          (checkAttempts failures
            (getResetGeneration true ((agentRuns true 43200).final emptySystem reconnected).epochs
              "ann").token) = none ↔
        failures < RESET_CHECK_ATTEMPTS ∧
        ∀ scope ∈ scopes (if answered then after else reconnected), ¬ scope.Concerns "ann" := by
  have hrunning : ((agentRuns true 43200).final emptySystem reconnected).consultations 1 =
      some ⟨"ann", "s", .running (withPersistenceMetadata 43200 (initialState "0:1") "0:1" 21) false
        "SESSION_NOT_FOUND"⟩ := by decide +kernel
  obtain ⟨before, d, answered, after, now, hes, hcreated, htime, htools⟩ :=
    tools_until_reset true 43200 reconnected 1 "ann" "s" _ false "SESSION_NOT_FOUND" hrunning
  obtain rfl := Option.some.inj htime
  refine ⟨before, d, answered, after, hes, hcreated, ?_⟩
  intro failures
  refine (htools failures).trans (and_congr_right fun _ => ?_)
  exact ⟨fun h => h rfl, fun h _ => h⟩

end BankingService.SessionStore
