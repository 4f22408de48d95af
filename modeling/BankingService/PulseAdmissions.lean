import BankingService.Library.Expiring
import BankingService.Library.Runs

/-! The data generator's pulses. A request for a pulse is admitted by two keys in Redis, its event's
and the active pulse's, runs under its process's own lock, and gives the second key back with a read
and a delete. The server may execute a command late, again or never, replies may be lost, and
processes stop at any point. -/
namespace BankingService.PulseAdmissions

open Expiring Runs

structure PulseConfig where
  activeLockTtl : ℕ
  eventDedupTtl : ℕ
  localDev : Bool
  redisRequired : Bool
  activeLockTtl_pos : 0 < activeLockTtl
  eventDedupTtl_pos : 0 < eventDedupTtl

def PulseConfig.needsRedis (config : PulseConfig) : Bool := !config.localDev && config.redisRequired

def activeLockKey : String := "data-generator:pulse:active"

def eventKey (eventId : String) : String := "data-generator:pulse:event:" ++ eventId

theorem eventKey_injective {a b : String} (h : eventKey a = eventKey b) : a = b :=
  String.append_right_inj _ |>.mp h

theorem activeLockKey_ne (eventId : String) : activeLockKey ≠ eventKey eventId := by
  intro h
  have hchar := congrArg (fun s => s.toList[21]?) h
  unfold eventKey at hchar
  simp only [String.toList_append] at hchar
  rw [List.getElem?_append_left (by decide)] at hchar
  exact absurd hchar (by decide)

structure PulseAdmission where
  admitted : Bool
  status : String
  message : String
  hasClient : Bool
  deriving DecidableEq, Repr

def processLocal : PulseAdmission :=
  { admitted := true
    status := "ADMITTED"
    message := "Pulse admitted with process-local admission control."
    hasClient := false }

def unavailable : PulseAdmission :=
  { admitted := false
    status := "SKIPPED_ADMISSION_UNAVAILABLE"
    message :=
      "Pulse admission control is unavailable; skipped to avoid scheduler retry amplification."
    hasClient := false }

def duplicateEvent : PulseAdmission :=
  { admitted := false
    status := "SKIPPED_DUPLICATE_EVENT"
    message := "Scheduler/Eventarc pulse event was already admitted."
    hasClient := true }

def activePulse : PulseAdmission :=
  { admitted := false
    status := "SKIPPED_ACTIVE_PULSE"
    message := "Another simulation pulse is already active."
    hasClient := true }

def failed : PulseAdmission :=
  { admitted := false
    status := "SKIPPED_ADMISSION_UNAVAILABLE"
    message :=
      "Pulse admission control failed; skipped to avoid scheduler retry amplification."
    hasClient := false }

def distributed : PulseAdmission :=
  { admitted := true
    status := "ADMITTED"
    message := "Pulse admitted."
    hasClient := true }

inductive Command where
  | setEvent
  | setActive
  | getActive
  | deleteActive
  deriving DecidableEq, Repr

/-- Where `simulate_pulse` is: before the answer to a command of `admit_pulse`, which is tried
again once, admitted, in the pulse, or before the answer to a command of the release. -/
inductive Phase where
  | setsEvent (attempt : ℕ)
  | setsActive (attempt : ℕ)
  | admitted
  | running
  | getsActive
  | deletesActive
  | over
  deriving DecidableEq, Repr

def Phase.command : Phase → Option Command
  | .setsEvent _ => some .setEvent
  | .setsActive _ => some .setActive
  | .getsActive => some .getActive
  | .deletesActive => some .deleteActive
  | _ => none

def named (eventId : Option String) : Option String := eventId.filter fun id => id ≠ ""

/-- `reply` is the server's last answer to the command that is waited for, and `lockedUntil` the
deadline that the active key was last written with, until the delete. -/
structure PulseRequest where
  process : ℕ
  eventId : Option String
  phase : Phase
  reply : Option Bool
  sent : List Command
  admission : Option PulseAdmission
  lockedUntil : Option ℕ
  deriving DecidableEq, Repr

namespace PulseRequest

def goTo (r : PulseRequest) (phase : Phase) : PulseRequest :=
  { r with phase := phase, reply := none, sent := r.sent ++ phase.command.toList }

def event? (r : PulseRequest) : Option String := named r.eventId

/-- One turn of the loop of `admit_pulse`. -/
def attempt (r : PulseRequest) (n : ℕ) : PulseRequest :=
  match r.event? with
  | some _ => r.goTo (.setsEvent n)
  | none => r.goTo (.setsActive n)

def admitAs (r : PulseRequest) (admission : PulseAdmission) : PulseRequest :=
  { r with admission := some admission }.goTo (if admission.admitted then .admitted else .over)

/-- `release_pulse_admission`: without a client there is nothing to give back. -/
def release (r : PulseRequest) : PulseRequest :=
  r.goTo (if r.admission.any PulseAdmission.hasClient then .getsActive else .over)

def Locked (r : PulseRequest) (now : ℕ) : Prop := ∃ t, r.lockedUntil = some t ∧ now < t

instance (r : PulseRequest) (now : ℕ) : Decidable (r.Locked now) :=
  decidable_of_iff (r.lockedUntil.any fun t => now < t) (by simp [Locked, Option.any_eq_true])

/-- From the accepted lock to the end of the pulse. -/
def Holding (r : PulseRequest) : Prop :=
  r.phase = .admitted ∨ r.phase = .running ∨
    (r.phase.command = some .setActive ∧ r.reply = some true)

instance (r : PulseRequest) : Decidable r.Holding :=
  inferInstanceAs (Decidable (_ ∨ _ ∨ _))

def Fresh (r : PulseRequest) : Prop :=
  .deleteActive ∈ r.sent → r.phase = .deletesActive ∨ r.phase = .over

/-- Past the event's key. -/
def Passed (r : PulseRequest) (id : String) : Prop :=
  r.event? = some id ∧ ((∃ n, r.phase = .setsActive n) ∨
    (r.phase.command = some .setEvent ∧ r.reply = some true) ∨ r.admission = some distributed)

end PulseRequest

/-- `_redis_client` and `_redis_disabled`. -/
inductive ClientState where
  | unset
  | connected
  | disabled
  deriving DecidableEq, Repr

/-- `reachable` is whether the ping of a new client is answered. -/
def getPulseRedisClient (client : ClientState) (reachable : Bool) : ClientState × Bool :=
  match client with
  | .disabled => (.disabled, false)
  | .connected => (.connected, true)
  | .unset => if reachable then (.connected, true) else (.disabled, false)

/-- An event's key that the server wrote for a request. -/
structure EventWin where
  eventId : String
  request : ℕ
  time : ℕ
  deriving DecidableEq, Repr

/-- A request is named by its place, which is its token as well; `pulseLock` says which request
holds the lock of a process. -/
structure PulseWorld where
  now : ℕ
  redis : Store String ℕ
  clients : ℕ → ClientState
  pulseLock : ℕ → Option ℕ
  requests : List PulseRequest
  eventsWon : List EventWin

def idle : PulseWorld :=
  { now := 0, redis := fun _ => none, clients := fun _ => .unset, pulseLock := fun _ => none,
    requests := [], eventsWon := [] }

inductive PulseEvent where
  | tick (d : ℕ)
  | arrive (process : ℕ) (eventId : Option String) (reachable : Bool)
  | execute (w : ℕ) (c : Command)
  | answer (w : ℕ)
  | fail (w : ℕ) (reachable : Bool)
  | start (w : ℕ)
  | finish (w : ℕ)
  | crash (process : ℕ)
  deriving DecidableEq, Repr

namespace PulseWorld

def put (s : PulseWorld) (w : ℕ) (r : PulseRequest) : PulseWorld :=
  { s with requests := s.requests.set w r }

/-- The request with the server's answer, where it waits for one to this command. -/
def hear (r : PulseRequest) (c : Command) (reply : Bool) : PulseRequest :=
  if r.phase.command = some c then { r with reply := some reply } else r

def setEvent (config : PulseConfig) (s : PulseWorld) (w : ℕ) (r : PulseRequest) (id : String) :
    PulseWorld :=
  let outcome := setNx s.redis s.now config.eventDedupTtl (eventKey id) w
  { s with redis := outcome.1
           eventsWon := if outcome.2 then ⟨id, w, s.now⟩ :: s.eventsWon else s.eventsWon }.put w
    (hear r .setEvent outcome.2)

def lock (r : PulseRequest) (accepted : Bool) (deadline : ℕ) : PulseRequest :=
  if accepted then { r with lockedUntil := some deadline } else r

def setActive (config : PulseConfig) (s : PulseWorld) (w : ℕ) (r : PulseRequest) : PulseWorld :=
  let outcome := setNx s.redis s.now config.activeLockTtl activeLockKey w
  { s with redis := outcome.1 }.put w
    (hear (lock r outcome.2 (s.now + config.activeLockTtl)) .setActive outcome.2)

/-- The server executes a command that the request has sent. -/
def execute (config : PulseConfig) (s : PulseWorld) (w : ℕ) (r : PulseRequest) :
    Command → PulseWorld
  | .setEvent =>
    match r.event? with
    | some id => s.setEvent config w r id
    | none => s
  | .setActive => s.setActive config w r
  | .getActive => s.put w (hear r .getActive (get s.redis s.now activeLockKey = some w))
  | .deleteActive =>
    { s with redis := delete s.redis activeLockKey }.put w
      (hear { r with lockedUntil := none } .deleteActive true)

def answered (r : PulseRequest) : PulseRequest :=
  match r.phase, r.reply with
  | .setsEvent n, some true => r.goTo (.setsActive n)
  | .setsEvent _, some false => r.admitAs duplicateEvent
  | .setsActive _, some true => r.admitAs distributed
  | .setsActive _, some false => r.admitAs activePulse
  | .getsActive, some true => r.goTo .deletesActive
  | .getsActive, some false => r.goTo .over
  | .deletesActive, some _ => r.goTo .over
  | _, _ => r

/-- The handler of `admit_pulse`, on its first and on its second attempt. -/
def retry (s : PulseWorld) (w : ℕ) (r : PulseRequest) (n : ℕ) (reachable : Bool) : PulseWorld :=
  if n = 0 then
    let (client, available) := getPulseRedisClient .unset reachable
    { s with clients := Function.update s.clients r.process client }.put w
      (if available then r.attempt 1 else r.admitAs failed)
  else s.put w (r.admitAs failed)

def raises (s : PulseWorld) (w : ℕ) (r : PulseRequest) (reachable : Bool) : PulseWorld :=
  match r.phase with
  | .setsEvent n => s.retry w r n reachable
  | .setsActive n => s.retry w r n reachable
  | .getsActive => s.put w (r.goTo .over)
  | .deletesActive => s.put w (r.goTo .over)
  | _ => s

/-- The rest of `simulate_pulse` under the process's lock, or past it. -/
def startPulse (s : PulseWorld) (w : ℕ) (r : PulseRequest) : PulseWorld :=
  if r.phase = .admitted then
    match s.pulseLock r.process with
    | some _ => s.put w r.release
    | none =>
      { s with pulseLock := Function.update s.pulseLock r.process (some w) }.put w (r.goTo .running)
  else s

def finishPulse (s : PulseWorld) (w : ℕ) (r : PulseRequest) : PulseWorld :=
  if r.phase = .running then
    { s with pulseLock := Function.update s.pulseLock r.process none }.put w r.release
  else s

def newRequest (process : ℕ) (eventId : Option String) : PulseRequest :=
  { process := process, eventId := eventId, phase := .over, reply := none, sent := [],
    admission := none, lockedUntil := none }

/-- The request of `admit_pulse` up to its first command. -/
def arrival (config : PulseConfig) (process : ℕ) (eventId : Option String) (available : Bool) :
    PulseRequest :=
  if available then (newRequest process eventId).attempt 0
  else (newRequest process eventId).admitAs
    (if config.needsRedis then unavailable else processLocal)

def stopped (process : ℕ) (r : PulseRequest) : PulseRequest :=
  if r.process = process then { r with phase := .over, reply := none } else r

def next (config : PulseConfig) (s : PulseWorld) : PulseEvent → PulseWorld
  | .tick d => { s with now := s.now + d }
  | .arrive process eventId reachable =>
    let (client, available) := getPulseRedisClient (s.clients process) reachable
    { s with clients := Function.update s.clients process client
             requests := s.requests ++ [arrival config process eventId available] }
  | .execute w c =>
    match s.requests[w]? with
    | some r => if c ∈ r.sent then s.execute config w r c else s
    | none => s
  | .answer w =>
    match s.requests[w]? with
    | some r => s.put w (answered r)
    | none => s
  | .fail w reachable =>
    match s.requests[w]? with
    | some r => s.raises w r reachable
    | none => s
  | .start w =>
    match s.requests[w]? with
    | some r => s.startPulse w r
    | none => s
  | .finish w =>
    match s.requests[w]? with
    | some r => s.finishPulse w r
    | none => s
  | .crash process =>
    { s with clients := Function.update s.clients process .unset
             pulseLock := Function.update s.pulseLock process none
             requests := s.requests.map (stopped process) }

end PulseWorld

def served (w process : ℕ) (eventId : Option String) : List PulseEvent :=
  [.arrive process eventId true, .execute w .setEvent, .answer w, .execute w .setActive, .answer w,
    .start w]

/-- Every event is enabled: one that is not its request's to take leaves the world as it is. -/
def pulses (config : PulseConfig) : Machine PulseWorld PulseEvent where
  Enabled _ _ := True
  next := PulseWorld.next config

structure Own (r r' : PulseRequest) : Prop where
  process : r'.process = r.process
  eventId : r'.eventId = r.eventId
  lockedUntil : r'.lockedUntil = r.lockedUntil
  holding : r'.Holding → r.Holding
  passed : ∀ id, r'.Passed id → r.Passed id
  fresh : r.Fresh → r'.Fresh
  admission : ∀ a, r'.admission = some a → a.admitted = true →
    r.admission = some a ∨ a = distributed

namespace PulseRequest

variable {r : PulseRequest}

@[simp] theorem goTo_phase (phase : Phase) : (r.goTo phase).phase = phase := rfl
@[simp] theorem goTo_reply (phase : Phase) : (r.goTo phase).reply = none := rfl
@[simp] theorem goTo_process (phase : Phase) : (r.goTo phase).process = r.process := rfl
@[simp] theorem goTo_eventId (phase : Phase) : (r.goTo phase).eventId = r.eventId := rfl
@[simp] theorem goTo_event? (phase : Phase) : (r.goTo phase).event? = r.event? := rfl
@[simp] theorem goTo_admission (phase : Phase) : (r.goTo phase).admission = r.admission := rfl
@[simp] theorem goTo_lockedUntil (phase : Phase) : (r.goTo phase).lockedUntil = r.lockedUntil := rfl
@[simp] theorem goTo_sent (phase : Phase) :
    (r.goTo phase).sent = r.sent ++ phase.command.toList := rfl

theorem holding_goTo {phase : Phase} :
    (r.goTo phase).Holding ↔ phase = .admitted ∨ phase = .running := by
  simp [Holding]

theorem passed_goTo {phase : Phase} {id : String} : (r.goTo phase).Passed id ↔
    r.event? = some id ∧ ((∃ n, phase = .setsActive n) ∨ r.admission = some distributed) := by
  simp [Passed]

theorem Fresh.over (h : r.phase = .over) : r.Fresh := fun _ => .inr h

theorem Fresh.goTo (h : r.Fresh) (hd : r.phase ≠ .deletesActive) (ho : r.phase ≠ .over)
    (phase : Phase) : (r.goTo phase).Fresh := by
  intro hsent
  rcases List.mem_append.mp hsent with hold | hnew
  · exact ((h hold).elim hd ho).elim
  · cases phase <;> simp_all [Phase.command]

end PulseRequest

@[simp] theorem newRequest_process (process : ℕ) (eventId : Option String) :
    (PulseWorld.newRequest process eventId).process = process := rfl
@[simp] theorem newRequest_event? (process : ℕ) (eventId : Option String) :
    (PulseWorld.newRequest process eventId).event? = named eventId := rfl
@[simp] theorem newRequest_sent (process : ℕ) (eventId : Option String) :
    (PulseWorld.newRequest process eventId).sent = [] := rfl
@[simp] theorem newRequest_admission (process : ℕ) (eventId : Option String) :
    (PulseWorld.newRequest process eventId).admission = none := rfl

theorem Own.refl (r : PulseRequest) : Own r r where
  process := rfl
  eventId := rfl
  lockedUntil := rfl
  holding := id
  passed _ := id
  fresh := id
  admission _ h _ := .inl h

section

variable {r : PulseRequest} {phase : Phase}

theorem Own.goTo (hold : phase = .admitted ∨ phase = .running → r.Holding)
    (pass : ∀ n, phase = .setsActive n → ∀ id, r.event? = some id → r.Passed id)
    (fresh : r.Fresh → (r.goTo phase).Fresh) : Own r (r.goTo phase) where
  process := rfl
  eventId := rfl
  lockedUntil := rfl
  holding h := hold (PulseRequest.holding_goTo.mp h)
  passed id h := by
    obtain ⟨hid, ⟨n, hn⟩ | hadm⟩ := PulseRequest.passed_goTo.mp h
    · exact pass n hn id hid
    · exact ⟨hid, .inr (.inr hadm)⟩
  fresh := fresh
  admission _ h _ := .inl h

theorem Own.goOver (r : PulseRequest) : Own r (r.goTo .over) :=
  Own.goTo (by simp) (by simp) fun _ => .over rfl

theorem Own.admitAs {a : PulseAdmission} (hd : r.phase ≠ .deletesActive) (ho : r.phase ≠ .over)
    (hold : a.admitted = true → r.Holding)
    (pass : a = distributed → ∀ id, r.event? = some id → r.Passed id)
    (known : a.admitted = true → a = distributed) : Own r (r.admitAs a) where
  process := rfl
  eventId := rfl
  lockedUntil := rfl
  holding h := by
    cases ha : a.admitted with
    | true => exact hold ha
    | false => simp [PulseRequest.admitAs, PulseRequest.holding_goTo, ha] at h
  passed id h := by
    obtain ⟨hid, ⟨n, hn⟩ | hadm⟩ := PulseRequest.passed_goTo.mp h
    · cases ha : a.admitted <;> simp [ha] at hn
    · exact pass (Option.some.inj hadm) id hid
  fresh h := PulseRequest.Fresh.goTo (r := { r with admission := some a }) h hd ho _
  admission b hb hadm := by
    have hab : a = b := Option.some.inj hb
    subst hab
    exact .inr (known hadm)

theorem Own.refuse {a : PulseAdmission} (hd : r.phase ≠ .deletesActive) (ho : r.phase ≠ .over)
    (refused : a.admitted = false) : Own r (r.admitAs a) :=
  Own.admitAs hd ho (by simp [refused]) (fun h => by simp [h, distributed] at refused)
    (by simp [refused])

theorem Own.attempt (hd : r.phase ≠ .deletesActive) (ho : r.phase ≠ .over) (n : ℕ) :
    Own r (r.attempt n) := by
  unfold PulseRequest.attempt
  cases he : r.event? with
  | none => exact Own.goTo (by simp) (fun _ _ id hid => by simp [he] at hid) fun h => h.goTo hd ho _
  | some _ => exact Own.goTo (by simp) (by simp) fun h => h.goTo hd ho _

theorem Own.release (hd : r.phase ≠ .deletesActive) (ho : r.phase ≠ .over) : Own r r.release := by
  unfold PulseRequest.release
  split
  · exact Own.goTo (by simp) (by simp) fun h => h.goTo hd ho _
  · exact Own.goOver r

theorem Own.answered (r : PulseRequest) : Own r (PulseWorld.answered r) := by
  unfold PulseWorld.answered
  split
  case h_1 n hp hr =>
    exact Own.goTo (by simp) (fun _ _ id hid => ⟨hid, .inr (.inl ⟨by rw [hp]; rfl, hr⟩)⟩)
      fun h => h.goTo (by simp [hp]) (by simp [hp]) _
  case h_2 hp _ => exact Own.refuse (by simp [hp]) (by simp [hp]) rfl
  case h_3 n hp hr =>
    exact Own.admitAs (by simp [hp]) (by simp [hp])
      (fun _ => .inr (.inr ⟨by rw [hp]; rfl, hr⟩)) (fun _ id hid => ⟨hid, .inl ⟨n, hp⟩⟩)
      fun _ => rfl
  case h_4 hp _ => exact Own.refuse (by simp [hp]) (by simp [hp]) rfl
  case h_5 hp _ =>
    exact Own.goTo (by simp) (by simp) fun h => h.goTo (by simp [hp]) (by simp [hp]) _
  case h_6 => exact Own.goOver r
  case h_7 => exact Own.goOver r
  case h_8 => exact Own.refl r

theorem Own.start (h : r.phase = .admitted) : Own r (r.goTo .running) :=
  Own.goTo (fun _ => .inl h) (by simp) fun hf => hf.goTo (by simp [h]) (by simp [h]) _

end

section

open PulseWorld

variable {config : PulseConfig} {s : PulseWorld} {w v : ℕ} {r q : PulseRequest}

@[simp] theorem lock_phase (b : Bool) (t : ℕ) : (lock r b t).phase = r.phase := by
  unfold lock
  split <;> rfl

@[simp] theorem lock_process (b : Bool) (t : ℕ) : (lock r b t).process = r.process := by
  unfold lock
  split <;> rfl

@[simp] theorem lock_eventId (b : Bool) (t : ℕ) : (lock r b t).eventId = r.eventId := by
  unfold lock
  split <;> rfl

@[simp] theorem lock_sent (b : Bool) (t : ℕ) : (lock r b t).sent = r.sent := by
  unfold lock
  split <;> rfl

@[simp] theorem lock_admission (b : Bool) (t : ℕ) : (lock r b t).admission = r.admission := by
  unfold lock
  split <;> rfl

@[simp] theorem lock_reply (b : Bool) (t : ℕ) : (lock r b t).reply = r.reply := by
  unfold lock
  split <;> rfl

@[simp] theorem hear_phase (c : Command) (b : Bool) : (hear r c b).phase = r.phase := by
  unfold hear
  split <;> rfl

@[simp] theorem hear_process (c : Command) (b : Bool) : (hear r c b).process = r.process := by
  unfold hear
  split <;> rfl

@[simp] theorem hear_eventId (c : Command) (b : Bool) : (hear r c b).eventId = r.eventId := by
  unfold hear
  split <;> rfl

@[simp] theorem hear_sent (c : Command) (b : Bool) : (hear r c b).sent = r.sent := by
  unfold hear
  split <;> rfl

@[simp] theorem hear_admission (c : Command) (b : Bool) :
    (hear r c b).admission = r.admission := by
  unfold hear
  split <;> rfl

@[simp] theorem hear_lockedUntil (c : Command) (b : Bool) :
    (hear r c b).lockedUntil = r.lockedUntil := by
  unfold hear
  split <;> rfl

theorem put_same (h : s.requests[w]? = some r) : (s.put w q).requests[w]? = some q :=
  List.getElem?_set_self (List.getElem?_eq_some_iff.mp h).1

theorem put_other (hne : v ≠ w) : (s.put w q).requests[v]? = s.requests[v]? :=
  List.getElem?_set_ne hne.symm

theorem forall_put {φ : ℕ → PulseRequest → Prop} (changed : φ w q)
    (others : ∀ v r, v ≠ w → s.requests[v]? = some r → φ v r) :
    ∀ v r, (s.put w q).requests[v]? = some r → φ v r := by
  intro v r hr
  by_cases hv : v = w
  · subst hv
    cases hs : s.requests[v]? with
    | none =>
      rw [PulseWorld.put, List.getElem?_set, hs] at hr
      simp_all
    | some _ =>
      rw [put_same hs] at hr
      cases hr
      exact changed
  · rw [put_other hv] at hr
    exact others v r hv hr

/-- A step that leaves the server alone: each request is as it was or has taken a step of its
own. -/
structure OwnStep (s s' : PulseWorld) : Prop where
  now : s'.now = s.now
  redis : s'.redis = s.redis
  eventsWon : s'.eventsWon = s.eventsWon
  requests : ∀ (v : ℕ) (q : PulseRequest), s'.requests[v]? = some q →
    ∃ r, s.requests[v]? = some r ∧ Own r q

theorem OwnStep.refl (s : PulseWorld) : OwnStep s s where
  now := rfl
  redis := rfl
  eventsWon := rfl
  requests _ q h := ⟨q, h, .refl q⟩

theorem OwnStep.put (h : s.requests[w]? = some r) (own : Own r q) (clients : ℕ → ClientState)
    (lock : ℕ → Option ℕ) :
    OwnStep s ({ s with clients := clients, pulseLock := lock }.put w q) where
  now := rfl
  redis := rfl
  eventsWon := rfl
  requests := forall_put ⟨r, h, own⟩ fun _ r' _ hr' => ⟨r', hr', .refl r'⟩

theorem OwnStep.raises (h : s.requests[w]? = some r) (reachable : Bool) :
    OwnStep s (s.raises w r reachable) := by
  have hretry : ∀ n, r.phase ≠ .deletesActive → r.phase ≠ .over →
      OwnStep s (s.retry w r n reachable) := by
    intro n hd ho
    unfold PulseWorld.retry
    split
    · dsimp only
      split
      · exact OwnStep.put h (Own.attempt hd ho 1) _ _
      · exact OwnStep.put h (Own.refuse hd ho rfl) _ _
    · exact OwnStep.put h (Own.refuse hd ho rfl) _ _
  unfold PulseWorld.raises
  split
  case h_1 n hp => exact hretry n (by simp [hp]) (by simp [hp])
  case h_2 n hp => exact hretry n (by simp [hp]) (by simp [hp])
  case h_3 => exact OwnStep.put h (Own.goOver r) _ _
  case h_4 => exact OwnStep.put h (Own.goOver r) _ _
  case h_5 => exact OwnStep.refl s

theorem OwnStep.startPulse (h : s.requests[w]? = some r) : OwnStep s (s.startPulse w r) := by
  unfold PulseWorld.startPulse
  split
  case isFalse => exact OwnStep.refl s
  case isTrue hp =>
    split
    · exact OwnStep.put h (Own.release (by simp [hp]) (by simp [hp])) _ _
    · exact OwnStep.put h (Own.start hp) _ _

theorem OwnStep.finishPulse (h : s.requests[w]? = some r) : OwnStep s (s.finishPulse w r) := by
  unfold PulseWorld.finishPulse
  split
  case isFalse => exact OwnStep.refl s
  case isTrue hp => exact OwnStep.put h (Own.release (by simp [hp]) (by simp [hp])) _ _

theorem Own.stopped (process : ℕ) (r : PulseRequest) : Own r (PulseWorld.stopped process r) := by
  unfold PulseWorld.stopped
  split
  · exact
      { process := rfl, eventId := rfl, lockedUntil := rfl
        holding := by simp [PulseRequest.Holding, Phase.command]
        passed := by
          rintro id ⟨hid, ⟨n, hn⟩ | ⟨hc, -⟩ | hadm⟩
          · cases hn
          · cases hc
          · exact ⟨hid, .inr (.inr hadm)⟩
        fresh := fun _ => .over rfl
        admission := fun _ h _ => .inl h }
  · exact Own.refl r

theorem own_step (e : PulseEvent) (ht : ∀ d, e ≠ .tick d) (ha : ∀ p i b, e ≠ .arrive p i b)
    (he : ∀ w c, e ≠ .execute w c) : OwnStep s (s.next config e) := by
  cases e with
  | tick d => exact (ht d rfl).elim
  | arrive p i b => exact (ha p i b rfl).elim
  | execute w c => exact (he w c rfl).elim
  | answer w =>
    cases h : s.requests[w]? with
    | none => simpa only [PulseWorld.next, h] using OwnStep.refl s
    | some r => simpa only [PulseWorld.next, h] using OwnStep.put h (Own.answered r) _ _
  | fail w reachable =>
    cases h : s.requests[w]? with
    | none => simpa only [PulseWorld.next, h] using OwnStep.refl s
    | some r => simpa only [PulseWorld.next, h] using OwnStep.raises h reachable
  | start w =>
    cases h : s.requests[w]? with
    | none => simpa only [PulseWorld.next, h] using OwnStep.refl s
    | some r => simpa only [PulseWorld.next, h] using OwnStep.startPulse h
  | finish w =>
    cases h : s.requests[w]? with
    | none => simpa only [PulseWorld.next, h] using OwnStep.refl s
    | some r => simpa only [PulseWorld.next, h] using OwnStep.finishPulse h
  | crash process =>
    refine ⟨rfl, rfl, rfl, fun v q hq => ?_⟩
    rw [PulseWorld.next, List.getElem?_map] at hq
    obtain ⟨r, hr, rfl⟩ := Option.map_eq_some_iff.mp hq
    exact ⟨r, hr, Own.stopped process r⟩

end

end BankingService.PulseAdmissions
