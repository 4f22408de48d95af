import BankingService.Library.Checked
import BankingService.Library.Runs
import BankingService.Python
import Mathlib.Algebra.Ring.Int.Defs
import Mathlib.Data.List.Nodup
import Mathlib.Logic.Function.Basic

/-! The voice agent's capacity. A room's session is started under a lock, after the one before it
has been cancelled and its units released; sessions end at any time. -/
namespace BankingService.SessionCapacity

open Python Checked Runs

structure CapacityReservation where
  roomName : String
  mode : String
  units : ℤ
  deriving DecidableEq, Repr

structure CapacityLimits where
  maxUnits : ℤ
  audioUnits : ℤ
  videoUnits : ℤ
  positive : 1 ≤ min maxUnits (min audioUnits videoUnits)

def CapacityLimits.modeUnits (limits : CapacityLimits) (mode : String) : Option ℤ :=
  if mode = "audio" then some limits.audioUnits
  else if mode = "video" then some limits.videoUnits
  else none

inductive CapacityException where
  | alreadyReserved (roomName : String)
  | unsupportedMode (mode : String)
  | overflow (units remaining : ℤ)
  deriving DecidableEq, Repr

/-- The texts of the `ValueError`s and of the `OverflowError`. -/
def CapacityException.message (repr : String → String) : CapacityException → String
  | .alreadyReserved roomName => "Room " ++ repr roomName ++ " already has a capacity reservation"
  | .unsupportedMode mode => "Unsupported session mode: " ++ mode
  | .overflow units remaining =>
    "Session needs " ++ toString units ++ " capacity units; " ++ toString remaining ++ " remain"

abbrev Reservations := List CapacityReservation

def usedUnits (reservations : Reservations) : ℤ := (reservations.map CapacityReservation.units).sum

def release (reservations : Reservations) (roomName : String) : Reservations :=
  reservations.filter fun r => r.roomName ≠ roomName

def reserve (limits : CapacityLimits) (reservations : Reservations) (roomName mode : String) :
    Except CapacityException (CapacityReservation × Reservations) := do
  require (roomName ∉ reservations.map CapacityReservation.roomName) (.alreadyReserved roomName)
  let units ← orRaise (limits.modeUnits mode) (.unsupportedMode mode)
  require (usedUnits reservations + units ≤ limits.maxUnits)
    (.overflow units (limits.maxUnits - usedUnits reservations))
  let reservation : CapacityReservation := ⟨roomName, mode, units⟩
  return (reservation, reservations ++ [reservation])

structure VoiceRuntimeConfig where
  audioModel : Option String
  videoModel : Option String
  limits : CapacityLimits

def given (model : Option String) : Bool := model.any fun name => name ≠ ""

def validateSessionRequest (config : VoiceRuntimeConfig) (mode : String) :
    Except String String := do
  let normalizedMode := strip (lower mode)
  require (normalizedMode = "audio" ∨ normalizedMode = "video") "mode must be 'audio' or 'video'"
  require (normalizedMode = "audio" → given config.audioModel = true)
    "VOICE_AGENT_AUDIO_MODEL is required for audio sessions"
  require (normalizedMode = "video" →
      given config.videoModel = true ∨ given config.audioModel = true)
    "A video or audio fallback model is required for video sessions"
  return normalizedMode

structure VoiceSessionStartRequest where
  roomName : String
  customerId : String
  sessionId : String
  mode : String
  deriving DecidableEq

inductive TaskState where
  | running
  | cancelled
  | finished
  deriving DecidableEq, Repr

structure VoiceTask where
  roomName : String
  mode : String
  state : TaskState
  deriving DecidableEq

/-- The registry and its lock: `starting` is the room and the mode of the request that holds it. -/
structure VoiceServer where
  reservations : Reservations
  activeSessions : String → Option ℕ
  tasks : ℕ → Option VoiceTask
  starting : Option (String × String)

/-- A request takes the lock and cancels the room's session; once that has ended, or has been waited
for long enough, the new one is launched. -/
inductive VoiceEvent where
  | start (request : VoiceSessionStartRequest)
  | launch (t : ℕ)
  | finish (t : ℕ)
  deriving DecidableEq

def VoiceServer.setTask (s : VoiceServer) (t : ℕ) (task : VoiceTask) : VoiceServer :=
  { s with tasks := Function.update s.tasks t (some task) }

/-- `active_sessions.pop(room_name)`, with the reservation. -/
def VoiceServer.dropRoom (s : VoiceServer) (roomName : String) : VoiceServer :=
  { s with
    activeSessions := Function.update s.activeSessions roomName none
    reservations := release s.reservations roomName }

section

variable (config : VoiceRuntimeConfig)

def admittedMode (request : VoiceSessionStartRequest) : Except String String := do
  require (request.roomName ≠ "" ∧ request.customerId ≠ "" ∧ request.sessionId ≠ "")
    "Missing voice session dispatch fields."
  validateSessionRequest config request.mode

def startSession (s : VoiceServer) (request : VoiceSessionStartRequest) : VoiceServer :=
  match admittedMode config request with
  | .error _ => s
  | .ok mode =>
    let s := { s with starting := some (request.roomName, mode) }
    match s.activeSessions request.roomName with
    | some t =>
      match s.tasks t with
      | some old => (s.dropRoom request.roomName).setTask t { old with state := .cancelled }
      | none => s.dropRoom request.roomName
    | none => s

def launch (s : VoiceServer) (t : ℕ) : VoiceServer :=
  match s.starting with
  | some (roomName, mode) =>
    match reserve config.limits s.reservations roomName mode with
    | .ok (_, reservations) =>
      { s.setTask t ⟨roomName, mode, .running⟩ with
        reservations
        activeSessions := Function.update s.activeSessions roomName (some t)
        starting := none }
    | .error _ => { s with starting := none }
  | none => s

/-- The end of a task, which may come after another has taken its room. -/
def finish (s : VoiceServer) (t : ℕ) : VoiceServer :=
  match s.tasks t with
  | some task =>
    let s := s.setTask t { task with state := .finished }
    if s.activeSessions task.roomName = some t then s.dropRoom task.roomName else s
  | none => s

def voiceNext (s : VoiceServer) : VoiceEvent → VoiceServer
  | .start request => startSession config s request
  | .launch t => launch config s t
  | .finish t => finish s t

def voiceRuns : Machine VoiceServer VoiceEvent where
  Enabled s
    | .start _ => s.starting = none
    | .launch t => s.tasks t = none
    | .finish _ => True
  next := voiceNext config

instance (s : VoiceServer) (e : VoiceEvent) : Decidable ((voiceRuns config).Enabled s e) :=
  match e with
  | .start _ => inferInstanceAs (Decidable (_ = _))
  | .launch _ => inferInstanceAs (Decidable (_ = _))
  | .finish _ => isTrue trivial

end

def emptyServer : VoiceServer := ⟨[], fun _ => none, fun _ => none, none⟩

def VoiceServer.Running (s : VoiceServer) (t : ℕ) (roomName mode : String) : Prop :=
  s.tasks t = some ⟨roomName, mode, .running⟩

structure Accounted (limits : CapacityLimits) (s : VoiceServer) : Prop where
  within : usedUnits s.reservations ≤ limits.maxUnits
  rooms : (s.reservations.map CapacityReservation.roomName).Nodup
  exact : ∀ r, r ∈ s.reservations ↔
    (∃ t, s.Running t r.roomName r.mode) ∧ limits.modeUnits r.mode = some r.units
  active : ∀ roomName t, s.activeSessions roomName = some t ↔ ∃ mode, s.Running t roomName mode
  admitted : ∀ t roomName mode, s.Running t roomName mode → (limits.modeUnits mode).isSome = true
  starting : ∀ roomName mode, s.starting = some (roomName, mode) →
    s.activeSessions roomName = none ∧ (limits.modeUnits mode).isSome = true

variable {config : VoiceRuntimeConfig} {s : VoiceServer}

theorem admitted_mode {request : VoiceSessionStartRequest} {mode : String}
    (h : admittedMode config request = .ok mode) :
    (config.limits.modeUnits mode).isSome = true := by
  simp only [admittedMode, validateSessionRequest, bind_eq_ok, require_eq_ok, pure_eq_ok] at h
  obtain ⟨⟨⟩, -, ⟨⟩, hmode, ⟨⟩, -, ⟨⟩, -, rfl⟩ := h
  unfold CapacityLimits.modeUnits
  rcases hmode with hmode | hmode <;> simp [hmode]

theorem Accounted.one {limits : CapacityLimits} (h : Accounted limits s) {t t' : ℕ}
    {roomName mode mode' : String} (ht : s.Running t roomName mode)
    (ht' : s.Running t' roomName mode') : t = t' := by
  have hactive := (h.active roomName t).mpr ⟨mode, ht⟩
  have hactive' := (h.active roomName t').mpr ⟨mode', ht'⟩
  exact Option.some.inj (hactive.symm.trans hactive')

theorem accounted_empty (limits : CapacityLimits) : Accounted limits emptyServer where
  within := by
    have hpositive := limits.positive
    simp only [emptyServer, usedUnits, List.map_nil, List.sum_nil]
    omega
  rooms := List.nodup_nil
  exact := by
    intro r
    constructor
    · rintro ⟨⟩
    · rintro ⟨⟨t, ⟨⟩⟩, -⟩
  active := by
    intro roomName t
    constructor
    · rintro ⟨⟩
    · rintro ⟨mode, ⟨⟩⟩
  admitted := by rintro t roomName mode ⟨⟩
  starting := by rintro roomName mode ⟨⟩

theorem running_setTask {t u : ℕ} {task : VoiceTask} {roomName mode : String} :
    (s.setTask t task).Running u roomName mode ↔
      if u = t then task = ⟨roomName, mode, .running⟩ else s.Running u roomName mode := by
  unfold VoiceServer.Running VoiceServer.setTask
  by_cases hu : u = t
  · subst hu
    rw [if_pos rfl]
    simp only [Function.update_self, Option.some.injEq]
  · rw [if_neg hu]
    simp only [Function.update_of_ne hu]

theorem modeUnits_pos {limits : CapacityLimits} {mode : String} {units : ℤ}
    (h : limits.modeUnits mode = some units) : 1 ≤ units := by
  have hpositive := limits.positive
  unfold CapacityLimits.modeUnits at h
  by_cases haudio : mode = "audio"
  · rw [if_pos haudio, Option.some.injEq] at h
    omega
  · rw [if_neg haudio] at h
    by_cases hvideo : mode = "video"
    · rw [if_pos hvideo, Option.some.injEq] at h
      omega
    · rw [if_neg hvideo] at h
      cases h

theorem release_le {reservations : Reservations} (h : ∀ r ∈ reservations, 0 ≤ r.units)
    (roomName : String) : usedUnits (release reservations roomName) ≤ usedUnits reservations := by
  induction reservations with
  | nil => exact le_refl _
  | cons r reservations ih =>
    have hrest := ih fun r hr => h r (List.mem_cons_of_mem _ hr)
    have hr := h r List.mem_cons_self
    unfold usedUnits release at hrest ⊢
    by_cases hroom : r.roomName = roomName
    · rw [List.filter_cons_of_neg (by simpa using hroom), List.map_cons, List.sum_cons]
      omega
    · rw [List.filter_cons_of_pos (by simpa using hroom), List.map_cons, List.map_cons,
        List.sum_cons, List.sum_cons]
      omega

theorem accounted_idle {limits : CapacityLimits} (h : Accounted limits s) {t : ℕ} {task : VoiceTask}
    (hbefore : ∀ roomName mode, ¬ s.Running t roomName mode) (hafter : task.state ≠ .running) :
    Accounted limits (s.setTask t task) := by
  have hrunning : ∀ u roomName mode,
      (s.setTask t task).Running u roomName mode ↔ s.Running u roomName mode := by
    intro u roomName mode
    rw [running_setTask]
    by_cases hu : u = t
    · subst hu
      rw [if_pos rfl]
      constructor
      · rintro rfl
        exact absurd rfl hafter
      · intro hr
        exact absurd hr (hbefore roomName mode)
    · rw [if_neg hu]
  refine ⟨h.within, h.rooms, ?_, ?_, ?_, h.starting⟩
  · intro r
    simp only [hrunning]
    exact h.exact r
  · intro roomName u
    simp only [hrunning]
    exact h.active roomName u
  · intro u roomName mode hr
    exact h.admitted u roomName mode ((hrunning u roomName mode).mp hr)

theorem accounted_drop {limits : CapacityLimits} (h : Accounted limits s) {t : ℕ}
    {roomName : String}
    {task : VoiceTask} (hactive : s.activeSessions roomName = some t)
    (hafter : task.state ≠ .running) :
    Accounted limits ((s.dropRoom roomName).setTask t task) := by
  obtain ⟨mode, hrun⟩ := (h.active roomName t).mp hactive
  have hrunning : ∀ u room m, ((s.dropRoom roomName).setTask t task).Running u room m ↔
      s.Running u room m ∧ room ≠ roomName := by
    intro u room m
    rw [running_setTask]
    by_cases hu : u = t
    · subst hu
      rw [if_pos rfl]
      constructor
      · rintro rfl
        exact absurd rfl hafter
      · rintro ⟨hr, hne⟩
        have hsame : (⟨room, m, .running⟩ : VoiceTask) = ⟨roomName, mode, .running⟩ :=
          Option.some.inj (Eq.trans (Eq.symm hr) hrun)
        exact absurd (congrArg VoiceTask.roomName hsame) hne
    · rw [if_neg hu]
      constructor
      · intro hr
        refine ⟨hr, ?_⟩
        rintro rfl
        exact hu (h.one hr hrun)
      · exact fun hr => hr.1
  have hunits : ∀ r ∈ s.reservations, 0 ≤ r.units := by
    intro r hr
    have hpos := modeUnits_pos ((h.exact r).mp hr).2
    omega
  refine ⟨?_, ?_, ?_, ?_, ?_, ?_⟩
  · exact (release_le hunits roomName).trans h.within
  · exact h.rooms.sublist (List.filter_sublist.map _)
  · intro r
    have hmem :
      r ∈ release s.reservations roomName ↔ r ∈ s.reservations ∧ r.roomName ≠ roomName := by
      simp [release]
    simp only [hrunning]
    refine hmem.trans ?_
    rw [h.exact r]
    constructor
    · rintro ⟨⟨⟨u, hu⟩, hm⟩, hne⟩
      exact ⟨⟨u, hu, hne⟩, hm⟩
    · rintro ⟨⟨u, hu, hne⟩, hm⟩
      exact ⟨⟨⟨u, hu⟩, hm⟩, hne⟩
  · intro room u
    have hdropped : ((s.dropRoom roomName).setTask t task).activeSessions =
        Function.update s.activeSessions roomName none := rfl
    simp only [hrunning, hdropped]
    by_cases hroom : room = roomName
    · subst hroom
      simp
    · simp only [Function.update_of_ne hroom, hroom, ne_eq, not_false_eq_true, and_true]
      exact h.active room u
  · intro u room m hr
    exact h.admitted u room m ((hrunning u room m).mp hr).1
  · intro room m hstarting
    obtain ⟨hnone, hm⟩ := h.starting room m hstarting
    refine ⟨?_, hm⟩
    simp only [VoiceServer.setTask, VoiceServer.dropRoom]
    by_cases hroom : room = roomName
    · rw [hroom, Function.update_self]
    · rw [Function.update_of_ne hroom]
      exact hnone

theorem accounted_starting {limits : CapacityLimits} (h : Accounted limits s)
    {roomName mode : String} (hactive : s.activeSessions roomName = none)
    (hmode : (limits.modeUnits mode).isSome = true) :
    Accounted limits { s with starting := some (roomName, mode) } := by
  refine ⟨h.within, h.rooms, h.exact, h.active, h.admitted, ?_⟩
  intro room m hstarting
  cases hstarting
  exact ⟨hactive, hmode⟩

theorem accounted_start (h : Accounted config.limits s) (request : VoiceSessionStartRequest) :
    Accounted config.limits (startSession config s request) := by
  unfold startSession
  cases hadmitted : admittedMode config request with
  | error e => exact h
  | ok mode =>
    have hmode := admitted_mode hadmitted
    dsimp only
    cases hactive : s.activeSessions request.roomName with
    | none => exact accounted_starting h hactive hmode
    | some t =>
      obtain ⟨old, hrun⟩ := (h.active request.roomName t).mp hactive
      unfold VoiceServer.Running at hrun
      dsimp only
      rw [hrun]
      have hdropped : Accounted config.limits ((s.dropRoom request.roomName).setTask t
          ⟨request.roomName, old, .cancelled⟩) := accounted_drop h hactive (by rintro ⟨⟩)
      exact accounted_starting hdropped (Function.update_self _ _ _) hmode

theorem reserve_eq_ok {limits : CapacityLimits} {reservations reservations' : Reservations}
    {roomName mode : String} {r : CapacityReservation} :
    reserve limits reservations roomName mode = .ok (r, reservations') ↔
      roomName ∉ reservations.map CapacityReservation.roomName ∧
      limits.modeUnits mode = some r.units ∧ usedUnits reservations + r.units ≤ limits.maxUnits ∧
      r.roomName = roomName ∧ r.mode = mode ∧ reservations' = reservations ++ [r] := by
  simp only [reserve, bind_eq_ok, require_eq_ok, orRaise_eq_ok, pure_eq_ok]
  constructor
  · rintro ⟨⟨⟩, hroom, units, hunits, ⟨⟩, hfits, h⟩
    cases h
    exact ⟨hroom, hunits, hfits, rfl, rfl, rfl⟩
  · rintro ⟨hroom, hunits, hfits, rfl, rfl, rfl⟩
    exact ⟨(), hroom, r.units, hunits, (), hfits, rfl⟩

theorem accounted_launch (h : Accounted config.limits s) {t : ℕ} (hfresh : s.tasks t = none) :
    Accounted config.limits (launch config s t) := by
  unfold launch
  cases hstarting : s.starting with
  | none => exact h
  | some request =>
    obtain ⟨roomName, mode⟩ := request
    obtain ⟨hnone, hmode⟩ := h.starting roomName mode hstarting
    dsimp only
    cases hreserve : reserve config.limits s.reservations roomName mode with
    | error e =>
      refine ⟨h.within, h.rooms, h.exact, h.active, h.admitted, ?_⟩
      rintro room m ⟨⟩
    | ok reserved =>
      obtain ⟨reservation, reservations⟩ := reserved
      obtain ⟨hroom, hunits, hfits, hname, hreserved, rfl⟩ := reserve_eq_ok.mp hreserve
      have hidle : ∀ room m, ¬ s.Running t room m := by
        intro room m hrun
        unfold VoiceServer.Running at hrun
        rw [hfresh] at hrun
        cases hrun
      have hrunning : ∀ u room m, (s.setTask t ⟨roomName, mode, .running⟩).Running u room m ↔
          (u = t ∧ roomName = room ∧ mode = m) ∨ s.Running u room m := by
        intro u room m
        rw [running_setTask]
        by_cases hu : u = t
        · subst hu
          simp [hidle]
        · simp [hu]
      refine ⟨?_, ?_, ?_, ?_, ?_, ?_⟩
      · simp only [usedUnits, List.map_append, List.sum_append, List.map_cons, List.map_nil,
          List.sum_cons, List.sum_nil] at hfits ⊢
        omega
      · rw [List.map_append]
        apply List.Nodup.append h.rooms (List.nodup_singleton _)
        rw [hname]
        exact List.disjoint_singleton.mpr hroom
      · intro r
        rw [List.mem_append, List.mem_singleton]
        constructor
        · rintro (hr | rfl)
          · obtain ⟨⟨u, hu⟩, hm⟩ := (h.exact r).mp hr
            exact ⟨⟨u, (hrunning u _ _).mpr (Or.inr hu)⟩, hm⟩
          · refine ⟨⟨t, (hrunning t _ _).mpr (Or.inl ⟨rfl, hname.symm, hreserved.symm⟩)⟩, ?_⟩
            rw [hreserved]
            exact hunits
        · rintro ⟨⟨u, hu⟩, hm⟩
          rcases (hrunning u _ _).mp hu with ⟨-, hsame, hsameMode⟩ | hold
          · rw [← hsameMode, hunits, Option.some.injEq] at hm
            right
            cases r
            cases reservation
            simp_all
          · exact Or.inl ((h.exact r).mpr ⟨⟨u, hold⟩, hm⟩)
      · intro room u
        have hlaunched : ∀ m, (s.setTask t ⟨roomName, mode, .running⟩).Running u room m ↔
            (u = t ∧ roomName = room ∧ mode = m) ∨ s.Running u room m := hrunning u room
        refine Iff.trans ?_ (exists_congr hlaunched).symm
        by_cases hsame : room = roomName
        · subst hsame
          have hnot : ∀ m, ¬ s.Running u room m := by
            intro m hrun
            have hactive := (h.active room u).mpr ⟨m, hrun⟩
            rw [hnone] at hactive
            cases hactive
          simp [hnot, eq_comm]
        · have hne : ¬ roomName = room := fun heq => hsame heq.symm
          simp only [Function.update_of_ne hsame, hne, false_and, and_false, false_or]
          exact h.active room u
      · intro u room m hrun
        rcases (hrunning u room m).mp hrun with ⟨-, -, rfl⟩ | hold
        · exact hmode
        · exact h.admitted u room m hold
      · rintro room m ⟨⟩

theorem accounted_finish (h : Accounted config.limits s) (t : ℕ) :
    Accounted config.limits (finish s t) := by
  unfold finish
  cases htask : s.tasks t with
  | none => exact h
  | some task =>
    dsimp only
    by_cases hactive : s.activeSessions task.roomName = some t
    · have hset : (s.setTask t { task with state := .finished }).activeSessions task.roomName =
          some t := hactive
      rw [if_pos hset]
      exact accounted_drop h hactive (by rintro ⟨⟩)
    · have hset : ¬ (s.setTask t { task with state := .finished }).activeSessions task.roomName =
          some t := hactive
      rw [if_neg hset]
      apply accounted_idle h
      · intro room mode hrun
        apply hactive
        have hsame : task = ⟨room, mode, .running⟩ := Option.some.inj (htask.symm.trans hrun)
        rw [hsame]
        exact (h.active room t).mpr ⟨mode, hrun⟩
      · rintro ⟨⟩

theorem accounted_run {es : List VoiceEvent} (run : (voiceRuns config).Run emptyServer es) :
    Accounted config.limits ((voiceRuns config).final emptyServer es) := by
  apply final_of_each ?_ (accounted_empty config.limits) run
  intro s e h enabled
  cases e with
  | start request => exact accounted_start h request
  | launch t => exact accounted_launch h enabled
  | finish t => exact accounted_finish h t

/-- Whatever the order in which sessions are started, replaced and ended, the units in use are those
of the running sessions, which are one a room and fit; and a start that holds the lock is refused
only where its units do not. -/
theorem capacity_follows_sessions (config : VoiceRuntimeConfig) (es : List VoiceEvent)
    (run : (voiceRuns config).Run emptyServer es) :
    let s := (voiceRuns config).final emptyServer es
    usedUnits s.reservations ≤ config.limits.maxUnits ∧
    (s.reservations.map CapacityReservation.roomName).Nodup ∧
    (∀ roomName mode units, ⟨roomName, mode, units⟩ ∈ s.reservations ↔
      (∃ t, s.Running t roomName mode) ∧ config.limits.modeUnits mode = some units) ∧
    (∀ t t' roomName mode mode', s.Running t roomName mode → s.Running t' roomName mode' → t = t') ∧
    (∀ t roomName mode, s.Running t roomName mode →
      ∃ units, ⟨roomName, mode, units⟩ ∈ s.reservations) ∧
    ∀ roomName mode, s.starting = some (roomName, mode) →
      ((∃ r, reserve config.limits s.reservations roomName mode = .ok r) ↔
        ∃ units, config.limits.modeUnits mode = some units ∧
          usedUnits s.reservations + units ≤ config.limits.maxUnits) := by
  intro s
  have h : Accounted config.limits s := accounted_run run
  refine ⟨h.within, h.rooms, ?_, ?_, ?_, ?_⟩
  · intro roomName mode units
    exact h.exact ⟨roomName, mode, units⟩
  · intro t t' roomName mode mode' ht ht'
    exact h.one ht ht'
  · intro t roomName mode ht
    obtain ⟨units, hunits⟩ := Option.isSome_iff_exists.mp (h.admitted t roomName mode ht)
    exact ⟨units, (h.exact ⟨roomName, mode, units⟩).mpr ⟨⟨t, ht⟩, hunits⟩⟩
  · intro roomName mode hstarting
    obtain ⟨hnone, -⟩ := h.starting roomName mode hstarting
    constructor
    · rintro ⟨⟨reservation, reservations⟩, hr⟩
      obtain ⟨-, hunits, hfits, -⟩ := reserve_eq_ok.mp hr
      exact ⟨reservation.units, hunits, hfits⟩
    · rintro ⟨units, hunits, hfits⟩
      refine ⟨(⟨roomName, mode, units⟩, _), reserve_eq_ok.mpr ⟨?_, hunits, hfits, rfl, rfl, rfl⟩⟩
      intro hroom
      obtain ⟨r, hr, rfl⟩ := List.mem_map.mp hroom
      obtain ⟨⟨t, ht⟩, -⟩ := (h.exact r).mp hr
      have hactive := (h.active r.roomName t).mpr ⟨r.mode, ht⟩
      rw [hnone] at hactive
      cases hactive

def agentConfig : VoiceRuntimeConfig where
  audioModel := some "live"
  videoModel := none
  limits := ⟨4, 1, 4, by decide⟩

def rejoined : List VoiceEvent :=
  [.start ⟨"a", "ann", "s", "Video"⟩, .launch 1, .start ⟨"a", "ann", "s", "audio"⟩, .launch 2,
    .finish 1]

theorem rejoined_capacity :
    let s := (voiceRuns agentConfig).final emptyServer rejoined
    usedUnits s.reservations ≤ 4 ∧ ⟨"a", "audio", 1⟩ ∈ s.reservations := by
  have hrun : (voiceRuns agentConfig).Run emptyServer rejoined := by decide
  obtain ⟨hwithin, -, hexact, -⟩ := capacity_follows_sessions agentConfig rejoined hrun
  exact ⟨hwithin, (hexact "a" "audio" 1).mpr ⟨⟨2, by rfl⟩, by rfl⟩⟩

end BankingService.SessionCapacity
