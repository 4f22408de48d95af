import BankingService.PulseAdmissions
import Mathlib.Data.List.Pairwise

/-! Runs of the pulses: one pulse at a time in a process and, while locks and releases keep time, in
all of them together; an event's key won once in its life; and what a request that is answered at
once needs. -/
namespace BankingService.PulseAdmissions

open Expiring Runs

section

open PulseWorld

variable {config : PulseConfig} {s : PulseWorld} {w : ℕ} {r q : PulseRequest}

/-- A pulse runs under the lock of its process. -/
def UnderLock (s : PulseWorld) : Prop :=
  ∀ (w : ℕ) (r : PulseRequest), s.requests[w]? = some r → r.phase = .running →
    s.pulseLock r.process = some w

theorem attempt_phase (n : ℕ) : (r.attempt n).phase ≠ .running := by
  unfold PulseRequest.attempt
  split <;> simp

theorem admit_phase (a : PulseAdmission) : (r.admitAs a).phase ≠ .running := by
  unfold PulseRequest.admitAs
  split <;> simp

theorem release_phase : r.release.phase ≠ .running := by
  unfold PulseRequest.release
  split <;> simp

theorem answered_phase (h : (answered r).phase = .running) :
    r.phase = .running ∧ answered r = r := by
  unfold answered at h ⊢
  split at h
  case h_2 => exact (admit_phase _ h).elim
  case h_3 => exact (admit_phase _ h).elim
  case h_4 => exact (admit_phase _ h).elim
  case h_8 => simp_all
  all_goals cases h

theorem UnderLock.put (h : UnderLock s) (notRunning : q.phase ≠ .running)
    (clients : ℕ → ClientState) : UnderLock ({ s with clients := clients }.put w q) :=
  forall_put (fun hq => (notRunning hq).elim) fun v r _ hr => h v r hr

theorem UnderLock.execute (h : UnderLock s) (hr : s.requests[w]? = some r) (c : Command) :
    UnderLock (s.execute config w r c) := by
  have same : ∀ q : PulseRequest, q.phase = r.phase → q.process = r.process →
      q.phase = .running → s.pulseLock q.process = some w := by
    intro q hphase hprocess hrun
    rw [hprocess]
    exact h w r hr (hphase.symm.trans hrun)
  cases c with
  | setEvent =>
    simp only [PulseWorld.execute]
    split
    · exact forall_put (same _ (by simp) (by simp)) fun v q _ hq => h v q hq
    · exact h
  | setActive => exact forall_put (same _ (by simp) (by simp)) fun v q _ hq => h v q hq
  | getActive => exact forall_put (same _ (by simp) (by simp)) fun v q _ hq => h v q hq
  | deleteActive => exact forall_put (same _ (by simp) (by simp)) fun v q _ hq => h v q hq

theorem UnderLock.startPulse (h : UnderLock s) : UnderLock (s.startPulse w r) := by
  unfold PulseWorld.startPulse
  split
  case isFalse => exact h
  case isTrue hp =>
    split
    · exact h.put release_phase s.clients
    case h_2 hfree =>
      refine forall_put (fun _ => Function.update_self _ _ _) fun v q hv hq hrun => ?_
      have hlock := h v q hq hrun
      by_cases hprocess : q.process = r.process
      · rw [hprocess, hfree] at hlock
        cases hlock
      · exact (Function.update_of_ne hprocess _ _).trans hlock

theorem UnderLock.finishPulse (h : UnderLock s) (hr : s.requests[w]? = some r) :
    UnderLock (s.finishPulse w r) := by
  unfold PulseWorld.finishPulse
  split
  case isFalse => exact h
  case isTrue hp =>
    refine forall_put (fun hq => (release_phase hq).elim) fun v q hv hq hrun => ?_
    have hlock := h v q hq hrun
    by_cases hprocess : q.process = r.process
    · rw [hprocess, h w r hr hp] at hlock
      exact (hv (Option.some.inj hlock).symm).elim
    · exact (Function.update_of_ne hprocess _ _).trans hlock

theorem UnderLock.raises (h : UnderLock s) (reachable : Bool) :
    UnderLock (s.raises w r reachable) := by
  have hretry : ∀ n, UnderLock (s.retry w r n reachable) := by
    intro n
    unfold PulseWorld.retry
    split
    · dsimp only
      split
      · exact h.put (attempt_phase 1) _
      · exact h.put (admit_phase _) _
    · exact h.put (admit_phase _) s.clients
  unfold PulseWorld.raises
  split
  · exact hretry _
  · exact hretry _
  · exact h.put (by simp) s.clients
  · exact h.put (by simp) s.clients
  · exact h

theorem arrival_phase (process : ℕ) (eventId : Option String) (available : Bool) :
    (arrival config process eventId available).phase ≠ .running := by
  unfold arrival
  split
  · exact attempt_phase 0
  · exact admit_phase _

theorem forall_append {φ : ℕ → PulseRequest → Prop} {l : List PulseRequest}
    (old : ∀ (v : ℕ) (r : PulseRequest), l[v]? = some r → φ v r) (new : φ l.length q) :
    ∀ (v : ℕ) (r : PulseRequest), (l ++ [q])[v]? = some r → φ v r := by
  intro v r hr
  rw [List.getElem?_append] at hr
  split at hr
  case isTrue => exact old v r hr
  case isFalse hv =>
    rw [List.getElem?_singleton] at hr
    split at hr
    case isTrue hz =>
      cases hr
      have hlen : v = l.length := by omega
      exact hlen ▸ new
    case isFalse => cases hr

theorem underLock_next (e : PulseEvent) (h : UnderLock s) : UnderLock (s.next config e) := by
  cases e with
  | tick d => exact h
  | arrive process eventId reachable =>
    exact forall_append h fun hrun => (arrival_phase _ _ _ hrun).elim
  | execute w c =>
    simp only [PulseWorld.next]
    split
    case h_1 r hr =>
      split
      · exact h.execute hr c
      · exact h
    case h_2 => exact h
  | answer w =>
    simp only [PulseWorld.next]
    split
    case h_1 r hr =>
      refine forall_put (fun hrun => ?_) fun v q _ hq => h v q hq
      obtain ⟨hp, hsame⟩ := answered_phase hrun
      rw [hsame]
      exact h w r hr hp
    case h_2 => exact h
  | fail w reachable =>
    simp only [PulseWorld.next]
    split
    · exact h.raises reachable
    · exact h
  | start w =>
    simp only [PulseWorld.next]
    split
    · exact h.startPulse
    · exact h
  | finish w =>
    simp only [PulseWorld.next]
    split
    case h_1 r hr => exact h.finishPulse hr
    case h_2 => exact h
  | crash process =>
    intro v q hq hrun
    rw [PulseWorld.next, List.getElem?_map] at hq
    obtain ⟨r, hr, rfl⟩ := Option.map_eq_some_iff.mp hq
    unfold stopped at hrun ⊢
    split at hrun
    case isTrue => cases hrun
    case isFalse hprocess =>
      rw [if_neg hprocess]
      exact (Function.update_of_ne hprocess _ _).trans (h v r hr hrun)

end

/-- Time passes no pulse's lock while the pulse is under way, and a release is executed once, before
its lock has run out. -/
def Timely (s : PulseWorld) : PulseEvent → Prop
  | .tick d => ∀ r ∈ s.requests, r.Holding → r.Locked (s.now + d)
  | .execute w .deleteActive =>
    ∀ r ∈ s.requests[w]?, .deleteActive ∈ r.sent → r.Locked s.now
  | _ => True

instance (s : PulseWorld) : ∀ e, Decidable (Timely s e)
  | .tick d => inferInstanceAs (Decidable (∀ r ∈ s.requests, r.Holding → r.Locked (s.now + d)))
  | .execute w .deleteActive =>
    inferInstanceAs (Decidable (∀ r ∈ s.requests[w]?, .deleteActive ∈ r.sent → r.Locked s.now))
  | .execute _ .setEvent | .execute _ .setActive | .execute _ .getActive => isTrue trivial
  | .arrive .. | .answer _ | .fail .. | .start _ | .finish _ | .crash _ => isTrue trivial

/-- What the server holds for the locks that have not run out, and that pulses under way have
one. -/
structure Guarded (s : PulseWorld) : Prop where
  held : ∀ (w : ℕ) (r : PulseRequest), s.requests[w]? = some r → ∀ t, r.lockedUntil = some t →
    s.now < t → s.redis activeLockKey = some ⟨w, t⟩
  holding : ∀ (w : ℕ) (r : PulseRequest), s.requests[w]? = some r → r.Holding → r.Locked s.now
  fresh : ∀ (w : ℕ) (r : PulseRequest), s.requests[w]? = some r → r.Fresh

section

open PulseWorld

variable {config : PulseConfig} {s s' : PulseWorld} {v w : ℕ} {r q : PulseRequest}

/-- A lock that has not run out is the server's. -/
theorem Guarded.live (h : Guarded s) (hr : s.requests[w]? = some r) (hl : r.Locked s.now) :
    ∃ t, live s.redis s.now activeLockKey = some ⟨w, t⟩ := by
  obtain ⟨t, ht, hnow⟩ := hl
  exact ⟨t, live_eq_some.mpr ⟨h.held w r hr t ht hnow, hnow⟩⟩

theorem Guarded.unique (h : Guarded s) (hr : s.requests[w]? = some r) (hq : s.requests[v]? = some q)
    (hlr : r.Locked s.now) (hlq : q.Locked s.now) : v = w := by
  obtain ⟨t, ht⟩ := h.live hr hlr
  obtain ⟨u, hu⟩ := h.live hq hlq
  rw [ht, Option.some.injEq, Entry.mk.injEq] at hu
  exact hu.1.symm

theorem Guarded.own (h : Guarded s) (step : OwnStep s s') : Guarded s' where
  held v q hq t ht hnow := by
    obtain ⟨r, hr, own⟩ := step.requests v q hq
    rw [own.lockedUntil] at ht
    rw [step.now] at hnow
    rw [step.redis]
    exact h.held v r hr t ht hnow
  holding v q hq hh := by
    obtain ⟨r, hr, own⟩ := step.requests v q hq
    obtain ⟨t, ht, hnow⟩ := h.holding v r hr (own.holding hh)
    exact ⟨t, own.lockedUntil.trans ht, step.now ▸ hnow⟩
  fresh v q hq := by
    obtain ⟨r, hr, own⟩ := step.requests v q hq
    exact own.fresh (h.fresh v r hr)

theorem Guarded.tick (h : Guarded s) {d : ℕ} (timely : Timely s (.tick d)) :
    Guarded (s.next config (.tick d)) where
  held w r hr t ht hnow := h.held w r hr t ht (Nat.lt_of_le_of_lt (Nat.le_add_right _ d) hnow)
  holding _ r hr := timely r (List.mem_of_getElem? hr)
  fresh := h.fresh

theorem holding_hear {c : Command} {b : Bool} (hh : (hear r c b).Holding) :
    r.Holding ∨ (c = .setActive ∧ b = true ∧ r.phase.command = some .setActive) := by
  unfold hear at hh
  split at hh
  case isFalse => exact .inl hh
  case isTrue hc =>
    rcases hh with hp | hp | ⟨hset, hb⟩
    · exact .inl (.inl hp)
    · exact .inl (.inr (.inl hp))
    · rw [show r.phase.command = some .setActive from hset, Option.some.injEq] at hc
      exact .inr ⟨hc.symm, Option.some.inj hb, hset⟩

theorem fresh_hear {c : Command} {b : Bool} (h : r.Fresh) : (hear r c b).Fresh := by
  intro hsent
  rw [hear_phase]
  exact h (by simpa using hsent)

theorem Guarded.hear (h : Guarded s) (hr : s.requests[w]? = some r) {c : Command} {b : Bool}
    (hc : b = true → c ≠ .setActive) (redis : Store String ℕ)
    (same : redis activeLockKey = s.redis activeLockKey) (wins : List EventWin) :
    Guarded ({ s with redis := redis, eventsWon := wins }.put w (hear r c b)) where
  held := forall_put
    (fun t ht hnow => same.trans (h.held w r hr t (by simpa using ht) hnow))
    fun v q _ hq t ht hnow => same.trans (h.held v q hq t ht hnow)
  holding := forall_put
    (fun hh => by
      rcases holding_hear hh with hold | ⟨hset, htrue, -⟩
      · obtain ⟨t, ht, hnow⟩ := h.holding w r hr hold
        exact ⟨t, by simpa using ht, hnow⟩
      · exact (hc htrue hset).elim)
    fun v q _ hq => h.holding v q hq
  fresh := forall_put (fresh_hear (h.fresh w r hr)) fun v q _ hq => h.fresh v q hq

theorem Guarded.setActive (h : Guarded s) (hr : s.requests[w]? = some r) :
    Guarded (s.setActive config w r) := by
  cases hl : Expiring.live s.redis s.now activeLockKey with
  | none =>
    have unlocked : ∀ (v : ℕ) (q : PulseRequest), s.requests[v]? = some q → ¬ q.Locked s.now := by
      intro v q hq hlocked
      obtain ⟨t, ht⟩ := h.live hq hlocked
      rw [hl] at ht
      cases ht
    have hlocked : ∀ b, (PulseWorld.hear (lock r true (s.now + config.activeLockTtl))
        .setActive b).Locked s.now := fun b =>
      ⟨_, by simp [lock], Nat.lt_add_of_pos_right config.activeLockTtl_pos⟩
    have hset : setNx s.redis s.now config.activeLockTtl activeLockKey w =
        (Function.update s.redis activeLockKey (some ⟨w, s.now + config.activeLockTtl⟩), true) :=
      setNx_free hl
    unfold PulseWorld.setActive
    dsimp only
    rw [hset]
    exact
      { held := forall_put
          (fun t ht _ => by
            have hdeadline : s.now + config.activeLockTtl = t := by simpa [lock] using ht
            subst hdeadline
            exact Function.update_self activeLockKey _ s.redis)
          fun v q _ hq t ht hnow => (unlocked v q hq ⟨t, ht, hnow⟩).elim
        holding := forall_put (fun _ => hlocked true) fun v q _ hq => h.holding v q hq
        fresh := forall_put (fresh_hear (by simpa [PulseRequest.Fresh] using h.fresh w r hr))
          fun v q _ hq => h.fresh v q hq }
  | some e =>
    have hset : setNx s.redis s.now config.activeLockTtl activeLockKey w = (s.redis, false) :=
      setNx_taken hl
    unfold PulseWorld.setActive
    dsimp only
    rw [hset]
    exact h.hear hr (by simp) s.redis rfl s.eventsWon

/-- The release of a lock that has not run out takes the lock from no other pulse. -/
theorem Guarded.deleteActive (h : Guarded s) (hr : s.requests[w]? = some r)
    (sent : .deleteActive ∈ r.sent) (hl : r.Locked s.now) :
    Guarded (s.execute config w r .deleteActive) where
  held := forall_put (fun t ht _ => by simp at ht) fun v q hv hq t ht hnow =>
    (hv (h.unique hr hq hl ⟨t, ht, hnow⟩)).elim
  holding := forall_put
    (fun hh => by
      rcases holding_hear hh with hold | ⟨hset, -⟩
      · rcases h.fresh w r hr sent with hp | hp <;>
          simp [PulseRequest.Holding, Phase.command, hp] at hold
      · cases hset)
    fun v q _ hq => h.holding v q hq
  fresh := forall_put (fresh_hear (h.fresh w r hr)) fun v q _ hq => h.fresh v q hq

theorem Guarded.execute (h : Guarded s) (hr : s.requests[w]? = some r) {c : Command}
    (sent : c ∈ r.sent) (timely : Timely s (.execute w c)) : Guarded (s.execute config w r c) := by
  cases c with
  | setEvent =>
    simp only [PulseWorld.execute]
    split
    case h_1 id _ =>
      exact h.hear hr (by simp) _ (setNx_other (activeLockKey_ne id)) _
    case h_2 => exact h
  | setActive => exact h.setActive hr
  | getActive => exact h.hear hr (by simp) s.redis rfl s.eventsWon
  | deleteActive => exact h.deleteActive hr sent (timely r hr sent)

theorem arrival_notHolding (needs : config.needsRedis = true) (process : ℕ)
    (eventId : Option String) (available : Bool) :
    ¬ (arrival config process eventId available).Holding := by
  unfold arrival
  split
  · unfold PulseRequest.attempt
    split <;> simp [PulseRequest.holding_goTo]
  · simp [PulseRequest.admitAs, PulseRequest.holding_goTo, unavailable]

theorem arrival_lockedUntil (process : ℕ) (eventId : Option String) (available : Bool) :
    (arrival config process eventId available).lockedUntil = none := by
  unfold arrival
  split
  · unfold PulseRequest.attempt
    split <;> rfl
  · rfl

theorem arrival_fresh (process : ℕ) (eventId : Option String) (available : Bool) :
    (arrival config process eventId available).Fresh := by
  unfold arrival PulseRequest.Fresh
  split
  · unfold PulseRequest.attempt
    split <;> simp [Phase.command]
  · cases config.needsRedis <;>
      simp [PulseRequest.admitAs, Phase.command, unavailable, processLocal]

theorem guarded_next (needs : config.needsRedis = true) {e : PulseEvent} (h : Guarded s)
    (timely : Timely s e) : Guarded (s.next config e) := by
  cases e with
  | tick d => exact h.tick timely
  | arrive process eventId reachable =>
    exact
      { held := forall_append h.held fun t ht => by
          rw [arrival_lockedUntil] at ht
          cases ht
        holding := forall_append h.holding fun hh => (arrival_notHolding needs _ _ _ hh).elim
        fresh := forall_append h.fresh (arrival_fresh _ _ _) }
  | execute w c =>
    simp only [PulseWorld.next]
    split
    case h_1 r hr =>
      split
      case isTrue sent => exact h.execute hr sent timely
      case isFalse => exact h
    case h_2 => exact h
  | _ => exact h.own (own_step _ (by simp) (by simp) (by simp))

theorem guarded_idle : Guarded idle where
  held _ _ h := by simp [idle] at h
  holding _ _ h := by simp [idle] at h
  fresh _ _ h := by simp [idle] at h

def RunsIn (s : PulseWorld) (w process : ℕ) : Prop :=
  ∃ r, s.requests[w]? = some r ∧ r.phase = .running ∧ r.process = process

instance (s : PulseWorld) (w process : ℕ) : Decidable (RunsIn s w process) :=
  decidable_of_iff ((s.requests[w]?).any fun r => r.phase = .running ∧ r.process = process)
    (by simp [RunsIn, Option.any_eq_true])

theorem underLock_idle : UnderLock idle := by
  intro _ _ h
  simp [idle] at h

/-- In every run one process runs one pulse at a time; where pulses need Redis, and none outlives
its lock or releases it late or twice, all the processes together run one at a time. -/
theorem pulses_exclusive (config : PulseConfig) (es : List PulseEvent) :
    (pulses config).Throughout (fun s => ∀ v w process, RunsIn s v process → RunsIn s w process →
      v = w) idle es ∧
    (config.needsRedis = true → (pulses config).Each Timely idle es →
      (pulses config).Throughout (fun s => ∀ v w p q, RunsIn s v p → RunsIn s w q → v = w)
        idle es) := by
  constructor
  · have hlocks : (pulses config).Throughout UnderLock idle es :=
      throughout_of_keep (fun _ e h => underLock_next e h) underLock_idle
    refine hlocks.mono ?_
    rintro s h v w _ ⟨r, hr, hrun, rfl⟩ ⟨q, hq, hrunq, hprocess⟩
    have hv := h v r hr hrun
    rw [← hprocess, h w q hq hrunq] at hv
    exact (Option.some.inj hv).symm
  · intro needs timely
    have hguarded : (pulses config).Throughout Guarded idle es :=
      throughout_of_each (fun _ _ h ht => guarded_next needs h ht) guarded_idle timely
    refine hguarded.mono ?_
    rintro s h v w _ _ ⟨r, hr, hrun, -⟩ ⟨q, hq, hrunq, -⟩
    exact h.unique hq hr (h.holding w q hq (.inr (.inl hrunq)))
      (h.holding v r hr (.inr (.inl hrun)))

end

/-- What the service is deployed with. -/
def deployed : PulseConfig :=
  { activeLockTtl := 180, eventDedupTtl := 3600, localDev := false, redisRequired := true,
    activeLockTtl_pos := by decide, eventDedupTtl_pos := by decide }

def givenBack (w : ℕ) : List PulseEvent :=
  [.finish w, .execute w .getActive, .answer w, .execute w .deleteActive, .answer w]

def twoMinutes : List PulseEvent :=
  served 0 0 (some "minute-1") ++ served 1 1 (some "minute-1") ++ [.tick 58] ++ givenBack 0 ++
    [.tick 2] ++ served 2 1 (some "minute-2")

theorem twoMinutes_exclusive :
    RunsIn ((pulses deployed).final idle twoMinutes) 2 1 ∧
    (pulses deployed).Throughout (fun s => ∀ v w p q, RunsIn s v p → RunsIn s w q → v = w)
      idle twoMinutes :=
  ⟨by decide +kernel, (pulses_exclusive deployed twoMinutes).2 rfl (by decide +kernel)⟩

def overrun : List PulseEvent := served 0 0 none ++ [.tick 180] ++ served 1 1 none

def lateRelease : List PulseEvent :=
  served 0 0 none ++ (givenBack 0).take 3 ++ [.tick 180] ++ served 1 1 none ++
    [.execute 0 .deleteActive] ++ served 2 2 none

def repeatedRelease : List PulseEvent :=
  served 0 0 none ++ (givenBack 0).take 4 ++ served 1 1 none ++ [.execute 0 .deleteActive] ++
    served 2 2 none

/-- A pulse that outlives its lock, a release executed after its lock has run out, and one executed
again: with each of them two pulses run. -/
theorem untimely_overlap :
    (RunsIn ((pulses deployed).final idle overrun) 0 0 ∧
      RunsIn ((pulses deployed).final idle overrun) 1 1) ∧
    (RunsIn ((pulses deployed).final idle lateRelease) 1 1 ∧
      RunsIn ((pulses deployed).final idle lateRelease) 2 2) ∧
    (RunsIn ((pulses deployed).final idle repeatedRelease) 1 1 ∧
      RunsIn ((pulses deployed).final idle repeatedRelease) 2 2) := by
  decide +kernel

/-- What the server wrote for events, what it still holds of it, and whose it is. -/
structure Won (config : PulseConfig) (s : PulseWorld) : Prop where
  spaced : s.eventsWon.Pairwise fun later earlier =>
    later.eventId = earlier.eventId → earlier.time + config.eventDedupTtl ≤ later.time
  stored : ∀ e ∈ s.eventsWon, ∃ entry, s.redis (eventKey e.eventId) = some entry ∧
    e.time + config.eventDedupTtl ≤ entry.deadline
  entries : ∀ id entry, s.redis (eventKey id) = some entry →
    ∃ e ∈ s.eventsWon, e.eventId = id ∧ entry.deadline = e.time + config.eventDedupTtl
  passed : ∀ (w : ℕ) (r : PulseRequest), s.requests[w]? = some r → ∀ id, r.Passed id →
    ∃ e ∈ s.eventsWon, e.eventId = id ∧ e.request = w

section

open PulseWorld

variable {config : PulseConfig} {s s' : PulseWorld} {v w : ℕ} {r q : PulseRequest}

theorem Won.own (h : Won config s) (step : OwnStep s s') : Won config s' where
  spaced := step.eventsWon ▸ h.spaced
  stored := by
    rw [step.eventsWon, step.redis]
    exact h.stored
  entries := by
    rw [step.eventsWon, step.redis]
    exact h.entries
  passed v q hq id hp := by
    obtain ⟨r, hr, own⟩ := step.requests v q hq
    rw [step.eventsWon]
    exact h.passed v r hr id (own.passed id hp)

theorem passed_hear {c : Command} {b : Bool} {id : String} (hp : (hear r c b).Passed id) :
    r.Passed id ∨ (c = .setEvent ∧ b = true ∧ r.event? = some id) := by
  obtain ⟨hid, hrest⟩ := hp
  have hid' : r.event? = some id := by simpa [PulseRequest.event?] using hid
  rcases hrest with ⟨n, hn⟩ | ⟨hc, hb⟩ | hadm
  · exact .inl ⟨hid', .inl ⟨n, by simpa using hn⟩⟩
  · rw [hear_phase] at hc
    unfold hear at hb
    split at hb
    case isTrue hcmd =>
      rw [hc, Option.some.injEq] at hcmd
      exact .inr ⟨hcmd.symm, Option.some.inj hb, hid'⟩
    case isFalse => exact .inl ⟨hid', .inr (.inl ⟨hc, hb⟩)⟩
  · exact .inl ⟨hid', .inr (.inr (by simpa using hadm))⟩

/-- A request that has heard of no accepted write of its event's key, with the events' keys as they
were. -/
theorem Won.hear (h : Won config s) (hr : s.requests[w]? = some r) {c : Command} {b : Bool}
    (hc : b = true → c ≠ .setEvent) (redis : Store String ℕ)
    (same : ∀ id, redis (eventKey id) = s.redis (eventKey id))
    (hq : ∀ id, q.Passed id → r.Passed id) :
    Won config ({ s with redis := redis }.put w (PulseWorld.hear q c b)) where
  spaced := h.spaced
  stored e he := by
    obtain ⟨entry, hentry, hle⟩ := h.stored e he
    exact ⟨entry, (same _).trans hentry, hle⟩
  entries id entry hentry := h.entries id entry ((same id).symm.trans hentry)
  passed := forall_put
    (fun id hp => by
      rcases passed_hear hp with hold | ⟨hset, htrue, -⟩
      · exact h.passed w r hr id (hq id hold)
      · exact (hc htrue hset).elim)
    fun v q _ hq => h.passed v q hq

theorem Won.setEvent (h : Won config s) (hr : s.requests[w]? = some r) {id : String}
    (hid : r.event? = some id) : Won config (s.setEvent config w r id) := by
  cases hl : live s.redis s.now (eventKey id) with
  | some e =>
    have hset : setNx s.redis s.now config.eventDedupTtl (eventKey id) w = (s.redis, false) :=
      setNx_taken hl
    unfold PulseWorld.setEvent
    dsimp only
    rw [hset]
    exact h.hear hr (by simp) s.redis (fun _ => rfl) fun _ hp => hp
  | none =>
    have hset : setNx s.redis s.now config.eventDedupTtl (eventKey id) w =
        (Function.update s.redis (eventKey id) (some ⟨w, s.now + config.eventDedupTtl⟩), true) :=
      setNx_free hl
    have hother : ∀ id' e, Function.update s.redis (eventKey id)
        (some ⟨w, s.now + config.eventDedupTtl⟩) (eventKey id') = some e →
        (id' = id ∧ e.deadline = s.now + config.eventDedupTtl) ∨
          s.redis (eventKey id') = some e := by
      intro id' e he
      by_cases hsame : id' = id
      · subst hsame
        rw [Function.update_self, Option.some.injEq] at he
        subst he
        exact .inl ⟨rfl, rfl⟩
      · rw [Function.update_of_ne fun hk => hsame (eventKey_injective hk)] at he
        exact .inr he
    -- what was written before has run out, or the key would not have been free
    have hspaced : ∀ e ∈ s.eventsWon, id = e.eventId → e.time + config.eventDedupTtl ≤ s.now := by
      rintro e he rfl
      obtain ⟨entry, hentry, hle⟩ := h.stored e he
      exact Nat.le_trans hle (live_eq_none.mp hl entry hentry)
    unfold PulseWorld.setEvent
    dsimp only
    rw [hset]
    exact
      { spaced := List.pairwise_cons.mpr ⟨hspaced, h.spaced⟩
        stored := by
          intro e he
          rcases List.mem_cons.mp he with rfl | hold
          · exact ⟨_, Function.update_self (eventKey id) _ s.redis, Nat.le_refl _⟩
          · by_cases hsame : e.eventId = id
            · refine ⟨⟨w, s.now + config.eventDedupTtl⟩, ?_, ?_⟩
              · rw [hsame]
                exact Function.update_self (eventKey id) _ s.redis
              · exact Nat.le_trans (hspaced e hold hsame.symm) (Nat.le_add_right _ _)
            · obtain ⟨entry, hentry, hle⟩ := h.stored e hold
              refine ⟨entry, ?_, hle⟩
              exact (Function.update_of_ne (fun hk => hsame (eventKey_injective hk)) _ _).trans
                hentry
        entries := by
          intro id' entry hentry
          rcases hother id' entry hentry with ⟨rfl, hd⟩ | hold
          · exact ⟨⟨id', w, s.now⟩, List.mem_cons_self, rfl, hd⟩
          · obtain ⟨e, he, heid, hd⟩ := h.entries id' entry hold
            exact ⟨e, List.mem_cons_of_mem _ he, heid, hd⟩
        passed := forall_put
          (fun id' hp => by
            rcases passed_hear hp with hold | ⟨-, -, hid'⟩
            · obtain ⟨e, he, hrest⟩ := h.passed w r hr id' hold
              exact ⟨e, List.mem_cons_of_mem _ he, hrest⟩
            · rw [hid, Option.some.injEq] at hid'
              exact ⟨⟨id, w, s.now⟩, List.mem_cons_self, hid', rfl⟩)
          fun v q _ hq id' hp => by
            obtain ⟨e, he, hrest⟩ := h.passed v q hq id' hp
            exact ⟨e, List.mem_cons_of_mem _ he, hrest⟩ }

theorem passed_lock {b : Bool} {t : ℕ} {id : String} (hp : (lock r b t).Passed id) :
    r.Passed id := by
  unfold lock at hp
  split at hp <;> exact hp

theorem Won.execute (h : Won config s) (hr : s.requests[w]? = some r) (c : Command) :
    Won config (s.execute config w r c) := by
  cases c with
  | setEvent =>
    simp only [PulseWorld.execute]
    split
    case h_1 id hid => exact h.setEvent hr hid
    case h_2 => exact h
  | setActive =>
    exact h.hear hr (by simp) _ (fun id => setNx_other (activeLockKey_ne id).symm)
      fun _ => passed_lock
  | getActive => exact h.hear hr (by simp) s.redis (fun _ => rfl) fun _ => id
  | deleteActive =>
    exact h.hear hr (by simp) _ (fun id => delete_other (activeLockKey_ne id).symm) fun _ => id

theorem arrival_notPassed (process : ℕ) (eventId : Option String) (available : Bool) (id : String) :
    ¬ (arrival config process eventId available).Passed id := by
  unfold arrival
  split
  · unfold PulseRequest.attempt
    split
    · simp [PulseRequest.passed_goTo]
    case h_2 hnone => simp [PulseRequest.passed_goTo, hnone]
  · cases config.needsRedis <;>
      simp [PulseRequest.admitAs, PulseRequest.passed_goTo, unavailable, processLocal, distributed]

theorem won_next (e : PulseEvent) (h : Won config s) : Won config (s.next config e) := by
  cases e with
  | tick d => exact ⟨h.spaced, h.stored, h.entries, h.passed⟩
  | arrive process eventId reachable =>
    exact
      { spaced := h.spaced
        stored := h.stored
        entries := h.entries
        passed := forall_append h.passed fun id hp => (arrival_notPassed _ _ _ id hp).elim }
  | execute w c =>
    simp only [PulseWorld.next]
    split
    case h_1 r hr =>
      split
      · exact h.execute hr c
      · exact h
    case h_2 => exact h
  | _ => exact h.own (own_step _ (by simp) (by simp) (by simp))

theorem won_idle (config : PulseConfig) : Won config idle where
  spaced := List.Pairwise.nil
  stored := by simp [idle]
  entries := by simp [idle]
  passed _ _ h := by simp [idle] at h

theorem arrival_notAdmitted (needs : config.needsRedis = true) {process : ℕ}
    {eventId : Option String} {available : Bool} {a : PulseAdmission}
    (ha : (arrival config process eventId available).admission = some a) : ¬ a.admitted = true := by
  cases available with
  | true =>
    simp only [arrival, if_pos, PulseRequest.attempt] at ha
    split at ha <;> cases ha
  | false =>
    have hsame : a = unavailable := by
      simpa [arrival, needs, PulseRequest.admitAs] using ha.symm
    simp [hsame, unavailable]

/-- Every admission is through Redis. -/
def Distributed (s : PulseWorld) : Prop :=
  ∀ (w : ℕ) (r : PulseRequest), s.requests[w]? = some r → ∀ a, r.admission = some a →
    a.admitted = true → a = distributed

theorem Distributed.put (h : Distributed s) (redis : Store String ℕ) (wins : List EventWin)
    (known : ∀ a, q.admission = some a → a.admitted = true → a = distributed) :
    Distributed ({ s with redis := redis, eventsWon := wins }.put w q) :=
  forall_put known fun v r _ hr => h v r hr

theorem distributed_next (needs : config.needsRedis = true) (e : PulseEvent) (h : Distributed s) :
    Distributed (s.next config e) := by
  cases e with
  | tick d => exact h
  | arrive process eventId reachable =>
    exact forall_append h fun a ha hadm => (arrival_notAdmitted needs ha hadm).elim
  | execute w c =>
    simp only [PulseWorld.next]
    split
    case h_1 r hr =>
      have known := h w r hr
      split
      case isTrue =>
        cases c with
        | setEvent =>
          simp only [PulseWorld.execute]
          split
          · exact h.put _ _ (by simpa using known)
          · exact h
        | setActive => exact h.put _ s.eventsWon (by simpa using known)
        | getActive => exact h.put s.redis s.eventsWon (by simpa using known)
        | deleteActive => exact h.put _ s.eventsWon (by simpa using known)
      case isFalse => exact h
    case h_2 => exact h
  | _ =>
    intro v q hq a ha hadm
    obtain ⟨r, hr, own⟩ := (own_step _ (by simp) (by simp) (by simp)).requests v q hq
    exact (own.admission a ha hadm).elim (fun hold => h v r hr a hold hadm) id

def Apart (config : PulseConfig) (x y : EventWin) : Prop :=
  x.eventId = y.eventId →
    x.time + config.eventDedupTtl ≤ y.time ∨ y.time + config.eventDedupTtl ≤ x.time

instance : Std.Symm (Apart config) where
  symm _ _ h heq := (h heq.symm).symm

/-- Where pulses need Redis, two admitted requests of one event had its key written for them at
times that are its life apart. -/
theorem event_admitted_once (config : PulseConfig) (needs : config.needsRedis = true)
    (es : List PulseEvent) {v w : ℕ} (hne : v ≠ w) {r q : PulseRequest} {a b : PulseAdmission}
    {id : String} (hr : ((pulses config).final idle es).requests[v]? = some r)
    (hq : ((pulses config).final idle es).requests[w]? = some q) (ha : r.admission = some a)
    (hb : q.admission = some b) (admitted : a.admitted = true) (admitted' : b.admitted = true)
    (hrid : r.event? = some id) (hqid : q.event? = some id) :
    ∃ t u, ⟨id, v, t⟩ ∈ ((pulses config).final idle es).eventsWon ∧
      ⟨id, w, u⟩ ∈ ((pulses config).final idle es).eventsWon ∧
      (t + config.eventDedupTtl ≤ u ∨ u + config.eventDedupTtl ≤ t) := by
  have hwon : Won config ((pulses config).final idle es) :=
    ((throughout_of_keep (fun _ e h => won_next e h) (won_idle config) :
      (pulses config).Throughout (Won config) idle es)).last
  have hdistributed : Distributed ((pulses config).final idle es) :=
    ((throughout_of_keep (fun _ e h => distributed_next needs e h) (by simp [Distributed, idle]) :
      (pulses config).Throughout Distributed idle es)).last
  have hra := hdistributed v r hr a ha admitted
  have hqb := hdistributed w q hq b hb admitted'
  subst hra hqb
  obtain ⟨⟨_, _, t⟩, ht, rfl, rfl⟩ := hwon.passed v r hr id ⟨hrid, .inr (.inr ha)⟩
  obtain ⟨⟨_, _, u⟩, hu, rfl, rfl⟩ := hwon.passed w q hq _ ⟨hqid, .inr (.inr hb)⟩
  refine ⟨t, u, ht, hu, ?_⟩
  have hspaced : ((pulses config).final idle es).eventsWon.Pairwise (Apart config) :=
    hwon.spaced.imp fun hle heq => .inr (hle heq)
  exact hspaced.forall ht hu (fun h => hne (congrArg EventWin.request h)) rfl

end

def twoHours : List PulseEvent :=
  served 0 0 (some "hourly") ++ givenBack 0 ++ [.tick 3600] ++ served 1 1 (some "hourly")

theorem hourly_admitted_once :
    ∃ t u, ⟨"hourly", 0, t⟩ ∈ ((pulses deployed).final idle twoHours).eventsWon ∧
      ⟨"hourly", 1, u⟩ ∈ ((pulses deployed).final idle twoHours).eventsWon ∧
      (t + 3600 ≤ u ∨ u + 3600 ≤ t) := by
  have hfirst : (((pulses deployed).final idle twoHours).requests[0]?).map
      (fun r => (r.admission, r.event?)) = some (some distributed, some "hourly") := by
    decide +kernel
  have hsecond : (((pulses deployed).final idle twoHours).requests[1]?).map
      (fun r => (r.admission, r.event?)) = some (some distributed, some "hourly") := by
    decide +kernel
  obtain ⟨r, hr, hreads⟩ := Option.map_eq_some_iff.mp hfirst
  obtain ⟨q, hq, hqreads⟩ := Option.map_eq_some_iff.mp hsecond
  obtain ⟨ha, hrid⟩ := Prod.mk.inj hreads
  obtain ⟨hb, hqid⟩ := Prod.mk.inj hqreads
  exact event_admitted_once deployed rfl twoHours (by decide) hr hq ha hb rfl rfl hrid hqid

section

open PulseWorld

variable {config : PulseConfig} {s : PulseWorld} {w process : ℕ} {r q : PulseRequest}

theorem next_execute (hr : s.requests[w]? = some r) {c : Command} (sent : c ∈ r.sent) :
    s.next config (.execute w c) = s.execute config w r c := by
  simp only [PulseWorld.next, hr, if_pos sent]

theorem next_unsent (hr : s.requests[w]? = some r) {c : Command} (unsent : c ∉ r.sent) :
    s.next config (.execute w c) = s := by
  simp only [PulseWorld.next, hr, if_neg unsent]

theorem put_self (hr : s.requests[w]? = some r) : s.put w r = s := by
  obtain ⟨hlt, rfl⟩ := List.getElem?_eq_some_iff.mp hr
  rw [PulseWorld.put, List.set_getElem_self]

theorem next_answer (hr : s.requests[w]? = some r) :
    s.next config (.answer w) = s.put w (answered r) := by
  simp only [PulseWorld.next, hr]

theorem answer_put (hw : w < s.requests.length) :
    (s.put w q).next config (.answer w) = s.put w (answered q) := by
  rw [next_answer (put_same (List.getElem?_eq_getElem hw)), PulseWorld.put, PulseWorld.put,
    List.set_set]
  rfl

theorem start_put (hw : w < s.requests.length) (hp : q.phase = .admitted)
    (hprocess : q.process = process) :
    RunsIn ((s.put w q).next config (.start w)) w process ↔ s.pulseLock process = none := by
  subst hprocess
  have hr : (s.put w q).requests[w]? = some q := put_same (List.getElem?_eq_getElem hw)
  have hlock : (s.put w q).pulseLock q.process = s.pulseLock q.process := rfl
  simp only [PulseWorld.next, hr, PulseWorld.startPulse, if_pos hp, hlock]
  cases s.pulseLock q.process with
  | none =>
    exact iff_of_true
      ⟨_, List.getElem?_set_self (List.getElem?_eq_some_iff.mp hr).1, rfl, rfl⟩ rfl
  | some v =>
    refine iff_of_false ?_ (by simp)
    rintro ⟨q', hq', hrun, -⟩
    rw [put_same hr, Option.some.injEq] at hq'
    exact release_phase (hq' ▸ hrun)

theorem start_over (hr : s.requests[w]? = some r) (hp : r.phase = .over) :
    ¬ RunsIn (s.next config (.start w)) w process := by
  rintro ⟨q, hq, hrun, -⟩
  rw [show s.next config (.start w) = s by simp [PulseWorld.next, hr, PulseWorld.startPulse, hp],
    hr, Option.some.injEq] at hq
  rw [← hq, hp] at hrun
  cases hrun

theorem active_served (hr : s.requests[w]? = some r) {n : ℕ} (hp : r.phase = .setsActive n)
    (hsent : .setActive ∈ r.sent) :
    RunsIn ((pulses config).final s [.execute w .setActive, .answer w, .start w]) w r.process ↔
      live s.redis s.now activeLockKey = none ∧ s.pulseLock r.process = none := by
  have hw : w < s.requests.length := (List.getElem?_eq_some_iff.mp hr).1
  simp only [final_cons, final_nil, pulses]
  rw [next_execute hr hsent, PulseWorld.execute, PulseWorld.setActive, answer_put (by exact hw)]
  cases hl : live s.redis s.now activeLockKey with
  | none =>
    rw [setNx_free hl]
    have hanswered : answered (hear (lock r true (s.now + config.activeLockTtl)) .setActive true) =
        PulseRequest.admitAs (hear (lock r true (s.now + config.activeLockTtl)) .setActive true)
          distributed := by
      simp [answered, hear, lock, hp, Phase.command]
    rw [hanswered]
    refine Iff.trans ?_ (and_iff_right rfl).symm
    exact start_put hw rfl (by simp [PulseRequest.admitAs])
  | some e =>
    rw [setNx_taken hl]
    refine iff_of_false (start_over (put_same (List.getElem?_eq_getElem hw)) ?_) (by simp)
    simp [answered, hear, lock, hp, Phase.command, PulseRequest.admitAs, activePulse]

theorem over_served (hr : s.requests[w]? = some r) (hp : r.phase = .over)
    (unsent : .setActive ∉ r.sent) :
    ¬ RunsIn ((pulses config).final s [.execute w .setActive, .answer w, .start w]) w process := by
  have hanswered : answered r = r := by
    simp [answered, hp]
  simp only [final_cons, final_nil, pulses]
  rw [next_unsent hr unsent, next_answer hr, hanswered, put_self hr]
  exact start_over hr hp

theorem event_served (hr : s.requests[w]? = some r) {n : ℕ} (hp : r.phase = .setsEvent n)
    (hsent : r.sent = [.setEvent]) {id : String} (hid : r.event? = some id) :
    RunsIn ((pulses config).final s
        [.execute w .setEvent, .answer w, .execute w .setActive, .answer w, .start w]) w r.process ↔
      live s.redis s.now (eventKey id) = none ∧ live s.redis s.now activeLockKey = none ∧
        s.pulseLock r.process = none := by
  have hw : w < s.requests.length := (List.getElem?_eq_some_iff.mp hr).1
  have hfinal : (pulses config).final s
      [.execute w .setEvent, .answer w, .execute w .setActive, .answer w, .start w] =
      (pulses config).final (((s.next config (.execute w .setEvent)).next config (.answer w)))
        [.execute w .setActive, .answer w, .start w] := rfl
  have hexecute : s.next config (.execute w .setEvent) = s.setEvent config w r id := by
    rw [next_execute hr (by simp [hsent]), PulseWorld.execute, hid]
  rw [hfinal, hexecute, PulseWorld.setEvent, answer_put (by exact hw)]
  cases hl : live s.redis s.now (eventKey id) with
  | none =>
    rw [setNx_free hl]
    have hanswered : answered (hear r .setEvent true) =
        (hear r .setEvent true).goTo (.setsActive n) := by
      simp [answered, hear, hp, Phase.command]
    have hactive : live (Function.update s.redis (eventKey id)
        (some ⟨w, s.now + config.eventDedupTtl⟩)) s.now activeLockKey =
          live s.redis s.now activeLockKey := by
      simp only [live, Function.update_of_ne (activeLockKey_ne id)]
    rw [hanswered, ← hactive]
    refine Iff.trans ?_ (and_iff_right rfl).symm
    have hprocess : r.process = ((hear r .setEvent true).goTo (.setsActive n)).process := by simp
    rw [hprocess]
    exact active_served (put_same (List.getElem?_eq_getElem hw)) (PulseRequest.goTo_phase _)
      (by simp [Phase.command])
  | some e =>
    rw [setNx_taken hl]
    have hanswered : answered (hear r .setEvent false) =
        (hear r .setEvent false).admitAs duplicateEvent := by
      simp [answered, hear, hp, Phase.command]
    rw [hanswered]
    refine iff_of_false ?_ (by simp)
    refine over_served (put_same (List.getElem?_eq_getElem hw)) rfl ?_
    simp [PulseRequest.admitAs, hsent, duplicateEvent, Phase.command]

/-- The first request that arrives at a state and is answered at once, with a client that is not
given up, runs its pulse exactly where its event's key, the active key and its process's lock are
free. -/
theorem served_iff (config : PulseConfig) (s : PulseWorld) (process : ℕ) (eventId : Option String)
    (client : s.clients process ≠ .disabled) :
    RunsIn ((pulses config).final s (served s.requests.length process eventId)) s.requests.length
        process ↔
      (∀ id, named eventId = some id → live s.redis s.now (eventKey id) = none) ∧
        live s.redis s.now activeLockKey = none ∧ s.pulseLock process = none := by
  have hclient : (getPulseRedisClient (s.clients process) true).2 = true := by
    cases hc : s.clients process with
    | disabled => exact (client hc).elim
    | _ => rfl
  have hfinal : (pulses config).final s (served s.requests.length process eventId) =
      (pulses config).final (s.next config (.arrive process eventId true))
        [.execute s.requests.length .setEvent, .answer s.requests.length,
          .execute s.requests.length .setActive, .answer s.requests.length,
          .start s.requests.length] := rfl
  have hlast : (s.next config (.arrive process eventId true)).requests[s.requests.length]? =
      some (arrival config process eventId true) := by
    simp [PulseWorld.next, hclient]
  rw [hfinal]
  have hattempt : arrival config process eventId true =
      (newRequest process eventId).attempt 0 := rfl
  rw [hattempt, PulseRequest.attempt, newRequest_event?] at hlast
  cases hid : named eventId with
  | some id =>
    rw [hid] at hlast
    refine (event_served hlast rfl rfl hid).trans ?_
    simp [PulseWorld.next]
  | none =>
    rw [hid] at hlast
    have hanswered : answered ((newRequest process eventId).goTo (.setsActive 0)) =
        (newRequest process eventId).goTo (.setsActive 0) := rfl
    have hskip : (pulses config).final (s.next config (.arrive process eventId true))
        [.execute s.requests.length .setEvent, .answer s.requests.length,
          .execute s.requests.length .setActive, .answer s.requests.length,
          .start s.requests.length] =
        (pulses config).final (s.next config (.arrive process eventId true))
          [.execute s.requests.length .setActive, .answer s.requests.length,
            .start s.requests.length] := by
      simp only [final_cons, final_nil, pulses]
      rw [next_unsent hlast (by simp [Phase.command]), next_answer hlast, hanswered, put_self hlast]
    rw [hskip]
    refine (active_served hlast rfl (by simp [Phase.command])).trans ?_
    simp [PulseWorld.next]

theorem within_next (e : PulseEvent) (h : Within s.redis s.now config.activeLockTtl activeLockKey) :
    Within (s.next config e).redis (s.next config e).now config.activeLockTtl activeLockKey := by
  have hown : ∀ s', OwnStep s s' → Within s'.redis s'.now config.activeLockTtl activeLockKey := by
    intro s' step
    rw [step.redis, step.now]
    exact h
  cases e with
  | tick d => exact h.later d
  | arrive process eventId reachable => exact h
  | execute w c =>
    simp only [PulseWorld.next]
    split
    case h_1 r hr =>
      split
      case isFalse => exact h
      case isTrue =>
        cases c with
        | setEvent =>
          simp only [PulseWorld.execute]
          split
          case h_1 id _ =>
            intro e he
            exact h e ((setNx_other (activeLockKey_ne id)).symm.trans he)
          case h_2 => exact h
        | setActive => exact h.setNx
        | getActive => exact h
        | deleteActive => exact h.delete
    case h_2 => exact h
  | _ => exact hown _ (own_step _ (by simp) (by simp) (by simp))

theorem Won.free_iff (h : Won config s) (id : String) (now : ℕ) :
    live s.redis now (eventKey id) = none ↔
      ∀ e ∈ s.eventsWon, e.eventId = id → e.time + config.eventDedupTtl ≤ now := by
  rw [live_eq_none]
  constructor
  · rintro hfree e he rfl
    obtain ⟨entry, hentry, hle⟩ := h.stored e he
    exact Nat.le_trans hle (hfree entry hentry)
  · intro hfree entry hentry
    obtain ⟨e, he, heid, hd⟩ := h.entries id entry hentry
    rw [hd]
    exact hfree e he heid

/-- Whatever has happened, a request that is answered at once after a wait runs its pulse exactly
where its event's key was last written its life ago, the active key is free, as it is in any case
after its own life, and the process runs no pulse. -/
theorem pulse_served (config : PulseConfig) (es : List PulseEvent) (d process : ℕ)
    (eventId : Option String)
    (client : ((pulses config).final idle es).clients process ≠ .disabled) :
    let s := (pulses config).final idle es
    RunsIn ((pulses config).final s (.tick d :: served s.requests.length process eventId))
        s.requests.length process ↔
      (∀ e ∈ s.eventsWon, named eventId = some e.eventId →
        e.time + config.eventDedupTtl ≤ s.now + d) ∧
      (d < config.activeLockTtl → live s.redis (s.now + d) activeLockKey = none) ∧
      s.pulseLock process = none := by
  intro s
  have hwon : Won config s := ((throughout_of_keep (fun _ e h => won_next e h) (won_idle config) :
    (pulses config).Throughout (Won config) idle es)).last
  have hwithin : Within s.redis s.now config.activeLockTtl activeLockKey :=
    ((throughout_of_keep (fun _ e h => within_next e h) (by simp [Within, idle]) :
      (pulses config).Throughout
        (fun s => Within s.redis s.now config.activeLockTtl activeLockKey) idle es)).last
  have hactive : (d < config.activeLockTtl → live s.redis (s.now + d) activeLockKey = none) ↔
      live s.redis (s.now + d) activeLockKey = none := by
    constructor
    · intro h
      by_cases hd : d < config.activeLockTtl
      · exact h hd
      · refine live_eq_none.mpr fun e he => ?_
        have := hwithin e he
        omega
    · exact fun h _ => h
  rw [hactive]
  refine (served_iff config { s with now := s.now + d } process eventId client).trans ?_
  refine and_congr_left fun _ => ⟨?_, ?_⟩
  · intro h e he heid
    exact (hwon.free_iff _ _).mp (h _ heid) e he rfl
  · intro h id hid
    refine (hwon.free_iff _ _).mpr fun e he heid => h e he ?_
    rw [hid, heid]

end

def stoppedPulse : List PulseEvent := served 0 0 (some "minute-1") ++ [.crash 0]

/-- A process that stops in its pulse holds up the next one for the life of the lock. -/
theorem stopped_recovers :
    let s := (pulses deployed).final idle stoppedPulse
    (¬ RunsIn ((pulses deployed).final s
        (.tick 60 :: served s.requests.length 0 (some "minute-2"))) s.requests.length 0) ∧
      RunsIn ((pulses deployed).final s
        (.tick 180 :: served s.requests.length 0 (some "minute-2"))) s.requests.length 0 := by
  refine ⟨fun h => ?_, ?_⟩
  · have hserved := (pulse_served deployed stoppedPulse 60 0 (some "minute-2")
      (by decide +kernel)).mp h
    exact absurd (hserved.2.1 (by decide)) (by decide +kernel)
  · exact (pulse_served deployed stoppedPulse 180 0 (some "minute-2") (by decide +kernel)).mpr
      (by decide +kernel)

end BankingService.PulseAdmissions
